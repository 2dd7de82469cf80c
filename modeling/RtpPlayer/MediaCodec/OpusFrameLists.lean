import Mathlib.Data.List.Nodup
import Mathlib.Data.List.Range
import RtpPlayer.MediaCodec.OpusEnc

/-! # The lists of the Opus encoder

Every allocated frame is in the queue or in the free list, and in one place of one of them. -/

namespace RtpPlayer

open Foundations

namespace OpusEncContext

variable {ctx : OpusEncContext} {pending free : List Nat} {frame : Nat}

/-! ## The heap -/

section Heap

variable (ctx) (frame : Nat) (cell : AudioFrame)

@[simp] theorem cells_set_self : (ctx.set frame cell).cells frame = cell :=
  Function.update_self ..

theorem cells_set_of_ne {other : Nat} (ne : other ≠ frame) :
    (ctx.set frame cell).cells other = ctx.cells other := Function.update_of_ne ne ..

theorem next_set_of_ne {other : Nat} (ne : other ≠ frame) :
    (ctx.set frame cell).next other = ctx.next other := by
  rw [next, cells_set_of_ne _ _ _ ne]
  rfl

@[simp] theorem next_set_self : (ctx.set frame cell).next frame = cell.next := by simp [next]

@[simp] theorem config_set : (ctx.set frame cell).config = ctx.config := rfl

@[simp] theorem frameSamples_set : (ctx.set frame cell).frameSamples = ctx.frameSamples := rfl

@[simp] theorem frames_set : (ctx.set frame cell).frames = ctx.frames := rfl

@[simp] theorem freeFrames_set : (ctx.set frame cell).freeFrames = ctx.freeFrames := rfl

@[simp] theorem allocated_set : (ctx.set frame cell).allocated = ctx.allocated := rfl

@[simp] theorem encoder_set : (ctx.set frame cell).encoder = ctx.encoder := rfl

end Heap

/-! ## The two lists -/

/-- The queue, the free list, and every frame in one of them. -/
structure Lists (ctx : OpusEncContext) (pending free : List Nat) : Prop where
  frames : Chain ctx.next ctx.frames pending
  freeFrames : Chain ctx.next ctx.freeFrames free
  held : (pending ++ free).Perm (List.range ctx.allocated)

/-- The same while `frame` is in neither. -/
structure Loose (ctx : OpusEncContext) (pending : List Nat) (frame : Nat) (free : List Nat) :
    Prop where
  frames : Chain ctx.next ctx.frames pending
  freeFrames : Chain ctx.next ctx.freeFrames free
  held : (frame :: (pending ++ free)).Perm (List.range ctx.allocated)

theorem Lists.nodup (lists : ctx.Lists pending free) : (pending ++ free).Nodup :=
  lists.held.nodup_iff.mpr List.nodup_range

theorem Loose.nodup (loose : ctx.Loose pending frame free) :
    (frame :: (pending ++ free)).Nodup :=
  loose.held.nodup_iff.mpr List.nodup_range

theorem takeFrame_of_none (empty : ctx.freeFrames = none) :
    ctx.takeFrame = (ctx.allocated, { ctx with allocated := ctx.allocated + 1 }) := by
  rw [takeFrame, empty]

theorem takeFrame_of_some (first : ctx.freeFrames = some frame) :
    ctx.takeFrame = (frame, { ctx with freeFrames := ctx.next frame }) := by
  rw [takeFrame, first]

@[simp] theorem cells_takeFrame : ctx.takeFrame.2.cells = ctx.cells := by
  unfold takeFrame
  cases ctx.freeFrames <;> rfl

@[simp] theorem config_takeFrame : ctx.takeFrame.2.config = ctx.config := by
  unfold takeFrame
  cases ctx.freeFrames <;> rfl

@[simp] theorem frameSamples_takeFrame : ctx.takeFrame.2.frameSamples = ctx.frameSamples := by
  unfold takeFrame
  cases ctx.freeFrames <;> rfl

@[simp] theorem encoder_takeFrame : ctx.takeFrame.2.encoder = ctx.encoder := by
  unfold takeFrame
  cases ctx.freeFrames <;> rfl

@[simp] theorem sent_takeFrame : ctx.takeFrame.2.sent = ctx.sent := by
  unfold takeFrame
  cases ctx.freeFrames <;> rfl

/-- Free frames are used again before a new one is allocated. -/
theorem Lists.takeFrame (lists : ctx.Lists pending free) :
    ∃ free', ctx.takeFrame.2.Loose pending ctx.takeFrame.1 free' := by
  have starts := lists.freeFrames.start_eq_head?
  have held := lists.held
  cases free with
  | nil =>
    rw [takeFrame_of_none starts]
    refine ⟨[], lists.frames, lists.freeFrames, ?_⟩
    rw [List.range_succ]
    exact (held.cons _).trans (List.perm_append_singleton _ _).symm
  | cons first rest =>
    rw [takeFrame_of_some starts]
    exact ⟨rest, lists.frames, lists.freeFrames.tail, List.perm_middle.symm.trans held⟩

theorem linkFrame_of_empty {frameTail : Option Nat} (empty : ctx.frames = none ∨ frameTail = none) :
    ctx.linkFrame frameTail frame =
      { ctx.set frame { ctx.cells frame with samples := 0, ntp := -1, next := none } with
        frames := some frame } := by
  rcases empty with empty | rfl
  · simp [linkFrame, empty]
  · cases starts : ctx.frames <;> simp [linkFrame, starts]

theorem linkFrame_of_some {first : Nat} (starts : ctx.frames = some first) (tail : Nat) :
    ctx.linkFrame (some tail) frame =
      (ctx.set frame { ctx.cells frame with samples := 0, ntp := -1, next := none }).set tail
        { (ctx.set frame { ctx.cells frame with samples := 0, ntp := -1, next := none }).cells tail
          with next := some frame } := by
  simp [linkFrame, starts]

@[simp] theorem config_linkFrame (frameTail : Option Nat) :
    (ctx.linkFrame frameTail frame).config = ctx.config := by
  simp only [linkFrame]
  split <;> rfl

@[simp] theorem frameSamples_linkFrame (frameTail : Option Nat) :
    (ctx.linkFrame frameTail frame).frameSamples = ctx.frameSamples := by
  simp only [linkFrame]
  split <;> rfl

@[simp] theorem encoder_linkFrame (frameTail : Option Nat) :
    (ctx.linkFrame frameTail frame).encoder = ctx.encoder := by
  simp only [linkFrame]
  split <;> rfl

@[simp] theorem sent_linkFrame (frameTail : Option Nat) :
    (ctx.linkFrame frameTail frame).sent = ctx.sent := by
  simp only [linkFrame]
  split <;> rfl

/-- The queue ends with the new frame. -/
theorem Loose.linkFrame (loose : ctx.Loose pending frame free) :
    (ctx.linkFrame pending.getLast? frame).Lists (pending ++ [frame]) free := by
  have nodup := loose.nodup
  rw [List.nodup_cons, List.mem_append, not_or] at nodup
  obtain ⟨⟨notQueued, notFree⟩, nodup⟩ := nodup
  have starts := loose.frames.start_eq_head?
  have held : (pending ++ [frame] ++ free).Perm (List.range ctx.allocated) := by
    rw [List.append_assoc]
    exact List.perm_middle.trans loose.held
  rcases List.eq_nil_or_concat pending with rfl | ⟨front, last, rfl⟩
  · -- the queue was empty: the frame is the first
    rw [linkFrame_of_empty (.inl starts)]
    constructor
    case frames =>
      apply Chain.cons
      show Chain _ ((ctx.set frame _).next frame) []
      rw [next_set_self]
      exact .nil
    case freeFrames =>
      apply loose.freeFrames.congr
      intro node member
      exact next_set_of_ne _ _ _ (ne_of_mem_of_not_mem member notFree)
    case held => exact held
  · rw [List.concat_eq_append] at loose notQueued nodup held ⊢
    have ne : frame ≠ last := by
      intro same
      exact notQueued (by simp [same])
    -- only the links of the last frame and of the new one are written
    have before : ∀ node ∈ front, node ≠ last ∧ node ≠ frame := by
      intro node member
      have apart := List.disjoint_of_nodup_append (List.Nodup.of_append_left nodup)
      refine ⟨fun same => apart member (by simp [same]), ?_⟩
      rintro rfl
      exact notQueued (List.mem_append_left _ member)
    rw [List.getLast?_concat]
    have nonempty : ∃ first, ctx.frames = some first := by
      rw [loose.frames.start_eq_head?]
      cases front <;> exact ⟨_, rfl⟩
    obtain ⟨first, starts⟩ := nonempty
    rw [linkFrame_of_some starts]
    constructor
    case frames =>
      rw [List.append_assoc]
      apply loose.frames.concat
      · intro node member
        rw [next_set_of_ne _ _ _ (before node member).1,
          next_set_of_ne _ _ _ (before node member).2]
      · rw [next_set_self]
      · rw [next_set_of_ne _ _ _ ne, next_set_self]
    case freeFrames =>
      apply loose.freeFrames.congr
      intro node member
      have apart := List.disjoint_of_nodup_append nodup
      have notLast : node ≠ last := fun same => apart (by simp) (same ▸ member)
      rw [next_set_of_ne _ _ _ notLast,
        next_set_of_ne _ _ _ (ne_of_mem_of_not_mem member notFree)]
    case held => exact held

/-- Linking changes no samples but for making the frame empty. -/
theorem cells_linkFrame (ctx : OpusEncContext) (frame : Nat) (frameTail : Option Nat) (node : Nat) :
    ∃ link, (ctx.linkFrame frameTail frame).cells node =
      { (ctx.set frame { ctx.cells frame with samples := 0, ntp := -1, next := none }).cells node
        with next := link } := by
  cases starts : ctx.frames with
  | none =>
    rw [linkFrame_of_empty (.inl starts)]
    exact ⟨_, rfl⟩
  | some first =>
    cases frameTail with
    | none =>
      rw [linkFrame_of_empty (.inr rfl)]
      exact ⟨_, rfl⟩
    | some tail =>
      rw [linkFrame_of_some starts]
      by_cases same : node = tail
      · subst same
        exact ⟨some frame, cells_set_self ..⟩
      · exact ⟨_, cells_set_of_ne _ _ _ same⟩

theorem samples_linkFrame_of_ne (frameTail : Option Nat) {node : Nat} (ne : node ≠ frame) :
    ((ctx.linkFrame frameTail frame).cells node).samples = (ctx.cells node).samples := by
  obtain ⟨link, cell⟩ := cells_linkFrame ctx frame frameTail node
  rw [cell, cells_set_of_ne _ _ _ ne]

theorem samples_linkFrame_self (frameTail : Option Nat) :
    ((ctx.linkFrame frameTail frame).cells frame).samples = 0 := by
  obtain ⟨link, cell⟩ := cells_linkFrame ctx frame frameTail frame
  rw [cell, cells_set_self]

theorem pcm_linkFrame_of_ne (frameTail : Option Nat) {node : Nat} (ne : node ≠ frame) :
    (ctx.linkFrame frameTail frame).pcm node = ctx.pcm node := by
  obtain ⟨link, cell⟩ := cells_linkFrame ctx frame frameTail node
  rw [cells_set_of_ne _ _ _ ne] at cell
  unfold pcm
  rw [cell, config_linkFrame]

theorem pcm_linkFrame_self (frameTail : Option Nat) :
    (ctx.linkFrame frameTail frame).pcm frame = [] := by
  rw [pcm, samples_linkFrame_self, Nat.zero_mul, Memory.slice_zero]

/-- Shifting out the first frame of the queue puts it in front of the free ones. -/
theorem Lists.shift (lists : ctx.Lists (frame :: pending) free) :
    ({ ctx with frames := ctx.next frame }.releaseAudioFrame frame).Lists pending
      (frame :: free) := by
  have nodup := lists.nodup
  rw [List.cons_append, List.nodup_cons, List.mem_append, not_or] at nodup
  obtain ⟨⟨notQueued, notFree⟩, -⟩ := nodup
  constructor
  case frames =>
    apply lists.frames.tail.congr
    intro node member
    exact next_set_of_ne _ _ _ (ne_of_mem_of_not_mem member notQueued)
  case freeFrames =>
    apply Chain.cons
    show Chain _ ((ctx.set frame { ctx.cells frame with next := ctx.freeFrames }).next frame) free
    rw [next_set_self]
    apply lists.freeFrames.congr
    intro node member
    exact next_set_of_ne _ _ _ (ne_of_mem_of_not_mem member notFree)
  case held => exact List.perm_middle.trans lists.held

end OpusEncContext

end RtpPlayer
