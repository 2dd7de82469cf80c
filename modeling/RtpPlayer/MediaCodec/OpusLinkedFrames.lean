import RtpPlayer.MediaCodec.OpusLifetime

/-! # Frames that the Opus encoder linked

Once a frame is linked, in the queue or free, one stays linked, and the loops of `opus_enc_destroy`
read it after they freed it. -/

namespace RtpPlayer

open Foundations HeapProgram

namespace OpusLifetime

open Cell (asContext asOpusContext asFrame)

/-! ## A linked frame -/

/-- The contexts are where they were created. -/
structure Owned (holds : OpusContext → Prop) (heap : Heap Cell) : Prop where
  context : ∃ config, heap.cell 0 = some (.context ⟨some 1, config⟩)
  opusContext : ∃ opusCtx, heap.cell 1 = some (.opusContext opusCtx) ∧ holds opusCtx

/-- A frame is in the queue or free. -/
def OpusContext.HasFrame (opusCtx : OpusContext) : Prop :=
  opusCtx.frames ≠ none ∨ opusCtx.freeFrames ≠ none

namespace Owned

variable {holds holds' : OpusContext → Prop} {heap : Heap Cell}

theorem mono (owned : Owned holds heap) (implies : ∀ opusCtx, holds opusCtx → holds' opusCtx) :
    Owned holds' heap := by
  obtain ⟨context, opusCtx, at_one, met⟩ := owned
  exact ⟨context, opusCtx, at_one, implies opusCtx met⟩

theorem refuse (owned : Owned holds heap) : Owned holds heap.refuse := by
  obtain ⟨context, opusContext⟩ := owned
  exact ⟨context, opusContext⟩

theorem alloc (owned : Owned holds heap) (cell : Cell) : Owned holds (heap.alloc cell) := by
  obtain ⟨⟨config, at_zero⟩, opusCtx, at_one, met⟩ := owned
  exact ⟨⟨config, heap.cell_alloc at_zero cell⟩, opusCtx, heap.cell_alloc at_one cell, met⟩

theorem writeFrame (owned : Owned holds heap) {address : Nat} {old : Frame}
    (live : heap.cell address = some (.frame old)) (frame : Frame) :
    Owned holds (heap.write address (some (.frame frame))) := by
  obtain ⟨⟨config, at_zero⟩, opusCtx, at_one, met⟩ := owned
  have not_zero : address ≠ 0 := by
    rintro rfl
    rw [at_zero] at live
    cases live
  have not_one : address ≠ 1 := by
    rintro rfl
    rw [at_one] at live
    cases live
  refine ⟨⟨config, ?_⟩, opusCtx, ?_, met⟩
  · rw [heap.cell_write_of_ne not_zero, at_zero]
  · rw [heap.cell_write_of_ne not_one, at_one]

theorem writeOpusContext (owned : Owned holds heap) {opusCtx : OpusContext}
    (met : holds' opusCtx) : Owned holds' (heap.write 1 (some (.opusContext opusCtx))) := by
  obtain ⟨⟨config, at_zero⟩, old, at_one, -⟩ := owned
  refine ⟨⟨config, ?_⟩, opusCtx, heap.cell_write at_one _, met⟩
  rw [heap.cell_write_of_ne (by decide), at_zero]

theorem loadContext : Ensures (Owned holds) (load asContext (some 0))
    fun context heap => context.privCtx = some 1 ∧ Owned holds heap := by
  refine Ensures.load fun heap address cell seen owned pointer live viewed => ⟨?_, owned⟩
  obtain ⟨⟨config, at_zero⟩, -⟩ := owned
  cases pointer
  rw [at_zero] at live
  cases live
  cases viewed
  rfl

theorem loadOpusContext : Ensures (Owned holds) (load asOpusContext (some 1))
    fun opusCtx heap => holds opusCtx ∧ Owned (· = opusCtx) heap := by
  refine Ensures.load fun heap address cell seen owned pointer live viewed => ?_
  obtain ⟨context, opusCtx, at_one, met⟩ := owned
  cases pointer
  rw [at_one] at live
  cases live
  cases viewed
  exact ⟨met, context, _, at_one, rfl⟩

theorem storeOpusContext {opusCtx : OpusContext} (met : holds' opusCtx) :
    Ensures (Owned holds) (store asOpusContext (.opusContext opusCtx) (some 1))
      fun _ => Owned holds' := by
  refine Ensures.store fun heap address old seen owned pointer live viewed => ?_
  cases pointer
  exact owned.writeOpusContext met

theorem storeAny {opusCtx : OpusContext} :
    Ensures (Owned holds) (store asOpusContext (.opusContext opusCtx) (some 1))
      fun _ => Owned fun _ => True :=
  storeOpusContext trivial

theorem storeFrame {frame : Frame} {pointer : Option Nat} :
    Ensures (Owned holds) (store asFrame (.frame frame) pointer) fun _ => Owned holds := by
  refine Ensures.store fun heap address old seen owned found live viewed => ?_
  cases old <;> cases viewed
  exact owned.writeFrame live frame

end Owned

/-- A frame is linked, in the queue or free. -/
abbrev Loaded : Heap Cell → Prop := Owned OpusContext.HasFrame

theorem lastFrame_ensures {pre : Heap Cell → Prop} (steps : Nat) (frames : Option Nat) :
    Ensures pre (lastFrame steps frames) fun _ => pre := by
  induction steps generalizing frames with
  | zero =>
    cases frames with
    | none => exact Ensures.pure fun _ met => met
    | some frame => exact Ensures.fault
  | succ steps ih =>
    cases frames with
    | none => exact Ensures.pure fun _ met => met
    | some frame =>
      refine Ensures.bind Ensures.read fun cell => ?_
      cases cell.next with
      | none => exact Ensures.pure fun _ met => met
      | some next => exact ih (some next)

theorem isWritable_ensures {pre : Heap Cell → Prop} (frameSamples : Nat)
    (frameTail : Option Nat) : Ensures pre (isWritable frameSamples frameTail) fun _ => pre := by
  cases frameTail with
  | none => exact Ensures.pure fun _ met => met
  | some frame => exact Ensures.bind Ensures.read fun tail => Ensures.pure fun _ met => met

/-- The frame may be the last that was linked. -/
theorem takeFrame_ensures : Ensures Loaded (takeFrame (some 1))
    fun frame heap => Owned (fun _ => True) heap ∧ (frame = none → Loaded heap) := by
  refine Ensures.bind Owned.loadOpusContext fun opusCtx => Ensures.assuming fun has => ?_
  cases opusCtx.freeFrames with
  | none =>
    refine Ensures.malloc (fun heap owned => ?_) (fun heap owned => ?_)
    · refine ⟨(owned.mono fun _ _ => trivial).alloc _, fun absent => ?_⟩
      cases absent
    · have loaded : Loaded heap := owned.mono fun _ same => same ▸ has
      exact ⟨(owned.mono fun _ _ => trivial).refuse, fun _ => loaded.refuse⟩
  | some frame =>
    refine Ensures.bind Ensures.read fun taken => ?_
    refine Ensures.bind Owned.storeAny fun _ => ?_
    refine Ensures.pure fun heap owned => ⟨owned, fun absent => ?_⟩
    cases absent

theorem linkFrame_ensures (frameTail : Option Nat) (frame : Nat) :
    Ensures (Owned fun _ => True) (linkFrame (some 1) frameTail frame) fun _ => Loaded := by
  refine Ensures.bind Owned.storeFrame fun _ => ?_
  refine Ensures.bind Owned.loadOpusContext fun opusCtx => Ensures.assuming fun _ => ?_
  cases frames : opusCtx.frames with
  | none => exact Owned.storeOpusContext (.inl (Option.some_ne_none frame))
  | some first =>
    refine Ensures.bind Ensures.read fun tail => ?_
    refine Owned.storeFrame.mono (fun _ owned => owned) fun _ heap owned => ?_
    refine owned.mono fun _ same => .inl ?_
    rw [same, frames]
    exact Option.some_ne_none first

theorem getWritableFrame_ensures (steps : Nat) :
    Ensures Loaded (getWritableFrame steps (some 0)) fun _ => Loaded := by
  refine Ensures.bind Owned.loadContext fun context => Ensures.assuming fun privCtx => ?_
  rw [privCtx]
  refine Ensures.bind Owned.loadOpusContext fun opusCtx => Ensures.assuming fun has => ?_
  refine Ensures.bind (lastFrame_ensures steps opusCtx.frames) fun frameTail => ?_
  refine Ensures.bind (isWritable_ensures opusCtx.frameSamples frameTail) fun writable => ?_
  have loads : ∀ heap, Owned (· = opusCtx) heap → Loaded heap :=
    fun heap owned => owned.mono fun _ same => same ▸ has
  refine Ensures.ite (fun _ => Ensures.pure loads) fun _ => ?_
  refine Ensures.bind (takeFrame_ensures.mono loads fun _ _ met => met) fun frame => ?_
  cases frame with
  | none => exact Ensures.pure fun heap met => met.2 rfl
  | some frame =>
    refine Ensures.through (fun _ => Loaded) ?_ fun _ => Ensures.pure fun _ loaded => loaded
    exact (linkFrame_ensures frameTail frame).mono (fun _ met => met.1) fun _ _ loaded => loaded

theorem writeSamples_ensures (steps fuel samplesLeft : Nat) :
    Ensures Loaded (writeSamples steps (some 0) (some 1) fuel samplesLeft) fun _ => Loaded := by
  induction fuel generalizing samplesLeft with
  | zero => exact Ensures.fault
  | succ fuel ih =>
    refine Ensures.ite (fun _ => ?_) fun _ => Ensures.pure fun _ loaded => loaded
    refine Ensures.bind (getWritableFrame_ensures steps) fun frame => ?_
    cases frame with
    | none => exact Ensures.pure fun _ loaded => loaded
    | some frame =>
      refine Ensures.bind Ensures.read fun opusCtx => Ensures.bind Ensures.read fun cell => ?_
      refine Ensures.ite (fun _ => ?_) fun _ => ih samplesLeft
      exact Ensures.bind Owned.storeFrame fun _ => ih _

theorem writeAudioFrame_ensures (steps len : Nat) :
    Ensures Loaded (writeAudioFrame steps (some 0) len) fun _ => Loaded := by
  refine Ensures.bind Owned.loadContext fun context => Ensures.assuming fun privCtx => ?_
  rw [privCtx]
  exact Ensures.ite (fun _ => Ensures.fault) fun _ => writeSamples_ensures steps steps _

theorem shiftFrame_ensures (frame : Nat) :
    Ensures Loaded (shiftFrame (some 1) frame) fun _ => Loaded := by
  refine Ensures.bind Ensures.read fun opusCtx => Ensures.bind Ensures.read fun cell => ?_
  refine Ensures.bind Owned.storeAny fun _ => ?_
  refine Ensures.bind Owned.storeFrame fun _ => ?_
  exact Owned.storeOpusContext (.inr (Option.some_ne_none frame))

theorem encodeFrames_ensures (steps : Nat) :
    Ensures Loaded (encodeFrames (some 1) steps) fun _ => Loaded := by
  induction steps with
  | zero => exact Ensures.fault
  | succ steps ih =>
    refine Ensures.bind Ensures.read fun opusCtx => ?_
    cases opusCtx.frames with
    | none => exact Ensures.pure fun _ loaded => loaded
    | some frame =>
      refine Ensures.bind Ensures.read fun cell => ?_
      refine Ensures.ite (fun _ => ?_) fun _ => Ensures.pure fun _ loaded => loaded
      refine Ensures.bind Ensures.read fun _ => ?_
      exact Ensures.bind (shiftFrame_ensures frame) fun _ => ih

theorem audioEncEncode_ensures (steps : Nat) (block : AudioBlock) :
    Ensures Loaded (audioEncEncode steps block (some 0)) fun _ => Loaded := by
  refine Ensures.ite (fun _ => ?_) fun _ => Ensures.pure fun _ loaded => loaded
  refine Ensures.bind Owned.loadContext fun context => Ensures.assuming fun privCtx => ?_
  rw [privCtx]
  refine Ensures.bind (writeAudioFrame_ensures steps _) fun _ => ?_
  exact Ensures.bind (encodeFrames_ensures steps) fun _ => Ensures.pure fun _ loaded => loaded

/-! ## Freed frames are read -/

theorem freeAudioFrames_ensures {pre : Heap Cell → Prop} (steps frame : Nat) :
    Ensures pre (freeAudioFrames steps (some frame)) fun _ _ => False := by
  cases steps with
  | zero => exact Ensures.fault
  | succ steps =>
    refine Ensures.through (fun _ heap => heap.cell frame = none) ?_ fun _ => ?_
    · refine Ensures.free (fun heap address old _ pointer live => ?_) fun _ _ null => ?_
      · cases pointer
        exact heap.cell_release frame
      · cases null
    · refine Ensures.through (fun _ _ => False) ?_ fun _ _ absurd => absurd.elim
      refine Ensures.load fun heap address cell seen dead pointer live _ => ?_
      cases pointer
      rw [dead] at live
      cases live

/-- The context of the queue, where it did not go with the library encoder. -/
def Kept (opusCtx : OpusContext) (heap : Heap Cell) : Prop :=
  heap.cell 1 = none ∨ heap.cell 1 = some (.opusContext opusCtx)

theorem opusEncDestroy_ensures (steps : Nat) :
    Ensures Loaded (opusEncDestroy steps (some 0)) fun _ _ => False := by
  refine Ensures.through (fun _ => Loaded)
    (Ensures.bind Ensures.read fun _ => Ensures.pure fun _ loaded => loaded) fun _ => ?_
  refine Ensures.bind Owned.loadContext fun context => Ensures.assuming fun privCtx => ?_
  rw [privCtx]
  refine Ensures.bind Owned.loadOpusContext fun opusCtx => Ensures.assuming fun has => ?_
  refine Ensures.through (fun _ => Kept opusCtx) ?_ fun _ => ?_
  · refine Ensures.free (fun heap address old owned _ _ => ?_) fun heap owned _ => ?_
    all_goals obtain ⟨-, _, at_one, rfl⟩ := owned
    · rw [Kept, ← at_one]
      exact heap.cell_release_or address 1
    · exact .inr at_one
  · cases frames : opusCtx.frames with
    | some frame =>
      exact Ensures.bind (freeAudioFrames_ensures steps frame) fun _ _ absurd => absurd.elim
    | none =>
      have queue_empty : freeAudioFrames steps none = pure () := by cases steps <;> rfl
      rw [queue_empty]
      refine Ensures.through (fun _ => Kept opusCtx) (Ensures.pure fun _ kept => kept) fun _ => ?_
      refine Ensures.through (fun again _ => again = opusCtx ∧ True) ?_ fun again => ?_
      · refine Ensures.load fun heap address cell seen kept pointer live viewed => ?_
        cases pointer
        rcases kept with gone | at_one
        · rw [gone] at live
          cases live
        · rw [at_one] at live
          cases live
          exact ⟨(Option.some.inj viewed).symm, trivial⟩
      · obtain ⟨frame, free⟩ := Option.ne_none_iff_exists'.mp (has.resolve_left (· frames))
        refine Ensures.assuming fun same => ?_
        rw [same, free]
        exact Ensures.bind (freeAudioFrames_ensures steps frame) fun _ _ absurd => absurd.elim

end OpusLifetime

end RtpPlayer
