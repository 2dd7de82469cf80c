import RtpPlayer.MediaCodec.OpusFraming
import RtpPlayer.MediaCodec.OpusLinkedFrames

/-! # What the Opus encoder frees

The heap is known up to the first frame; after it one stays linked.  Only where none is allocated
everything is freed. -/

namespace RtpPlayer

open Foundations HeapProgram

namespace OpusLifetime

open Cell (asContext asOpusContext asOpusEncoder asFrame)

variable {grants : Nat → Bool} {config : AudioEncConfig} {steps : Nat}

/-! ## Known heaps -/

/-- After `create_audio_encoder`. -/
def created (grants : Nat → Bool) : Heap Cell where
  cells := [some (.context { zeroContext with privCtx := some 1 }),
    some (.opusContext zeroOpusContext)]
  freed := []
  grants := grants
  requests := 2

/-- An initialised encoder that was refused memory for `frames` frames. -/
def ready (config : AudioEncConfig) (grants : Nat → Bool) (frames : Nat) : Heap Cell where
  cells := [
    some (.context { privCtx := some 1, config := config }),
    some (.opusContext {
      encoder := some 2
      dtxMode := 0
      frameSamples := config.frameSamples
      frames := none
      freeFrames := none
    }),
    some .opusEncoder]
  freed := []
  grants := grants
  requests := 3 + frames

theorem createAudioEncoder_created (outer : grants 0) (inner : grants 1) :
    (createAudioEncoder .opus).Runs (Heap.empty grants) (some 0) (created grants) := by
  simp [Runs, createAudioEncoder, opusEncCreate, Heap.empty, outer, inner, Heap.alloc, Heap.cell,
    Heap.write, created]

theorem audioEncInit_ready (valid : config.Valid) (encoder : grants 2) :
    (audioEncInit steps true (some config) (some 0)).Runs (created grants) 0
      (ready config grants 0) := by
  simp [Runs, audioEncInit, opusEncInit, opusEncoderCreate, construct, created, Heap.cell, valid,
    encoder, Heap.alloc, Heap.write, ready, AudioEncConfig.frameSamples]

theorem audioEncInit_invalid {opens : Bool} (invalid : ¬ config.Valid) :
    (audioEncInit steps opens (some config) (some 0)).Runs (created grants) (-1)
      (created grants) := by
  simp [Runs, audioEncInit, opusEncInit, audioEncLog, created, Heap.cell, invalid]

theorem audioEncDestroy_created : (audioEncDestroy steps (some 0)).Clean (created grants) := by
  have freed : [1, 0].Perm (List.range 2) := by decide
  refine ⟨{ created grants with cells := [none, none], freed := [1, 0] }, ?_,
    Heap.allFreed_of_perm freed⟩
  simp [Runs, audioEncDestroy, opusEncDestroy, audioEncLog, created, Heap.cell, zeroOpusContext,
    freeAudioFrames, Heap.release, Heap.write]

theorem audioEncDestroy_ready (frames : Nat) :
    (audioEncDestroy steps (some 0)).Clean (ready config grants frames) := by
  have freed : [2, 1, 0].Perm (List.range 3) := by decide
  refine ⟨{ ready config grants frames with cells := [none, none, none], freed := [2, 1, 0] }, ?_,
    Heap.allFreed_of_perm freed⟩
  simp [Runs, audioEncDestroy, opusEncDestroy, audioEncLog, ready, Heap.cell, freeAudioFrames,
    Heap.release, Heap.write]

/-! ## Encoding without an encoder -/

/-- Only a block of no bytes is not divided by the size of a sample. -/
theorem encode_unset_iff {heap after : Heap Cell} {privCtx : Option Nat}
    (unset : heap.cell 0 = some (.context ⟨privCtx, ⟨0, 0, 0⟩⟩)) (blocks : List AudioBlock) :
    (forEach (audioEncEncode steps · (some 0)) blocks).Runs heap () after ↔
      after = heap ∧ ∀ block ∈ blocks, block.data = [] := by
  refine forEach_runs_iff (fun block empty => ⟨-1, ?_⟩) (fun block bytes => ?_) blocks
  · simp [Runs, audioEncEncode, opusEncEncode, empty]
  · refine ⟨.divisionByZero, ?_⟩
    have positive := List.length_pos_of_ne_nil bytes
    simp [audioEncEncode, opusEncEncode, positive, unset, writeAudioFrame,
      AudioEncConfig.getSampleSize]

/-! ## An encoder that did not open -/

/-- `opus_enc_init` destroyed the Opus context. -/
structure Dangling (heap : Heap Cell) : Prop where
  context : heap.cell 0 = some (.context { zeroContext with privCtx := some 1 })
  destroyed : heap.cell 1 = none

theorem audioEncInit_dangling {opens : Bool} (valid : config.Valid)
    (failed : ¬ (opens ∧ grants 2)) : ∃ after,
    (audioEncInit steps opens (some config) (some 0)).Runs (created grants) (-1) after ∧
      Dangling after := by
  cases granted : grants 2 with
  | false =>
    refine ⟨{ created grants with
      cells := [some (.context { zeroContext with privCtx := some 1 }), none]
      freed := [1]
      requests := 3 }, ?_, rfl, rfl⟩
    simp [Runs, audioEncInit, opusEncInit, opusEncoderCreate, construct, opusEncDestroy,
      audioEncLog, created, Heap.cell, valid, granted, Heap.write, Heap.refuse, Heap.release,
      zeroOpusContext, freeAudioFrames]
  | true =>
    cases opens with
    | true => exact absurd ⟨rfl, granted⟩ failed
    | false =>
      refine ⟨{ created grants with
        cells := [some (.context { zeroContext with privCtx := some 1 }), none, none]
        freed := [2, 1]
        requests := 3 }, ?_, rfl, rfl⟩
      simp [Runs, audioEncInit, opusEncInit, opusEncoderCreate, construct, opusEncDestroy,
        audioEncLog, created, Heap.cell, valid, granted, Heap.write, Heap.alloc, Heap.release,
        zeroOpusContext, freeAudioFrames]

theorem Dangling.not_destroyed {heap : Heap Cell} (dangling : Dangling heap) :
    ¬ (audioEncDestroy steps (some 0)).Clean heap := by
  rintro ⟨after, runs, -⟩
  simp [Runs, audioEncDestroy, opusEncDestroy, audioEncLog, dangling.context,
    dangling.destroyed] at runs

/-! ## Encoding without memory for frames -/

/-- The block is of one sample or more. -/
def HoldsSample (config : AudioEncConfig) (block : AudioBlock) : Prop :=
  config.getSampleSize 1 ≤ block.data.length

instance (config : AudioEncConfig) (block : AudioBlock) : Decidable (HoldsSample config block) :=
  inferInstanceAs (Decidable (_ ≤ _))

theorem samplesLeft_pos_iff (valid : config.Valid) (block : AudioBlock) :
    0 < config.getSampleCount
      (block.data.length / config.getSampleSize 1 * config.getSampleSize 1) ↔
      HoldsSample config block := by
  have positive := valid.getSampleSize_pos
  rw [config.getSampleCount_eq_div, Nat.mul_div_cancel _ positive, Nat.div_pos_iff]
  exact ⟨fun both => both.2, fun holds => ⟨positive, holds⟩⟩

theorem lastFrame_none : lastFrame steps none = pure none := by
  cases steps <;> rfl

theorem getWritableFrame_refused {frames : Nat} (refused : grants (3 + frames) = false) :
    (getWritableFrame steps (some 0)).Runs (ready config grants frames) none
      (ready config grants (frames + 1)) := by
  simp [Runs, getWritableFrame, lastFrame_none, isWritable, takeFrame, ready, Heap.cell, refused,
    Heap.refuse, Nat.add_assoc]

theorem getWritableFrame_granted {frames : Nat} (granted : grants (3 + frames)) : ∃ after,
    (getWritableFrame steps (some 0)).Runs (ready config grants frames) (some 3) after ∧
      Loaded after := by
  refine ⟨{
    cells := [
      some (.context { privCtx := some 1, config := config }),
      some (.opusContext {
        encoder := some 2
        dtxMode := 0
        frameSamples := config.frameSamples
        frames := some 3
        freeFrames := none
      }),
      some .opusEncoder,
      some (.frame ⟨0, none⟩)]
    freed := []
    grants := grants
    requests := 3 + frames + 1
  }, ?_, ⟨config, rfl⟩, _, rfl, .inl (Option.some_ne_none 3)⟩
  simp [Runs, getWritableFrame, lastFrame_none, isWritable, takeFrame, linkFrame, ready, Heap.cell,
    granted, Heap.alloc, Heap.write]

theorem encodeFrames_ready (frames : Nat) :
    (encodeFrames (some 1) (steps + 1)).Runs (ready config grants frames) ()
      (ready config grants frames) := by
  simp [Runs, encodeFrames, ready, Heap.cell]

theorem loadContext_ready (frames : Nat) :
    (load asContext (some 0)).Runs (ready config grants frames)
      { privCtx := some 1, config := config } (ready config grants frames) := rfl

theorem writeAudioFrame_ready (valid : config.Valid) (frames : Nat) (block : AudioBlock) :
    (writeAudioFrame steps (some 0) block.data.length).run (ready config grants frames) =
      (writeSamples steps (some 0) (some 1) steps (config.getSampleCount
        (block.data.length / config.getSampleSize 1 * config.getSampleSize 1))).run
          (ready config grants frames) := by
  rw [writeAudioFrame, (loadContext_ready frames).run_bind]
  simp only [if_neg (Nat.ne_of_gt valid.getSampleSize_pos)]

theorem writeAudioFrame_short (valid : config.Valid) (frames : Nat) {block : AudioBlock}
    (short : ¬ HoldsSample config block) :
    (writeAudioFrame (steps + 1) (some 0) block.data.length).Runs (ready config grants frames) ()
      (ready config grants frames) := by
  rw [Runs, writeAudioFrame_ready valid, writeSamples,
    if_neg ((samplesLeft_pos_iff valid block).not.mpr short), run_pure]

theorem writeAudioFrame_refused (valid : config.Valid) {frames : Nat} {block : AudioBlock}
    (holds : HoldsSample config block) (refused : grants (3 + frames) = false) :
    (writeAudioFrame (steps + 1) (some 0) block.data.length).Runs (ready config grants frames) ()
      (ready config grants (frames + 1)) := by
  rw [Runs, writeAudioFrame_ready valid, writeSamples,
    if_pos ((samplesLeft_pos_iff valid block).mpr holds),
    (getWritableFrame_refused refused).run_bind]
  rfl

theorem writeAudioFrame_granted (valid : config.Valid) {frames : Nat} {block : AudioBlock}
    (holds : HoldsSample config block) (granted : grants (3 + frames)) :
    Ensures (· = ready config grants frames)
      (writeAudioFrame (steps + 1) (some 0) block.data.length) fun _ => Loaded := by
  obtain ⟨linked, taken, loaded⟩ := @getWritableFrame_granted _ config (steps + 1) _ granted
  rw [writeAudioFrame]
  refine (loadContext_ready frames).ensures_bind ?_
  simp only [if_neg (Nat.ne_of_gt valid.getSampleSize_pos)]
  rw [writeSamples, if_pos ((samplesLeft_pos_iff valid block).mpr holds)]
  refine taken.ensures_bind ?_
  refine Ensures.mono (?_ : Ensures Loaded _ fun _ => Loaded) (fun _ same => same ▸ loaded)
    fun _ _ still => still
  refine Ensures.bind Ensures.read fun opusCtx => Ensures.bind Ensures.read fun cell => ?_
  refine Ensures.ite (fun _ => ?_) fun _ => writeSamples_ensures _ _ _
  exact Ensures.bind Owned.storeFrame fun _ => writeSamples_ensures _ _ _

theorem HoldsSample.length_pos (valid : config.Valid) {block : AudioBlock}
    (holds : HoldsSample config block) : 0 < block.data.length :=
  Nat.lt_of_lt_of_le valid.getSampleSize_pos holds

theorem audioEncEncode_short (valid : config.Valid) (frames : Nat) {block : AudioBlock}
    (short : ¬ HoldsSample config block) : ∃ result,
    (audioEncEncode (steps + 1) block (some 0)).Runs (ready config grants frames) result
      (ready config grants frames) := by
  by_cases bytes : 0 < block.data.length
  case pos =>
    refine ⟨0, ?_⟩
    rw [audioEncEncode, opusEncEncode, if_pos bytes, (loadContext_ready frames).bind_iff,
      (writeAudioFrame_short valid frames short).bind_iff, (encodeFrames_ready frames).bind_iff]
    rfl
  case neg =>
    refine ⟨-1, ?_⟩
    rw [audioEncEncode, opusEncEncode, if_neg bytes]
    rfl

theorem audioEncEncode_refused (valid : config.Valid) {frames : Nat} {block : AudioBlock}
    (holds : HoldsSample config block) (refused : grants (3 + frames) = false) :
    (audioEncEncode (steps + 1) block (some 0)).Runs (ready config grants frames) 0
      (ready config grants (frames + 1)) := by
  rw [audioEncEncode, opusEncEncode, if_pos (holds.length_pos valid),
    (loadContext_ready frames).bind_iff, (writeAudioFrame_refused valid holds refused).bind_iff,
    (encodeFrames_ready (frames + 1)).bind_iff]
  rfl

theorem audioEncEncode_granted (valid : config.Valid) {frames : Nat} {block : AudioBlock}
    (holds : HoldsSample config block) (granted : grants (3 + frames)) :
    Ensures (· = ready config grants frames) (audioEncEncode (steps + 1) block (some 0))
      fun _ => Loaded := by
  rw [audioEncEncode, opusEncEncode, if_pos (holds.length_pos valid)]
  refine (loadContext_ready frames).ensures_bind ?_
  refine Ensures.bind (writeAudioFrame_granted valid holds granted) fun _ => ?_
  exact Ensures.bind (encodeFrames_ensures _) fun _ => Ensures.pure fun _ loaded => loaded

/-- No frame is allocated for any of the blocks. -/
def Refused (config : AudioEncConfig) (grants : Nat → Bool) (frames : Nat)
    (blocks : List AudioBlock) : Prop :=
  ∀ block < blocks.countP (HoldsSample config ·), grants (3 + (frames + block)) = false

theorem refused_cons_iff {frames : Nat} {block : AudioBlock} {blocks : List AudioBlock}
    (holds : HoldsSample config block) : Refused config grants frames (block :: blocks) ↔
      grants (3 + frames) = false ∧ Refused config grants (frames + 1) blocks := by
  have one_more : (block :: blocks).countP (HoldsSample config ·) =
      blocks.countP (HoldsSample config ·) + 1 := List.countP_cons_of_pos (by simpa using holds)
  have shifted : ∀ later, frames + 1 + later = frames + (later + 1) := by
    intro later
    omega
  rw [Refused, one_more, Refused]
  constructor
  case mp =>
    intro refused
    refine ⟨refused 0 (Nat.succ_pos _), fun later below => ?_⟩
    rw [shifted]
    exact refused (later + 1) (Nat.succ_lt_succ below)
  case mpr =>
    rintro ⟨now, refused⟩ (_ | later) below
    · exact now
    · rw [← shifted]
      exact refused later (Nat.lt_of_succ_lt_succ below)

theorem refused_cons_of_short {frames : Nat} {block : AudioBlock} {blocks : List AudioBlock}
    (short : ¬ HoldsSample config block) :
    Refused config grants frames (block :: blocks) ↔ Refused config grants frames blocks := by
  rw [Refused, List.countP_cons_of_neg (by simpa using short), Refused]

theorem encode_refused (valid : config.Valid) {frames : Nat} {blocks : List AudioBlock}
    (refused : Refused config grants frames blocks) : ∃ later,
    (forEach (audioEncEncode (steps + 1) · (some 0)) blocks).Runs (ready config grants frames) ()
      (ready config grants later) := by
  induction blocks generalizing frames with
  | nil => exact ⟨frames, rfl⟩
  | cons block blocks ih =>
    by_cases holds : HoldsSample config block
    case pos =>
      obtain ⟨now, rest⟩ := (refused_cons_iff holds).mp refused
      rw [forEach]
      simp only [(audioEncEncode_refused valid holds now).bind_iff]
      exact ih rest
    case neg =>
      obtain ⟨result, encoded⟩ := @audioEncEncode_short grants config steps valid frames _ holds
      rw [forEach]
      simp only [encoded.bind_iff]
      exact ih ((refused_cons_of_short holds).mp refused)

theorem encode_granted (valid : config.Valid) {frames : Nat} {blocks : List AudioBlock}
    (granted : ¬ Refused config grants frames blocks) :
    Ensures (· = ready config grants frames)
      (forEach (audioEncEncode (steps + 1) · (some 0)) blocks) fun _ => Loaded := by
  induction blocks generalizing frames with
  | nil => exact absurd (by simp [Refused]) granted
  | cons block blocks ih =>
    by_cases holds : HoldsSample config block
    case pos =>
      rw [refused_cons_iff holds] at granted
      cases now : grants (3 + frames) with
      | true =>
        exact Ensures.bind (audioEncEncode_granted valid holds now) fun _ =>
          Ensures.forEach (audioEncEncode_ensures _) blocks
      | false =>
        exact (audioEncEncode_refused valid holds now).ensures_bind
          (ih fun rest => granted ⟨now, rest⟩)
    case neg =>
      obtain ⟨result, encoded⟩ := @audioEncEncode_short grants config steps valid frames _ holds
      rw [refused_cons_of_short holds] at granted
      exact encoded.ensures_bind (ih granted)

/-! ## Lifetimes -/

variable {opens : Bool} {blocks : List AudioBlock}

theorem encodeAndDestroy_ready_iff (valid : config.Valid) :
    (encodeAndDestroy (steps + 1) blocks (some 0)).Clean (ready config grants 0) ↔
      Refused config grants 0 blocks := by
  constructor
  case mp =>
    intro clean
    by_contra granted
    refine Ensures.not_clean (Ensures.bind (encode_granted valid granted) fun _ => ?_) rfl
      clean
    exact Ensures.through (fun _ _ => False) (opusEncDestroy_ensures _) fun _ _ absurd =>
      absurd.elim
  case mpr =>
    intro refused
    obtain ⟨later, encoded⟩ := @encode_refused _ _ steps valid _ _ refused
    exact encoded.clean_iff.mpr (audioEncDestroy_ready later)

theorem encodeAndDestroy_created_iff :
    (encodeAndDestroy steps blocks (some 0)).Clean (created grants) ↔
      ∀ block ∈ blocks, block.data = [] := by
  have unset : (created grants).cell 0 = some (.context ⟨some 1, ⟨0, 0, 0⟩⟩) := rfl
  constructor
  case mp =>
    rintro ⟨after, runs, -⟩
    obtain ⟨_, middle, encoded, -⟩ := runs_bind_iff.mp runs
    exact ((encode_unset_iff unset blocks).mp encoded).2
  case mpr =>
    intro empty
    have encoded := (@encode_unset_iff steps _ _ _ unset blocks).mpr ⟨rfl, empty⟩
    exact encoded.clean_iff.mpr audioEncDestroy_created

theorem Dangling.not_clean {heap : Heap Cell} (dangling : Dangling heap) :
    ¬ (encodeAndDestroy steps blocks (some 0)).Clean heap := by
  rintro ⟨after, runs, all⟩
  obtain ⟨_, middle, encoded, destroyed⟩ := runs_bind_iff.mp runs
  obtain ⟨rfl, -⟩ := (encode_unset_iff dangling.context blocks).mp encoded
  exact dangling.not_destroyed ⟨after, destroyed, all⟩

/-- `opus_enc_init` succeeds and no frame is allocated, or it rejects the configuration and nothing
is encoded. -/
def AfterCreate (grants : Nat → Bool) (opens : Bool) (config : AudioEncConfig)
    (blocks : List AudioBlock) : Prop :=
  if config.Valid then opens ∧ grants 2 ∧ Refused config grants 0 blocks
  else ∀ block ∈ blocks, block.data = []

theorem init_clean_iff :
    (do
      let _ ← audioEncInit (steps + 1) opens (some config) (some 0)
      encodeAndDestroy (steps + 1) blocks (some 0)).Clean (created grants) ↔
      AfterCreate grants opens config blocks := by
  rw [AfterCreate]
  by_cases valid : config.Valid
  case pos =>
    rw [if_pos valid]
    by_cases opened : opens ∧ grants 2
    case pos =>
      obtain ⟨rfl, encoder⟩ := opened
      rw [(audioEncInit_ready valid encoder).clean_iff, encodeAndDestroy_ready_iff valid]
      exact ⟨fun refused => ⟨rfl, encoder, refused⟩, fun condition => condition.2.2⟩
    case neg =>
      obtain ⟨after, failed, dangling⟩ :=
        @audioEncInit_dangling grants config (steps + 1) opens valid opened
      rw [failed.clean_iff]
      exact iff_of_false dangling.not_clean fun condition => opened ⟨condition.1, condition.2.1⟩
  case neg =>
    rw [if_neg valid, (audioEncInit_invalid valid).clean_iff, encodeAndDestroy_created_iff]

/-- Without an encoder of the codec nothing is allocated; otherwise both contexts are allocated and
`AfterCreate` holds. -/
def Uneventful (codec : AudioCodecType) (grants : Nat → Bool) (opens : Bool)
    (config : Option AudioEncConfig) (blocks : List AudioBlock) : Prop :=
  codec = .opus → grants 0 ∧ grants 1 ∧ ∃ given ∈ config, AfterCreate grants opens given blocks

/-- The outer context is left where the Opus context cannot be allocated. -/
def leaked (grants : Nat → Bool) : Heap Cell where
  cells := [some (.context zeroContext)]
  freed := []
  grants := grants
  requests := 2

theorem createAudioEncoder_leaked (outer : grants 0) (inner : grants 1 = false) :
    (createAudioEncoder .opus).Runs (Heap.empty grants) none (leaked grants) := by
  simp [Runs, createAudioEncoder, opusEncCreate, Heap.empty, outer, inner, Heap.alloc, Heap.refuse,
    Heap.cell, Heap.write, leaked]

theorem init_none_clean_iff (given : Option AudioEncConfig) (heap : Heap Cell) :
    (do
      let _ ← audioEncInit steps opens given none
      encodeAndDestroy steps blocks none).Clean heap ↔ heap.AllFreed := by
  have rejected : (audioEncInit steps opens given none).Runs heap (-1) heap := rfl
  have rejects : ∀ block, ∃ result, (audioEncEncode steps block none).Runs heap result heap :=
    fun _ => ⟨-1, rfl⟩
  have encoded : (forEach (audioEncEncode steps · none) blocks).Runs heap () heap :=
    forEach_unchanged rejects blocks
  have destroyed : (audioEncDestroy steps none).Runs heap () heap := rfl
  rw [rejected.clean_iff, encodeAndDestroy, encoded.clean_iff, destroyed.clean_iff_allFreed]

theorem lifetime_clean_iff (codec : AudioCodecType) (grants : Nat → Bool) (opens : Bool)
    (config : Option AudioEncConfig) (blocks : List AudioBlock) (steps : Nat) :
    (lifetime codec opens config blocks (steps + 1)).Clean (Heap.empty grants) ↔
      Uneventful codec grants opens config blocks := by
  rw [lifetime, Uneventful]
  by_cases opus : codec = .opus
  case neg =>
    have absent : (createAudioEncoder codec).Runs (Heap.empty grants) none (Heap.empty grants) := by
      cases codec with
      | opus => exact absurd rfl opus
      | null => rfl
      | aac => rfl
    rw [absent.clean_iff, init_none_clean_iff]
    exact iff_of_true (fun address below => absurd below (Nat.not_lt_zero address))
      fun same => absurd same opus
  case pos =>
    rw [opus]
    simp only [true_implies]
    cases outer : grants 0 with
    | false =>
      -- `create_audio_encoder` clears what `malloc` returned without a check
      have faults : (createAudioEncoder .opus).run (Heap.empty grants) = .error .nullPointer := by
        simp [createAudioEncoder, Heap.empty, outer]
      exact iff_of_false (not_clean_of_fault faults) fun condition => by simp at condition
    | true =>
      cases inner : grants 1 with
      | false =>
        rw [(createAudioEncoder_leaked outer inner).clean_iff, init_none_clean_iff]
        -- the outer context stays behind when the inner one is refused
        have kept : ¬ (leaked grants).AllFreed :=
          @Heap.not_allFreed _ (leaked grants) 0 Nat.one_pos List.not_mem_nil
        exact iff_of_false kept fun condition => by simp at condition
      | true =>
        rw [(createAudioEncoder_created outer inner).clean_iff]
        cases config with
        | none =>
          have faults : (audioEncInit (steps + 1) opens none (some 0)).run (created grants) =
              .error .nullPointer := rfl
          exact iff_of_false (not_clean_of_fault faults) fun condition => by simp at condition
        | some given => simpa using init_clean_iff

theorem freesAll_iff (codec : AudioCodecType) (grants : Nat → Bool) (opens : Bool)
    (config : Option AudioEncConfig) (blocks : List AudioBlock) :
    FreesAll (lifetime codec opens config blocks) grants ↔
      Uneventful codec grants opens config blocks :=
  HeapProgram.freesAll_iff (lifetime_clean_iff codec grants opens config blocks)

end OpusLifetime

end RtpPlayer
