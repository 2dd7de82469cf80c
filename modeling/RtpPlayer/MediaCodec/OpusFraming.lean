import Mathlib.Tactic.Ring
import RtpPlayer.MediaCodec.OpusFrameLists

/-! # The framing of the Opus encoder

In the queue all frames but the last are full, so what was encoded and what is queued are the
samples of the calls, in order. -/

namespace RtpPlayer

open Foundations

namespace AudioEncConfig

def frameSamples (config : AudioEncConfig) : Nat := config.sampleRate / 1000 * opusPacketDuration

/-- The data cut down to whole samples. -/
def wholeSamples (config : AudioEncConfig) (data : List UInt8) : List UInt8 :=
  data.take (data.length / config.getSampleSize 1 * config.getSampleSize 1)

theorem getSampleSize_eq_mul (config : AudioEncConfig) (samples : Nat) :
    config.getSampleSize samples = samples * config.getSampleSize 1 := by
  unfold getSampleSize
  ring

theorem getSampleCount_eq_div (config : AudioEncConfig) (length : Nat) :
    config.getSampleCount length = length / config.getSampleSize 1 := by
  rw [getSampleCount, getSampleSize, Nat.mul_one, Nat.div_div_eq_div_mul]

namespace Valid

variable {config : AudioEncConfig}

theorem getSampleSize_pos (valid : config.Valid) : 0 < config.getSampleSize 1 := by
  obtain ⟨bits, channels, -⟩ := valid
  rcases channels with channels | channels <;> simp [getSampleSize, bits, channels, opusSampleBits]

theorem frameSamples_pos (valid : config.Valid) : 0 < config.frameSamples := by
  obtain ⟨-, -, rate⟩ := valid
  simp only [List.mem_cons, List.not_mem_nil, or_false] at rate
  rcases rate with rate | rate | rate | rate | rate <;>
    simp [frameSamples, rate, opusPacketDuration]

theorem sampleRate_eq (valid : config.Valid) :
    config.sampleRate / 1000 * 1000 = config.sampleRate := by
  obtain ⟨-, -, rate⟩ := valid
  simp only [List.mem_cons, List.not_mem_nil, or_false] at rate
  omega

theorem kilohertz_pos (valid : config.Valid) : 0 < config.sampleRate / 1000 := by
  obtain ⟨-, -, rate⟩ := valid
  simp only [List.mem_cons, List.not_mem_nil, or_false] at rate
  omega

end Valid

end AudioEncConfig

namespace OpusEncContext

/-- The context holds and has encoded `input`: `full` are the full frames of the queue, and `part`
is the one that is being filled, if any. -/
structure Framed (config : AudioEncConfig) (input : List UInt8) (ctx : OpusEncContext)
    (full part free : List Nat) : Prop where
  configured : ctx.config = config
  frameSamples : ctx.frameSamples = config.frameSamples
  lists : ctx.Lists (full ++ part) free
  filled : ∀ node ∈ full, (ctx.cells node).samples = config.frameSamples
  single : part.length ≤ 1
  unfilled : ∀ node ∈ part, (ctx.cells node).samples < config.frameSamples
  blocks : ∀ block ∈ ctx.encoder, block.length = config.getSampleSize config.frameSamples
  stream : ctx.encoder.flatten ++ (full ++ part).flatMap ctx.pcm = input

variable {config : AudioEncConfig} {input : List UInt8} {ctx : OpusEncContext}
  {full part free : List Nat}

theorem pcm_length (ctx : OpusEncContext) (node : Nat) :
    (ctx.pcm node).length = ctx.config.getSampleSize (ctx.cells node).samples := by
  rw [pcm, Memory.slice_length, ← AudioEncConfig.getSampleSize_eq_mul]

/-! ## Writing -/

theorem getWritableFrame_of_part {steps frame : Nat}
    (framed : Framed config input ctx full [frame] free)
    (enough : (full ++ [frame]).length < steps) :
    ctx.getWritableFrame steps = some (frame, ctx) := by
  have room := framed.unfilled frame (List.mem_singleton_self frame)
  rw [← framed.frameSamples] at room
  rw [getWritableFrame, framed.lists.frames.lastNode_eq enough, List.getLast?_concat]
  simp [Option.filter, room]

theorem getWritableFrame_of_full {steps : Nat} (framed : Framed config input ctx full [] free)
    (enough : full.length < steps) :
    ctx.getWritableFrame steps =
      some (ctx.takeFrame.1, ctx.takeFrame.2.linkFrame full.getLast? ctx.takeFrame.1) := by
  have chain := framed.lists.frames
  rw [List.append_nil] at chain
  have noRoom : full.getLast?.filter (fun tail => (ctx.cells tail).samples < ctx.frameSamples) =
      none := by
    rw [Option.filter_eq_none_iff]
    intro last ends
    have filled := framed.filled last (List.mem_of_getLast? ends)
    simp [filled, framed.frameSamples]
  rw [getWritableFrame, chain.lastNode_eq enough]
  simp [noRoom]

theorem framed_of_full (framed : Framed config input ctx full [] free)
    (positive : 0 < config.frameSamples) :
    ∃ free', Framed config input (ctx.takeFrame.2.linkFrame full.getLast? ctx.takeFrame.1) full
      [ctx.takeFrame.1] free' := by
  obtain ⟨free', loose⟩ := framed.lists.takeFrame
  rw [List.append_nil] at loose
  -- so that the new frame takes no sample of the queue along
  have notQueued : ∀ node ∈ full, node ≠ ctx.takeFrame.1 := by
    intro node member same
    have apart := (List.nodup_cons.mp loose.nodup).1
    exact apart (List.mem_append_left _ (same ▸ member))
  refine ⟨free', ?_⟩
  constructor
  case configured => simp [framed.configured]
  case frameSamples => simp [framed.frameSamples]
  case lists => exact loose.linkFrame
  case filled =>
    intro node member
    rw [samples_linkFrame_of_ne _ (notQueued node member), cells_takeFrame]
    exact framed.filled node member
  case single => exact Nat.le_refl _
  case unfilled =>
    intro node member
    rw [List.mem_singleton.mp member, samples_linkFrame_self]
    exact positive
  case blocks => simpa using framed.blocks
  case stream =>
    have unchanged : full.flatMap
        (ctx.takeFrame.2.linkFrame full.getLast? ctx.takeFrame.1).pcm = full.flatMap ctx.pcm := by
      apply List.flatMap_congr
      intro node member
      rw [pcm_linkFrame_of_ne _ (notQueued node member)]
      simp [pcm]
    rw [List.flatMap_append, unchanged, List.flatMap_singleton, pcm_linkFrame_self]
    simpa using framed.stream

/-- The frame to write in is the last of the queue, and not full. -/
theorem getWritableFrame_framed {steps : Nat} (framed : Framed config input ctx full part free)
    (positive : 0 < config.frameSamples) (enough : (full ++ part).length < steps) :
    ∃ frame ctx' free', ctx.getWritableFrame steps = some (frame, ctx') ∧
      Framed config input ctx' full [frame] free' := by
  cases part with
  | nil =>
    rw [List.append_nil] at enough
    obtain ⟨free', framed'⟩ := framed_of_full framed positive
    exact ⟨_, _, free', getWritableFrame_of_full framed enough, framed'⟩
  | cons frame rest =>
    have alone : rest = [] := by
      have single := framed.single
      rw [List.length_cons] at single
      exact List.eq_nil_of_length_eq_zero (by omega)
    subst alone
    exact ⟨frame, ctx, free, getWritableFrame_of_part framed enough, framed⟩

section Fill

variable (ctx) (frame offset cpySamples : Nat) (samples : List UInt8)
  (firstSampleNtp opaqueData : Int)

theorem cells_fillFrame_of_ne {node : Nat} (ne : node ≠ frame) :
    (ctx.fillFrame frame offset cpySamples samples firstSampleNtp opaqueData).cells node =
      ctx.cells node :=
  cells_set_of_ne _ _ _ ne

theorem samples_fillFrame_self :
    ((ctx.fillFrame frame offset cpySamples samples firstSampleNtp
        opaqueData).cells frame).samples =
      (ctx.cells frame).samples + cpySamples := by
  rw [fillFrame, cells_set_self]
  dsimp only
  split <;> rfl

theorem frame_fillFrame_self :
    ((ctx.fillFrame frame offset cpySamples samples firstSampleNtp opaqueData).cells frame).frame =
      (ctx.cells frame).frame.write
        ((ctx.cells frame).samples * ctx.config.getSampleSize 1) samples := by
  rw [fillFrame, cells_set_self]

theorem next_fillFrame (node : Nat) :
    (ctx.fillFrame frame offset cpySamples samples firstSampleNtp opaqueData).next node =
      ctx.next node := by
  by_cases same : node = frame
  · rw [same, fillFrame, next_set_self]
    dsimp only
    split <;> rfl
  · exact next_set_of_ne _ _ _ same

theorem pcm_fillFrame_self (length : samples.length = cpySamples * ctx.config.getSampleSize 1) :
    (ctx.fillFrame frame offset cpySamples samples firstSampleNtp opaqueData).pcm frame =
      ctx.pcm frame ++ samples := by
  have config : (ctx.fillFrame frame offset cpySamples samples firstSampleNtp opaqueData).config =
      ctx.config := rfl
  rw [pcm, samples_fillFrame_self, frame_fillFrame_self, config, Nat.add_mul, ← length,
    Memory.slice_write_append]
  rfl

end Fill

/-- Samples that fit go behind what is queued; a frame may be full then. -/
theorem fillFrame_framed {frame cpySamples : Nat} {samples : List UInt8} (offset : Nat)
    (firstSampleNtp opaqueData : Int) (framed : Framed config input ctx full [frame] free)
    (fits : (ctx.cells frame).samples + cpySamples ≤ config.frameSamples)
    (length : samples.length = cpySamples * config.getSampleSize 1) :
    ∃ full' part', full' ++ part' = full ++ [frame] ∧ Framed config (input ++ samples)
      (ctx.fillFrame frame offset cpySamples samples firstSampleNtp opaqueData) full' part'
      free := by
  set filled := ctx.fillFrame frame offset cpySamples samples firstSampleNtp opaqueData with eq
  have notLast : ∀ node ∈ full, node ≠ frame := by
    intro node member same
    have apart := List.disjoint_of_nodup_append (List.Nodup.of_append_left framed.lists.nodup)
    exact apart member (List.mem_singleton.mpr same)
  have others : ∀ node ∈ full, filled.cells node = ctx.cells node := fun node member =>
    cells_fillFrame_of_ne _ _ _ _ _ _ _ (notLast node member)
  have last : (filled.cells frame).samples = (ctx.cells frame).samples + cpySamples :=
    samples_fillFrame_self ..
  have lists : filled.Lists (full ++ [frame]) free :=
    ⟨framed.lists.frames.congr fun node _ => next_fillFrame .., 
      framed.lists.freeFrames.congr fun node _ => next_fillFrame .., framed.lists.held⟩
  -- of the queue only the last frame has new samples
  have queued : (full ++ [frame]).flatMap filled.pcm =
      (full ++ [frame]).flatMap ctx.pcm ++ samples := by
    have unchanged : full.flatMap filled.pcm = full.flatMap ctx.pcm := by
      apply List.flatMap_congr
      intro node member
      rw [pcm, others node member]
      rfl
    rw [List.flatMap_append, unchanged, List.flatMap_singleton,
      pcm_fillFrame_self _ _ _ _ _ _ _ (framed.configured ▸ length), List.flatMap_append,
      List.flatMap_singleton, List.append_assoc]
  have stream : filled.encoder.flatten ++ (full ++ [frame]).flatMap filled.pcm =
      input ++ samples := by
    rw [queued, ← List.append_assoc, ← framed.stream]
    rfl
  have before : ∀ node ∈ full, (filled.cells node).samples = config.frameSamples := by
    intro node member
    rw [others node member]
    exact framed.filled node member
  -- a frame that is now full is no longer the partial one
  rcases Nat.lt_or_eq_of_le fits with room | reached
  · refine ⟨full, [frame], rfl, framed.configured, framed.frameSamples, lists, before,
      Nat.le_refl _, ?_, framed.blocks, stream⟩
    intro node member
    rw [List.mem_singleton.mp member, last]
    exact room
  · refine ⟨full ++ [frame], [], List.append_nil _, framed.configured, framed.frameSamples, ?_, ?_,
      Nat.zero_le _, ?_, framed.blocks, ?_⟩
    · rw [List.append_nil]
      exact lists
    · rw [List.forall_mem_append, List.forall_mem_singleton, last]
      exact ⟨before, reached⟩
    · exact fun node member => absurd member List.not_mem_nil
    · rw [List.append_nil]
      exact stream

/-- One round of the loop of `write_audio_frame`. -/
theorem writeSamples_step (audio : List UInt8) (firstSampleNtp opaqueData : Int) (fuel offset : Nat)
    {steps samplesLeft : Nat} (framed : Framed config input ctx full part free)
    (positive : 0 < config.frameSamples) (enough : (full ++ part).length < steps)
    (more : 0 < samplesLeft) :
    ∃ frame ctx' free' cpySamples, ctx.getWritableFrame steps = some (frame, ctx') ∧
      Framed config input ctx' full [frame] free' ∧ 0 < cpySamples ∧ cpySamples ≤ samplesLeft ∧
      (ctx'.cells frame).samples + cpySamples ≤ config.frameSamples ∧
      writeSamples steps audio firstSampleNtp opaqueData (fuel + 1) ctx offset samplesLeft =
        writeSamples steps audio firstSampleNtp opaqueData fuel
          (ctx'.fillFrame frame offset cpySamples
            ((audio.drop offset).take (cpySamples * config.getSampleSize 1)) firstSampleNtp
            opaqueData)
          (offset + cpySamples * config.getSampleSize 1) (samplesLeft - cpySamples) := by
  obtain ⟨frame, ctx', free', writable, framed'⟩ :=
    getWritableFrame_framed framed positive enough
  have room := framed'.unfilled frame (List.mem_singleton_self frame)
  refine ⟨frame, ctx', free', if samplesLeft < config.frameSamples - (ctx'.cells frame).samples
    then samplesLeft else config.frameSamples - (ctx'.cells frame).samples, writable, framed', ?_,
    ?_, ?_, ?_⟩
  · split <;> omega
  · split <;> omega
  · split <;> omega
  · rw [writeSamples, if_pos more, writable]
    simp only [Option.bind_eq_bind, Option.bind_some, framed'.frameSamples, framed'.configured]
    rw [if_pos (by omega)]

/-- A property of the written bytes of a block, the context and its queue that a writable frame and
the samples copied into it keep. -/
structure KeptByWriting (config : AudioEncConfig) (steps : Nat) (firstSampleNtp opaqueData : Int)
    (holds : Nat → OpusEncContext → List Nat → Prop) : Prop where
  takes : ∀ {input ctx full part free offset frame ctx' free'},
    Framed config input ctx full part free → (full ++ part).length < steps →
      ctx.getWritableFrame steps = some (frame, ctx') →
        Framed config input ctx' full [frame] free' → holds offset ctx (full ++ part) →
          holds offset ctx' (full ++ [frame])
  fills : ∀ {input ctx full free offset frame cpySamples} (samples : List UInt8),
    Framed config input ctx full [frame] free → 0 < cpySamples →
      holds offset ctx (full ++ [frame]) →
        holds (offset + cpySamples * config.getSampleSize 1)
          (ctx.fillFrame frame offset cpySamples samples firstSampleNtp opaqueData)
          (full ++ [frame])

theorem keptByWriting_true (config : AudioEncConfig) (steps : Nat)
    (firstSampleNtp opaqueData : Int) :
    KeptByWriting config steps firstSampleNtp opaqueData fun _ _ _ => True :=
  ⟨fun _ _ _ _ _ => trivial, fun _ _ _ _ => trivial⟩

theorem writeSamples_framed {holds : Nat → OpusEncContext → List Nat → Prop} (audio : List UInt8)
    (firstSampleNtp opaqueData : Int) (steps : Nat) (positive : 0 < config.frameSamples)
    (kept : KeptByWriting config steps firstSampleNtp opaqueData holds)
    (fuel offset samplesLeft : Nat) (framed : Framed config input ctx full part free)
    (begun : holds offset ctx (full ++ part)) (enough : samplesLeft < fuel)
    (reach : (full ++ part).length + samplesLeft < steps)
    (within : offset + samplesLeft * config.getSampleSize 1 ≤ audio.length) :
    ∃ ctx' full' part' free',
      writeSamples steps audio firstSampleNtp opaqueData fuel ctx offset samplesLeft = some ctx' ∧
      Framed config (input ++ (audio.drop offset).take (samplesLeft * config.getSampleSize 1)) ctx'
        full' part' free' ∧
      (full' ++ part').length ≤ (full ++ part).length + samplesLeft ∧
      holds (offset + samplesLeft * config.getSampleSize 1) ctx' (full' ++ part') := by
  -- each round copies at least one sample, so there is fuel enough
  induction fuel generalizing input ctx full part free offset samplesLeft with
  | zero => cases enough
  | succ fuel ih =>
    by_cases more : 0 < samplesLeft
    · obtain ⟨frame, ctx', free', cpySamples, writable, framed', copied, atMost, fits, step⟩ :=
        writeSamples_step audio firstSampleNtp opaqueData fuel offset framed positive
          (by omega : (full ++ part).length < steps) more
      obtain ⟨rest, rfl⟩ := Nat.exists_eq_add_of_le atMost
      rw [Nat.add_mul] at within
      have length : ((audio.drop offset).take (cpySamples * config.getSampleSize 1)).length =
          cpySamples * config.getSampleSize 1 := by
        rw [List.length_take, List.length_drop]
        omega
      obtain ⟨full', part', queue, filled⟩ :=
        fillFrame_framed offset firstSampleNtp opaqueData framed' fits length
      have goesOn := kept.fills ((audio.drop offset).take (cpySamples * config.getSampleSize 1))
        framed' copied (kept.takes framed (by omega) writable framed' begun)
      rw [← queue] at goesOn
      have grown : (full' ++ part').length ≤ (full ++ part).length + 1 := by
        rw [queue]
        simp
      obtain ⟨ctx'', full'', part'', free'', written, framed'', bound, ends⟩ :=
        ih (offset + cpySamples * config.getSampleSize 1) rest filled goesOn (by omega) (by omega)
          (by omega)
      rw [step, Nat.add_sub_cancel_left]
      refine ⟨ctx'', full'', part'', free'', written, ?_, by omega, ?_⟩
      · rw [List.append_assoc, ← List.drop_drop, ← List.take_add, ← Nat.add_mul] at framed''
        exact framed''
      · rw [Nat.add_mul, ← Nat.add_assoc]
        exact ends
    · obtain rfl : samplesLeft = 0 := by omega
      refine ⟨ctx, full, part, free, by simp [writeSamples], ?_, Nat.le_refl _, ?_⟩
      · simpa using framed
      · simpa using begun

theorem writeAudioFrame_framed {holds : Nat → OpusEncContext → List Nat → Prop} {steps : Nat}
    (valid : config.Valid) (block : AudioBlock) (framed : Framed config input ctx [] part free)
    (enough : block.data.length + 1 < steps)
    (kept : KeptByWriting config steps (block.ntpInMs - config.getSampleDuration
      (block.data.length / config.getSampleSize 1)) block.opaqueData holds)
    (begun : holds 0 ctx part) :
    ∃ ctx' full' part' free', ctx.writeAudioFrame steps block = some ctx' ∧
      Framed config (input ++ config.wholeSamples block.data) ctx' full' part' free' ∧
      full'.length ≤ block.data.length + 1 ∧
      holds (block.data.length / config.getSampleSize 1 * config.getSampleSize 1) ctx'
        (full' ++ part') := by
  have positive := valid.getSampleSize_pos
  have single := framed.single
  have count : config.getSampleCount
      (block.data.length / config.getSampleSize 1 * config.getSampleSize 1) =
        block.data.length / config.getSampleSize 1 := by
    rw [config.getSampleCount_eq_div, Nat.mul_div_cancel _ positive]
  have fewer : block.data.length / config.getSampleSize 1 ≤ block.data.length := Nat.div_le_self ..
  simp only [writeAudioFrame, framed.configured, count]
  obtain ⟨ctx', full', part', free', written, framed', bound, ends⟩ :=
    writeSamples_framed block.data (block.ntpInMs - config.getSampleDuration
      (block.data.length / config.getSampleSize 1)) block.opaqueData steps valid.frameSamples_pos
      kept steps 0 (block.data.length / config.getSampleSize 1) framed begun
      (by omega) (by simp; omega) (by rw [Nat.zero_add]; exact Nat.div_mul_le_self ..)
  rw [Nat.zero_add] at ends
  refine ⟨ctx', full', part', free', written, framed', ?_, ends⟩
  simp at bound
  omega

/-! ## Encoding -/

theorem encoder_encodeFrame (codec : OpusCodec) (ctx : OpusEncContext) (frame : Nat) :
    (ctx.encodeFrame codec frame).encoder = ctx.encoder ++ [ctx.pcm frame] := rfl

/-- Shifting out a frame leaves the others alone. -/
theorem Framed.cells_encodeFrame (codec : OpusCodec) {frame : Nat}
    (framed : Framed config input ctx (frame :: full) part free) {node : Nat}
    (member : node ∈ full ++ part) :
    (ctx.encodeFrame codec frame).cells node = ctx.cells node := by
  have nodup := framed.lists.nodup
  rw [List.cons_append, List.cons_append, List.nodup_cons, List.mem_append, not_or] at nodup
  exact cells_set_of_ne _ _ _ (ne_of_mem_of_not_mem member nodup.1.1)

theorem Framed.ready {frame : Nat} (framed : Framed config input ctx (frame :: full) part free) :
    ctx.frames.filter (fun frame => (ctx.cells frame).samples = ctx.frameSamples) = some frame := by
  rw [framed.lists.frames.start_eq_head?]
  simp [Option.filter, framed.filled frame List.mem_cons_self, framed.frameSamples]

theorem Framed.notReady (framed : Framed config input ctx [] part free) :
    ctx.frames.filter (fun frame => (ctx.cells frame).samples = ctx.frameSamples) = none := by
  rw [Option.filter_eq_none_iff, framed.lists.frames.start_eq_head?]
  intro frame first
  have unfilled := framed.unfilled frame (List.mem_of_mem_head? first)
  rw [framed.frameSamples, decide_eq_true_eq]
  omega

theorem encodeFrame_framed (codec : OpusCodec) {frame : Nat}
    (framed : Framed config input ctx (frame :: full) part free) :
    Framed config input (ctx.encodeFrame codec frame) full part (frame :: free) := by
  have others : ∀ node ∈ full ++ part,
      (ctx.encodeFrame codec frame).cells node = ctx.cells node :=
    fun node member => framed.cells_encodeFrame codec member
  constructor
  case configured => exact framed.configured
  case frameSamples => exact framed.frameSamples
  case lists =>
    have shifted := framed.lists.shift
    exact ⟨shifted.frames, shifted.freeFrames, shifted.held⟩
  case filled =>
    intro node member
    rw [others node (List.mem_append_left _ member)]
    exact framed.filled node (List.mem_cons_of_mem _ member)
  case single => exact framed.single
  case unfilled =>
    intro node member
    rw [others node (List.mem_append_right _ member)]
    exact framed.unfilled node member
  case blocks =>
    rw [encoder_encodeFrame, List.forall_mem_append, List.forall_mem_singleton, pcm_length,
      framed.configured, framed.filled frame List.mem_cons_self]
    exact ⟨framed.blocks, rfl⟩
  case stream =>
    -- the samples move from the queue to the encoder
    have unchanged : (full ++ part).flatMap (ctx.encodeFrame codec frame).pcm =
        (full ++ part).flatMap ctx.pcm := by
      apply List.flatMap_congr
      intro node member
      rw [pcm, others node member]
      rfl
    rw [encoder_encodeFrame, unchanged, ← framed.stream]
    simp

/-- The loop encodes every full frame. -/
theorem encodeFrames_framed {holds : OpusEncContext → List Nat → Prop} (codec : OpusCodec)
    (shifts : ∀ {ctx frame full free}, Framed config input ctx (frame :: full) part free →
      holds ctx (frame :: full ++ part) → holds (ctx.encodeFrame codec frame) (full ++ part))
    {fuel : Nat} (framed : Framed config input ctx full part free)
    (begun : holds ctx (full ++ part)) (enough : full.length < fuel) :
    ∃ ctx' free', encodeFrames codec fuel ctx = some ctx' ∧
      Framed config input ctx' [] part free' ∧ holds ctx' part := by
  induction fuel generalizing ctx full free with
  | zero => cases enough
  | succ fuel ih =>
    cases full with
    | nil => exact ⟨ctx, free, by simp [encodeFrames, framed.notReady], framed, begun⟩
    | cons frame full =>
      obtain ⟨ctx', free', encoded, framed', ends⟩ :=
        ih (encodeFrame_framed codec framed) (shifts framed begun)
          (Nat.lt_of_succ_lt_succ enough)
      exact ⟨ctx', free', by simp [encodeFrames, framed.ready, encoded], framed', ends⟩

/-! ## Calls -/

theorem opusEncEncode_framed (codec : OpusCodec) {steps : Nat} (valid : config.Valid)
    (block : AudioBlock) (framed : Framed config input ctx [] part free)
    (enough : block.data.length + 1 < steps) :
    ∃ result ctx' part' free', ctx.opusEncEncode codec steps block = some (result, ctx') ∧
      Framed config (input ++ config.wholeSamples block.data) ctx' [] part' free' := by
  by_cases data : block.data.length > 0
  · obtain ⟨written, full, part', free', writes, framed', bound, -⟩ :=
      @writeAudioFrame_framed _ _ _ _ _ (fun _ _ _ => True) steps valid block framed enough
        (keptByWriting_true config steps _ _) trivial
    obtain ⟨encoded, free'', encodes, framed'', -⟩ :=
      @encodeFrames_framed _ _ _ _ _ _ (fun _ _ => True) codec (fun _ _ => trivial) _ framed'
        trivial (by omega : full.length < steps)
    exact ⟨0, encoded, part', free'', by simp [opusEncEncode, data, writes, encodes], framed''⟩
  · refine ⟨-1, ctx, part, free, by simp [opusEncEncode, data], ?_⟩
    obtain empty : block.data = [] := List.eq_nil_of_length_eq_zero (by omega)
    simpa [AudioEncConfig.wholeSamples, empty] using framed

theorem encodeAll_framed (codec : OpusCodec) {steps : Nat} (valid : config.Valid)
    (blocks : List AudioBlock) (framed : Framed config input ctx [] part free)
    (enough : ∀ block ∈ blocks, block.data.length + 1 < steps) :
    ∃ ctx' part' free', encodeAll codec steps ctx blocks = some ctx' ∧
      Framed config (input ++ blocks.flatMap fun block => config.wholeSamples block.data) ctx' []
        part' free' := by
  induction blocks generalizing input ctx part free with
  | nil => exact ⟨ctx, part, free, rfl, by simpa using framed⟩
  | cons block blocks ih =>
    rw [List.forall_mem_cons] at enough
    obtain ⟨result, ctx', part', free', encodes, framed'⟩ :=
      opusEncEncode_framed codec valid block framed enough.1
    obtain ⟨ctx'', part'', free'', rest, framed''⟩ := ih framed' enough.2
    refine ⟨ctx'', part'', free'', by simp [encodeAll, encodes, rest], ?_⟩
    rw [List.flatMap_cons, ← List.append_assoc]
    exact framed''

/-- What holds between two calls of `opus_enc_encode`: `pending` is the queue, each frame that was
ever allocated is in one place of one list, and the rest of the input is in the queue. -/
structure Settled (ctx : OpusEncContext) (config : AudioEncConfig) (input : List UInt8)
    (pending free : List Nat) : Prop where
  lists : ctx.Lists pending free
  acyclic : (pending ++ free).Nodup
  single : pending.length ≤ 1
  unfilled : ∀ node ∈ pending, (ctx.cells node).samples < config.frameSamples
  blocks : ∀ block ∈ ctx.encoder, block.length = config.getSampleSize config.frameSamples
  stream : ctx.encoder.flatten ++ pending.flatMap ctx.pcm = input

theorem Framed.settled (framed : Framed config input ctx [] part free) :
    ctx.Settled config input part free where
  lists := framed.lists
  acyclic := framed.lists.nodup
  single := framed.single
  unfilled := framed.unfilled
  blocks := framed.blocks
  stream := framed.stream

theorem opusEncInit_framed (valid : config.Valid) (cbOut : Bool) (cells : Nat → AudioFrame) :
    ∃ start, opusEncInit config cbOut cells = some start ∧ Framed config [] start [] [] [] := by
  refine ⟨_, if_pos valid, rfl, rfl, ⟨.nil, .nil, .nil⟩, ?_, Nat.zero_le _, ?_, ?_, rfl⟩
  all_goals
    intro member
    exact fun absent => absurd absent List.not_mem_nil

/-- Whatever the codec returns, the calls return, and no sample is lost or encoded twice. -/
theorem encodeAll_settled (codec : OpusCodec) (config : AudioEncConfig) (cbOut : Bool)
    (cells : Nat → AudioFrame) (valid : config.Valid) :
    ∃ start, opusEncInit config cbOut cells = some start ∧
      ∀ (blocks : List AudioBlock) (steps : Nat),
        (∀ block ∈ blocks, block.data.length + 1 < steps) →
        ∃ ctx pending free, encodeAll codec steps start blocks = some ctx ∧
          ctx.Settled config (blocks.flatMap fun block => config.wholeSamples block.data) pending
            free := by
  obtain ⟨start, initialised, framed⟩ := opusEncInit_framed valid cbOut cells
  refine ⟨start, initialised, ?_⟩
  intro blocks steps enough
  obtain ⟨ctx, part, free, encoded, framed'⟩ := encodeAll_framed codec valid blocks framed enough
  exact ⟨ctx, part, free, encoded, framed'.settled⟩

/-- Twice 100 samples, and a byte of another. -/
def twoBlocks : List AudioBlock := [⟨List.replicate 200 7, 12, 9⟩, ⟨List.replicate 201 8, 25, 10⟩]

/-- 8 kHz mono: the samples of the first call and 60 of the second fill a frame, and 40 wait. -/
theorem encodeAll_settled_eightKhz : ∃ start,
    opusEncInit ⟨8000, 1, 16⟩ false (fun _ => ⟨fun _ => 0, 0, 0, 0, none⟩) = some start ∧
      ∃ ctx pending free, encodeAll (fun _ => (3, 160)) 203 start twoBlocks = some ctx ∧
        ctx.encoder = [List.replicate 200 7 ++ List.replicate 120 8] ∧
        ctx.Settled ⟨8000, 1, 16⟩ (List.replicate 200 7 ++ List.replicate 200 8) pending free := by
  obtain ⟨start, initialised, settles⟩ := encodeAll_settled (fun _ => (3, 160)) ⟨8000, 1, 16⟩ false
    (fun _ => ⟨fun _ => 0, 0, 0, 0, none⟩) (by decide)
  have cut : (twoBlocks.flatMap fun block =>
      (⟨8000, 1, 16⟩ : AudioEncConfig).wholeSamples block.data) =
        List.replicate 200 7 ++ List.replicate 200 8 := by decide +kernel
  obtain ⟨ctx, pending, free, encoded, settled⟩ := settles twoBlocks 203 (by decide +kernel)
  have blocks : ((opusEncInit ⟨8000, 1, 16⟩ false (fun _ => ⟨fun _ => 0, 0, 0, 0, none⟩)).bind
      fun start => (encodeAll (fun _ => (3, 160)) 203 start twoBlocks).map encoder) =
        some [List.replicate 200 7 ++ List.replicate 120 8] := by decide +kernel
  rw [initialised, Option.bind_some, encoded, Option.map_some, Option.some.injEq] at blocks
  exact ⟨start, initialised, ctx, pending, free, encoded, blocks, cut ▸ settled⟩

end OpusEncContext

end RtpPlayer
