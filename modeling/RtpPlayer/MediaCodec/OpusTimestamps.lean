import RtpPlayer.MediaCodec.OpusFraming

/-! # The timestamps of the Opus frames

A sample has a time, by the call that brought it, and a frame has the time of its first sample.
Three divisions round on the way, and never by more than a millisecond together. -/

namespace RtpPlayer

open Foundations

/-- The time and the caller's data of a sample or a frame. -/
structure AudioStamp where
  ntp : Int
  opaqueData : Int
  deriving DecidableEq

def AudioFrame.stamp (cell : AudioFrame) : AudioStamp := ⟨cell.ntp, cell.opaqueData⟩

def AudioEncFrameBs.stamp (packet : AudioEncFrameBs) : AudioStamp :=
  ⟨packet.ntp, packet.opaqueData⟩

/-- What a frame gets that begins with this sample of a call. -/
def AudioEncConfig.sampleStamp (config : AudioEncConfig) (firstSampleNtp opaqueData : Int)
    (sample : Nat) : AudioStamp :=
  ⟨config.getSampleNtp sample firstSampleNtp, opaqueData⟩

/-- The stamps of the samples of a call. -/
def AudioEncConfig.blockStamps (config : AudioEncConfig) (block : AudioBlock) : List AudioStamp :=
  let samples := config.getSampleCount block.data.length
  (List.range samples).map
    (config.sampleStamp (block.ntpInMs - config.getSampleDuration samples) block.opaqueData)

namespace OpusEncContext

/-! ## What the encoder is handed -/

/-- The stamps of the frames that the encoding loop hands to `opus_encode`. -/
def handedFrames (codec : OpusCodec) : Nat → OpusEncContext → List AudioStamp
  | 0, _ => []
  | fuel + 1, ctx =>
    match ctx.frames.filter fun frame => (ctx.cells frame).samples = ctx.frameSamples with
    | some frame =>
      (ctx.cells frame).stamp :: handedFrames codec fuel (ctx.encodeFrame codec frame)
    | none => []

/-- Those of a call of `opus_enc_encode`. -/
def handedInCall (codec : OpusCodec) (steps : Nat) (ctx : OpusEncContext) (block : AudioBlock) :
    List AudioStamp :=
  if block.data.length > 0 then
    ((ctx.writeAudioFrame steps block).map (handedFrames codec steps)).getD []
  else []

/-- Those of one call after the other. -/
def handedInAll (codec : OpusCodec) (steps : Nat) : OpusEncContext → List AudioBlock →
    List AudioStamp
  | _, [] => []
  | ctx, block :: blocks =>
    ctx.handedInCall codec steps block ++
      ((ctx.opusEncEncode codec steps block).map fun returned =>
        handedInAll codec steps returned.2 blocks).getD []

/-! ## What is sent -/

/-- What has been sent since `begun` carries stamps of what has been handed over, in this order. -/
def SentStamps (begun ctx : OpusEncContext) (handed : List AudioStamp) : Prop :=
  ∃ more, ctx.sent = begun.sent ++ more ∧ (more.map AudioEncFrameBs.stamp).Sublist handed

theorem SentStamps.nothing {begun ctx : OpusEncContext} (same : ctx.sent = begun.sent) :
    SentStamps begun ctx [] :=
  ⟨[], by rw [same, List.append_nil], .slnil⟩

theorem SentStamps.append {begun ctx ctx' : OpusEncContext} {first second : List AudioStamp}
    (sent : SentStamps begun ctx first) (later : SentStamps ctx ctx' second) :
    SentStamps begun ctx' (first ++ second) := by
  obtain ⟨more, grows, stamps⟩ := sent
  obtain ⟨rest, grows', stamps'⟩ := later
  refine ⟨more ++ rest, by rw [grows', grows, List.append_assoc], ?_⟩
  rw [List.map_append]
  exact stamps.append stamps'

/-- A frame is sent with its stamp, or not at all. -/
theorem sentStamps_encodeFrame (codec : OpusCodec) (ctx : OpusEncContext) (frame : Nat) :
    SentStamps ctx (ctx.encodeFrame codec frame) [(ctx.cells frame).stamp] := by
  simp only [SentStamps, encodeFrame, releaseAudioFrame, set]
  split
  next transmits => exact ⟨[_], rfl, List.Sublist.refl _⟩
  next => exact ⟨[], (List.append_nil _).symm, List.nil_sublist _⟩

/-- The encoding loop sends what it hands over, or some of it. -/
theorem sentStamps_encodeFrames (codec : OpusCodec) {fuel : Nat} {ctx ctx' : OpusEncContext}
    (encodes : encodeFrames codec fuel ctx = some ctx') :
    SentStamps ctx ctx' (handedFrames codec fuel ctx) := by
  induction fuel generalizing ctx with
  | zero => cases encodes
  | succ fuel ih =>
    rw [encodeFrames] at encodes
    rw [handedFrames]
    generalize ctx.frames.filter _ = ready at encodes ⊢
    cases ready with
    | some frame => exact (sentStamps_encodeFrame codec ctx frame).append (ih encodes)
    | none =>
      obtain rfl := Option.some.inj encodes
      exact .nothing rfl

/-! ## Every frame carries the stamp of its first sample -/

/-- `stream` has the stamps of all samples so far, those in the queue included. -/
structure Stamped (config : AudioEncConfig) (stream : List AudioStamp) (ctx : OpusEncContext)
    (queue : List Nat) : Prop where
  length : stream.length = ctx.encoder.length * config.frameSamples +
    (queue.map fun node => (ctx.cells node).samples).sum
  stamps : ∀ index node, queue[index]? = some node → 0 < (ctx.cells node).samples →
    stream[(ctx.encoder.length + index) * config.frameSamples]? = some (ctx.cells node).stamp

variable {config : AudioEncConfig} {input : List UInt8} {ctx : OpusEncContext}
  {full part free : List Nat} {stream : List AudioStamp}

theorem getElem?_append_of_some {α : Type} {list : List α} {index : Nat} {value : α}
    (found : list[index]? = some value) (more : List α) : (list ++ more)[index]? = some value := by
  obtain ⟨inside, rfl⟩ := List.getElem?_eq_some_iff.mp found
  rw [List.getElem?_append_left inside, List.getElem?_eq_getElem inside]

/-- The frames before the one that is being filled are full. -/
theorem Framed.sum_samples (framed : Framed config input ctx full part free) :
    (full.map fun node => (ctx.cells node).samples).sum = full.length * config.frameSamples := by
  have same : (full.map fun node => (ctx.cells node).samples) =
      full.map fun _ => config.frameSamples :=
    List.map_congr_left framed.filled
  rw [same, List.map_const', List.sum_replicate_nat]

theorem Framed.ne_last {frame : Nat} (framed : Framed config input ctx full [frame] free)
    {node : Nat} (member : node ∈ full) : node ≠ frame := by
  intro same
  have apart := List.disjoint_of_nodup_append (List.Nodup.of_append_left framed.lists.nodup)
  exact apart member (List.mem_singleton.mpr same)

/-- A context whose full frames are the same holds what `more` adds in its last frame. -/
theorem Stamped.grow {ctx' : OpusEncContext} {frame : Nat} {more : List AudioStamp}
    (stamped : Stamped config stream ctx (full ++ part))
    (encoder : ctx'.encoder = ctx.encoder)
    (others : ∀ node ∈ full, (ctx'.cells node).samples = (ctx.cells node).samples ∧
      (ctx'.cells node).stamp = (ctx.cells node).stamp)
    (last : (part.map fun node => (ctx.cells node).samples).sum + more.length =
      (ctx'.cells frame).samples)
    (first : 0 < (ctx'.cells frame).samples →
      (stream ++ more)[(ctx.encoder.length + full.length) * config.frameSamples]? =
        some (ctx'.cells frame).stamp) :
    Stamped config (stream ++ more) ctx' (full ++ [frame]) := by
  have unchanged : (full.map fun node => (ctx'.cells node).samples) =
      full.map fun node => (ctx.cells node).samples :=
    List.map_congr_left fun node member => (others node member).1
  constructor
  · have length := stamped.length
    rw [List.map_append, List.sum_append] at length ⊢
    rw [List.length_append, length, encoder, unchanged, List.map_singleton, List.sum_singleton,
      ← last]
    omega
  · intro index node found occupied
    rw [encoder]
    -- a full frame keeps its stamp, and the last one has the stamp of the samples it begins with
    rcases Nat.lt_or_ge index full.length with before | behind
    · rw [List.getElem?_append_left before] at found
      have member := List.mem_of_getElem? found
      rw [(others node member).1] at occupied
      rw [(others node member).2]
      refine getElem?_append_of_some (stamped.stamps index node ?_ occupied) more
      exact getElem?_append_of_some found part
    · obtain ⟨rfl, rfl⟩ : index = full.length ∧ node = frame := by
        rw [List.getElem?_append_right behind, List.getElem?_singleton] at found
        split at found
        next here => exact ⟨by omega, (Option.some.inj found).symm⟩
        next => cases found
      exact first occupied

theorem stamp_linkFrame_of_ne {frame node : Nat} (frameTail : Option Nat) (ne : node ≠ frame) :
    ((ctx.linkFrame frameTail frame).cells node).stamp = (ctx.cells node).stamp := by
  obtain ⟨link, cell⟩ := cells_linkFrame ctx frame frameTail node
  rw [cell, cells_set_of_ne _ _ _ ne]
  rfl

theorem stamp_fillFrame_self (frame offset cpySamples : Nat) (samples : List UInt8)
    (firstSampleNtp opaqueData : Int) :
    ((ctx.fillFrame frame offset cpySamples samples firstSampleNtp opaqueData).cells frame).stamp =
      if (ctx.cells frame).samples = 0 then
        ctx.config.sampleStamp firstSampleNtp opaqueData (ctx.config.getSampleCount offset)
      else (ctx.cells frame).stamp := by
  rw [fillFrame, cells_set_self]
  split <;> rfl

theorem Stamped.takeWritable {steps frame : Nat} {ctx' : OpusEncContext}
    (stamped : Stamped config stream ctx (full ++ part))
    (framed : Framed config input ctx full part free) (enough : (full ++ part).length < steps)
    (writable : ctx.getWritableFrame steps = some (frame, ctx')) {free' : List Nat}
    (framed' : Framed config input ctx' full [frame] free') :
    Stamped config stream ctx' (full ++ [frame]) := by
  cases part with
  | nil =>
    rw [List.append_nil] at enough
    rw [getWritableFrame_of_full framed enough, Option.some.injEq, Prod.mk.injEq] at writable
    obtain ⟨rfl, rfl⟩ := writable
    rw [← List.append_nil stream]
    refine stamped.grow (by simp) ?_ (by simp [samples_linkFrame_self]) ?_
    · intro node member
      rw [samples_linkFrame_of_ne _ (framed'.ne_last member),
        stamp_linkFrame_of_ne _ (framed'.ne_last member), cells_takeFrame]
      exact ⟨rfl, rfl⟩
    · intro occupied
      rw [samples_linkFrame_self] at occupied
      cases occupied
  | cons last rest =>
    have alone : rest = [] := by
      have single := framed.single
      rw [List.length_cons] at single
      exact List.eq_nil_of_length_eq_zero (by omega)
    subst alone
    rw [getWritableFrame_of_part framed enough, Option.some.injEq, Prod.mk.injEq] at writable
    obtain ⟨rfl, rfl⟩ := writable
    exact stamped

/-- The samples copied into a frame stamp it where it was empty. -/
theorem Stamped.fillFrame {frame offset cpySamples : Nat} (samples : List UInt8)
    {firstSampleNtp opaqueData : Int} {more : List AudioStamp}
    (stamped : Stamped config stream ctx (full ++ [frame]))
    (framed : Framed config input ctx full [frame] free) (count : more.length = cpySamples)
    (first : more.head? =
      some (config.sampleStamp firstSampleNtp opaqueData (config.getSampleCount offset))) :
    Stamped config (stream ++ more)
      (ctx.fillFrame frame offset cpySamples samples firstSampleNtp opaqueData)
      (full ++ [frame]) := by
  refine stamped.grow rfl ?_ ?_ ?_
  · intro node member
    rw [cells_fillFrame_of_ne _ _ _ _ _ _ _ (framed.ne_last member)]
    exact ⟨rfl, rfl⟩
  · rw [samples_fillFrame_self, count, List.map_singleton, List.sum_singleton]
  · intro _
    rw [stamp_fillFrame_self, framed.configured]
    split
    next empty =>
      -- the frame begins where the stream ended
      have length := stamped.length
      rw [List.map_append, List.sum_append, framed.sum_samples, List.map_singleton,
        List.sum_singleton, empty, Nat.add_zero, ← Nat.add_mul] at length
      rw [← length, List.getElem?_append_right (Nat.le_refl _), Nat.sub_self,
        ← List.head?_eq_getElem?]
      exact first
    next occupied =>
      refine getElem?_append_of_some (stamped.stamps full.length frame ?_ ?_) more
      · rw [List.getElem?_append_right (Nat.le_refl _), Nat.sub_self]
        rfl
      · omega

/-! ## A call -/

/-- Nothing is encoded or sent while samples are written. -/
theorem getWritableFrame_frame {steps frame : Nat} {ctx' : OpusEncContext}
    (writable : ctx.getWritableFrame steps = some (frame, ctx')) :
    ctx'.encoder = ctx.encoder ∧ ctx'.sent = ctx.sent := by
  rw [getWritableFrame, Option.bind_eq_bind, Option.bind_eq_some_iff] at writable
  obtain ⟨tail, -, writable⟩ := writable
  split at writable
  · rw [Option.some.injEq, Prod.mk.injEq] at writable
    rw [← writable.2]
    exact ⟨rfl, rfl⟩
  · rw [Option.some.injEq, Prod.mk.injEq] at writable
    rw [← writable.2]
    simp

/-- The samples of a block that are written so far carry the stamps of the block, and nothing has
been encoded or sent since `begun`. -/
structure StampedSoFar (config : AudioEncConfig) (stream : List AudioStamp) (begun : OpusEncContext)
    (firstSampleNtp opaqueData : Int) (offset : Nat) (ctx : OpusEncContext) (queue : List Nat) :
    Prop where
  encoder : ctx.encoder = begun.encoder
  sent : ctx.sent = begun.sent
  stamped : ∃ written, offset = written * config.getSampleSize 1 ∧
    Stamped config (stream ++
      (List.range written).map (config.sampleStamp firstSampleNtp opaqueData)) ctx queue

theorem keptByWriting_stampedSoFar (positive : 0 < config.getSampleSize 1) (steps : Nat)
    (stream : List AudioStamp) (begun : OpusEncContext) (firstSampleNtp opaqueData : Int) :
    KeptByWriting config steps firstSampleNtp opaqueData
      (StampedSoFar config stream begun firstSampleNtp opaqueData) := by
  constructor
  · rintro input ctx full part free offset frame ctx' free' framed enough writable framed'
      ⟨encoder, sent, written, reached, stamped⟩
    obtain ⟨sameEncoder, sameSent⟩ := getWritableFrame_frame writable
    exact ⟨sameEncoder.trans encoder, sameSent.trans sent, written, reached,
      stamped.takeWritable framed enough writable framed'⟩
  · rintro input ctx full free offset frame cpySamples samples framed copied
      ⟨encoder, sent, written, rfl, stamped⟩
    refine ⟨encoder, sent, written + cpySamples, by rw [Nat.add_mul], ?_⟩
    rw [List.range_add, List.map_append, ← List.append_assoc]
    apply stamped.fillFrame samples framed
    · simp
    · obtain ⟨rest, rfl⟩ := Nat.exists_eq_succ_of_ne_zero (Nat.ne_of_gt copied)
      rw [config.getSampleCount_eq_div, Nat.mul_div_cancel _ positive]
      simp [List.range_succ_eq_map]

/-- The block is whole samples, and its stamps go behind those of the blocks before. -/
theorem writeAudioFrame_stamped {steps : Nat} (valid : config.Valid) (block : AudioBlock)
    (framed : Framed config input ctx [] part free)
    (stamped : Stamped config stream ctx part) (enough : block.data.length + 1 < steps) :
    ∃ ctx' full' part' free', ctx.writeAudioFrame steps block = some ctx' ∧
      Framed config (input ++ config.wholeSamples block.data) ctx' full' part' free' ∧
      full'.length ≤ block.data.length + 1 ∧ ctx'.encoder = ctx.encoder ∧ ctx'.sent = ctx.sent ∧
      Stamped config (stream ++ config.blockStamps block) ctx' (full' ++ part') := by
  have positive := valid.getSampleSize_pos
  obtain ⟨ctx', full', part', free', written, framed', bound, encoder, sent, samples,
    reached, stamped'⟩ := writeAudioFrame_framed valid block framed enough
      (keptByWriting_stampedSoFar positive steps stream ctx _ _)
      ⟨rfl, rfl, 0, by simp, by simpa using stamped⟩
  refine ⟨ctx', full', part', free', written, framed', bound, encoder, sent, ?_⟩
  obtain rfl := Nat.eq_of_mul_eq_mul_right positive reached
  simpa only [AudioEncConfig.blockStamps, config.getSampleCount_eq_div] using stamped'

/-! ## The encoding loop -/

/-- A frame that is shifted out takes the first frame length of samples with it. -/
theorem Stamped.encodeFrame (codec : OpusCodec) {frame : Nat}
    (framed : Framed config input ctx (frame :: full) part free)
    (stamped : Stamped config stream ctx (frame :: full ++ part)) :
    Stamped config stream (ctx.encodeFrame codec frame) (full ++ part) := by
  have encoded : (ctx.encodeFrame codec frame).encoder.length = ctx.encoder.length + 1 := by
    rw [encoder_encodeFrame, List.length_append, List.length_singleton]
  have others : ∀ node ∈ full ++ part,
      (ctx.encodeFrame codec frame).cells node = ctx.cells node :=
    fun node member => framed.cells_encodeFrame codec member
  constructor
  · have length := stamped.length
    rw [List.cons_append, List.map_cons, List.sum_cons, framed.filled frame List.mem_cons_self]
      at length
    have unchanged : ((full ++ part).map fun node =>
        ((ctx.encodeFrame codec frame).cells node).samples) =
          (full ++ part).map fun node => (ctx.cells node).samples :=
      List.map_congr_left fun node member => by rw [others node member]
    rw [unchanged, encoded, length, Nat.add_mul, Nat.one_mul, Nat.add_assoc]
  · intro index node found occupied
    rw [others node (List.mem_of_getElem? found)] at occupied ⊢
    have earlier := stamped.stamps (index + 1) node (by simpa using found) occupied
    rw [encoded, Nat.add_assoc, Nat.add_comm 1 index]
    exact earlier

/-- The loop hands over the full frames, each with the stamp of its first sample. -/
theorem handedFrames_eq (codec : OpusCodec) {fuel : Nat}
    (framed : Framed config input ctx full part free) (enough : full.length < fuel) :
    handedFrames codec fuel ctx = full.map fun node => (ctx.cells node).stamp := by
  induction fuel generalizing ctx full free with
  | zero => cases enough
  | succ fuel ih =>
    cases full with
    | nil => simp [handedFrames, framed.notReady]
    | cons frame full =>
      have rest := ih (encodeFrame_framed codec framed) (Nat.lt_of_succ_lt_succ enough)
      have unchanged : (full.map fun node => ((ctx.encodeFrame codec frame).cells node).stamp) =
          full.map fun node => (ctx.cells node).stamp :=
        List.map_congr_left fun node member => by
          rw [framed.cells_encodeFrame codec (List.mem_append_left _ member)]
      simp [handedFrames, framed.ready, rest, unchanged]

/-! ## The calls -/

/-- What has been handed over carries the stamps of the samples at the starts of the frames. -/
def HandedStamps (config : AudioEncConfig) (stream : List AudioStamp) (before : Nat)
    (handed : List AudioStamp) : Prop :=
  ∀ index stamp, handed[index]? = some stamp →
    stream[(before + index) * config.frameSamples]? = some stamp

theorem opusEncEncode_stamped (codec : OpusCodec) {steps : Nat} (valid : config.Valid)
    (block : AudioBlock) (framed : Framed config input ctx [] part free)
    (stamped : Stamped config stream ctx part) (enough : block.data.length + 1 < steps) :
    ∃ result ctx' part' free', ctx.opusEncEncode codec steps block = some (result, ctx') ∧
      Framed config (input ++ config.wholeSamples block.data) ctx' [] part' free' ∧
      Stamped config (stream ++ config.blockStamps block) ctx' part' ∧
      ctx'.encoder.length = ctx.encoder.length + (ctx.handedInCall codec steps block).length ∧
      SentStamps ctx ctx' (ctx.handedInCall codec steps block) ∧
      HandedStamps config (stream ++ config.blockStamps block) ctx.encoder.length
        (ctx.handedInCall codec steps block) := by
  by_cases data : block.data.length > 0
  · obtain ⟨written, full, part', free', writes, framed', bound, encoder, sent, stamped'⟩ :=
      writeAudioFrame_stamped valid block framed stamped enough
    -- the loop moves every full frame from the queue to the encoder
    obtain ⟨encoded, free'', encodes, framed'', stamped'', moved⟩ :=
      @encodeFrames_framed _ _ _ _ _ _ (fun ctx queue =>
          Stamped config (stream ++ config.blockStamps block) ctx queue ∧
            ctx.encoder.length + queue.length =
              written.encoder.length + (full ++ part').length) codec
        (fun framed both => ⟨both.1.encodeFrame codec framed, by
          rw [← both.2, encoder_encodeFrame]
          simp only [List.length_append, List.length_cons, List.length_nil]
          omega⟩) steps framed' ⟨stamped', rfl⟩ (by omega : full.length < steps)
    have loop : ctx.handedInCall codec steps block = handedFrames codec steps written := by
      rw [handedInCall, if_pos data, writes]
      rfl
    have handed : ctx.handedInCall codec steps block =
        full.map fun node => (written.cells node).stamp :=
      loop.trans (handedFrames_eq codec framed' (by omega))
    refine ⟨0, encoded, part', free'', by simp [opusEncEncode, data, writes, encodes], framed'',
      stamped'', ?_, ?_, ?_⟩
    · rw [handed, List.length_map, ← encoder]
      rw [List.length_append] at moved
      omega
    · rw [loop]
      exact (SentStamps.nothing sent).append (sentStamps_encodeFrames codec encodes)
    · intro index stamp found
      rw [handed, List.getElem?_map, Option.map_eq_some_iff] at found
      obtain ⟨node, queued, rfl⟩ := found
      rw [← encoder]
      refine stamped'.stamps index node (getElem?_append_of_some queued part') ?_
      rw [framed'.filled node (List.mem_of_getElem? queued)]
      exact valid.frameSamples_pos
  · -- a call without data is refused and leaves everything as it is
    obtain empty : block.data = [] := List.eq_nil_of_length_eq_zero (by omega)
    have nothing : config.blockStamps block = [] := by
      simp [AudioEncConfig.blockStamps, empty, AudioEncConfig.getSampleCount]
    have handed : ctx.handedInCall codec steps block = [] := if_neg data
    refine ⟨-1, ctx, part, free, by simp [opusEncEncode, data], ?_, ?_, by rw [handed]; rfl,
      handed ▸ .nothing rfl, ?_⟩
    · simpa [AudioEncConfig.wholeSamples, empty] using framed
    · rw [nothing, List.append_nil]
      exact stamped
    · intro index stamp found
      rw [handed] at found
      cases found

theorem HandedStamps.append {before : Nat} {first second : List AudioStamp}
    (handed : HandedStamps config stream before first)
    (later : HandedStamps config stream (before + first.length) second) :
    HandedStamps config stream before (first ++ second) := by
  intro index stamp found
  rcases Nat.lt_or_ge index first.length with inside | behind
  · rw [List.getElem?_append_left inside] at found
    exact handed index stamp found
  · rw [List.getElem?_append_right behind] at found
    have position := later (index - first.length) stamp found
    rw [Nat.add_assoc, Nat.add_sub_cancel' behind] at position
    exact position

/-- The k-th frame that is handed over has the stamp of the sample at its start. -/
theorem encodeAll_stamped (codec : OpusCodec) {steps : Nat} (valid : config.Valid)
    (blocks : List AudioBlock) (framed : Framed config input ctx [] part free)
    (stamped : Stamped config stream ctx part)
    (enough : ∀ block ∈ blocks, block.data.length + 1 < steps) :
    ∃ ctx', encodeAll codec steps ctx blocks = some ctx' ∧
      ctx'.encoder.length = ctx.encoder.length + (handedInAll codec steps ctx blocks).length ∧
      SentStamps ctx ctx' (handedInAll codec steps ctx blocks) ∧
      HandedStamps config (stream ++ blocks.flatMap config.blockStamps) ctx.encoder.length
        (handedInAll codec steps ctx blocks) := by
  -- on the blocks, from the first: what a call leaves is what the next starts from
  induction blocks generalizing input ctx part free stream with
  | nil => exact ⟨ctx, rfl, rfl, .nothing rfl, fun index stamp found => by cases found⟩
  | cons block blocks ih =>
    rw [List.forall_mem_cons] at enough
    obtain ⟨result, ctx', part', free', encodes, framed', stamped', count, sent, handed⟩ :=
      opusEncEncode_stamped codec valid block framed stamped enough.1
    obtain ⟨ctx'', rest, countRest, sentRest, handedRest⟩ := ih framed' stamped' enough.2
    have both : handedInAll codec steps ctx (block :: blocks) =
        ctx.handedInCall codec steps block ++ handedInAll codec steps ctx' blocks := by
      simp [handedInAll, encodes]
    refine ⟨ctx'', by simp [encodeAll, encodes, rest], ?_, ?_, ?_⟩
    · rw [both, List.length_append, countRest, count, Nat.add_assoc]
    · rw [both]
      exact sent.append sentRest
    · rw [both, List.flatMap_cons, ← List.append_assoc]
      rw [count] at handedRest
      refine HandedStamps.append ?_ handedRest
      intro index stamp found
      exact getElem?_append_of_some (handed index stamp found) _

/-! ## The sample clock -/

/-- The samples of the blocks, in one channel. -/
def samplesOf (config : AudioEncConfig) (blocks : List AudioBlock) : Nat :=
  (blocks.map fun block => config.getSampleCount block.data.length).sum

/-- The calls give the time after their last sample, by a clock that counts samples from `start`. -/
structure OnSampleClock (config : AudioEncConfig) (start : Int) (blocks : List AudioBlock) :
    Prop where
  few : ∀ block ∈ blocks, config.getSampleCount block.data.length < 2147483
  clocked : ∀ past block rest, blocks = past ++ block :: rest →
    block.ntpInMs = start + (samplesOf config (past ++ [block]) / (config.sampleRate / 1000) : Nat)

/-- A stamp in the stream is that of one sample of one call. -/
theorem exists_block_of_getElem? {blocks : List AudioBlock} {position : Nat} {stamp : AudioStamp}
    (found : (blocks.flatMap config.blockStamps)[position]? = some stamp) :
    ∃ past block rest sample, blocks = past ++ block :: rest ∧
      position = samplesOf config past + sample ∧
      sample < config.getSampleCount block.data.length ∧
      stamp = config.sampleStamp (block.ntpInMs -
        config.getSampleDuration (config.getSampleCount block.data.length)) block.opaqueData
          sample := by
  -- on the blocks; a position behind the first is counted from its end
  induction blocks generalizing position with
  | nil => cases found
  | cons block blocks ih =>
    have length : (config.blockStamps block).length = config.getSampleCount block.data.length := by
      simp [AudioEncConfig.blockStamps]
    rw [List.flatMap_cons] at found
    rcases Nat.lt_or_ge position (config.blockStamps block).length with inside | behind
    · rw [List.getElem?_append_left inside] at found
      refine ⟨[], block, blocks, position, rfl, by simp [samplesOf], length ▸ inside, ?_⟩
      rw [length] at inside
      simp only [AudioEncConfig.blockStamps, List.getElem?_map, List.getElem?_range inside,
        Option.map_some, Option.some.injEq] at found
      exact found.symm
    · rw [List.getElem?_append_right behind] at found
      obtain ⟨past, other, rest, sample, rfl, reached, inside, rfl⟩ := ih found
      refine ⟨block :: past, other, rest, sample, rfl, ?_, inside, rfl⟩
      rw [samplesOf] at reached ⊢
      rw [List.map_cons, List.sum_cons, ← length]
      omega

theorem getSampleDuration_eq_div (valid : config.Valid) {samples : Nat} (few : samples < 2147483) :
    config.getSampleDuration samples = (samples / (config.sampleRate / 1000) : Nat) := by
  have kilohertz := valid.sampleRate_eq
  have unwrapped : ((samples * 1000 : Nat) : Int).bmod 0x100000000 = (samples * 1000 : Nat) :=
    Int.bmod_eq_of_le (by omega) (by omega)
  have divided : samples * 1000 / config.sampleRate = samples / (config.sampleRate / 1000) := by
    conv_lhs => rw [← kilohertz]
    exact Nat.mul_div_mul_right _ _ (by decide)
  rw [← divided, Int.ofNat_tdiv]
  exact congrArg (Int.tdiv · config.sampleRate) unwrapped

/-- Three roundings down lose a millisecond at most. -/
theorem stamp_near {rate before sample samples frame : Nat} (positive : 0 < rate)
    (begins : frame * (rate * 20) = before + sample) (inside : sample < samples) (start : Int) :
    start + ((before + samples) / rate : Nat) - (samples / rate : Nat) + (sample / rate : Nat) =
        start + 20 * frame - 1 ∨
      start + ((before + samples) / rate : Nat) - (samples / rate : Nat) + (sample / rate : Nat) =
        start + 20 * frame := by
  obtain ⟨left, rfl⟩ := Nat.exists_eq_add_of_le (Nat.le_of_lt inside)
  have reached : (before + (sample + left)) / rate = left / rate + frame * 20 := by
    rw [← Nat.add_assoc, ← begins, Nat.add_comm, Nat.mul_left_comm,
      Nat.add_mul_div_left _ _ positive]
  -- the two parts of a block are rounded together or apart
  rw [reached, Nat.add_div positive]
  split <;> omega

/-- Every frame that is handed to `opus_encode` has the time of its first sample by the sample
clock, or a millisecond less, and the data of the call that brought this sample.  The packets that
are sent carry what their frames have. -/
theorem handed_near_sampleClock (codec : OpusCodec) (config : AudioEncConfig) (cbOut : Bool)
    (cells : Nat → AudioFrame) (valid : config.Valid) (start : Int) (blocks : List AudioBlock)
    (timed : OnSampleClock config start blocks) (steps : Nat)
    (enough : ∀ block ∈ blocks, block.data.length + 1 < steps) :
    ∃ begun ctx, opusEncInit config cbOut cells = some begun ∧
      encodeAll codec steps begun blocks = some ctx ∧
      (handedInAll codec steps begun blocks).length = ctx.encoder.length ∧
      (ctx.sent.map AudioEncFrameBs.stamp).Sublist (handedInAll codec steps begun blocks) ∧
      ∀ (frame : Nat) (stamp : AudioStamp),
        (handedInAll codec steps begun blocks)[frame]? = some stamp →
        (stamp.ntp = start + 20 * frame - 1 ∨ stamp.ntp = start + 20 * frame) ∧
        ∃ past block rest, blocks = past ++ block :: rest ∧
          samplesOf config past ≤ frame * config.frameSamples ∧
          frame * config.frameSamples < samplesOf config (past ++ [block]) ∧
          stamp.opaqueData = block.opaqueData := by
  obtain ⟨begun, initialised, framed⟩ := opusEncInit_framed valid cbOut cells
  obtain ⟨nothing, unsent⟩ : begun.encoder = [] ∧ begun.sent = [] := by
    rw [opusEncInit, if_pos valid, Option.some.injEq] at initialised
    rw [← initialised]
    exact ⟨rfl, rfl⟩
  have stamped : Stamped config [] begun [] :=
    ⟨by simp [nothing], fun index node found => by cases found⟩
  obtain ⟨ctx, encoded, count, ⟨packets, sent, stamps⟩, handed⟩ :=
    encodeAll_stamped codec valid blocks framed stamped enough
  rw [nothing, List.length_nil, Nat.zero_add] at count
  rw [unsent, List.nil_append] at sent
  refine ⟨begun, ctx, initialised, encoded, count.symm, sent ▸ stamps, fun frame stamp found => ?_⟩
  have sampled := handed frame stamp found
  rw [nothing, List.length_nil, Nat.zero_add, List.nil_append] at sampled
  -- the block that brought the first sample of the frame
  obtain ⟨past, block, rest, sample, split, position, inside, rfl⟩ :=
    exists_block_of_getElem? sampled
  have few := timed.few block (by simp [split])
  have total : samplesOf config (past ++ [block]) =
      samplesOf config past + config.getSampleCount block.data.length := by
    simp [samplesOf]
  refine ⟨?_, past, block, rest, split, by omega, by omega, rfl⟩
  simp only [AudioEncConfig.sampleStamp, AudioEncConfig.getSampleNtp]
  rw [getSampleDuration_eq_div valid few, getSampleDuration_eq_div valid (inside.trans few),
    timed.clocked past block rest split, total]
  exact stamp_near (valid.kilohertz_pos) position inside start

theorem twoBlocks_onSampleClock : OnSampleClock ⟨8000, 1, 16⟩ 0 twoBlocks := by
  constructor
  · decide +kernel
  · intro past block rest split
    rw [twoBlocks] at split
    -- the first block or the second
    rcases past with _ | ⟨first, _ | ⟨second, past⟩⟩
    · rw [List.nil_append, List.cons.injEq] at split
      obtain ⟨rfl, -⟩ := split
      decide +kernel
    · rw [List.cons_append, List.nil_append, List.cons.injEq, List.cons.injEq] at split
      obtain ⟨rfl, rfl, -⟩ := split
      decide +kernel
    · have length := congrArg List.length split
      simp only [List.length_append, List.length_cons, List.length_nil] at length
      omega

/-- 8 kHz mono: the frame has the time and the data of the first call, and so has its packet. -/
theorem handed_near_sampleClock_eightKhz :
    ∃ begun ctx, opusEncInit ⟨8000, 1, 16⟩ true (fun _ => ⟨fun _ => 0, 0, 0, 0, none⟩) =
        some begun ∧
      encodeAll (fun _ => (3, 160)) 203 begun twoBlocks = some ctx ∧
      handedInAll (fun _ => (3, 160)) 203 begun twoBlocks = [⟨0, 9⟩] ∧
      ctx.sent = [⟨3, 160, 0, 9⟩] ∧
      (ctx.sent.map AudioEncFrameBs.stamp).Sublist [⟨0, 9⟩] ∧
      ((0 : Int) = 0 + 20 * (0 : Nat) - 1 ∨ (0 : Int) = 0 + 20 * (0 : Nat)) := by
  obtain ⟨begun, ctx, initialised, encoded, -, sent, near⟩ := handed_near_sampleClock
    (fun _ => (3, 160)) ⟨8000, 1, 16⟩ true (fun _ => ⟨fun _ => 0, 0, 0, 0, none⟩) (by decide) 0
    twoBlocks twoBlocks_onSampleClock 203 (by decide +kernel)
  have runs : ((opusEncInit ⟨8000, 1, 16⟩ true (fun _ => ⟨fun _ => 0, 0, 0, 0, none⟩)).map
      fun begun => (handedInAll (fun _ => (3, 160)) 203 begun twoBlocks,
        (encodeAll (fun _ => (3, 160)) 203 begun twoBlocks).map OpusEncContext.sent)) =
      some ([⟨0, 9⟩], some [⟨3, 160, 0, 9⟩]) := by decide +kernel
  rw [initialised, Option.map_some, Option.some.injEq, Prod.mk.injEq, encoded, Option.map_some,
    Option.some.injEq] at runs
  obtain ⟨handed, packets⟩ := runs
  rw [handed] at sent near
  exact ⟨begun, ctx, initialised, encoded, handed, packets, sent, (near 0 ⟨0, 9⟩ rfl).1⟩

end OpusEncContext

end RtpPlayer
