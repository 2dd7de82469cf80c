import RtpPlayer.MediaCodec.OpusDec
import RtpPlayer.Player.MediaPath
import RtpPlayer.Renders.AudioBlocks

/-! # The sound side of the player

`AudioDecoder`, the copy that `AVFrame` makes of a block, and the check of `AudioPlayer`.  The
decoder and the renderer make up one `MediaSide`; what it plays are the samples of the packets. -/

namespace RtpPlayer

open Foundations

/-- `AVFrame::create_instance` for a block; behind the copy is what the new memory holds. -/
def AudioDecPcm.createInstance (pcm : AudioDecPcm) (beyond : Memory Int16) : AudioDecPcm :=
  { pcm with pcm := Memory.ofList (pcm.pcm.slice 0 (pcm.len / opusSampleLength).toNat) beyond }

/-- The check of `on_decoded_pcm`. -/
def AudioDecPcm.isValid (pcm : AudioDecPcm) : Bool :=
  ¬ (pcm.sampleRate ≤ 0 ∨ pcm.channels ≤ 0 ∨ pcm.bitsPerSample ≤ 0)

namespace AudioDecoder

variable {δ : Type} (library : OpusLibrary δ)

/-- `decode`, with the frame that `dec_pcm_output` makes. -/
def decode (ctx : OpusDecContext δ) (frame : SentFrame) (beyond : Memory Int16) :
    OpusDecContext δ × Option AudioDecPcm :=
  let (ctx, _, pcm) := ctx.decode library true frame.data frame.pts
  (ctx, pcm.map fun pcm => pcm.createInstance beyond)

/-- With a frame come the answer of OpenSL and what new half buffers would hold. -/
def side : MediaSide (OpusDecContext δ) AudioDecPcm (Memory Int16) AudioOut
    (Bool × (Bool → Memory Int16)) AudioCall AudioEvent where
  kind := .audio
  decode := decode library
  accepts := AudioDecPcm.isValid
  pts := AudioDecPcm.pts
  renderer := AudioOut.machine
  onFrame frame found := .onFrame frame found.1 found.2
  frame? := AudioCall.frame?
  frame?_onFrame _ _ := rfl

end AudioDecoder

theorem AudioDecPcm.samplesOf_createInstance {pcm : AudioDecPcm} (bits : pcm.bitsPerSample = 16)
    (beyond : Memory Int16) :
    AudioOut.samplesOf (pcm.createInstance beyond) = AudioOut.samplesOf pcm := by
  have length : (opusSampleLength : Int) = 2 := rfl
  have cells : (pcm.pcm.slice 0 (pcm.len / 2).toNat).length = (pcm.len / 2).toNat :=
    Memory.slice_length ..
  have copied := Memory.slice_ofList (pcm.pcm.slice 0 (pcm.len / 2).toNat) beyond
  rw [cells] at copied
  simpa [AudioOut.samplesOf, createInstance, bits, length] using copied

namespace AudioDecoder

variable {δ : Type} {library : OpusLibrary δ} {ctx : OpusDecContext δ}

/-- The one format of all blocks. -/
structure Playable (pcm : AudioDecPcm) : Prop where
  sampleRate : pcm.sampleRate = opusFullband
  channels : pcm.channels = OpusLibrary.channels
  bitsPerSample : pcm.bitsPerSample = 16

/-- One packet leads to its samples, or to nothing where the library reports an error. -/
theorem decoding_step (fullband : ctx.Fullband) (input : SentFrame × Memory Int16) :
    (∀ pcm ∈ ((side library).decoding.step ctx input).2, Playable pcm) ∧
      ((side library).decoding.step ctx input).2.flatMap AudioOut.samplesOf =
        library.samplesOf ctx.decoder input.1.data := by
  obtain ⟨frame, beyond⟩ := input
  have frames : ((side library).decoding.step ctx (frame, beyond)).2 =
    (((ctx.decode library true frame.data frame.pts).2.2.map fun pcm =>
      pcm.createInstance beyond).filter AudioDecPcm.isValid).toList := rfl
  rw [frames]
  cases decoded : (ctx.decode library true frame.data frame.pts).2.2 with
  | none => simp [fullband.samplesOf_of_none decoded]
  | some pcm =>
    have decodes := fullband.decodes decoded
    have valid : (pcm.createInstance beyond).isValid = true := by
      simp [AudioDecPcm.isValid, AudioDecPcm.createInstance, decodes.sampleRate, decodes.channels,
        decodes.bitsPerSample, opusFullband, OpusLibrary.channels]
    have samples := AudioDecPcm.samplesOf_createInstance decodes.bitsPerSample beyond
    simp only [Option.map_some, Option.filter_some, valid, if_true, Option.toList_some,
      List.mem_singleton, forall_eq, List.flatMap_cons, List.flatMap_nil, List.append_nil]
    exact ⟨⟨decodes.sampleRate, decodes.channels, decodes.bitsPerSample⟩,
      samples.trans decodes.samples⟩

/-- The blocks that are pushed are of one format and hold the samples of the packets. -/
theorem pushed_samples (fullband : ctx.Fullband) (decodes : List (SentFrame × Memory Int16)) :
    (∀ pcm ∈ (side library).decoding.emissions ctx decodes, Playable pcm) ∧
      ((side library).decoding.emissions ctx decodes).flatMap AudioOut.samplesOf =
        library.samples ctx.decoder (decodes.map fun call => call.1.data) := by
  induction decodes generalizing ctx with
  | nil => simp [OpusLibrary.samples]
  | cons call decodes ih =>
    obtain ⟨playable, samples⟩ := @decoding_step _ library _ fullband call
    obtain ⟨next, decoder⟩ := @OpusDecContext.Fullband.decode _ library true _ fullband call.1.data
      call.1.pts
    obtain ⟨rest, more⟩ := ih next
    rw [Machine.emissions_cons, List.flatMap_append, samples, List.map_cons, OpusLibrary.samples,
      ← decoder]
    exact ⟨List.forall_mem_append.mpr ⟨playable, rest⟩, congrArg _ more⟩

end AudioDecoder

end RtpPlayer
