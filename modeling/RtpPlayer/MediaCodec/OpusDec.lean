import RtpPlayer.Renders.AudioOut

/-! # The Opus decoder

The model of `MediaCodec/jni/opusdec.c` but for what it allocates.  Of `opus_decode` it is taken
what its documentation says, that it decodes no more samples than there is room for. -/

namespace RtpPlayer

open Foundations

/-- `OPUS_FULLBAND` -/
def opusFullband : Nat := 48000

/-- `OPUS_SAMPLE_PRECISION` -/
def opusSamplePrecision : Nat := 16

/-- `OPUS_SAMPLE_LENGTH` -/
def opusSampleLength : Nat := opusSamplePrecision >>> 3

/-- `opus_decode` on decoders `δ`: the number of samples of a channel, not positive for an error,
and what it leaves in `pcm`. -/
structure OpusLibrary (δ : Type) where
  opusDecode : δ → List UInt8 → Nat → δ × Int × Memory Int16
  samples_le : ∀ decoder packet frameSize,
    (opusDecode decoder packet frameSize).2.1 ≤ frameSize

/-- The room for the samples of a channel, and the channels, that `opus_dec_init` sets. -/
def OpusLibrary.maxFrameSize : Nat := opusFullband * opusSampleLength

def OpusLibrary.channels : Nat := 2

section Meaning

variable {δ : Type} (library : OpusLibrary δ)

/-- The samples of a packet, those of both channels; none where it is not a packet. -/
def OpusLibrary.samplesOf (decoder : δ) (packet : List UInt8) : List Int16 :=
  let (_, samples, pcm) := library.opusDecode decoder packet maxFrameSize
  pcm.slice 0 (samples * channels).toNat

/-- The samples of packets one after the other. -/
def OpusLibrary.samples : δ → List (List UInt8) → List Int16
  | _, [] => []
  | decoder, packet :: packets =>
    library.samplesOf decoder packet ++
      OpusLibrary.samples (library.opusDecode decoder packet maxFrameSize).1 packets

theorem OpusLibrary.samples_append (decoder : δ) (first second : List (List UInt8)) :
    ∃ next, library.samples decoder (first ++ second) =
      library.samples decoder first ++ library.samples next second := by
  induction first generalizing decoder with
  | nil => exact ⟨decoder, rfl⟩
  | cons packet first ih =>
    obtain ⟨next, same⟩ := ih (library.opusDecode decoder packet maxFrameSize).1
    refine ⟨next, ?_⟩
    rw [List.cons_append, samples, same, samples, List.append_assoc]

end Meaning

structure OpusDecContext (δ : Type) where
  sampleRate : Nat
  channels : Nat
  maxFrameSize : Nat
  lastPts : Int
  decoder : δ

namespace OpusDecContext

variable {δ : Type}

/-- After `opus_dec_init`, with the decoder of the library. -/
def init (decoder : δ) : OpusDecContext δ where
  sampleRate := opusFullband
  channels := OpusLibrary.channels
  maxFrameSize := OpusLibrary.maxFrameSize
  lastPts := 0
  decoder := decoder

/-- `opus_dec_decode`: what it leaves and returns, and the block that `cb_out` is called with. -/
def decode (library : OpusLibrary δ) (cbOut : Bool) (ctx : OpusDecContext δ) (packet : List UInt8)
    (pts : Int) : OpusDecContext δ × Int × Option AudioDecPcm :=
  -- `lost` is 0 throughout, so no packet is concealed
  let (decoder, samples, pcm) := library.opusDecode ctx.decoder packet ctx.maxFrameSize
  let ctx := { ctx with decoder := decoder }
  if samples ≤ 0 then
    (ctx, -1, none)
  else
    ({ ctx with lastPts := pts }, 0,
      if cbOut then
        some {
          pcm := pcm
          len := samples * ctx.channels * opusSampleLength
          sampleRate := ctx.sampleRate
          channels := ctx.channels
          bitsPerSample := opusSamplePrecision
          durationMs := Int32.ofInt (samples * 1000 / ctx.sampleRate)
          pts := UInt32.ofInt pts }
      else none)

/-- The format that `opus_dec_init` sets and nothing changes. -/
structure Fullband (ctx : OpusDecContext δ) : Prop where
  sampleRate : ctx.sampleRate = opusFullband
  channels : ctx.channels = OpusLibrary.channels
  maxFrameSize : ctx.maxFrameSize = OpusLibrary.maxFrameSize

theorem fullband_init (decoder : δ) : (init decoder).Fullband := ⟨rfl, rfl, rfl⟩

variable {library : OpusLibrary δ} {cbOut : Bool} {ctx : OpusDecContext δ}

theorem Fullband.decode (fullband : ctx.Fullband) (packet : List UInt8) (pts : Int) :
    (ctx.decode library cbOut packet pts).1.Fullband ∧
      (ctx.decode library cbOut packet pts).1.decoder =
        (library.opusDecode ctx.decoder packet OpusLibrary.maxFrameSize).1 := by
  rw [← fullband.maxFrameSize]
  simp only [OpusDecContext.decode]
  split <;> exact ⟨⟨fullband.sampleRate, fullband.channels, fullband.maxFrameSize⟩, rfl⟩

/-- A block holds the samples of its packet in a format the renderer plays, and its size in bytes
does not overflow. -/
structure Decodes (library : OpusLibrary δ) (decoder : δ) (packet : List UInt8)
    (pcm : AudioDecPcm) : Prop where
  samples : AudioOut.samplesOf pcm = library.samplesOf decoder packet
  sampleRate : pcm.sampleRate = opusFullband
  channels : pcm.channels = OpusLibrary.channels
  bitsPerSample : pcm.bitsPerSample = 16
  positive : 0 < pcm.len
  fits : pcm.len < 2 ^ 31

theorem Fullband.decodes {packet : List UInt8} {pts : Int} {pcm : AudioDecPcm}
    (fullband : ctx.Fullband) (decoded : (ctx.decode library cbOut packet pts).2.2 = some pcm) :
    Decodes library ctx.decoder packet pcm := by
  simp only [OpusDecContext.decode, fullband.maxFrameSize, fullband.channels,
    fullband.sampleRate] at decoded
  split at decoded
  case isTrue => cases decoded
  case isFalse some =>
    simp only [Option.ite_none_right_eq_some, Option.some.injEq] at decoded
    obtain ⟨-, rfl⟩ := decoded
    have length : opusSampleLength = 2 := rfl
    have channels : OpusLibrary.channels = 2 := rfl
    have room : (OpusLibrary.maxFrameSize : Int) = 96000 := rfl
    have most : (library.opusDecode ctx.decoder packet OpusLibrary.maxFrameSize).2.1 ≤ 96000 :=
      room ▸ library.samples_le ctx.decoder packet OpusLibrary.maxFrameSize
    constructor
    case samples =>
      simp only [AudioOut.samplesOf, OpusLibrary.samplesOf, channels, length]
      congr 2
      have bits : (opusSamplePrecision : Int) / 8 = 2 := rfl
      rw [bits]
      omega
    case sampleRate => rfl
    case channels => rfl
    case bitsPerSample => rfl
    case positive =>
      simp only [channels, length]
      omega
    case fits =>
      simp only [channels, length]
      change (library.opusDecode ctx.decoder packet OpusLibrary.maxFrameSize).2.1 * _ * _ < _
      omega

/-- Without a block there are no samples: the library reported an error. -/
theorem Fullband.samplesOf_of_none {packet : List UInt8} {pts : Int} (fullband : ctx.Fullband)
    (failed : (ctx.decode library true packet pts).2.2 = none) :
    library.samplesOf ctx.decoder packet = [] := by
  simp only [OpusDecContext.decode, fullband.maxFrameSize] at failed
  split at failed
  case isFalse => simp at failed
  case isTrue error =>
    have empty : ((library.opusDecode ctx.decoder packet OpusLibrary.maxFrameSize).2.1 *
        OpusLibrary.channels).toNat = 0 := by
      rw [Int.toNat_eq_zero]
      exact Int.mul_nonpos_of_nonpos_of_nonneg error (Int.natCast_nonneg _)
    simp only [OpusLibrary.samplesOf]
    change Memory.slice _ 0 ((library.opusDecode ctx.decoder packet
      OpusLibrary.maxFrameSize).2.1 * OpusLibrary.channels).toNat = []
    rw [empty]
    exact Memory.slice_zero ..

end OpusDecContext

end RtpPlayer
