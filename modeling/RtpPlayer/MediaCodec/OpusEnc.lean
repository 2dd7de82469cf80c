import Mathlib.Logic.Function.Basic
import RtpPlayer.Foundations.LinkedLists
import RtpPlayer.Foundations.Memory

/-! # The Opus encoder

The model of `MediaCodec/jni/opusenc.c`.  An `AudioFrame *` is the number of the allocation that
returned it, so `allocated` frames are in the heap and the next one is the frame of that number;
`opus_alloc` does not fail.  The loops take as many steps as they are given, and are `none` when
these do not suffice. -/

namespace RtpPlayer

open Foundations

structure AudioEncConfig where
  sampleRate : Nat
  channels : Nat
  bitsPerSample : Nat

/-- `OPUS_SAMPLE_BITS` -/
def opusSampleBits : Nat := 16

/-- `OPUS_MAX_PACKET` -/
def opusMaxPacket : Int := 1500

/-- `OPUS_PACKET_DURATION` -/
def opusPacketDuration : Nat := 20

namespace AudioEncConfig

def getSampleSize (config : AudioEncConfig) (samples : Nat) : Nat :=
  (config.bitsPerSample >>> 3) * samples * config.channels

def getSampleCount (config : AudioEncConfig) (dataLenInBytes : Nat) : Nat :=
  dataLenInBytes / (config.bitsPerSample >>> 3) / config.channels

/-- The product is an `int` and wraps for the longest blocks. -/
def getSampleDuration (config : AudioEncConfig) (samples : Nat) : Int :=
  (((samples * 1000 : Nat) : Int).bmod 0x100000000).tdiv config.sampleRate

def getSampleNtp (config : AudioEncConfig) (samples : Nat) (ntp : Int) : Int :=
  ntp + config.getSampleDuration samples

/-- What `opus_enc_init` accepts. -/
def Valid (config : AudioEncConfig) : Prop :=
  config.bitsPerSample = opusSampleBits ∧ (config.channels = 1 ∨ config.channels = 2) ∧
    config.sampleRate ∈ [8000, 12000, 16000, 24000, 48000]

instance (config : AudioEncConfig) : Decidable config.Valid :=
  inferInstanceAs (Decidable (_ ∧ _ ∧ _))

end AudioEncConfig

structure AudioFrame where
  frame : Memory UInt8
  samples : Nat
  ntp : Int
  opaqueData : Int
  next : Option Nat

/-- `audio_enc_frame_bs`, without the bytes and the level of the packet. -/
structure AudioEncFrameBs where
  dataLen : Int
  samples : Int
  ntp : Int
  opaqueData : Int
  deriving DecidableEq

/-- Encoder and heap. -/
structure OpusEncContext where
  config : AudioEncConfig
  /-- The PCM blocks passed to `opus_encode`. -/
  encoder : List (List UInt8)
  dtxMode : Nat
  frameSamples : Nat
  frames : Option Nat
  freeFrames : Option Nat
  cells : Nat → AudioFrame
  allocated : Nat
  cbOut : Bool
  /-- What `cb_out` was called with. -/
  sent : List AudioEncFrameBs

/-- What the codec makes of the last of the blocks it was passed: the result of `opus_encode` and
the samples that the packet says it holds. -/
abbrev OpusCodec := List (List UInt8) → Int × Int

/-- An argument list of `opus_enc_encode`. -/
structure AudioBlock where
  data : List UInt8
  ntpInMs : Int
  opaqueData : Int

/-- `opus_enc_init`, with whatever memory holds that is not allocated yet. -/
def opusEncInit (config : AudioEncConfig) (cbOut : Bool) (cells : Nat → AudioFrame) :
    Option OpusEncContext :=
  if config.Valid then
    some {
      config := config
      encoder := []
      dtxMode := 0
      frameSamples := config.sampleRate / 1000 * opusPacketDuration
      frames := none
      freeFrames := none
      cells := cells
      allocated := 0
      cbOut := cbOut
      sent := []
    }
  else none

namespace OpusEncContext

def next (ctx : OpusEncContext) (frame : Nat) : Option Nat := (ctx.cells frame).next

/-- Write through a frame pointer. -/
def set (ctx : OpusEncContext) (frame : Nat) (cell : AudioFrame) : OpusEncContext :=
  { ctx with cells := Function.update ctx.cells frame cell }

/-! ## Writing -/

/-- A frame from the free list, or a new one. -/
def takeFrame (ctx : OpusEncContext) : Nat × OpusEncContext :=
  match ctx.freeFrames with
  | some frame => (frame, { ctx with freeFrames := ctx.next frame })
  | none => (ctx.allocated, { ctx with allocated := ctx.allocated + 1 })

/-- The frame is empty and the last of the queue. -/
def linkFrame (ctx : OpusEncContext) (frameTail : Option Nat) (frame : Nat) : OpusEncContext :=
  let ctx := ctx.set frame { ctx.cells frame with samples := 0, ntp := -1, next := none }
  match ctx.frames, frameTail with
  | some _, some tail => ctx.set tail { ctx.cells tail with next := some frame }
  | _, _ => { ctx with frames := some frame }

def getWritableFrame (steps : Nat) (ctx : OpusEncContext) : Option (Nat × OpusEncContext) := do
  let frameTail ← lastNode ctx.next steps ctx.frames
  match frameTail.filter fun tail => (ctx.cells tail).samples < ctx.frameSamples with
  | some tail => some (tail, ctx)
  | none =>
    let (frame, ctx) := ctx.takeFrame
    some (frame, ctx.linkFrame frameTail frame)

/-- The samples copied into a frame that is not full; the first of them carry their time. -/
def fillFrame (ctx : OpusEncContext) (frame offset cpySamples : Nat) (samples : List UInt8)
    (firstSampleNtp opaqueData : Int) : OpusEncContext :=
  let cell := ctx.cells frame
  let written := cell.frame.write (cell.samples * ctx.config.getSampleSize 1) samples
  let cell := if cell.samples = 0 then
      { cell with
        ntp := ctx.config.getSampleNtp (ctx.config.getSampleCount offset) firstSampleNtp
        opaqueData := opaqueData }
    else cell
  ctx.set frame { cell with frame := written, samples := cell.samples + cpySamples }

/-- The loop of `write_audio_frame`, with `offset` bytes of the audio consumed. -/
def writeSamples (steps : Nat) (audio : List UInt8) (firstSampleNtp opaqueData : Int) :
    Nat → OpusEncContext → Nat → Nat → Option OpusEncContext
  | 0, _, _, _ => none
  | fuel + 1, ctx, offset, samplesLeft =>
    if 0 < samplesLeft then do
      let (frame, ctx) ← ctx.getWritableFrame steps
      let remainingSamples := ctx.frameSamples - (ctx.cells frame).samples
      if 0 < remainingSamples then
        let cpySamples := if samplesLeft < remainingSamples then samplesLeft else remainingSamples
        let lenInBytes := cpySamples * ctx.config.getSampleSize 1
        let samples := (audio.drop offset).take lenInBytes
        writeSamples steps audio firstSampleNtp opaqueData fuel
          (ctx.fillFrame frame offset cpySamples samples firstSampleNtp opaqueData)
          (offset + lenInBytes) (samplesLeft - cpySamples)
      else writeSamples steps audio firstSampleNtp opaqueData fuel ctx offset samplesLeft
    else some ctx

def writeAudioFrame (steps : Nat) (ctx : OpusEncContext) (block : AudioBlock) :
    Option OpusEncContext :=
  let sampleSize := ctx.config.getSampleSize 1
  let len := block.data.length / sampleSize * sampleSize
  let samplesLeft := ctx.config.getSampleCount len
  let firstSampleNtp := block.ntpInMs - ctx.config.getSampleDuration samplesLeft
  writeSamples steps block.data firstSampleNtp block.opaqueData steps ctx 0 samplesLeft

/-! ## Encoding -/

/-- What `opus_encode` reads of a frame. -/
def pcm (ctx : OpusEncContext) (frame : Nat) : List UInt8 :=
  (ctx.cells frame).frame.slice 0 ((ctx.cells frame).samples * ctx.config.getSampleSize 1)

def releaseAudioFrame (ctx : OpusEncContext) (frame : Nat) : OpusEncContext :=
  { ctx.set frame { ctx.cells frame with next := ctx.freeFrames } with freeFrames := some frame }

/-- The body of the encoding loop: whatever `opus_encode` returns, the frame is shifted out. -/
def encodeFrame (codec : OpusCodec) (ctx : OpusEncContext) (frame : Nat) : OpusEncContext :=
  let encoder := ctx.encoder ++ [ctx.pcm frame]
  let (numBytes, samplesEncoded) := codec encoder
  let packet : AudioEncFrameBs := {
    dataLen := numBytes
    samples := samplesEncoded
    ntp := (ctx.cells frame).ntp
    opaqueData := (ctx.cells frame).opaqueData
  }
  let transmits := 0 < numBytes ∧ numBytes ≤ opusMaxPacket ∧ ctx.cbOut
  let ctx := { ctx with
    encoder := encoder
    dtxMode := if 0 < numBytes ∧ numBytes ≤ 2 then 1 else ctx.dtxMode
    sent := if transmits then ctx.sent ++ [packet] else ctx.sent
    frames := ctx.next frame }
  { ctx.releaseAudioFrame frame with dtxMode := 0 }

def encodeFrames (codec : OpusCodec) : Nat → OpusEncContext → Option OpusEncContext
  | 0, _ => none
  | fuel + 1, ctx =>
    match ctx.frames.filter fun frame => (ctx.cells frame).samples = ctx.frameSamples with
    | some frame => encodeFrames codec fuel (ctx.encodeFrame codec frame)
    | none => some ctx

/-- `opus_enc_encode`, whose result is 0 unless there are no data. -/
def opusEncEncode (codec : OpusCodec) (steps : Nat) (ctx : OpusEncContext) (block : AudioBlock) :
    Option (Int × OpusEncContext) :=
  if block.data.length > 0 then do
    let ctx ← ctx.writeAudioFrame steps block
    let ctx ← encodeFrames codec steps ctx
    some (0, ctx)
  else some (-1, ctx)

/-- One call after the other. -/
def encodeAll (codec : OpusCodec) (steps : Nat) :
    OpusEncContext → List AudioBlock → Option OpusEncContext
  | ctx, [] => some ctx
  | ctx, block :: blocks => do
    let (_, ctx) ← ctx.opusEncEncode codec steps block
    encodeAll codec steps ctx blocks

end OpusEncContext

end RtpPlayer
