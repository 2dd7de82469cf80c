import RtpPlayer.Foundations.Machine
import RtpPlayer.Foundations.Memory
import RtpPlayer.Foundations.Wrapping

/-! # The audio renderer

The model of `Renders/AudioOut` and the clock it takes from `Renders/AVOutBase`.  What goes to
OpenSL is part of what `on_frame` returns: every sample stored in a half buffer, every `Enqueue` and
every `Wait`, in order.  OpenSL itself is an answer to each frame, whether the device opens if it is
asked to. -/

namespace RtpPlayer

open Foundations

/-- `audio_dec_pcm`, as far as `AVFrame` shows it; `get_pts` cuts the timestamp to 32 bits. -/
structure AudioDecPcm where
  pcm : Memory Int16
  /-- In bytes. -/
  len : Int
  sampleRate : Int
  channels : Int
  bitsPerSample : Int
  durationMs : Int32
  pts : UInt32

/-- What `on_frame` does to the half buffers and to the queue of the player. -/
inductive AudioEvent where
  | store (half : Bool) (index : Nat) (sample : Int16)
  | enqueue (half : Bool) (samples : List Int16)
  /-- Returns when the buffer has been played. -/
  | wait
  deriving DecidableEq

structure AudioOut where
  currentOutputIndex : Nat
  /-- The half 0 or 1 that is filled. -/
  currentOutputBuffer : Bool
  outputBuffer : Bool → Memory Int16
  outBufSamples : Nat
  channels : Int
  sampleRate : Int
  lastPts : UInt32
  lastDuration : UInt32
  renderTime : Int32

/-- `SAMPLE_BLOCK_SIZE_MS` -/
def sampleBlockSizeMs : Nat := 20

namespace AudioOut

/-- The constructor leaves the members of the half buffers as they are. -/
def create (currentOutputIndex : Nat) (currentOutputBuffer : Bool)
    (outputBuffer : Bool → Memory Int16) (outBufSamples : Nat) : AudioOut where
  currentOutputIndex := currentOutputIndex
  currentOutputBuffer := currentOutputBuffer
  outputBuffer := outputBuffer
  outBufSamples := outBufSamples
  channels := 0
  sampleRate := 0
  lastPts := 0
  lastDuration := 0
  renderTime := 0

def clear (out : AudioOut) : AudioOut := { out with channels := 0, sampleRate := 0 }

/-- The sampling rates `open_device` knows. -/
def samplingRates : List Int :=
  [8000, 11025, 16000, 22050, 24000, 32000, 44100, 48000, 64000, 88200, 96000, 192000]

/-- The checks of `open_device`; what is left is up to OpenSL. -/
def opensDevice (sampleRate channels bitsPerSample : Int) (opensl : Bool) : Bool :=
  0 < channels ∧ (bitsPerSample = 8 ∨ bitsPerSample = 16) ∧ sampleRate ∈ samplingRates ∧ opensl

/-- `init`, with whatever the new half buffers hold; `none` where it fails.  OpenSL takes no more
channels than the two speakers of the mask, so the size of a half buffer does not overflow. -/
def init (out : AudioOut) (sampleRate channels : Int) (opensl : Bool)
    (allocated : Bool → Memory Int16) : Option AudioOut :=
  if opensDevice sampleRate channels 16 opensl then
    let outBufSamples := sampleBlockSizeMs * sampleRate.toNat / 1000 * channels.toNat
    some { out with
      outBufSamples := outBufSamples
      outputBuffer := if outBufSamples ≠ 0 then allocated else out.outputBuffer
      renderTime := 0
      channels := channels
      sampleRate := sampleRate
      currentOutputIndex := 0
      currentOutputBuffer := false }
  else none

/-- The body of the loop of `on_frame` over the samples. -/
def putSample (out : AudioOut) (sample : Int16) : AudioOut × List AudioEvent :=
  let half := out.currentOutputBuffer
  let stored := AudioEvent.store half out.currentOutputIndex sample
  let out := { out with
    outputBuffer := fun other =>
      if other = half then (out.outputBuffer half).write out.currentOutputIndex [sample]
      else out.outputBuffer other
    currentOutputIndex := out.currentOutputIndex + 1 }
  if out.currentOutputIndex ≥ out.outBufSamples then
    ({ out with currentOutputBuffer := !half, currentOutputIndex := 0 },
      [stored, .enqueue half ((out.outputBuffer half).slice 0 out.outBufSamples), .wait])
  else (out, [stored])

def putSamples (out : AudioOut) : List Int16 → AudioOut × List AudioEvent
  | [] => (out, [])
  | sample :: samples =>
    let (put, events) := out.putSample sample
    let (rest, more) := put.putSamples samples
    (rest, events ++ more)

/-- The end of `on_frame`: the clock goes on by the gap to the last frame and by this one. -/
def advanceClock (out : AudioOut) (frame : AudioDecPcm) : AudioOut :=
  let gap := if out.renderTime = 0 then 0
    else (frame.pts - out.lastPts) * 1000 / frame.sampleRate.toNat.toUInt32 - out.lastDuration
  { out with
    renderTime := out.renderTime + (gap + frame.durationMs.toUInt32).toInt32
    lastPts := frame.pts
    lastDuration := frame.durationMs.toUInt32 }

/-- The samples of the frame. -/
def samplesOf (frame : AudioDecPcm) : List Int16 :=
  frame.pcm.slice 0 (frame.len / (frame.bitsPerSample / 8)).toNat

def onFrame (out : AudioOut) (frame : AudioDecPcm) (opensl : Bool)
    (allocated : Bool → Memory Int16) : AudioOut × List AudioEvent :=
  if frame.bitsPerSample ≠ 16 then (out, [])
  else if out.channels ≠ frame.channels ∨ out.sampleRate ≠ frame.sampleRate then
    match out.clear.init frame.sampleRate frame.channels opensl allocated with
    | none => (out.clear, [])
    | some opened =>
      let (put, events) := opened.putSamples (samplesOf frame)
      (put.advanceClock frame, events)
  else
    let (put, events) := out.putSamples (samplesOf frame)
    (put.advanceClock frame, events)

/-- `stop_clock` is `reset_time`. -/
def stopClock (out : AudioOut) : AudioOut := { out with renderTime := 0 }

def clockMs (out : AudioOut) : Int32 := out.renderTime

end AudioOut

/-- What is called on the renderer.  With a frame come the answer of OpenSL, should the device be
opened, and what new half buffers would hold. -/
inductive AudioCall where
  | onFrame (frame : AudioDecPcm) (opensl : Bool) (allocated : Bool → Memory Int16)
  | stopClock

namespace AudioCall

def frame? : AudioCall → Option AudioDecPcm
  | onFrame frame _ _ => some frame
  | stopClock => none

/-- The frames of the calls. -/
def frames (calls : List AudioCall) : List AudioDecPcm := calls.filterMap frame?

end AudioCall

/-- The renderer under any calls; it puts out what it does to the half buffers and the player. -/
def AudioOut.machine : Machine AudioOut AudioCall (List AudioEvent) where
  step out
    | .onFrame frame opensl allocated => out.onFrame frame opensl allocated
    | .stopClock => (out.stopClock, [])

end RtpPlayer
