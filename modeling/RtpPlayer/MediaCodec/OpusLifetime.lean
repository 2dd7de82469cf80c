import RtpPlayer.Foundations.Heap
import RtpPlayer.MediaCodec.OpusEnc

/-! # The heap of the Opus encoder

`MediaCodec/jni/audioenc.c` and the allocations of `opusenc.c`: create, init, encode and destroy
over a heap of cells.  Of a frame only what decides where it goes is kept, its samples and its link.
The encoder of the library is one cell. -/

namespace RtpPlayer

open Foundations HeapProgram

/-- `AUDIO_CODEC_TYPE` -/
inductive AudioCodecType where
  | null
  | opus
  | aac
  deriving DecidableEq

namespace OpusLifetime

/-- `audio_enc_context` -/
structure AudioContext where
  privCtx : Option Nat
  config : AudioEncConfig

/-- `opus_enc_context` -/
structure OpusContext where
  encoder : Option Nat
  dtxMode : Nat
  frameSamples : Nat
  frames : Option Nat
  freeFrames : Option Nat

structure Frame where
  samples : Nat
  next : Option Nat

inductive Cell where
  | context (ctx : AudioContext)
  | opusContext (opusCtx : OpusContext)
  | opusEncoder
  | frame (cell : Frame)

namespace Cell

def asContext : Cell → Option AudioContext
  | .context ctx => some ctx
  | _ => none

def asOpusContext : Cell → Option OpusContext
  | .opusContext opusCtx => some opusCtx
  | _ => none

def asOpusEncoder : Cell → Option Unit
  | .opusEncoder => some ()
  | _ => none

def asFrame : Cell → Option Frame
  | .frame cell => some cell
  | _ => none

@[simp] theorem asContext_context (ctx : AudioContext) :
    (Cell.context ctx).asContext = some ctx := rfl

@[simp] theorem asOpusContext_opusContext (opusCtx : OpusContext) :
    (Cell.opusContext opusCtx).asOpusContext = some opusCtx := rfl

@[simp] theorem asOpusEncoder_opusEncoder : Cell.opusEncoder.asOpusEncoder = some () := rfl

@[simp] theorem asFrame_frame (cell : Frame) : (Cell.frame cell).asFrame = some cell := rfl

end Cell

open Cell (asContext asOpusContext asOpusEncoder asFrame)

/-- A context after `memset`. -/
def zeroContext : AudioContext := ⟨none, ⟨0, 0, 0⟩⟩

/-- An Opus context after `memset`. -/
def zeroOpusContext : OpusContext := ⟨none, 0, 0, none, none⟩

abbrev Program := HeapProgram Cell

/-! ## Creating -/

/-- The address that is left in `*ctx`. -/
def opusEncCreate : Program (Option Nat) := malloc (.opusContext zeroOpusContext)

def createAudioEncoder : AudioCodecType → Program (Option Nat)
  | .null | .aac => pure none
  | .opus => do
    let ctx ← malloc (.context zeroContext)
    -- `memset` is not guarded against a null pointer
    store asContext (.context zeroContext) ctx
    match ← opusEncCreate with
    | none => pure none
    | some opusCtx =>
      store asContext (.context { zeroContext with privCtx := some opusCtx }) ctx
      pure ctx

/-! ## Destroying -/

/-- The look at `cb_log`. -/
def audioEncLog (ctx : Option Nat) : Program Unit := do
  let _ ← load asContext ctx
  pure ()

/-- `for (frame = frames; frame; frame = frame->next) free_audio_frame(frame)` -/
def freeAudioFrames : Nat → Option Nat → Program Unit
  | _, none => pure ()
  | 0, some _ => fault .outOfSteps
  | steps + 1, some frame => do
    free (some frame)
    let freed ← load asFrame (some frame)
    freeAudioFrames steps freed.next

def opusEncDestroy (steps : Nat) (ctx : Option Nat) : Program Unit := do
  audioEncLog ctx
  let context ← load asContext ctx
  let opusCtx ← load asOpusContext context.privCtx
  free opusCtx.encoder
  freeAudioFrames steps opusCtx.frames
  let opusCtx ← load asOpusContext context.privCtx
  freeAudioFrames steps opusCtx.freeFrames
  free context.privCtx

def audioEncDestroy (steps : Nat) : Option Nat → Program Unit
  | none => pure ()
  | some ctx => do
    opusEncDestroy steps (some ctx)
    free (some ctx)

/-! ## Initialising -/

/-- `opens` is whether `opus_encoder_init` succeeds. -/
def opusEncoderCreate (opens : Bool) : Program (Option Nat) := construct .opusEncoder opens

def opusEncInit (steps : Nat) (opens : Bool) (config : Option AudioEncConfig) (ctx : Option Nat) :
    Program Int := do
  let context ← load asContext ctx
  match config with
  | none => fault .nullPointer
  | some config =>
    if config.Valid then do
      let encoder ← opusEncoderCreate opens
      let opusCtx ← load asOpusContext context.privCtx
      store asOpusContext (.opusContext { opusCtx with encoder := encoder }) context.privCtx
      match encoder with
      | none => do
        audioEncLog ctx
        opusEncDestroy steps ctx
        pure (-1)
      | some encoder => do
        -- `opus_encoder_ctl`
        load asOpusEncoder (some encoder)
        store asOpusContext
          (.opusContext {
            encoder := some encoder
            dtxMode := 0
            frameSamples := config.sampleRate / 1000 * opusPacketDuration
            frames := none
            freeFrames := none
          }) context.privCtx
        store asContext (.context { context with config := config }) ctx
        pure 0
    else do
      audioEncLog ctx
      pure (-1)

def audioEncInit (steps : Nat) (opens : Bool) (config : Option AudioEncConfig) :
    Option Nat → Program Int
  | none => pure (-1)
  | some ctx => opusEncInit steps opens config (some ctx)

/-! ## Writing -/

/-- The last of the frames that are linked. -/
def lastFrame : Nat → Option Nat → Program (Option Nat)
  | _, none => pure none
  | 0, some _ => fault .outOfSteps
  | steps + 1, some frame => do
    let cell ← load asFrame (some frame)
    match cell.next with
    | none => pure (some frame)
    | some next => lastFrame steps (some next)

/-- `frame_tail && frame_tail->samples < opus_ctx->frame_samples` -/
def isWritable (frameSamples : Nat) : Option Nat → Program Bool
  | none => pure false
  | some frameTail => do
    let tail ← load asFrame (some frameTail)
    pure (tail.samples < frameSamples)

/-- A frame from the free list, or a new one, `none` where none can be allocated. -/
def takeFrame (privCtx : Option Nat) : Program (Option Nat) := do
  let opusCtx ← load asOpusContext privCtx
  match opusCtx.freeFrames with
  | none => malloc (.frame ⟨0, none⟩)
  | some frame => do
    let taken ← load asFrame (some frame)
    store asOpusContext (.opusContext { opusCtx with freeFrames := taken.next }) privCtx
    pure (some frame)

/-- The frame is empty and the last of the queue. -/
def linkFrame (privCtx frameTail : Option Nat) (frame : Nat) : Program Unit := do
  store asFrame (.frame ⟨0, none⟩) (some frame)
  let opusCtx ← load asOpusContext privCtx
  match opusCtx.frames with
  | none => store asOpusContext (.opusContext { opusCtx with frames := some frame }) privCtx
  | some _ => do
    let tail ← load asFrame frameTail
    store asFrame (.frame { tail with next := some frame }) frameTail

def getWritableFrame (steps : Nat) (ctx : Option Nat) : Program (Option Nat) := do
  let context ← load asContext ctx
  let opusCtx ← load asOpusContext context.privCtx
  let frameTail ← lastFrame steps opusCtx.frames
  if ← isWritable opusCtx.frameSamples frameTail then pure frameTail
  else do
    match ← takeFrame context.privCtx with
    | none => pure none
    | some frame => do
      linkFrame context.privCtx frameTail frame
      pure (some frame)

/-- The loop of `write_audio_frame`. -/
def writeSamples (steps : Nat) (ctx privCtx : Option Nat) : Nat → Nat → Program Unit
  | 0, _ => fault .outOfSteps
  | fuel + 1, samplesLeft =>
    if 0 < samplesLeft then do
      match ← getWritableFrame steps ctx with
      | none => pure ()
      | some frame => do
        let opusCtx ← load asOpusContext privCtx
        let cell ← load asFrame (some frame)
        let remainingSamples := opusCtx.frameSamples - cell.samples
        if 0 < remainingSamples then do
          let cpySamples := if samplesLeft < remainingSamples then samplesLeft else remainingSamples
          store asFrame (.frame { cell with samples := cell.samples + cpySamples }) (some frame)
          writeSamples steps ctx privCtx fuel (samplesLeft - cpySamples)
        else writeSamples steps ctx privCtx fuel samplesLeft
    else pure ()

def writeAudioFrame (steps : Nat) (ctx : Option Nat) (len : Nat) : Program Unit := do
  let context ← load asContext ctx
  let sampleSize := context.config.getSampleSize 1
  if sampleSize = 0 then fault .divisionByZero
  else
    let samplesLeft := context.config.getSampleCount (len / sampleSize * sampleSize)
    writeSamples steps ctx context.privCtx steps samplesLeft

/-! ## Encoding -/

/-- `opus_ctx->frames = opus_ctx->frames->next`, and `release_audio_frame`. -/
def shiftFrame (privCtx : Option Nat) (frame : Nat) : Program Unit := do
  let opusCtx ← load asOpusContext privCtx
  let cell ← load asFrame (some frame)
  store asOpusContext (.opusContext { opusCtx with frames := cell.next }) privCtx
  store asFrame (.frame { cell with next := opusCtx.freeFrames }) (some frame)
  store asOpusContext
    (.opusContext { opusCtx with frames := cell.next, freeFrames := some frame, dtxMode := 0 })
    privCtx

/-- The loop of `opus_enc_encode`.  What `opus_encode` returns changes no pointer. -/
def encodeFrames (privCtx : Option Nat) : Nat → Program Unit
  | 0 => fault .outOfSteps
  | steps + 1 => do
    let opusCtx ← load asOpusContext privCtx
    match opusCtx.frames with
    | none => pure ()
    | some frame => do
      let cell ← load asFrame (some frame)
      if cell.samples = opusCtx.frameSamples then do
        load asOpusEncoder opusCtx.encoder
        shiftFrame privCtx frame
        encodeFrames privCtx steps
      else pure ()

/-- A block of no bytes, as one without data, is an argument that is rejected. -/
def opusEncEncode (steps : Nat) (ctx : Option Nat) (block : AudioBlock) : Program Int :=
  if 0 < block.data.length then do
    let context ← load asContext ctx
    writeAudioFrame steps ctx block.data.length
    encodeFrames context.privCtx steps
    pure 0
  else pure (-1)

def audioEncEncode (steps : Nat) (block : AudioBlock) : Option Nat → Program Int
  | none => pure (-1)
  | some ctx => opusEncEncode steps (some ctx) block

/-- A call of `audio_enc_encode` for each block, and `audio_enc_destroy`. -/
def encodeAndDestroy (steps : Nat) (blocks : List AudioBlock) (ctx : Option Nat) :
    Program Unit := do
  forEach (audioEncEncode steps · ctx) blocks
  audioEncDestroy steps ctx

/-- Create, init, encode and destroy. -/
def lifetime (codec : AudioCodecType) (opens : Bool) (config : Option AudioEncConfig)
    (blocks : List AudioBlock) (steps : Nat) : Program Unit := do
  let ctx ← createAudioEncoder codec
  let _ ← audioEncInit steps opens config ctx
  encodeAndDestroy steps blocks ctx

end OpusLifetime

end RtpPlayer
