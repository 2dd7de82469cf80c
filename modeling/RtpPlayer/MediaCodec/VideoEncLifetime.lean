import RtpPlayer.Foundations.Heap
import RtpPlayer.MediaCodec.AvcEnc

/-! # The heap of the video encoders

`MediaCodec/jni/videoenc.c` and the allocations of `vp8enc.c` and `avcenc.c`: create, init, encode
and destroy over a heap of cells.  An encoder of libvpx or of x264 is one cell.  The bitstream of a
frame is not in the heap: it goes to `cb_out`, and whoever has it releases it.  What is read through
the block it lies in is as in `EncoderFrames`. -/

namespace RtpPlayer

open Foundations HeapProgram

namespace VideoEncLifetime

open VideoEnc (Config Surface)

/-- `video_enc_context` -/
structure VideoContext where
  privCtx : Option Nat
  config : Config

/-- `vp8_enc_context`; `encoder` is the `priv` of the codec. -/
structure Vp8Context where
  encoder : Option Nat
  image : Option Nat

/-- `avc_enc_context` -/
structure AvcContext where
  x264 : Option Nat

inductive Cell where
  | context (ctx : VideoContext)
  | vp8Context (vp8Ctx : Vp8Context)
  | vpxEncoder
  | vpxImage
  | avcContext (avcCtx : AvcContext)
  | x264Encoder

namespace Cell

def asContext : Cell → Option VideoContext
  | .context ctx => some ctx
  | _ => none

def asVp8Context : Cell → Option Vp8Context
  | .vp8Context vp8Ctx => some vp8Ctx
  | _ => none

def asVpxEncoder : Cell → Option Unit
  | .vpxEncoder => some ()
  | _ => none

def asVpxImage : Cell → Option Unit
  | .vpxImage => some ()
  | _ => none

def asAvcContext : Cell → Option AvcContext
  | .avcContext avcCtx => some avcCtx
  | _ => none

def asX264Encoder : Cell → Option Unit
  | .x264Encoder => some ()
  | _ => none

@[simp] theorem asContext_context (ctx : VideoContext) :
    (Cell.context ctx).asContext = some ctx := rfl

@[simp] theorem asVp8Context_vp8Context (vp8Ctx : Vp8Context) :
    (Cell.vp8Context vp8Ctx).asVp8Context = some vp8Ctx := rfl

@[simp] theorem asVpxEncoder_vpxEncoder : Cell.vpxEncoder.asVpxEncoder = some () := rfl

@[simp] theorem asVpxImage_vpxImage : Cell.vpxImage.asVpxImage = some () := rfl

@[simp] theorem asAvcContext_avcContext (avcCtx : AvcContext) :
    (Cell.avcContext avcCtx).asAvcContext = some avcCtx := rfl

@[simp] theorem asX264Encoder_x264Encoder : Cell.x264Encoder.asX264Encoder = some () := rfl

end Cell

open Cell (asContext asVp8Context asVpxEncoder asVpxImage asAvcContext asX264Encoder)

/-- A context after `memset`. -/
def zeroContext : VideoContext := ⟨none, ⟨0, 0, 0, 0, 0, 0⟩⟩

abbrev Program := HeapProgram Cell

/-- Which of the calls of the libraries succeed that `init` makes. -/
structure Library where
  /-- `vpx_codec_enc_config_default` -/
  configDefault : Bool
  /-- `vpx_codec_enc_init` or `x264_encoder_open` -/
  encoderOpens : Bool
  /-- `vpx_img_alloc` -/
  imageAllocates : Bool

/-- The arguments of `video_enc_encode`, with what x264 and `malloc` make of them. -/
structure EncodeCall where
  surface : Option Surface
  prop : EncoderFrames.SurfaceProp
  opaqueData : Int
  /-- `none` where `x264_encoder_encode` fails. -/
  encoded : Option (EncoderFrames.PictureOut × List EncoderFrames.X264Nal)
  /-- The block that `video_enc_get_free_frame` gets, `none` where it gets none. -/
  bitstream : Option EncoderFrames.Block

/-- The look at `cb_log`. -/
def videoEncLog (ctx : Option Nat) : Program Unit := do
  let _ ← load asContext ctx
  pure ()

/-! ## The VP8 encoder -/

def vp8EncCreate : Program (Option Nat) := malloc (.vp8Context ⟨none, none⟩)

def vp8EncDestroy (ctx : Option Nat) : Program Unit := do
  let context ← load asContext ctx
  match context.privCtx with
  | none => pure ()
  | some privCtx => do
    let vp8Ctx ← load asVp8Context (some privCtx)
    free vp8Ctx.image
    free (some privCtx)

def vp8EncInit (library : Library) (config : Option Config) (ctx : Option Nat) : Program Int := do
  match config with
  | none => pure (-1)
  | some config => do
    let context ← load asContext ctx
    if library.configDefault then do
      let vp8Ctx ← load asVp8Context context.privCtx
      let encoder ← construct .vpxEncoder library.encoderOpens
      store asVp8Context (.vp8Context { vp8Ctx with encoder := encoder }) context.privCtx
      match encoder with
      | none => do
        videoEncLog ctx
        pure (-1)
      | some encoder => do
        -- `vpx_codec_control`
        load asVpxEncoder (some encoder)
        let image ← construct .vpxImage library.imageAllocates
        store asVp8Context (.vp8Context { encoder := some encoder, image := image })
          context.privCtx
        match image with
        | none => do
          vp8EncDestroy ctx
          pure (-1)
        | some _ => do
          store asContext (.context { context with config := config }) ctx
          pure 0
    else do
      videoEncLog ctx
      pure (-1)

/-- libvpx rejects a codec without its `priv`. -/
def vpxCodecEncode : Option Nat → Program Unit
  | none => pure ()
  | some encoder => load asVpxEncoder (some encoder)

def vp8EncEncode (call : EncodeCall) (ctx : Option Nat) : Program Int := do
  let context ← load asContext ctx
  match call.surface with
  | none => fault .nullPointer
  | some surface =>
    if surface.Accepted context.config then do
      let vp8Ctx ← load asVp8Context context.privCtx
      store asVpxImage .vpxImage vp8Ctx.image
      if context.config.framerateNum * context.config.timebaseNum = 0 then fault .divisionByZero
      else do
        vpxCodecEncode vp8Ctx.encoder
        pure 0
    else do
      videoEncLog ctx
      pure (-1)

/-! ## The AVC encoder -/

def avcEncCreate : Program (Option Nat) := malloc (.avcContext ⟨none⟩)

/-- `x264_encoder_close` reads the encoder before it frees it. -/
def x264EncoderClose (x264 : Option Nat) : Program Unit := do
  load asX264Encoder x264
  free x264

def avcEncDestroy (ctx : Option Nat) : Program Unit := do
  let context ← load asContext ctx
  let avcCtx ← load asAvcContext context.privCtx
  x264EncoderClose avcCtx.x264
  free context.privCtx

def avcEncInit (library : Library) (config : Option Config) (ctx : Option Nat) : Program Int := do
  let context ← load asContext ctx
  match config with
  | none => fault .nullPointer
  | some config => do
    let _ ← load asAvcContext context.privCtx
    -- `framerate_num / framerate_den`
    if config.maxThreads = 0 ∧ config.framerateDen = 0 then fault .divisionByZero
    else do
      let x264 ← construct .x264Encoder library.encoderOpens
      store asAvcContext (.avcContext ⟨x264⟩) context.privCtx
      match x264 with
      | none => do
        videoEncLog ctx
        pure (-1)
      | some _ => do
        store asContext (.context { context with config := config }) ctx
        pure 0

/-- What is done with what `x264_encoder_encode` returns. -/
def packFrame (call : EncodeCall) (ctx : Option Nat) : Program Int :=
  match call.encoded with
  | none => do
    videoEncLog ctx
    pure (-1)
  | some (_, []) => do
    videoEncLog ctx
    pure 0
  | some (picture, nalu :: nalus) =>
    match call.bitstream with
    | none => do
      videoEncLog ctx
      pure (-1)
    | some block =>
      let output := EncoderFrames.startFrame block call.prop call.opaqueData picture
      if (EncoderFrames.packNalus block output (nalu :: nalus)).crashed then fault .unsetPointer
      else do
        -- of the context the loop looks at `cb_log`, and what follows at `cb_out`
        videoEncLog ctx
        pure 0

def avcEncEncode (call : EncodeCall) (ctx : Option Nat) : Program Int := do
  let context ← load asContext ctx
  match call.surface with
  | none => fault .nullPointer
  | some surface =>
    if surface.Accepted context.config then do
      let avcCtx ← load asAvcContext context.privCtx
      load asX264Encoder avcCtx.x264
      packFrame call ctx
    else do
      videoEncLog ctx
      pure (-1)

/-! ## The API -/

/-- `create_video_encoder`, with the create function of the codec. -/
def createContext (create : Program (Option Nat)) : Program (Option Nat) := do
  let ctx ← malloc (.context zeroContext)
  -- `memset` is not guarded against a null pointer
  store asContext (.context zeroContext) ctx
  match ← create with
  | none => do
    free ctx
    pure none
  | some privCtx => do
    store asContext (.context { zeroContext with privCtx := some privCtx }) ctx
    pure ctx

def createVideoEncoder : VideoCodecType → Program (Option Nat)
  | .nul => pure none
  | .vp8 => createContext vp8EncCreate
  | .avc => createContext avcEncCreate

/-- `ef_init` -/
def efInit : VideoCodecType → Library → Option Config → Option Nat → Program Int
  | .nul => fun _ _ _ => pure (-1)
  | .vp8 => vp8EncInit
  | .avc => avcEncInit

/-- `ef_encode` -/
def efEncode : VideoCodecType → EncodeCall → Option Nat → Program Int
  | .nul => fun _ _ => pure (-1)
  | .vp8 => vp8EncEncode
  | .avc => avcEncEncode

/-- `ef_destroy` -/
def efDestroy : VideoCodecType → Option Nat → Program Unit
  | .nul => fun _ => pure ()
  | .vp8 => vp8EncDestroy
  | .avc => avcEncDestroy

def videoEncInit (codec : VideoCodecType) (library : Library) (config : Option Config) :
    Option Nat → Program Int
  | none => pure (-1)
  | some ctx => efInit codec library config (some ctx)

def videoEncEncode (codec : VideoCodecType) (call : EncodeCall) : Option Nat → Program Int
  | none => pure (-1)
  | some ctx => efEncode codec call (some ctx)

def videoEncDestroy (codec : VideoCodecType) : Option Nat → Program Unit
  | none => pure ()
  | some ctx => do
    efDestroy codec (some ctx)
    free (some ctx)

/-- A call of `video_enc_encode` for each surface, and `video_enc_destroy`. -/
def encodeAndDestroy (codec : VideoCodecType) (calls : List EncodeCall) (ctx : Option Nat) :
    Program Unit := do
  forEach (videoEncEncode codec · ctx) calls
  videoEncDestroy codec ctx

/-- Create, init, encode and destroy. -/
def lifetime (codec : VideoCodecType) (library : Library) (config : Option Config)
    (calls : List EncodeCall) : Program Unit := do
  let ctx ← createVideoEncoder codec
  let _ ← videoEncInit codec library config ctx
  encodeAndDestroy codec calls ctx

end VideoEncLifetime

end RtpPlayer
