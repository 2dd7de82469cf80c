import RtpPlayer.Foundations.Footprint
import RtpPlayer.MediaCodec.VideoEnc

/-! # The heap of the video decoders

`MediaCodec/jni/videodec.c` and the allocations of `vp8dec.c` and `avcdec.c`, in the order in which
`Decoders/VideoDecoder.cc` makes the calls: create and init in `build`, decode, the images that the
frames release, and destroy in `tear`.  A decoder of libvpx, and a context and a frame of
libavcodec, are one cell each. -/

namespace RtpPlayer

open Foundations HeapProgram

namespace VideoDecLifetime

/-- A pointer into a block. -/
structure Pointer where
  block : Nat
  offset : Nat

inductive Cell where
  /-- `video_dec_context` with its `priv_ctx` -/
  | context (privCtx : Option Pointer)
  /-- `vp8_dec_context` with the `priv` of its decoder -/
  | vp8Context (decoder : Option Nat)
  | vpxDecoder
  | avcContext (avcodecCtx avframe : Option Nat)
  | codecContext
  | frame
  /-- `video_surface` with its `planes` -/
  | surface (planes : Plane → Option Nat)
  | plane

namespace Cell

def asContext : Cell → Option (Option Pointer)
  | .context privCtx => some privCtx
  | _ => none

def asVp8Context : Cell → Option (Option Nat)
  | .vp8Context decoder => some decoder
  | _ => none

def asVpxDecoder : Cell → Option Unit
  | .vpxDecoder => some ()
  | _ => none

def asAvcContext : Cell → Option (Option Nat × Option Nat)
  | .avcContext avcodecCtx avframe => some (avcodecCtx, avframe)
  | _ => none

def asCodecContext : Cell → Option Unit
  | .codecContext => some ()
  | _ => none

def asFrame : Cell → Option Unit
  | .frame => some ()
  | _ => none

def asSurface : Cell → Option (Plane → Option Nat)
  | .surface planes => some planes
  | _ => none

end Cell

open Cell (asContext asVp8Context asVpxDecoder asAvcContext asCodecContext asFrame asSurface)

abbrev Program := HeapProgram Cell

/-- Where `malloc` places the blocks, and which of the calls of the libraries succeed. -/
structure Library where
  place : Nat → Nat
  /-- `avcodec_find_decoder` -/
  decoderFound : Bool
  /-- `vpx_codec_dec_init` or `avcodec_open2` -/
  opens : Bool

/-! ## `malloc` behind libvpx -/

/-- `sizeof(size_t)` -/
def addressStorageSize : Nat := 4

/-- `2 * sizeof(void *)` -/
def defaultAlignment : Nat := 8

/-- `align_addr`, of an alignment that is a power of two. -/
def alignAddr (addr align : Nat) : Nat := (addr + (align - 1)) / align * align

/-- `vpx_malloc`: the address of the block is stored before the pointer. -/
def vpxMalloc (library : Library) (cell : Cell) : Program (Option Pointer) := do
  match ← malloc cell with
  | none => pure none
  | some block =>
    let addr := library.place block
    pure (some ⟨block, alignAddr (addr + addressStorageSize) defaultAlignment - addr⟩)

/-- `free`, which takes what `malloc` returned and nothing else. -/
def freePointer : Option Pointer → Program Unit
  | none => pure ()
  | some ⟨block, 0⟩ => free (some block)
  | some ⟨_, _ + 1⟩ => fault .deadCell

/-- The look at `cb_log`. -/
def videoDecLog (ctx : Option Nat) : Program Unit := do
  let _ ← load asContext ctx
  pure ()

/-! ## Images -/

def videoDecFreeImage : Option Nat → Program Unit
  | none => pure ()
  | some image => do
    let planes ← load asSurface (some image)
    free (planes .y)
    free (planes .u)
    free (planes .v)
    free (some image)

/-- The loop over the planes: whether all of them got a block. -/
def allocatePlanes (ctx : Option Nat) (surface : Option Nat) : List Plane → Program Bool
  | [] => pure true
  | plane :: rest => do
    let block ← malloc .plane
    let planes ← load asSurface surface
    store asSurface (.surface (Function.update planes plane block)) surface
    match block with
    | none => do
      videoDecLog ctx
      videoDecFreeImage surface
      pure false
    | some _ => allocatePlanes ctx surface rest

/-- `video_dec_send_image`: the image that `cb_out` gets. -/
def videoDecSendImage (ctx : Option Nat) : Program (Option Nat) := do
  let surface ← malloc (.surface fun _ => none)
  -- `memset` is not guarded against a null pointer
  store asSurface (.surface fun _ => none) surface
  if ← allocatePlanes ctx surface [.y, .u, .v] then pure surface else pure none

/-! ## The VP8 decoder -/

def vp8DecCreate (library : Library) : Program (Option Pointer) :=
  vpxMalloc library (.vp8Context none)

def vp8DecInit (library : Library) (ctx : Option Nat) : Program Int := do
  let privCtx ← load asContext ctx
  let codec := privCtx.map Pointer.block
  let _ ← load asVp8Context codec
  let decoder ← construct .vpxDecoder library.opens
  store asVp8Context (.vp8Context decoder) codec
  match decoder with
  | none => do
    videoDecLog ctx
    pure (-1)
  | some _ => pure 0

/-- `image` tells whether `vpx_codec_get_frame` returns one. -/
def vp8DecDecode (image : Bool) (ctx : Option Nat) : Program (Option Nat) := do
  let privCtx ← load asContext ctx
  let decoder ← load asVp8Context (privCtx.map Pointer.block)
  load asVpxDecoder decoder
  if image then videoDecSendImage ctx else pure none

def vp8DecDestroy (ctx : Option Nat) : Program Unit := do
  match ← load asContext ctx with
  | none => pure ()
  | some privCtx => do
    -- `vpx_codec_destroy`, which does nothing without a decoder
    match ← load asVp8Context (some privCtx.block) with
    | none => videoDecLog ctx
    | some decoder => free (some decoder)
    freePointer (some privCtx)

/-! ## The AVC decoder -/

/-- `av_malloc` returns what `posix_memalign` does, which `free` takes. -/
def avcDecCreate : Program (Option Pointer) := do
  let block ← malloc (.avcContext none none)
  pure (block.map fun block => ⟨block, 0⟩)

def avcDecInit (library : Library) (ctx : Option Nat) : Program Int := do
  let privCtx ← load asContext ctx
  let codec := privCtx.map Pointer.block
  let _ ← load asAvcContext codec
  if library.decoderFound then do
    let avcodecCtx ← malloc .codecContext
    store asAvcContext (.avcContext avcodecCtx none) codec
    match avcodecCtx with
    | none => do
      videoDecLog ctx
      pure (-1)
    | some _ =>
      if library.opens then do
        let avframe ← malloc .frame
        store asAvcContext (.avcContext avcodecCtx avframe) codec
        match avframe with
        | none => do
          videoDecLog ctx
          pure (-1)
        | some _ => pure 0
      else do
        videoDecLog ctx
        pure (-1)
  else do
    videoDecLog ctx
    pure (-1)

/-- `image` tells whether `avcodec_receive_frame` returns one. -/
def avcDecDecode (image : Bool) (ctx : Option Nat) : Program (Option Nat) := do
  let privCtx ← load asContext ctx
  let (avcodecCtx, avframe) ← load asAvcContext (privCtx.map Pointer.block)
  load asCodecContext avcodecCtx
  load asFrame avframe
  if image then videoDecSendImage ctx else pure none

def avcDecDestroy (ctx : Option Nat) : Program Unit := do
  match ← load asContext ctx with
  | none => pure ()
  | some privCtx => do
    let (avcodecCtx, avframe) ← load asAvcContext (some privCtx.block)
    free avcodecCtx
    free avframe
    freePointer (some privCtx)

/-! ## The API -/

/-- `create_video_decoder`, with the create function of the codec. -/
def createContext (create : Program (Option Pointer)) : Program (Option Nat) := do
  let ctx ← malloc (.context none)
  -- `memset` is not guarded against a null pointer
  store asContext (.context none) ctx
  match ← create with
  | none => do
    free ctx
    pure none
  | some privCtx => do
    store asContext (.context (some privCtx)) ctx
    pure ctx

def createVideoDecoder (library : Library) : VideoCodecType → Program (Option Nat)
  | .nul => pure none
  | .vp8 => createContext (vp8DecCreate library)
  | .avc => createContext avcDecCreate

/-- `df_init` -/
def dfInit (library : Library) : VideoCodecType → Option Nat → Program Int
  | .nul => fun _ => pure (-1)
  | .vp8 => vp8DecInit library
  | .avc => avcDecInit library

/-- `df_decode` -/
def dfDecode : VideoCodecType → Bool → Option Nat → Program (Option Nat)
  | .nul => fun _ _ => pure none
  | .vp8 => vp8DecDecode
  | .avc => avcDecDecode

/-- `df_destroy` -/
def dfDestroy : VideoCodecType → Option Nat → Program Unit
  | .nul => fun _ => pure ()
  | .vp8 => vp8DecDestroy
  | .avc => avcDecDestroy

/-- Both codecs release an image by freeing it. -/
def videoDecReleaseImage (ctx : Option Nat) (image : Nat) : Program Unit := do
  let _ ← load asContext ctx
  videoDecFreeImage (some image)

def videoDecDestroy (codec : VideoCodecType) : Option Nat → Program Unit
  | none => pure ()
  | some ctx => do
    dfDestroy codec (some ctx)
    free (some ctx)

/-- What the player does with a decoder that is built. -/
inductive Action where
  | decode (image : Bool)
  /-- The last reference to the frame of an image that is out is gone. -/
  | release (index : Nat)

/-- The actions, with the images that are out, and the release of those that are left. -/
def useImages (codec : VideoCodecType) (ctx : Option Nat) :
    List Action → List Nat → Program Unit
  | [], images => forEach (videoDecReleaseImage ctx) images
  | .decode image :: actions, images => do
    let sent ← dfDecode codec image ctx
    useImages codec ctx actions (images ++ sent.toList)
  | .release index :: actions, images =>
    match images[index]? with
    | none => useImages codec ctx actions images
    | some image => do
      videoDecReleaseImage ctx image
      useImages codec ctx actions (images.eraseIdx index)

/-- `VideoDecoder::build`, the actions, and `tear`, which comes behind the last image. -/
def lifetime (codec : VideoCodecType) (library : Library) (actions : List Action) :
    Program Unit := do
  match ← createVideoDecoder library codec with
  | none => pure ()
  | some ctx => do
    if (← dfInit library codec (some ctx)) = 0 then do
      useImages codec (some ctx) actions []
      videoDecDestroy codec (some ctx)
    else videoDecDestroy codec (some ctx)

end VideoDecLifetime

end RtpPlayer
