import RtpPlayer.MediaCodec.VideoDec

/-! # The VP8 encoder

The model of `MediaCodec/jni/vp8enc.c` around libvpx: what each call asks for, and what it reports
of the frame that comes out.  Whether one comes out, and whether it is a key frame, is libvpx's
business and an argument of the call. -/

namespace RtpPlayer

/-! ## Flags of libvpx -/

/-- `VPX_EFLAG_FORCE_KF` -/
def eflagForceKf : UInt32 := (1 : UInt32) <<< 0

/-- `VP8_EFLAG_NO_REF_LAST` -/
def eflagNoRefLast : UInt32 := (1 : UInt32) <<< 16

/-- `VP8_EFLAG_NO_REF_GF` -/
def eflagNoRefGf : UInt32 := (1 : UInt32) <<< 17

/-- `VP8_EFLAG_NO_UPD_LAST` -/
def eflagNoUpdLast : UInt32 := (1 : UInt32) <<< 18

/-- `VP8_EFLAG_NO_UPD_ENTROPY` -/
def eflagNoUpdEntropy : UInt32 := (1 : UInt32) <<< 20

/-- `VP8_EFLAG_NO_REF_ARF` -/
def eflagNoRefArf : UInt32 := (1 : UInt32) <<< 21

/-- `VP8_EFLAG_NO_UPD_GF` -/
def eflagNoUpdGf : UInt32 := (1 : UInt32) <<< 22

/-- `VP8_EFLAG_NO_UPD_ARF` -/
def eflagNoUpdArf : UInt32 := (1 : UInt32) <<< 23

/-- `VID_ENC_CTRLFLAG_KEY` -/
def vidEncCtrlflagKey : UInt32 := 1

/-- `VPX_ENC_3TL_IDS` -/
def vpxEnc3tlIds : Nat := 4

/-- `VPX_ENC_3TL_PATTERN` -/
def vpxEnc3tlPattern : Nat := 8

/-! ## The context -/

structure VideoEncConfig where
  width : Nat
  height : Nat
  enableTemporalLayers : Int

structure Vp8EncContext where
  config : VideoEncConfig
  temporalIds : List Nat
  encodeFlags : List UInt32
  keyFrameRequest : Bool
  flagIdc : UInt8
  pictureId : UInt16
  tl0PicIdx : Int32
  lastBaseLayerSync : Bool

/-- A frame of libvpx, `VPX_FRAME_IS_KEY` and `VPX_FRAME_IS_DROPPABLE` of its flags. -/
structure CxFrame where
  isKey : Bool
  isDroppable : Bool
  deriving DecidableEq

structure VideoEncPrivInfoVP8 where
  pictureId : UInt16
  keyIdx : Int
  tl0PicIdx : Int32
  temporalIdx : Nat
  layerSync : Bool
  nonReference : Bool
  deriving DecidableEq

/-- What is handed to `cb_out`, and the flags libvpx encoded it with. -/
structure VideoEncFrameBs where
  /-- `VIDEO_FRAME_TYPE_KEY` -/
  isKey : Bool
  pts : Int
  opaqueData : Int
  codecPriv : VideoEncPrivInfoVP8
  encFlag : UInt32
  deriving DecidableEq

/-- The arguments of `vp8_enc_encode`, with what libvpx makes of them. -/
structure EncodeCall where
  surface : VideoSurface
  flags : UInt32
  packet : Option CxFrame

/-- The `temporal_ids` of three layers. -/
def threeLayerIds : List Nat := [0, 2, 1, 2]

/-- The `encode_flags` of three layers. -/
def threeLayerFlags : List UInt32 := [
  eflagNoUpdArf ||| eflagNoRefGf,
  eflagNoRefGf ||| eflagNoUpdGf ||| eflagNoUpdArf ||| eflagNoUpdLast ||| eflagNoUpdEntropy,
  eflagNoRefGf ||| eflagNoUpdArf ||| eflagNoUpdLast,
  eflagNoUpdGf ||| eflagNoUpdArf ||| eflagNoUpdLast ||| eflagNoUpdEntropy,
  eflagNoUpdGf ||| eflagNoUpdArf ||| eflagNoRefGf,
  eflagNoUpdGf ||| eflagNoUpdArf ||| eflagNoUpdLast ||| eflagNoUpdEntropy,
  eflagNoUpdArf ||| eflagNoUpdLast,
  eflagNoUpdGf ||| eflagNoUpdArf ||| eflagNoUpdLast ||| eflagNoUpdEntropy]

/-- `vp8_enc_init` on a context of zeros. -/
def vp8EncInit (config : VideoEncConfig) : Vp8EncContext :=
  let ctx : Vp8EncContext := {
    config := config
    temporalIds := List.replicate vpxEnc3tlIds 0
    encodeFlags := List.replicate vpxEnc3tlPattern 0
    keyFrameRequest := true
    flagIdc := 0
    pictureId := 0
    tl0PicIdx := 0
    lastBaseLayerSync := false
  }
  if config.enableTemporalLayers > 0 then
    { ctx with
      flagIdc := 255
      temporalIds := threeLayerIds
      encodeFlags := threeLayerFlags }
  else ctx

namespace Vp8EncContext

/-- `flag_idc % VPX_ENC_3TL_PATTERN` -/
def patternIdc (ctx : Vp8EncContext) : Nat := ctx.flagIdc.toNat % vpxEnc3tlPattern

def temporalId (ctx : Vp8EncContext) : Nat :=
  ctx.temporalIds.getD (ctx.flagIdc.toNat % vpxEnc3tlIds) 0

def populateCodecPriv (ctx : Vp8EncContext) (pkt : CxFrame) :
    Vp8EncContext × VideoEncPrivInfoVP8 :=
  let baseLayerSync := pkt.isKey
  let temporalIdx := if baseLayerSync then 0 else ctx.temporalId
  let layerSync := if baseLayerSync then true
    else ctx.patternIdc = 1 ∨ ctx.patternIdc = 2
  let layerSync := if ctx.lastBaseLayerSync ∧ temporalIdx ≠ 0 then true else layerSync
  let tl0PicIdx := if temporalIdx = 0 then ctx.tl0PicIdx + 1 else ctx.tl0PicIdx
  ({ ctx with
      tl0PicIdx := tl0PicIdx
      lastBaseLayerSync := baseLayerSync
      pictureId := (ctx.pictureId + 1) &&& 0x7FFF },
    { pictureId := ctx.pictureId
      keyIdx := -1
      tl0PicIdx := tl0PicIdx
      temporalIdx := temporalIdx
      layerSync := layerSync
      nonReference := pkt.isDroppable })

/-- `get_partitions`, where a frame is all its partitions. -/
def getPartitions (ctx : Vp8EncContext) (surface : VideoSurface) (encFlag : UInt32) :
    Option CxFrame → Vp8EncContext × Option VideoEncFrameBs
  | none => (ctx, none)
  | some pkt =>
    let (ctx, codecPriv) := ctx.populateCodecPriv pkt
    (ctx, some {
      isKey := pkt.isKey
      pts := surface.pts
      opaqueData := surface.opaqueData
      codecPriv := codecPriv
      encFlag := encFlag })

/-- `vp8_enc_encode`, with its result and the frame that comes out. -/
def vp8EncEncode (ctx : Vp8EncContext) (call : EncodeCall) :
    Vp8EncContext × Int × Option VideoEncFrameBs :=
  if call.surface.width .y ≠ ctx.config.width ∨ call.surface.height .y ≠ ctx.config.height then
    (ctx, -1, none)
  else if call.surface.color ≠ .i420 then
    (ctx, -1, none)
  else
    let ctx := { ctx with flagIdc := ctx.flagIdc + 1 }
    let encFlag := ctx.encodeFlags.getD ctx.patternIdc 0
    let force := ctx.keyFrameRequest ∨ call.flags &&& vidEncCtrlflagKey ≠ 0
    let encFlag := if force then encFlag ||| eflagForceKf else encFlag
    let ctx := { ctx with keyFrameRequest := if force then false else ctx.keyFrameRequest }
    let (ctx, frame) := ctx.getPartitions call.surface encFlag call.packet
    (ctx, 0, frame)

/-- The frames that come out of the calls. -/
def encodeAll : Vp8EncContext → List EncodeCall → List VideoEncFrameBs
  | _, [] => []
  | ctx, call :: calls =>
    let (ctx, _, frame) := ctx.vp8EncEncode call
    frame.toList ++ encodeAll ctx calls

end Vp8EncContext

end RtpPlayer
