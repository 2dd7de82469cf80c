import RtpPlayer.MediaCodec.VideoDec

/-! # The picture decoders

The models of `MediaCodec/jni/vp8dec.c` and `MediaCodec/jni/avcdec.c` but for what they allocate.
Both give the planes of their library to `video_dec_send_image`; the libraries are taken as they
are. -/

namespace RtpPlayer

open Foundations

/-- `df_decode`, of a frame (`none` for a null pointer), its `pts` and its `opaque`: what it leaves
and returns, and the image that `video_dec_send_image` is called with. -/
abbrev DfDecode (δ : Type) :=
  δ → Option (List UInt8) → Int → Int → δ × Int × Option DecodedImage

/-- `VPX_IMG_FMT_I420` -/
def vpxImgFmtI420 : Nat := 0x100 ||| 2

/-- `vpx_image_t` -/
structure VpxImage where
  fmt : Nat
  dW : Nat
  dH : Nat
  planes : Plane → Memory UInt8
  stride : Plane → Nat

/-- The calls of libvpx on decoders `δ`. -/
structure VpxLibrary (δ : Type) where
  /-- Whether `vpx_codec_decode` fails. -/
  decode : δ → Option (List UInt8) → δ × Bool
  /-- The first `vpx_codec_get_frame` after it. -/
  getFrame : δ → δ × Option VpxImage

/-- `vp8_dec_decode`.  A flush is the call with a null pointer. -/
def vp8DecDecode {δ : Type} (library : VpxLibrary δ) : DfDecode δ :=
  fun decoder frame pts opaqueData =>
    let (decoder, failed) := library.decode decoder frame
    if failed then (decoder, -1, none)
    else
      let (decoder, image) := library.getFrame decoder
      match image with
      | none => (decoder, 0, none)
      | some image =>
        if image.fmt ≠ vpxImgFmtI420 then (decoder, -1, none)
        else
          (decoder, 0, some {
            data := image.planes
            width := image.dW
            height := image.dH
            linesize := image.stride
            pts := pts
            opaqueData := opaqueData })

/-- `AVFrame` of libavcodec; its pixel format is not looked at. -/
structure AvcodecFrame where
  data : Plane → Memory UInt8
  width : Nat
  height : Nat
  linesize : Plane → Nat
  pts : Int

/-- The calls of libavcodec on decoders `δ`. -/
structure AvcodecLibrary (δ : Type) where
  sendPacket : δ → Option (List UInt8) → Int → δ × Int
  /-- The frame is there where the result is 0. -/
  receiveFrame : δ → δ × Int × AvcodecFrame

/-- `avc_dec_decode`, which only logs what goes wrong.  The image has the timestamp that comes out
of the library, and the `opaque` of the packet that went in last. -/
def avcDecDecode {δ : Type} (library : AvcodecLibrary δ) : DfDecode δ :=
  fun decoder frame pts opaqueData =>
    let (decoder, _) := library.sendPacket decoder frame pts
    let (decoder, res, avframe) := library.receiveFrame decoder
    if res ≠ 0 then (decoder, 0, none)
    else
      (decoder, 0, some {
        data := avframe.data
        width := avframe.width
        height := avframe.height
        linesize := avframe.linesize
        pts := avframe.pts
        opaqueData := opaqueData })

/-- What `df_decode` may rely on, and callers of it: the image is stamped with its frame. -/
def StampsImages {δ : Type} (dfDecode : DfDecode δ) : Prop :=
  ∀ decoder frame pts opaqueData image,
    (dfDecode decoder frame pts opaqueData).2.2 = some image → image.pts = pts

theorem stampsImages_vp8DecDecode {δ : Type} (library : VpxLibrary δ) :
    StampsImages (vp8DecDecode library) := by
  intro decoder frame pts opaqueData image decoded
  unfold vp8DecDecode at decoded
  dsimp only at decoded
  split at decoded
  · cases decoded
  split at decoded
  · cases decoded
  split at decoded
  · cases decoded
  · cases decoded
    rfl

end RtpPlayer
