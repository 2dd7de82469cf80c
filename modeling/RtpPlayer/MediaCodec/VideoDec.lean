import RtpPlayer.Foundations.Rows

/-! # The image a decoder sends

The model of `video_dec_send_image` in `MediaCodec/jni/videodec.c`, which both decoders call with
their own planes.  Sizes are natural numbers: the decoders keep `width * height` far below what an
`int` holds. -/

namespace RtpPlayer

open Foundations

/-- The index of a plane, `0`, `1` or `2`. -/
inductive Plane where
  | y
  | u
  | v
  deriving DecidableEq

/-- What `video_dec_send_image` is called with. -/
structure DecodedImage where
  data : Plane → Memory UInt8
  width : Nat
  height : Nat
  linesize : Plane → Nat
  pts : Int
  opaqueData : Int

/-- `IMG_COLOR_FORMAT` -/
inductive ImgColorFormat where
  | null
  | i420
  | nv12
  | nv21
  | yuy2
  | uyvy
  | rgb24
  | rgb32
  deriving DecidableEq

structure VideoSurface where
  color : ImgColorFormat
  planes : Plane → Memory UInt8
  width : Plane → Nat
  height : Plane → Nat
  pitch : Plane → Nat
  pts : Int
  opaqueData : Int

namespace DecodedImage

/-- `plane ? ((width + 1) >> 1) : width` -/
def planeWidth (image : DecodedImage) : Plane → Nat
  | .y => image.width
  | .u | .v => (image.width + 1) >>> 1

/-- `plane ? ((height + 1) >> 1) : height` -/
def planeHeight (image : DecodedImage) : Plane → Nat
  | .y => image.height
  | .u | .v => (image.height + 1) >>> 1

/-- The sample of a plane in the decoder's output. -/
def sample (image : DecodedImage) (plane : Plane) (x y : Nat) : UInt8 :=
  (image.data plane).pixel (image.linesize plane) x y

/-- Every line of the decoder's output holds the samples of its plane. -/
def LinesFit (image : DecodedImage) : Prop :=
  ∀ plane, image.planeWidth plane ≤ image.linesize plane

end DecodedImage

/-- The plane copied into a block that `malloc` returned, line by line. -/
def copyPlane (image : DecodedImage) (plane : Plane) (block : Memory UInt8) : Memory UInt8 :=
  block.copyRows (image.data plane) (image.planeWidth plane) (image.planeWidth plane)
    (image.linesize plane) (image.planeHeight plane)

/-- The surface handed to `cb_out`, which is never called where it is not set or a plane has no
block.  `malloc` tells what the call for each plane returns, with whatever the block holds. -/
def videoDecSendImage (cbOut : Bool) (malloc : Plane → Option (Memory UInt8))
    (image : DecodedImage) : Option VideoSurface :=
  if cbOut then do
    let y ← malloc .y
    let u ← malloc .u
    let v ← malloc .v
    some {
      color := .i420
      planes := fun plane => copyPlane image plane <| match plane with
        | .y => y
        | .u => u
        | .v => v
      width := image.planeWidth
      height := image.planeHeight
      pitch := image.planeWidth
      pts := image.pts
      opaqueData := image.opaqueData
    }
  else none

/-- The surface holds the image, its planes packed. -/
structure VideoSurface.Holds (surface : VideoSurface) (image : DecodedImage) : Prop where
  width : surface.width = image.planeWidth
  height : surface.height = image.planeHeight
  pitch : surface.pitch = image.planeWidth
  sample : ∀ plane x y, x < image.planeWidth plane → y < image.planeHeight plane →
    (surface.planes plane).pixel (image.planeWidth plane) x y = image.sample plane x y

theorem videoDecSendImage_holds {cbOut : Bool} {malloc : Plane → Option (Memory UInt8)}
    {image : DecodedImage} {surface : VideoSurface}
    (sent : videoDecSendImage cbOut malloc image = some surface) : surface.Holds image := by
  simp only [videoDecSendImage, Option.ite_none_right_eq_some, Option.bind_eq_bind,
    Option.bind_eq_some_iff, Option.some.injEq] at sent
  obtain ⟨-, _, -, _, -, _, -, rfl⟩ := sent
  constructor
  case width => rfl
  case height => rfl
  case pitch => rfl
  case sample =>
    intro plane x y inRow inImage
    exact Memory.pixel_copyRows (Nat.le_refl _) inRow inImage

end RtpPlayer
