import RtpPlayer.Renders.VideoOut

/-! # The planes between decoder and renderer

The decoder rounds the size of the chroma planes up and packs them; the renderer halves the size
and the pitch of the luma plane, rounding down.  The two meet for even sizes. -/

namespace RtpPlayer

open Foundations

/-- The textures show the image: extents and pitches are those of the surface, every texel is the
sample at its place, and no sample is left out. -/
structure Shows (textures : Plane → GLTexture) (surface : VideoSurface) (image : DecodedImage) :
    Prop where
  width : ∀ plane, (textures plane).width = surface.width plane
  height : ∀ plane, (textures plane).height = surface.height plane
  pitch : ∀ plane, (textures plane).stride = surface.pitch plane
  texel : ∀ plane x y, x < (textures plane).width → y < (textures plane).height →
    (textures plane).texel x y = some (image.sample plane x y)
  complete : ∀ plane x y, x < image.planeWidth plane → y < image.planeHeight plane →
    (textures plane).texel x y = some (image.sample plane x y)

/-- The frame the renderer gets for a surface. -/
def VideoSurface.frame (surface : VideoSurface) : VideoFrame := { surface := some surface }

namespace VideoSurface.Holds

variable {surface : VideoSurface} {image : DecodedImage}

/-- The renderer goes by the size of the luma plane, which is the size of the image. -/
theorem textures (holds : surface.Holds image) :
    surface.frame.textures = updateTextures (some (surface.planes .y)) (some (surface.planes .u))
      (some (surface.planes .v)) image.width image.height image.width := by
  have width : surface.width .y = image.width := congrFun holds.width .y
  have height : surface.height .y = image.height := congrFun holds.height .y
  have pitch : surface.pitch .y = image.width := congrFun holds.pitch .y
  have handed : surface.frame.textures = updateTextures (some (surface.planes .y))
      (some (surface.planes .u)) (some (surface.planes .v)) (surface.width .y)
      (surface.height .y) (surface.pitch .y) := rfl
  rw [handed, width, height, pitch]

theorem data (plane : Plane) :
    (surface.frame.textures plane).data = some (surface.planes plane) := by
  cases plane <;> rfl

theorem stride (holds : surface.Holds image) (plane : Plane) :
    (surface.frame.textures plane).stride = (surface.frame.textures plane).width := by
  rw [holds.textures]
  cases plane <;> rfl

/-- Every row of a texture is as long as the texture is wide. -/
theorem rowLength (holds : surface.Holds image) (plane : Plane) :
    (surface.frame.textures plane).rowLength = (surface.frame.textures plane).width := by
  rw [GLTexture.rowLength, holds.stride, ite_self]

/-- No texture is larger than its plane. -/
theorem within (holds : surface.Holds image) (plane : Plane) :
    (surface.frame.textures plane).width ≤ image.planeWidth plane ∧
      (surface.frame.textures plane).height ≤ image.planeHeight plane := by
  rw [holds.textures]
  cases plane <;>
    simp only [updateTextures, DecodedImage.planeWidth, DecodedImage.planeHeight] <;> omega

/-- The texels of a texture run through the samples of its plane in order, and start a row where
the texture does, not where the plane does. -/
theorem texel (holds : surface.Holds image) {plane : Plane} {x y : Nat}
    (inRow : x < (surface.frame.textures plane).width)
    (inTexture : y < (surface.frame.textures plane).height) :
    (surface.frame.textures plane).texel x y = some (image.sample plane
      ((y * (surface.frame.textures plane).width + x) % image.planeWidth plane)
      ((y * (surface.frame.textures plane).width + x) / image.planeWidth plane)) := by
  obtain ⟨narrow, low⟩ := holds.within plane
  have column : (y * (surface.frame.textures plane).width + x) % image.planeWidth plane <
      image.planeWidth plane := Nat.mod_lt _ (by omega)
  have row : (y * (surface.frame.textures plane).width + x) / image.planeWidth plane <
      image.planeHeight plane := by
    apply Nat.div_lt_of_lt_mul
    calc y * (surface.frame.textures plane).width + x
        < (y + 1) * (surface.frame.textures plane).width := by rw [Nat.succ_mul]; omega
      _ ≤ image.planeHeight plane * image.planeWidth plane :=
        Nat.mul_le_mul (by omega) narrow
      _ = image.planeWidth plane * image.planeHeight plane := Nat.mul_comm ..
  rw [GLTexture.texel, if_pos ⟨inRow, inTexture⟩, data, holds.rowLength, Option.map_some,
    Memory.pixel_eq_pixel_div _ (image.planeWidth plane), holds.sample plane _ _ column row]

/-- A texture as wide as its plane shows the samples at their places. -/
theorem texel_of_width (holds : surface.Holds image) {plane : Plane} {x y : Nat}
    (width : (surface.frame.textures plane).width = image.planeWidth plane)
    (inRow : x < image.planeWidth plane) (inTexture : y < (surface.frame.textures plane).height) :
    (surface.frame.textures plane).texel x y = some (image.sample plane x y) := by
  have row : (y * image.planeWidth plane + x) / image.planeWidth plane = y := by
    rw [Nat.add_comm, Nat.add_mul_div_right _ _ (by omega), Nat.div_eq_of_lt inRow, Nat.zero_add]
  rw [holds.texel (by omega) inTexture, width, Nat.mul_add_mod_of_lt inRow, row]

/-- The extents agree for even sizes only. -/
theorem extents_iff_even (holds : surface.Holds image) :
    (∀ plane, (surface.frame.textures plane).width = image.planeWidth plane ∧
      (surface.frame.textures plane).height = image.planeHeight plane) ↔
        image.width % 2 = 0 ∧ image.height % 2 = 0 := by
  rw [holds.textures]
  constructor
  · intro agree
    obtain ⟨width, height⟩ := agree .u
    simp only [updateTextures, DecodedImage.planeWidth, DecodedImage.planeHeight] at width height
    omega
  · rintro ⟨evenWidth, evenHeight⟩ plane
    cases plane <;>
      simp only [updateTextures, DecodedImage.planeWidth, DecodedImage.planeHeight, and_self] <;>
      constructor <;> omega

end VideoSurface.Holds

/-- The renderer shows what the decoder sent exactly where both sizes of the image are even. -/
theorem shows_iff_even (cbOut : Bool) (malloc : Plane → Option (Memory UInt8))
    (image : DecodedImage) (surface : VideoSurface)
    (sent : videoDecSendImage cbOut malloc image = some surface) :
    Shows surface.frame.textures surface image ↔ image.width % 2 = 0 ∧ image.height % 2 = 0 := by
  have holds := videoDecSendImage_holds sent
  constructor
  · intro shows
    apply holds.extents_iff_even.mp
    intro plane
    exact ⟨(shows.width plane).trans (congrFun holds.width plane),
      (shows.height plane).trans (congrFun holds.height plane)⟩
  · intro even
    have extents := holds.extents_iff_even.mpr even
    constructor
    case width => exact fun plane => by rw [(extents plane).1, holds.width]
    case height => exact fun plane => by rw [(extents plane).2, holds.height]
    case pitch => exact fun plane => by rw [holds.stride, (extents plane).1, holds.pitch]
    case texel =>
      intro plane x y inRow inTexture
      exact holds.texel_of_width (extents plane).1 ((extents plane).1 ▸ inRow) inTexture
    case complete =>
      intro plane x y inRow inImage
      exact holds.texel_of_width (extents plane).1 inRow ((extents plane).2 ▸ inImage)

/-- An image whose planes count their samples, packed. -/
def countingImage (width height : Nat) : DecodedImage where
  data _ index := UInt8.ofNat index
  width := width
  height := height
  linesize
    | .y => width
    | .u | .v => (width + 1) >>> 1
  pts := 0
  opaqueData := 0

def zeroed (_ : Plane) : Option (Memory UInt8) := some fun _ => 0

theorem shows_iff_even_fourByTwo : ∃ surface,
    videoDecSendImage true zeroed (countingImage 4 2) = some surface ∧
      (Shows surface.frame.textures surface (countingImage 4 2) ↔ 4 % 2 = 0 ∧ 2 % 2 = 0) :=
  ⟨_, rfl, shows_iff_even true zeroed (countingImage 4 2) _ rfl⟩

/-- Of a 2 by 2 plane the renderer uploads one column, and the second sample of the first row as
the first of the second. -/
theorem threeByFour_sheared : (countingImage 3 4).LinesFit ∧ ∃ surface,
    videoDecSendImage true zeroed (countingImage 3 4) = some surface ∧
      (surface.frame.textures .u).texel 0 1 = some 1 ∧
      (countingImage 3 4).sample .u 0 1 = 2 ∧
      (surface.frame.textures .u).texel 1 0 = none ∧
      ¬ Shows surface.frame.textures surface (countingImage 3 4) := by
  have fits : (countingImage 3 4).LinesFit := by
    intro plane
    cases plane <;> decide
  refine ⟨fits, _, rfl, by decide, by decide, by decide, ?_⟩
  intro shows
  have missing := shows.complete .u 1 0 (by decide) (by decide)
  cases missing

end RtpPlayer
