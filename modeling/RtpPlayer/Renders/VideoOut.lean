import RtpPlayer.Foundations.Machine
import RtpPlayer.MediaCodec.VideoDec

/-! # The video renderer

The model of what `VideoOut` hands to OpenGL.  The renderer sees a frame through the getters of
`AVFrame` only, and these give it the sizes of plane 0. -/

namespace RtpPlayer

open Foundations

/-- A video frame, of which the renderer reads `m_surface` alone. -/
structure VideoFrame where
  surface : Option VideoSurface

namespace VideoFrame

def getY (frame : VideoFrame) : Option (Memory UInt8) := frame.surface.map fun s => s.planes .y

def getU (frame : VideoFrame) : Option (Memory UInt8) := frame.surface.map fun s => s.planes .u

def getV (frame : VideoFrame) : Option (Memory UInt8) := frame.surface.map fun s => s.planes .v

def getWidth (frame : VideoFrame) : Nat := frame.surface.elim 0 fun s => s.width .y

def getHeight (frame : VideoFrame) : Nat := frame.surface.elim 0 fun s => s.height .y

def getStride (frame : VideoFrame) : Nat := frame.surface.elim 0 fun s => s.pitch .y

end VideoFrame

/-- What `glTexSubImage2D` is given for a texture, `none` for a null pointer. -/
structure GLTexture where
  data : Option (Memory UInt8)
  width : Nat
  height : Nat
  stride : Nat

namespace GLTexture

/-- A `GL_UNPACK_ROW_LENGTH` of 0 stands for the width. -/
def rowLength (texture : GLTexture) : Nat :=
  if texture.stride = 0 then texture.width else texture.stride

/-- The texel uploaded to column `x` of row `y`; the unpack alignment is 1. -/
def texel (texture : GLTexture) (x y : Nat) : Option UInt8 :=
  if x < texture.width ∧ y < texture.height then
    texture.data.map fun data => data.pixel texture.rowLength x y
  else none

end GLTexture

/-- The sizes `init_textures` has `glTexImage2D` allocate. -/
def initTextures (width height : Nat) : Plane → Nat × Nat
  | .y => (width, height)
  | .u => (width >>> 1, height >>> 1)
  | .v => (width >>> 1, height >>> 1)

def updateTextures (y u v : Option (Memory UInt8)) (width height stride : Nat) :
    Plane → GLTexture
  | .y => { data := y, width := width, height := height, stride := stride }
  | .u => { data := u, width := width >>> 1, height := height >>> 1, stride := stride >>> 1 }
  | .v => { data := v, width := width >>> 1, height := height >>> 1, stride := stride >>> 1 }

/-- `update_textures` as `on_frame` calls it. -/
def VideoFrame.textures (frame : VideoFrame) : Plane → GLTexture :=
  updateTextures frame.getY frame.getU frame.getV frame.getWidth frame.getHeight frame.getStride

structure VideoOut where
  imageWidth : Nat
  imageHeight : Nat
  /-- The sizes of the textures, `none` while there is no GL context. -/
  allocated : Option (Plane → Nat × Nat)

namespace VideoOut

def create : VideoOut where
  imageWidth := 0
  imageHeight := 0
  allocated := none

def clear (out : VideoOut) : VideoOut := { out with allocated := none }

/-- `init`, whose EGL calls and shaders may fail. -/
def init (out : VideoOut) (width height : Nat) (succeeds : Bool) : VideoOut :=
  if succeeds then { out with allocated := some (initTextures width height) } else out.clear

/-- `on_frame`: a new size starts the context over, and the frame is dropped where that fails.
Returned with the renderer is what reaches the textures. -/
def onFrame (out : VideoOut) (frame : VideoFrame) (initSucceeds : Bool) :
    VideoOut × Option (Plane → GLTexture) :=
  if frame.getWidth ≠ out.imageWidth ∨ frame.getHeight ≠ out.imageHeight then
    let out := out.clear.init frame.getWidth frame.getHeight initSucceeds
    if initSucceeds then
      ({ out with imageWidth := frame.getWidth, imageHeight := frame.getHeight },
        some frame.textures)
    else (out, none)
  else (out, some frame.textures)

theorem textures_sizes (frame : VideoFrame) (plane : Plane) :
    ((frame.textures plane).width, (frame.textures plane).height) =
      initTextures frame.getWidth frame.getHeight plane := by
  cases plane <;> rfl

end VideoOut

end RtpPlayer
