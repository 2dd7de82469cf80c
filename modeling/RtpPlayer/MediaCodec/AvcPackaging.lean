import Mathlib.Data.List.Forall2
import RtpPlayer.MediaCodec.AvcLoop

/-! # What the AVC encoder packs

A frame should have a unit for every NAL unit with a start code, and nothing of what its block held
before.  `Truthful` is what the block has to hold for that. -/

namespace RtpPlayer

open Foundations

namespace EncoderFrames

open VideoEnc (Config Surface)

/-! ## The frame that is delivered -/

/-- The records of the units of a frame. -/
def Output.units (output : Output) : List DataUnit :=
  (List.range output.frame.numUnits.toNat).map fun index : Nat => output.frame.units index

/-- What can be told of a unit without knowing where it lies. -/
structure UnitContents where
  bytes : List UInt8
  startCodeLen : Int
  reserved : Int
  flags : UInt32
  deriving DecidableEq

/-- What can be told of a frame without knowing where it lies. -/
structure FrameContents where
  units : List UnitContents
  pts : Int
  flags : UInt32
  prop : SurfaceProp
  opaqueData : Int
  codec : VideoCodecType
  codecPriv : CodecPriv
  deriving DecidableEq

def Output.contents (output : Output) : FrameContents where
  units := output.units.map fun unit => {
    bytes := output.memory.slice unit.data unit.len.toNat
    startCodeLen := unit.startCodeLen
    reserved := unit.reserved
    flags := unit.flags }
  pts := output.frame.pts
  flags := output.frame.flags
  prop := output.frame.prop
  opaqueData := output.frame.opaqueData
  codec := output.frame.codec
  codecPriv := output.frame.codecPriv

namespace Block

end Block

section Contents

variable {output : Output} {room : Room} {block : Block}

end Contents

/-! ## A whole call -/

/-- A call whose surface the encoder takes and that x264 makes NAL units of. -/
structure EncodedCall (config : Config) where
  surface : Surface
  accepted : surface.Accepted config
  prop : SurfaceProp
  opaqueData : Int
  picture : PictureOut
  nalus : List X264Nal

def EncodedCall.toCall {config : Config} (call : EncodedCall config) : AvcCall where
  surface := call.surface
  prop := call.prop
  opaqueData := call.opaqueData
  encoded := some (call.picture, call.nalus)

/-- The call that finds `block`. -/
def EncodedCall.outcome {config : Config} (call : EncodedCall config) (cbOut : Bool)
    (block : Block) : Outcome :=
  avcEncEncode config cbOut (fun _ => some block) call.toCall

/-- The call that finds `block` and has somewhere to deliver the frame to. -/
def EncodedCall.encode {config : Config} (call : EncodedCall config) (block : Block) : Outcome :=
  call.outcome true block

/-- The room of the frame of the call. -/
def EncodedCall.room {config : Config} (call : EncodedCall config) : Room :=
  EncoderFrames.room config call.nalus.length

theorem EncodedCall.outcome_nil {config : Config} {call : EncodedCall config}
    (empty : call.nalus = []) (cbOut : Bool) (block : Block) :
    call.outcome cbOut block = { result := some 0, delivered := [], trace := [] } := by
  simp only [outcome, avcEncEncode, toCall, empty, if_pos call.accepted]

theorem EncodedCall.outcome_of_ne_nil {config : Config} {call : EncodedCall config}
    (some : call.nalus ≠ []) (cbOut : Bool) (block : Block) :
    call.outcome cbOut block = finishFrame cbOut
      (packNalus block (startFrame block call.prop call.opaqueData call.picture) call.nalus) := by
  cases nalus : call.nalus with
  | nil => exact absurd nalus some
  | cons nalu nalus' => simp only [outcome, avcEncEncode, toCall, nalus, if_pos call.accepted]

section Frame

variable {block : Block} {prop : SurfaceProp} {opaqueData : Int} {picture : PictureOut}

/-- The frame as it is delivered. -/
def Packing.finished (packing : Packing) : Output :=
  packing.output.setHeader fun frame => { frame with
    codecPriv := .avc { tlIdx := 0, nonReference := if packing.droppable then 1 else 0 } }

end Frame

namespace EncodedCall

variable {config : Config} (call : EncodedCall config)

end EncodedCall

/-- A picture of 16 x 16. -/
def smallCall (nalus : List X264Nal) : EncodedCall ⟨16, 16, 30, 1, 1, 1⟩ where
  surface := ⟨.i420, 16, 16⟩
  accepted := by decide
  prop := ⟨0, 0, 0⟩
  opaqueData := 0
  picture := ⟨x264TypeIdr, 0⟩
  nalus := nalus

/-- A block of zeros in a memory full of `byte`. -/
def readableBlock (byte : UInt8) : Block where
  units := fun _ => ⟨0, 0, 0, 0, 0⟩
  data := 1000
  memory := fun _ => byte
  readable := fun _ => true

end EncoderFrames

end RtpPlayer
