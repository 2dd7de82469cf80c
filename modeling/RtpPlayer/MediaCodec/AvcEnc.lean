import RtpPlayer.Foundations.Script
import RtpPlayer.MediaCodec.EncoderFrames

/-! # The AVC encoder

`avc_enc_encode` of `MediaCodec/jni/avcenc.c` around x264: the NAL units x264 returns and the frame
they are packed into. -/

namespace RtpPlayer

open Foundations

namespace EncoderFrames

open VideoEnc (Config Surface)

/-- `x264_nal_t`: what `p_payload` points at, and `i_payload`. -/
structure X264Nal where
  payload : Memory UInt8
  length : Nat

namespace X264Nal

def bytes (nalu : X264Nal) : List UInt8 := nalu.payload.slice 0 nalu.length

@[simp] theorem bytes_length (nalu : X264Nal) : nalu.bytes.length = nalu.length := by
  simp [bytes]

/-- The payload begins with `00 00 01` or `00 00 00 01`. -/
def HasStartCode (nalu : X264Nal) : Prop :=
  nalu.payload.slice 0 3 = [0, 0, 1] ∨ nalu.payload.slice 0 4 = [0, 0, 0, 1]

instance (nalu : X264Nal) : Decidable nalu.HasStartCode := inferInstanceAs (Decidable (_ ∨ _))

/-- `start_code_len` after the NAL unit, which is `previous` before it. -/
def startCodeLen (previous : Nat) (nalu : X264Nal) : Nat :=
  VideoEnc.startCodeLen previous (nalu.payload.slice 0 4)

/-- `nal_ref_idc`, of the byte behind the start code of the NAL unit. -/
def refIdc (nalu : X264Nal) : UInt8 := nalu.payload (nalu.startCodeLen 0) &&& 0x60

theorem startCodeLen_eq (nalu : X264Nal) (previous : Nat) :
    nalu.startCodeLen previous =
      if nalu.payload.slice 0 3 = [0, 0, 1] then 3
      else if nalu.payload.slice 0 4 = [0, 0, 0, 1] then 4
      else previous := by
  simp only [startCodeLen, VideoEnc.startCodeLen, Memory.slice, List.range_succ,
    List.range_zero]
  simp
  grind

/-- Without a start code of its own a NAL unit has the length of the one before. -/
theorem startCodeLen_of_not_hasStartCode {nalu : X264Nal} (without : ¬ nalu.HasStartCode)
    (previous : Nat) : nalu.startCodeLen previous = previous := by
  rw [HasStartCode, not_or] at without
  rw [startCodeLen_eq, if_neg without.1, if_neg without.2]

theorem startCodeLen_eq_zero_iff (nalu : X264Nal) (previous : Nat) :
    nalu.startCodeLen previous = 0 ↔ ¬ nalu.HasStartCode ∧ previous = 0 := by
  by_cases starts : nalu.HasStartCode
  · have positive : nalu.startCodeLen previous ≠ 0 := by
      rw [startCodeLen_eq]
      cases starts with
      | inl three => simp [three]
      | inr four => split <;> simp
    simp [starts, positive]
  · simp [starts, startCodeLen_of_not_hasStartCode starts]

end X264Nal

/-- `x264_picture_t`, of the picture that comes out. -/
structure PictureOut where
  type : Int
  pts : Int

/-- `X264_TYPE_IDR` -/
def x264TypeIdr : Int := 0x0001

/-- `X264_TYPE_I` -/
def x264TypeI : Int := 0x0002

/-- The arguments of `avc_enc_encode`, with what x264 makes of them: `none` is an error. -/
structure AvcCall where
  surface : Surface
  prop : SurfaceProp
  opaqueData : Int
  encoded : Option (PictureOut × List X264Nal)

/-- The variables of the loop over the NAL units. -/
structure Packing where
  output : Output
  startCodeLen : Nat
  droppable : Bool
  /-- The process is gone: it read what it cannot. -/
  crashed : Bool

/-- One turn of the loop.  `nal_ref_idc` is read through the `data` of the record that is to be
filled, as the block of `malloc` has it. -/
def packNalu (readable : Nat → Bool) (nalu : X264Nal) (packing : Packing) :
    Except Packing Packing :=
  let output := packing.output.setStartCodeLen 0
  let startCodeLen := nalu.startCodeLen packing.startCodeLen
  if startCodeLen = 0 then
    .ok { packing with output := output, startCodeLen := startCodeLen }
  else
    let output := output.setStartCodeLen startCodeLen
    let address := output.nextUnit.data + startCodeLen
    if readable address then
      let nalRefIdc := output.memory address &&& 0x60
      .ok {
        output := output.addUnit (nalRefIdc = 0) nalu.bytes
        startCodeLen := startCodeLen
        droppable := if packing.droppable ∧ nalRefIdc ≠ 0 then false else packing.droppable
        crashed := false
      }
    else
      .error { packing with output := output, startCodeLen := startCodeLen, crashed := true }

/-- The frame before the loop. -/
def startFrame (block : Block) (prop : SurfaceProp) (opaqueData : Int) (picture : PictureOut) :
    Output :=
  (videoEncGetFreeFrame block).setHeader fun frame => { frame with
    flags := if picture.type = x264TypeIdr ∨ picture.type = x264TypeI then
      frame.flags ||| videoFrameTypeKey else frame.flags
    pts := picture.pts
    prop := prop
    opaqueData := opaqueData
    len := 0
    numUnits := 0
    codec := .avc }

/-- The variables before the loop. -/
def startPacking (output : Output) : Packing where
  output := output
  startCodeLen := 0
  droppable := true
  crashed := false

/-- The loop over the NAL units. -/
def packNalus (block : Block) (output : Output) (nalus : List X264Nal) : Packing :=
  Script.execute (packNalu block.readable) nalus (startPacking output)

/-- What follows the loop. -/
def finishFrame (cbOut : Bool) (packing : Packing) : Outcome :=
  if packing.crashed then { result := none, delivered := [], trace := packing.output.trace }
  else
    let output := packing.output.setHeader fun frame => { frame with
      codecPriv := .avc { tlIdx := 0, nonReference := if packing.droppable then 1 else 0 } }
    if cbOut then
      { result := some 0, delivered := [output], trace := output.trace ++ [.deliver] }
    else { result := some 0, delivered := [], trace := output.trace }

/-- `avc_enc_encode`, where `malloc` is asked for the room of a frame. -/
def avcEncEncode (config : Config) (cbOut : Bool) (malloc : Room → Option Block) (call : AvcCall) :
    Outcome :=
  if call.surface.Accepted config then
    match call.encoded with
    | none => { result := some (-1), delivered := [], trace := [] }
    | some (_, []) => { result := some 0, delivered := [], trace := [] }
    | some (picture, nalu :: nalus) =>
      match malloc (room config (nalu :: nalus).length) with
      | none => { result := some (-1), delivered := [], trace := [] }
      | some block =>
        let output := startFrame block call.prop call.opaqueData picture
        finishFrame cbOut (packNalus block output (nalu :: nalus))
  else { result := some (-1), delivered := [], trace := [] }

end EncoderFrames

end RtpPlayer
