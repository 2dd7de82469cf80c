import Mathlib.Algebra.Ring.Int.Defs
import Mathlib.Logic.Function.Basic
import RtpPlayer.Foundations.Memory
import RtpPlayer.Foundations.Ownership
import RtpPlayer.MediaCodec.VideoEnc
import RtpPlayer.MediaCodec.Vp8Enc

/-! # Frames of the video encoders

`video_enc_get_free_frame` of `MediaCodec/jni/videoenc.c` and what the encoders do with the frame it
returns: a header, the records of its units and its bitstream in one block, of which only the header
is cleared.  A pointer is an address in the memory of the process.  Beside the frame a trace is kept
of every write to it and of its way to `cb_out`. -/

namespace RtpPlayer

open Foundations

namespace EncoderFrames

open VideoEnc (Config)

/-- `VID_ENC_UNIT_DROPPABLE` -/
def vidEncUnitDroppable : UInt32 := 0x0001

/-- `VIDEO_FRAME_TYPE_KEY` -/
def videoFrameTypeKey : UInt32 := 0x01

/-- `video_surface_prop` -/
structure SurfaceProp where
  ntp : Int
  rotation : Int
  orientation : Int
  deriving DecidableEq

/-- `video_enc_data_unit_bs` -/
structure DataUnit where
  data : Nat
  len : Int
  startCodeLen : Int
  reserved : Int
  flags : UInt32
  deriving DecidableEq

/-- `video_enc_priv_info_AVC` -/
structure PrivInfoAVC where
  tlIdx : Int
  nonReference : Int
  deriving DecidableEq

/-- `video_enc_codec_priv_info`, of zeros before an encoder fills it in. -/
inductive CodecPriv where
  | zeros
  | vp8 (info : VideoEncPrivInfoVP8)
  | avc (info : PrivInfoAVC)
  deriving DecidableEq

/-- `video_enc_frame_bs`.  `num_units` and `len` are `int`s: there are at most as many units as an
`int` counts, and a bitstream beyond what one holds has left its block before. -/
structure Frame where
  numUnits : Int
  /-- By the index from `units`, whether or not there is room for the record. -/
  units : Int → DataUnit
  data : Nat
  len : Nat
  pts : Int
  flags : UInt32
  prop : SurfaceProp
  opaqueData : Int
  codec : VideoCodecType
  codecPriv : CodecPriv

/-! ## The block -/

/-- `width * height * 3/2`, of `int`s. -/
def bitstreamSize (config : Config) : Int32 := config.width * config.height * 3 / 2

/-- The room asked of `malloc` behind the header: records of units and bytes of the bitstream. -/
structure Room where
  units : Nat
  bytes : Nat
  deriving DecidableEq

/-- The room of a frame for `numUnits` units; a size below zero leaves none for a bitstream. -/
def room (config : Config) (numUnits : Nat) : Room where
  units := numUnits
  bytes := (bitstreamSize config).toInt.toNat

/-- A block of `malloc`, with whatever it holds: the records, the address of the bitstream, and the
memory of the process by address, with what of it can be read. -/
structure Block where
  units : Int → DataUnit
  data : Nat
  memory : Memory UInt8
  readable : Nat → Bool

/-- What is done to a frame. -/
inductive FrameEvent where
  | header
  | unit (index : Int)
  /-- A `memcpy` to the bitstream. -/
  | copy (offset length : Nat)
  /-- `cb_out` is called with the frame. -/
  | deliver
  deriving DecidableEq

namespace FrameEvent

/-- Handed to `cb_out` the frame is the receiver's, who releases it. -/
def use : FrameEvent → Ownership.Use
  | .header | .unit _ | .copy _ _ => .write
  | .deliver => .handOver

/-- Neither encoder frees a frame: it writes to it or hands it over. -/
theorem use_ne_release (event : FrameEvent) : event.use ≠ .release := by
  cases event <;> simp [use]

/-- What is written lies in the room there is. -/
def Within (room : Room) : FrameEvent → Prop
  | .header | .deliver => True
  | .unit index => 0 ≤ index ∧ index < room.units
  | .copy offset length => offset + length ≤ room.bytes

instance (room : Room) : (event : FrameEvent) → Decidable (event.Within room)
  | .header => .isTrue trivial
  | .deliver => .isTrue trivial
  | .unit _ => inferInstanceAs (Decidable (_ ∧ _))
  | .copy _ _ => inferInstanceAs (Decidable (_ ≤ _))

end FrameEvent

/-- A frame, the memory it lies in and what was done to it. -/
structure Output where
  frame : Frame
  memory : Memory UInt8
  trace : List FrameEvent

/-- What a call returns, `none` where it does not, the frames `cb_out` is called with, and what is
done to the frame in between. -/
structure Outcome where
  result : Option Int
  delivered : List Output
  trace : List FrameEvent

/-- `video_enc_get_free_frame` in a block of `malloc`. -/
def videoEncGetFreeFrame (block : Block) : Output where
  frame := {
    numUnits := 0
    units := block.units
    data := block.data
    len := 0
    pts := 0
    flags := 0
    prop := ⟨0, 0, 0⟩
    opaqueData := 0
    codec := .nul
    codecPriv := .zeros
  }
  memory := block.memory
  trace := [.header]

namespace Output

/-- The record the next unit goes to. -/
def nextUnit (output : Output) : DataUnit := output.frame.units output.frame.numUnits

def setNextUnit (output : Output) (unit : DataUnit) : Output :=
  { output with
    frame := { output.frame with
      units := Function.update output.frame.units output.frame.numUnits unit }
    trace := output.trace ++ [.unit output.frame.numUnits] }

/-- Assignments to fields of the header. -/
def setHeader (output : Output) (assign : Frame → Frame) : Output :=
  { output with
    frame := assign output.frame
    trace := output.trace ++ [.header] }

/-- `frame->units[frame->num_units].start_code_len = ...` -/
def setStartCodeLen (output : Output) (startCodeLen : Nat) : Output :=
  output.setNextUnit { output.nextUnit with startCodeLen := startCodeLen }

/-- `memcpy(frame->data + frame->len, ...)` -/
def copy (output : Output) (bytes : List UInt8) : Output :=
  { output with
    memory := output.memory.write (output.frame.data + output.frame.len) bytes
    trace := output.trace ++ [.copy output.frame.len bytes.length] }

/-- What both encoders do to the record of a unit, and how they copy it.  `flags` is or-ed to what
the record holds. -/
def addUnit (output : Output) (droppable : Bool) (bytes : List UInt8) : Output :=
  let output := output.setNextUnit { output.nextUnit with
    data := output.frame.data + output.frame.len
    len := bytes.length
    flags := output.nextUnit.flags ||| (if droppable then vidEncUnitDroppable else 0)
    reserved := 0 }
  let output := output.setHeader fun frame => { frame with numUnits := frame.numUnits + 1 }
  let output := output.copy bytes
  output.setHeader fun frame => { frame with len := frame.len + bytes.length }

/-- `cb_out` is called with the frame, which afterwards reads as the callback leaves it. -/
def deliver (output : Output) (left : Frame) : Output :=
  { output with
    frame := left
    trace := output.trace ++ [.deliver] }

section Lemmas

variable (output : Output)

theorem setNextUnit_units_self (unit : DataUnit) :
    (output.setNextUnit unit).frame.units output.frame.numUnits = unit :=
  Function.update_self ..

theorem setNextUnit_units_of_ne (unit : DataUnit) {index : Int}
    (other : index ≠ output.frame.numUnits) :
    (output.setNextUnit unit).frame.units index = output.frame.units index :=
  Function.update_of_ne other ..

theorem setStartCodeLen_units_self (startCodeLen : Nat) :
    (output.setStartCodeLen startCodeLen).frame.units output.frame.numUnits =
      { output.nextUnit with startCodeLen := startCodeLen } :=
  output.setNextUnit_units_self _

/-- Of the records only one `start_code_len` changes. -/
theorem setStartCodeLen_units_data (startCodeLen : Nat) (index : Int) :
    ((output.setStartCodeLen startCodeLen).frame.units index).data =
      (output.frame.units index).data := by
  by_cases here : index = output.frame.numUnits
  · rw [here, setStartCodeLen_units_self]
    rfl
  · rw [setStartCodeLen, setNextUnit_units_of_ne _ _ here]

theorem setStartCodeLen_units_flags (startCodeLen : Nat) (index : Int) :
    ((output.setStartCodeLen startCodeLen).frame.units index).flags =
      (output.frame.units index).flags := by
  by_cases here : index = output.frame.numUnits
  · rw [here, setStartCodeLen_units_self]
    rfl
  · rw [setStartCodeLen, setNextUnit_units_of_ne _ _ here]

theorem setStartCodeLen_units_of_ne (startCodeLen : Nat) {index : Int}
    (other : index ≠ output.frame.numUnits) :
    (output.setStartCodeLen startCodeLen).frame.units index = output.frame.units index :=
  setNextUnit_units_of_ne _ _ other

variable (droppable : Bool) (bytes : List UInt8)

theorem addUnit_units_self :
    (output.addUnit droppable bytes).frame.units output.frame.numUnits =
      { output.nextUnit with
        data := output.frame.data + output.frame.len
        len := bytes.length
        flags := output.nextUnit.flags ||| (if droppable then vidEncUnitDroppable else 0)
        reserved := 0 } :=
  output.setNextUnit_units_self _

theorem addUnit_units_of_ne {index : Int} (other : index ≠ output.frame.numUnits) :
    (output.addUnit droppable bytes).frame.units index = output.frame.units index :=
  output.setNextUnit_units_of_ne _ other

@[simp] theorem addUnit_numUnits :
    (output.addUnit droppable bytes).frame.numUnits = output.frame.numUnits + 1 := rfl

@[simp] theorem addUnit_data :
    (output.addUnit droppable bytes).frame.data = output.frame.data := rfl

@[simp] theorem addUnit_len :
    (output.addUnit droppable bytes).frame.len = output.frame.len + bytes.length := rfl

@[simp] theorem addUnit_memory :
    (output.addUnit droppable bytes).memory =
      output.memory.write (output.frame.data + output.frame.len) bytes := rfl

theorem addUnit_trace :
    (output.addUnit droppable bytes).trace =
      output.trace ++ [.unit output.frame.numUnits, .header,
        .copy output.frame.len bytes.length, .header] := by
  simp [addUnit, setNextUnit, setHeader, copy]

end Lemmas

end Output

end EncoderFrames

end RtpPlayer
