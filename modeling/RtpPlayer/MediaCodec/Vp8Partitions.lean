import RtpPlayer.Foundations.Script
import RtpPlayer.MediaCodec.EncoderFrames

/-! # The partitions of the VP8 encoder

`get_partitions` of `MediaCodec/jni/vp8enc.c` around libvpx: the packets of one call of
`vpx_codec_encode`, the frame they are copied into, and when `cb_out` is called with it. -/

namespace RtpPlayer

open Foundations

namespace EncoderFrames

open VideoEnc (Config)

/-- `VPX_FRAME_IS_KEY` -/
def vpxFrameIsKey : UInt32 := 0x1

/-- `VPX_FRAME_IS_DROPPABLE` -/
def vpxFrameIsDroppable : UInt32 := 0x2

/-- `VPX_FRAME_IS_FRAGMENT` -/
def vpxFrameIsFragment : UInt32 := 0x8

/-- `VPX_ENC_TOKEN_PARTITIONS` -/
def vpxEncTokenPartitions : Nat := 3

/-- `VPX_ENC_PARTITIONS` -/
def vpxEncPartitions : Nat := (1 <<< vpxEncTokenPartitions) + 1

/-- `pkt->data.frame`: `buf` is of `sz` bytes. -/
structure CxPartition where
  buf : List UInt8
  flags : UInt32
  partitionId : Int

namespace CxPartition

def isKey (partition : CxPartition) : Bool := partition.flags &&& vpxFrameIsKey ≠ 0

def isDroppable (partition : CxPartition) : Bool := partition.flags &&& vpxFrameIsDroppable ≠ 0

def isFragment (partition : CxPartition) : Bool := partition.flags &&& vpxFrameIsFragment ≠ 0

/-- What `populate_codec_priv` reads of the packet. -/
def cxFrame (partition : CxPartition) : CxFrame := ⟨partition.isKey, partition.isDroppable⟩

end CxPartition

/-- `vpx_codec_cx_pkt_t` -/
inductive CxPkt where
  | frame (partition : CxPartition)
  | psnr
  | other

/-- The packets of `VPX_CODEC_CX_FRAME_PKT`. -/
def partitionsOf (packets : List CxPkt) : List CxPartition :=
  packets.filterMap fun
    | .frame partition => some partition
    | .psnr | .other => none

@[simp] theorem partitionsOf_nil : partitionsOf [] = [] := rfl

@[simp] theorem partitionsOf_frame (partition : CxPartition) (packets : List CxPkt) :
    partitionsOf (.frame partition :: packets) = partition :: partitionsOf packets := rfl

@[simp] theorem partitionsOf_psnr (packets : List CxPkt) :
    partitionsOf (.psnr :: packets) = partitionsOf packets := rfl

@[simp] theorem partitionsOf_other (packets : List CxPkt) :
    partitionsOf (.other :: packets) = partitionsOf packets := rfl

/-- `cb_out`, which owns the frame once it is called with it: what the frame reads as after each of
the calls. -/
structure Callback where
  leaves : Nat → Frame

/-- What `get_partitions` is called with, of the surface. -/
structure PictureArgs where
  pts : Int
  prop : SurfaceProp
  opaqueData : Int

/-- The variables of the loop over the packets, with the frames `cb_out` was called with. -/
structure Receiving where
  ctx : Vp8EncContext
  output : Output
  gotPic : Bool
  /-- What is returned. -/
  result : Int
  delivered : List Output

namespace Receiving

/-- The partition becomes the next unit of the frame. -/
def addPartition (partition : CxPartition) (receiving : Receiving) : Receiving :=
  { receiving with
    output := (receiving.output.setStartCodeLen 0).addUnit partition.isDroppable partition.buf }

/-- The end of a frame. -/
def endOfFrame (picture : PictureArgs) (partition : CxPartition) (receiving : Receiving) :
    Receiving :=
  let (ctx, codecPriv) := receiving.ctx.populateCodecPriv partition.cxFrame
  { receiving with
    ctx := ctx
    output := receiving.output.setHeader fun frame => { frame with
      flags := if partition.isKey then frame.flags ||| videoFrameTypeKey else frame.flags
      pts := picture.pts
      prop := picture.prop
      opaqueData := picture.opaqueData
      codecPriv := .vp8 codecPriv }
    gotPic := true }

/-- A partition that passes the check. -/
def take (picture : PictureArgs) (partition : CxPartition) (receiving : Receiving) : Receiving :=
  let receiving := receiving.addPartition partition
  if partition.isFragment then receiving else receiving.endOfFrame picture partition

/-- A packet of `VPX_CODEC_CX_FRAME_PKT`. -/
def receivePartition (picture : PictureArgs) (partition : CxPartition) (receiving : Receiving) :
    Except Receiving Receiving :=
  let output := receiving.output
  if vpxEncPartitions ≤ output.frame.numUnits ∨ partition.partitionId ≠ output.frame.numUnits then
    .error { receiving with result := -1 }
  else .ok (receiving.take picture partition)

/-- The frame is delivered when there is a picture and `cb_out` to call. -/
def deliver (cbOut : Option Callback) (receiving : Receiving) : Receiving :=
  match cbOut with
  | none => receiving
  | some callback =>
    if receiving.gotPic then
      { receiving with
        gotPic := false
        output := receiving.output.deliver (callback.leaves receiving.delivered.length)
        delivered := receiving.delivered ++ [receiving.output] }
    else receiving

/-- One turn of the loop.  `VPX_ENC_INIT_COLLECT_PSNR` is not set, so that only packets of frames
change anything. -/
def receivePacket (cbOut : Option Callback) (picture : PictureArgs) (packet : CxPkt)
    (receiving : Receiving) : Except Receiving Receiving :=
  match packet with
  | .frame partition => (receiving.receivePartition picture partition).map (deliver cbOut)
  | .psnr | .other => .ok (deliver cbOut receiving)

/-! ## What a packet can do -/

/-- The partition passes the check. -/
def Takes (receiving : Receiving) (partition : CxPartition) : Prop :=
  receiving.output.frame.numUnits < vpxEncPartitions ∧
    partition.partitionId = receiving.output.frame.numUnits

section Steps

variable {cbOut : Option Callback} {picture : PictureArgs} {receiving : Receiving}

theorem takes_iff {next : Nat} (count : receiving.output.frame.numUnits = next)
    (partition : CxPartition) :
    receiving.Takes partition ↔ next < vpxEncPartitions ∧ partition.partitionId = next := by
  rw [Takes, count]
  omega

theorem addPartition_count {next : Nat} (count : receiving.output.frame.numUnits = next)
    (partition : CxPartition) :
    (receiving.addPartition partition).output.frame.numUnits = (next + 1 : Nat) := by
  show receiving.output.frame.numUnits + 1 = _
  rw [count, Nat.cast_succ]

theorem deliver_of_idle (idle : receiving.gotPic = false) :
    deliver cbOut receiving = receiving := by
  cases cbOut with
  | none => rfl
  | some callback => simp [deliver, idle]

@[simp] theorem deliver_none : deliver none receiving = receiving := rfl

theorem deliver_of_gotPic {callback : Callback} (got : receiving.gotPic = true) :
    deliver (some callback) receiving = { receiving with
      gotPic := false
      output := receiving.output.deliver (callback.leaves receiving.delivered.length)
      delivered := receiving.delivered ++ [receiving.output] } := by
  simp [deliver, got]

theorem deliver_frame {callback : Callback} (got : receiving.gotPic = true) :
    (deliver (some callback) receiving).output.frame =
      callback.leaves receiving.delivered.length := by
  rw [deliver_of_gotPic got]
  rfl

theorem deliver_gotPic (callback : Callback) :
    (deliver (some callback) receiving).gotPic = false := by
  cases got : receiving.gotPic with
  | false => rwa [deliver_of_idle got]
  | true => rw [deliver_of_gotPic got]

theorem receivePacket_of_not_takes {partition : CxPartition}
    (rejected : ¬ receiving.Takes partition) :
    receivePacket cbOut picture (.frame partition) receiving =
      .error { receiving with result := -1 } := by
  have checked : vpxEncPartitions ≤ receiving.output.frame.numUnits ∨
      partition.partitionId ≠ receiving.output.frame.numUnits := by
    rw [Takes] at rejected
    omega
  rw [receivePacket, receivePartition, if_pos checked]
  rfl

theorem receivePacket_of_takes {partition : CxPartition} (takes : receiving.Takes partition) :
    receivePacket cbOut picture (.frame partition) receiving =
      .ok (deliver cbOut (receiving.take picture partition)) := by
  have checked : ¬ (vpxEncPartitions ≤ receiving.output.frame.numUnits ∨
      partition.partitionId ≠ receiving.output.frame.numUnits) := by
    rw [Takes] at takes
    omega
  rw [receivePacket, receivePartition, if_neg checked]
  rfl

theorem take_of_fragment {partition : CxPartition} (fragment : partition.isFragment = true) :
    receiving.take picture partition = receiving.addPartition partition := if_pos fragment

theorem take_of_last {partition : CxPartition} (last : partition.isFragment ≠ true) :
    receiving.take picture partition =
      (receiving.addPartition partition).endOfFrame picture partition := if_neg last

theorem execute_psnr (idle : receiving.gotPic = false) (packets : List CxPkt) :
    Script.execute (receivePacket cbOut picture) (.psnr :: packets) receiving =
      Script.execute (receivePacket cbOut picture) packets receiving :=
  Script.execute_cons_ok packets (congrArg Except.ok (deliver_of_idle idle))

theorem execute_other (idle : receiving.gotPic = false) (packets : List CxPkt) :
    Script.execute (receivePacket cbOut picture) (.other :: packets) receiving =
      Script.execute (receivePacket cbOut picture) packets receiving :=
  Script.execute_cons_ok packets (congrArg Except.ok (deliver_of_idle idle))

end Steps

/-! ## What is added to the trace -/

section Trace

variable (receiving : Receiving) (partition : CxPartition)

theorem addPartition_trace :
    (receiving.addPartition partition).output.trace = receiving.output.trace ++
      [.unit receiving.output.frame.numUnits, .unit receiving.output.frame.numUnits, .header,
        .copy receiving.output.frame.len partition.buf.length, .header] := by
  rw [addPartition, Output.addUnit_trace]
  simp [Output.setStartCodeLen, Output.setNextUnit]

theorem endOfFrame_trace (picture : PictureArgs) :
    (receiving.endOfFrame picture partition).output.trace =
      receiving.output.trace ++ [.header] := rfl

end Trace

end Receiving

/-- The variables before the loop. -/
def startReceiving (ctx : Vp8EncContext) (block : Block) : Receiving where
  ctx := ctx
  output := (videoEncGetFreeFrame block).setHeader fun frame => { frame with
    len := 0
    numUnits := 0
    codec := .vp8 }
  gotPic := false
  result := 0
  delivered := []

/-- `get_partitions`, where `malloc` is asked for the room of a frame and `vpx_codec_get_cx_data`
returns `packets`. -/
def getPartitions (config : Config) (cbOut : Option Callback) (malloc : Room → Option Block)
    (picture : PictureArgs) (packets : List CxPkt) (ctx : Vp8EncContext) :
    Vp8EncContext × Outcome :=
  match malloc (room config vpxEncPartitions) with
  | none => (ctx, { result := some (-1), delivered := [], trace := [] })
  | some block =>
    let receiving := Script.execute (Receiving.receivePacket cbOut picture) packets
      (startReceiving ctx block)
    (receiving.ctx, {
      result := some receiving.result
      delivered := receiving.delivered
      trace := receiving.output.trace })

end EncoderFrames

end RtpPlayer
