import RtpPlayer.Depacketizers.RtpDepacketizer
import RtpPlayer.Foundations.Pipelines
import RtpPlayer.Player.RtpPlayer
import RtpPlayer.Rtp.RtpClient

/-! # Streams

The model of `Streams/RtpStream`, `AudioStream` and `VideoStream` up to the command that
`send_frame` puts into the task.  Whether a command can be created, and whether the task takes it,
comes with each packet, as does the memory that the source reads without having written it. -/

namespace RtpPlayer

open Foundations
open RtpDepacketizer (answer frameBuffer)

/-- `ISVIDEO` -/
def RtpMediaType.isVideo (media : RtpMediaType) : Bool := media = .videoAvc ∨ media = .videoVp8

/-- The members of an `RtpStream` but the client, the task and the observer.  Of the statistics,
which are kept elsewhere, there is what was pushed to them. -/
structure RtpStream where
  media : RtpMediaType
  payloadType : Int
  framerate : List Nat
  bitrate : List Nat
  lossrate : List UInt16
  deriving DecidableEq

/-- A `MediaFrame` with `data` of its own, as `send_frame` allocates them. -/
structure SentFrame where
  type : RtpMediaType
  data : List UInt8
  len : Nat
  pts : Int
  flags : Nat
  rtpPayloadType : Int
  packets : Nat
  deriving DecidableEq

/-- What a packet finds besides the stream. -/
structure PacketSurroundings where
  /-- The memory behind the payload. -/
  beyond : Memory UInt8
  /-- The local `MediaFrame` before anything is assigned to it. -/
  frame : MediaFrame
  /-- `CreateInstance` gives a command. -/
  command : Bool
  /-- `m_task.Put` takes it. -/
  put : Bool

namespace RtpStream

/-- After `set_media`. -/
def create (media : RtpMediaType) (payloadType : Int) : RtpStream where
  media := media
  payloadType := payloadType
  framerate := []
  bitrate := []
  lossrate := []

/-- What a packet of the stream pushes to its statistics. -/
def pushStatistics (stream : RtpStream) (packet : RtpPacket) : RtpStream :=
  { stream with
    framerate :=
      if stream.media.isVideo ∧ packet.marker then stream.framerate ++ [1] else stream.framerate
    bitrate := stream.bitrate ++ [packet.size.toNat * 8]
    lossrate := stream.lossrate ++ [packet.sequence] }

/-- The copy that `send_frame` makes; the type is that of the stream. -/
def sendFrame (stream : RtpStream) (frame : MediaFrame) (data : Memory UInt8) : SentFrame where
  type := stream.media
  data := data.slice 0 frame.len
  len := frame.len
  pts := frame.pts
  flags := frame.flags
  rtpPayloadType := frame.rtpPayloadType
  packets := frame.packets

end RtpStream

/-- The virtual `on_rtp_packet` of the derived streams: what it leaves, and the frame it gives to
`send_frame` with what its `data` points to. -/
class OnRtpPacket (σ : Type) where
  onRtpPacket : RtpStream → σ → RtpPacket → PacketSurroundings →
    σ × Option (MediaFrame × Memory UInt8)

/-- An `AudioStream` has no members of its own. -/
structure AudioStream where
  deriving DecidableEq

/-- Every packet is a frame. -/
def AudioStream.onRtpPacket (base : RtpStream) (stream : AudioStream) (packet : RtpPacket)
    (around : PacketSurroundings) : AudioStream × Option (MediaFrame × Memory UInt8) :=
  (stream, some (
    { len := packet.size.toNat
      pts := packet.timestamp.toNat
      flags := 0
      rtpPayloadType := base.payloadType
      packets := 1 },
    Memory.ofList packet.payload around.beyond))

instance : OnRtpPacket AudioStream where
  onRtpPacket := AudioStream.onRtpPacket

/-- A `VideoStream`; the depacketizer is `none` where `create_depacketizer` knows none. -/
structure VideoStream (δ : Type) where
  depacketizer : Option δ

namespace VideoStream

variable {δ : Type} [RtpDepacketizer δ]

/-- The call of `parse`. -/
def parseCall (packet : RtpPacket) (around : PacketSurroundings) : ParseCall where
  packet := Memory.ofList packet.payload around.beyond
  packetLen := packet.size.toNat
  marker := packet.marker
  pts := packet.timestamp
  payloadType := packet.payloadType
  frame := some around.frame

def onRtpPacket (_ : RtpStream) (stream : VideoStream δ) (packet : RtpPacket)
    (around : PacketSurroundings) : VideoStream δ × Option (MediaFrame × Memory UInt8) :=
  match stream.depacketizer with
  | none => (stream, none)
  | some depacketizer =>
    let result := answer depacketizer (parseCall packet around)
    ({ depacketizer := some result.depacketizer },
      if result.status = .frame then
        result.frame.map fun frame => (frame, frameBuffer result.depacketizer)
      else none)

instance : OnRtpPacket (VideoStream δ) where
  onRtpPacket := onRtpPacket

end VideoStream

/-- A stream object: the base and what the derived class adds to it. -/
structure StreamObject (σ : Type) where
  base : RtpStream
  derived : σ

/-- After `set_audio_media`. -/
def AudioStream.setAudioMedia (media : RtpMediaType) (payloadType : Int) :
    StreamObject AudioStream where
  base := .create media payloadType
  derived := {}

/-- After `set_video_media`, with the depacketizer that it creates for the media. -/
def VideoStream.setVideoMedia {δ : Type} (media : RtpMediaType) (payloadType : Int)
    (depacketizer : δ) : StreamObject (VideoStream δ) where
  base := .create media payloadType
  derived := { depacketizer := some depacketizer }

namespace StreamObject

variable {σ : Type} [OnRtpPacket σ]

/-- `RtpStream::on_rtp_packet`, with the copy of the frame that `send_frame` is called with. -/
def onRtpPacket (stream : StreamObject σ) (packet : RtpPacket) (around : PacketSurroundings) :
    StreamObject σ × Option SentFrame :=
  if packet.payloadType ≠ stream.base.payloadType then
    (stream, none)
  else
    let base := stream.base.pushStatistics packet
    let (derived, given) := OnRtpPacket.onRtpPacket base stream.derived packet around
    ({ base := base, derived := derived },
      given.map fun frame => base.sendFrame frame.1 frame.2)

/-- A copied frame becomes a command where one can be created and the task takes it. -/
def accepted (around : PacketSurroundings) (frame : Option SentFrame) : List SentFrame :=
  if around.command ∧ around.put then frame.toList else []

/-- The stream over its packets; it puts out the frames of the commands that the task takes. -/
def machine : Machine (StreamObject σ) (RtpPacket × PacketSurroundings) (List SentFrame) where
  step stream input :=
    let (next, frame) := stream.onRtpPacket input.1 input.2
    (next, accepted input.2 frame)

end StreamObject

/-- The client as the first stage before a stream. -/
def RtpClient.packets :
    Machine RtpClient (List UInt8 × PacketSurroundings)
      (List (RtpPacket × PacketSurroundings)) where
  step client input :=
    let (next, packet) := client.deliver input.1
    (next, packet.toList.map fun packet => (packet, input.2))

/-- From the socket to the task. -/
def receiving (σ : Type) [OnRtpPacket σ] :
    Machine (RtpClient × StreamObject σ) (List UInt8 × PacketSurroundings) (List SentFrame) :=
  RtpClient.packets.andThen StreamObject.machine

section Receiving

variable {σ : Type} [OnRtpPacket σ] {client next : RtpClient} {stream : StreamObject σ}
  {datagram : List UInt8} (around : PacketSurroundings)

theorem receiving_step_of_none (delivered : client.deliver datagram = (next, none)) :
    (receiving σ).step (client, stream) (datagram, around) = ((next, stream), []) := by
  simp [receiving, Machine.andThen, RtpClient.packets, delivered]

theorem receiving_step_of_packet {packet : RtpPacket}
    (delivered : client.deliver datagram = (next, some packet)) :
    (receiving σ).step (client, stream) (datagram, around) =
      ((next, (stream.onRtpPacket packet around).1),
        StreamObject.accepted around (stream.onRtpPacket packet around).2) := by
  simp [receiving, Machine.andThen, RtpClient.packets, StreamObject.machine, delivered]

end Receiving

/-! ## Packets of other streams -/

namespace StreamObject

variable {σ : Type} [OnRtpPacket σ]

/-- A packet is of the stream. -/
def Owns (stream : StreamObject σ) (packet : RtpPacket) : Prop :=
  packet.payloadType = stream.base.payloadType

instance (stream : StreamObject σ) (packet : RtpPacket) : Decidable (stream.Owns packet) :=
  inferInstanceAs (Decidable (_ = _))

theorem onRtpPacket_of_not_owns {stream : StreamObject σ} {packet : RtpPacket}
    (other : ¬ stream.Owns packet) (around : PacketSurroundings) :
    stream.onRtpPacket packet around = (stream, none) :=
  if_pos other

theorem onRtpPacket_base (stream : StreamObject σ) (packet : RtpPacket)
    (around : PacketSurroundings) :
    (stream.onRtpPacket packet around).1.base =
      if stream.Owns packet then stream.base.pushStatistics packet else stream.base := by
  by_cases owned : stream.Owns packet
  · have same : ¬ packet.payloadType ≠ stream.base.payloadType := not_not.mpr owned
    simp only [onRtpPacket, if_neg same, if_pos owned]
  · rw [onRtpPacket_of_not_owns owned around, if_neg owned]

end StreamObject

end RtpPlayer
