import RtpPlayer.Rtp.ReceiveLoop
import RtpPlayer.Streams.SendFrame

/-! # From the socket to the stream

RTP datagrams of any form arrive at a client that listens: each becomes its packet, and a stream
takes no notice of the packets of others.  What a video stream sends is what its depacketizer
delivers. -/

namespace RtpPlayer

open Foundations
open RtpDepacketizer
open RtpClient (Listening received)

/-- A datagram of which `RtpClient` makes a packet, and what the packet finds. -/
structure Arrival where
  datagram : RtpDatagram
  around : PacketSurroundings
  occupied : datagram.payload ≠ []
  payload_le : datagram.payload.length ≤ maxPayloadBytes
  bounded : datagram.serialise.length ≤ RtpClient.maxUdpPayload

namespace Arrival

def bytes (arrival : Arrival) : List UInt8 × PacketSurroundings :=
  (arrival.datagram.serialise, arrival.around)

/-- The task takes the frame, if the packet brings one to an end. -/
def Accepted (arrival : Arrival) : Prop :=
  arrival.around.command = true ∧ arrival.around.put = true

def packet (arrival : Arrival) : RtpPacket where
  hdr := RtpHeader.ofBytes (received arrival.datagram.serialise)
  size := UInt16.ofNat arrival.datagram.payload.length
  payload := arrival.datagram.payload
  payload_length :=
    (UInt16.toNat_ofNat_of_lt' (Nat.lt_of_le_of_lt arrival.payload_le (by decide))).symm

/-- The serialisation lies at the start of the buffer. -/
theorem received_serialise (arrival : Arrival) :
    (received arrival.datagram.serialise).slice 0 arrival.datagram.serialise.length =
      arrival.datagram.serialise :=
  Memory.slice_ofList ..

theorem packet_payloadType (arrival : Arrival) :
    arrival.packet.payloadType = arrival.datagram.payloadType.toNat := by
  rw [RtpPacket.payloadType, packet, RtpHeader.ofBytes_pt,
    RtpGrammar.serialised_payloadType arrival.received_serialise]

theorem packet_marker (arrival : Arrival) : arrival.packet.marker = arrival.datagram.marker := by
  rw [← RtpGrammar.serialised_marker arrival.received_serialise, RtpPacket.marker,
    Bool.eq_iff_iff, decide_eq_true_eq]
  exact RtpHeader.ofBytes_m _

theorem packet_timestamp (arrival : Arrival) :
    arrival.packet.timestamp = arrival.datagram.timestamp := by
  rw [← RtpGrammar.serialised_timestamp arrival.received_serialise]
  exact ByteOrder.swap32_ofLittleEndian32 _ _ _ _

theorem packetOf_serialise (arrival : Arrival) :
    RtpClient.expectedPacket arrival.datagram.serialise = some arrival.packet := by
  have known := arrival.received_serialise
  have length := RtpClient.datagram_length_toNat arrival.bounded
  have payload := RtpGrammar.serialised_payload_eq known
  have formed : RtpClient.WellFormedDatagram arrival.datagram.serialise :=
    RtpGrammar.serialised_wellFormed known
  have sizes : 1 ≤ arrival.datagram.payload.length ∧ arrival.datagram.payload.length ≤ 64512 :=
    ⟨List.length_pos_iff.mpr arrival.occupied, arrival.payload_le⟩
  rw [RtpClient.expectedPacket, if_pos formed, RtpGrammar.packetOf]
  simp only [length, payload, if_pos sizes]
  rfl

variable {client : RtpClient}

theorem deliver_arrival (listening : Listening client) (arrival : Arrival) :
    client.deliver arrival.datagram.serialise = (client, some arrival.packet) := by
  have formed : RtpClient.WellFormedDatagram arrival.datagram.serialise :=
    RtpGrammar.serialised_wellFormed arrival.received_serialise
  rw [RtpClient.deliver_wellFormed listening arrival.bounded formed, packetOf_serialise]

/-- The packets of the arrivals, as the client hands them on. -/
theorem packets_arrivals (listening : Listening client) (arrivals : List Arrival) :
    RtpClient.packets.run client (arrivals.map bytes) = client ∧
      RtpClient.packets.emissions client (arrivals.map bytes) =
        arrivals.map fun arrival => (arrival.packet, arrival.around) := by
  induction arrivals with
  | nil => exact ⟨rfl, rfl⟩
  | cons arrival arrivals ih =>
    have step : RtpClient.packets.step client arrival.bytes =
        (client, [(arrival.packet, arrival.around)]) := by
      simp [RtpClient.packets, bytes, deliver_arrival listening]
    simp [step, ih.1, ih.2]

end Arrival

/-! ## The packets of a stream -/

namespace StreamObject

variable {σ : Type} [OnRtpPacket σ]

theorem onRtpPacket_payloadType (stream : StreamObject σ) (packet : RtpPacket)
    (around : PacketSurroundings) :
    (stream.onRtpPacket packet around).1.base.payloadType = stream.base.payloadType := by
  rw [onRtpPacket_base]
  split <;> rfl

/-- The packets of other streams change nothing. -/
theorem emissions_filter (stream : StreamObject σ)
    (inputs : List (RtpPacket × PacketSurroundings)) :
    machine.emissions stream inputs =
      machine.emissions stream (inputs.filter fun input => stream.Owns input.1) := by
  induction inputs generalizing stream with
  | nil => rfl
  | cons input inputs ih =>
    rw [List.filter_cons]
    by_cases owned : stream.Owns input.1
    · have same : (stream.onRtpPacket input.1 input.2).1.Owns = stream.Owns := by
        funext packet
        rw [Owns, Owns, onRtpPacket_payloadType]
      have rest := ih (stream.onRtpPacket input.1 input.2).1
      simp only [same] at rest
      rw [if_pos (decide_eq_true owned), Machine.emissions_cons, Machine.emissions_cons]
      exact congrArg _ rest
    · have step : machine.step stream input = (stream, []) := by
        simp [machine, onRtpPacket_of_not_owns owned, accepted]
      rw [if_neg (by simpa using owned), Machine.emissions_cons, step]
      exact ih stream

end StreamObject

/-! ## What a video stream sends -/

/-- The copy of a frame that a depacketizer delivers. -/
def RtpStream.copyOf (stream : RtpStream) (delivered : MediaFrame × List UInt8) : SentFrame where
  type := stream.media
  data := delivered.2
  len := delivered.1.len
  pts := delivered.1.pts
  flags := delivered.1.flags
  rtpPayloadType := delivered.1.rtpPayloadType
  packets := delivered.1.packets

namespace VideoStream

variable {δ : Type} [RtpDepacketizer δ]

/-- The frame given to `send_frame` is what the depacketizer delivers. -/
theorem onRtpPacket_eq (base : RtpStream) (depacketizer : δ) (packet : RtpPacket)
    (around : PacketSurroundings) (owned : packet.payloadType = base.payloadType) :
    let result := answer depacketizer (parseCall packet around)
    (⟨base, ⟨some depacketizer⟩⟩ : StreamObject (VideoStream δ)).onRtpPacket packet around =
      (⟨base.pushStatistics packet, ⟨some result.depacketizer⟩⟩,
        (delivery result).map base.copyOf) := by
  intro result
  have same : ¬ packet.payloadType ≠ base.payloadType := not_not.mpr owned
  simp only [StreamObject.onRtpPacket, if_neg same, OnRtpPacket.onRtpPacket, onRtpPacket, delivery]
  congr 1
  split
  · cases result.frame <;> rfl
  · rfl

theorem emissions_eq (base : RtpStream) (depacketizer : δ)
    {inputs : List (RtpPacket × PacketSurroundings)}
    (owned : ∀ input ∈ inputs, input.1.payloadType = base.payloadType)
    (accepted : ∀ input ∈ inputs, input.2.command = true ∧ input.2.put = true) :
    StreamObject.machine.emissions
        (⟨base, ⟨some depacketizer⟩⟩ : StreamObject (VideoStream δ)) inputs =
      ((answers depacketizer (inputs.map fun input => parseCall input.1 input.2)).filterMap
        delivery).map base.copyOf := by
  induction inputs generalizing base depacketizer with
  | nil => rfl
  | cons input inputs ih =>
    rw [List.forall_mem_cons] at owned accepted
    let result := answer depacketizer (parseCall input.1 input.2)
    have rest := ih (base.pushStatistics input.1) result.depacketizer owned.2 accepted.2
    have step : StreamObject.machine.step
        (⟨base, ⟨some depacketizer⟩⟩ : StreamObject (VideoStream δ)) input =
        (⟨base.pushStatistics input.1, ⟨some result.depacketizer⟩⟩,
          ((delivery result).map base.copyOf).toList) := by
      simp only [StreamObject.machine, onRtpPacket_eq base depacketizer input.1 input.2 owned.1,
        StreamObject.accepted, if_pos accepted.1]
      rfl
    rw [Machine.emissions_cons, step, rest, List.map_cons, answers]
    cases delivered : delivery result with
    | none => rw [List.filterMap_cons_none delivered]; rfl
    | some frame => rw [List.filterMap_cons_some delivered]; rfl

end VideoStream

/-! ## What an audio stream sends -/

namespace AudioStream

/-- The copy of a packet. -/
def copyOf (base : RtpStream) (packet : RtpPacket) : SentFrame where
  type := base.media
  data := packet.payload
  len := packet.size.toNat
  pts := packet.timestamp.toNat
  flags := 0
  rtpPayloadType := base.payloadType
  packets := 1

theorem onRtpPacket_eq (base : RtpStream) (packet : RtpPacket) (around : PacketSurroundings)
    (owned : packet.payloadType = base.payloadType) :
    (⟨base, {}⟩ : StreamObject AudioStream).onRtpPacket packet around =
      (⟨base.pushStatistics packet, {}⟩, some (copyOf base packet)) := by
  have same : ¬ packet.payloadType ≠ base.payloadType := not_not.mpr owned
  have size : packet.size.toNat = packet.payload.length := packet.payload_length.symm
  have copied : (Memory.ofList packet.payload around.beyond).slice 0 packet.size.toNat =
      packet.payload := by
    rw [size]
    exact Memory.slice_ofList ..
  simp only [StreamObject.onRtpPacket, if_neg same, OnRtpPacket.onRtpPacket, onRtpPacket,
    Option.map_some, RtpStream.sendFrame, copied]
  rfl

/-- Every packet is a frame. -/
theorem emissions_eq (base : RtpStream) {inputs : List (RtpPacket × PacketSurroundings)}
    (owned : ∀ input ∈ inputs, input.1.payloadType = base.payloadType)
    (accepted : ∀ input ∈ inputs, input.2.command = true ∧ input.2.put = true) :
    StreamObject.machine.emissions (⟨base, {}⟩ : StreamObject AudioStream) inputs =
      inputs.map fun input => copyOf base input.1 := by
  induction inputs generalizing base with
  | nil => rfl
  | cons input inputs ih =>
    rw [List.forall_mem_cons] at owned accepted
    have step : StreamObject.machine.step (⟨base, {}⟩ : StreamObject AudioStream) input =
        (⟨base.pushStatistics input.1, {}⟩, [copyOf base input.1]) := by
      simp only [StreamObject.machine, onRtpPacket_eq base input.1 input.2 owned.1,
        StreamObject.accepted, if_pos accepted.1]
      rfl
    rw [Machine.emissions_cons, step, ih (base.pushStatistics input.1) owned.2 accepted.2]
    rfl

end AudioStream

end RtpPlayer
