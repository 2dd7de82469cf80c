import RtpPlayer.Depacketizers.AccessUnitRoundTrip
import RtpPlayer.Depacketizers.Vp8RoundTrip
import RtpPlayer.Streams.DatagramPath

/-! # Frames through the network

A sender cuts frames into packets and sends each packet in a datagram of its own, with whatever
sequence numbers, sources, extensions and padding, and among the datagrams of other streams.  What
the observer of the stream gets is the frames behind the gate of the depacketizer, whole and in
order. -/

namespace RtpPlayer

open Foundations
open RtpDepacketizer
open RtpClient (Listening)

/-- The payloads of one frame arrive, the marker on the last and one timestamp on all. -/
structure Transmits (payloads : List (List UInt8)) (timestamp : UInt32)
    (arrivals : List Arrival) : Prop where
  carry : arrivals.map (fun arrival => arrival.datagram.payload) = payloads
  unmarked : ∀ arrival ∈ arrivals.dropLast, arrival.datagram.marker = false
  marked : ∀ arrival ∈ arrivals.getLast?, arrival.datagram.marker = true
  timestamps : ∀ arrival ∈ arrivals, arrival.datagram.timestamp = timestamp

/-- The call of `parse` that an arrival leads to. -/
def Arrival.call (arrival : Arrival) : ParseCall :=
  VideoStream.parseCall arrival.packet arrival.around

namespace Arrival

theorem call_payload (arrival : Arrival) : arrival.call.payload = arrival.datagram.payload := by
  have size : arrival.packet.size.toNat = arrival.datagram.payload.length :=
    arrival.packet.payload_length.symm
  simp only [call, VideoStream.parseCall, ParseCall.payload, size, Int.toNat_natCast]
  exact Memory.slice_ofList ..

theorem call_marker (arrival : Arrival) : arrival.call.marker = arrival.datagram.marker :=
  arrival.packet_marker

theorem call_pts (arrival : Arrival) : arrival.call.pts = arrival.datagram.timestamp :=
  arrival.packet_timestamp

theorem call_frame (arrival : Arrival) : arrival.call.frame = some arrival.around.frame := rfl

end Arrival

/-- The calls of `parse` carry the frame. -/
structure CarriesFrame (payloads : List (List UInt8)) (timestamp : UInt32)
    (calls : List ParseCall) : Prop where
  carry : calls.map ParseCall.payload = payloads
  unmarked : ∀ call ∈ calls.dropLast, call.marker = false
  last : ∀ call ∈ calls.getLast?, call.marker = true ∧ call.pts = timestamp ∧ call.frame.isSome

/-- The calls of `parse` for the frame. -/
theorem Transmits.calls {payloads : List (List UInt8)} {timestamp : UInt32}
    {arrivals : List Arrival} (transmits : Transmits payloads timestamp arrivals) :
    CarriesFrame payloads timestamp (arrivals.map Arrival.call) := by
  constructor
  case carry =>
    rw [← transmits.carry, List.map_map]
    exact List.map_congr_left fun arrival _ => arrival.call_payload
  case unmarked =>
    intro call member
    rw [← List.map_dropLast] at member
    obtain ⟨arrival, inside, rfl⟩ := List.mem_map.mp member
    rw [Arrival.call_marker, transmits.unmarked arrival inside]
  case last =>
    intro call member
    rw [List.getLast?_map, Option.mem_map] at member
    obtain ⟨arrival, last, rfl⟩ := member
    have inside := List.mem_of_getLast? last
    rw [Arrival.call_marker, Arrival.call_pts, Arrival.call_frame]
    exact ⟨transmits.marked arrival last, transmits.timestamps arrival inside, rfl⟩

/-- A packet that asks for more delivers nothing. -/
theorem deliveries_of_needMore {δ : Type} [RtpDepacketizer δ] {results : List (ParseResult δ)}
    (waiting : ∀ result ∈ results, result.status = .needMore) :
    results.filterMap delivery = [] := by
  rw [List.filterMap_eq_nil_iff]
  intro result member
  rw [delivery, waiting result member]
  rfl

/-! ## Access units behind the gate -/

namespace RtpDepacketizerH264

/-- An access unit in packets, and its timestamp. -/
structure TimedAccessUnit where
  packetisations : List NaluPacketisation
  nonempty : packetisations ≠ []
  timestamp : UInt32

namespace TimedAccessUnit

def nalus (unit : TimedAccessUnit) : List NalUnit := nalusOf unit.packetisations

def packets (unit : TimedAccessUnit) : List (List UInt8) :=
  unit.packetisations.flatMap NaluPacketisation.packets

end TimedAccessUnit

namespace Sentries

/-- The frames that come out, each with its timestamp.  An access unit whose last NAL unit the gate
does not let through leaves what it let through of it to the next. -/
def frames : Sentries → List UInt8 → List TimedAccessUnit → List (List UInt8 × Int)
  | _, _, [] => []
  | sentries, held, unit :: units =>
    let bytes := held ++ NalUnit.byteStream (sentries.kept unit.nalus)
    if sentries.admitsLast unit.nalus then
      (bytes, (unit.timestamp.toNat : Int)) :: (sentries.after unit.nalus).frames [] units
    else
      (sentries.after unit.nalus).frames bytes units

/-- There is room for every access unit behind what is held. -/
def Fits : Sentries → List UInt8 → List TimedAccessUnit → Prop
  | _, _, [] => True
  | sentries, held, unit :: units =>
    held.length + (NalUnit.byteStream unit.nalus).length ≤ maxEsFrameSize ∧
      (sentries.after unit.nalus).Fits
        (if sentries.admitsLast unit.nalus then []
          else held ++ NalUnit.byteStream (sentries.kept unit.nalus)) units

end Sentries

variable {depacketizer : RtpDepacketizerH264} {sentries : Sentries} {held : List UInt8}
  {packets : Nat}

/-- What a delivered frame is to its receiver. -/
def timedBytes (delivered : MediaFrame × List UInt8) : List UInt8 × Int :=
  (delivered.2, delivered.1.pts)

theorem Gated.delivers_frames {units : List TimedAccessUnit} {calls : List (List ParseCall)}
    (carries : List.Forall₂ (fun unit => CarriesFrame unit.packets unit.timestamp) units calls)
    (gated : depacketizer.Gated sentries [] held packets) (fits : sentries.Fits held units) :
    ((answers depacketizer calls.flatten).filterMap delivery).map timedBytes =
      sentries.frames held units := by
  -- on the access units: each leaves the gate and what is held to the one behind it
  induction carries generalizing depacketizer sentries held packets with
  | nil => rfl
  | @cons unit accessUnit units calls carry carries ih =>
    obtain ⟨earlier, last, rfl, waiting, ends⟩ :=
      gated.completes_accessUnit unit.nonempty fits.1 carry.carry carry.unmarked
    obtain ⟨marked, timestamp, out⟩ := carry.last last (by simp)
    rw [marked, Bool.true_and] at ends
    have rest := fits.2
    rw [List.flatten_cons, List.append_assoc, answers_append, List.filterMap_append,
      deliveries_of_needMore waiting, List.nil_append, List.singleton_append, answers,
      Sentries.frames]
    cases admitted : sentries.admitsLast unit.nalus with
    | true =>
      obtain ⟨status, gatedNext, bytes, flags, frame⟩ : EndsGated true last _ _ _ _ :=
        admitted ▸ ends
      obtain ⟨out, given⟩ := Option.isSome_iff_exists.mp out
      rw [given, Option.map_some] at frame
      have delivered : delivery (answer (afterPackets depacketizer earlier) last) =
          some (_, held ++ NalUnit.byteStream (sentries.kept unit.nalus)) :=
        delivery_eq_some_iff.mpr ⟨status, frame, bytes⟩
      rw [admitted, if_pos rfl] at rest
      rw [List.filterMap_cons_some delivered, List.map_cons, if_pos rfl, ih gatedNext rest,
        timedBytes, timestamp]
      rfl
    | false =>
      obtain ⟨status, gatedNext, -⟩ : EndsGated false last _ _ _ _ := admitted ▸ ends
      have silent : delivery (answer (afterPackets depacketizer earlier) last) = none := by
        rw [delivery, status]
        rfl
      rw [admitted, if_neg Bool.false_ne_true] at rest
      rw [List.filterMap_cons_none silent, if_neg Bool.false_ne_true]
      exact ih gatedNext rest

end RtpDepacketizerH264

/-! ## Frames of VP8 behind the gate -/

namespace RtpDepacketizerVp8

/-- A frame in packets, and its timestamp. -/
structure TimedFrame where
  packetisation : Vp8Packetisation
  timestamp : UInt32

namespace TimedFrame

def packets (frame : TimedFrame) : List (List UInt8) :=
  frame.packetisation.packets.map Vp8Packet.bytes

/-- The frame as its receiver sees it: its bytes, its timestamp and its flags. -/
def delivered (frame : TimedFrame) : List UInt8 × Int × Nat :=
  (frame.packetisation.frame, frame.timestamp.toNat,
    if frame.packetisation.IsKeyFrame then frameIsSyncPoint else 0)

end TimedFrame

/-- The frames that come out: all from the first key frame on. -/
def fromKeyFrame (frames : List TimedFrame) : List TimedFrame :=
  frames.dropWhile fun frame => ¬ frame.packetisation.IsKeyFrame

variable {depacketizer : RtpDepacketizerVp8} {bytes : List UInt8} {packets : Nat}
  {call : ParseCall}

/-- What a delivered frame is to its receiver. -/
def seen (delivered : MediaFrame × List UInt8) : List UInt8 × Int × Nat :=
  (delivered.2, delivered.1.pts, delivered.1.flags)

/-- A held frame that its last packet closes, and that the gate does not drop. -/
theorem Holds.delivery_of_passes (holds : depacketizer.Holds bytes packets)
    (marked : call.marker = true) (out : call.frame.isSome)
    (passes : ¬ (depacketizer.keyRequired = true ∧ depacketizer.frameType ≠ .videoFrameKey)) :
    ((delivery (depacketizer.finishPacket call)).map seen =
      some (bytes, (call.pts.toNat : Int),
        if depacketizer.frameType = .videoFrameKey then frameIsSyncPoint else 0)) ∧
      (depacketizer.finishPacket call).depacketizer.keyRequired = false ∧
      (depacketizer.finishPacket call).depacketizer.Holds [] 0 := by
  obtain ⟨frame, given⟩ := Option.isSome_iff_exists.mp out
  rw [finishPacket, if_pos marked, if_neg passes, given]
  refine ⟨?_, rfl, rfl, rfl, rfl⟩
  -- the bytes stay in `m_frame`, only its length is reset
  have kept : depacketizer.frame.slice 0 depacketizer.frameLen = bytes := by
    rw [holds.frameLen]
    exact holds.frame
  simp only [delivery, if_true, Option.map_some, seen]
  exact congrArg _ (congrArg₂ _ kept rfl)

theorem Holds.delivery_of_gated (marked : call.marker = true)
    (gated : depacketizer.keyRequired = true ∧ depacketizer.frameType ≠ .videoFrameKey) :
    delivery (depacketizer.finishPacket call) = none ∧
      (depacketizer.finishPacket call).depacketizer.keyRequired = true ∧
      (depacketizer.finishPacket call).depacketizer.Holds [] 0 := by
  rw [finishPacket, if_pos marked, if_pos gated]
  exact ⟨rfl, gated.1, rfl, rfl, rfl⟩

theorem Holds.delivers_frames {frames : List TimedFrame} {calls : List (List ParseCall)}
    (carries : List.Forall₂ (fun frame => CarriesFrame frame.packets frame.timestamp) frames calls)
    (holds : depacketizer.Holds [] 0) :
    ((answers depacketizer calls.flatten).filterMap delivery).map seen =
      (if depacketizer.keyRequired then fromKeyFrame frames else frames).map
        TimedFrame.delivered := by
  -- on the frames: the gate opens with the first key frame and stays open
  induction carries generalizing depacketizer with
  | nil => simp [answers, fromKeyFrame]
  | @cons frame frameCalls frames calls carry carries ih =>
    obtain ⟨earlier, last, rfl, waiting, held, closed, holdsAll, frameType, keyRequired⟩ :=
      holds.completes_pieces frame.packetisation.whole frame.packetisation.continued
        (by simpa using frame.packetisation.fits) carry.carry carry.unmarked
    obtain ⟨marked, timestamp, out⟩ := carry.last last (by simp)
    have isKey : held.frameType = .videoFrameKey ↔ frame.packetisation.IsKeyFrame := by
      have first : frame.packetisation.first.payload.isFirst = true := frame.packetisation.begins
      rw [frameType, ← frame.packetisation.beginsKeyFrame_iff, RtpDepacketizerVp8.hold,
        if_pos first]
      exact Iff.rfl
    rw [List.flatten_cons, List.append_assoc, answers_append, List.filterMap_append,
      deliveries_of_needMore waiting, List.nil_append, List.singleton_append, answers, closed]
    by_cases gated : held.keyRequired = true ∧ held.frameType ≠ .videoFrameKey
    · obtain ⟨silent, required, holdsNext⟩ := Holds.delivery_of_gated marked gated
      rw [List.filterMap_cons_none silent, ih holdsNext, required, if_pos rfl,
        ← keyRequired, gated.1, if_pos rfl, fromKeyFrame, fromKeyFrame,
        List.dropWhile_cons_of_pos (by simpa [isKey] using gated.2)]
    · obtain ⟨shown, free, holdsNext⟩ := holdsAll.delivery_of_passes marked out gated
      obtain ⟨delivered, handed, seen⟩ := Option.map_eq_some_iff.mp shown
      have whole : (if depacketizer.keyRequired then fromKeyFrame (frame :: frames)
          else frame :: frames) = frame :: frames := by
        rw [← keyRequired]
        split
        · rw [fromKeyFrame, List.dropWhile_cons_of_neg]
          simp_all
        · rfl
      rw [List.filterMap_cons_some handed, List.map_cons, ih holdsNext, free,
        if_neg Bool.false_ne_true, whole, seen, timestamp]
      simp only [List.map_cons, TimedFrame.delivered, isKey, List.nil_append]
      rfl

end RtpDepacketizerVp8

/-! ## Through the network and the task -/

/-- Among the arrivals are those of the stream, frame after frame, and the task takes their frames.
-/
structure Multiplexed (payloadType : BitVec 7) (arrivals : List Arrival)
    (own : List (List Arrival)) : Prop where
  filtered : arrivals.filter (fun arrival => arrival.datagram.payloadType = payloadType) =
    own.flatten
  accepted : ∀ arrival ∈ own.flatten, arrival.Accepted

section Delivery

variable {σ δ : Type} {client : RtpClient} {payloadType : BitVec 7} {arrivals : List Arrival}
  {own : List (List Arrival)}

theorem Arrival.owned_iff [OnRtpPacket σ] {stream : StreamObject σ}
    (typed : stream.base.payloadType = payloadType.toNat) (arrival : Arrival) :
    stream.Owns arrival.packet ↔ arrival.datagram.payloadType = payloadType := by
  rw [StreamObject.Owns, arrival.packet_payloadType, typed, Int.natCast_inj]
  exact BitVec.toNat_inj

/-- A stream puts out what it makes of its own packets. -/
theorem receiving_own [OnRtpPacket σ] (stream : StreamObject σ) (listening : Listening client)
    (typed : stream.base.payloadType = payloadType.toNat)
    (multiplexed : Multiplexed payloadType arrivals own) :
    (receiving σ).emissions (client, stream) (arrivals.map Arrival.bytes) =
        StreamObject.machine.emissions stream
          (own.flatten.map fun arrival => (arrival.packet, arrival.around)) ∧
      (∀ arrival ∈ own.flatten, arrival.packet.payloadType = stream.base.payloadType) := by
  have filtered : (arrivals.map fun arrival => (arrival.packet, arrival.around)).filter
      (fun input => stream.Owns input.1) =
      own.flatten.map fun arrival => (arrival.packet, arrival.around) := by
    rw [List.filter_map, ← multiplexed.filtered]
    congr 1
    exact List.filter_congr fun arrival _ => decide_eq_decide.mpr (arrival.owned_iff typed)
  constructor
  · rw [receiving, Machine.emissions_andThen, (Arrival.packets_arrivals listening arrivals).2,
      StreamObject.emissions_filter, filtered]
  · intro arrival member
    rw [← multiplexed.filtered, List.mem_filter] at member
    exact (arrival.owned_iff typed).mpr (by simpa using member.2)

/-- A video stream puts out what its depacketizer delivers for its own packets. -/
theorem receiving_multiplexed [RtpDepacketizer δ] {base : RtpStream}
    (listening : Listening client) (typed : base.payloadType = payloadType.toNat)
    (multiplexed : Multiplexed payloadType arrivals own) (depacketizer : δ) :
    (receiving (VideoStream δ)).emissions (client, ⟨base, ⟨some depacketizer⟩⟩)
        (arrivals.map Arrival.bytes) =
      ((answers depacketizer (own.map (·.map Arrival.call)).flatten).filterMap delivery).map
        base.copyOf := by
  obtain ⟨emitted, mine⟩ := receiving_own
    (⟨base, ⟨some depacketizer⟩⟩ : StreamObject (VideoStream δ)) listening typed multiplexed
  rw [emitted, VideoStream.emissions_eq, List.map_map, ← List.map_flatten]
  · rfl
  · intro input member
    obtain ⟨arrival, inside, rfl⟩ := List.mem_map.mp member
    exact mine arrival inside
  · intro input member
    obtain ⟨arrival, inside, rfl⟩ := List.mem_map.mp member
    exact multiplexed.accepted arrival inside

/-- An audio stream puts out every packet of its own. -/
theorem receiving_packets {base : RtpStream} (listening : Listening client)
    (typed : base.payloadType = payloadType.toNat)
    (multiplexed : Multiplexed payloadType arrivals own) :
    ((receiving AudioStream).emissions (client, ⟨base, {}⟩) (arrivals.map Arrival.bytes)).map
        (fun sent => (sent.data, sent.pts)) =
      own.flatten.map fun arrival =>
        (arrival.datagram.payload, (arrival.datagram.timestamp.toNat : Int)) := by
  obtain ⟨emitted, mine⟩ :=
    receiving_own (⟨base, {}⟩ : StreamObject AudioStream) listening typed multiplexed
  rw [emitted, AudioStream.emissions_eq, List.map_map, List.map_map]
  · apply List.map_congr_left
    intro arrival _
    simp only [Function.comp_apply, AudioStream.copyOf, arrival.packet_timestamp]
    rfl
  · intro input member
    obtain ⟨arrival, inside, rfl⟩ := List.mem_map.mp member
    exact mine arrival inside
  · intro input member
    obtain ⟨arrival, inside, rfl⟩ := List.mem_map.mp member
    exact multiplexed.accepted arrival inside

end Delivery

namespace StreamTask

open RtpDepacketizerH264 (Sentries TimedAccessUnit)
open RtpDepacketizerVp8 (TimedFrame fromKeyFrame)

variable {client : RtpClient} {payloadType : BitVec 7} {all : List Arrival}
  {own : List (List Arrival)} {actions : List Action}

theorem forall₂_calls {α : Type} {payloads : α → List (List UInt8)} {timestamp : α → UInt32}
    {frames : List α}
    (transmitted : List.Forall₂ (fun frame => Transmits (payloads frame) (timestamp frame))
      frames own) :
    List.Forall₂ (fun frame => CarriesFrame (payloads frame) (timestamp frame)) frames
      (own.map (·.map Arrival.call)) := by
  induction transmitted with
  | nil => exact .nil
  | cons transmits _ ih => exact .cons transmits.calls ih

/-- What an H.264 stream makes of the datagrams. -/
theorem emits_accessUnits (nalu frame : Memory UInt8) {units : List TimedAccessUnit}
    (listening : Listening client)
    (transmitted : List.Forall₂ (fun unit => Transmits unit.packets unit.timestamp) units own)
    (multiplexed : Multiplexed payloadType all own)
    (fits : Sentries.Fits ⟨true, true, true⟩ [] units) :
    ((receiving _).emissions (client, VideoStream.setVideoMedia .videoAvc
      payloadType.toNat (RtpDepacketizerH264.create nalu frame)) (all.map Arrival.bytes)).map
      (fun sent => (sent.data, sent.pts)) = Sentries.frames ⟨true, true, true⟩ [] units := by
  have gated : (RtpDepacketizerH264.create nalu frame).Gated ⟨true, true, true⟩ [] [] 0 :=
    ⟨rfl, rfl, rfl, rfl, rfl, rfl⟩
  rw [VideoStream.setVideoMedia, receiving_multiplexed listening rfl multiplexed, List.map_map]
  exact gated.delivers_frames (forall₂_calls transmitted) fits

/-- The observer of an H.264 stream gets the access units that come through the gate, whatever else
arrives and in any order of the two threads. -/
theorem hands_over_accessUnits (nalu frame : Memory UInt8) (units : List TimedAccessUnit)
    (listening : Listening client)
    (transmitted : List.Forall₂ (fun unit => Transmits unit.packets unit.timestamp) units own)
    (multiplexed : Multiplexed payloadType all own)
    (fits : Sentries.Fits ⟨true, true, true⟩ [] units)
    (task : StreamTask (VideoStream RtpDepacketizerH264))
    (ran : (system _).run (create client (VideoStream.setVideoMedia .videoAvc payloadType.toNat
      (RtpDepacketizerH264.create nalu frame))) actions = some task)
    (arrived : arrivals actions <+: all.map Arrival.bytes) :
    let frames := Sentries.frames ⟨true, true, true⟩ [] units
    task.handed.map (fun sent => (sent.data, sent.pts)) <+: frames ∧
      (arrivals actions = all.map Arrival.bytes →
        ∃ more final, (∀ action ∈ more, action.arrival = none) ∧
          (system _).run task more = some final ∧
          final.handed.map (fun sent => (sent.data, sent.pts)) = frames) := by
  intro frames
  have emitted : _ = frames := emits_accessUnits nalu frame listening transmitted multiplexed fits
  exact handed_of_emits emitted ran arrived

theorem sampleDatagram_csrcs_le : ([] : List UInt32).length < 16 := by decide

/-- A datagram of payload type 96 without extras, whose payload ends behind a hundred bytes. -/
@[simp] def sampleDatagram (timestamp : UInt32) (first : UInt8) (rest : List UInt8)
    (marker : Bool) : RtpDatagram :=
  ⟨marker, 96#7, 7, timestamp, 1, [], sampleDatagram_csrcs_le, none, first :: rest.take 99, none⟩

section

variable (timestamp : UInt32) (first : UInt8) (rest : List UInt8) (marker : Bool)

theorem sampleDatagram_occupied : (sampleDatagram timestamp first rest marker).payload ≠ [] :=
  List.cons_ne_nil _ _

theorem sampleDatagram_payload_le :
    (sampleDatagram timestamp first rest marker).payload.length ≤ maxPayloadBytes := by
  simp only [sampleDatagram, List.length_cons, List.length_take, maxPayloadBytes]
  omega

theorem sampleDatagram_bounded :
    (sampleDatagram timestamp first rest marker).serialise.length ≤ RtpClient.maxUdpPayload := by
  simp only [sampleDatagram, RtpDatagram.serialise, RtpDatagram.csrcBytes,
    RtpDatagram.extensionBytes, RtpDatagram.paddingBytes, List.length_append,
    RtpDatagram.headerBytes_length, RtpClient.maxUdpPayload]
  simp
  omega

/-- The datagram arrives at a task that takes frames. -/
def sampleArrival : Arrival where
  datagram := sampleDatagram timestamp first rest marker
  around := ⟨fun _ => 0, ⟨0, 0, 0, 0, 0⟩, true, true⟩
  occupied := sampleDatagram_occupied timestamp first rest marker
  payload_le := sampleDatagram_payload_le timestamp first rest marker
  bounded := sampleDatagram_bounded timestamp first rest marker

end

/-- Parameter sets and a slice of an IDR picture, in a packet each. -/
def samplePicture : TimedAccessUnit where
  packetisations := [.single ⟨0x27, [0x42]⟩ (by decide), .single ⟨0x28, [0xce]⟩ (by decide),
    .single ⟨0x25, [0x88]⟩ (by decide)]
  nonempty := by decide
  timestamp := 3000

def samplePictureArrivals : List Arrival :=
  [sampleArrival 3000 0x27 [0x42] false, sampleArrival 3000 0x28 [0xce] false,
    sampleArrival 3000 0x25 [0x88] true]

theorem hands_over_accessUnits_sample :
    ∃ (task : StreamTask (VideoStream RtpDepacketizerH264)) (more : List Action)
      (final : StreamTask (VideoStream RtpDepacketizerH264)),
      (system _).run task more = some final ∧
        final.handed.map (fun sent => (sent.data, sent.pts)) =
          [([0, 0, 0, 1, 0x27, 0x42, 0, 0, 0, 1, 0x28, 0xce, 0, 0, 0, 1, 0x25, 0x88], 3000)] := by
  let client := RtpClient.onNetworkAccept .built .create
  let stream := VideoStream.setVideoMedia .videoAvc (96 : BitVec 7).toNat
    (RtpDepacketizerH264.create (fun _ => 0) fun _ => 0)
  obtain ⟨task, ran⟩ :=
    exists_run_receive (create client stream) (samplePictureArrivals.map Arrival.bytes)
  have arrived := arrivals_receive (samplePictureArrivals.map Arrival.bytes)
  have transmits : Transmits samplePicture.packets samplePicture.timestamp samplePictureArrivals :=
    ⟨rfl, by simp [samplePictureArrivals, sampleArrival],
      by simp [samplePictureArrivals, sampleArrival],
      by simp [samplePictureArrivals, sampleArrival, samplePicture]⟩
  have multiplexed : Multiplexed 96 samplePictureArrivals [samplePictureArrivals] :=
    ⟨rfl, by simp [samplePictureArrivals, sampleArrival, Arrival.Accepted]⟩
  obtain ⟨-, whole⟩ := hands_over_accessUnits (fun _ => 0) (fun _ => 0) [samplePicture]
    RtpClient.listening_accepted (.cons transmits .nil) multiplexed
    ⟨by decide, trivial⟩ task ran (by rw [arrived])
  obtain ⟨more, final, -, goes, handed⟩ := whole arrived
  exact ⟨task, more, final, goes, handed⟩

/-- What a VP8 stream makes of the datagrams. -/
theorem emits_frames (buffer : Memory UInt8) {frames : List TimedFrame}
    (listening : Listening client)
    (transmitted : List.Forall₂ (fun frame => Transmits frame.packets frame.timestamp) frames own)
    (multiplexed : Multiplexed payloadType all own) :
    ((receiving _).emissions (client, VideoStream.setVideoMedia .videoVp8
      payloadType.toNat (RtpDepacketizerVp8.create buffer)) (all.map Arrival.bytes)).map
      (fun sent => (sent.data, sent.pts, sent.flags)) =
      (fromKeyFrame frames).map TimedFrame.delivered := by
  have holds : (RtpDepacketizerVp8.create buffer).Holds [] 0 := ⟨rfl, rfl, rfl⟩
  rw [VideoStream.setVideoMedia, receiving_multiplexed listening rfl multiplexed, List.map_map]
  exact holds.delivers_frames (forall₂_calls transmitted)

/-- The observer of a VP8 stream gets the frames from the first key frame on. -/
theorem hands_over_frames (buffer : Memory UInt8) (frames : List TimedFrame)
    (listening : Listening client)
    (transmitted : List.Forall₂ (fun frame => Transmits frame.packets frame.timestamp) frames own)
    (multiplexed : Multiplexed payloadType all own)
    (task : StreamTask (VideoStream RtpDepacketizerVp8))
    (ran : (system _).run (create client (VideoStream.setVideoMedia .videoVp8 payloadType.toNat
      (RtpDepacketizerVp8.create buffer))) actions = some task)
    (arrived : arrivals actions <+: all.map Arrival.bytes) :
    let shown := (fromKeyFrame frames).map TimedFrame.delivered
    task.handed.map (fun sent => (sent.data, sent.pts, sent.flags)) <+: shown ∧
      (arrivals actions = all.map Arrival.bytes →
        ∃ more final, (∀ action ∈ more, action.arrival = none) ∧
          (system _).run task more = some final ∧
          final.handed.map (fun sent => (sent.data, sent.pts, sent.flags)) = shown) := by
  intro shown
  have emitted : _ = shown := emits_frames buffer listening transmitted multiplexed
  exact handed_of_emits emitted ran arrived

/-- A frame between key frames, in one packet. -/
def sampleDelta : Vp8Packetisation where
  first := ⟨.short true, [0x11], by decide⟩
  rest := []
  begins := rfl
  continued := by decide
  keyHeader := by decide
  fits := by decide

/-- The packets of a key frame. -/
def sampleKeyFrameArrivals : List Arrival :=
  [sampleArrival 3000 0x90 [0x80, 0x81, 0x2c, 0x10, 0, 0, 0x9d, 1, 0x2a, 0x80, 2, 0xe0, 1] false,
    sampleArrival 3000 0x01 [7, 8] true]

def sampleFrames : List TimedFrame :=
  [⟨sampleDelta, 3000⟩, ⟨RtpDepacketizerVp8.sampleFrame, 3000⟩]

def sampleFrameArrivals : List (List Arrival) :=
  [[sampleArrival 3000 0x10 [0x11] true], sampleKeyFrameArrivals]

theorem sampleKeyFrame_transmits :
    Transmits (⟨RtpDepacketizerVp8.sampleFrame, 3000⟩ : TimedFrame).packets 3000
      sampleKeyFrameArrivals := by
  refine ⟨by decide, ?_, ?_, ?_⟩
  all_goals simp [sampleKeyFrameArrivals, sampleArrival]

/-- Only the key frame is handed over. -/
theorem hands_over_frames_sample :
    ∃ (task : StreamTask (VideoStream RtpDepacketizerVp8)) (more : List Action)
      (final : StreamTask (VideoStream RtpDepacketizerVp8)),
      (system _).run task more = some final ∧
        final.handed.map (fun sent => (sent.data, sent.pts, sent.flags)) =
          [([0x10, 0, 0, 0x9d, 1, 0x2a, 0x80, 2, 0xe0, 1, 7, 8], 3000, frameIsSyncPoint)] := by
  let client := RtpClient.onNetworkAccept .built .create
  let stream := VideoStream.setVideoMedia .videoVp8 (96 : BitVec 7).toNat
    (RtpDepacketizerVp8.create fun _ => 0)
  obtain ⟨task, ran⟩ :=
    exists_run_receive (create client stream) (sampleFrameArrivals.flatten.map Arrival.bytes)
  have arrived := arrivals_receive (sampleFrameArrivals.flatten.map Arrival.bytes)
  have transmitted : List.Forall₂ (fun frame => Transmits frame.packets frame.timestamp)
      sampleFrames sampleFrameArrivals := by
    refine .cons ⟨by decide, ?_, ?_, ?_⟩ (.cons sampleKeyFrame_transmits .nil)
    all_goals simp [sampleArrival]
  have multiplexed : Multiplexed 96 sampleFrameArrivals.flatten sampleFrameArrivals :=
    ⟨rfl, by simp [sampleFrameArrivals, sampleKeyFrameArrivals, sampleArrival, Arrival.Accepted]⟩
  obtain ⟨-, whole⟩ := hands_over_frames (fun _ => 0) sampleFrames
    RtpClient.listening_accepted transmitted multiplexed task ran (by rw [arrived])
  obtain ⟨more, final, -, goes, handed⟩ := whole arrived
  exact ⟨task, more, final, goes, handed.trans (by decide)⟩

end StreamTask

end RtpPlayer
