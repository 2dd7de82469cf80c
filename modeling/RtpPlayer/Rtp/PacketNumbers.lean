import RtpPlayer.Rtp.RtpDatagram
import RtpPlayer.Rtp.RtpClient

/-! # Sequence numbers and SSRCs

Two datagrams may differ in the bytes of the sequence number and of the SSRC only.  The client makes
packets of both or of neither, and these differ in the two fields only; a datagram of twelve bytes,
whose padding count would be a byte of the SSRC, is no packet in either case. -/

namespace RtpPlayer

open Foundations

/-- The bytes of the sequence number and of the SSRC. -/
def RtpGrammar.IsNumber (index : Nat) : Prop := index = 2 ∨ index = 3 ∨ 8 ≤ index ∧ index < 12

/-- The datagrams differ in these bytes only. -/
structure Renumbered (datagram other : List UInt8) : Prop where
  length_eq : datagram.length = other.length
  agree : ∀ index, ¬ RtpGrammar.IsNumber index → datagram[index]? = other[index]?

theorem Renumbered.take {datagram other : List UInt8} (renumbered : Renumbered datagram other)
    (count : Nat) : Renumbered (datagram.take count) (other.take count) where
  length_eq := by rw [List.length_take, List.length_take, renumbered.length_eq]
  agree index outside := by
    rw [List.getElem?_take, List.getElem?_take, renumbered.agree index outside]

def RtpHeader.withoutNumbers (hdr : RtpHeader) : RtpHeader := { hdr with seq := 0, ssrc := 0 }

def RtpPacket.withoutNumbers (packet : RtpPacket) : RtpPacket :=
  { packet with hdr := packet.hdr.withoutNumbers }

namespace RtpPacket

variable {packet other : RtpPacket} (same : packet.withoutNumbers = other.withoutNumbers)

include same

theorem marker_eq : packet.marker = other.marker := by
  change packet.withoutNumbers.marker = other.withoutNumbers.marker
  rw [same]

theorem payloadType_eq : packet.payloadType = other.payloadType := by
  change packet.withoutNumbers.payloadType = other.withoutNumbers.payloadType
  rw [same]

theorem timestamp_eq : packet.timestamp = other.timestamp := by
  change packet.withoutNumbers.timestamp = other.withoutNumbers.timestamp
  rw [same]

theorem size_eq : packet.size = other.size := by
  change packet.withoutNumbers.size = other.withoutNumbers.size
  rw [same]

theorem payload_eq : packet.payload = other.payload := by
  change packet.withoutNumbers.payload = other.withoutNumbers.payload
  rw [same]

end RtpPacket

/-! ## What the parser makes of them -/

namespace RtpGrammar

/-- The buffers agree but for the numbers. -/
def Agree (buffer twin : Memory UInt8) : Prop :=
  ∀ index, ¬ IsNumber index → buffer index = twin index

theorem agree_ofList {datagram other : List UInt8} (renumbered : Renumbered datagram other) :
    Agree (Memory.ofList datagram fun _ => 0) (Memory.ofList other fun _ => 0) := by
  intro index outside
  simp only [Memory.ofList, List.getD_eq_getElem?_getD, renumbered.agree index outside]

section

variable {buffer twin : Memory UInt8} (agree : Agree buffer twin)

include agree

theorem Agree.flags : buffer 0 = twin 0 := agree 0 (by simp [IsNumber])

theorem Agree.behind {index : Nat} (behind : 12 ≤ index) : buffer index = twin index :=
  agree index (by simp only [IsNumber]; omega)

theorem Agree.csrcEnd_eq : csrcEnd buffer = csrcEnd twin := by
  rw [csrcEnd, csrcEnd, csrcCount, csrcCount, agree.flags]

theorem Agree.payloadOffset_eq : payloadOffset buffer = payloadOffset twin := by
  have bound : 12 ≤ csrcEnd twin := Nat.le_add_right ..
  rw [payloadOffset, payloadOffset, hasExtension, hasExtension, extensionWords, extensionWords,
    agree.csrcEnd_eq, agree.flags, agree.behind (by omega : 12 ≤ csrcEnd twin + 2),
    agree.behind (by omega : 12 ≤ csrcEnd twin + 3)]

/-- The count is behind the header, unless it cannot be part of a datagram anyway. -/
theorem Agree.paddingLength_eq {size : Nat} (long : 13 ≤ size) :
    paddingLength buffer size = paddingLength twin size := by
  rw [paddingLength, paddingLength, hasPadding, hasPadding, agree.flags,
    agree.behind (by omega : 12 ≤ size - 1)]

theorem Agree.wellFormed_iff (size : Nat) : WellFormed buffer size ↔ WellFormed twin size := by
  rw [WellFormed, WellFormed, version, version, agree.flags, agree.payloadOffset_eq]
  by_cases long : 13 ≤ size
  · rw [agree.paddingLength_eq long]
  · -- up to twelve bytes there is no room for padding
    have offset : 12 ≤ payloadOffset twin := by
      rw [payloadOffset, csrcEnd]
      omega
    have padded : hasPadding buffer = hasPadding twin := by rw [hasPadding, hasPadding, agree.flags]
    rw [paddingLength, paddingLength, padded]
    cases hasPadding twin with
    | true =>
      simp only [if_true]
      omega
    | false => rfl

theorem Agree.payload_eq (size : Nat) : payload buffer size = payload twin size := by
  have offset : 12 ≤ payloadOffset twin := by
    rw [payloadOffset, csrcEnd]
    omega
  rw [payload, payload, agree.payloadOffset_eq]
  by_cases long : 13 ≤ size
  · rw [agree.paddingLength_eq long]
    exact Memory.slice_congr fun index start _ => agree.behind (Nat.le_trans offset start)
  · have empty : size - payloadOffset twin = 0 := by omega
    rw [empty, Nat.zero_sub, Nat.zero_sub, Memory.slice_zero, Memory.slice_zero]

theorem Agree.header_eq :
    (RtpHeader.ofBytes buffer).withoutNumbers = (RtpHeader.ofBytes twin).withoutNumbers := by
  have cell (index : Nat) (outside : ¬ IsNumber index) := agree index outside
  simp only [RtpHeader.ofBytes, RtpHeader.withoutNumbers, agree.flags,
    cell 1 (by simp [IsNumber]), cell 4 (by simp [IsNumber]), cell 5 (by simp [IsNumber]),
    cell 6 (by simp [IsNumber]), cell 7 (by simp [IsNumber])]

end

/-- Both are accepted or neither, and the packets differ in the numbers only. -/
theorem Agree.packets_eq {buffer twin : Memory UInt8} (agree : Agree buffer twin) (size : UInt16)
    (hdr : RtpHeader) :
    let parsed := (RtpPacket.parse size hdr).value buffer
    let other := (RtpPacket.parse size hdr).value twin
    parsed.ret = other.ret ∧
      (parsed.ret = true → (RtpPacket.ofParsed buffer parsed).map RtpPacket.withoutNumbers =
        (RtpPacket.ofParsed twin other).map RtpPacket.withoutNumbers) := by
  simp only [value_parse]
  by_cases formed : WellFormed buffer size.toNat
  · have accepts := (agree.wellFormed_iff size.toNat).mp formed
    rw [if_pos formed, if_pos accepts]
    refine ⟨rfl, fun _ => ?_⟩
    rw [ofParsed_accepted, ofParsed_accepted, packetOf, packetOf]
    simp only [agree.payload_eq]
    split
    · simp only [Option.map_some, RtpPacket.withoutNumbers, agree.header_eq]
    · rfl
  · have rejects := mt (agree.wellFormed_iff size.toNat).mpr formed
    rw [if_neg formed, if_neg rejects]
    exact ⟨rfl, fun accepted => absurd accepted Bool.false_ne_true⟩

end RtpGrammar

/-! ## What the client makes of them -/

namespace RtpClient

/-- A client but for the datagrams that wait in the socket, which it does not look at. -/
def withoutWaiting (client : RtpClient) : RtpClient :=
  { client with session := client.session.map fun session => { session with waiting := [] } }

theorem withoutWaiting_read (client : RtpClient) :
    (read client).withoutWaiting = read client.withoutWaiting := by
  obtain ⟨exit, observer, session⟩ := client
  cases exit with
  | true => rfl
  | false =>
    cases session with
    | none => rfl
    | some session => rfl

/-- The clients differ in what waits in their sockets, the packets in their numbers. -/
def SameDelivery (delivery twin : RtpClient × Option RtpPacket) : Prop :=
  delivery.1.withoutWaiting = twin.1.withoutWaiting ∧
    delivery.2.map RtpPacket.withoutNumbers = twin.2.map RtpPacket.withoutNumbers

theorem onNetworkRead_same {client other : RtpClient}
    (same : client.withoutWaiting = other.withoutWaiting) {buffer twin : Memory UInt8}
    (agree : RtpGrammar.Agree buffer twin) (bytes : Nat) :
    SameDelivery (client.onNetworkRead buffer bytes) (other.onNetworkRead twin bytes) := by
  have observed : client.observer = other.observer := by
    change client.withoutWaiting.observer = other.withoutWaiting.observer
    rw [same]
  obtain ⟨accepted, packets⟩ :=
    agree.packets_eq (UInt16.ofNat bytes) (RtpHeader.ofBytes fun _ => 0)
  unfold onNetworkRead
  rw [observed]
  cases other.observer with
  | false => exact ⟨same, rfl⟩
  | true =>
    simp only [if_true, ← accepted]
    split
    case isTrue ready =>
      refine ⟨?_, packets ready⟩
      rw [withoutWaiting_read, withoutWaiting_read, same]
    case isFalse => exact ⟨same, rfl⟩

/-- The read handler gets the same bytes but for the numbers, and what is thrown does not depend on
them. -/
theorem onRead_same {client other : RtpClient}
    (same : client.withoutWaiting = other.withoutWaiting) {session : UdpSession}
    (waiting : List (List UInt8)) {received twin : List UInt8}
    (renumbered : Renumbered received twin) (err : Option NetError) :
    (∃ handled handled', client.onRead session err received = .ok handled ∧
      other.onRead { session with waiting := waiting } err twin = .ok handled' ∧
      SameDelivery handled handled') ∨
    client.onRead session err received = .error .badFunctionCall ∧
      other.onRead { session with waiting := waiting } err twin = .error .badFunctionCall := by
  have handled : SameDelivery
      (if received.length > 0 ∧ session.readHandler then
        client.onNetworkRead (Memory.ofList received fun _ => 0) received.length
      else (client, none))
      (if received.length > 0 ∧ session.readHandler then
        other.onNetworkRead (Memory.ofList twin fun _ => 0) received.length
      else (other, none)) := by
    split
    case isTrue => exact onNetworkRead_same same (RtpGrammar.agree_ofList renumbered) _
    case isFalse => exact ⟨same, rfl⟩
  simp only [onRead, ← renumbered.length_eq]
  split
  case isFalse => exact .inl ⟨_, _, rfl, rfl, handled⟩
  case isTrue =>
    split
    case isTrue => exact .inl ⟨_, _, rfl, rfl, handled⟩
    case isFalse => exact .inr ⟨rfl, rfl⟩

/-- Whatever the datagrams are, and whatever the client is at. -/
theorem deliver_same {client other : RtpClient}
    (same : client.withoutWaiting = other.withoutWaiting) {datagram twin : List UInt8}
    (renumbered : Renumbered datagram twin) :
    SameDelivery (client.deliver datagram) (other.deliver twin) := by
  have fields := same
  obtain ⟨exit, observer, session⟩ := client
  obtain ⟨exit', observer', session'⟩ := other
  simp only [withoutWaiting, mk.injEq] at fields
  obtain ⟨rfl, rfl, sessions⟩ := fields
  cases session with
  | none =>
    cases session' with
    | none => exact ⟨rfl, rfl⟩
    | some session' => cases sessions
  | some session =>
    cases session' with
    | none => cases sessions
    | some session' =>
      obtain ⟨size, reads, completes, pending, waiting⟩ := session
      obtain ⟨size', reads', completes', pending', waiting'⟩ := session'
      simp only [Option.map_some, Option.some.injEq, UdpSession.mk.injEq, and_true] at sessions
      obtain ⟨rfl, rfl, rfl, rfl⟩ := sessions
      simp only [deliver]
      by_cases idle : pending = 0
      · rw [if_pos idle, if_pos idle]
        exact ⟨rfl, rfl⟩
      · rw [if_neg idle, if_neg idle]
        let completed : UdpSession := ⟨size, reads, completes, pending - 1, waiting⟩
        have clients : (⟨exit, observer, some completed⟩ : RtpClient).withoutWaiting =
            withoutWaiting ⟨exit, observer, some { completed with waiting := waiting' }⟩ := rfl
        rcases @onRead_same _ _ clients completed waiting' _ _ (renumbered.take size) none with
          ⟨handled, handled', runs, runs', delivery⟩ | ⟨throws, throws'⟩
        · simp only [completed] at runs runs'
          simp only [runs, runs']
          exact delivery
        · simp only [completed] at throws throws'
          simp only [throws, throws']
          exact ⟨same, rfl⟩

end RtpClient

end RtpPlayer
