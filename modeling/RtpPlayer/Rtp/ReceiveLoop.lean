import RtpPlayer.Rtp.RtpClient
import RtpPlayer.Rtp.RtpDatagram

/-! # The receive loop

When the chain of callbacks keeps a receive pending.  A datagram `RtpPacket::parse` accepts posts
the next receive, whether or not a packet can be made of it; one it rejects does not, and from then
on the client hears nothing more. -/

namespace RtpPlayer

open Foundations

namespace RtpClient

/-- The number of receives posted and not completed. -/
def pendingReceives (client : RtpClient) : Nat := (client.session.map UdpSession.pending).getD 0

/-- The client has an observer and an accepted session, and `m_exit` is false. -/
structure Listening (client : RtpClient) : Prop where
  running : client.exit = false
  observed : client.observer = true
  accepted : ∃ waiting, client.session = some ⟨64 * 1024, true, false, 1, waiting⟩

/-- The datagram as `Session::on_read` passes it on. -/
def received (datagram : List UInt8) : Memory UInt8 := Memory.ofList datagram fun _ => 0

def WellFormedDatagram (datagram : List UInt8) : Prop :=
  RtpGrammar.WellFormed (received datagram) datagram.length

instance (datagram : List UInt8) : Decidable (WellFormedDatagram datagram) :=
  inferInstanceAs (Decidable (RtpGrammar.WellFormed _ _))

/-- What the observer should get of a datagram: its packet, if it is an RTP datagram with 1 to 64512
bytes of payload. -/
def expectedPacket (datagram : List UInt8) : Option RtpPacket :=
  if WellFormedDatagram datagram then
    RtpGrammar.packetOf (received datagram) (UInt16.ofNat datagram.length)
  else none

/-- One receive is pending after each completion, and the observer gets the packet of each datagram
that has one, once and in order. -/
structure ReceiveLoopAlive (client : RtpClient) (datagrams : List (List UInt8)) : Prop where
  pending : ∀ completed ≤ datagrams.length,
    pendingReceives (machine.run client (datagrams.take completed)) = 1
  handed : machine.outputs client datagrams = datagrams.map expectedPacket

theorem listening_accepted : Listening (onNetworkAccept built UdpSession.create) :=
  ⟨rfl, rfl, [], rfl⟩

/-! ## One completion -/

def maxUdpPayload : Nat := 65507

theorem datagram_length_toNat {datagram : List UInt8} (bounded : datagram.length ≤ maxUdpPayload) :
    (UInt16.ofNat datagram.length).toNat = datagram.length :=
  UInt16.toNat_ofNat_of_lt' (Nat.lt_of_le_of_lt bounded (by decide))

theorem parse_wellFormed {datagram : List UInt8} (bounded : datagram.length ≤ maxUdpPayload)
    (formed : WellFormedDatagram datagram) (hdr : RtpHeader) :
    (RtpPacket.parse (UInt16.ofNat datagram.length) hdr).value (received datagram) =
      RtpGrammar.accepted (received datagram) (UInt16.ofNat datagram.length) := by
  rw [RtpGrammar.value_parse, datagram_length_toNat bounded]
  exact if_pos formed

theorem parse_malformed {datagram : List UInt8} (bounded : datagram.length ≤ maxUdpPayload)
    (malformed : ¬ WellFormedDatagram datagram) (hdr : RtpHeader) :
    ((RtpPacket.parse (UInt16.ofNat datagram.length) hdr).value (received datagram)).ret =
      false := by
  rw [← Bool.not_eq_true, RtpGrammar.parse_ret_iff, datagram_length_toNat bounded]
  exact malformed

section Completion

variable {client : RtpClient} (listening : Listening client) {datagram : List UInt8}
  (bounded : datagram.length ≤ maxUdpPayload)

include listening bounded

/-- A completion takes the receive away and runs `on_network_read` unless it brought nothing. -/
theorem deliver_eq :
    ∃ waiting,
      client.session = some ⟨64 * 1024, true, false, 1, waiting⟩ ∧
      deliver client datagram =
        if datagram.length > 0 then
          onNetworkRead { client with session := some ⟨64 * 1024, true, false, 0, waiting⟩ }
            (received datagram) datagram.length
        else ({ client with session := some ⟨64 * 1024, true, false, 0, waiting⟩ }, none) := by
  obtain ⟨waiting, accepted⟩ := listening.accepted
  -- no UDP datagram exceeds the buffer
  have whole : datagram.take (64 * 1024) = datagram :=
    List.take_of_length_le (Nat.le_trans bounded (by decide))
  refine ⟨waiting, accepted, ?_⟩
  simp only [deliver, accepted, onRead, whole]
  by_cases empty : datagram.length > 0 <;> simp [empty, received]

theorem deliver_wellFormed (formed : WellFormedDatagram datagram) :
    deliver client datagram = (client, expectedPacket datagram) := by
  obtain ⟨waiting, accepted, delivered⟩ := deliver_eq listening bounded
  have nonempty : datagram.length > 0 := Nat.lt_of_lt_of_le (by decide) formed.1
  rw [delivered, if_pos nonempty, onNetworkRead, if_pos listening.observed,
    parse_wellFormed bounded formed, expectedPacket, if_pos formed]
  have rearmed :
      read { client with session := some ⟨64 * 1024, true, false, 0, waiting⟩ } = client := by
    rw [read, if_neg (by simp [listening.running])]
    change { client with session := some ⟨64 * 1024, true, false, 1, waiting⟩ } = client
    rw [← accepted]
  simp only [rearmed, RtpGrammar.ofParsed_accepted]
  rfl

/-- Any other datagram leaves the client without a pending receive. -/
theorem deliver_malformed (malformed : ¬ WellFormedDatagram datagram) :
    pendingReceives (deliver client datagram).1 = 0 := by
  obtain ⟨waiting, accepted, delivered⟩ := deliver_eq listening bounded
  rw [delivered]
  split
  · simp only [onNetworkRead, listening.observed, if_true, parse_malformed bounded malformed]
    rfl
  · rfl

end Completion

/-! ## Runs -/

theorem pendingReceives_listening {client : RtpClient} (listening : Listening client) :
    pendingReceives client = 1 := by
  obtain ⟨waiting, accepted⟩ := listening.accepted
  rw [pendingReceives, accepted]
  rfl

theorem run_wellFormed {client : RtpClient} (listening : Listening client)
    {datagrams : List (List UInt8)}
    (bounded : ∀ datagram ∈ datagrams, datagram.length ≤ maxUdpPayload)
    (formed : ∀ datagram ∈ datagrams, WellFormedDatagram datagram) :
    machine.run client datagrams = client ∧
      machine.outputs client datagrams = datagrams.map expectedPacket := by
  -- a well-formed datagram leaves the client as it was, so the run stands still
  induction datagrams with
  | nil => exact ⟨rfl, rfl⟩
  | cons datagram datagrams ih =>
    have step : machine.step client datagram = (client, expectedPacket datagram) :=
      deliver_wellFormed listening (bounded _ List.mem_cons_self) (formed _ List.mem_cons_self)
    obtain ⟨final, handed⟩ := ih (fun _ member => bounded _ (List.mem_cons_of_mem _ member))
      (fun _ member => formed _ (List.mem_cons_of_mem _ member))
    simp only [Machine.run_cons, Machine.outputs_cons, List.map_cons, step, final, handed, and_self]

theorem run_firstMalformed {client : RtpClient} (listening : Listening client)
    {formed : List (List UInt8)} {malformed : List UInt8}
    (bounded : ∀ datagram ∈ formed ++ [malformed], datagram.length ≤ maxUdpPayload)
    (wellFormed : ∀ datagram ∈ formed, WellFormedDatagram datagram)
    (bad : ¬ WellFormedDatagram malformed) :
    pendingReceives (machine.run client (formed ++ [malformed])) = 0 := by
  have before := (run_wellFormed listening
    (fun _ member => bounded _ (List.mem_append_left _ member)) wellFormed).1
  rw [Machine.run_append, before]
  exact deliver_malformed listening (bounded _ (by simp)) bad

theorem exists_firstMalformed {datagrams : List (List UInt8)}
    (some : ¬ ∀ datagram ∈ datagrams, WellFormedDatagram datagram) :
    ∃ formed malformed rest, datagrams = formed ++ malformed :: rest ∧
      (∀ datagram ∈ formed, WellFormedDatagram datagram) ∧ ¬ WellFormedDatagram malformed := by
  induction datagrams with
  | nil => exact absurd (fun _ member => absurd member List.not_mem_nil) some
  | cons datagram datagrams ih =>
    by_cases head : WellFormedDatagram datagram
    · obtain ⟨formed, malformed, rest, split, wellFormed, bad⟩ := ih fun tail =>
        some (List.forall_mem_cons.mpr ⟨head, tail⟩)
      exact ⟨datagram :: formed, malformed, rest, by rw [split]; rfl,
        List.forall_mem_cons.mpr ⟨head, wellFormed⟩, bad⟩
    · exact ⟨[], datagram, datagrams, rfl, fun _ member => absurd member List.not_mem_nil, head⟩

/-- The receive loop lives through exactly the sequences of RTP datagrams. -/
theorem receiveLoopAlive_iff (client : RtpClient) (listening : Listening client)
    (datagrams : List (List UInt8))
    (bounded : ∀ datagram ∈ datagrams, datagram.length ≤ maxUdpPayload) :
    ReceiveLoopAlive client datagrams ↔ ∀ datagram ∈ datagrams, WellFormedDatagram datagram := by
  constructor
  · intro alive
    by_contra bad
    obtain ⟨formed, malformed, rest, rfl, wellFormed, malformed_bad⟩ := exists_firstMalformed bad
    have pending := alive.pending (formed.length + 1) (by simp)
    have upTo : (formed ++ malformed :: rest).take (formed.length + 1) = formed ++ [malformed] := by
      rw [List.take_append, List.take_of_length_le (by omega), Nat.add_sub_cancel_left]
      rfl
    have boundedUpTo : ∀ datagram ∈ formed ++ [malformed], datagram.length ≤ maxUdpPayload :=
      fun _ member => bounded _ (List.mem_of_mem_take (upTo ▸ member))
    rw [upTo, run_firstMalformed listening boundedUpTo wellFormed malformed_bad] at pending
    cases pending
  · intro formed
    refine ⟨fun completed _ => ?_, (run_wellFormed listening bounded formed).2⟩
    rw [(run_wellFormed listening (fun _ member => bounded _ (List.mem_of_mem_take member))
      (fun _ member => formed _ (List.mem_of_mem_take member))).1]
    exact pendingReceives_listening listening

theorem receiveLoopAlive_wellFormed :
    let client := onNetworkAccept built UdpSession.create
    let datagram : List UInt8 := [0x80, 96, 0, 1, 0, 0, 0, 0, 0, 0, 0, 0, 7]
    ReceiveLoopAlive client [datagram, datagram] ↔
      ∀ bytes ∈ [datagram, datagram], WellFormedDatagram bytes :=
  receiveLoopAlive_iff _ listening_accepted _ (by decide)

/-- An empty datagram before an RTP datagram: the second completes no receive. -/
theorem receiveLoopAlive_empty :
    let client := onNetworkAccept built UdpSession.create
    let datagrams : List (List UInt8) := [[], [0x80, 96, 0, 1, 0, 0, 0, 0, 0, 0, 0, 0, 7]]
    (∀ datagram ∈ datagrams, datagram.length ≤ maxUdpPayload) ∧
      (∃ packet, datagrams.map expectedPacket = [none, some packet]) ∧
      machine.outputs client datagrams = [none, none] ∧ ¬ ReceiveLoopAlive client datagrams := by
  refine ⟨by decide, ⟨_, rfl⟩, by decide +kernel, fun alive => ?_⟩
  have pending := alive.pending 1 (by decide)
  revert pending
  decide +kernel

end RtpClient

end RtpPlayer
