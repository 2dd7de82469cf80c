import Mathlib.Data.Finset.Card
import RtpPlayer.Depacketizers.RtpDepacketizer

/-! # Which packet a byte is of

A depacketizer run beside a trace that numbers the packets: every byte in the buffers is stamped
with the packet whose payload brought it, and the packets that `m_packets` stands for are listed.
The trace never influences the depacketizer. -/

namespace RtpPlayer

open Foundations
open RtpDepacketizer

/-- A byte and the packet it comes from, `none` for a start code that no payload brings. -/
structure StampedByte where
  byte : UInt8
  packet : Option Nat
  deriving DecidableEq

namespace StampedByte

def stamp (packet : Option Nat) (bytes : List UInt8) : List StampedByte :=
  bytes.map fun byte => ⟨byte, packet⟩

def bytesOf (stamped : List StampedByte) : List UInt8 := stamped.map byte

/-- The packets that have brought a byte. -/
def bringers (stamped : List StampedByte) : Finset Nat := (stamped.filterMap packet).toFinset

@[simp] theorem bytesOf_nil : bytesOf [] = [] := rfl

@[simp] theorem bytesOf_append (first second : List StampedByte) :
    bytesOf (first ++ second) = bytesOf first ++ bytesOf second := List.map_append

@[simp] theorem bytesOf_take (count : Nat) (stamped : List StampedByte) :
    bytesOf (stamped.take count) = (bytesOf stamped).take count := List.map_take

@[simp] theorem bytesOf_stamp (packet : Option Nat) (bytes : List UInt8) :
    bytesOf (stamp packet bytes) = bytes := by
  simp [bytesOf, stamp, Function.comp_def]

theorem bringers_append (first second : List StampedByte) :
    bringers (first ++ second) = bringers first ∪ bringers second := by
  simp [bringers]

theorem bringers_stamp (packet : Nat) {bytes : List UInt8} (nonempty : bytes ≠ []) :
    bringers (stamp (some packet) bytes) = {packet} := by
  have all : (stamp (some packet) bytes).filterMap StampedByte.packet =
      List.replicate bytes.length packet := by
    simp [stamp, List.map_const']
  rw [bringers, all]
  exact List.toFinset_replicate_of_ne_zero (by simpa using nonempty)

end StampedByte

open StampedByte (bytesOf bringers)

/-- The bytes in `m_nalu`, which a VP8 depacketizer does not have, those in `m_frame` and those of
the frames closed so far, the last first. -/
structure PacketTrace where
  /-- The number of `parse` calls before, which is the number of the present packet. -/
  number : Nat
  /-- The packets that have been counted since `m_packets` was last 0. -/
  counted : Finset Nat
  nalu : List StampedByte
  frame : List StampedByte
  closed : List (List StampedByte)

namespace PacketTrace

def begin : PacketTrace := ⟨0, ∅, [], [], []⟩

def count (trace : PacketTrace) : PacketTrace :=
  { trace with counted := insert trace.number trace.counted }

/-- The buffers are emptied. -/
def clear (trace : PacketTrace) : PacketTrace := { trace with nalu := [], frame := [] }

/-- The buffers are emptied and the count begins again. -/
def reset (trace : PacketTrace) : PacketTrace := { trace.clear with counted := ∅ }

/-- A frame of the bytes `stored` is closed. -/
def close (trace : PacketTrace) (stored : List StampedByte) : PacketTrace :=
  { trace.reset with closed := stored :: trace.closed }

end PacketTrace

/-! ## Depacketizers under a trace -/

/-- What the buffers of a depacketizer hold, what it has counted and what its `parse` does to the
trace. -/
class PacketTraced (δ : Type) where
  nalu : δ → List UInt8
  frame : δ → List UInt8
  packets : δ → Nat
  follow : δ → ParseCall → PacketTrace → PacketTrace

open PacketTraced (follow)

/-- The trace has the bytes in the buffers and as many packets as the depacketizer has counted. -/
structure PacketTrace.Describes {δ : Type} [PacketTraced δ] (trace : PacketTrace)
    (depacketizer : δ) : Prop where
  nalu : bytesOf trace.nalu = PacketTraced.nalu depacketizer
  frame : bytesOf trace.frame = PacketTraced.frame depacketizer
  packets : trace.counted.card = PacketTraced.packets depacketizer

/-- Between two calls all packets that have been counted come before the next. -/
structure PacketTrace.Follows {δ : Type} [PacketTraced δ] (trace : PacketTrace)
    (depacketizer : δ) : Prop extends trace.Describes depacketizer where
  before : ∀ packet ∈ trace.counted, packet < trace.number

theorem PacketTrace.follows_begin {δ : Type} [PacketTraced δ] {depacketizer : δ}
    (nalu : PacketTraced.nalu depacketizer = []) (frame : PacketTraced.frame depacketizer = [])
    (packets : PacketTraced.packets depacketizer = 0) : begin.Follows depacketizer :=
  ⟨⟨nalu.symm, frame.symm, packets.symm⟩, fun packet member => by simp [begin] at member⟩

/-- The trace goes with the depacketizer. -/
class LawfulPacketTraced (δ : Type) [RtpDepacketizer δ] [PacketTraced δ] : Prop where
  parsed {trace : PacketTrace} {depacketizer : δ} (call : ParseCall) :
    trace.Follows depacketizer →
      (follow depacketizer call trace).Describes (answer depacketizer call).depacketizer
  counted {trace : PacketTrace} {depacketizer : δ} (call : ParseCall) :
    trace.Follows depacketizer →
      (follow depacketizer call trace).counted ⊆ insert trace.number trace.counted
  synced (depacketizer : δ) : PacketTraced.nalu (setSyncPoint depacketizer) = [] ∧
    PacketTraced.frame (setSyncPoint depacketizer) = [] ∧
    PacketTraced.packets (setSyncPoint depacketizer) = PacketTraced.packets depacketizer
  delivered {trace : PacketTrace} {depacketizer : δ} {call : ParseCall} {frame : MediaFrame}
    {bytes : List UInt8} : trace.Follows depacketizer →
      delivery (answer depacketizer call) = some (frame, bytes) →
      ∃ stored, (follow depacketizer call trace).closed.head? = some stored ∧
        bytesOf stored = bytes

/-- The present packet has been counted. -/
theorem PacketTrace.Follows.count_card {δ : Type} [PacketTraced δ] {trace : PacketTrace}
    {depacketizer : δ} (follows : trace.Follows depacketizer) :
    trace.count.counted.card = PacketTraced.packets depacketizer + 1 := by
  have fresh : trace.number ∉ trace.counted := fun member =>
    Nat.lt_irrefl _ (follows.before _ member)
  rw [count, Finset.card_insert_of_notMem fresh, follows.packets]

namespace RtpDepacketizer

variable {δ : Type} [RtpDepacketizer δ] [PacketTraced δ]

/-- What a call does to the trace. -/
def followCall : DepacketizerCall → δ → PacketTrace → PacketTrace
  | .parse call, depacketizer, trace =>
    { follow depacketizer call trace with number := trace.number + 1 }
  | .setSyncPoint, _, trace => trace.clear

/-- The depacketizer and its trace after some calls. -/
def traced (depacketizer : δ) (calls : List DepacketizerCall) : δ × PacketTrace :=
  ((machine δ).observed followCall).run (depacketizer, .begin) calls

theorem traced_fst (depacketizer : δ) (calls : List DepacketizerCall) :
    (traced depacketizer calls).1 = (machine δ).run depacketizer calls :=
  (machine δ).run_observed_fst followCall (depacketizer, .begin) calls

theorem traced_parse (depacketizer : δ) (calls : List DepacketizerCall) (call : ParseCall) :
    traced depacketizer (calls ++ [.parse call]) =
      ((answer (traced depacketizer calls).1 call).depacketizer,
        followCall (.parse call) (traced depacketizer calls).1 (traced depacketizer calls).2) := by
  rw [traced, Machine.run_append]
  rfl

/-- Every frame the calls deliver counts the packets with a byte in it. -/
def PacketsAreExact (depacketizer : δ) (calls : List DepacketizerCall) : Prop :=
  ∀ past call after, calls = past ++ .parse call :: after → ∀ frame bytes,
    delivery (answer ((machine δ).run depacketizer past) call) = some (frame, bytes) →
      ∃ stored, (traced depacketizer (past ++ [.parse call])).2.closed.head? = some stored ∧
        bytesOf stored = bytes ∧ frame.packets = (bringers stored).card

/-- The frame that a call hands out counts the packets with a byte in what it has closed last. -/
def CountIsExact (state : ParseResult δ × PacketTrace) : Prop :=
  state.1.status = .frame → ∀ frame ∈ state.1.frame, ∀ stored ∈ state.2.closed.head?,
    frame.packets = (bringers stored).card

section Runs

variable [LawfulPacketTraced δ]

theorem follows_followCall (call : DepacketizerCall) {depacketizer : δ} {trace : PacketTrace}
    (follows : trace.Follows depacketizer) :
    (followCall call depacketizer trace).Follows
      ((machine δ).step depacketizer call).1 := by
  cases call with
  | parse call =>
    have parsed := LawfulPacketTraced.parsed call follows
    refine ⟨⟨parsed.nalu, parsed.frame, parsed.packets⟩, fun packet member => ?_⟩
    rcases Finset.mem_insert.mp (LawfulPacketTraced.counted call follows member) with
      present | earlier
    · exact Nat.lt_succ_of_le (Nat.le_of_eq present)
    · exact Nat.lt_succ_of_lt (follows.before packet earlier)
  | setSyncPoint =>
    obtain ⟨nalu, frame, packets⟩ := LawfulPacketTraced.synced depacketizer
    exact ⟨⟨nalu.symm, frame.symm, follows.packets.trans packets.symm⟩, follows.before⟩

variable {invariant : δ → PacketTrace → Prop}

/-- The trace goes with the depacketizer in every run, and so does what every call keeps then. -/
theorem traced_invariant
    (keeps : ∀ call depacketizer trace, trace.Follows depacketizer → invariant depacketizer trace →
      invariant ((machine δ).step depacketizer call).1 (followCall call depacketizer trace))
    {depacketizer : δ} (follows : PacketTrace.begin.Follows depacketizer)
    (begins : invariant depacketizer .begin) (calls : List DepacketizerCall) :
    (traced depacketizer calls).2.Follows (traced depacketizer calls).1 ∧
      invariant (traced depacketizer calls).1 (traced depacketizer calls).2 := by
  have both : ∀ (state : δ × PacketTrace) (call : DepacketizerCall),
      state.2.Follows state.1 ∧ invariant state.1 state.2 →
      (followCall call state.1 state.2).Follows ((machine δ).step state.1 call).1 ∧
        invariant ((machine δ).step state.1 call).1 (followCall call state.1 state.2) := by
    intro state call ⟨follows, holds⟩
    exact ⟨follows_followCall call follows, keeps call state.1 state.2 follows holds⟩
  exact @Machine.run_invariant _ _ _ ((machine δ).observed followCall)
    (fun state => state.2.Follows state.1 ∧ invariant state.1 state.2) both (depacketizer, .begin)
    ⟨follows, begins⟩ calls

/-- Where a condition on the state before a packet is exactly what makes its count exact, the
condition on all packets is exactly what makes all counts exact. -/
theorem packetsAreExact_iff {condition : δ × PacketTrace → ParseCall → Prop}
    (keeps : ∀ call depacketizer trace, trace.Follows depacketizer → invariant depacketizer trace →
      invariant ((machine δ).step depacketizer call).1 (followCall call depacketizer trace))
    (exactly : ∀ call depacketizer trace, trace.Follows depacketizer →
      invariant depacketizer trace →
      (CountIsExact (answer depacketizer call, follow depacketizer call trace) ↔
        condition (depacketizer, trace) call))
    {depacketizer : δ} (follows : PacketTrace.begin.Follows depacketizer)
    (begins : invariant depacketizer .begin) (calls : List DepacketizerCall) :
    PacketsAreExact depacketizer calls ↔
      ∀ past call after, calls = past ++ .parse call :: after →
        condition (traced depacketizer past) call := by
  refine forall_congr' fun past => forall_congr' fun call => forall₂_congr fun _ _ => ?_
  have holds := traced_invariant keeps follows begins past
  rw [← exactly call _ _ holds.1 holds.2, ← traced_fst, traced_parse]
  constructor
  · intro every status frame handed stored isHead
    obtain ⟨other, same, -, exact⟩ := every frame _ (delivery_eq_some_iff.mpr ⟨status, handed, rfl⟩)
    obtain rfl := Option.some.inj (same.symm.trans isHead)
    exact exact
  · intro exact frame bytes delivered
    obtain ⟨stored, isHead, content⟩ := LawfulPacketTraced.delivered holds.1 delivered
    obtain ⟨status, handed, -⟩ := delivery_eq_some_iff.mp delivered
    exact ⟨stored, isHead, content, exact status frame handed stored isHead⟩

end Runs

end RtpDepacketizer

end RtpPlayer
