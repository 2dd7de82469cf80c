import RtpPlayer.Depacketizers.RtpDepacketizer

/-! # Which access unit a byte is of

Packets up to one with its marker make up an access unit.  A depacketizer run beside a trace that
numbers these units: it says of every byte in the buffers which unit brought it, and of every unit
whether `MAX_ES_FRAME_SIZE` has cost it any bytes.  The trace never influences the depacketizer. -/

namespace RtpPlayer

open Foundations
open RtpDepacketizer

def MediaFrame.Incomplete (frame : MediaFrame) : Prop := frame.flags &&& frameIsIncomplete ≠ 0

instance (frame : MediaFrame) : Decidable frame.Incomplete := inferInstanceAs (Decidable (_ ≠ _))

/-- The units of the bytes in `m_nalu`, which a VP8 depacketizer does not have, of those in
`m_frame` and of those in the frames closed so far, the last first. -/
structure UnitTrace where
  /-- The number of packets with their marker before, which is the number of the unit. -/
  unit : Nat
  nalu : List Nat
  frame : List Nat
  /-- The units that have lost bytes to the size limit. -/
  lost : List Nat
  closed : List (MediaFrame × List Nat)
  deriving DecidableEq

namespace UnitTrace

def begin : UnitTrace := ⟨0, [], [], [], []⟩

def held (trace : UnitTrace) : List Nat := trace.nalu ++ trace.frame

/-- Some bytes of the present unit. -/
def bytesOfUnit (trace : UnitTrace) (count : Nat) : List Nat := List.replicate count trace.unit

/-- The buffers are emptied, for another reason than the size limit. -/
def clear (trace : UnitTrace) : UnitTrace := { trace with nalu := [], frame := [] }

/-- The packet is too large: it is lost with everything in the buffers. -/
def exceed (trace : UnitTrace) : UnitTrace :=
  { trace with nalu := [], frame := [], lost := trace.unit :: (trace.held ++ trace.lost) }

/-- A frame of the bytes `stored` is closed, and the bytes `cut` did not fit. -/
def close (trace : UnitTrace) (frame : MediaFrame) (stored cut : List Nat) : UnitTrace where
  unit := trace.unit
  nalu := []
  frame := []
  lost := cut ++ trace.lost
  closed := (frame, stored) :: trace.closed

/-- A packet has been parsed. -/
def endPacket (trace : UnitTrace) (marker : Bool) : UnitTrace :=
  { trace with unit := if marker then trace.unit + 1 else trace.unit }

theorem mem_bytesOfUnit {trace : UnitTrace} {count unit : Nat}
    (member : unit ∈ trace.bytesOfUnit count) : unit = trace.unit :=
  List.eq_of_mem_replicate member

/-! ## Losses that are settled -/

/-- A unit that has lost bytes and one with bytes in a frame delivered as complete come before
`next`, have no more bytes in the buffers, and are never the same. -/
structure Settled (next : Nat) (trace : UnitTrace) : Prop where
  held : ∀ unit ∈ trace.held, unit ≤ trace.unit
  lost : ∀ unit ∈ trace.lost, unit < next ∧ unit ∉ trace.held
  closed : ∀ frame ∈ trace.closed, ¬ frame.1.Incomplete → ∀ unit ∈ frame.2,
    unit < next ∧ unit ∉ trace.held ∧ unit ∉ trace.lost

theorem settled_begin : begin.Settled begin.unit := ⟨nofun, nofun, nofun⟩

variable {trace : UnitTrace} {next : Nat}

/-- A frame that is not marked as incomplete has lost nothing. -/
theorem Settled.incomplete_of_lost (settled : trace.Settled next) {frame : MediaFrame × List Nat}
    (closed : frame ∈ trace.closed) {unit : Nat} (within : unit ∈ frame.2)
    (lost : unit ∈ trace.lost) : frame.1.Incomplete := by
  by_contra complete
  exact (settled.closed frame closed complete unit within).2.2 lost

/-- Bytes of the present unit may come in, as long as it has lost none, and any may go. -/
theorem Settled.hold (settled : trace.Settled trace.unit) (nalu frame : List Nat)
    (within : ∀ unit ∈ nalu ++ frame, unit ∈ trace.held ∨ unit = trace.unit) :
    { trace with nalu := nalu, frame := frame }.Settled trace.unit := by
  -- a unit before the present one is held only where it was held before
  have earlier : ∀ unit < trace.unit, unit ∉ trace.held → unit ∉ nalu ++ frame := by
    intro unit before absent member
    rcases within unit member with held | present
    · exact absent held
    · omega
  constructor
  · intro unit member
    rcases within unit member with held | present
    · exact settled.held unit held
    · exact Nat.le_of_eq present
  · intro unit member
    obtain ⟨before, absent⟩ := settled.lost unit member
    exact ⟨before, earlier unit before absent⟩
  · intro closed member complete unit within
    obtain ⟨before, absent, kept⟩ := settled.closed closed member complete unit within
    exact ⟨before, earlier unit before absent, kept⟩

theorem Settled.dropNalu (settled : trace.Settled trace.unit) :
    { trace with nalu := [] }.Settled trace.unit :=
  settled.hold [] trace.frame fun _ member => .inl (List.mem_append_right _ member)

theorem Settled.clear (settled : trace.Settled trace.unit) : trace.clear.Settled trace.unit :=
  settled.hold [] [] nofun

theorem Settled.succ (settled : trace.Settled next) : trace.Settled (next + 1) := by
  refine ⟨settled.held, ?_, ?_⟩
  · intro unit member
    exact ⟨Nat.lt_succ_of_lt (settled.lost unit member).1, (settled.lost unit member).2⟩
  · intro frame member complete unit within
    obtain ⟨before, rest⟩ := settled.closed frame member complete unit within
    exact ⟨Nat.lt_succ_of_lt before, rest⟩

/-- What is settled stays so whether or not the unit ends. -/
theorem Settled.goesOn (settled : trace.Settled trace.unit) (marker : Bool) :
    trace.Settled (if marker then trace.unit + 1 else trace.unit) := by
  split
  next => exact settled.succ
  next => exact settled

/-- Whatever the size limit costs at the end of a unit, no unit to come has lost it. -/
theorem Settled.exceed (settled : trace.Settled trace.unit) :
    trace.exceed.Settled (trace.unit + 1) := by
  refine ⟨nofun, ?_, ?_⟩
  · intro unit member
    refine ⟨?_, List.not_mem_nil⟩
    rcases List.mem_cons.mp member with present | earlier
    · omega
    rcases List.mem_append.mp earlier with held | lost
    · have := settled.held unit held
      omega
    · have := (settled.lost unit lost).1
      omega
  · intro frame member complete unit within
    obtain ⟨before, absent, kept⟩ := settled.closed frame member complete unit within
    refine ⟨Nat.lt_succ_of_lt before, List.not_mem_nil, fun lost => ?_⟩
    rcases List.mem_cons.mp lost with present | earlier
    · omega
    · exact (List.mem_append.mp earlier).elim absent kept

theorem Settled.close (settled : trace.Settled trace.unit) {frame : MediaFrame}
    {stored cut : List Nat}
    (held : ∀ unit ∈ stored ++ cut, unit ∈ trace.held ∨ unit = trace.unit)
    (complete : ¬ frame.Incomplete → cut = []) :
    (trace.close frame stored cut).Settled (trace.unit + 1) := by
  -- what is held or comes now has lost nothing so far
  have bound : ∀ unit ∈ stored ++ cut, unit < trace.unit + 1 ∧ unit ∉ trace.lost := by
    intro unit member
    rcases held unit member with earlier | present
    · exact ⟨Nat.lt_succ_of_le (settled.held unit earlier),
        fun lost => (settled.lost unit lost).2 earlier⟩
    · refine ⟨by omega, fun lost => ?_⟩
      have := (settled.lost unit lost).1
      omega
  refine ⟨nofun, ?_, ?_⟩
  · intro unit member
    refine ⟨?_, List.not_mem_nil⟩
    rcases List.mem_append.mp member with now | before
    · exact (bound unit (List.mem_append_right _ now)).1
    · exact Nat.lt_succ_of_lt (settled.lost unit before).1
  · intro other member whole unit within
    rcases List.mem_cons.mp member with rfl | earlier
    · -- a complete frame: nothing of it has been cut off
      obtain ⟨before, kept⟩ := bound unit (List.mem_append_left _ within)
      refine ⟨before, List.not_mem_nil, ?_⟩
      rw [UnitTrace.close, complete whole]
      exact kept
    · obtain ⟨before, absent, kept⟩ := settled.closed other earlier whole unit within
      refine ⟨Nat.lt_succ_of_lt before, List.not_mem_nil, fun lost => ?_⟩
      rcases List.mem_append.mp lost with now | already
      · rcases held unit (List.mem_append_right _ now) with held | present
        · exact absent held
        · omega
      · exact kept already

/-- A frame that says so may be cut while the unit goes on, as long as the unit loses nothing. -/
theorem Settled.closeIncomplete (settled : trace.Settled trace.unit) {frame : MediaFrame}
    {stored cut : List Nat} (incomplete : frame.Incomplete)
    (earlier : ∀ unit ∈ cut, unit ∈ trace.held ∧ unit ≠ trace.unit) :
    (trace.close frame stored cut).Settled trace.unit := by
  refine ⟨nofun, ?_, ?_⟩
  · intro unit member
    refine ⟨?_, List.not_mem_nil⟩
    rcases List.mem_append.mp member with now | before
    · obtain ⟨held, other⟩ := earlier unit now
      exact Nat.lt_of_le_of_ne (settled.held unit held) other
    · exact (settled.lost unit before).1
  · intro other member whole unit within
    rcases List.mem_cons.mp member with rfl | closed
    · exact absurd incomplete whole
    · obtain ⟨before, absent, kept⟩ := settled.closed other closed whole unit within
      refine ⟨before, List.not_mem_nil, fun lost => ?_⟩
      exact (List.mem_append.mp lost).elim (fun now => absent (earlier unit now).1) kept

/-- The next unit begins behind a marker. -/
theorem Settled.endPacket {marker : Bool}
    (settled : trace.Settled (if marker then trace.unit + 1 else trace.unit)) :
    (trace.endPacket marker).Settled (trace.endPacket marker).unit := by
  refine ⟨?_, settled.lost, settled.closed⟩
  intro unit member
  have before := settled.held unit member
  rw [UnitTrace.endPacket]
  dsimp only
  split <;> omega

end UnitTrace

/-! ## Depacketizers under a trace -/

/-- How long the buffers of a depacketizer are and what its `parse` does to the trace. -/
class UnitTraced (δ : Type) where
  naluLen : δ → Nat
  frameLen : δ → Nat
  follow : δ → ParseCall → UnitTrace → UnitTrace

open UnitTraced (follow)

/-- The trace has a unit for every byte in the buffers. -/
structure UnitTrace.Describes {δ : Type} [UnitTraced δ] (trace : UnitTrace) (depacketizer : δ) :
    Prop where
  nalu : trace.nalu.length = UnitTraced.naluLen depacketizer
  frame : trace.frame.length = UnitTraced.frameLen depacketizer

/-- The trace goes with the depacketizer. -/
class LawfulUnitTraced (δ : Type) [RtpDepacketizer δ] [UnitTraced δ] : Prop where
  parsed {trace : UnitTrace} {depacketizer : δ} (call : ParseCall) :
    trace.Describes depacketizer →
      (follow depacketizer call trace).Describes (answer depacketizer call).depacketizer
  synced (depacketizer : δ) : UnitTraced.naluLen (setSyncPoint depacketizer) = 0 ∧
    UnitTraced.frameLen (setSyncPoint depacketizer) = 0
  grows {trace : UnitTrace} {depacketizer : δ} (call : ParseCall) :
    trace.Describes depacketizer → trace.closed <:+ (follow depacketizer call trace).closed
  delivered {trace : UnitTrace} {depacketizer : δ} {call : ParseCall} {frame : MediaFrame}
    {bytes : List UInt8} : trace.Describes depacketizer →
      delivery (answer depacketizer call) = some (frame, bytes) →
      ∃ units, (follow depacketizer call trace).closed.head? = some (frame, units) ∧
        units.length = bytes.length

structure UnitHistory (δ : Type) where
  depacketizer : δ
  trace : UnitTrace

namespace UnitHistory

variable {δ : Type} [RtpDepacketizer δ] [UnitTraced δ]

def next (history : UnitHistory δ) : DepacketizerCall → UnitHistory δ
  | .parse call =>
    ⟨(answer history.depacketizer call).depacketizer,
      (follow history.depacketizer call history.trace).endPacket call.marker⟩
  | .setSyncPoint => ⟨setSyncPoint history.depacketizer, history.trace.clear⟩

def machine : Machine (UnitHistory δ) DepacketizerCall (Option (ParseResult δ)) where
  step history call :=
    (history.next call, ((RtpDepacketizer.machine δ).step history.depacketizer call).2)

def begin (depacketizer : δ) : UnitHistory δ := ⟨depacketizer, .begin⟩

@[simp] theorem machine_step_fst (history : UnitHistory δ) (call : DepacketizerCall) :
    (machine.step history call).1 = history.next call := rfl

theorem projects : machine.Projects (RtpDepacketizer.machine δ) depacketizer := by
  intro history call
  cases call with
  | parse call => rfl
  | setSyncPoint => rfl

/-- The trace does not get in the way. -/
theorem run_begin (depacketizer : δ) (calls : List DepacketizerCall) :
    (machine.run (begin depacketizer) calls).depacketizer =
      (RtpDepacketizer.machine δ).run depacketizer calls :=
  projects.run _ _

end UnitHistory

namespace RtpDepacketizer

variable {δ : Type} [RtpDepacketizer δ] [UnitTraced δ]

/-- The trace of some calls. -/
def unitTrace (depacketizer : δ) (calls : List DepacketizerCall) : UnitTrace :=
  (UnitHistory.machine.run (.begin depacketizer) calls).trace

/-- Every frame the calls deliver with a byte of a unit of which they lose any to the size limit,
before or after, is marked as incomplete. -/
def TruncationIsReported (depacketizer : δ) (calls : List DepacketizerCall) : Prop :=
  ∀ past call after, calls = past ++ .parse call :: after → ∀ frame bytes,
    delivery (answer ((machine δ).run depacketizer past) call) = some (frame, bytes) →
      ∃ units, (unitTrace depacketizer (past ++ [.parse call])).closed.head? = some (frame, units) ∧
        units.length = bytes.length ∧
        ∀ unit ∈ units, unit ∈ (unitTrace depacketizer calls).lost → frame.Incomplete

/-- The last packet delivers a frame with a byte of a unit that has lost some, and does not say
so. -/
theorem not_truncationIsReported {depacketizer : δ} {past : List DepacketizerCall}
    {history : UnitHistory δ}
    (state : UnitHistory.machine.run (.begin depacketizer) past = history) {call : ParseCall}
    {frame : MediaFrame} {bytes : List UInt8}
    (delivered : delivery (answer history.depacketizer call) = some (frame, bytes))
    {units : List Nat}
    (closed : (history.next (.parse call)).trace.closed.head? = some (frame, units)) {unit : Nat}
    (within : unit ∈ units) (lost : unit ∈ (history.next (.parse call)).trace.lost)
    (complete : ¬ frame.Incomplete) :
    ¬ TruncationIsReported depacketizer (past ++ [.parse call]) := by
  intro reported
  have ends : unitTrace depacketizer (past ++ [.parse call]) =
      (history.next (.parse call)).trace := by
    rw [unitTrace, Machine.run_append, state]
    rfl
  rw [← state, UnitHistory.run_begin] at delivered
  obtain ⟨others, same, -, incomplete⟩ := reported past call [] rfl frame bytes delivered
  rw [ends] at same incomplete
  obtain ⟨-, rfl⟩ := Prod.mk.inj (Option.some.inj (closed.symm.trans same))
  exact complete (incomplete unit within lost)

end RtpDepacketizer

namespace UnitHistory

variable {δ : Type} [RtpDepacketizer δ] [UnitTraced δ] [LawfulUnitTraced δ]
  {history : UnitHistory δ}

/-- The trace has a unit for every byte in the buffers. -/
def Describes (history : UnitHistory δ) : Prop := history.trace.Describes history.depacketizer

theorem Describes.next (describes : history.Describes) (call : DepacketizerCall) :
    (history.next call).Describes := by
  cases call with
  | parse call =>
    have parsed := LawfulUnitTraced.parsed call describes
    exact ⟨parsed.nalu, parsed.frame⟩
  | setSyncPoint =>
    obtain ⟨nalu, frame⟩ := LawfulUnitTraced.synced history.depacketizer
    exact ⟨nalu.symm, frame.symm⟩

theorem Describes.run (describes : history.Describes) (calls : List DepacketizerCall) :
    (machine.run history calls).Describes :=
  machine.run_invariant (fun _ call holds => holds.next call) describes calls

theorem Describes.closed_next (describes : history.Describes) (call : DepacketizerCall) :
    history.trace.closed <:+ (history.next call).trace.closed := by
  cases call with
  | parse call => exact LawfulUnitTraced.grows call describes
  | setSyncPoint => exact List.suffix_rfl

/-- What has been closed stays closed. -/
theorem Describes.closed_run (describes : history.Describes) (calls : List DepacketizerCall) :
    history.trace.closed <:+ (machine.run history calls).trace.closed := by
  have keeps : ∀ (later : UnitHistory δ) call,
      later.Describes ∧ history.trace.closed <:+ later.trace.closed →
      (machine.step later call).1.Describes ∧
        history.trace.closed <:+ (machine.step later call).1.trace.closed := by
    rintro later call ⟨kept, grown⟩
    exact ⟨kept.next call, grown.trans (kept.closed_next call)⟩
  exact (machine.run_invariant keeps ⟨describes, List.suffix_rfl⟩ calls).2

/-- The losses are settled and the trace has a unit for every byte. -/
structure Settled (history : UnitHistory δ) : Prop where
  describes : history.Describes
  settled : history.trace.Settled history.trace.unit

/-- Every frame delivered in a run whose losses are settled in the end is as complete as it says. -/
theorem Settled.truncationIsReported {depacketizer : δ} {calls : List DepacketizerCall}
    (begins : (begin depacketizer).Describes)
    (settled : (machine.run (begin depacketizer) calls).Settled) :
    TruncationIsReported depacketizer calls := by
  rintro past call after rfl frame bytes delivered
  rw [← run_begin] at delivered
  obtain ⟨units, closed, length⟩ := LawfulUnitTraced.delivered (begins.run past) delivered
  have last : (unitTrace depacketizer (past ++ [.parse call])).closed.head? =
      some (frame, units) := by
    rw [unitTrace, Machine.run_append]
    exact closed
  refine ⟨units, last, length, fun unit within lost => ?_⟩
  -- what is closed here is still there in the end
  have grown := (begins.run (past ++ [.parse call])).closed_run after
  rw [← Machine.run_append, List.append_assoc] at grown
  exact settled.settled.incomplete_of_lost (grown.subset (List.mem_of_head? last)) within lost

/-- Where a condition on every packet keeps the losses settled, truncation is reported in every run
of such packets. -/
theorem truncationIsReported_of_guarded {condition : UnitHistory δ → DepacketizerCall → Prop}
    (keeps : ∀ history : UnitHistory δ, history.Settled → ∀ call : ParseCall,
      condition history (.parse call) →
      let trace := follow history.depacketizer call history.trace
      trace.Settled (if call.marker then trace.unit + 1 else trace.unit))
    {depacketizer : δ} (nalu : UnitTraced.naluLen depacketizer = 0)
    (frame : UnitTraced.frameLen depacketizer = 0) {calls : List DepacketizerCall}
    (guarded : machine.Guarded condition (begin depacketizer) calls) :
    TruncationIsReported depacketizer calls := by
  have begins : (begin depacketizer).Settled :=
    ⟨⟨nalu.symm, frame.symm⟩, UnitTrace.settled_begin⟩
  refine Settled.truncationIsReported begins.describes ?_
  refine machine.run_invariant_of_guarded ?_ begins guarded
  intro history input settled met
  refine ⟨settled.describes.next input, ?_⟩
  cases input with
  | parse call => exact (keeps history settled call met).endPacket
  | setSyncPoint => exact settled.settled.clear

end UnitHistory

end RtpPlayer
