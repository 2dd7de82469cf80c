import RtpPlayer.Depacketizers.NaluHistory

/-! # Orphan FU-A fragments

A fragment with S = 0 is appended to `m_nalu` without a look at what is there.  Where such
fragments come on top of an unfinished NALU only, each follows the start of its NALU, and those
whose start is lost leave no trace. -/

namespace RtpPlayer

open Foundations
open RtpDepacketizer

structure FuAFragment where
  start : Bool
  finish : Bool
  bytes : List UInt8
  deriving DecidableEq

namespace FuAFragment

open RtpDepacketizerH264 (packetType)

/-- The fragment in the packet, if it is an FU-A packet with both its header bytes. -/
def ofPayload : List UInt8 → Option FuAFragment
  | indicator :: header :: bytes =>
    if packetType indicator = 28 then
      some ⟨header &&& 0x80 > 0, header &&& 0x40 > 0, bytes⟩
    else none
  | _ => none

def Begins (call : ParseCall) : Prop :=
  ∃ fragment, ofPayload call.payload = some fragment ∧ fragment.start = true

def Continues (call : ParseCall) : Prop :=
  ∃ fragment, ofPayload call.payload = some fragment ∧ fragment.start = false

theorem Begins.not_continues {call : ParseCall} (begins : Begins call) : ¬ Continues call := by
  rintro ⟨fragment, carries, continued⟩
  obtain ⟨other, carries', started⟩ := begins
  obtain rfl := Option.some.inj (carries.symm.trans carries')
  exact Bool.false_ne_true (continued.symm.trans started)

/-- What every fragment with S = 0 in the NALU has added comes after a fragment with S = 1. -/
def Started (pieces : List FramePiece) : Prop :=
  ∀ before piece after, pieces = before ++ piece :: after → Continues piece.call →
    piece.bytes ≠ [] → ∃ start ∈ before, Begins start.call

theorem started_nil : Started [] := by
  intro before piece after split
  simp at split

theorem Started.append {pieces : List FramePiece} (started : Started pieces) {piece : FramePiece}
    (follows : Continues piece.call → piece.bytes ≠ [] → ∃ start ∈ pieces, Begins start.call) :
    Started (pieces ++ [piece]) := by
  intro before other after split continued occupied
  -- the piece in question is the appended one, or it was there before
  rcases List.eq_nil_or_concat after with rfl | ⟨between, last, rfl⟩
  · obtain ⟨rfl, same⟩ := List.append_inj' split rfl
    obtain rfl := List.head_eq_of_cons_eq same
    exact follows continued occupied
  · rw [List.concat_eq_append, ← List.cons_append, ← List.append_assoc] at split
    obtain ⟨rfl, -⟩ := List.append_inj' split rfl
    exact started before other between rfl continued occupied

/-! ## Scripts of fragments -/

theorem endsNalu_of_none {payload : List UInt8} (nonempty : payload ≠ [])
    (none : ofPayload payload = none) (marker : Bool) :
    RtpDepacketizerH264.EndsNalu (NaluOperation.ofPacket payload marker) := by
  cases payload with
  | nil => exact absurd rfl nonempty
  | cons first rest =>
    rw [NaluOperation.ofPacket]
    split_ifs with single stapA fuA
    · exact RtpDepacketizerH264.endsNalu_wholeNalu ..
    · exact RtpDepacketizerH264.endsNalu_ofStapA ..
    · cases rest with
      | nil => exact RtpDepacketizerH264.endsNalu_fail
      | cons header bytes =>
        rw [ofPayload, if_pos fuA] at none
        cases none
    · exact RtpDepacketizerH264.endsNalu_fail

/-- A fragment with S = 0 is appended as it is. -/
theorem ofPacket_of_continued {payload : List UInt8} {fragment : FuAFragment}
    (carries : ofPayload payload = some fragment) (continued : fragment.start = false)
    (marker : Bool) :
    NaluOperation.ofPacket payload marker =
      .append .payload fragment.bytes :: if fragment.finish then [.decode marker] else [] := by
  match payload, carries with
  | indicator :: header :: bytes, carries =>
    rw [ofPayload] at carries
    split at carries
    next fuA =>
      obtain rfl := Option.some.inj carries
      have notSingle : ¬ (1 ≤ packetType indicator ∧ packetType indicator ≤ 12) := by
        rw [fuA]
        decide
      have notStapA : packetType indicator ≠ 24 := by
        rw [fuA]
        decide
      have notStart : ¬ header &&& 0x80 > 0 := of_decide_eq_false continued
      rw [NaluOperation.ofPacket, if_neg notSingle, if_neg notStapA, if_pos fuA,
        NaluOperation.ofFuA, if_neg (fun both => notStart both.1), if_neg notStart]
      simp
    next => cases carries

/-- A fragment with S = 1 begins a NALU and does not end it. -/
theorem ofPacket_of_started {payload : List UInt8} {fragment : FuAFragment}
    (carries : ofPayload payload = some fragment) (started : fragment.start = true)
    (marker : Bool) :
    ∃ header, NaluOperation.ofPacket payload marker =
      if fragment.finish then [.fail] else
        [.append .startcode NaluOperation.startcode, .append .header [header],
          .append .payload fragment.bytes] := by
  match payload, carries with
  | indicator :: header :: bytes, carries =>
    rw [ofPayload] at carries
    split at carries
    next fuA =>
      obtain rfl := Option.some.inj carries
      have notSingle : ¬ (1 ≤ packetType indicator ∧ packetType indicator ≤ 12) := by
        rw [fuA]
        decide
      have notStapA : packetType indicator ≠ 24 := by
        rw [fuA]
        decide
      have start : header &&& 0x80 > 0 := of_decide_eq_true started
      refine ⟨(indicator &&& 0xe0) ||| (header &&& 0x1f), ?_⟩
      rw [NaluOperation.ofPacket, if_neg notSingle, if_neg notStapA, if_pos fuA,
        NaluOperation.ofFuA]
      by_cases finish : header &&& 0x40 > 0
      · rw [if_pos ⟨start, finish⟩, if_pos (decide_eq_true finish)]
      · rw [if_neg fun both => finish both.2, if_pos start, if_neg finish,
          if_neg (by simpa using finish)]
        rfl
    next => cases carries

end FuAFragment

open FuAFragment (Begins Continues Started)

/-- Every fragment with S = 0 comes after a start, and so will those that complete `m_nalu`. -/
structure NaluTrace.FragmentsStarted (trace : NaluTrace) (depacketizer : RtpDepacketizerH264) :
    Prop where
  every : trace.Every Started
  begun : depacketizer.naluLen ≠ 0 → ∃ start ∈ trace.pieces, Begins start.call

theorem NaluTrace.fragmentsStarted_of_finished {trace : NaluTrace}
    {depacketizer : RtpDepacketizerH264} (every : trace.Every Started)
    (finished : depacketizer.naluLen = 0) : trace.FragmentsStarted depacketizer :=
  ⟨every, fun unfinished => absurd finished unfinished⟩

namespace TracedResult

def FragmentsStarted (traced : TracedResult) : Prop :=
  traced.trace.FragmentsStarted traced.result.depacketizer

theorem FragmentsStarted.after {traced : TracedResult} (holds : traced.FragmentsStarted)
    {call : ParseCall} (operation : NaluOperation)
    (follows : ∀ part bytes, operation = .append part bytes →
      Begins call ∨ (bytes ≠ [] → traced.result.depacketizer.naluLen ≠ 0)) :
    (Script.after (traced.perform call operation)).FragmentsStarted := by
  obtain ⟨result, trace⟩ := traced
  dsimp only [FragmentsStarted] at holds follows
  rw [after_perform]
  constructor
  · refine holds.every.after FuAFragment.started_nil operation fun part bytes same => ?_
    refine holds.every.pieces.append fun continued occupied => ?_
    -- a continued fragment finds a NALU that was begun
    rcases follows part bytes same with begins | unfinished
    · exact absurd continued begins.not_continues
    · exact holds.begun (unfinished occupied)
  · dsimp only
    have step := RtpDepacketizerH264.naluStep_perform call operation result
    generalize RtpDepacketizerH264.perform call operation result = outcome at step ⊢
    intro occupied
    cases step with
    | appended part bytes fits =>
      rw [NaluTrace.after, if_pos fits]
      rcases follows part bytes rfl with begins | unfinished
      · exact ⟨_, List.mem_append_right _ (List.mem_singleton_self _), begins⟩
      · -- appending nothing to nothing leaves nothing
        have before : result.depacketizer.naluLen ≠ 0 := by
          intro nothing
          refine unfinished (fun none => occupied ?_) nothing
          rw [none]
          exact nothing
        obtain ⟨start, member, begins⟩ := holds.begun before
        exact ⟨start, List.mem_append_left _ member, begins⟩
    | nothing last empty => exact absurd empty occupied
    | overflowed | rejected | stored | closed | failed => exact absurd rfl occupied

theorem FragmentsStarted.execute_begun {traced : TracedResult} (holds : traced.FragmentsStarted)
    {call : ParseCall} (begins : Begins call) (operations : List NaluOperation) :
    (Script.execute (perform call) operations traced).FragmentsStarted := by
  have keeps : ∀ operation ∈ operations, ∀ traced : TracedResult, traced.FragmentsStarted →
      (Script.after (traced.perform call operation)).FragmentsStarted :=
    fun operation _ _ holds => holds.after operation fun _ _ _ => .inl begins
  exact Script.execute_invariant keeps holds

theorem FragmentsStarted.execute_continued {traced : TracedResult}
    (holds : traced.FragmentsStarted) {call : ParseCall} {fragment : FuAFragment}
    (carries : FuAFragment.ofPayload call.payload = some fragment)
    (continued : fragment.start = false)
    (unfinished : fragment.bytes ≠ [] → traced.result.depacketizer.naluLen ≠ 0) :
    (Script.execute (perform call) (NaluOperation.ofPacket call.payload call.marker)
      traced).FragmentsStarted := by
  rw [FuAFragment.ofPacket_of_continued carries continued]
  have appended : (Script.after (traced.perform call
      (.append .payload fragment.bytes))).FragmentsStarted := by
    refine holds.after _ fun part bytes same => ?_
    obtain ⟨-, rfl⟩ := NaluOperation.append.inj same
    exact .inr unfinished
  have keeps : ∀ operation ∈ (if fragment.finish then [NaluOperation.decode call.marker] else []),
      ∀ traced : TracedResult, traced.FragmentsStarted →
      (Script.after (traced.perform call operation)).FragmentsStarted := by
    intro operation member traced kept
    refine kept.after operation fun part bytes same => ?_
    rw [same] at member
    split at member
    next => cases List.mem_singleton.mp member
    next => cases member
  exact Script.execute_cons_invariant appended fun _ kept => Script.execute_invariant keeps kept

end TracedResult

namespace RtpDepacketizerH264

/-- A fragment with S = 0 that carries anything comes on top of an unfinished NALU. -/
def ContinuesNalu (depacketizer : RtpDepacketizerH264) : DepacketizerCall → Prop
  | .setSyncPoint => True
  | .parse call => ∀ fragment ∈ FuAFragment.ofPayload call.payload, fragment.start = false →
      fragment.bytes ≠ [] → depacketizer.naluLen ≠ 0

instance (depacketizer : RtpDepacketizerH264) : DecidablePred depacketizer.ContinuesNalu
  | .setSyncPoint => .isTrue trivial
  | .parse _ => inferInstanceAs (Decidable (∀ fragment ∈ FuAFragment.ofPayload _, _))

/-- The packet adds nothing to `m_nalu` and changes neither `m_frame` nor the sentries. -/
structure Discards (depacketizer : RtpDepacketizerH264) (call : ParseCall) : Prop where
  naluLen : (answer depacketizer call).depacketizer.naluLen = 0
  frame : (answer depacketizer call).depacketizer.frame = depacketizer.frame
  frameLen : (answer depacketizer call).depacketizer.frameLen = depacketizer.frameLen
  sentries : (answer depacketizer call).depacketizer.sentries = depacketizer.sentries

/-- Every fragment with S = 0 that is or has been in a buffer came after a start in the same NALU,
and one that comes without is discarded. -/
def OrphansAreDiscarded (depacketizer : RtpDepacketizerH264) (calls : List DepacketizerCall) :
    Prop :=
  ∀ before after, calls = before ++ after →
    let history := NaluHistory.machine.run (.begin depacketizer) before
    history.trace.Every Started ∧
      ∀ call rest, after = .parse call :: rest → Continues call →
        (∀ start ∈ history.trace.pieces, ¬ Begins start.call) →
        history.depacketizer.Discards call

theorem discards_empty {depacketizer : RtpDepacketizerH264} {call : ParseCall}
    {fragment : FuAFragment} (nothing : depacketizer.naluLen = 0)
    (carries : FuAFragment.ofPayload call.payload = some fragment)
    (continued : fragment.start = false) (empty : fragment.bytes = []) :
    depacketizer.Discards call := by
  have nonempty : call.payload ≠ [] := by
    intro none
    rw [none] at carries
    cases carries
  have appended : ((depacketizer.beginPacket call).depacketizer.append []) =
      .ok (depacketizer.beginPacket call).depacketizer := by
    rw [append_of_le (by rw [beginPacket, nothing]; decide), pushNalu, Memory.write_nil]
    rfl
  -- an empty NALU is not decoded, even where the fragment is the last
  have kept : (answer depacketizer call).depacketizer =
      (depacketizer.beginPacket call).depacketizer := by
    rw [answer_eq _ nonempty, FuAFragment.ofPacket_of_continued carries continued, empty,
      execute_append, appended]
    dsimp only
    split
    next finish =>
      have finished : (depacketizer.beginPacket call).depacketizer.naluLen = 0 := nothing
      rw [execute_decode, Script.execute_nil]
      dsimp only
      rw [decNalu_of_empty _ _ _ finished]
    next unfinished => rfl
  constructor
  · rw [kept]
    exact nothing
  · rw [kept]
    rfl
  · rw [kept]
    rfl
  · rw [kept]
    rfl

end RtpDepacketizerH264

namespace NaluHistory

open RtpDepacketizerH264 (ContinuesNalu)

def FragmentsStarted (history : NaluHistory) : Prop :=
  history.trace.FragmentsStarted history.depacketizer

variable {history : NaluHistory} {call : ParseCall}

theorem FragmentsStarted.answer_of_none (holds : history.FragmentsStarted)
    (nonempty : call.payload ≠ []) (none : FuAFragment.ofPayload call.payload = none) :
    (history.answer call).FragmentsStarted := by
  refine NaluTrace.fragmentsStarted_of_finished ?_ ?_
  · -- its pieces belong to no FU-A packet, so they are not in question
    refine every_answer holds.every FuAFragment.started_nil fun part bytes _ pieces started => ?_
    refine started.append fun continued => ?_
    obtain ⟨fragment, carries, -⟩ := continued
    cases none.symm.trans carries
  · rw [answer_result, RtpDepacketizerH264.answer_eq _ nonempty]
    exact (FuAFragment.endsNalu_of_none nonempty none _).execute call _

theorem FragmentsStarted.answer (holds : history.FragmentsStarted)
    (continues : history.depacketizer.ContinuesNalu (.parse call)) :
    (history.answer call).FragmentsStarted := by
  by_cases empty : call.payload = []
  · rw [NaluHistory.answer, if_pos empty]
    exact holds
  cases carries : FuAFragment.ofPayload call.payload with
  | none => exact holds.answer_of_none empty carries
  | some fragment =>
    have begun : TracedResult.FragmentsStarted
        ⟨history.depacketizer.beginPacket call, history.trace⟩ := ⟨holds.every, holds.begun⟩
    rw [NaluHistory.answer, if_neg empty]
    cases starts : fragment.start with
    | true => exact begun.execute_begun ⟨fragment, carries, starts⟩ _
    | false => exact begun.execute_continued carries starts (continues fragment carries starts)

theorem FragmentsStarted.next (holds : history.FragmentsStarted) (input : DepacketizerCall)
    (continues : history.depacketizer.ContinuesNalu input) :
    (history.next input).FragmentsStarted := by
  cases input with
  | parse call => exact holds.answer continues
  | setSyncPoint =>
    exact NaluTrace.fragmentsStarted_of_finished
      ⟨FuAFragment.started_nil, List.forall_mem_nil _, holds.every.closed⟩ rfl

end NaluHistory

namespace RtpDepacketizerH264

/-- Where every fragment that carries something continues an unfinished NALU, orphans are
discarded. -/
theorem orphans_are_discarded (nalu frame : Memory UInt8) (calls : List DepacketizerCall)
    (continues : (machine _).Guarded ContinuesNalu (create nalu frame) calls) :
    OrphansAreDiscarded (create nalu frame) calls := by
  rintro before after rfl
  obtain ⟨continuesBefore, continuesAfter⟩ := ((machine _).guarded_append ..).mp continues
  have holds : (NaluHistory.machine.run (.begin (create nalu frame)) before).FragmentsStarted :=
    NaluHistory.machine.run_invariant_of_guarded
      (fun _ input holds continues => holds.next input continues)
      (NaluTrace.fragmentsStarted_of_finished
        ⟨FuAFragment.started_nil, List.forall_mem_nil _, List.forall_mem_nil _⟩ rfl)
      (NaluHistory.projects.guarded continuesBefore)
  refine ⟨holds.every, ?_⟩
  rintro call rest rfl ⟨fragment, carries, continued⟩ orphan
  -- no start in `m_nalu` means that nothing is in it
  have finished : (NaluHistory.machine.run (.begin (create nalu frame))
      before).depacketizer.naluLen = 0 := by
    by_contra unfinished
    obtain ⟨start, member, begins⟩ := holds.begun unfinished
    exact orphan start member begins
  refine discards_empty finished carries continued ?_
  by_contra occupied
  have unfinished := continuesAfter.1 fragment carries continued occupied
  rw [← NaluHistory.run_begin] at unfinished
  exact unfinished finished

/-- Parameter sets and an IDR slice in three fragments. -/
def sampleFragments : List DepacketizerCall :=
  [.parse (.ofPayload [0x67, 1] false 0 96), .parse (.ofPayload [0x68, 2] false 0 96),
    .parse (.ofPayload [0x7c, 0x85, 3] false 0 96), .parse (.ofPayload [0x7c, 0x05, 4] false 0 96),
    .parse (.ofPayload [0x7c, 0x45, 5] true 0 96)]

theorem orphans_are_discarded_sample :
    OrphansAreDiscarded (create (fun _ => 0) fun _ => 0) sampleFragments :=
  orphans_are_discarded _ _ _ (by decide +kernel)

/-- The last fragment of a NALU whose others are lost goes to the frame. -/
theorem orphan_reaches_frame :
    ¬ OrphansAreDiscarded (create (fun _ => 0) fun _ => 0)
      (sampleFragments ++ [.parse (.ofPayload [0x7c, 0x45, 6] true 3000 96)]) := by
  intro discarded
  have orphan := (discarded sampleFragments _ rfl).2 _ [] rfl
    ⟨⟨false, true, [6]⟩, by decide +kernel, rfl⟩
  have nothing : (NaluHistory.machine.run (.begin (create (fun _ => 0) fun _ => 0))
      sampleFragments).trace.pieces = [] :=
    List.length_eq_zero_iff.mp (by decide +kernel)
  have kept := (orphan (by rw [nothing]; exact List.forall_mem_nil _)).frame
  rw [NaluHistory.run_begin] at kept
  exact absurd (congrFun kept 0) (by decide +kernel)

end RtpDepacketizerH264

end RtpPlayer
