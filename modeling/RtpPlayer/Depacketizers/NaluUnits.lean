import RtpPlayer.Depacketizers.NaluSteps
import RtpPlayer.Depacketizers.UnitTrace

/-! # The access units of H.264 bytes

What the operations of a packet do to a trace of access units.  The size limit costs bytes where a
block does not fit `m_nalu` and where a NALU does not fit `m_frame`; as long as nothing of the unit
follows, every frame is as complete as it says. -/

namespace RtpPlayer

open Foundations
open RtpDepacketizer

namespace RtpDepacketizerH264

/-- What an operation does to the trace.  Start codes are of the unit whose packet brings them. -/
def followOperation (call : ParseCall) (operation : NaluOperation)
    (result : ParseResult RtpDepacketizerH264) (trace : UnitTrace) : UnitTrace :=
  let depacketizer := result.depacketizer
  match operation with
  | .append _ bytes =>
    if depacketizer.naluLen + bytes.length ≤ maxEsFrameSize then
      { trace with nalu := trace.nalu ++ trace.bytesOfUnit bytes.length }
    else
      trace.exceed
  | .decode last =>
    if depacketizer.naluLen = 0 ∨ ¬ depacketizer.Admits then
      { trace with nalu := [] }
    else if depacketizer.closes last then
      trace.close (depacketizer.closedFrame call)
        (trace.frame ++ trace.nalu.take depacketizer.storedLen)
        (trace.nalu.drop depacketizer.storedLen)
    else
      { trace with nalu := [], frame := trace.frame ++ trace.nalu }
  | .fail => { trace with nalu := [] }

instance : UnitTraced RtpDepacketizerH264 where
  naluLen := naluLen
  frameLen := frameLen
  follow depacketizer call trace :=
    (Script.execute (Script.observed (perform call) (followOperation call))
      (NaluOperation.ofPacket call.payload call.marker) (depacketizer.beginPacket call, trace)).2

/-! ## The trace goes with the depacketizer -/

theorem describes_followOperation {result : ParseResult RtpDepacketizerH264} {trace : UnitTrace}
    (describes : trace.Describes result.depacketizer) (call : ParseCall)
    (operation : NaluOperation) :
    (followOperation call operation result trace).Describes
      (Script.after (perform call operation result)).depacketizer := by
  obtain ⟨nalu, frame⟩ := describes
  have step := naluStep_perform call operation result
  generalize perform call operation result = outcome at step ⊢
  cases step with
  | appended part bytes fits =>
    rw [followOperation, if_pos fits]
    refine ⟨?_, frame⟩
    rw [List.length_append, nalu, UnitTrace.bytesOfUnit, List.length_replicate]
    rfl
  | overflowed part bytes tooLarge =>
    rw [followOperation, if_neg (Nat.not_le.mpr tooLarge)]
    exact ⟨rfl, rfl⟩
  | nothing last empty =>
    rw [followOperation, if_pos (.inl empty)]
    exact ⟨empty.symm, frame⟩
  | rejected last occupied rejected =>
    rw [followOperation, if_pos (.inr rejected)]
    exact ⟨rfl, frame⟩
  | stored last occupied admits remains =>
    rw [followOperation, if_neg (by tauto), if_neg (by simp [remains])]
    refine ⟨rfl, ?_⟩
    rw [List.length_append, frame, nalu, Script.after_ok, store_eq]
    exact congrArg (result.depacketizer.frameLen + ·) (storedLen_of_remains remains).symm
  | closed last occupied admits closing =>
    rw [followOperation, if_neg (by tauto), if_pos closing]
    exact ⟨rfl, rfl⟩
  | failed => exact ⟨rfl, frame⟩

/-- The trace has a unit for every byte, also for those of a frame that is handed out. -/
structure Followed (closed : List (MediaFrame × List Nat))
    (state : ParseResult RtpDepacketizerH264 × UnitTrace) : Prop where
  describes : state.2.Describes state.1.depacketizer
  grows : closed <:+ state.2.closed
  delivers : state.1.status = .frame → ∀ frame ∈ state.1.frame,
    ∃ units, state.2.closed.head? = some (frame, units) ∧ units.length = frame.len

variable {closed : List (MediaFrame × List Nat)}
  {state : ParseResult RtpDepacketizerH264 × UnitTrace}

theorem Followed.after (followed : Followed closed state) (call : ParseCall)
    (operation : NaluOperation) :
    Followed closed
      (Script.after (Script.observed (perform call) (followOperation call) operation state)) := by
  obtain ⟨result, trace⟩ := state
  obtain ⟨describes, grows, delivers⟩ := followed
  rw [Script.after_observed]
  have kept := describes_followOperation describes call operation
  have step := naluStep_perform call operation result
  dsimp only at describes grows delivers ⊢
  generalize perform call operation result = outcome at step kept ⊢
  cases step with
  | appended part bytes fits =>
    rw [followOperation, if_pos fits] at kept ⊢
    exact ⟨kept, grows, delivers⟩
  | overflowed part bytes tooLarge =>
    rw [followOperation, if_neg (Nat.not_le.mpr tooLarge)] at kept ⊢
    exact ⟨kept, grows, nofun⟩
  | nothing last empty =>
    rw [followOperation, if_pos (.inl empty)] at kept ⊢
    exact ⟨kept, grows, nofun⟩
  | rejected last occupied rejected =>
    rw [followOperation, if_pos (.inr rejected)] at kept ⊢
    exact ⟨kept, grows, nofun⟩
  | stored last occupied admits remains =>
    rw [followOperation, if_neg (by tauto), if_neg (by simp [remains])] at kept ⊢
    exact ⟨kept, grows, nofun⟩
  | closed last occupied admits closing =>
    rw [followOperation, if_neg (by tauto), if_pos closing] at kept ⊢
    refine ⟨kept, grows.trans (List.suffix_cons ..), ?_⟩
    intro _ out handed
    obtain ⟨_, _, rfl⟩ := Option.map_eq_some_iff.mp handed
    refine ⟨_, rfl, ?_⟩
    have within : result.depacketizer.storedLen ≤ trace.nalu.length :=
      describes.nalu ▸ Nat.min_le_left ..
    rw [List.length_append, List.length_take, Nat.min_eq_left within, describes.frame, closedFrame,
      store_eq]
    rfl
  | failed => exact ⟨kept, grows, nofun⟩

/-- Parsing a packet under a trace is performing its script under observation. -/
theorem observed_answer (depacketizer : RtpDepacketizerH264) {call : ParseCall}
    (nonempty : call.payload ≠ []) (trace : UnitTrace) :
    (answer depacketizer call, UnitTraced.follow depacketizer call trace) =
      Script.execute (Script.observed (perform call) (followOperation call))
        (NaluOperation.ofPacket call.payload call.marker)
        (depacketizer.beginPacket call, trace) := by
  refine Prod.ext ?_ rfl
  rw [Script.execute_observed_fst, answer_eq _ nonempty]

theorem follow_of_empty (depacketizer : RtpDepacketizerH264) {call : ParseCall}
    (empty : call.payload = []) (trace : UnitTrace) :
    UnitTraced.follow depacketizer call trace = trace := by
  simp only [UnitTraced.follow, empty, NaluOperation.ofPacket, Script.execute_nil]

theorem followed_answer {trace : UnitTrace} {depacketizer : RtpDepacketizerH264}
    (describes : trace.Describes depacketizer) (call : ParseCall) :
    Followed trace.closed
      (answer depacketizer call, UnitTraced.follow depacketizer call trace) := by
  by_cases empty : call.payload = []
  · rw [answer_of_empty _ empty, follow_of_empty _ empty]
    exact ⟨describes, List.suffix_rfl, nofun⟩
  · rw [observed_answer _ empty]
    have keeps : ∀ operation ∈ NaluOperation.ofPacket call.payload call.marker,
        ∀ state, Followed trace.closed state → Followed trace.closed
          (Script.after (Script.observed (perform call) (followOperation call) operation state)) :=
      fun operation _ _ holds => holds.after call operation
    exact Script.execute_invariant keeps
      ⟨⟨describes.nalu, describes.frame⟩, List.suffix_rfl, nofun⟩

instance : LawfulUnitTraced RtpDepacketizerH264 where
  parsed call describes := (followed_answer describes call).describes
  synced _ := ⟨rfl, rfl⟩
  grows call describes := (followed_answer describes call).grows
  delivered {trace depacketizer call frame bytes} describes delivered := by
    obtain ⟨status, filled, rfl⟩ := delivery_eq_some_iff.mp delivered
    obtain ⟨units, closed, length⟩ := (followed_answer describes call).delivers status frame filled
    exact ⟨units, closed, length.trans (Memory.slice_length ..).symm⟩

/-! ## Where the size limit may cost bytes -/

/-- What does not fit `m_nalu` is in the last packet of its unit.  A NALU that does not fit
`m_frame` is the last of its unit, or none of the bytes cut off are of the unit. -/
def LimitEndsUnit (call : ParseCall) (operation : NaluOperation) (_ : List NaluOperation)
    (state : ParseResult RtpDepacketizerH264 × UnitTrace) : Prop :=
  let depacketizer := state.1.depacketizer
  match operation with
  | .append _ bytes => maxEsFrameSize < depacketizer.naluLen + bytes.length → call.marker = true
  | .decode last => depacketizer.naluLen ≠ 0 → depacketizer.Admits →
      maxEsFrameSize < depacketizer.frameLen + depacketizer.naluLen →
      last = true ∨ state.2.unit ∉ state.2.nalu.drop depacketizer.storedLen
  | .fail => True

instance (call : ParseCall) (operation : NaluOperation) (remaining : List NaluOperation)
    (state : ParseResult RtpDepacketizerH264 × UnitTrace) :
    Decidable (LimitEndsUnit call operation remaining state) :=
  match operation with
  | .append .. => inferInstanceAs (Decidable (_ → _))
  | .decode _ => inferInstanceAs (Decidable (_ → _))
  | .fail => .isTrue trivial

/-- The packet costs its unit no bytes while the unit goes on. -/
def TruncatesLastOnly (history : UnitHistory RtpDepacketizerH264) : DepacketizerCall → Prop
  | .setSyncPoint => True
  | .parse call => Script.Guarded (Script.observed (perform call) (followOperation call))
      (LimitEndsUnit call) (NaluOperation.ofPacket call.payload call.marker)
      (history.depacketizer.beginPacket call, history.trace)

instance (history : UnitHistory RtpDepacketizerH264) : DecidablePred (TruncatesLastOnly history)
  | .setSyncPoint => .isTrue trivial
  | .parse _ => Script.decidableGuarded ..

/-- Only the last decode of a packet with its marker ends the frame for good. -/
def EndsWithMarker (marker : Bool) : List NaluOperation → Prop
  | [] => True
  | operation :: operations =>
    (operation = .decode true → operations = [] ∧ marker = true) ∧ EndsWithMarker marker operations

theorem endsWithMarker_fail (marker : Bool) : EndsWithMarker marker [.fail] := by
  simp [EndsWithMarker]

theorem endsWithMarker_append (marker : Bool) (part : NaluPart) (bytes : List UInt8)
    {operations : List NaluOperation} (rest : EndsWithMarker marker operations) :
    EndsWithMarker marker (.append part bytes :: operations) := by
  simpa [EndsWithMarker] using rest

theorem endsWithMarker_decode {marker last : Bool} {operations : List NaluOperation}
    (ends : last = true → operations = [] ∧ marker = true)
    (rest : EndsWithMarker marker operations) :
    EndsWithMarker marker (.decode last :: operations) :=
  ⟨fun same => ends (NaluOperation.decode.inj same), rest⟩

theorem endsWithMarker_wholeNalu {marker last : Bool} (nalu : List UInt8)
    {operations : List NaluOperation} (ends : last = true → operations = [] ∧ marker = true)
    (rest : EndsWithMarker marker operations) :
    EndsWithMarker marker (NaluOperation.wholeNalu nalu last ++ operations) :=
  endsWithMarker_append _ _ _ (endsWithMarker_append _ _ _ (endsWithMarker_decode ends rest))

theorem endsWithMarker_ofStapA (marker : Bool) (bytes : List UInt8) :
    EndsWithMarker marker (NaluOperation.ofStapA marker bytes) := by
  -- on the entries: only the one nothing is left behind gets the marker
  induction bytes using NaluOperation.ofStapA.induct with
  | case1 high low rest length tooLong =>
    rw [NaluOperation.ofStapA, if_pos tooLong]
    exact endsWithMarker_fail marker
  | case2 high low rest length fits ih =>
    rw [NaluOperation.ofStapA, if_neg fits]
    by_cases more : length < rest.length
    · have notLast : rest.length ≠ length := Nat.ne_of_gt more
      rw [if_pos more, if_neg notLast]
      exact endsWithMarker_wholeNalu _ (by simp) (ih more)
    · have last : rest.length = length := by omega
      rw [if_neg more, if_pos last]
      exact endsWithMarker_wholeNalu _ (fun marked => ⟨rfl, marked⟩) trivial
  | case3 bytes short =>
    rw [NaluOperation.ofStapA.eq_2 _ _ short]
    exact endsWithMarker_fail marker

theorem endsWithMarker_ofFuA (marker : Bool) (indicator : UInt8) (bytes : List UInt8) :
    EndsWithMarker marker (NaluOperation.ofFuA marker indicator bytes) := by
  cases bytes with
  | nil => exact endsWithMarker_fail marker
  | cons header fragment =>
    -- a fragment that ends its NALU is decoded as the last of its packet
    have tail : EndsWithMarker marker (.append .payload fragment ::
        if header &&& 0x40 > 0 then [.decode marker] else []) := by
      refine endsWithMarker_append _ _ _ ?_
      split
      next finish => exact endsWithMarker_decode (fun marked => ⟨rfl, marked⟩) trivial
      next => trivial
    rw [NaluOperation.ofFuA]
    split
    next both => exact endsWithMarker_fail marker
    next proper =>
      split
      next start =>
        exact endsWithMarker_append _ _ _ (endsWithMarker_append _ _ _ tail)
      next => exact tail

theorem endsWithMarker_ofPacket (payload : List UInt8) (marker : Bool) :
    EndsWithMarker marker (NaluOperation.ofPacket payload marker) := by
  cases payload with
  | nil => trivial
  | cons first rest =>
    rw [NaluOperation.ofPacket]
    split_ifs with single stapA fuA
    · rw [← List.append_nil (NaluOperation.wholeNalu ..)]
      exact endsWithMarker_wholeNalu _ (fun marked => ⟨rfl, marked⟩) trivial
    · exact endsWithMarker_ofStapA marker rest
    · exact endsWithMarker_ofFuA marker first rest
    · exact endsWithMarker_fail marker

/-! ## Losses stay settled -/

/-- The losses are settled while the packet goes on, and with its unit once it has ended it. -/
inductive Settles (marker : Bool) : List NaluOperation →
    ParseResult RtpDepacketizerH264 × UnitTrace → Prop where
  | goesOn {operations : List NaluOperation} {state : ParseResult RtpDepacketizerH264 × UnitTrace}
      (describes : state.2.Describes state.1.depacketizer)
      (settled : state.2.Settled state.2.unit) (ends : EndsWithMarker marker operations) :
      Settles marker operations state
  | ended {state : ParseResult RtpDepacketizerH264 × UnitTrace}
      (marked : marker = true) (settled : state.2.Settled (state.2.unit + 1)) :
      Settles marker [] state

theorem closingFlags_incomplete (depacketizer : RtpDepacketizerH264) (call : ParseCall) :
    (depacketizer.closedFrame call).Incomplete ↔
      maxEsFrameSize < depacketizer.frameLen + depacketizer.naluLen := by
  rw [MediaFrame.Incomplete, closedFrame, closingFlags]
  split_ifs <;> simp_all [frameIsIncomplete, frameIsSyncPoint]

/-- A NALU closes the frame as the last of its unit, or it is cut off and the unit goes on. -/
theorem settles_closing {call : ParseCall} {last : Bool} {remaining : List NaluOperation}
    {result next : ParseResult RtpDepacketizerH264} {trace : UnitTrace}
    (describes : trace.Describes result.depacketizer) (settled : trace.Settled trace.unit)
    (ends : EndsWithMarker call.marker (.decode last :: remaining))
    (limit : LimitEndsUnit call (.decode last) remaining (result, trace))
    (occupied : result.depacketizer.naluLen ≠ 0) (admits : result.depacketizer.Admits)
    (closing : result.depacketizer.closes last = true) {closed : UnitTrace}
    (closes : closed = trace.close (result.depacketizer.closedFrame call)
      (trace.frame ++ trace.nalu.take result.depacketizer.storedLen)
      (trace.nalu.drop result.depacketizer.storedLen))
    (kept : closed.Describes next.depacketizer) :
    Settles call.marker remaining (next, closed) := by
  subst closes
  by_cases final : last = true
  · obtain ⟨rfl, marked⟩ := ends.1 (by rw [final])
    refine .ended marked (settled.close ?_ ?_)
    · intro unit member
      rw [List.append_assoc, List.take_append_drop] at member
      exact .inl (List.perm_append_comm.subset member)
    · -- a frame that is not marked incomplete was not cut
      intro complete
      rw [closingFlags_incomplete] at complete
      refine List.drop_eq_nil_of_le ?_
      rw [storedLen, describes.nalu]
      change result.depacketizer.naluLen ≤ _
      omega
  · -- what is lost of a NALU that is cut off is of a unit before
    have tooLarge : maxEsFrameSize < result.depacketizer.frameLen +
        result.depacketizer.naluLen := by
      simpa [RtpDepacketizerH264.closes, final] using closing
    have absent := (limit occupied admits tooLarge).resolve_left final
    refine .goesOn kept (settled.closeIncomplete ?_ ?_) ends.2
    · exact (closingFlags_incomplete ..).mpr tooLarge
    · intro unit member
      refine ⟨List.mem_append_left _ (List.mem_of_mem_drop member), ?_⟩
      rintro rfl
      exact absent member

theorem settles_followOperation {call : ParseCall} {operation : NaluOperation}
    {remaining : List NaluOperation} {result : ParseResult RtpDepacketizerH264}
    {trace : UnitTrace} (describes : trace.Describes result.depacketizer)
    (settled : trace.Settled trace.unit)
    (ends : EndsWithMarker call.marker (operation :: remaining))
    (limit : LimitEndsUnit call operation remaining (result, trace)) :
    Settles call.marker
      (match perform call operation result with
        | .ok _ => remaining
        | .error _ => [])
      (Script.after (perform call operation result),
        followOperation call operation result trace) := by
  have kept := describes_followOperation describes call operation
  have step := naluStep_perform call operation result
  generalize perform call operation result = outcome at step kept ⊢
  cases step with
  | appended part bytes fits =>
    rw [followOperation, if_pos fits] at kept ⊢
    refine .goesOn kept (settled.hold _ _ ?_) ends.2
    intro unit member
    rw [List.append_assoc, List.mem_append, List.mem_append] at member
    rcases member with before | new | stored
    · exact .inl (List.mem_append_left _ before)
    · exact .inr (UnitTrace.mem_bytesOfUnit new)
    · exact .inl (List.mem_append_right _ stored)
  | overflowed part bytes tooLarge =>
    rw [followOperation, if_neg (Nat.not_le.mpr tooLarge)]
    -- the frame and the NALU go together, with the unit they are of
    exact .ended (limit tooLarge) settled.exceed
  | nothing last empty =>
    rw [followOperation, if_pos (.inl empty)] at kept ⊢
    exact .goesOn kept settled.dropNalu ends.2
  | rejected last occupied rejected =>
    rw [followOperation, if_pos (.inr rejected)] at kept ⊢
    exact .goesOn kept settled.dropNalu ends.2
  | stored last occupied admits remains =>
    rw [followOperation, if_neg (by tauto), if_neg (by simp [remains])] at kept ⊢
    refine .goesOn kept (settled.hold _ _ ?_) ends.2
    intro unit member
    exact .inl (List.perm_append_comm.subset member)
  | closed last occupied admits closing =>
    rw [followOperation, if_neg (by tauto), if_pos closing] at kept ⊢
    exact settles_closing describes settled ends limit occupied admits closing rfl kept
  | failed => exact .goesOn kept settled.dropNalu trivial

theorem settles_execute {call : ParseCall} {operations : List NaluOperation}
    {state : ParseResult RtpDepacketizerH264 × UnitTrace}
    (settles : Settles call.marker operations state)
    (limit : Script.Guarded (Script.observed (perform call) (followOperation call))
      (LimitEndsUnit call) operations state) :
    Settles call.marker [] (Script.execute
      (Script.observed (perform call) (followOperation call)) operations state) := by
  refine Script.execute_invariant_of_guarded ?_ ?_ operations settles limit
  · intro operation remaining state next settles limit continues
    cases settles with
    | goesOn describes settled ends =>
      have step := settles_followOperation describes settled ends limit
      obtain ⟨continued, followed⟩ := Script.of_observed_ok continues
      rw [continued] at step
      rw [← followed] at step
      exact step
  · intro operation remaining state final settles limit stops
    cases settles with
    | goesOn describes settled ends =>
      have step := settles_followOperation describes settled ends limit
      obtain ⟨stopped, followed⟩ := Script.of_observed_error stops
      rw [stopped] at step
      rw [← followed] at step
      exact step

/-- Where no packet costs its unit bytes while the unit goes on, truncation is reported. -/
theorem truncationIsReported (nalu frame : Memory UInt8) {calls : List DepacketizerCall}
    (limit : UnitHistory.machine.Guarded TruncatesLastOnly (.begin (create nalu frame)) calls) :
    TruncationIsReported (create nalu frame) calls := by
  refine UnitHistory.truncationIsReported_of_guarded ?_ rfl rfl limit
  intro history settled call limit
  by_cases empty : call.payload = []
  · rw [follow_of_empty _ empty]
    exact settled.settled.goesOn call.marker
  · have begun : Settles call.marker (NaluOperation.ofPacket call.payload call.marker)
        (history.depacketizer.beginPacket call, history.trace) :=
      .goesOn ⟨settled.describes.nalu, settled.describes.frame⟩ settled.settled
        (endsWithMarker_ofPacket ..)
    have ended := settles_execute begun limit
    rw [← observed_answer _ empty] at ended
    dsimp only
    cases ended with
    | goesOn describes settled ends => exact settled.goesOn call.marker
    | ended marked settled =>
      rw [if_pos marked]
      exact settled

end RtpDepacketizerH264

end RtpPlayer
