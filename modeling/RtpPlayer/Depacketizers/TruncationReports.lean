import RtpPlayer.Depacketizers.NaluUnits
import RtpPlayer.Depacketizers.Vp8RoundTrip
import RtpPlayer.Depacketizers.Vp8Units

/-! # Reports of truncation

A frame that the size limit has cost bytes is marked as incomplete in one of three places only, and
only for what is cut off there.  Neither depacketizer remembers that the unit has lost bytes, so
what follows in the same unit is delivered as if it were whole. -/

namespace RtpPlayer

open Foundations
open RtpDepacketizer

namespace RtpDepacketizerH264

open NaluOperation (startcode)

variable {call : ParseCall}

/-- The bytes are at the end of the current NALU, and the trace knows. -/
def pushBytes (bytes : List UInt8) (state : ParseResult RtpDepacketizerH264 × UnitTrace) :
    ParseResult RtpDepacketizerH264 × UnitTrace :=
  ({ state.1 with depacketizer := state.1.depacketizer.pushNalu bytes },
    { state.2 with nalu := state.2.nalu ++ state.2.bytesOfUnit bytes.length })

theorem describes_pushBytes {state : ParseResult RtpDepacketizerH264 × UnitTrace}
    (describes : state.2.Describes state.1.depacketizer) (bytes : List UInt8) :
    (pushBytes bytes state).2.Describes (pushBytes bytes state).1.depacketizer := by
  refine ⟨?_, describes.frame⟩
  rw [pushBytes, List.length_append, describes.nalu, UnitTrace.bytesOfUnit, List.length_replicate]
  rfl

theorem observed_append {state : ParseResult RtpDepacketizerH264 × UnitTrace} (part : NaluPart)
    {bytes : List UInt8} (fits : state.1.depacketizer.naluLen + bytes.length ≤ maxEsFrameSize) :
    Script.observed (perform call) (followOperation call) (.append part bytes) state =
      .ok (pushBytes bytes state) := by
  have appended : perform call (.append part bytes) state.1 =
      .ok { state.1 with depacketizer := state.1.depacketizer.pushNalu bytes } := by
    rw [perform, append_of_le fits]
  rw [Script.observed_of_ok appended, followOperation, if_pos fits]
  rfl

/-- A single NAL unit packet that `m_nalu` has room for. -/
structure Single (call : ParseCall) : Prop where
  type : ∃ header body, call.payload = header :: body ∧
    1 ≤ packetType header ∧ packetType header ≤ 12
  fits : (startcode ++ call.payload).length ≤ maxEsFrameSize

theorem Single.ofPacket (single : Single call) :
    NaluOperation.ofPacket call.payload call.marker =
      NaluOperation.wholeNalu call.payload call.marker := by
  obtain ⟨header, body, carries, type⟩ := single.type
  rw [carries, NaluOperation.ofPacket, if_pos type]

theorem Single.nonempty (single : Single call) : call.payload ≠ [] := by
  obtain ⟨header, body, carries, -⟩ := single.type
  rw [carries]
  exact List.cons_ne_nil header body

/-- The NALU of the packet is in `m_nalu`, behind its start code. -/
def loadNalu (depacketizer : RtpDepacketizerH264) (call : ParseCall) (trace : UnitTrace) :
    ParseResult RtpDepacketizerH264 × UnitTrace :=
  pushBytes call.payload (pushBytes startcode (depacketizer.beginPacket call, trace))

section Loading

variable {depacketizer : RtpDepacketizerH264}

theorem naluLen_pushStartcode (finished : depacketizer.naluLen = 0) (trace : UnitTrace) :
    (pushBytes startcode (depacketizer.beginPacket call, trace)).1.depacketizer.naluLen =
      startcode.length :=
  (congrArg (· + startcode.length) finished).trans (Nat.zero_add _)

theorem naluLen_loadNalu (finished : depacketizer.naluLen = 0) (trace : UnitTrace) :
    (loadNalu depacketizer call trace).1.depacketizer.naluLen =
      (startcode ++ call.payload).length := by
  rw [List.length_append, ← naluLen_pushStartcode finished trace]
  rfl

theorem observed_startcode (finished : depacketizer.naluLen = 0) (trace : UnitTrace) :
    Script.observed (perform call) (followOperation call) (.append .startcode startcode)
        (depacketizer.beginPacket call, trace) =
      .ok (pushBytes startcode (depacketizer.beginPacket call, trace)) := by
  have empty : (depacketizer.beginPacket call).depacketizer.naluLen = 0 := finished
  exact observed_append _ (by rw [empty]; decide)

theorem observed_payload (finished : depacketizer.naluLen = 0) (trace : UnitTrace)
    (single : Single call) :
    Script.observed (perform call) (followOperation call) (.append .payload call.payload)
        (pushBytes startcode (depacketizer.beginPacket call, trace)) =
      .ok (loadNalu depacketizer call trace) := by
  refine observed_append _ ?_
  rw [naluLen_pushStartcode finished trace, ← List.length_append]
  exact single.fits

/-- A single NAL unit packet is decoded with all its bytes in `m_nalu`. -/
theorem observed_single (finished : depacketizer.naluLen = 0) (trace : UnitTrace)
    (single : Single call) :
    answer depacketizer call =
        (loadNalu depacketizer call trace).1.depacketizer.decNalu call.marker call call.frame ∧
      UnitTraced.follow depacketizer call trace =
        followOperation call (.decode call.marker) (loadNalu depacketizer call trace).1
          (loadNalu depacketizer call trace).2 := by
  refine Prod.mk.inj ?_
  rw [observed_answer _ single.nonempty, single.ofPacket, NaluOperation.wholeNalu,
    Script.execute_cons_ok _ (observed_startcode finished trace),
    Script.execute_cons_ok _ (observed_payload finished trace single),
    Script.execute_cons_ok _ (Script.observed_of_ok rfl), Script.execute_nil]
  rfl

end Loading

/-- A NALU that ends the frame, with room for all of it, closes it as complete. -/
theorem followOperation_of_room {result : ParseResult RtpDepacketizerH264} {trace : UnitTrace}
    (describes : trace.Describes result.depacketizer) (occupied : result.depacketizer.naluLen ≠ 0)
    (admits : result.depacketizer.Admits)
    (room : result.depacketizer.frameLen + result.depacketizer.naluLen ≤ maxEsFrameSize)
    (call : ParseCall) :
    ¬ (result.depacketizer.closedFrame call).Incomplete ∧
      followOperation call (.decode true) result trace =
        trace.close (result.depacketizer.closedFrame call) (trace.frame ++ trace.nalu) [] := by
  have stored : result.depacketizer.storedLen = trace.nalu.length := by
    rw [describes.nalu]
    exact Nat.min_eq_left (by omega)
  have closes : result.depacketizer.closes true = true := rfl
  refine ⟨mt (closingFlags_incomplete ..).mp (Nat.not_lt.mpr room), ?_⟩
  rw [followOperation, if_neg (by tauto), if_pos closes, stored, List.take_length,
    List.drop_length]

/-- No sentry is up, no NALU has begun, and `length` bytes are in `m_frame`. -/
structure Filled (history : UnitHistory RtpDepacketizerH264) (length : Nat) : Prop where
  clear : history.depacketizer.sentries = .clear
  finished : history.depacketizer.naluLen = 0
  frameLen : history.depacketizer.frameLen = length

/-- The NALU of the packet is in `m_nalu`, and about to be decoded. -/
structure Loads (history : UnitHistory RtpDepacketizerH264) (call : ParseCall)
    (loaded : ParseResult RtpDepacketizerH264 × UnitTrace) : Prop where
  naluLen : loaded.1.depacketizer.naluLen = (startcode ++ call.payload).length
  frameLen : loaded.1.depacketizer.frameLen = history.depacketizer.frameLen
  clear : loaded.1.depacketizer.sentries = .clear
  answered : answer history.depacketizer call =
    loaded.1.depacketizer.decNalu call.marker call call.frame
  followed : UnitTraced.follow history.depacketizer call history.trace =
    followOperation call (.decode call.marker) loaded.1 loaded.2
  describes : history.Describes → loaded.2.Describes loaded.1.depacketizer
  unit : history.trace.unit ∈ loaded.2.nalu
  lost : loaded.2.lost = history.trace.lost

theorem Filled.loads {history : UnitHistory RtpDepacketizerH264} {length : Nat}
    (filled : Filled history length) (single : Single call) :
    Loads history call (loadNalu history.depacketizer call history.trace) := by
  obtain ⟨answered, followed⟩ := observed_single filled.finished history.trace single
  constructor
  case answered => exact answered
  case followed => exact followed
  case naluLen => exact naluLen_loadNalu filled.finished history.trace
  case frameLen => rfl
  case clear => exact filled.clear
  case describes =>
    intro describes
    exact describes_pushBytes (describes_pushBytes ⟨describes.nalu, describes.frame⟩ _) _
  case unit =>
    -- the start code is of the unit of the packet
    refine List.mem_append_left _ (List.mem_append_right _ ?_)
    exact List.mem_replicate.mpr ⟨by decide, rfl⟩
  case lost => rfl

theorem Loads.occupied {history : UnitHistory RtpDepacketizerH264}
    {loaded : ParseResult RtpDepacketizerH264 × UnitTrace} (loads : Loads history call loaded) :
    loaded.1.depacketizer.naluLen ≠ 0 := by
  rw [loads.naluLen, List.length_append]
  exact Nat.ne_of_gt (Nat.lt_of_lt_of_le (by decide) (Nat.le_add_right ..))

theorem Loads.admits {history : UnitHistory RtpDepacketizerH264}
    {loaded : ParseResult RtpDepacketizerH264 × UnitTrace} (loads : Loads history call loaded) :
    loaded.1.depacketizer.Admits := by
  rw [Admits, loads.clear]
  rfl

/-- The unit has lost bytes, and a single NAL unit packet that fits is about to end it. -/
structure EndsLossyUnit (history : UnitHistory RtpDepacketizerH264) (call : ParseCall) : Prop where
  lost : history.trace.unit ∈ history.trace.lost
  clear : history.depacketizer.sentries = .clear
  finished : history.depacketizer.naluLen = 0
  single : Single call
  fits : history.depacketizer.frameLen + (startcode ++ call.payload).length ≤ maxEsFrameSize
  marked : call.marker = true
  out : call.frame.isSome

/-- The packet that ends a unit does not report what the unit has lost before. -/
theorem tail_unreported {nalu frame : Memory UInt8} {past : List DepacketizerCall}
    (ends : EndsLossyUnit (UnitHistory.machine.run (.begin (create nalu frame)) past) call) :
    ¬ TruncationIsReported (create nalu frame) (past ++ [.parse call]) := by
  generalize state : UnitHistory.machine.run (.begin (create nalu frame)) past = history at ends
  obtain ⟨out, given⟩ := Option.isSome_iff_exists.mp ends.out
  have begins : (UnitHistory.begin (create nalu frame)).Describes := ⟨rfl, rfl⟩
  have describes := begins.run past
  rw [state] at describes
  have filled : Filled history history.depacketizer.frameLen := ⟨ends.clear, ends.finished, rfl⟩
  have loads := filled.loads ends.single
  generalize loadNalu history.depacketizer call history.trace = loaded at loads
  obtain ⟨complete, closed⟩ := followOperation_of_room (loads.describes describes) loads.occupied
    loads.admits (by rw [loads.frameLen, loads.naluLen]; exact ends.fits) call
  have answered := loads.answered
  have followed := loads.followed
  rw [ends.marked, closed] at followed
  rw [ends.marked, decNalu_of_closing _ _ _ loads.occupied
    ((checkSentries_fst ..).trans loads.admits) rfl, given] at answered
  have after : (history.next (.parse call)).trace =
      (loaded.2.close (loaded.1.depacketizer.closedFrame call) (loaded.2.frame ++ loaded.2.nalu)
        []).endPacket true := by
    rw [UnitHistory.next, followed, ends.marked]
  refine not_truncationIsReported state (by rw [answered]; rfl) (by rw [after]; rfl)
    (List.mem_append_right _ loads.unit) ?_ complete
  rw [after]
  exact loads.lost ▸ ends.lost

/-! ### A unit that is too large -/

/-- A single NAL unit packet meets the condition where its NALU fits the frame, or ends the unit. -/
theorem Filled.truncatesLastOnly {history : UnitHistory RtpDepacketizerH264} {length : Nat}
    (filled : Filled history length) (single : Single call)
    (room : length + (startcode ++ call.payload).length ≤ maxEsFrameSize ∨ call.marker = true) :
    TruncatesLastOnly history (.parse call) := by
  rw [TruncatesLastOnly, single.ofPacket, NaluOperation.wholeNalu,
    Script.guarded_cons_ok _ (observed_startcode filled.finished history.trace),
    Script.guarded_cons_ok _ (observed_payload filled.finished history.trace single),
    Script.guarded_singleton]
  have fits := single.fits
  rw [List.length_append] at fits
  have empty : (history.depacketizer.beginPacket call).depacketizer.naluLen = 0 := filled.finished
  refine ⟨fun full => absurd full ?_, fun full => absurd full ?_, fun _ _ full => .inl ?_⟩
  · rw [empty]
    omega
  · rw [naluLen_pushStartcode filled.finished history.trace]
    omega
  · refine room.resolve_left fun fits => ?_
    have loads := filled.loads single
    rw [loads.frameLen, loads.naluLen, filled.frameLen] at full
    omega

theorem Filled.next {history : UnitHistory RtpDepacketizerH264} {length : Nat}
    (filled : Filled history length) (single : Single call)
    (fits : length + (startcode ++ call.payload).length ≤ maxEsFrameSize)
    (unmarked : call.marker = false) :
    Filled (history.next (.parse call)) (length + (startcode ++ call.payload).length) := by
  have loads := filled.loads single
  generalize loadNalu history.depacketizer call history.trace = loaded at loads
  rw [← filled.frameLen, ← loads.frameLen, ← loads.naluLen] at fits ⊢
  have remains : loaded.1.depacketizer.closes false = false := by
    simpa [RtpDepacketizerH264.closes] using fits
  have answered := loads.answered
  rw [unmarked, decNalu_of_stored false _ _ loads.occupied
    ((checkSentries_fst ..).trans loads.admits) remains, store_eq] at answered
  rw [UnitHistory.next, answered]
  constructor
  case clear =>
    rw [sentries, loads.clear]
    rfl
  case finished => rfl
  case frameLen => exact congrArg (loaded.1.depacketizer.frameLen + ·) (storedLen_of_remains remains)

/-- What a marked packet leaves no room for is missing in the frame, which says so. -/
theorem Filled.delivers_incomplete {history : UnitHistory RtpDepacketizerH264} {length : Nat}
    (filled : Filled history length) (single : Single call)
    (full : maxEsFrameSize < length + (startcode ++ call.payload).length)
    (marked : call.marker = true) (out : call.frame.isSome) :
    ∃ frame bytes, delivery (answer history.depacketizer call) = some (frame, bytes) ∧
      frame.Incomplete := by
  obtain ⟨out, given⟩ := Option.isSome_iff_exists.mp out
  have loads := filled.loads single
  generalize loadNalu history.depacketizer call history.trace = loaded at loads
  rw [← filled.frameLen, ← loads.frameLen, ← loads.naluLen] at full
  rw [loads.answered, marked, decNalu_of_closing _ _ _ loads.occupied
    ((checkSentries_fst ..).trans loads.admits) rfl, given]
  exact ⟨loaded.1.depacketizer.closedFrame call, _, rfl, (closingFlags_incomplete ..).mpr full⟩

/-- An IDR slice in a packet of its own. -/
def parseSlice (rest : Nat) (marker : Bool) : ParseCall :=
  .ofPayload (0x65 :: List.replicate rest 0) marker 3000 96

theorem parseSlice_length (rest : Nat) (marker : Bool) :
    (startcode ++ (parseSlice rest marker).payload).length = rest + 5 := by
  rw [parseSlice, ParseCall.payload_ofPayload, List.length_append, List.length_cons,
    List.length_replicate, Nat.add_comm]
  rfl

theorem single_parseSlice {rest : Nat} (fits : rest + 5 ≤ maxEsFrameSize) (marker : Bool) :
    Single (parseSlice rest marker) :=
  ⟨⟨0x65, _, ParseCall.payload_ofPayload .., by decide⟩, by rwa [parseSlice_length]⟩

/-- Slices that fit the frame are stored in it. -/
theorem Filled.run_slices {history : UnitHistory RtpDepacketizerH264} {length : Nat}
    (filled : Filled history length) (rest count : Nat)
    (fits : length + (rest + 5) * count ≤ maxEsFrameSize) :
    UnitHistory.machine.Guarded TruncatesLastOnly history
        (List.replicate count (.parse (parseSlice rest false))) ∧
      Filled (UnitHistory.machine.run history
        (List.replicate count (.parse (parseSlice rest false)))) (length + (rest + 5) * count) := by
  have steps : ∀ past < count, ∀ history : UnitHistory RtpDepacketizerH264,
      Filled history (length + (rest + 5) * past) →
      TruncatesLastOnly history (.parse (parseSlice rest false)) ∧
        Filled (history.next (.parse (parseSlice rest false)))
          (length + (rest + 5) * (past + 1)) := by
    intro past less history filled
    have more : (rest + 5) * (past + 1) ≤ (rest + 5) * count := Nat.mul_le_mul_left _ less
    rw [Nat.mul_succ] at more ⊢
    have single := @single_parseSlice rest (by omega) false
    rw [← Nat.add_assoc]
    have room : length + (rest + 5) * past +
        (startcode ++ (parseSlice rest false).payload).length ≤ maxEsFrameSize := by
      rw [parseSlice_length]
      omega
    have after := filled.next single room rfl
    rw [parseSlice_length] at after
    exact ⟨filled.truncatesLastOnly single (.inl room), after⟩
  have starts : Filled history (length + (rest + 5) * 0) := filled
  exact UnitHistory.machine.run_replicate steps starts

/-- The parameter sets and the first slice of a unit. -/
def largeUnitHead : List DepacketizerCall :=
  [.parse (.ofPayload [0x67, 1] false 3000 96), .parse (.ofPayload [0x68, 2] false 3000 96),
    .parse (.ofPayload [0x65, 3] false 3000 96)]

/-- The same, and 15 slices of 64000 bytes. -/
def largeUnitStart : List DepacketizerCall :=
  largeUnitHead ++ List.replicate 15 (.parse (parseSlice 63999 false))

theorem run_largeUnitStart :
    UnitHistory.machine.Guarded TruncatesLastOnly (.begin (create (fun _ => 0) fun _ => 0))
        largeUnitStart ∧
      Filled (UnitHistory.machine.run (.begin (create (fun _ => 0) fun _ => 0)) largeUnitStart)
        960078 := by
  have opened : Filled (UnitHistory.machine.run (.begin (create (fun _ => 0) fun _ => 0))
      largeUnitHead) 18 := ⟨by decide +kernel, by decide +kernel, by decide +kernel⟩
  obtain ⟨guarded, filled⟩ := opened.run_slices 63999 15 (by decide)
  rw [largeUnitStart, Machine.guarded_append, Machine.run_append]
  exact ⟨⟨by decide +kernel, guarded⟩, filled⟩

/-- What a unit ends with may be cut off. -/
theorem run_lastSlice {past : List DepacketizerCall} {length rest : Nat}
    {depacketizer : RtpDepacketizerH264}
    (guarded : UnitHistory.machine.Guarded TruncatesLastOnly (.begin depacketizer) past)
    (filled : Filled (UnitHistory.machine.run (.begin depacketizer) past) length)
    (fits : rest + 5 ≤ maxEsFrameSize) (full : maxEsFrameSize < length + (rest + 5)) :
    UnitHistory.machine.Guarded TruncatesLastOnly (.begin depacketizer)
        (past ++ [.parse (parseSlice rest true)]) ∧
      ∃ frame bytes, delivery (answer ((machine _).run depacketizer past)
        (parseSlice rest true)) = some (frame, bytes) ∧ frame.Incomplete := by
  have single := single_parseSlice fits true
  rw [← parseSlice_length rest true] at full
  rw [Machine.guarded_append, ← UnitHistory.run_begin]
  exact ⟨⟨guarded, filled.truncatesLastOnly single (.inr rfl), trivial⟩,
    filled.delivers_incomplete single full rfl rfl⟩

/-- A unit whose last slice does not fit. -/
def largeUnit : List DepacketizerCall := largeUnitStart ++ [.parse (parseSlice 63999 true)]

/-- Its frame says that it is incomplete. -/
def LargeUnitIncomplete : Prop := ∃ frame bytes,
  delivery (answer ((machine _).run (create (fun _ => 0) fun _ => 0) largeUnitStart)
    (parseSlice 63999 true)) = some (frame, bytes) ∧ frame.Incomplete

theorem run_largeUnit :
    UnitHistory.machine.Guarded TruncatesLastOnly (.begin (create (fun _ => 0) fun _ => 0))
      largeUnit ∧ LargeUnitIncomplete := by
  obtain ⟨guarded, filled⟩ := run_largeUnitStart
  exact run_lastSlice guarded filled (by decide) (by decide)

end RtpDepacketizerH264

namespace RtpDepacketizerVp8

variable {depacketizer : RtpDepacketizerVp8} {call : ParseCall} {payload : Vp8Payload}

theorem next_of_overflows {history : UnitHistory RtpDepacketizerVp8}
    (overflows : history.depacketizer.Overflows call payload) (unmarked : call.marker = false) :
    history.next (.parse call) =
      ⟨{ history.depacketizer with packets := 0, frameType := .emptyFrame, frameLen := 0 },
        history.trace.exceed⟩ := by
  rw [UnitHistory.next, answer_of_overflows overflows, follow_of_some _ overflows.carries,
    followPayload, if_neg overflows.whole, if_pos overflows.tooLarge, unmarked]
  rfl

theorem closedFrame_complete (depacketizer : RtpDepacketizerVp8) (call : ParseCall) :
    ¬ (depacketizer.closedFrame call).Incomplete := by
  rw [MediaFrame.Incomplete, closedFrame]
  split
  next => simp [frameIsSyncPoint, frameIsIncomplete]
  next => simp

theorem answer_of_passes (accepts : depacketizer.Accepts call payload)
    (marked : call.marker = true)
    (passes : depacketizer.keyRequired = false ∨
      (depacketizer.hold payload).frameType = .videoFrameKey) :
    answer depacketizer call =
      { status := .frame
        depacketizer := { depacketizer.hold payload with
          keyRequired := false, packets := 0, frameLen := 0 }
        frame := call.frame.map fun _ => (depacketizer.hold payload).closedFrame call } := by
  rw [answer_of_accepts accepts, finishPacket, if_pos marked, if_neg]
  · rfl
  · exact not_gated passes

/-- What overflowed before the unit ended is not reported by the frame that ends it. -/
theorem tail_unreported {frame : Memory UInt8} {past : List DepacketizerCall}
    {history : UnitHistory RtpDepacketizerVp8}
    (state : UnitHistory.machine.run (.begin (create frame)) past = history)
    (lost : history.trace.unit ∈ history.trace.lost)
    (accepts : history.depacketizer.Accepts call payload) (marked : call.marker = true)
    (out : call.frame.isSome)
    (passes : history.depacketizer.keyRequired = false ∨
      (history.depacketizer.hold payload).frameType = .videoFrameKey) :
    ¬ TruncationIsReported (create frame) (past ++ [.parse call]) := by
  obtain ⟨out, given⟩ := Option.isSome_iff_exists.mp out
  have closed := closedFrame_complete (history.depacketizer.hold payload) call
  have answered := answer_of_passes accepts marked passes
  have followed := follow_of_passes accepts marked passes history.trace
  have delivered : delivery (answer history.depacketizer call) =
      some ((history.depacketizer.hold payload).closedFrame call,
        frameBytes (answer history.depacketizer call)
          ((history.depacketizer.hold payload).closedFrame call)) := by
    rw [answered, given]
    rfl
  have ends : (history.next (.parse call)).trace =
      (history.trace.close ((history.depacketizer.hold payload).closedFrame call)
        (history.trace.frame ++ history.trace.bytesOfUnit payload.bytes.length) []).endPacket
          true := by
    rw [UnitHistory.next, followed, marked]
  have within : history.trace.unit ∈
      history.trace.frame ++ history.trace.bytesOfUnit payload.bytes.length := by
    have nonempty := List.length_pos_of_ne_nil (Vp8Payload.bytes_ne_nil accepts.carries)
    exact List.mem_append_right _ (List.mem_replicate.mpr ⟨Nat.ne_of_gt nonempty, rfl⟩)
  exact not_truncationIsReported state delivered (by rw [ends]; rfl) within
    (by rw [ends]; exact lost) closed

/-- The rest of a unit that has overflowed is delivered as if it were whole. -/
theorem overflow_unreported {frame : Memory UInt8} {past : List DepacketizerCall}
    {history : UnitHistory RtpDepacketizerVp8}
    (state : UnitHistory.machine.run (.begin (create frame)) past = history)
    (overflows : history.depacketizer.Overflows call payload) (unmarked : call.marker = false)
    {tail : ParseCall} {rest : Vp8Payload} (carries : Vp8Payload.ofCall tail = some rest)
    (whole : ¬ rest.ShortKeyFrame) (fits : rest.bytes.length ≤ maxEsFrameSize)
    (marked : tail.marker = true) (out : tail.frame.isSome)
    (passes : history.depacketizer.keyRequired = false ∨ rest.BeginsKeyFrame) :
    ¬ TruncationIsReported (create frame) ((past ++ [.parse call]) ++ [.parse tail]) := by
  -- behind the overflow the buffer is empty, and the unit goes on
  have emptied : UnitHistory.machine.run (.begin (create frame)) (past ++ [.parse call]) =
      ⟨{ history.depacketizer with packets := 0, frameType := .emptyFrame, frameLen := 0 },
        history.trace.exceed⟩ := by
    rw [Machine.run_append, state]
    exact next_of_overflows overflows unmarked
  refine tail_unreported emptied List.mem_cons_self ⟨carries, whole, by simpa using fits⟩ marked out
    ?_
  rcases passes with notRequired | begins
  · exact .inl notRequired
  · have first := ((Vp8Payload.beginsKeyFrame_iff rest).mp begins).1
    exact .inr ((hold_frameType_of_first _ first).trans begins)

/-- A key frame in a single packet, which ends whatever unit is open. -/
def closingKeyFrame : ParseCall := .ofPayload (0x10 :: List.replicate 10 0) true 0 100

/-- However the calls are broken off, truncation is reported when a packet ends the unit, exactly
where no packet hits the size limit while its unit goes on. -/
theorem truncatesLastOnly_iff (frame : Memory UInt8) (calls : List DepacketizerCall) :
    (machine _).Guarded TruncatesLastOnly (create frame) calls ↔
      ∀ past, past <+: calls →
        TruncationIsReported (create frame) (past ++ [.parse closingKeyFrame]) := by
  have carries : Vp8Payload.ofCall closingKeyFrame = some ⟨true, List.replicate 10 0⟩ := by
    decide +kernel
  constructor
  · rintro limit past ⟨after, rfl⟩
    refine truncationIsReported frame (((machine _).guarded_append ..).mpr ?_)
    exact ⟨(((machine _).guarded_append ..).mp limit).1, fun _ _ _ _ => rfl, trivial⟩
  · intro reported
    rw [Machine.guarded_iff]
    rintro past input after rfl
    cases input with
    | setSyncPoint => trivial
    | parse call =>
      intro payload carried whole tooLarge
      by_contra unmarked
      have overflows : (UnitHistory.machine.run (.begin (create frame))
          past).depacketizer.Overflows call payload := by
        rw [UnitHistory.run_begin]
        exact ⟨carried, whole, tooLarge⟩
      refine overflow_unreported rfl overflows (Bool.eq_false_iff.mpr unmarked) carries
        (by decide +kernel) (by decide) rfl rfl (.inr (by decide +kernel)) ?_
      exact reported (past ++ [.parse call]) ⟨after, by simp⟩

/-! ### A frame that is too large -/

/-- No key frame is required and `length` bytes are in `m_frame`. -/
structure Filled (depacketizer : RtpDepacketizerVp8) (length : Nat) : Prop where
  keyRequired : depacketizer.keyRequired = false
  frameLen : depacketizer.frameLen = length

/-- A packet meets the condition where it fits the frame, or ends the unit. -/
theorem Filled.truncatesLastOnly {length : Nat} (filled : Filled depacketizer length)
    {packet : Vp8Packet} (carries : call.payload = packet.bytes)
    (room : length + packet.piece.length ≤ maxEsFrameSize ∨ call.marker = true) :
    depacketizer.TruncatesLastOnly (.parse call) := by
  intro payload carried whole tooLarge
  refine room.resolve_left fun fits => ?_
  rw [ofCall_of_carries carries, Option.some_inj] at carried
  subst carried
  rw [filled.frameLen] at tooLarge
  exact Nat.not_le.mpr tooLarge fits

theorem Filled.next {length : Nat} (filled : Filled depacketizer length) {packet : Vp8Packet}
    (carries : call.payload = packet.bytes) (whole : ¬ packet.payload.ShortKeyFrame)
    (fits : length + packet.piece.length ≤ maxEsFrameSize) (unmarked : call.marker = false) :
    Filled (answer depacketizer call).depacketizer (length + packet.piece.length) := by
  have accepts : depacketizer.Accepts call packet.payload :=
    ⟨ofCall_of_carries carries, whole, by rw [filled.frameLen]; exact fits⟩
  have answered : answer depacketizer call =
      ⟨.needMore, depacketizer.hold packet.payload, call.frame⟩ := by
    rw [answer_of_accepts accepts, finishPacket, if_neg (Bool.eq_false_iff.mp unmarked)]
  rw [answered]
  exact ⟨filled.keyRequired, congrArg (· + packet.piece.length) filled.frameLen⟩

/-- A packet of a delta frame, the first one where `beginsFrame` is set. -/
def deltaPacket (beginsFrame : Bool) (rest : Nat) : Vp8Packet where
  descriptor := .short beginsFrame
  piece := 1 :: List.replicate rest 0
  nonempty := List.cons_ne_nil _ _

def parseDelta (beginsFrame : Bool) (rest : Nat) (marker : Bool) : ParseCall :=
  .ofPayload (deltaPacket beginsFrame rest).bytes marker 3000 100

theorem carries_parseDelta (beginsFrame : Bool) (rest : Nat) (marker : Bool) :
    (parseDelta beginsFrame rest marker).payload = (deltaPacket beginsFrame rest).bytes :=
  ParseCall.payload_ofPayload ..

theorem deltaPacket_length (beginsFrame : Bool) (rest : Nat) :
    (deltaPacket beginsFrame rest).piece.length = rest + 1 := by
  rw [deltaPacket, List.length_cons, List.length_replicate]

theorem deltaPacket_whole (beginsFrame : Bool) (rest : Nat) :
    ¬ (deltaPacket beginsFrame rest).payload.ShortKeyFrame := by
  rintro ⟨begins, -⟩
  exact absurd ((Vp8Payload.beginsKeyFrame_iff _).mp begins).2 (by simp [deltaPacket, bit])

theorem Filled.next_delta {length : Nat} (filled : Filled depacketizer length) (beginsFrame : Bool)
    (rest : Nat) (fits : length + (rest + 1) ≤ maxEsFrameSize) :
    depacketizer.TruncatesLastOnly (.parse (parseDelta beginsFrame rest false)) ∧
      Filled (answer depacketizer (parseDelta beginsFrame rest false)).depacketizer
        (length + (rest + 1)) := by
  rw [← deltaPacket_length beginsFrame rest] at fits ⊢
  exact ⟨filled.truncatesLastOnly (carries_parseDelta ..) (.inl fits),
    filled.next (carries_parseDelta ..) (deltaPacket_whole _ _) fits rfl⟩

theorem Filled.run_delta {length : Nat} (filled : Filled depacketizer length) (rest count : Nat)
    (fits : length + (rest + 1) * count ≤ maxEsFrameSize) :
    (machine _).Guarded TruncatesLastOnly depacketizer
        (List.replicate count (.parse (parseDelta false rest false))) ∧
      Filled ((machine _).run depacketizer
        (List.replicate count (.parse (parseDelta false rest false))))
        (length + (rest + 1) * count) := by
  have steps : ∀ past < count, ∀ depacketizer : RtpDepacketizerVp8,
      Filled depacketizer (length + (rest + 1) * past) →
      depacketizer.TruncatesLastOnly (.parse (parseDelta false rest false)) ∧
        Filled (answer depacketizer (parseDelta false rest false)).depacketizer
          (length + (rest + 1) * (past + 1)) := by
    intro past less depacketizer filled
    have more : (rest + 1) * (past + 1) ≤ (rest + 1) * count := Nat.mul_le_mul_left _ less
    rw [Nat.mul_succ] at more ⊢
    rw [← Nat.add_assoc]
    exact filled.next_delta false rest (by omega)
  have starts : Filled depacketizer (length + (rest + 1) * 0) := filled
  exact (machine _).run_replicate steps starts

/-- The packets of a delta frame whose last packet is missing. -/
def parseDeltas (rest count : Nat) : List DepacketizerCall :=
  .parse (parseDelta true rest false) ::
    List.replicate count (.parse (parseDelta false rest false))

theorem Filled.run_deltas (filled : Filled depacketizer 0) (rest count : Nat)
    (fits : (rest + 1) + (rest + 1) * count ≤ maxEsFrameSize) :
    (machine _).Guarded TruncatesLastOnly depacketizer (parseDeltas rest count) ∧
      Filled ((machine _).run depacketizer (parseDeltas rest count))
        ((rest + 1) + (rest + 1) * count) := by
  obtain ⟨begins, begun⟩ := filled.next_delta true rest (by omega)
  rw [Nat.zero_add] at begun
  obtain ⟨guarded, kept⟩ := begun.run_delta rest count fits
  exact ⟨⟨begins, guarded⟩, kept⟩

/-- A key frame, and the first 960000 bytes of a delta frame. -/
def oversizedStart : List DepacketizerCall := [.parse closingKeyFrame] ++ parseDeltas 63999 14

theorem run_oversizedStart :
    (machine _).Guarded TruncatesLastOnly (create fun _ => 0) oversizedStart ∧
      Filled ((machine _).run (create fun _ => 0) oversizedStart) 960000 := by
  have opened : Filled ((machine _).run (create fun _ => 0) [.parse closingKeyFrame]) 0 :=
    ⟨by decide +kernel, by decide +kernel⟩
  obtain ⟨guarded, filled⟩ := opened.run_deltas 63999 14 (by decide)
  rw [oversizedStart, Machine.guarded_append, Machine.run_append]
  exact ⟨⟨by decide +kernel, guarded⟩, filled⟩

theorem Filled.overflows {length : Nat} (filled : Filled depacketizer length) (rest : Nat)
    (marker : Bool) (full : maxEsFrameSize < length + (rest + 1)) :
    depacketizer.Overflows (parseDelta false rest marker) (deltaPacket false rest).payload := by
  refine ⟨ofCall_of_carries (carries_parseDelta ..), deltaPacket_whole _ _, ?_⟩
  rwa [filled.frameLen, Vp8Packet.payload_bytes, deltaPacket_length]

/-- What a unit ends with may be lost. -/
theorem run_lastDelta {past : List DepacketizerCall} {length rest : Nat}
    (guarded : (machine _).Guarded TruncatesLastOnly depacketizer past)
    (filled : Filled ((machine _).run depacketizer past) length)
    (full : maxEsFrameSize < length + (rest + 1)) :
    (machine _).Guarded TruncatesLastOnly depacketizer
        (past ++ [.parse (parseDelta false rest true)]) ∧
      ((machine _).run depacketizer past).Overflows (parseDelta false rest true)
        (deltaPacket false rest).payload := by
  have last := filled.truncatesLastOnly (carries_parseDelta false rest true) (.inr rfl)
  exact ⟨(Machine.guarded_append ..).mpr ⟨guarded, last, trivial⟩, filled.overflows rest true full⟩

/-- A delta frame whose last packet does not fit. -/
def largeFrame : List DepacketizerCall := oversizedStart ++ [.parse (parseDelta false 63999 true)]

/-- The packet and the frame before it are lost. -/
def LargeFrameOverflows : Prop :=
  ((machine _).run (create fun _ => 0) oversizedStart).Overflows (parseDelta false 63999 true)
    (deltaPacket false 63999).payload

theorem run_largeFrame :
    (machine _).Guarded TruncatesLastOnly (create fun _ => 0) largeFrame ∧
      LargeFrameOverflows := by
  obtain ⟨guarded, filled⟩ := run_oversizedStart
  exact run_lastDelta guarded filled (by decide)

end RtpDepacketizerVp8

/-! ## Both depacketizers -/

namespace RtpDepacketizer

/-- In every run of either depacketizer, truncation is reported where no packet costs its unit bytes
while the unit goes on.  A unit that goes on behind a loss ends unreported: for VP8 this makes the
condition exact, however the calls are broken off, and an H.264 unit has to end in a NAL unit of a
packet of its own. -/
theorem truncation_is_reported (nalu frame : Memory UInt8) (calls : List DepacketizerCall) :
    (UnitHistory.machine.Guarded RtpDepacketizerH264.TruncatesLastOnly
        (.begin (RtpDepacketizerH264.create nalu frame)) calls →
      TruncationIsReported (RtpDepacketizerH264.create nalu frame) calls) ∧
    ((machine RtpDepacketizerVp8).Guarded RtpDepacketizerVp8.TruncatesLastOnly
        (RtpDepacketizerVp8.create frame) calls →
      TruncationIsReported (RtpDepacketizerVp8.create frame) calls) ∧
    (∀ past call, RtpDepacketizerH264.EndsLossyUnit
        (UnitHistory.machine.run (.begin (RtpDepacketizerH264.create nalu frame)) past) call →
      ¬ TruncationIsReported (RtpDepacketizerH264.create nalu frame) (past ++ [.parse call])) ∧
    ((machine RtpDepacketizerVp8).Guarded RtpDepacketizerVp8.TruncatesLastOnly
        (RtpDepacketizerVp8.create frame) calls ↔
      ∀ past, past <+: calls → TruncationIsReported (RtpDepacketizerVp8.create frame)
        (past ++ [.parse RtpDepacketizerVp8.closingKeyFrame])) :=
  ⟨RtpDepacketizerH264.truncationIsReported nalu frame,
    RtpDepacketizerVp8.truncationIsReported frame,
    fun _ _ ends => RtpDepacketizerH264.tail_unreported ends,
    RtpDepacketizerVp8.truncatesLastOnly_iff frame calls⟩

/-- The last packet of an H.264 unit does not fit and is cut off, and that of a VP8 frame does not
fit and takes the frame with it. -/
theorem truncation_is_reported_sample :
    (TruncationIsReported (RtpDepacketizerH264.create (fun _ => 0) fun _ => 0)
        RtpDepacketizerH264.largeUnit ∧ RtpDepacketizerH264.LargeUnitIncomplete) ∧
      TruncationIsReported (RtpDepacketizerVp8.create fun _ => 0) RtpDepacketizerVp8.largeFrame ∧
        RtpDepacketizerVp8.LargeFrameOverflows := by
  obtain ⟨slices, incomplete⟩ := RtpDepacketizerH264.run_largeUnit
  obtain ⟨packets, overflows⟩ := RtpDepacketizerVp8.run_largeFrame
  exact ⟨⟨(truncation_is_reported _ _ _).1 slices, incomplete⟩,
    (truncation_is_reported (fun _ => 0) _ _).2.1 packets, overflows⟩

end RtpDepacketizer

/-! ## The rest of a frame that is too large -/

namespace RtpDepacketizerVp8

/-- The rest of the delta frame: one packet too many, and the last byte. -/
def oversizedFrame : List DepacketizerCall :=
  (oversizedStart ++ [.parse (parseDelta false 63999 false)]) ++ [.parse (parseDelta false 0 true)]

/-- The last byte of the delta frame is delivered as if it were a whole frame. -/
theorem oversizedFrame_unreported :
    ¬ TruncationIsReported (create fun _ => 0) oversizedFrame := by
  have filled := run_oversizedStart.2
  rw [← UnitHistory.run_begin] at filled
  generalize state : UnitHistory.machine.run (.begin (create fun _ => 0)) oversizedStart = history
    at filled
  have overflows := filled.overflows 63999 false (by decide)
  exact overflow_unreported state overflows rfl (ofCall_of_carries (carries_parseDelta ..))
    (deltaPacket_whole _ _) (by decide) rfl rfl (.inl filled.keyRequired)

end RtpDepacketizerVp8

end RtpPlayer
