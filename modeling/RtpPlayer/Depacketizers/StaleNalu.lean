import RtpPlayer.Foundations.Octets
import RtpPlayer.Depacketizers.NaluOperations

/-! # What an unfinished NALU leaves behind

Two depacketizers that differ in `m_nalu` only, fed with the same packet that begins a new NALU.
Nothing empties `m_nalu` there, so they stay alike exactly where nothing is unfinished and the byte
an empty STAP-A entry is classified by means the same to the gate. -/

namespace RtpPlayer

open Foundations
open RtpDepacketizer

namespace RtpDepacketizerH264

open NaluOperation (startcode wholeNalu)

/-! ## Depacketizers that differ in `m_nalu` -/

/-- The packet begins a new NALU: a single NAL unit, a STAP-A or an FU-A packet with S = 1. -/
def BeginsNalu : List UInt8 → Prop
  | [] => False
  | first :: rest =>
    (1 ≤ packetType first ∧ packetType first ≤ 12) ∨ packetType first = 24 ∨
      packetType first = 28 ∧ ∃ header ∈ rest.head?, header &&& 0x80 > 0

/-- The depacketizers differ in `m_nalu` and `m_nalu_len` only. -/
structure SameButNalu (first second : RtpDepacketizerH264) : Prop where
  sentries : first.sentries = second.sentries
  frame : first.frame = second.frame
  frameLen : first.frameLen = second.frameLen
  packets : first.packets = second.packets

/-- The calls return the same status and the same frame, have put the same bytes in `m_frame`, and
leave the same bytes of a NALU that goes on. -/
structure SameOutcome (first second : ParseResult RtpDepacketizerH264) : Prop where
  status : first.status = second.status
  frame : first.frame = second.frame
  frameBuffer : first.depacketizer.frame = second.depacketizer.frame
  frameLen : first.depacketizer.frameLen = second.depacketizer.frameLen
  pending : first.depacketizer.nalu.slice 0 first.depacketizer.naluLen =
    second.depacketizer.nalu.slice 0 second.depacketizer.naluLen

/-- Every packet that begins a new NALU does the same to both. -/
def Uncontaminated (first second : RtpDepacketizerH264) : Prop :=
  ∀ call, BeginsNalu call.payload → SameOutcome (answer first call) (answer second call)

/-- What a NALU of this type brings about: the sentries it leaves and whether it marks a sync point,
or nothing where the gate refuses it. -/
def Sentries.verdict (sentries : Sentries) (naluType : UInt8) : Option (Sentries × Bool) :=
  if (sentries.gate naluType).1 then
    some ((sentries.gate naluType).2, naluType = idrType)
  else none

/-! ## Runs that stay alike -/

/-- The depacketizers differ behind the end of the current NALU only, and the gate makes the same of
the byte it would classify the NALU by. -/
structure Alike (first second : RtpDepacketizerH264) : Prop where
  same : SameButNalu first second
  naluLen : first.naluLen = second.naluLen
  nalu : first.nalu.slice 0 first.naluLen = second.nalu.slice 0 first.naluLen
  verdict : first.sentries.verdict first.naluType = second.sentries.verdict second.naluType

/-- A NALU of the type the gate has just seen changes nothing any more. -/
theorem Sentries.gate_again (sentries : Sentries) (naluType : UInt8) :
    (sentries.gate naluType).2.gate naluType = sentries.gate naluType := by
  obtain ⟨sps, pps, idr⟩ := sentries
  revert naluType
  apply forall_octet
  revert sps pps idr
  decide +kernel

theorem Sentries.verdict_gate (sentries : Sentries) (naluType : UInt8) :
    (sentries.gate naluType).2.verdict naluType = sentries.verdict naluType := by
  rw [verdict, gate_again, verdict]

theorem Sentries.gate_of_verdict {sentries : Sentries} {first second : UInt8}
    (same : sentries.verdict first = sentries.verdict second) :
    sentries.gate first = sentries.gate second ∧
      ((sentries.gate first).1 = true → (first = idrType ↔ second = idrType)) := by
  unfold verdict at same
  cases admitsFirst : (sentries.gate first).1 <;> cases admitsSecond : (sentries.gate second).1
  · refine ⟨Prod.ext (admitsFirst.trans admitsSecond.symm) ?_, nofun⟩
    rw [gate_rejected admitsFirst, gate_rejected admitsSecond]
  · simp [admitsFirst, admitsSecond] at same
  · simp [admitsFirst, admitsSecond] at same
  · simp only [admitsFirst, admitsSecond, if_true, Option.some.injEq, Prod.mk.injEq,
      decide_eq_decide] at same
    exact ⟨Prod.ext (admitsFirst.trans admitsSecond.symm) same.1, fun _ => same.2⟩

variable {first second : RtpDepacketizerH264}

theorem Alike.append (alike : Alike first second) (bytes : List UInt8) :
    Script.Agree Alike (first.append bytes) (second.append bytes) := by
  by_cases fits : first.naluLen + bytes.length ≤ maxEsFrameSize
  · rw [append_of_le fits, append_of_le (alike.naluLen ▸ fits)]
    have nalu : (first.pushNalu bytes).nalu.slice 0 (first.naluLen + bytes.length) =
        (second.pushNalu bytes).nalu.slice 0 (first.naluLen + bytes.length) := by
      rw [pushNalu, pushNalu, ← alike.naluLen, Memory.slice_write_append,
        Memory.slice_write_append, alike.nalu]
    refine ⟨⟨alike.same.sentries, alike.same.frame, alike.same.frameLen, alike.same.packets⟩,
      congrArg (· + bytes.length) alike.naluLen, nalu, ?_⟩
    -- the byte that gives the type is a new one, the same in both, or an old one in both
    by_cases header : startcodeLength < first.naluLen + bytes.length
    · have sameType : (first.pushNalu bytes).naluType = (second.pushNalu bytes).naluType :=
        congrArg packetType (Memory.apply_of_slice_eq nalu header)
      rw [sameType]
      exact congrArg (Sentries.verdict · _) alike.same.sentries
    · have kept : (first.pushNalu bytes).naluType = first.naluType :=
        congrArg packetType (Memory.write_apply_after (Nat.not_lt.mp header))
      have kept' : (second.pushNalu bytes).naluType = second.naluType :=
        congrArg packetType (Memory.write_apply_after (alike.naluLen ▸ Nat.not_lt.mp header))
      rw [kept, kept']
      exact alike.verdict
  · have tooLarge := Nat.lt_of_not_le fits
    rw [append_of_lt tooLarge, append_of_lt (alike.naluLen ▸ tooLarge)]
    exact ⟨⟨alike.same.sentries, alike.same.frame, rfl, rfl⟩, rfl, rfl, alike.verdict⟩

theorem Alike.stored (alike : Alike first second) :
    first.storedLen = second.storedLen ∧
      first.nalu.slice 0 first.storedLen = second.nalu.slice 0 second.storedLen := by
  have length : first.storedLen = second.storedLen := by
    rw [storedLen, storedLen, alike.naluLen, alike.same.frameLen]
  have within : first.storedLen ≤ first.naluLen := Nat.min_le_left ..
  have bytes := congrArg (List.take first.storedLen) alike.nalu
  rw [Memory.take_slice within, Memory.take_slice within] at bytes
  exact ⟨length, length ▸ bytes⟩

theorem Alike.gate (alike : Alike first second) :
    first.sentries.gate first.naluType = second.sentries.gate second.naluType ∧
      ((first.sentries.gate first.naluType).1 = true →
        (first.naluType = idrType ↔ second.naluType = idrType)) := by
  have verdict := alike.verdict
  rw [← alike.same.sentries] at verdict ⊢
  exact Sentries.gate_of_verdict verdict

theorem Alike.store (alike : Alike first second) : Alike first.store second.store := by
  obtain ⟨length, bytes⟩ := alike.stored
  have verdict : (first.sentries.gate first.naluType).2.verdict first.naluType =
      (second.sentries.gate second.naluType).2.verdict second.naluType := by
    rw [Sentries.verdict_gate, Sentries.verdict_gate, alike.verdict]
  rw [store_eq, store_eq]
  exact {
    same := {
      sentries := congrArg Prod.snd alike.gate.1
      frame := by dsimp only; rw [alike.same.frame, alike.same.frameLen, bytes]
      frameLen := by dsimp only; rw [alike.same.frameLen, length]
      packets := alike.same.packets }
    naluLen := rfl
    nalu := rfl
    verdict := verdict }

theorem Alike.decNalu (alike : Alike first second) (last : Bool) (call : ParseCall)
    (frame : Option MediaFrame) :
    (first.decNalu last call frame).status = (second.decNalu last call frame).status ∧
      (first.decNalu last call frame).frame = (second.decNalu last call frame).frame ∧
      Alike (first.decNalu last call frame).depacketizer
        (second.decNalu last call frame).depacketizer := by
  obtain ⟨gate, idr⟩ := alike.gate
  by_cases empty : first.naluLen = 0
  · rw [decNalu_of_empty _ _ _ empty, decNalu_of_empty _ _ _ (alike.naluLen ▸ empty)]
    exact ⟨rfl, rfl, alike⟩
  have occupied : second.naluLen ≠ 0 := alike.naluLen ▸ empty
  -- the gate treats both alike, and so does the size limit
  cases admitted : (first.sentries.gate first.naluType).1 with
  | false =>
    rw [decNalu_of_rejected _ _ _ empty (by rw [checkSentries_fst, admitted]),
      decNalu_of_rejected _ _ _ occupied (by rw [checkSentries_fst, ← gate, admitted])]
    exact ⟨rfl, rfl, ⟨alike.same.sentries, alike.same.frame, alike.same.frameLen,
      alike.same.packets⟩, rfl, rfl, alike.verdict⟩
  | true =>
    have closes : first.closes last = second.closes last := by
      rw [RtpDepacketizerH264.closes, RtpDepacketizerH264.closes, alike.naluLen,
        alike.same.frameLen]
    cases closing : first.closes last with
    | false =>
      rw [decNalu_of_stored _ _ _ empty (by rw [checkSentries_fst, admitted]) closing,
        decNalu_of_stored _ _ _ occupied (by rw [checkSentries_fst, ← gate, admitted])
          (closes ▸ closing)]
      exact ⟨rfl, rfl, alike.store⟩
    | true =>
      have flags : first.closingFlags = second.closingFlags := by
        simp only [closingFlags, alike.naluLen, alike.same.frameLen, idr admitted]
      have stored := alike.store
      rw [decNalu_of_closing _ _ _ empty (by rw [checkSentries_fst, admitted]) closing,
        decNalu_of_closing _ _ _ occupied (by rw [checkSentries_fst, ← gate, admitted])
          (closes ▸ closing)]
      refine ⟨rfl, ?_, ⟨stored.same.sentries, stored.same.frame, rfl, rfl⟩, rfl, rfl,
        stored.verdict⟩
      rw [stored.same.frameLen, flags, alike.same.packets]

structure AlikeResults (first second : ParseResult RtpDepacketizerH264) : Prop where
  status : first.status = second.status
  frame : first.frame = second.frame
  alike : Alike first.depacketizer second.depacketizer

theorem AlikeResults.perform {first second : ParseResult RtpDepacketizerH264}
    (results : AlikeResults first second) (call : ParseCall) (operation : NaluOperation) :
    Script.Agree AlikeResults (perform call operation first) (perform call operation second) := by
  have failed : ∀ {depacketizer depacketizer' : RtpDepacketizerH264},
      Alike depacketizer depacketizer' →
      AlikeResults (fail depacketizer first.frame) (fail depacketizer' second.frame) := by
    intro depacketizer depacketizer' alike
    exact ⟨rfl, results.frame, ⟨alike.same.sentries, alike.same.frame, alike.same.frameLen,
      alike.same.packets⟩, rfl, rfl, alike.verdict⟩
  cases operation with
  | fail => exact failed results.alike
  | decode last =>
    obtain ⟨status, frame, alike⟩ := results.alike.decNalu last call first.frame
    simp only [RtpDepacketizerH264.perform, ← results.frame]
    exact ⟨status, frame, alike⟩
  | append part bytes =>
    have appended := results.alike.append bytes
    simp only [RtpDepacketizerH264.perform]
    generalize first.depacketizer.append bytes = outcome at appended
    generalize second.depacketizer.append bytes = outcome' at appended
    cases outcome with
    | ok next =>
      cases outcome' with
      | ok next' => exact ⟨results.status, results.frame, appended⟩
      | error final' => exact appended.elim
    | error final =>
      cases outcome' with
      | ok next' => exact appended.elim
      | error final' => exact failed appended

theorem Alike.answer (alike : Alike first second) (call : ParseCall) :
    AlikeResults (answer first call) (answer second call) := by
  by_cases empty : call.payload = []
  · rw [answer_of_empty first empty, answer_of_empty second empty]
    exact ⟨rfl, rfl, alike⟩
  · rw [answer_eq first empty, answer_eq second empty]
    refine Script.execute_related AlikeResults
      (fun operation _ _ results => results.perform call operation) _ ?_
    exact ⟨rfl, rfl, ⟨alike.same.sentries, alike.same.frame, alike.same.frameLen,
      congrArg (· + 1) alike.same.packets⟩, alike.naluLen, alike.nalu, alike.verdict⟩

/-! ## Packets that tell depacketizers apart -/

def singleProbe (header : UInt8) : ParseCall := .ofPayload [header] true 0 0

/-- A STAP-A packet of an empty entry and one or two entries of one byte. -/
def stapAProbe (headers : List UInt8) : ParseCall :=
  .ofPayload ([24, 0, 0] ++ headers.flatMap fun header => [0, 1, header]) true 0 0

theorem closingFlags_idr (flags : first.closingFlags = second.closingFlags) :
    first.naluType = idrType ↔ second.naluType = idrType := by
  unfold closingFlags at flags
  by_cases idr : first.naluType = idrType <;> by_cases idr' : second.naluType = idrType <;>
    simp only [idr, idr', if_true, if_false] at flags ⊢ <;> revert flags <;> split_ifs <;> decide

theorem naluType_of_header {depacketizer : RtpDepacketizerH264} (nothing : depacketizer.naluLen = 0)
    (header : UInt8) (body : List UInt8) :
    (depacketizer.pushNalu (startcode ++ header :: body)).naluType = packetType header := by
  have inside : startcodeLength < (startcode ++ header :: body).length := by
    simp [startcode, startcodeLength]
  have cell : depacketizer.nalu.write 0 (startcode ++ header :: body) (0 + startcodeLength) =
      header :=
    Memory.write_apply_inside inside
  rw [Nat.zero_add] at cell
  rw [naluType, pushNalu, nothing]
  exact congrArg packetType cell

/-- Nothing but a start code leaves the type to what was in `m_nalu` before. -/
theorem naluType_of_startcode {depacketizer : RtpDepacketizerH264}
    (nothing : depacketizer.naluLen = 0) :
    (depacketizer.pushNalu startcode).naluType = depacketizer.naluType :=
  congrArg packetType (Memory.write_apply_after (by rw [nothing]; decide))

/-- On top of an unfinished NALU the header comes too late to give the type. -/
theorem naluType_of_unfinished {depacketizer : RtpDepacketizerH264}
    (unfinished : depacketizer.naluLen ≠ 0) (nalu : List UInt8) :
    (depacketizer.pushNalu (startcode ++ nalu)).naluType =
      (depacketizer.pushNalu startcode).naluType := by
  rw [← pushNalu_pushNalu]
  refine congrArg packetType (Memory.write_apply_before nalu ?_)
  have length : startcode.length = startcodeLength := rfl
  rw [pushNalu]
  dsimp only
  omega

theorem pushNalu_occupied (depacketizer : RtpDepacketizerH264) (nalu : List UInt8) :
    (depacketizer.pushNalu (startcode ++ nalu)).naluLen ≠ 0 := by
  have length : startcode.length = startcodeLength := rfl
  rw [pushNalu, List.length_append, length]
  dsimp only [startcodeLength]
  omega

theorem pushNalu_sentries (depacketizer : RtpDepacketizerH264) (bytes : List UInt8) :
    (depacketizer.pushNalu bytes).sentries = depacketizer.sentries := rfl

section Probes

variable {depacketizer : RtpDepacketizerH264} {header : UInt8}

theorem ofPacket_singleProbe (typed : 1 ≤ packetType header ∧ packetType header ≤ 12) :
    NaluOperation.ofPacket (singleProbe header).payload (singleProbe header).marker =
      wholeNalu [header] true := by
  rw [singleProbe, ParseCall.payload_ofPayload]
  exact if_pos typed

theorem answer_singleProbe (typed : 1 ≤ packetType header ∧ packetType header ≤ 12)
    (fits : depacketizer.naluLen + 5 ≤ maxEsFrameSize) :
    answer depacketizer (singleProbe header) =
      ((depacketizer.beginPacket (singleProbe header)).depacketizer.pushNalu
        (startcode ++ [header])).decNalu true (singleProbe header) (singleProbe header).frame := by
  have start : (depacketizer.beginPacket (singleProbe header)).depacketizer.append startcode =
      .ok ((depacketizer.beginPacket (singleProbe header)).depacketizer.pushNalu startcode) :=
    append_of_le (Nat.le_trans (Nat.add_le_add_left (by decide) _) fits)
  have body : ((depacketizer.beginPacket (singleProbe header)).depacketizer.pushNalu
      startcode).append [header] =
      .ok (((depacketizer.beginPacket (singleProbe header)).depacketizer.pushNalu
        startcode).pushNalu [header]) :=
    append_of_le fits
  rw [answer_eq _ (by simp [singleProbe]), ofPacket_singleProbe typed, wholeNalu, execute_append,
    start]
  dsimp only
  rw [execute_append, body]
  dsimp only
  rw [execute_decode, pushNalu_pushNalu]
  rfl

theorem answer_singleProbe_error (typed : 1 ≤ packetType header ∧ packetType header ≤ 12)
    (tooLarge : maxEsFrameSize < depacketizer.naluLen + 5) :
    (answer depacketizer (singleProbe header)).status = .error := by
  rw [answer_eq _ (by simp [singleProbe]), ofPacket_singleProbe typed, wholeNalu, execute_append]
  by_cases start : depacketizer.naluLen + 4 ≤ maxEsFrameSize
  · have started : (depacketizer.beginPacket (singleProbe header)).depacketizer.append startcode =
        .ok ((depacketizer.beginPacket (singleProbe header)).depacketizer.pushNalu startcode) :=
      append_of_le start
    have failed : ((depacketizer.beginPacket (singleProbe header)).depacketizer.pushNalu
        startcode).append [header] = .error _ :=
      append_of_lt tooLarge
    rw [started]
    dsimp only
    rw [execute_append, failed]
    rfl
  · rw [append_of_lt (Nat.lt_of_not_le start)]
    rfl

theorem singleProbe_status (typed : 1 ≤ packetType header ∧ packetType header ≤ 12)
    (fits : depacketizer.naluLen + 5 ≤ maxEsFrameSize) :
    (answer depacketizer (singleProbe header)).status =
      if (depacketizer.sentries.gate
        (depacketizer.pushNalu (startcode ++ [header])).naluType).1 then .frame else .needMore := by
  rw [answer_singleProbe typed fits]
  exact decNalu_last_status _ _ (by rw [pushNalu]; simp)

theorem singleProbe_flags (typed : 1 ≤ packetType header ∧ packetType header ≤ 12)
    (fits : depacketizer.naluLen + 5 ≤ maxEsFrameSize)
    (passes : (depacketizer.sentries.gate
      (depacketizer.pushNalu (startcode ++ [header])).naluType).1 = true) :
    (answer depacketizer (singleProbe header)).frame.map MediaFrame.flags =
      some (depacketizer.pushNalu (startcode ++ [header])).closingFlags := by
  rw [answer_singleProbe typed fits, decNalu_of_closing _ _ _ (by rw [pushNalu]; simp)
    (by rw [checkSentries_fst]; exact passes) rfl]
  rfl

theorem ofPacket_stapAProbe_pair (header : UInt8) :
    NaluOperation.ofPacket (stapAProbe [header, 5]).payload true =
      wholeNalu [] false ++ (wholeNalu [header] false ++ (wholeNalu [5] true ++ [])) := by
  rw [stapAProbe, ParseCall.payload_ofPayload]
  revert header
  exact forall_octet (by decide +kernel)

/-- An empty entry alone goes by the byte left in `m_nalu`. -/
theorem answer_stapAProbe_nil (nothing : depacketizer.naluLen = 0) :
    answer depacketizer (stapAProbe []) =
      ((depacketizer.beginPacket (stapAProbe [])).depacketizer.pushNalu
        (startcode ++ [])).decNalu true (stapAProbe []) (stapAProbe []).frame := by
  have script : NaluOperation.ofPacket (stapAProbe []).payload (stapAProbe []).marker =
      wholeNalu [] true ++ [] := by
    rw [stapAProbe, ParseCall.payload_ofPayload]
    decide +kernel
  rw [answer_eq _ (by simp [stapAProbe]), script, execute_wholeNalu nothing (by decide)]
  rfl

theorem stapAProbe_nil_status (nothing : depacketizer.naluLen = 0) :
    (answer depacketizer (stapAProbe [])).status =
      if (depacketizer.sentries.gate depacketizer.naluType).1 then .frame else .needMore := by
  rw [answer_stapAProbe_nil nothing, decNalu_last_status _ _ (pushNalu_occupied _ _),
    List.append_nil, ← naluType_of_startcode nothing]
  rfl

theorem stapAProbe_nil_flags (nothing : depacketizer.naluLen = 0)
    (passes : (depacketizer.sentries.gate depacketizer.naluType).1 = true) :
    (answer depacketizer (stapAProbe [])).frame.map MediaFrame.flags =
      some (depacketizer.pushNalu startcode).closingFlags := by
  rw [← naluType_of_startcode nothing] at passes
  rw [answer_stapAProbe_nil nothing, decNalu_of_closing _ _ _ (pushNalu_occupied _ _)
    (by rw [checkSentries_fst]; exact passes) rfl]
  rfl

theorem stapAProbe_status (nothing : depacketizer.naluLen = 0) (header : UInt8) :
    (answer depacketizer (stapAProbe [header, 5])).status =
      if ((((depacketizer.sentries.gate depacketizer.naluType).2.gate
        (packetType header)).2).gate idrType).1 then .frame else .needMore := by
  have script : NaluOperation.ofPacket (stapAProbe [header, 5]).payload
      (stapAProbe [header, 5]).marker =
      wholeNalu [] false ++ (wholeNalu [header] false ++ (wholeNalu [5] true ++ [])) :=
    ofPacket_stapAProbe_pair header
  have small : (startcode ++ [header]).length ≤ maxEsFrameSize :=
    show 5 ≤ maxEsFrameSize by decide
  rw [answer_eq _ (by simp [stapAProbe]), script, execute_wholeNalu nothing (by decide),
    execute_wholeNalu rfl small, execute_wholeNalu rfl (by decide), Script.execute_nil,
    decNalu_last_status _ _ (pushNalu_occupied _ _), naluType_of_header rfl, pushNalu_sentries,
    decNalu_sentries _ _ _ (pushNalu_occupied _ _), naluType_of_header rfl, pushNalu_sentries,
    decNalu_sentries _ _ _ (pushNalu_occupied _ _), List.append_nil]
  have kept : ((depacketizer.beginPacket (stapAProbe [header, 5])).depacketizer.pushNalu
      startcode).naluType = depacketizer.naluType := naluType_of_startcode nothing
  rw [kept]
  rfl

end Probes

theorem Sentries.gate_kinds (sentries : Sentries) (naluType : UInt8) :
    ∃ kind ∈ [spsType, ppsType, idrType, 1],
      sentries.gate naluType = sentries.gate kind ∧ (naluType = idrType ↔ kind = idrType) := by
  by_cases sps : naluType = spsType
  · exact ⟨spsType, by decide, by rw [sps], by rw [sps]⟩
  · by_cases pps : naluType = ppsType
    · exact ⟨ppsType, by decide, by rw [pps], by rw [pps]⟩
    · by_cases idr : naluType = idrType
      · exact ⟨idrType, by decide, by rw [idr], by rw [idr]⟩
      · have slice : (1 : UInt8) ≠ spsType ∧ (1 : UInt8) ≠ ppsType ∧ (1 : UInt8) ≠ idrType := by
          decide
        refine ⟨1, by decide, ?_, iff_of_false idr slice.2.2⟩
        simp only [gate, sps, pps, slice.1, slice.2.1, ne_eq, idr, slice.2.2]

/-- A NALU that is no parameter set and no IDR slice passes only where no sentry is set. -/
theorem Sentries.gate_slice {sentries : Sentries} (passes : (sentries.gate 1).1 = true) :
    sentries = .clear := by
  obtain ⟨sps, pps, idr⟩ := sentries
  revert sps pps idr
  decide

theorem Sentries.verdict_of_probes {sentries : Sentries} {first second : UInt8}
    (passes : (sentries.gate first).1 = (sentries.gate second).1)
    (marked : (sentries.gate first).1 = true → (first = idrType ↔ second = idrType))
    (behindPps : (((sentries.gate first).2.gate ppsType).2.gate idrType).1 =
      (((sentries.gate second).2.gate ppsType).2.gate idrType).1)
    (behindSps : (((sentries.gate first).2.gate spsType).2.gate idrType).1 =
      (((sentries.gate second).2.gate spsType).2.gate idrType).1) :
    sentries.verdict first = sentries.verdict second := by
  obtain ⟨kind, kinds, gate, idr⟩ := sentries.gate_kinds first
  obtain ⟨kind', kinds', gate', idr'⟩ := sentries.gate_kinds second
  simp only [gate, gate', idr, idr'] at passes marked behindPps behindSps
  simp only [verdict, gate, gate', idr, idr']
  obtain ⟨sps, pps, idrSentry⟩ := sentries
  clear gate gate' idr idr'
  simp only [List.mem_cons, List.not_mem_nil, or_false] at kinds kinds'
  -- four kinds of types each, and eight gates
  revert sps pps idrSentry
  rcases kinds with rfl | rfl | rfl | rfl <;> rcases kinds' with rfl | rfl | rfl | rfl <;>
    decide +kernel

theorem statuses_eq {passes passes' : Bool}
    (statuses : (if passes then DepacketizerStatus.frame else .needMore) =
      if passes' then .frame else .needMore) : passes = passes' := by
  cases passes <;> cases passes' <;> first | rfl | cases statuses

/-- The packets see an unfinished NALU. -/
theorem finished_of_sameOutcome (same : SameButNalu first second) (nothing : second.naluLen = 0)
    (outcomes : Uncontaminated first second) : first.naluLen = 0 := by
  by_contra unfinished
  have outcome : ∀ header, 1 ≤ packetType header ∧ packetType header ≤ 12 →
      SameOutcome (answer first (singleProbe header)) (answer second (singleProbe header)) :=
    fun header typed => outcomes (singleProbe header) (by
      rw [singleProbe, ParseCall.payload_ofPayload]
      exact .inl typed)
  have room : second.naluLen + 5 ≤ maxEsFrameSize := by rw [nothing]; decide
  have gateOfSecond : ∀ header, (second.pushNalu (startcode ++ [header])).naluType =
      packetType header := fun header => naluType_of_header nothing header []
  have gateOfFirst : ∀ header, (first.pushNalu (startcode ++ [header])).naluType =
      (first.pushNalu startcode).naluType :=
    fun header => naluType_of_unfinished unfinished [header]
  by_cases fits : first.naluLen + 5 ≤ maxEsFrameSize
  · -- whatever the header, the first takes the NALU to be of the type it has had all along
    have passes : ∀ header, 1 ≤ packetType header ∧ packetType header ≤ 12 →
        (first.sentries.gate (first.pushNalu startcode).naluType).1 =
          (first.sentries.gate (packetType header)).1 := by
      intro header typed
      have status := (outcome header typed).status
      rw [singleProbe_status typed fits, singleProbe_status typed room, gateOfFirst, gateOfSecond,
        ← same.sentries] at status
      exact statuses_eq status
    have parameterSet : (first.sentries.gate (packetType 7)).1 = true := by
      rw [Sentries.gate]
      split_ifs <;> first | rfl | contradiction
    have admitted : (first.sentries.gate (first.pushNalu startcode).naluType).1 = true :=
      (passes 7 (by decide)).trans parameterSet
    have clear : first.sentries = .clear :=
      Sentries.gate_slice ((passes 1 (by decide)).symm.trans admitted)
    -- the gate is open, but the flags still tell an IDR slice from others
    have marked : ∀ header, 1 ≤ packetType header ∧ packetType header ≤ 12 →
        ((first.pushNalu startcode).naluType = idrType ↔ packetType header = idrType) := by
      intro header typed
      have flags := congrArg (Option.map MediaFrame.flags) (outcome header typed).frame
      rw [singleProbe_flags typed fits (by rw [gateOfFirst, admitted]),
        singleProbe_flags typed room (by rw [← same.sentries, clear]; rfl)] at flags
      rw [← gateOfFirst header, ← gateOfSecond header]
      exact closingFlags_idr (Option.some.inj flags)
    have contradictory := (marked 5 (by decide)).symm.trans (marked 1 (by decide))
    revert contradictory
    decide
  · -- no room is left behind the unfinished NALU
    have status := (outcome 7 (by decide)).status
    rw [answer_singleProbe_error (by decide) (Nat.lt_of_not_le fits),
      singleProbe_status (by decide) room] at status
    revert status
    split_ifs <;> simp

/-- The packets see what the gate makes of the byte left in `m_nalu`. -/
theorem verdict_of_sameOutcome (same : SameButNalu first second) (finished : first.naluLen = 0)
    (nothing : second.naluLen = 0)
    (outcomes : Uncontaminated first second) :
    first.sentries.verdict first.naluType = second.sentries.verdict second.naluType := by
  have outcome : ∀ headers,
      SameOutcome (answer first (stapAProbe headers)) (answer second (stapAProbe headers)) :=
    fun headers => outcomes (stapAProbe headers) (by
      rw [stapAProbe, ParseCall.payload_ofPayload]
      exact .inr (.inl (by decide)))
  have passes : (first.sentries.gate first.naluType).1 =
      (first.sentries.gate second.naluType).1 := by
    have status := (outcome []).status
    rw [stapAProbe_nil_status finished, stapAProbe_nil_status nothing, ← same.sentries] at status
    exact statuses_eq status
  have marked : (first.sentries.gate first.naluType).1 = true →
      (first.naluType = idrType ↔ second.naluType = idrType) := by
    intro admitted
    have flags := congrArg (Option.map MediaFrame.flags) (outcome []).frame
    rw [stapAProbe_nil_flags finished admitted, stapAProbe_nil_flags nothing
      (by rw [← same.sentries, ← passes, admitted])] at flags
    rw [← naluType_of_startcode finished, ← naluType_of_startcode nothing]
    exact closingFlags_idr (Option.some.inj flags)
  -- one entry behind the empty one shows the sentries that the empty one has left
  have leaves : ∀ header, (((first.sentries.gate first.naluType).2.gate
      (packetType header)).2.gate idrType).1 =
      (((first.sentries.gate second.naluType).2.gate (packetType header)).2.gate idrType).1 := by
    intro header
    have status := (outcome [header, 5]).status
    rw [stapAProbe_status finished, stapAProbe_status nothing, ← same.sentries] at status
    exact statuses_eq status
  rw [← same.sentries]
  exact Sentries.verdict_of_probes passes marked (leaves 8) (leaves 7)

/-- An unfinished NALU, and the byte an empty entry is classified by, are all that contaminates a
new NALU. -/
theorem newNalu_uncontaminated_iff (first second : RtpDepacketizerH264)
    (same : SameButNalu first second) (nothing : second.naluLen = 0) :
    Uncontaminated first second ↔
      first.naluLen = 0 ∧
        first.sentries.verdict first.naluType = second.sentries.verdict second.naluType := by
  constructor
  · intro outcomes
    have finished := finished_of_sameOutcome same nothing outcomes
    exact ⟨finished, verdict_of_sameOutcome same finished nothing outcomes⟩
  · rintro ⟨finished, verdict⟩ call -
    have alike : Alike first second :=
      ⟨same, finished.trans nothing.symm, by rw [finished]; rfl, verdict⟩
    obtain ⟨status, frame, after⟩ := alike.answer call
    exact ⟨status, frame, after.same.frame, after.same.frameLen, after.naluLen ▸ after.nalu⟩

/-- Without an unfinished NALU, bytes that are nothing to the gate do no harm. -/
theorem newNalu_uncontaminated_finished :
    Uncontaminated (create (fun _ => 9) fun _ => 0) (create (fun _ => 0) fun _ => 0) :=
  (newNalu_uncontaminated_iff (create (fun _ => 9) fun _ => 0) (create (fun _ => 0) fun _ => 0)
    ⟨rfl, rfl, rfl, rfl⟩ rfl).mpr ⟨rfl, by decide⟩

/-- An access unit of parameter sets and an IDR slice, and one packet more. -/
def afterSyncPoint (packet : List UInt8) : RtpDepacketizerH264 :=
  afterPackets (create (fun _ => 0) fun _ => 0)
    [.ofPayload [0x67, 1] false 0 96, .ofPayload [0x68, 2] false 0 96,
      .ofPayload [0x65, 3] true 0 96, .ofPayload packet false 1 96]

/-- The fragment of an IDR slice whose end is lost swallows the slice that comes next; a packet of
an unsupported type in its place leaves nothing. -/
theorem newNalu_contaminated_by_unfinished :
    ¬ ∀ first second, SameButNalu first second → second.naluLen = 0 →
      Uncontaminated first second := by
  intro uncontaminated
  have same : SameButNalu (afterSyncPoint [0x7c, 0x85, 4]) (afterSyncPoint [0x1f]) :=
    ⟨by decide +kernel, rfl, by decide +kernel, by decide +kernel⟩
  have outcome := uncontaminated _ _ same (by decide +kernel)
    (.ofPayload [0x41, 5] true 2 96) (.inl (by decide))
  exact absurd outcome.frame (by decide +kernel)

end RtpDepacketizerH264

end RtpPlayer
