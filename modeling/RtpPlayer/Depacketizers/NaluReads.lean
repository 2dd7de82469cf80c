import RtpPlayer.Depacketizers.NaluSteps

/-! # What the H.264 depacketizer reads of a packet

The two length bytes of a STAP-A entry and the header of an FU-A packet are read before the length
of the packet is looked at.  The reads stay within the packet exactly where these bytes are there,
or a size check has ended the packet before; a malformed STAP-A packet is an error in any case. -/

namespace RtpPlayer

open Foundations
open Foundations.ByteOrder
open RtpDepacketizer

/-! ## The payload of a STAP-A packet -/

def stapAEntryBytes (entry : List UInt8) : List UInt8 :=
  bigEndian16 (UInt16.ofNat entry.length) ++ entry

/-- One or more entries, each a length and as many bytes. -/
def StapAEntries (bytes : List UInt8) : Prop :=
  ∃ entries : List (List UInt8), entries ≠ [] ∧ (∀ entry ∈ entries, entry.length ≤ 65535) ∧
    bytes = entries.flatMap stapAEntryBytes

/-- The length of the first entry. -/
def firstEntryLength : List UInt8 → Nat
  | high :: low :: _ => (ofBigEndian16 high low).toNat
  | _ => 0

/-- Behind some whole entries there are too few bytes for the length that is read there. -/
def CutsLength : List UInt8 → Prop
  | high :: low :: rest =>
    let length := (ofBigEndian16 high low).toNat
    length < rest.length ∧ CutsLength (rest.drop length)
  | _ => True
termination_by bytes => bytes.length
decreasing_by
  simp only [List.length_drop, List.length_cons]
  omega

theorem cutsLength_cons (high low : UInt8) (rest : List UInt8) :
    CutsLength (high :: low :: rest) ↔ (ofBigEndian16 high low).toNat < rest.length ∧
      CutsLength (rest.drop (ofBigEndian16 high low).toNat) := by
  rw [CutsLength]

theorem cutsLength_of_short {bytes : List UInt8} (short : bytes.length < 2) :
    CutsLength bytes := by
  obtain _ | ⟨first, _ | ⟨second, rest⟩⟩ := bytes
  · rw [CutsLength]
    · trivial
    · intro high low rest absurd
      cases absurd
  · rw [CutsLength]
    · trivial
    · intro high low rest absurd
      cases absurd
  · simp only [List.length_cons] at short
    omega

/-- What the length field says, cut off from the bytes behind it, is an entry. -/
theorem stapAEntryBytes_take {high low : UInt8} {rest : List UInt8}
    (fits : (ofBigEndian16 high low).toNat ≤ rest.length) :
    stapAEntryBytes (rest.take (ofBigEndian16 high low).toNat) =
      high :: low :: rest.take (ofBigEndian16 high low).toNat := by
  rw [stapAEntryBytes, List.length_take_of_le fits, UInt16.ofNat_toNat, bigEndian16_ofBigEndian16]
  rfl

theorem StapAEntries.cons {high low : UInt8} {rest : List UInt8}
    (fits : (ofBigEndian16 high low).toNat ≤ rest.length)
    (behind : rest.drop (ofBigEndian16 high low).toNat = [] ∨
      StapAEntries (rest.drop (ofBigEndian16 high low).toNat)) :
    StapAEntries (high :: low :: rest) := by
  have short : (rest.take (ofBigEndian16 high low).toNat).length ≤ 65535 := by
    rw [List.length_take_of_le fits]
    exact Nat.le_of_lt_succ (UInt16.toNat_lt _)
  have split : high :: low :: rest =
      stapAEntryBytes (rest.take (ofBigEndian16 high low).toNat) ++
        rest.drop (ofBigEndian16 high low).toNat := by
    rw [stapAEntryBytes_take fits, List.cons_append, List.cons_append, List.take_append_drop]
  rcases behind with nothing | ⟨entries, -, shortRest, same⟩
  · refine ⟨[rest.take (ofBigEndian16 high low).toNat], List.cons_ne_nil _ _, ?_, ?_⟩
    · simpa using short
    · rw [split, nothing, List.flatMap_singleton, List.append_nil]
  · refine ⟨rest.take (ofBigEndian16 high low).toNat :: entries, List.cons_ne_nil _ _, ?_, ?_⟩
    · exact List.forall_mem_cons.mpr ⟨short, shortRest⟩
    · rw [split, same, List.flatMap_cons]

/-- Of a payload that is not exactly some entries the script ends in a failure. -/
theorem NaluOperation.ofStapA_of_malformed (marker : Bool) {bytes : List UInt8}
    (malformed : ¬ StapAEntries bytes) :
    ∃ earlier, ofStapA marker bytes = earlier ++ [.fail] := by
  induction bytes using ofStapA.induct with
  | case1 high low rest length tooLong =>
    rw [ofStapA, if_pos tooLong]
    exact ⟨[], rfl⟩
  | case2 high low rest length fits ih =>
    have fits : length ≤ rest.length := Nat.not_lt.mp fits
    have more : length < rest.length := by
      refine Nat.lt_of_le_of_ne fits fun whole => malformed (.cons fits (.inl ?_))
      exact List.drop_eq_nil_of_le (Nat.le_of_eq whole.symm)
    obtain ⟨earlier, behind⟩ := ih more fun entries => malformed (.cons fits (.inr entries))
    rw [ofStapA, if_neg (Nat.not_lt.mpr fits), if_pos more, behind, ← List.append_assoc]
    exact ⟨_, rfl⟩
  | case3 bytes short =>
    rw [ofStapA.eq_2 _ _ short]
    exact ⟨[], rfl⟩

namespace RtpDepacketizerH264

theorem answer_of_malformed (depacketizer : RtpDepacketizerH264) {call : ParseCall}
    {indicator : UInt8} {bytes : List UInt8} (carries : call.payload = indicator :: bytes)
    (typed : packetType indicator = 24) (malformed : ¬ StapAEntries bytes) :
    (answer depacketizer call).status = .error := by
  have script : NaluOperation.ofPacket call.payload call.marker =
      NaluOperation.ofStapA call.marker bytes := by
    rw [carries, NaluOperation.ofPacket, typed]
    rfl
  obtain ⟨earlier, ends⟩ := NaluOperation.ofStapA_of_malformed call.marker malformed
  rw [answer_eq _ (by rw [carries]; exact List.cons_ne_nil _ _), script, ends]
  exact Script.execute_concat (fun _ _ _ ended => status_of_error ended) (fun _ => rfl) _

/-! ## The reads of the STAP-A loop -/

variable {packet : Memory UInt8} {limit : Nat}

theorem addBuffer_readsBelow (depacketizer : RtpDepacketizerH264) {start length : Nat}
    (within : start + length ≤ limit) :
    (depacketizer.addBuffer start length).ReadsBelow packet limit := by
  rw [addBuffer]
  cases depacketizer.checkSize length with
  | error failed => exact LoggedReader.readsBelow_pure _ _ _
  | ok checked =>
    exact (LoggedReader.readsBelow_readSlice packet within).bind
      (LoggedReader.readsBelow_pure _ _ _)

/-- One entry: the loop reads on behind it where there are bytes left and the entry fits. -/
theorem parseStapA_readsBelow_step (depacketizer : RtpDepacketizerH264) {position : Nat}
    {packetLen : Int} (within : position + packetLen = limit) (call : ParseCall)
    (frame : Option MediaFrame) :
    let length := (ofBigEndian16 (call.packet position) (call.packet (position + 1))).toNat
    ∃ (next : RtpDepacketizerH264) (frame' : Option MediaFrame), next.naluLen = 0 ∧
      ((depacketizer.parseStapA position packetLen call frame).ReadsBelow call.packet limit ↔
        2 ≤ packetLen ∧ (length < packetLen - 2 →
          depacketizer.naluLen + startcodeLength + length ≤ maxEsFrameSize →
          (next.parseStapA (position + 2 + length) (packetLen - 2 - length) call
            frame').ReadsBelow call.packet limit)) := by
  intro length
  let started := depacketizer.pushNalu NaluOperation.startcode
  let filled := started.pushNalu (call.packet.slice (position + 2) length)
  let result := filled.decNalu false call frame
  refine ⟨result.depacketizer, result.frame, rfl, ?_⟩
  rw [parseStapA, LoggedReader.readsBelow_bind_iff, LoggedReader.readsBelow_bind_iff,
    LoggedReader.readsBelow_read_iff, LoggedReader.readsBelow_read_iff, LoggedReader.value_read,
    LoggedReader.value_read, ← and_assoc]
  -- the two bytes of the length are what is read in any case
  refine and_congr (by omega) ?_
  change LoggedReader.ReadsBelow (if (length : Int) > packetLen - 2 then _ else _) _ _ ↔ _
  by_cases tooLong : (length : Int) > packetLen - 2
  · -- an entry that does not fit ends the packet before anything of it is read
    rw [if_pos tooLong]
    exact iff_of_true (LoggedReader.readsBelow_pure _ _ _) fun more => absurd more (by omega)
  rw [if_neg tooLong, addStartcode_eq]
  by_cases fits : depacketizer.naluLen + startcodeLength + length ≤ maxEsFrameSize
  · have start : depacketizer.append NaluOperation.startcode = .ok started :=
      append_of_le (Nat.le_trans (Nat.le_add_right _ length) fits)
    have fill : started.append (call.packet.slice (position + 2) length) = .ok filled :=
      append_of_le (by rw [Memory.slice_length]; exact fits)
    have copied : (started.addBuffer (position + 2) length).ReadsBelow call.packet limit :=
      addBuffer_readsBelow _ (by omega)
    rw [start]
    dsimp only
    rw [LoggedReader.readsBelow_bind_iff, addBuffer_value, fill]
    dsimp only
    rw [if_neg (show ¬ packetLen - 2 - (length : Int) < 0 by omega)]
    by_cases more : packetLen - 2 - (length : Int) > 0
    · rw [if_pos more, if_neg (show ¬ packetLen - 2 - (length : Int) = 0 by omega)]
      exact ⟨fun both _ _ => both.2, fun rest => ⟨copied, rest (by omega) fits⟩⟩
    · rw [if_neg more]
      exact iff_of_true ⟨copied, LoggedReader.readsBelow_pure _ _ _⟩
        fun room => absurd room (by omega)
  · -- a NALU that is too large ends the packet, at its start code or at its bytes
    refine iff_of_true ?_ fun _ room => absurd room fits
    by_cases room : depacketizer.naluLen + NaluOperation.startcode.length ≤ maxEsFrameSize
    · have start : depacketizer.append NaluOperation.startcode = .ok started := append_of_le room
      have overflows : maxEsFrameSize <
          started.naluLen + (call.packet.slice (position + 2) length).length := by
        rw [Memory.slice_length]
        exact Nat.lt_of_not_le fits
      rw [start]
      dsimp only
      rw [LoggedReader.readsBelow_bind_iff, addBuffer_value, append_of_lt overflows]
      exact ⟨addBuffer_readsBelow _ (by omega), LoggedReader.readsBelow_pure _ _ _⟩
    · rw [append_of_lt (Nat.lt_of_not_le room)]
      exact LoggedReader.readsBelow_pure _ _ _

/-- With `m_nalu` empty every entry fits. -/
theorem parseStapA_readsBelow_iff {depacketizer : RtpDepacketizerH264}
    (empty : depacketizer.naluLen = 0) {position : Nat} {packetLen : Int}
    (within : position + packetLen = limit) (nonneg : 0 ≤ packetLen) (call : ParseCall)
    (frame : Option MediaFrame) :
    (depacketizer.parseStapA position packetLen call frame).ReadsBelow call.packet limit ↔
      ¬ CutsLength (call.packet.slice position packetLen.toNat) := by
  -- on the bytes that remain; a decode leaves `m_nalu` empty for the next entry
  induction remains : packetLen.toNat using Nat.strongRecOn
    generalizing depacketizer position packetLen frame with
  | ind size ih =>
    obtain ⟨next, frame', emptyNext, step⟩ :=
      depacketizer.parseStapA_readsBelow_step within call frame
    rw [step]
    obtain _ | _ | rest := size
    · exact iff_of_false (fun both => absurd both.1 (by omega))
        (not_not.mpr (cutsLength_of_short (by simp)))
    · exact iff_of_false (fun both => absurd both.1 (by omega))
        (not_not.mpr (cutsLength_of_short (by simp)))
    · rw [Memory.slice_succ, Memory.slice_succ, cutsLength_cons, Memory.slice_length,
        Memory.drop_slice, not_and, and_iff_right (show 2 ≤ packetLen by omega)]
      have length := (ofBigEndian16 (call.packet position) (call.packet (position + 1))).toNat_lt
      generalize (ofBigEndian16 (call.packet position) (call.packet (position + 1))).toNat =
        entry at length ⊢
      have fits : depacketizer.naluLen + startcodeLength + entry ≤ maxEsFrameSize := by
        have : 65536 + startcodeLength ≤ maxEsFrameSize := by decide
        omega
      rw [show (entry : Int) < packetLen - 2 ↔ entry < rest by omega]
      refine imp_congr_right fun more => ?_
      rw [forall_prop_of_true fits]
      exact ih (rest - entry) (by omega) emptyNext (by omega) (by omega) frame' (by omega)

/-! ## The reads of a packet -/

theorem parseSingle_readsBelow (depacketizer : RtpDepacketizerH264) (call : ParseCall) :
    (depacketizer.parseSingle call).ReadsBelow call.packet call.packetLen.toNat := by
  rw [parseSingle]
  cases depacketizer.addStartcode with
  | error failed => exact LoggedReader.readsBelow_pure _ _ _
  | ok started =>
    refine (addBuffer_readsBelow started (by omega)).bind ?_
    split <;> exact LoggedReader.readsBelow_pure _ _ _

theorem parseFuA_readsBelow_iff (depacketizer : RtpDepacketizerH264) {call : ParseCall}
    (positive : 0 < call.packetLen) :
    (depacketizer.parseFuA call).ReadsBelow call.packet call.packetLen.toNat ↔
      2 ≤ call.packetLen := by
  rw [parseFuA, LoggedReader.readsBelow_bind_iff, LoggedReader.readsBelow_bind_iff,
    LoggedReader.readsBelow_read_iff, LoggedReader.readsBelow_read_iff]
  refine ⟨fun both => by omega, fun long => ⟨by omega, by omega, ?_⟩⟩
  dsimp only
  refine .ite (fun _ => LoggedReader.readsBelow_pure _ _ _) fun _ => ?_
  refine .ite (fun _ => LoggedReader.readsBelow_pure _ _ _) fun _ => ?_
  split
  next => exact LoggedReader.readsBelow_pure _ _ _
  next started _ =>
    refine (addBuffer_readsBelow started (by omega)).bind ?_
    split
    next => exact LoggedReader.readsBelow_pure _ _ _
    next => split <;> exact LoggedReader.readsBelow_pure _ _ _

/-- The bytes that are read before the length of the packet is looked at are there, or the first
entry of a STAP-A packet does not fit behind what is left in `m_nalu`. -/
def HeadersWithin (depacketizer : RtpDepacketizerH264) (payload : List UInt8) : Prop :=
  ∀ first rest, payload = first :: rest →
    (packetType first = 28 → rest ≠ []) ∧
    (packetType first = 24 → CutsLength rest →
      2 ≤ rest.length ∧
        maxEsFrameSize < depacketizer.naluLen + startcodeLength + firstEntryLength rest)

theorem headersWithin_cons {depacketizer : RtpDepacketizerH264} {payload rest : List UInt8}
    {first : UInt8} (carries : payload = first :: rest) :
    depacketizer.HeadersWithin payload ↔
      (packetType first = 28 → rest ≠ []) ∧
      (packetType first = 24 → CutsLength rest →
        2 ≤ rest.length ∧
          maxEsFrameSize < depacketizer.naluLen + startcodeLength + firstEntryLength rest) := by
  constructor
  · intro within
    exact within first rest carries
  · rintro inside first' rest' same
    obtain ⟨rfl, rfl⟩ := List.cons.inj (carries.symm.trans same)
    exact inside

theorem stapA_readsBelow_iff (depacketizer : RtpDepacketizerH264) {call : ParseCall}
    (positive : 0 < call.packetLen) :
    (depacketizer.parseStapA 1 (call.packetLen - 1) call call.frame).ReadsBelow call.packet
        call.packetLen.toNat ↔
      (CutsLength (call.packet.slice 1 (call.packetLen.toNat - 1)) →
        2 ≤ (call.packet.slice 1 (call.packetLen.toNat - 1)).length ∧
          maxEsFrameSize < depacketizer.naluLen + startcodeLength +
            firstEntryLength (call.packet.slice 1 (call.packetLen.toNat - 1))) := by
  have within : ((1 : Nat) : Int) + (call.packetLen - 1) = (call.packetLen.toNat : Int) := by omega
  obtain ⟨next, frame', empty, step⟩ :=
    depacketizer.parseStapA_readsBelow_step within call call.frame
  rw [step]
  -- with fewer than two bytes behind the header the first length is cut
  cases remains : call.packetLen.toNat - 1 with
  | zero =>
    exact iff_of_false (fun both => absurd both.1 (by omega))
      fun inside => absurd (inside (cutsLength_of_short (by simp))).1 (by simp)
  | succ remains' =>
    cases remains' with
    | zero =>
      exact iff_of_false (fun both => absurd both.1 (by omega))
        fun inside => absurd (inside (cutsLength_of_short (by simp))).1 (by simp)
    | succ rest =>
      rw [Memory.slice_succ, Memory.slice_succ, cutsLength_cons, Memory.slice_length,
        Memory.drop_slice, firstEntryLength, and_iff_right (show 2 ≤ call.packetLen - 1 by omega)]
      generalize (ofBigEndian16 (call.packet 1) (call.packet (1 + 1))).toNat = entry
      -- behind the first entry `m_nalu` is empty, and every entry fits
      have behind : entry < rest →
          ((next.parseStapA (1 + 2 + entry) (call.packetLen - 1 - 2 - entry) call
            frame').ReadsBelow call.packet call.packetLen.toNat ↔
              ¬ CutsLength (call.packet.slice (1 + 1 + 1 + entry) (rest - entry))) := by
        intro more
        have size : (call.packetLen - 1 - 2 - (entry : Int)).toNat = rest - entry := by omega
        rw [parseStapA_readsBelow_iff empty (by omega) (by omega), size]
      rw [show (entry : Int) < call.packetLen - 1 - 2 ↔ entry < rest by omega]
      constructor
      · rintro reads ⟨more, cuts⟩
        refine ⟨Nat.le_add_left 2 _, ?_⟩
        by_contra fits
        exact (behind more).mp (reads more (Nat.not_lt.mp fits)) cuts
      · intro ended more fits
        exact (behind more).mpr fun cuts => Nat.not_lt.mpr fits (ended ⟨more, cuts⟩).2

theorem parse_readsBelow_iff (depacketizer : RtpDepacketizerH264) (call : ParseCall) :
    (depacketizer.parse call).ReadsBelow call.packet call.packetLen.toNat ↔
      depacketizer.HeadersWithin call.payload := by
  rw [parse]
  by_cases empty : call.packetLen ≤ 0
  · rw [if_pos empty]
    refine iff_of_true (LoggedReader.readsBelow_pure _ _ _) fun first rest carries => ?_
    rw [call.payload_eq_nil_iff.mpr empty] at carries
    cases carries
  have positive : 0 < call.packetLen := by omega
  have payload : call.payload =
      call.packet 0 :: call.packet.slice 1 (call.packetLen.toNat - 1) := by
    rw [← Memory.slice_succ, Nat.sub_add_cancel (by omega)]
    rfl
  have length : (call.packet.slice 1 (call.packetLen.toNat - 1)).length =
      call.packetLen.toNat - 1 := Memory.slice_length ..
  rw [if_neg empty, LoggedReader.readsBelow_bind_iff, LoggedReader.readsBelow_read_iff,
    LoggedReader.value_read, and_iff_right (by omega), headersWithin_cons payload]
  -- each type of packet is under its own condition only
  by_cases single : 1 ≤ packetType (call.packet 0) ∧ packetType (call.packet 0) ≤ 12
  · rw [if_pos single]
    refine iff_of_true (parseSingle_readsBelow _ _) ⟨?_, ?_⟩ <;> intro typed <;>
      rw [typed] at single <;> exact absurd single (by decide)
  rw [if_neg single]
  by_cases stapA : packetType (call.packet 0) = 24
  · rw [if_pos stapA, stapA_readsBelow_iff _ positive, stapA]
    exact ⟨fun inside => ⟨fun other => absurd other (by decide), fun _ => inside⟩,
      fun both => both.2 rfl⟩
  rw [if_neg stapA]
  by_cases fuA : packetType (call.packet 0) = 28
  · rw [if_pos fuA, parseFuA_readsBelow_iff _ positive, ← List.length_pos_iff, length]
    exact ⟨fun long => ⟨fun _ => by omega, fun other => absurd other stapA⟩,
      fun both => by have := both.1 fuA; omega⟩
  · rw [if_neg fuA]
    refine iff_of_true ?_ ⟨fun typed => absurd typed fuA, fun typed => absurd typed stapA⟩
    exact (LoggedReader.readsBelow_readSlice _ (by omega)).bind (LoggedReader.readsBelow_pure _ _ _)

/-! ## Input safety -/

/-- A packet is read within its length, and a STAP-A packet that is not exactly some entries is an
error. -/
def InputSafe (depacketizer : RtpDepacketizerH264) (call : ParseCall) : Prop :=
  (depacketizer.parse call).ReadsBelow call.packet call.packetLen.toNat ∧
    ∀ indicator bytes, call.payload = indicator :: bytes → packetType indicator = 24 →
      ¬ StapAEntries bytes → (answer depacketizer call).status = .error

/-- In every state and for every packet, `parse` is safe exactly where the bytes it reads unchecked
are there. -/
theorem inputSafe_iff (depacketizer : RtpDepacketizerH264) (call : ParseCall) :
    depacketizer.InputSafe call ↔ depacketizer.HeadersWithin call.payload := by
  rw [← parse_readsBelow_iff]
  refine ⟨And.left, fun reads => ⟨reads, ?_⟩⟩
  intro indicator bytes carries typed malformed
  exact answer_of_malformed depacketizer carries typed malformed

/-- A STAP-A packet of its header alone: two bytes behind the packet are read. -/
theorem stapA_headerAlone :
    ¬ (create (fun _ => 0) fun _ => 0).InputSafe (.ofPayload [0x18] true 0 96) := by
  rintro ⟨reads, -⟩
  have within := (parse_readsBelow_iff ..).mp reads
  rw [ParseCall.payload_ofPayload] at within
  have inside := (within 0x18 [] rfl).2 (by decide) (cutsLength_of_short (by decide))
  exact absurd inside.1 (by decide)

end RtpDepacketizerH264

end RtpPlayer
