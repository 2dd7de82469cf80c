import RtpPlayer.Foundations.Script
import RtpPlayer.Depacketizers.RtpDepacketizerH264

/-! # Packets as scripts

What a packet does to an H.264 depacketizer depends only on its bytes and its marker: it is a
script of appends to the current NALU and decodes of it, up to the first that fails. -/

namespace RtpPlayer

open Foundations
open Foundations.ByteOrder

/-- What an appended block is to the NALU. -/
inductive NaluPart where
  | startcode
  | header
  | payload
  deriving DecidableEq

/-- An operation of a packet on the current NALU. -/
inductive NaluOperation where
  | append (part : NaluPart) (bytes : List UInt8)
  | decode (last : Bool)
  | fail
  deriving DecidableEq

namespace NaluOperation

open RtpDepacketizerH264 (packetType)

def startcode : List UInt8 := [0, 0, 0, 1]

def wholeNalu (nalu : List UInt8) (last : Bool) : List NaluOperation :=
  [append .startcode startcode, append .payload nalu, decode last]

def ofStapA (marker : Bool) : List UInt8 → List NaluOperation
  | high :: low :: rest =>
    let length := (ofBigEndian16 high low).toNat
    if rest.length < length then
      [fail]
    else
      -- decoded before a later entry can fail
      wholeNalu (rest.take length) (if rest.length = length then marker else false) ++
        if length < rest.length then ofStapA marker (rest.drop length) else []
  | _ => [fail]
termination_by bytes => bytes.length
decreasing_by
  simp only [List.length_drop, List.length_cons]
  omega

def ofFuA (marker : Bool) (indicator : UInt8) : List UInt8 → List NaluOperation
  | [] => [fail]
  | header :: fragment =>
    if header &&& 0x80 > 0 ∧ header &&& 0x40 > 0 then
      [fail]
    else
      -- without S the fragment goes on top of whatever is in `m_nalu`
      (if header &&& 0x80 > 0 then
        [append .startcode startcode, append .header [(indicator &&& 0xe0) ||| (header &&& 0x1f)]]
      else []) ++
      append .payload fragment :: (if header &&& 0x40 > 0 then [decode marker] else [])

/-- The script of a packet. -/
def ofPacket (payload : List UInt8) (marker : Bool) : List NaluOperation :=
  match payload with
  | [] => []
  | first :: rest =>
    if 1 ≤ packetType first ∧ packetType first ≤ 12 then wholeNalu payload marker
    else if packetType first = 24 then ofStapA marker rest
    else if packetType first = 28 then ofFuA marker first rest
    else [fail]

end NaluOperation

namespace RtpDepacketizerH264

open NaluOperation (startcode wholeNalu)

/-- Check the size of a block and put it at the end of the current NALU. -/
def append (depacketizer : RtpDepacketizerH264) (bytes : List UInt8) :
    Except RtpDepacketizerH264 RtpDepacketizerH264 := do
  let depacketizer ← depacketizer.checkSize bytes.length
  return depacketizer.pushNalu bytes

/-- Perform one operation of the packet of `call`. -/
def perform (call : ParseCall) (operation : NaluOperation)
    (result : ParseResult RtpDepacketizerH264) :
    Except (ParseResult RtpDepacketizerH264) (ParseResult RtpDepacketizerH264) :=
  match operation with
  | .append _ bytes =>
    match result.depacketizer.append bytes with
    | .error depacketizer => .error (fail depacketizer result.frame)
    | .ok depacketizer => .ok { result with depacketizer := depacketizer }
  | .decode last => .ok (result.depacketizer.decNalu last call result.frame)
  | .fail => .error (fail result.depacketizer result.frame)

/-- What the script of a packet starts from. -/
def beginPacket (depacketizer : RtpDepacketizerH264) (call : ParseCall) :
    ParseResult RtpDepacketizerH264 :=
  ⟨.needMore, { depacketizer with packets := depacketizer.packets + 1 }, call.frame⟩

/-! ## The macros as operations -/

theorem append_of_le {depacketizer : RtpDepacketizerH264} {bytes : List UInt8}
    (fits : depacketizer.naluLen + bytes.length ≤ maxEsFrameSize) :
    depacketizer.append bytes = .ok (depacketizer.pushNalu bytes) := by
  simp only [append, checkSize, if_neg (Nat.not_lt.mpr fits)]
  rfl

theorem append_of_lt {depacketizer : RtpDepacketizerH264} {bytes : List UInt8}
    (tooLarge : maxEsFrameSize < depacketizer.naluLen + bytes.length) :
    depacketizer.append bytes =
      .error { depacketizer with naluLen := 0, frameLen := 0, packets := 0 } := by
  simp only [append, checkSize, if_pos tooLarge]
  rfl

theorem pushNalu_pushNalu (depacketizer : RtpDepacketizerH264) (first second : List UInt8) :
    (depacketizer.pushNalu first).pushNalu second = depacketizer.pushNalu (first ++ second) := by
  simp only [pushNalu, Memory.write_write, List.length_append, Nat.add_assoc]

theorem addStartcode_eq (depacketizer : RtpDepacketizerH264) :
    depacketizer.addStartcode = depacketizer.append startcode := by
  simp only [addStartcode, pushNalu_pushNalu]
  rfl

theorem startNalu_eq (depacketizer : RtpDepacketizerH264) (header : UInt8) :
    depacketizer.startNalu header =
      match depacketizer.append startcode with
      | .error depacketizer => .error depacketizer
      | .ok depacketizer => depacketizer.append [header] := by
  simp only [startNalu, addStartcode_eq]
  cases depacketizer.append startcode with
  | error failed => rfl
  | ok started => rfl

theorem addBuffer_value (depacketizer : RtpDepacketizerH264) (start length : Nat)
    (packet : Memory UInt8) :
    (depacketizer.addBuffer start length).value packet =
      depacketizer.append (packet.slice start length) := by
  simp only [addBuffer, append, Memory.slice_length]
  cases depacketizer.checkSize length with
  | error failed => rfl
  | ok checked => rfl

/-! ## Decoding the current NALU -/

/-- The type `DEC_NALU` takes the current NALU to be of. -/
def naluType (depacketizer : RtpDepacketizerH264) : UInt8 :=
  packetType (depacketizer.nalu startcodeLength)

/-- How many bytes of the current NALU the frame has room for. -/
def storedLen (depacketizer : RtpDepacketizerH264) : Nat :=
  min depacketizer.naluLen (maxEsFrameSize - depacketizer.frameLen)

/-- Whether decoding the current NALU closes the frame. -/
def closes (depacketizer : RtpDepacketizerH264) (last : Bool) : Bool :=
  last || maxEsFrameSize < depacketizer.frameLen + depacketizer.naluLen

/-- The current NALU has moved to the frame. -/
def store (depacketizer : RtpDepacketizerH264) : RtpDepacketizerH264 :=
  { (depacketizer.checkSentries depacketizer.naluType).2 with
    naluLen := 0
    frame := depacketizer.frame.write depacketizer.frameLen
      (depacketizer.nalu.slice 0 depacketizer.storedLen)
    frameLen := depacketizer.frameLen + depacketizer.storedLen }

/-- The `flags` of a frame that the current NALU closes. -/
def closingFlags (depacketizer : RtpDepacketizerH264) : Nat :=
  let flags :=
    if maxEsFrameSize < depacketizer.frameLen + depacketizer.naluLen then frameIsIncomplete else 0
  if depacketizer.naluType = idrType then flags ||| frameIsSyncPoint else flags

/-! ### The gate -/

structure Sentries where
  sps : Bool
  pps : Bool
  idr : Bool
  deriving DecidableEq

def sentries (depacketizer : RtpDepacketizerH264) : Sentries :=
  ⟨depacketizer.spsSentry, depacketizer.ppsSentry, depacketizer.idrSentry⟩

def Sentries.clear : Sentries := ⟨false, false, false⟩

/-- The sentry check of `decode_nalu` on the sentries alone. -/
def Sentries.gate (sentries : Sentries) (naluType : UInt8) : Bool × Sentries :=
  if sentries.sps ∨ sentries.pps ∨ sentries.idr then
    if naluType = spsType ∨ naluType = ppsType then
      if naluType = spsType then (true, { sentries with sps := false })
      else (true, { sentries with pps := false })
    else if sentries.sps ∨ sentries.pps then (false, sentries)
    else if naluType ≠ idrType then (false, sentries)
    else (true, { sentries with idr := false })
  else (true, sentries)

/-- `check_random_access_unit` touches the sentries only. -/
theorem checkSentries_eq (depacketizer : RtpDepacketizerH264) (naluType : UInt8) :
    depacketizer.checkSentries naluType =
      ((depacketizer.sentries.gate naluType).1,
        { depacketizer with
          spsSentry := (depacketizer.sentries.gate naluType).2.sps
          ppsSentry := (depacketizer.sentries.gate naluType).2.pps
          idrSentry := (depacketizer.sentries.gate naluType).2.idr }) := by
  unfold checkSentries checkRandomAccessUnit Sentries.gate sentries
  split_ifs <;> rfl

theorem checkSentries_fst (depacketizer : RtpDepacketizerH264) (naluType : UInt8) :
    (depacketizer.checkSentries naluType).1 = (depacketizer.sentries.gate naluType).1 := by
  rw [checkSentries_eq]

theorem store_eq (depacketizer : RtpDepacketizerH264) :
    depacketizer.store =
      { nalu := depacketizer.nalu
        naluLen := 0
        spsSentry := (depacketizer.sentries.gate depacketizer.naluType).2.sps
        ppsSentry := (depacketizer.sentries.gate depacketizer.naluType).2.pps
        idrSentry := (depacketizer.sentries.gate depacketizer.naluType).2.idr
        frame := depacketizer.frame.write depacketizer.frameLen
          (depacketizer.nalu.slice 0 depacketizer.storedLen)
        frameLen := depacketizer.frameLen + depacketizer.storedLen
        packets := depacketizer.packets } := by
  rw [store, checkSentries_eq]

theorem Sentries.gate_clear (naluType : UInt8) :
    Sentries.clear.gate naluType = (true, .clear) := rfl

theorem Sentries.gate_rejected {sentries : Sentries} {naluType : UInt8}
    (rejected : (sentries.gate naluType).1 = false) : (sentries.gate naluType).2 = sentries := by
  unfold gate at *
  split_ifs at * <;> rfl

theorem checkSentries_snd (depacketizer : RtpDepacketizerH264) (naluType : UInt8) :
    ∃ sps pps idr, (depacketizer.checkSentries naluType).2 =
      { depacketizer with spsSentry := sps, ppsSentry := pps, idrSentry := idr } := by
  rw [checkSentries_eq]
  exact ⟨_, _, _, rfl⟩

theorem checkSentries_rejected {depacketizer : RtpDepacketizerH264} {naluType : UInt8}
    (rejected : (depacketizer.checkSentries naluType).1 = false) :
    (depacketizer.checkSentries naluType).2 = depacketizer := by
  rw [checkSentries_eq] at rejected ⊢
  rw [Sentries.gate_rejected rejected]
  rfl

section Decoding

variable {depacketizer : RtpDepacketizerH264} (last : Bool) (call : ParseCall)
  (frame : Option MediaFrame)

theorem decNalu_of_empty (empty : depacketizer.naluLen = 0) :
    depacketizer.decNalu last call frame = ⟨.error, depacketizer, frame⟩ := by
  have unchanged : { depacketizer with naluLen := 0 } = depacketizer := by
    rw [← empty]
  rw [decNalu, decodeNalu, if_pos empty]
  simp only [unchanged]

theorem decNalu_of_rejected (nonempty : depacketizer.naluLen ≠ 0)
    (rejected : (depacketizer.checkSentries depacketizer.naluType).1 = false) :
    depacketizer.decNalu last call frame =
      ⟨.needMore, { depacketizer with naluLen := 0 }, frame⟩ := by
  have unchanged := checkSentries_rejected rejected
  rw [naluType] at rejected unchanged
  simp only [decNalu, decodeNalu, if_neg nonempty, rejected, unchanged, Bool.not_false, if_true]

theorem decNalu_of_stored (nonempty : depacketizer.naluLen ≠ 0)
    (admitted : (depacketizer.checkSentries depacketizer.naluType).1 = true)
    (remains : depacketizer.closes last = false) :
    depacketizer.decNalu last call frame = ⟨.needMore, depacketizer.store, frame⟩ := by
  obtain ⟨sps, pps, idr, sentries⟩ := depacketizer.checkSentries_snd depacketizer.naluType
  obtain ⟨notLast, fits⟩ : last = false ∧
      ¬ maxEsFrameSize < depacketizer.frameLen + depacketizer.naluLen := by
    simpa only [closes, Bool.or_eq_false_iff, decide_eq_false_iff_not] using remains
  have stored : depacketizer.storedLen = depacketizer.naluLen :=
    Nat.min_eq_left (by omega)
  rw [store, stored, sentries]
  rw [naluType] at admitted sentries
  simp only [decNalu, decodeNalu, if_neg nonempty, admitted, sentries, if_neg fits, notLast,
    Bool.not_true, Bool.false_eq_true, if_false]

theorem decNalu_of_closing (nonempty : depacketizer.naluLen ≠ 0)
    (admitted : (depacketizer.checkSentries depacketizer.naluType).1 = true)
    (closing : depacketizer.closes last = true) :
    depacketizer.decNalu last call frame =
      { status := .frame
        depacketizer := { depacketizer.store with packets := 0, frameLen := 0 }
        frame := frame.map fun _ =>
          { len := depacketizer.store.frameLen
            pts := call.pts.toNat
            flags := depacketizer.closingFlags
            rtpPayloadType := call.payloadType
            packets := depacketizer.packets } } := by
  obtain ⟨sps, pps, idr, sentries⟩ := depacketizer.checkSentries_snd depacketizer.naluType
  -- a NALU that is too large is cut to what the frame has room for
  have stored : depacketizer.storedLen =
      if maxEsFrameSize < depacketizer.frameLen + depacketizer.naluLen then
        maxEsFrameSize - depacketizer.frameLen
      else depacketizer.naluLen := by
    rw [storedLen]
    split_ifs <;> omega
  have ended : (if maxEsFrameSize < depacketizer.frameLen + depacketizer.naluLen then true
      else last) = true := by
    simp only [closes, Bool.or_eq_true, decide_eq_true_eq] at closing
    split_ifs with tooLarge
    · rfl
    · exact closing.resolve_right tooLarge
  rw [store, stored, sentries, closingFlags, naluType]
  rw [naluType] at admitted sentries
  simp only [decNalu, decodeNalu, if_neg nonempty, admitted, sentries, gt_iff_lt, ended,
    Bool.not_true, Bool.false_eq_true, if_false, if_true]

theorem decNalu_sentries (nonempty : depacketizer.naluLen ≠ 0) :
    (depacketizer.decNalu last call frame).depacketizer.sentries =
      (depacketizer.sentries.gate depacketizer.naluType).2 := by
  cases admitted : (depacketizer.checkSentries depacketizer.naluType).1 with
  | false =>
    rw [decNalu_of_rejected last call frame nonempty admitted,
      Sentries.gate_rejected (by rw [← checkSentries_fst, admitted])]
    rfl
  | true =>
    cases closing : depacketizer.closes last with
    | false =>
      rw [decNalu_of_stored last call frame nonempty admitted closing, store_eq]
      rfl
    | true =>
      rw [decNalu_of_closing last call frame nonempty admitted closing, store_eq]
      rfl

/-- The last NALU of a frame ends the frame, unless the gate refuses it. -/
theorem decNalu_last_status (nonempty : depacketizer.naluLen ≠ 0) :
    (depacketizer.decNalu true call frame).status =
      if (depacketizer.sentries.gate depacketizer.naluType).1 then .frame else .needMore := by
  cases admitted : (depacketizer.sentries.gate depacketizer.naluType).1 with
  | false =>
    rw [decNalu_of_rejected true call frame nonempty (by rw [checkSentries_fst, admitted])]
    rfl
  | true =>
    rw [decNalu_of_closing true call frame nonempty (by rw [checkSentries_fst, admitted]) rfl]
    rfl

end Decoding

/-! ## Scripts of appends and a decode -/

variable {depacketizer : RtpDepacketizerH264} {call : ParseCall}

theorem execute_append (part : NaluPart) (bytes : List UInt8) (operations : List NaluOperation)
    (result : ParseResult RtpDepacketizerH264) :
    Script.execute (perform call) (.append part bytes :: operations) result =
      match result.depacketizer.append bytes with
      | .error depacketizer => fail depacketizer result.frame
      | .ok depacketizer =>
        Script.execute (perform call) operations { result with depacketizer := depacketizer } := by
  simp only [Script.execute, perform]
  cases result.depacketizer.append bytes with
  | error failed => rfl
  | ok appended => rfl

theorem execute_decode (last : Bool) (operations : List NaluOperation)
    (result : ParseResult RtpDepacketizerH264) :
    Script.execute (perform call) (.decode last :: operations) result =
      Script.execute (perform call) operations
        (result.depacketizer.decNalu last call result.frame) := rfl

theorem perform_append_of_room {result : ParseResult RtpDepacketizerH264} {part : NaluPart}
    {bytes : List UInt8} (fits : result.depacketizer.naluLen + bytes.length ≤ maxEsFrameSize) :
    perform call (.append part bytes) result =
      .ok { result with depacketizer := result.depacketizer.pushNalu bytes } := by
  rw [perform, append_of_le fits]

theorem perform_append_of_full {result : ParseResult RtpDepacketizerH264} {part : NaluPart}
    {bytes : List UInt8} (full : maxEsFrameSize < result.depacketizer.naluLen + bytes.length) :
    ∃ final, perform call (.append part bytes) result = .error final := by
  rw [perform, append_of_lt full]
  exact ⟨_, rfl⟩

/-- The two appends of a whole NALU, where `m_nalu` has room for it. -/
theorem perform_wholeNalu_of_room {result : ParseResult RtpDepacketizerH264} {nalu : List UInt8}
    (fits : result.depacketizer.naluLen + (startcode ++ nalu).length ≤ maxEsFrameSize) :
    perform call (.append .startcode startcode) result =
        .ok { result with depacketizer := result.depacketizer.pushNalu startcode } ∧
      perform call (.append .payload nalu)
          { result with depacketizer := result.depacketizer.pushNalu startcode } =
        .ok { result with depacketizer := result.depacketizer.pushNalu (startcode ++ nalu) } := by
  rw [List.length_append] at fits
  have body : perform call (.append .payload nalu)
      { result with depacketizer := result.depacketizer.pushNalu startcode } =
        .ok { result with
          depacketizer := (result.depacketizer.pushNalu startcode).pushNalu nalu } :=
    perform_append_of_room (by rw [pushNalu]; dsimp only; omega)
  rw [pushNalu_pushNalu] at body
  exact ⟨perform_append_of_room (by omega), body⟩

theorem execute_wholeNalu_of_room {result : ParseResult RtpDepacketizerH264} {nalu : List UInt8}
    (fits : result.depacketizer.naluLen + (startcode ++ nalu).length ≤ maxEsFrameSize) (last : Bool)
    (operations : List NaluOperation) :
    Script.execute (perform call) (wholeNalu nalu last ++ operations) result =
      Script.execute (perform call) operations
        ((result.depacketizer.pushNalu (startcode ++ nalu)).decNalu last call result.frame) := by
  obtain ⟨start, body⟩ := @perform_wholeNalu_of_room call result nalu fits
  simp only [wholeNalu, List.cons_append, List.nil_append, Script.execute_cons_ok _ start,
    Script.execute_cons_ok _ body, execute_decode]

theorem execute_wholeNalu {result : ParseResult RtpDepacketizerH264}
    (nothing : result.depacketizer.naluLen = 0) {nalu : List UInt8}
    (fits : (startcode ++ nalu).length ≤ maxEsFrameSize) (last : Bool)
    (operations : List NaluOperation) :
    Script.execute (perform call) (wholeNalu nalu last ++ operations) result =
      Script.execute (perform call) operations
        ((result.depacketizer.pushNalu (startcode ++ nalu)).decNalu last call result.frame) :=
  execute_wholeNalu_of_room (by rw [nothing, Nat.zero_add]; exact fits) last operations

theorem parseSingle_value (depacketizer : RtpDepacketizerH264) (call : ParseCall) :
    (depacketizer.parseSingle call).value call.packet =
      Script.execute (perform call) (wholeNalu call.payload call.marker)
        ⟨.needMore, depacketizer, call.frame⟩ := by
  simp only [parseSingle, wholeNalu, execute_append, addStartcode_eq]
  cases depacketizer.append startcode with
  | error failed => rfl
  | ok started =>
    simp only [LoggedReader.value_bind, addBuffer_value, ParseCall.payload]
    cases started.append (call.packet.slice 0 call.packetLen.toNat) with
    | error failed => rfl
    | ok appended => rfl

theorem parseStapA_value (depacketizer : RtpDepacketizerH264) (position : Nat) (packetLen : Int)
    (call : ParseCall) (status : DepacketizerStatus) (frame : Option MediaFrame) :
    (depacketizer.parseStapA position packetLen call frame).value call.packet =
      Script.execute (perform call)
        (NaluOperation.ofStapA call.marker (call.packet.slice position packetLen.toNat))
        ⟨status, depacketizer, frame⟩ := by
  -- on the bytes that remain; an entry takes at least its two length bytes
  induction remains : packetLen.toNat using Nat.strongRecOn
    generalizing depacketizer position packetLen status frame with
  | ind size ih =>
    rw [parseStapA, LoggedReader.value_bind, LoggedReader.value_bind, LoggedReader.value_read,
      LoggedReader.value_read]
    simp only [LoggedReader.value_ite, LoggedReader.value_pure]
    -- with less than two bytes left, what is read as a length lies behind the packet
    obtain _ | _ | rest := size
    · rw [if_pos (by omega), Memory.slice_zero, NaluOperation.ofStapA]
      · rfl
      · simp
    · rw [if_pos (by omega), Memory.slice_one, NaluOperation.ofStapA]
      · rfl
      · simp
    · rw [Memory.slice_succ, Memory.slice_succ, NaluOperation.ofStapA, Memory.slice_length]
      generalize (ofBigEndian16 (call.packet position) (call.packet (position + 1))).toNat = length
      by_cases tooLong : rest < length
      · rw [if_pos (by omega), if_pos tooLong]
        rfl
      · rw [if_neg (by omega), if_neg tooLong]
        have entry : (call.packet.slice (position + 1 + 1) rest).take length =
            call.packet.slice (position + 2) length :=
          Memory.take_slice (by omega)
        have others : (call.packet.slice (position + 1 + 1) rest).drop length =
            call.packet.slice (position + 2 + length) (packetLen - 2 - length).toNat := by
          rw [Memory.drop_slice]
          congr 1
          omega
        have last : (if packetLen - 2 - (length : Int) = 0 then call.marker else false) =
            if rest = length then call.marker else false :=
          if_congr (by omega) rfl rfl
        simp only [entry, others, wholeNalu, List.cons_append, List.nil_append, execute_append,
          addStartcode_eq]
        cases depacketizer.append startcode with
        | error failed => rfl
        | ok started =>
          simp only [LoggedReader.value_bind, addBuffer_value]
          cases started.append (call.packet.slice (position + 2) length) with
          | error failed => rfl
          | ok appended =>
            -- the second length check of the loop never fails
            have enough : ¬ packetLen - 2 - (length : Int) < 0 := by omega
            simp only [LoggedReader.value_ite, if_neg enough, execute_decode, last]
            by_cases more : length < rest
            · rw [if_pos more, if_pos (by omega)]
              exact ih _ (by omega) _ _ _ _ _ rfl
            · rw [if_neg more, if_neg (by omega)]
              rfl

theorem addFragment_value (depacketizer : RtpDepacketizerH264) (length : Nat) (finish : Prop)
    [Decidable finish] (call : ParseCall) :
    LoggedReader.value (do
      match ← depacketizer.addBuffer 2 length with
      | .error depacketizer => return fail depacketizer call.frame
      | .ok depacketizer =>
        if finish then
          return depacketizer.decNalu call.marker call call.frame
        else
          return ⟨.needMore, depacketizer, call.frame⟩) call.packet =
      Script.execute (perform call)
        (.append .payload (call.packet.slice 2 length) ::
          if finish then [.decode call.marker] else [])
        ⟨.needMore, depacketizer, call.frame⟩ := by
  rw [LoggedReader.value_bind, addBuffer_value, execute_append]
  cases depacketizer.append (call.packet.slice 2 length) with
  | error failed => rfl
  | ok appended =>
    simp only [LoggedReader.value_ite]
    split
    next finished => rfl
    next unfinished => rfl

theorem parseFuA_value (depacketizer : RtpDepacketizerH264) (call : ParseCall)
    (positive : 0 < call.packetLen) :
    (depacketizer.parseFuA call).value call.packet =
      Script.execute (perform call)
        (NaluOperation.ofFuA call.marker (call.packet 0)
          (call.packet.slice 1 (call.packetLen.toNat - 1)))
        ⟨.needMore, depacketizer, call.frame⟩ := by
  rw [parseFuA, LoggedReader.value_bind, LoggedReader.value_bind, LoggedReader.value_read,
    LoggedReader.value_read]
  simp only [LoggedReader.value_ite, LoggedReader.value_pure]
  generalize call.packet 0 = indicator
  cases remains : call.packetLen.toNat - 1 with
  | zero =>
    rw [if_pos (by omega)]
    rfl
  | succ length =>
    rw [if_neg (by omega), Memory.slice_succ, NaluOperation.ofFuA]
    generalize call.packet (0 + 1) = header
    have fragment : (call.packetLen - 2).toNat = length := by omega
    rw [fragment]
    by_cases start : header &&& 0x80 > 0
    · by_cases finish : header &&& 0x40 > 0
      · rw [if_pos ⟨start, finish⟩, if_pos ⟨start, finish⟩]
        rfl
      · -- a first fragment: start code and header come before its bytes, and each may not fit
        have proper : ¬ (header &&& 0x80 > 0 ∧ header &&& 0x40 > 0) := fun both => finish both.2
        rw [if_neg proper, if_neg proper, if_pos start, if_pos start, startNalu_eq]
        simp only [List.cons_append, List.nil_append, execute_append]
        cases depacketizer.append startcode with
        | error failed => rfl
        | ok started =>
          dsimp only
          cases started.append [(indicator &&& 0xe0) ||| (header &&& 0x1f)] with
          | error failed => rfl
          | ok headed =>
            have tail := addFragment_value headed length (header &&& 0x40 > 0) call
            rw [execute_append] at tail
            exact tail
    · simp only [start, false_and, if_false, List.nil_append]
      exact addFragment_value depacketizer length (header &&& 0x40 > 0) call

/-- Parsing a packet is performing its script. -/
theorem parse_value (depacketizer : RtpDepacketizerH264) (call : ParseCall) :
    (depacketizer.parse call).value call.packet =
      if call.packetLen ≤ 0 then ⟨.error, depacketizer, call.frame⟩
      else Script.execute (perform call) (NaluOperation.ofPacket call.payload call.marker)
        (depacketizer.beginPacket call) := by
  rw [parse, LoggedReader.value_ite]
  by_cases invalid : call.packetLen ≤ 0
  · rw [if_pos invalid, if_pos invalid]
    rfl
  · have payload : call.payload =
        call.packet 0 :: call.packet.slice 1 (call.packetLen.toNat - 1) := by
      rw [← Memory.slice_succ, Nat.sub_add_cancel (by omega)]
      rfl
    rw [if_neg invalid, if_neg invalid, payload, NaluOperation.ofPacket, ← payload,
      LoggedReader.value_bind, LoggedReader.value_read]
    simp only [LoggedReader.value_ite, LoggedReader.value_bind, LoggedReader.value_pure]
    split_ifs with single stapA fuA
    · exact parseSingle_value ..
    · -- the first entry begins behind the header of the STAP-A packet
      rw [parseStapA_value _ _ _ _ .needMore]
      congr 3
      omega
    · exact parseFuA_value _ _ (by omega)
    · rfl

theorem answer_eq (depacketizer : RtpDepacketizerH264) {call : ParseCall}
    (nonempty : call.payload ≠ []) :
    RtpDepacketizer.answer depacketizer call =
      Script.execute (perform call) (NaluOperation.ofPacket call.payload call.marker)
        (depacketizer.beginPacket call) :=
  (parse_value depacketizer call).trans (if_neg (mt call.payload_eq_nil_iff.mpr nonempty))

theorem answer_of_empty (depacketizer : RtpDepacketizerH264) {call : ParseCall}
    (empty : call.payload = []) :
    RtpDepacketizer.answer depacketizer call = ⟨.error, depacketizer, call.frame⟩ :=
  (parse_value depacketizer call).trans (if_pos (call.payload_eq_nil_iff.mp empty))

end RtpDepacketizerH264

end RtpPlayer
