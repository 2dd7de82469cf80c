import RtpPlayer.Depacketizers.Vp8Grammar

/-! # What a VP8 packet does

Past its descriptor a packet matters by two things only: whether it begins a frame and which
payload bytes it carries.  `Step` lists everything a `parse` call can then do. -/

namespace RtpPlayer

open Foundations
open RtpDepacketizer

/-- What a packet carries past its descriptor. -/
structure Vp8Payload where
  isFirst : Bool
  bytes : List UInt8
  deriving DecidableEq

namespace Vp8Payload

/-- The frame type `parse` gives the packet. -/
def frameType (payload : Vp8Payload) : FrameType :=
  if payload.isFirst then
    if RtpDepacketizerVp8.bit (payload.bytes.headD 0) 0x01 then .videoFrameDelta else .videoFrameKey
  else .videoFrameDelta

/-- The packet begins a key frame: S = 1, PartID = 0 and a clear P bit. -/
def BeginsKeyFrame (payload : Vp8Payload) : Prop := payload.frameType = .videoFrameKey

/-- `ParseVP8FrameSize` refuses the packet. -/
def ShortKeyFrame (payload : Vp8Payload) : Prop :=
  payload.BeginsKeyFrame ∧ payload.bytes.length < 10

instance (payload : Vp8Payload) : Decidable payload.BeginsKeyFrame :=
  inferInstanceAs (Decidable (_ = _))

instance (payload : Vp8Payload) : Decidable payload.ShortKeyFrame :=
  inferInstanceAs (Decidable (_ ∧ _))

theorem beginsKeyFrame_iff (payload : Vp8Payload) : payload.BeginsKeyFrame ↔
    payload.isFirst = true ∧ RtpDepacketizerVp8.bit (payload.bytes.headD 0) 0x01 = false := by
  simp only [BeginsKeyFrame, frameType]
  split_ifs <;> simp_all

/-- The payload of a packet whose descriptor `parse` gets past. -/
def ofCall (call : ParseCall) : Option Vp8Payload :=
  if Vp8Grammar.partitionId call.packet ≤ 8 ∧
      Vp8Grammar.descriptorLength call.packet < call.packetLen then
    some {
      isFirst := Vp8Grammar.beginningOfPartition call.packet &&
        Vp8Grammar.partitionId call.packet = 0
      bytes := call.packet.slice (Vp8Grammar.descriptorLength call.packet)
        (call.packetLen - Vp8Grammar.descriptorLength call.packet).toNat }
  else none

theorem ofCall_of_accepted {call : ParseCall}
    (accepted : Vp8Grammar.partitionId call.packet ≤ 8 ∧
      Vp8Grammar.descriptorLength call.packet < call.packetLen) :
    ofCall call = some {
      isFirst := (Vp8Grammar.header call.packet).beginningOfPartition &&
        (Vp8Grammar.header call.packet).partitionId = 0
      bytes := call.packet.slice (Vp8Grammar.descriptorLength call.packet)
        (call.packetLen - Vp8Grammar.descriptorLength call.packet).toNat } := by
  rw [ofCall, if_pos accepted, Vp8Grammar.header_beginningOfPartition,
    Vp8Grammar.header_partitionId]

/-- A condition on the payload of a packet, if it has one. -/
instance decidableForallPayload (call : ParseCall) (condition : Vp8Payload → Prop)
    [DecidablePred condition] :
    Decidable (∀ payload, ofCall call = some payload → condition payload) :=
  match carries : ofCall call with
  | none => .isTrue fun _ impossible => nomatch impossible
  | some payload => decidable_of_iff (condition payload) (by simp)

theorem ofCall_of_empty {call : ParseCall} (empty : call.packetLen = 0) :
    ofCall call = none := by
  refine if_neg fun accepted => ?_
  have := accepted.2
  omega

theorem bytes_ne_nil {call : ParseCall} {payload : Vp8Payload}
    (carries : ofCall call = some payload) : payload.bytes ≠ [] := by
  unfold ofCall at carries
  split_ifs at carries with accepted
  cases carries
  intro empty
  have length := congrArg List.length empty
  rw [Memory.slice_length, List.length_nil] at length
  omega

end Vp8Payload

namespace RtpDepacketizerVp8

/-- The payload has been added to the frame. -/
def hold (depacketizer : RtpDepacketizerVp8) (payload : Vp8Payload) : RtpDepacketizerVp8 :=
  { depacketizer with
    packets := depacketizer.packets + 1
    frameType := if payload.isFirst then payload.frameType else depacketizer.frameType
    frame := depacketizer.frame.write depacketizer.frameLen payload.bytes
    frameLen := depacketizer.frameLen + payload.bytes.length }

theorem hold_frameType_of_first (depacketizer : RtpDepacketizerVp8) {payload : Vp8Payload}
    (first : payload.isFirst = true) :
    (depacketizer.hold payload).frameType = payload.frameType :=
  if_pos first

theorem hold_frameType_of_continued (depacketizer : RtpDepacketizerVp8) {payload : Vp8Payload}
    (continued : payload.isFirst = false) :
    (depacketizer.hold payload).frameType = depacketizer.frameType :=
  if_neg (Bool.eq_false_iff.mp continued)

theorem hold_key_iff {depacketizer : RtpDepacketizerVp8} {payload : Vp8Payload} :
    (depacketizer.hold payload).frameType = .videoFrameKey ↔
      if payload.isFirst then payload.BeginsKeyFrame
      else depacketizer.frameType = .videoFrameKey := by
  cases first : payload.isFirst with
  | true =>
    rw [hold_frameType_of_first _ first, if_pos rfl]
    exact Iff.rfl
  | false => rw [hold_frameType_of_continued _ first, if_neg Bool.false_ne_true]

def closedFrame (depacketizer : RtpDepacketizerVp8) (call : ParseCall) : MediaFrame where
  len := depacketizer.frameLen
  pts := call.pts.toNat
  rtpPayloadType := call.payloadType
  flags := if depacketizer.frameType = .videoFrameKey then frameIsSyncPoint else 0
  packets := depacketizer.packets

/-- `parse` adds the payload of the packet to the frame. -/
structure Accepts (depacketizer : RtpDepacketizerVp8) (call : ParseCall) (payload : Vp8Payload) :
    Prop where
  carries : Vp8Payload.ofCall call = some payload
  whole : ¬ payload.ShortKeyFrame
  fits : depacketizer.frameLen + payload.bytes.length ≤ maxEsFrameSize

theorem accepts_iff {depacketizer : RtpDepacketizerVp8} {call : ParseCall}
    {payload : Vp8Payload} : depacketizer.Accepts call payload ↔
      Vp8Payload.ofCall call = some payload ∧ ¬ payload.ShortKeyFrame ∧
        depacketizer.frameLen + payload.bytes.length ≤ maxEsFrameSize :=
  ⟨fun accepts => ⟨accepts.carries, accepts.whole, accepts.fits⟩,
    fun ⟨carries, whole, fits⟩ => ⟨carries, whole, fits⟩⟩

instance (depacketizer : RtpDepacketizerVp8) (call : ParseCall) (payload : Vp8Payload) :
    Decidable (depacketizer.Accepts call payload) :=
  decidable_of_iff _ accepts_iff.symm

/-- The gate lets the frame through that the payload ends. -/
theorem not_gated {depacketizer : RtpDepacketizerVp8} {payload : Vp8Payload}
    (passes : depacketizer.keyRequired = false ∨
      (depacketizer.hold payload).frameType = .videoFrameKey) :
    ¬ (depacketizer.keyRequired = true ∧
      (depacketizer.hold payload).frameType ≠ .videoFrameKey) := by
  rintro ⟨required, notKey⟩
  exact notKey (passes.resolve_left (by simp [required]))

/-- Everything a `parse` call can do. -/
inductive Step (depacketizer : RtpDepacketizerVp8) (call : ParseCall) :
    ParseResult RtpDepacketizerVp8 → Prop where
  | empty (empty : call.packetLen = 0) : Step depacketizer call ⟨.error, depacketizer, call.frame⟩
  | refused (refused : Vp8Payload.ofCall call = none) :
      Step depacketizer call
        ⟨.error, { depacketizer with packets := depacketizer.packets + 1 }, call.frame⟩
  -- `m_frame_type` is set before `ParseVP8FrameSize` refuses the packet
  | shortKeyFrame (payload : Vp8Payload) (carries : Vp8Payload.ofCall call = some payload)
      (short : payload.ShortKeyFrame) :
      Step depacketizer call
        ⟨.error, { depacketizer with
          packets := depacketizer.packets + 1, frameType := .videoFrameKey }, call.frame⟩
  | tooLarge (payload : Vp8Payload) (carries : Vp8Payload.ofCall call = some payload)
      (whole : ¬ payload.ShortKeyFrame)
      (tooLarge : maxEsFrameSize < depacketizer.frameLen + payload.bytes.length) :
      Step depacketizer call
        ⟨.error, { depacketizer with
          packets := 0, frameType := .emptyFrame, frameLen := 0 }, call.frame⟩
  | held (payload : Vp8Payload) (accepts : depacketizer.Accepts call payload)
      (unmarked : call.marker = false) :
      Step depacketizer call ⟨.needMore, depacketizer.hold payload, call.frame⟩
  -- the gate is shut
  | dropped (payload : Vp8Payload) (accepts : depacketizer.Accepts call payload)
      (marked : call.marker = true) (keyRequired : depacketizer.keyRequired = true)
      (notKey : (depacketizer.hold payload).frameType ≠ .videoFrameKey) :
      Step depacketizer call
        ⟨.needMore, { depacketizer.hold payload with packets := 0, frameLen := 0 }, call.frame⟩
  | delivered (payload : Vp8Payload) (accepts : depacketizer.Accepts call payload)
      (marked : call.marker = true)
      (passes : depacketizer.keyRequired = false ∨
        (depacketizer.hold payload).frameType = .videoFrameKey) :
      Step depacketizer call
        { status := .frame
          depacketizer := { depacketizer.hold payload with
            keyRequired := false, packets := 0, frameLen := 0 }
          frame := call.frame.map fun _ => (depacketizer.hold payload).closedFrame call }

theorem payloadFrameType_value (packet : Memory UInt8) (isFirst : Bool) (data : Nat) {length : Nat}
    (nonempty : 0 < length) :
    (payloadFrameType isFirst data).value packet =
      Vp8Payload.frameType ⟨isFirst, packet.slice data length⟩ := by
  obtain ⟨rest, rfl⟩ := Nat.exists_eq_succ_of_ne_zero (Nat.ne_of_gt nonempty)
  rw [payloadFrameType, LoggedReader.value_ite, Vp8Payload.frameType, Memory.slice_succ]
  rfl

theorem parseVp8FrameSize_isNone (packet : Memory UInt8) (parsed : ParsedPayload)
    (data dataLength : Nat) :
    ((parseVp8FrameSize parsed data dataLength).value packet).isNone ↔
      parsed.frameType = .videoFrameKey ∧ dataLength < 10 := by
  rw [parseVp8FrameSize, LoggedReader.value_ite, LoggedReader.value_ite]
  by_cases key : parsed.frameType = .videoFrameKey
  · rw [if_neg (not_not.mpr key)]
    by_cases short : dataLength < 10
    · rw [if_pos short]
      exact iff_of_true rfl ⟨key, short⟩
    · rw [if_neg short]
      exact iff_of_false Bool.false_ne_true fun both => short both.2
  · rw [if_pos key]
    exact iff_of_false Bool.false_ne_true fun both => key both.1

theorem step_finishPacket {depacketizer : RtpDepacketizerVp8} {call : ParseCall}
    {payload : Vp8Payload} (accepts : depacketizer.Accepts call payload) :
    Step depacketizer call ((depacketizer.hold payload).finishPacket call) := by
  rw [finishPacket]
  by_cases marked : call.marker = true
  · rw [if_pos marked]
    split
    next gated => exact .dropped payload accepts marked gated.1 gated.2
    next passes =>
      refine .delivered payload accepts marked ?_
      by_cases key : (depacketizer.hold payload).frameType = .videoFrameKey
      · exact .inr key
      · exact .inl (Bool.eq_false_iff.mpr fun required => passes ⟨required, key⟩)
  · rw [if_neg marked]
    exact .held payload accepts (Bool.eq_false_iff.mpr marked)

theorem step_parsePayload {depacketizer : RtpDepacketizerVp8} {call : ParseCall}
    {parsed : ParsedPayload} {data length : Nat}
    (carries : Vp8Payload.ofCall call =
      some ⟨parsed.vp8.beginningOfPartition && parsed.vp8.partitionId = 0,
        call.packet.slice data length⟩) (nonempty : 0 < length) :
    Step depacketizer call
      (({ depacketizer with packets := depacketizer.packets + 1 }.parsePayload call parsed data
        length).value call.packet) := by
  rw [parsePayload, LoggedReader.value_bind, payloadFrameType_value _ _ _ nonempty]
  generalize (parsed.vp8.beginningOfPartition && parsed.vp8.partitionId = 0) = isFirst at carries ⊢
  generalize bytes_eq : call.packet.slice data length = bytes at carries ⊢
  have bytes_length : bytes.length = length := by rw [← bytes_eq, Memory.slice_length]
  have refuses := parseVp8FrameSize_isNone call.packet
    { parsed with frameType := Vp8Payload.frameType ⟨isFirst, bytes⟩ } data length
  dsimp only at refuses ⊢
  rw [LoggedReader.value_bind]
  cases size : (parseVp8FrameSize
      { parsed with frameType := Vp8Payload.frameType ⟨isFirst, bytes⟩ } data length).value
      call.packet with
  | none =>
    have short : Vp8Payload.ShortKeyFrame ⟨isFirst, bytes⟩ := by
      rw [size] at refuses
      rw [Vp8Payload.ShortKeyFrame, bytes_length]
      exact refuses.mp rfl
    have first : isFirst = true := ((Vp8Payload.beginsKeyFrame_iff _).mp short.1).1
    have key : Vp8Payload.frameType ⟨isFirst, bytes⟩ = .videoFrameKey := short.1
    dsimp only
    rw [if_pos first, key]
    exact .shortKeyFrame _ carries short
  | some sized =>
    have whole : ¬ Vp8Payload.ShortKeyFrame ⟨isFirst, bytes⟩ := by
      rw [size] at refuses
      rw [Vp8Payload.ShortKeyFrame, bytes_length]
      exact fun both => Bool.false_ne_true (refuses.mpr both)
    -- the two ways to write the update of `m_frame_type`
    have typed : (if isFirst = true then
        { depacketizer with
          packets := depacketizer.packets + 1,
          frameType := Vp8Payload.frameType ⟨isFirst, bytes⟩ }
        else { depacketizer with packets := depacketizer.packets + 1 }) =
        { depacketizer with
          packets := depacketizer.packets + 1,
          frameType := if isFirst = true then Vp8Payload.frameType ⟨isFirst, bytes⟩
            else depacketizer.frameType } := by
      split <;> rfl
    dsimp only
    rw [LoggedReader.value_ite, typed]
    by_cases tooLarge : depacketizer.frameLen + length > maxEsFrameSize
    · rw [if_pos tooLarge]
      exact .tooLarge _ carries whole (by rw [bytes_length]; exact tooLarge)
    · rw [if_neg tooLarge, LoggedReader.value_bind, LoggedReader.value_readSlice, bytes_eq]
      have accepts : depacketizer.Accepts call ⟨isFirst, bytes⟩ :=
        ⟨carries, whole, by rw [bytes_length]; exact Nat.not_lt.mp tooLarge⟩
      have finished := step_finishPacket accepts
      rw [hold, bytes_length] at finished
      exact finished

theorem step_answer (depacketizer : RtpDepacketizerVp8) (call : ParseCall) :
    Step depacketizer call (answer depacketizer call) := by
  change Step depacketizer call ((depacketizer.parse call).value call.packet)
  rw [parse, LoggedReader.value_ite]
  by_cases empty : call.packetLen = 0
  · rw [if_pos empty]
    exact .empty empty
  · rw [if_neg empty, LoggedReader.value_bind, parseDescriptor_value]
    by_cases accepted : Vp8Grammar.partitionId call.packet ≤ 8 ∧
        Vp8Grammar.descriptorLength call.packet < call.packetLen
    · rw [if_pos accepted]
      exact step_parsePayload (Vp8Payload.ofCall_of_accepted accepted) (by omega)
    · rw [if_neg accepted]
      exact .refused (by rw [Vp8Payload.ofCall, if_neg accepted])

theorem answer_of_accepts {depacketizer : RtpDepacketizerVp8} {call : ParseCall}
    {payload : Vp8Payload} (accepts : depacketizer.Accepts call payload) :
    answer depacketizer call = (depacketizer.hold payload).finishPacket call := by
  have step := step_answer depacketizer call
  generalize answer depacketizer call = result at step
  have same : ∀ {other}, Vp8Payload.ofCall call = some other → other = payload := fun carries =>
    Option.some.inj (carries.symm.trans accepts.carries)
  cases step with
  | empty empty => cases (Vp8Payload.ofCall_of_empty empty).symm.trans accepts.carries
  | refused refused => cases refused.symm.trans accepts.carries
  | shortKeyFrame other carries short => exact absurd (same carries ▸ short) accepts.whole
  | tooLarge other carries whole tooLarge =>
    have fits := accepts.fits
    rw [same carries] at tooLarge
    omega
  | held other held unmarked =>
    rw [same held.carries, finishPacket, if_neg (Bool.eq_false_iff.mp unmarked)]
  | dropped other held marked keyRequired notKey =>
    rw [same held.carries] at notKey ⊢
    rw [finishPacket, if_pos marked, if_pos ⟨keyRequired, notKey⟩]
  | delivered other held marked passes =>
    rw [same held.carries] at passes ⊢
    rw [finishPacket, if_pos marked, if_neg]
    · rfl
    · rintro ⟨keyRequired, notKey⟩
      rcases passes with notRequired | key
      · exact Bool.false_ne_true (notRequired.symm.trans keyRequired)
      · exact notKey key

/-! ## One answer to each packet -/

section Answers

variable {depacketizer : RtpDepacketizerVp8} {call : ParseCall} {payload : Vp8Payload}

theorem answer_of_empty (empty : call.packetLen = 0) :
    answer depacketizer call = ⟨.error, depacketizer, call.frame⟩ := by
  change (depacketizer.parse call).value call.packet = _
  rw [parse, LoggedReader.value_ite, if_pos empty]
  rfl

/-- `parse` gets past the length but not past the descriptor. -/
theorem answer_of_refused (occupied : call.packetLen ≠ 0)
    (refused : Vp8Payload.ofCall call = none) :
    answer depacketizer call =
      ⟨.error, { depacketizer with packets := depacketizer.packets + 1 }, call.frame⟩ := by
  have step := step_answer depacketizer call
  generalize answer depacketizer call = result at step ⊢
  cases step with
  | empty empty => exact absurd empty occupied
  | refused => rfl
  | shortKeyFrame payload carries | tooLarge payload carries =>
    cases refused.symm.trans carries
  | held payload accepts | dropped payload accepts | delivered payload accepts =>
    cases refused.symm.trans accepts.carries

theorem answer_of_shortKeyFrame (carries : Vp8Payload.ofCall call = some payload)
    (short : payload.ShortKeyFrame) :
    answer depacketizer call =
      ⟨.error, { depacketizer with
        packets := depacketizer.packets + 1, frameType := .videoFrameKey }, call.frame⟩ := by
  have step := step_answer depacketizer call
  generalize answer depacketizer call = result at step ⊢
  have same : ∀ {other}, Vp8Payload.ofCall call = some other → other = payload := fun found =>
    Option.some.inj (found.symm.trans carries)
  cases step with
  | empty empty => cases (Vp8Payload.ofCall_of_empty empty).symm.trans carries
  | refused refused => cases refused.symm.trans carries
  | shortKeyFrame => rfl
  | tooLarge other found whole => exact absurd short (same found ▸ whole)
  | held other accepts | dropped other accepts | delivered other accepts =>
    exact absurd short (same accepts.carries ▸ accepts.whole)

/-- The payload does not fit `m_frame`. -/
structure Overflows (depacketizer : RtpDepacketizerVp8) (call : ParseCall) (payload : Vp8Payload) :
    Prop where
  carries : Vp8Payload.ofCall call = some payload
  whole : ¬ payload.ShortKeyFrame
  tooLarge : maxEsFrameSize < depacketizer.frameLen + payload.bytes.length

theorem answer_of_overflows (overflows : depacketizer.Overflows call payload) :
    answer depacketizer call =
      ⟨.error, { depacketizer with packets := 0, frameType := .emptyFrame, frameLen := 0 },
        call.frame⟩ := by
  have step := step_answer depacketizer call
  generalize answer depacketizer call = result at step ⊢
  have same : ∀ {other}, Vp8Payload.ofCall call = some other → other = payload := fun carries =>
    Option.some.inj (carries.symm.trans overflows.carries)
  cases step with
  | empty empty => cases (Vp8Payload.ofCall_of_empty empty).symm.trans overflows.carries
  | refused refused => cases refused.symm.trans overflows.carries
  | shortKeyFrame other carries short => exact absurd (same carries ▸ short) overflows.whole
  | tooLarge other carries whole tooLarge => rfl
  | held other accepts | dropped other accepts | delivered other accepts =>
    have fits := accepts.fits
    rw [same accepts.carries] at fits
    exact absurd overflows.tooLarge (Nat.not_lt.mpr fits)

end Answers

end RtpDepacketizerVp8

end RtpPlayer
