import RtpPlayer.Depacketizers.NaluOperations

/-! # What an operation does

`NaluStep` lists everything an append or a decode can do to an H.264 depacketizer. -/

namespace RtpPlayer

open Foundations
open RtpDepacketizer

namespace RtpDepacketizerH264

def Admits (depacketizer : RtpDepacketizerH264) : Prop :=
  (depacketizer.sentries.gate depacketizer.naluType).1 = true

instance (depacketizer : RtpDepacketizerH264) : Decidable depacketizer.Admits :=
  inferInstanceAs (Decidable (_ = _))

/-- The frame that decoding the current NALU hands out. -/
def closedFrame (depacketizer : RtpDepacketizerH264) (call : ParseCall) : MediaFrame where
  len := depacketizer.store.frameLen
  pts := call.pts.toNat
  flags := depacketizer.closingFlags
  rtpPayloadType := call.payloadType
  packets := depacketizer.packets

/-- Storing the current NALU puts its bytes at the end of the frame. -/
theorem store_frame (depacketizer : RtpDepacketizerH264) :
    depacketizer.store.frame.slice 0 depacketizer.store.frameLen =
      depacketizer.frame.slice 0 depacketizer.frameLen ++
        depacketizer.nalu.slice 0 depacketizer.storedLen := by
  have written := Memory.slice_write_append depacketizer.frame depacketizer.frameLen
    (depacketizer.nalu.slice 0 depacketizer.storedLen)
  rw [Memory.slice_length] at written
  rw [store_eq]
  exact written

/-- A NALU that does not close the frame is stored whole. -/
theorem storedLen_of_remains {depacketizer : RtpDepacketizerH264} {last : Bool}
    (remains : depacketizer.closes last = false) :
    depacketizer.storedLen = depacketizer.naluLen := by
  simp only [closes, Bool.or_eq_false_iff, decide_eq_false_iff_not] at remains
  exact Nat.min_eq_left (by omega)

/-- Everything an operation can do. -/
inductive NaluStep (call : ParseCall) (result : ParseResult RtpDepacketizerH264) :
    NaluOperation →
      Except (ParseResult RtpDepacketizerH264) (ParseResult RtpDepacketizerH264) → Prop where
  | appended (part : NaluPart) (bytes : List UInt8)
      (fits : result.depacketizer.naluLen + bytes.length ≤ maxEsFrameSize) :
      NaluStep call result (.append part bytes)
        (.ok { result with depacketizer := result.depacketizer.pushNalu bytes })
  -- the macro also drops what is in `m_frame`, and leaves the sentries as they are
  | overflowed (part : NaluPart) (bytes : List UInt8)
      (tooLarge : maxEsFrameSize < result.depacketizer.naluLen + bytes.length) :
      NaluStep call result (.append part bytes)
        (.error ⟨.error, { result.depacketizer with naluLen := 0, frameLen := 0, packets := 0 },
          result.frame⟩)
  -- `decode_nalu` refuses an empty NALU, but the loop of a STAP-A packet goes on
  | nothing (last : Bool) (empty : result.depacketizer.naluLen = 0) :
      NaluStep call result (.decode last) (.ok ⟨.error, result.depacketizer, result.frame⟩)
  | rejected (last : Bool) (occupied : result.depacketizer.naluLen ≠ 0)
      (rejected : ¬ result.depacketizer.Admits) :
      NaluStep call result (.decode last)
        (.ok ⟨.needMore, { result.depacketizer with naluLen := 0 }, result.frame⟩)
  | stored (last : Bool) (occupied : result.depacketizer.naluLen ≠ 0)
      (admits : result.depacketizer.Admits) (remains : result.depacketizer.closes last = false) :
      NaluStep call result (.decode last)
        (.ok ⟨.needMore, result.depacketizer.store, result.frame⟩)
  | closed (last : Bool) (occupied : result.depacketizer.naluLen ≠ 0)
      (admits : result.depacketizer.Admits) (closing : result.depacketizer.closes last = true) :
      NaluStep call result (.decode last)
        (.ok {
          status := .frame
          depacketizer := { result.depacketizer.store with packets := 0, frameLen := 0 }
          frame := result.frame.map fun _ => result.depacketizer.closedFrame call })
  | failed :
      NaluStep call result .fail
        (.error ⟨.error, { result.depacketizer with naluLen := 0 }, result.frame⟩)

theorem naluStep_perform (call : ParseCall) (operation : NaluOperation)
    (result : ParseResult RtpDepacketizerH264) :
    NaluStep call result operation (perform call operation result) := by
  cases operation with
  | fail => exact .failed
  | append part bytes =>
    rw [perform]
    by_cases fits : result.depacketizer.naluLen + bytes.length ≤ maxEsFrameSize
    · rw [append_of_le fits]
      exact .appended part bytes fits
    · rw [append_of_lt (Nat.lt_of_not_le fits)]
      exact .overflowed part bytes (Nat.lt_of_not_le fits)
  | decode last =>
    rw [perform]
    by_cases empty : result.depacketizer.naluLen = 0
    · rw [decNalu_of_empty _ _ _ empty]
      exact .nothing last empty
    by_cases admits : result.depacketizer.Admits
    · have admitted := (checkSentries_fst ..).trans admits
      cases closing : result.depacketizer.closes last with
      | false =>
        rw [decNalu_of_stored _ _ _ empty admitted closing]
        exact .stored last empty admits closing
      | true =>
        rw [decNalu_of_closing _ _ _ empty admitted closing]
        exact .closed last empty admits closing
    · have rejected := (checkSentries_fst ..).trans (Bool.eq_false_iff.mpr admits)
      rw [decNalu_of_rejected _ _ _ empty rejected]
      exact .rejected last empty admits

/-- Decoding the current NALU hands out a frame. -/
def HandsOut (last : Bool) (result : ParseResult RtpDepacketizerH264) : Prop :=
  result.depacketizer.naluLen ≠ 0 ∧ result.depacketizer.Admits ∧
    result.depacketizer.closes last = true ∧ result.frame.isSome = true

instance (last : Bool) (result : ParseResult RtpDepacketizerH264) :
    Decidable (HandsOut last result) :=
  inferInstanceAs (Decidable (_ ∧ _ ∧ _ ∧ _))

/-! ## Emptying `m_nalu` -/

theorem naluLen_after_perform {call : ParseCall} {operation : NaluOperation}
    (ends : ∀ part bytes, operation ≠ .append part bytes)
    (result : ParseResult RtpDepacketizerH264) :
    (Script.after (perform call operation result)).depacketizer.naluLen = 0 := by
  have step := naluStep_perform call operation result
  generalize perform call operation result = outcome at step ⊢
  cases step with
  | appended part bytes | overflowed part bytes => exact absurd rfl (ends part bytes)
  | nothing last empty => exact empty
  | rejected | stored | closed | failed => rfl

theorem naluLen_of_error {call : ParseCall} {operation : NaluOperation}
    {result final : ParseResult RtpDepacketizerH264}
    (ended : perform call operation result = .error final) : final.depacketizer.naluLen = 0 := by
  have step := naluStep_perform call operation result
  rw [ended] at step
  cases step <;> rfl

theorem status_of_error {call : ParseCall} {operation : NaluOperation}
    {result final : ParseResult RtpDepacketizerH264}
    (ended : perform call operation result = .error final) : final.status = .error := by
  have step := naluStep_perform call operation result
  rw [ended] at step
  cases step <;> rfl

/-- The script decodes or abandons its last NALU. -/
def EndsNalu (operations : List NaluOperation) : Prop :=
  ∃ earlier last, operations = earlier ++ [last] ∧
    ∀ part bytes, last ≠ NaluOperation.append part bytes

theorem EndsNalu.execute {operations : List NaluOperation} (ends : EndsNalu operations)
    (call : ParseCall) (result : ParseResult RtpDepacketizerH264) :
    (Script.execute (perform call) operations result).depacketizer.naluLen = 0 := by
  obtain ⟨earlier, last, rfl, notAppend⟩ := ends
  have finishes := @naluLen_after_perform call last notAppend
  have abandons : ∀ operation state final, perform call operation state = .error final →
      final.depacketizer.naluLen = 0 := fun _ _ _ ended => naluLen_of_error ended
  exact @Script.execute_concat _ _ _ (fun final => final.depacketizer.naluLen = 0) earlier last
    abandons finishes result

theorem endsNalu_fail : EndsNalu [.fail] := ⟨[], .fail, rfl, nofun⟩

theorem endsNalu_wholeNalu (nalu : List UInt8) (last : Bool) :
    EndsNalu (NaluOperation.wholeNalu nalu last) :=
  ⟨[.append .startcode NaluOperation.startcode, .append .payload nalu], .decode last, rfl, nofun⟩

theorem EndsNalu.append (earlier : List NaluOperation) {operations : List NaluOperation}
    (ends : EndsNalu operations) : EndsNalu (earlier ++ operations) := by
  obtain ⟨front, last, rfl, notAppend⟩ := ends
  exact ⟨earlier ++ front, last, (List.append_assoc ..).symm, notAppend⟩

theorem endsNalu_ofStapA (marker : Bool) (bytes : List UInt8) :
    EndsNalu (NaluOperation.ofStapA marker bytes) := by
  -- on the entries: the script of the last ends in a decode, and one that does not fit in a failure
  induction bytes using NaluOperation.ofStapA.induct with
  | case1 high low rest length tooLong =>
    rw [NaluOperation.ofStapA, if_pos tooLong]
    exact endsNalu_fail
  | case2 high low rest length fits ih =>
    rw [NaluOperation.ofStapA, if_neg fits]
    by_cases more : length < rest.length
    · rw [if_pos more]
      exact (ih more).append _
    · rw [if_neg more, List.append_nil]
      exact endsNalu_wholeNalu ..
  | case3 bytes short =>
    rw [NaluOperation.ofStapA.eq_2 _ _ short]
    exact endsNalu_fail

/-- The script only puts bytes into `m_nalu`. -/
def OnlyAppends (operations : List NaluOperation) : Prop :=
  ∀ operation ∈ operations, ∃ part bytes, operation = .append part bytes

theorem endsNalu_decode (earlier : List NaluOperation) (last : Bool) :
    EndsNalu (earlier ++ [.decode last]) := ⟨earlier, .decode last, rfl, nofun⟩

theorem ofFuA_ends (marker : Bool) (indicator : UInt8) (bytes : List UInt8) :
    EndsNalu (NaluOperation.ofFuA marker indicator bytes) ∨
      OnlyAppends (NaluOperation.ofFuA marker indicator bytes) := by
  cases bytes with
  | nil => exact .inl endsNalu_fail
  | cons header fragment =>
    rw [NaluOperation.ofFuA]
    by_cases both : header &&& 0x80 > 0 ∧ header &&& 0x40 > 0
    · rw [if_pos both]
      exact .inl endsNalu_fail
    · rw [if_neg both]
      by_cases finish : header &&& 0x40 > 0
      · rw [if_pos finish]
        exact .inl (.append _ (endsNalu_decode [.append .payload fragment] marker))
      · rw [if_neg finish]
        refine .inr ?_
        unfold OnlyAppends
        split <;> simp

/-- A packet decodes or abandons the NALU in the end, or it only adds to it. -/
theorem ofPacket_ends {payload : List UInt8} (nonempty : payload ≠ []) (marker : Bool) :
    EndsNalu (NaluOperation.ofPacket payload marker) ∨
      OnlyAppends (NaluOperation.ofPacket payload marker) := by
  cases payload with
  | nil => exact absurd rfl nonempty
  | cons first rest =>
    rw [NaluOperation.ofPacket]
    split
    next => exact .inl (endsNalu_wholeNalu ..)
    next =>
      split
      next => exact .inl (endsNalu_ofStapA ..)
      next =>
        split
        next => exact ofFuA_ends ..
        next => exact .inl endsNalu_fail

/-! ## The last decode of a packet -/

section LastDecode

variable {σ : Type} {perform : NaluOperation → σ → Except σ σ} {invariant property : σ → Prop}
  {assumed condition condition' : Bool → σ → Prop}

/-- The condition on a decode, where it is the last operation of its packet. -/
def OnLastDecode (condition : Bool → σ → Prop) (operation : NaluOperation)
    (later : List NaluOperation) (state : σ) : Prop :=
  ∀ last, operation = .decode last → later = [] → condition last state

instance decidableOnLastDecode [∀ last state, Decidable (condition last state)] :
    ∀ (operation : NaluOperation) (later : List NaluOperation) (state : σ),
      Decidable (OnLastDecode condition operation later state)
  | .append _ _, _, _ => .isTrue nofun
  | .decode last, later, state =>
    decidable_of_iff (later = [] → condition last state) (by simp [OnLastDecode])
  | .fail, _, _ => .isTrue nofun

theorem onLastDecode_congr {operation : NaluOperation} {later : List NaluOperation} {state : σ}
    (agree : ∀ last, assumed last state → (condition last state ↔ condition' last state))
    (assumes : OnLastDecode assumed operation later state) :
    OnLastDecode condition operation later state ↔ OnLastDecode condition' operation later state :=
  forall_congr' fun last => forall₂_congr fun same none => agree last (assumes last same none)

theorem onLastDecode_iff (last : Bool) (state : σ) :
    OnLastDecode condition (.decode last) [] state ↔ condition last state := by
  simp [OnLastDecode]

theorem onLastDecode_of_later (operation : NaluOperation) {later : List NaluOperation} (state : σ)
    (more : later ≠ []) : OnLastDecode condition operation later state :=
  fun _ _ none => absurd none more

/-- Where a decode gives the property exactly under the condition and nothing else takes it away,
a packet gives it exactly where its last decode meets the condition. -/
theorem execute_ofPacket_iff
    (keeps : ∀ operation state next, invariant state → perform operation state = .ok next →
      invariant next)
    (ends : ∀ operation state final, perform operation state = .error final → property final)
    (appends : ∀ part bytes state, property state →
      property (Script.after (perform (.append part bytes) state)))
    (fails : ∀ state, property (Script.after (perform .fail state)))
    (decodes : ∀ last state, invariant state →
      (property (Script.after (perform (.decode last) state)) ↔ condition last state))
    (payload : List UInt8) (marker : Bool) {state : σ} (holds : invariant state)
    (begins : property state) :
    property (Script.execute perform (NaluOperation.ofPacket payload marker) state) ↔
      Script.Guarded perform (OnLastDecode condition) (NaluOperation.ofPacket payload marker)
        state := by
  by_cases nonempty : payload = []
  · rw [nonempty]
    exact iff_of_true begins trivial
  rcases ofPacket_ends nonempty marker with ⟨earlier, last, script, notAppend⟩ | appended
  · rw [script]
    refine Script.execute_concat_iff_guarded keeps ends ?_ ?_ earlier holds
    · intro operation later state more
      exact onLastDecode_of_later operation state more
    · intro state holds
      cases last with
      | append part bytes => exact absurd rfl (notAppend part bytes)
      | decode last => rw [onLastDecode_iff, decodes last state holds]
      | fail =>
        refine iff_of_true (fails state) fun last same => ?_
        cases same
  · -- a packet that decodes nothing is under no condition
    refine iff_of_true (Script.execute_invariant ?_ begins) (Script.guarded_of_forall ?_ state)
    · intro operation member state given
      obtain ⟨part, bytes, rfl⟩ := appended operation member
      exact appends part bytes state given
    · intro operation member later state last same
      obtain ⟨part, bytes, rfl⟩ := appended operation member
      cases same

end LastDecode

end RtpDepacketizerH264

end RtpPlayer
