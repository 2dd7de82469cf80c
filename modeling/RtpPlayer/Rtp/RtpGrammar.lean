import RtpPlayer.Rtp.RtpPacket

/-! # The RTP datagram grammar

What `RtpPacket::parse` accepts, said without a running `need_size`: where the payload of a buffer
begins, how many padding bytes end it, and when the parts fit.  `value_parse` gives the parser's
result in these terms, `readsBelow_parse` bounds its reads. -/

namespace RtpPlayer

open Foundations
open Foundations.ByteOrder

namespace RtpGrammar

/-! ## The parts of a buffer -/

def version (buffer : Memory UInt8) : Nat := (buffer 0).toNat / 64

/-- `P`, whether there is padding. -/
def hasPadding (buffer : Memory UInt8) : Bool := (buffer 0).toNat / 32 % 2 = 1

/-- `X`, whether there is a header extension. -/
def hasExtension (buffer : Memory UInt8) : Bool := (buffer 0).toNat / 16 % 2 = 1

def csrcCount (buffer : Memory UInt8) : Nat := (buffer 0).toNat % 16

def marker (buffer : Memory UInt8) : Bool := (buffer 1).toNat / 128 = 1

def payloadType (buffer : Memory UInt8) : Nat := (buffer 1).toNat % 128

def sequence (buffer : Memory UInt8) : UInt16 := ofBigEndian16 (buffer 2) (buffer 3)

def timestamp (buffer : Memory UInt8) : UInt32 :=
  ofBigEndian32 (buffer 4) (buffer 5) (buffer 6) (buffer 7)

def ssrc (buffer : Memory UInt8) : UInt32 :=
  ofBigEndian32 (buffer 8) (buffer 9) (buffer 10) (buffer 11)

/-- The offset behind the CSRCs. -/
def csrcEnd (buffer : Memory UInt8) : Nat := 12 + 4 * csrcCount buffer

/-- The number of 32-bit words the header extension announces. -/
def extensionWords (buffer : Memory UInt8) : Nat :=
  (ofBigEndian16 (buffer (csrcEnd buffer + 2)) (buffer (csrcEnd buffer + 3))).toNat

/-- Where the payload begins. -/
def payloadOffset (buffer : Memory UInt8) : Nat :=
  csrcEnd buffer + if hasExtension buffer then 4 + 4 * extensionWords buffer else 0

/-- How many bytes of padding end the buffer; a count of zero stands for one byte. -/
def paddingLength (buffer : Memory UInt8) (size : Nat) : Nat :=
  if hasPadding buffer then max 1 (buffer (size - 1)).toNat else 0

/-- The buffer has a header, is of version 2, and all its parts fit. -/
def WellFormed (buffer : Memory UInt8) (size : Nat) : Prop :=
  12 ≤ size ∧ version buffer = 2 ∧ payloadOffset buffer + paddingLength buffer size ≤ size

instance (buffer : Memory UInt8) (size : Nat) : Decidable (WellFormed buffer size) :=
  inferInstanceAs (Decidable (_ ∧ _ ∧ _))

def payload (buffer : Memory UInt8) (size : Nat) : List UInt8 :=
  buffer.slice (payloadOffset buffer)
    (size - payloadOffset buffer - paddingLength buffer size)

end RtpGrammar

/-! ## The header fields -/

namespace RtpHeader

theorem ofBytes_cc (bytes : Memory UInt8) :
    (ofBytes bytes).cc.toNat = RtpGrammar.csrcCount bytes := by
  simp [ofBytes, RtpGrammar.csrcCount]

theorem ofBytes_x (bytes : Memory UInt8) :
    (ofBytes bytes).x ≠ 0 ↔ RtpGrammar.hasExtension bytes = true := by
  rw [ne_eq, ← BitVec.toNat_inj]
  simp [ofBytes, RtpGrammar.hasExtension, Nat.shiftRight_eq_div_pow]

theorem ofBytes_p (bytes : Memory UInt8) :
    (ofBytes bytes).p ≠ 0 ↔ RtpGrammar.hasPadding bytes = true := by
  rw [ne_eq, ← BitVec.toNat_inj]
  simp [ofBytes, RtpGrammar.hasPadding, Nat.shiftRight_eq_div_pow]

theorem ofBytes_v (bytes : Memory UInt8) :
    (ofBytes bytes).v ≠ 2 ↔ RtpGrammar.version bytes ≠ 2 := by
  have := (bytes 0).toNat_lt
  rw [ne_eq, ← BitVec.toNat_inj]
  simp [ofBytes, RtpGrammar.version, Nat.shiftRight_eq_div_pow]
  omega

theorem ofBytes_m (bytes : Memory UInt8) :
    (ofBytes bytes).m ≠ 0 ↔ RtpGrammar.marker bytes = true := by
  have := (bytes 1).toNat_lt
  rw [ne_eq, ← BitVec.toNat_inj]
  simp [ofBytes, RtpGrammar.marker, Nat.shiftRight_eq_div_pow]
  omega

theorem ofBytes_pt (bytes : Memory UInt8) :
    (ofBytes bytes).pt.toNat = RtpGrammar.payloadType bytes := by
  simp [ofBytes, RtpGrammar.payloadType]

theorem ofBytes_congr {first second : Memory UInt8}
    (agree : ∀ index < size, first index = second index) : ofBytes first = ofBytes second := by
  have cell : ∀ index, index < 12 → first index = second index := agree
  simp [ofBytes, cell]

end RtpHeader

/-! ## What `parse` returns -/

namespace RtpGrammar

variable (buffer : Memory UInt8) (size : UInt16)

@[simp] theorem value_readHeader :
    (RtpPacket.readHeader 0).value buffer = RtpHeader.ofBytes buffer := by
  apply RtpHeader.ofBytes_congr
  intro index bound
  change Memory.ofList (buffer.slice 0 RtpHeader.size) _ index = _
  rw [Memory.ofList_apply _ (by simpa using bound)]
  simp

theorem value_skipExtension :
    (RtpPacket.skipExtension size (RtpHeader.ofBytes buffer) (csrcEnd buffer)
        (csrcEnd buffer)).value buffer =
      if hasExtension buffer = false ∨ payloadOffset buffer ≤ size.toNat then
        some (payloadOffset buffer, payloadOffset buffer)
      else none := by
  unfold RtpPacket.skipExtension
  cases extended : hasExtension buffer with
  | true =>
    rw [if_pos ((RtpHeader.ofBytes_x buffer).mpr extended)]
    have words : (ntohs ((RtpPacket.readUInt16 (csrcEnd buffer + 2)).value buffer)).toNat =
        extensionWords buffer :=
      congrArg UInt16.toNat (swap16_ofLittleEndian16 _ _)
    have offset : payloadOffset buffer = csrcEnd buffer + (4 + 4 * extensionWords buffer) := by
      rw [payloadOffset, if_pos extended]
    simp only [LoggedReader.value_ite, LoggedReader.value_bind, LoggedReader.value_pure, words,
      offset, Bool.true_eq_false, false_or]
    split_ifs <;> first | rfl | omega | (congr 2 <;> omega)
  | false =>
    have unset : ¬ (RtpHeader.ofBytes buffer).x ≠ 0 := by
      rw [RtpHeader.ofBytes_x, extended]
      decide
    have offset : payloadOffset buffer = csrcEnd buffer := by simp [payloadOffset, extended]
    rw [if_neg unset, if_pos (.inl rfl), offset]
    rfl

theorem value_stripPadding (needSize : Nat) (payloadSize : UInt16) :
    (RtpPacket.stripPadding size (RtpHeader.ofBytes buffer) needSize payloadSize).value buffer =
      if hasPadding buffer = false ∨ needSize + paddingLength buffer size.toNat ≤ size.toNat then
        some (payloadSize - UInt16.ofNat (paddingLength buffer size.toNat))
      else none := by
  unfold RtpPacket.stripPadding
  cases padded : hasPadding buffer with
  | true =>
    rw [if_pos ((RtpHeader.ofBytes_p buffer).mpr padded)]
    -- a count of zero stands for the one byte that holds it
    generalize lastByte : buffer (size.toNat - 1) = last
    generalize chosen : (if last < 1 then 1 else last) = paddingSize
    have count : paddingLength buffer size.toNat = paddingSize.toNat := by
      simp only [paddingLength, padded, if_true, lastByte, ← chosen]
      split
      next small =>
        have : last.toNat < 1 := UInt8.lt_iff_toNat_lt.mp small
        simp only [UInt8.toNat_one]
        omega
      next large =>
        have : ¬ last.toNat < 1 := fun small => large (UInt8.lt_iff_toNat_lt.mpr small)
        omega
    have positive : 1 ≤ paddingSize.toNat := by
      rw [← count, paddingLength, if_pos padded]
      exact Nat.le_max_left _ _
    simp only [LoggedReader.value_ite, LoggedReader.value_bind, LoggedReader.value_pure,
      LoggedReader.value_read, lastByte, chosen, count, Bool.true_eq_false, false_or]
    rw [UInt16.ofNat_uInt8ToNat]
    split_ifs <;> first | rfl | omega
  | false =>
    have unset : ¬ (RtpHeader.ofBytes buffer).p ≠ 0 := by
      rw [RtpHeader.ofBytes_p, padded]
      decide
    have none : paddingLength buffer size.toNat = 0 := by simp [paddingLength, padded]
    rw [if_neg unset, if_pos (.inl rfl), none]
    simp

def accepted : ParsedPacket where
  ret := true
  hdr := RtpHeader.ofBytes buffer
  payload := if payload buffer size.toNat = [] then none else some (payloadOffset buffer)
  payloadSize := UInt16.ofNat (payload buffer size.toNat).length

theorem payload_length_lt : (payload buffer size.toNat).length < UInt16.size := by
  have := size.toNat_lt
  simp only [payload, Memory.slice_length, UInt16.size]
  omega

theorem value_parseBody (csrcsFit : csrcEnd buffer ≤ size.toNat) :
    (RtpPacket.parseBody size (RtpHeader.ofBytes buffer) (csrcEnd buffer)
        (csrcEnd buffer)).value buffer =
      if payloadOffset buffer + paddingLength buffer size.toNat ≤ size.toNat then
        accepted buffer size
      else RtpPacket.reject (RtpHeader.ofBytes buffer) := by
  simp only [RtpPacket.parseBody, LoggedReader.value_bind, value_skipExtension]
  by_cases fits : payloadOffset buffer + paddingLength buffer size.toNat ≤ size.toNat
  · -- the 16-bit subtraction does not wrap, since the padding fits behind the offset
    have remaining : UInt16.ofNat (size.toNat - payloadOffset buffer) -
        UInt16.ofNat (paddingLength buffer size.toNat) =
        UInt16.ofNat (payload buffer size.toNat).length := by
      rw [payload, Memory.slice_length, ← UInt16.ofNat_sub (by omega)]
    have empty : UInt16.ofNat (payload buffer size.toNat).length = 0 ↔
        payload buffer size.toNat = [] := by
      rw [← List.length_eq_zero_iff, ← UInt16.toNat_inj,
        UInt16.toNat_ofNat_of_lt' (payload_length_lt buffer size)]
      rfl
    rw [if_pos (.inr (by omega)), if_pos fits]
    simp only [LoggedReader.value_bind, value_stripPadding]
    rw [if_pos (.inr fits)]
    simp only [remaining, LoggedReader.value_pure, empty]
    rfl
  · rw [if_neg fits]
    -- either the extension runs over the end or the padding reaches back into it
    by_cases extensionFits : hasExtension buffer = false ∨ payloadOffset buffer ≤ size.toNat
    · have overfull : ¬ (hasPadding buffer = false ∨
          payloadOffset buffer + paddingLength buffer size.toNat ≤ size.toNat) := by
        rintro (unpadded | fitting)
        · have noPadding : paddingLength buffer size.toNat = 0 := by simp [paddingLength, unpadded]
          rcases extensionFits with plain | offsetFits
          · have offset : payloadOffset buffer = csrcEnd buffer := by simp [payloadOffset, plain]
            omega
          · omega
        · exact fits fitting
      rw [if_pos extensionFits]
      simp only [LoggedReader.value_bind, value_stripPadding]
      rw [if_neg overfull]
      rfl
    · rw [if_neg extensionFits]
      rfl

theorem csrcEnd_le_payloadOffset : csrcEnd buffer ≤ payloadOffset buffer := Nat.le_add_right _ _

/-- `parse` accepts the well-formed buffers and no others. -/
theorem value_parse (hdr : RtpHeader) :
    (RtpPacket.parse size hdr).value buffer =
      if WellFormed buffer size.toNat then accepted buffer size
      else RtpPacket.reject (if size.toNat < 12 then hdr else RtpHeader.ofBytes buffer) := by
  have offsetBound := csrcEnd_le_payloadOffset buffer
  unfold RtpPacket.parse
  -- one check after the other, each with its part of well-formedness
  by_cases short : size.toNat < RtpHeader.size
  · have malformed : ¬ WellFormed buffer size.toNat := fun formed =>
      Nat.not_le.mpr short formed.1
    rw [if_pos short, if_neg malformed, if_pos (show size.toNat < 12 from short)]
    rfl
  rw [if_neg short, if_neg (show ¬ size.toNat < 12 from short)]
  simp only [LoggedReader.value_bind, value_readHeader]
  by_cases wrongVersion : (RtpHeader.ofBytes buffer).v ≠ 2
  · have malformed : ¬ WellFormed buffer size.toNat := fun formed =>
      (RtpHeader.ofBytes_v buffer).mp wrongVersion formed.2.1
    rw [if_pos wrongVersion, if_neg malformed]
    rfl
  rw [if_neg wrongVersion]
  simp only [RtpHeader.ofBytes_cc, LoggedReader.value_ite]
  change (if size.toNat < csrcEnd buffer then RtpPacket.reject _ else
    (RtpPacket.parseBody size _ (csrcEnd buffer) (csrcEnd buffer)).value buffer) = _
  by_cases csrcsFit : size.toNat < csrcEnd buffer
  · have malformed : ¬ WellFormed buffer size.toNat := fun formed => by
      have := formed.2.2
      omega
    rw [if_pos csrcsFit, if_neg malformed]
  · have version : version buffer = 2 :=
      Decidable.not_not.mp fun wrong => wrongVersion ((RtpHeader.ofBytes_v buffer).mpr wrong)
    have formed : WellFormed buffer size.toNat ↔
        payloadOffset buffer + paddingLength buffer size.toNat ≤ size.toNat :=
      ⟨fun formed => formed.2.2, fun fits => ⟨Nat.not_lt.mp short, version, fits⟩⟩
    rw [if_neg csrcsFit, value_parseBody buffer size (Nat.not_lt.mp csrcsFit)]
    simp only [formed]

theorem parse_ret_iff (hdr : RtpHeader) :
    ((RtpPacket.parse size hdr).value buffer).ret = true ↔ WellFormed buffer size.toNat := by
  rw [value_parse]
  split
  next formed => exact ⟨fun _ => formed, fun _ => rfl⟩
  next malformed =>
    exact ⟨fun rejected => absurd rejected Bool.false_ne_true,
      fun formed => absurd formed malformed⟩

/-! ## What `parse` reads -/

theorem readsBelow_readUInt16 {pos limit : Nat} (within : pos + 2 ≤ limit) :
    (RtpPacket.readUInt16 pos).ReadsBelow buffer limit :=
  (LoggedReader.readsBelow_read buffer (by omega)).bind
    ((LoggedReader.readsBelow_read buffer (by omega)).bind (LoggedReader.readsBelow_pure _ _ _))

theorem readsBelow_skipExtension (hdr : RtpHeader) (pos : Nat) :
    (RtpPacket.skipExtension size hdr pos pos).ReadsBelow buffer size.toNat := by
  unfold RtpPacket.skipExtension
  refine .ite (fun _ => .ite (fun _ => LoggedReader.readsBelow_pure _ _ _) fun fits => ?_)
    fun _ => LoggedReader.readsBelow_pure _ _ _
  exact (readsBelow_readUInt16 buffer (by omega)).bind
    (.ite (fun _ => LoggedReader.readsBelow_pure _ _ _) fun _ => LoggedReader.readsBelow_pure _ _ _)

theorem readsBelow_stripPadding (hdr : RtpHeader) (needSize : Nat) (payloadSize : UInt16) :
    (RtpPacket.stripPadding size hdr needSize payloadSize).ReadsBelow buffer size.toNat := by
  unfold RtpPacket.stripPadding
  refine .ite (fun _ => .ite (fun _ => LoggedReader.readsBelow_pure _ _ _) fun fits => ?_)
    fun _ => LoggedReader.readsBelow_pure _ _ _
  exact (LoggedReader.readsBelow_read buffer (by omega)).bind
    (.ite (fun _ => LoggedReader.readsBelow_pure _ _ _) fun _ => LoggedReader.readsBelow_pure _ _ _)

theorem readsBelow_parseBody (hdr : RtpHeader) (pos : Nat) :
    (RtpPacket.parseBody size hdr pos pos).ReadsBelow buffer size.toNat := by
  refine (readsBelow_skipExtension buffer size hdr pos).bind ?_
  split
  · exact LoggedReader.readsBelow_pure _ _ _
  · refine (readsBelow_stripPadding buffer size hdr _ _).bind ?_
    split <;> exact LoggedReader.readsBelow_pure _ _ _

theorem readsBelow_parse (hdr : RtpHeader) :
    (RtpPacket.parse size hdr).ReadsBelow buffer size.toNat := by
  unfold RtpPacket.parse
  refine .ite (fun _ => LoggedReader.readsBelow_pure _ _ _) fun long => ?_
  have header : (RtpPacket.readHeader 0).ReadsBelow buffer size.toNat :=
    (LoggedReader.readsBelow_readSlice buffer (by omega)).bind (LoggedReader.readsBelow_pure _ _ _)
  refine header.bind (.ite (fun _ => LoggedReader.readsBelow_pure _ _ _) fun _ => ?_)
  exact .ite (fun _ => LoggedReader.readsBelow_pure _ _ _) fun _ => by
    rw [Nat.zero_add]
    exact readsBelow_parseBody buffer size _ _

end RtpGrammar

end RtpPlayer
