import RtpPlayer.Rtp.RtpGrammar

/-! # RTP datagrams

A datagram as the values it carries, and its serialisation.  `wellFormed_iff_serialise` says that
the buffers the grammar admits are exactly the serialisations of datagrams. -/

namespace RtpPlayer

open Foundations
open Foundations.ByteOrder

/-- A header extension: sixteen bits the profile defines, then whole words. -/
structure HeaderExtension where
  profile : UInt16
  words : List UInt32
  words_le : words.length < UInt16.size

/-- Padding: filler and a last byte that counts all of it; one byte alone may also count zero. -/
structure Padding where
  filler : List UInt8
  count : UInt8
  count_eq : max 1 count.toNat = filler.length + 1

/-- What an RTP datagram of version 2 carries. -/
structure RtpDatagram where
  marker : Bool
  payloadType : BitVec 7
  sequence : UInt16
  timestamp : UInt32
  ssrc : UInt32
  csrcs : List UInt32
  csrcs_le : csrcs.length < 16
  extension : Option HeaderExtension
  payload : List UInt8
  padding : Option Padding

namespace HeaderExtension

def serialise (extension : HeaderExtension) : List UInt8 :=
  bigEndian16 extension.profile ++ bigEndian16 (UInt16.ofNat extension.words.length) ++
    extension.words.flatMap bigEndian32

theorem serialise_length (extension : HeaderExtension) :
    extension.serialise.length = 4 + 4 * extension.words.length := by
  simp only [serialise, List.length_append, bigEndian16_length, flatMap_bigEndian32_length]

end HeaderExtension

namespace Padding

def serialise (padding : Padding) : List UInt8 := padding.filler ++ [padding.count]

theorem serialise_length (padding : Padding) :
    padding.serialise.length = max 1 padding.count.toNat := by
  simp [serialise, padding.count_eq]

end Padding

namespace RtpDatagram

variable (datagram : RtpDatagram)

def firstByte : UInt8 :=
  UInt8.ofNat (128 + (if datagram.padding.isSome then 32 else 0) +
    (if datagram.extension.isSome then 16 else 0) + datagram.csrcs.length)

def secondByte : UInt8 :=
  UInt8.ofNat ((if datagram.marker then 128 else 0) + datagram.payloadType.toNat)

def headerBytes : List UInt8 :=
  [datagram.firstByte, datagram.secondByte] ++ bigEndian16 datagram.sequence ++
    bigEndian32 datagram.timestamp ++ bigEndian32 datagram.ssrc

def csrcBytes : List UInt8 := datagram.csrcs.flatMap bigEndian32

def extensionBytes : List UInt8 := (datagram.extension.map HeaderExtension.serialise).getD []

def paddingBytes : List UInt8 := (datagram.padding.map Padding.serialise).getD []

def serialise : List UInt8 :=
  datagram.headerBytes ++ datagram.csrcBytes ++ datagram.extensionBytes ++ datagram.payload ++
    datagram.paddingBytes

@[simp] theorem headerBytes_length : datagram.headerBytes.length = 12 := rfl

theorem csrcBytes_length : datagram.csrcBytes.length = 4 * datagram.csrcs.length :=
  flatMap_bigEndian32_length _

theorem firstByte_toNat : datagram.firstByte.toNat =
    128 + (if datagram.padding.isSome then 32 else 0) +
      (if datagram.extension.isSome then 16 else 0) + datagram.csrcs.length := by
  have := datagram.csrcs_le
  rw [firstByte, UInt8.toNat_ofNat']
  split <;> split <;> omega

theorem secondByte_toNat : datagram.secondByte.toNat =
    (if datagram.marker then 128 else 0) + datagram.payloadType.toNat := by
  have := datagram.payloadType.isLt
  rw [secondByte, UInt8.toNat_ofNat']
  split <;> omega

end RtpDatagram

/-! ## From a datagram to its buffer -/

namespace RtpGrammar

section Serialised

variable {datagram : RtpDatagram} {buffer : Memory UInt8}
  (known : buffer.slice 0 datagram.serialise.length = datagram.serialise)

include known

theorem serialised_header : buffer.slice 0 12 = datagram.headerBytes :=
  Memory.slice_of_append buffer [] datagram.headerBytes
    (datagram.csrcBytes ++ datagram.extensionBytes ++ datagram.payload ++ datagram.paddingBytes)
    (by simpa [RtpDatagram.serialise] using known)

theorem serialised_extension :
    buffer.slice (12 + 4 * datagram.csrcs.length) datagram.extensionBytes.length =
      datagram.extensionBytes := by
  have block := Memory.slice_of_append buffer (datagram.headerBytes ++ datagram.csrcBytes)
    datagram.extensionBytes (datagram.payload ++ datagram.paddingBytes)
    (by simpa [RtpDatagram.serialise] using known)
  rwa [List.length_append, RtpDatagram.headerBytes_length, RtpDatagram.csrcBytes_length] at block

theorem serialised_payload :
    buffer.slice (12 + 4 * datagram.csrcs.length + datagram.extensionBytes.length)
      datagram.payload.length = datagram.payload := by
  have block := Memory.slice_of_append buffer
    (datagram.headerBytes ++ datagram.csrcBytes ++ datagram.extensionBytes)
    datagram.payload datagram.paddingBytes (by simpa [RtpDatagram.serialise] using known)
  rwa [List.length_append, List.length_append, RtpDatagram.headerBytes_length,
    RtpDatagram.csrcBytes_length] at block

theorem serialised_padding :
    buffer.slice (datagram.serialise.length - datagram.paddingBytes.length)
      datagram.paddingBytes.length = datagram.paddingBytes := by
  have block := Memory.slice_of_append buffer
    (datagram.headerBytes ++ datagram.csrcBytes ++ datagram.extensionBytes ++ datagram.payload)
    datagram.paddingBytes [] (by simpa [RtpDatagram.serialise] using known)
  have start : datagram.serialise.length - datagram.paddingBytes.length =
      (datagram.headerBytes ++ datagram.csrcBytes ++ datagram.extensionBytes ++
        datagram.payload).length := by
    simp only [RtpDatagram.serialise, List.length_append]
    omega
  rwa [start]

theorem serialised_cell {index : Nat} (bound : index < datagram.headerBytes.length) :
    buffer index = datagram.headerBytes[index] := by
  simpa using Memory.apply_of_slice (serialised_header known) bound

theorem serialised_firstByte : buffer 0 = datagram.firstByte := serialised_cell known (by simp)

theorem serialised_secondByte : buffer 1 = datagram.secondByte := serialised_cell known (by simp)

theorem serialised_version : version buffer = 2 := by
  have := datagram.csrcs_le
  rw [version, serialised_firstByte known, RtpDatagram.firstByte_toNat]
  split <;> split <;> omega

theorem serialised_hasPadding : hasPadding buffer = datagram.padding.isSome := by
  have := datagram.csrcs_le
  rw [hasPadding, serialised_firstByte known, RtpDatagram.firstByte_toNat]
  cases datagram.padding <;> cases datagram.extension <;> simp <;> omega

theorem serialised_hasExtension : hasExtension buffer = datagram.extension.isSome := by
  have := datagram.csrcs_le
  rw [hasExtension, serialised_firstByte known, RtpDatagram.firstByte_toNat]
  cases datagram.padding <;> cases datagram.extension <;> simp <;> omega

theorem serialised_csrcCount : csrcCount buffer = datagram.csrcs.length := by
  have := datagram.csrcs_le
  rw [csrcCount, serialised_firstByte known, RtpDatagram.firstByte_toNat]
  split <;> split <;> omega

theorem serialised_marker : marker buffer = datagram.marker := by
  have := datagram.payloadType.isLt
  rw [marker, serialised_secondByte known, RtpDatagram.secondByte_toNat]
  cases datagram.marker <;> simp <;> omega

theorem serialised_payloadType : payloadType buffer = datagram.payloadType.toNat := by
  have := datagram.payloadType.isLt
  rw [payloadType, serialised_secondByte known, RtpDatagram.secondByte_toNat]
  split <;> omega

theorem serialised_sequence : sequence buffer = datagram.sequence := by
  rw [sequence, serialised_cell known (by simp : 2 < _), serialised_cell known (by simp : 3 < _)]
  exact ofBigEndian16_bigEndian16 _

theorem serialised_timestamp : timestamp buffer = datagram.timestamp := by
  rw [timestamp, serialised_cell known (by simp : 4 < _), serialised_cell known (by simp : 5 < _),
    serialised_cell known (by simp : 6 < _), serialised_cell known (by simp : 7 < _)]
  exact ofBigEndian32_bigEndian32 _

theorem serialised_ssrc : ssrc buffer = datagram.ssrc := by
  rw [ssrc, serialised_cell known (by simp : 8 < _), serialised_cell known (by simp : 9 < _),
    serialised_cell known (by simp : 10 < _), serialised_cell known (by simp : 11 < _)]
  exact ofBigEndian32_bigEndian32 _

theorem serialised_csrcEnd : csrcEnd buffer = 12 + 4 * datagram.csrcs.length := by
  rw [csrcEnd, serialised_csrcCount known]

theorem serialised_payloadOffset :
    payloadOffset buffer = 12 + 4 * datagram.csrcs.length + datagram.extensionBytes.length := by
  rw [payloadOffset, serialised_csrcEnd known, serialised_hasExtension known]
  cases extended : datagram.extension with
  | none => simp [RtpDatagram.extensionBytes, extended]
  | some extension =>
    have bytes : datagram.extensionBytes = extension.serialise := by
      simp [RtpDatagram.extensionBytes, extended]
    have length := extension.serialise_length
    have high : 2 < extension.serialise.length := by omega
    have low : 3 < extension.serialise.length := by omega
    have block := serialised_extension known
    rw [bytes] at block
    have words : extensionWords buffer = extension.words.length := by
      rw [extensionWords, serialised_csrcEnd known, Memory.apply_of_slice block high,
        Memory.apply_of_slice block low]
      have sent : ofBigEndian16 extension.serialise[2] extension.serialise[3] =
          UInt16.ofNat extension.words.length := ofBigEndian16_bigEndian16 _
      rw [sent, UInt16.toNat_ofNat_of_lt' extension.words_le]
    simp only [Option.isSome_some, if_true, words, bytes, length]

theorem serialised_paddingLength :
    paddingLength buffer datagram.serialise.length = datagram.paddingBytes.length := by
  rw [paddingLength, serialised_hasPadding known]
  cases padded : datagram.padding with
  | none => simp [RtpDatagram.paddingBytes, padded]
  | some padding =>
    have bytes : datagram.paddingBytes = padding.serialise := by
      simp [RtpDatagram.paddingBytes, padded]
    have length : padding.serialise.length = padding.filler.length + 1 := by
      simp [Padding.serialise]
    have whole : padding.serialise.length ≤ datagram.serialise.length := by
      rw [← bytes, RtpDatagram.serialise, List.length_append]
      omega
    have block := serialised_padding known
    rw [bytes] at block
    have final : padding.filler.length < padding.serialise.length := by omega
    have last := Memory.apply_of_slice block final
    -- the count is the last byte of the buffer
    have position : datagram.serialise.length - padding.serialise.length + padding.filler.length =
        datagram.serialise.length - 1 := by omega
    have counted : padding.serialise[padding.filler.length] = padding.count := by
      simp [Padding.serialise]
    rw [position, counted] at last
    simp only [Option.isSome_some, if_true, last, bytes, Padding.serialise_length]

theorem serialised_wellFormed : WellFormed buffer datagram.serialise.length := by
  refine ⟨?_, serialised_version known, ?_⟩
  · simp only [RtpDatagram.serialise, List.length_append, RtpDatagram.headerBytes_length]
    omega
  · rw [serialised_payloadOffset known, serialised_paddingLength known]
    simp only [RtpDatagram.serialise, List.length_append, RtpDatagram.headerBytes_length,
      RtpDatagram.csrcBytes_length]
    omega

theorem serialised_payload_eq : payload buffer datagram.serialise.length = datagram.payload := by
  have length : datagram.serialise.length - payloadOffset buffer -
      paddingLength buffer datagram.serialise.length = datagram.payload.length := by
    rw [serialised_payloadOffset known, serialised_paddingLength known]
    simp only [RtpDatagram.serialise, List.length_append, RtpDatagram.headerBytes_length,
      RtpDatagram.csrcBytes_length]
    omega
  rw [payload, length, serialised_payloadOffset known]
  exact serialised_payload known

end Serialised

/-! ## From a buffer to its datagram -/

theorem exists_csrcs (buffer : Memory UInt8) :
    ∃ csrcs : List UInt32, csrcs.length = csrcCount buffer ∧
      csrcs.flatMap bigEndian32 = buffer.slice 12 (4 * csrcCount buffer) :=
  exists_flatMap_bigEndian32 _ _ (by simp)

theorem exists_extension (buffer : Memory UInt8) :
    ∃ extension : Option HeaderExtension, extension.isSome = hasExtension buffer ∧
      (extension.map HeaderExtension.serialise).getD [] =
        buffer.slice (csrcEnd buffer) (payloadOffset buffer - csrcEnd buffer) := by
  cases extended : hasExtension buffer with
  | false => exact ⟨none, rfl, by simp [payloadOffset, extended]⟩
  | true =>
    obtain ⟨words, counted, bytes⟩ := exists_flatMap_bigEndian32 (extensionWords buffer)
      (buffer.slice (csrcEnd buffer + 4) (4 * extensionWords buffer)) (by simp)
    have bound : words.length < UInt16.size := by
      rw [counted]
      exact UInt16.toNat_lt _
    refine ⟨some ⟨ofBigEndian16 (buffer (csrcEnd buffer)) (buffer (csrcEnd buffer + 1)), words,
      bound⟩, rfl, ?_⟩
    have length : payloadOffset buffer - csrcEnd buffer =
        1 + (1 + (1 + (1 + 4 * extensionWords buffer))) := by
      rw [payloadOffset, if_pos extended]
      omega
    have count : UInt16.ofNat words.length =
        ofBigEndian16 (buffer (csrcEnd buffer + 2)) (buffer (csrcEnd buffer + 3)) := by
      rw [counted]
      exact UInt16.ofNat_toNat
    simp only [Option.map_some, Option.getD_some, HeaderExtension.serialise, count,
      bigEndian16_ofBigEndian16, bytes, length, Memory.slice_add, Memory.slice_one]
    rfl

theorem exists_padding (buffer : Memory UInt8) (size : Nat)
    (fits : paddingLength buffer size ≤ size) :
    ∃ padding : Option Padding, padding.isSome = hasPadding buffer ∧
      (padding.map Padding.serialise).getD [] =
        buffer.slice (size - paddingLength buffer size) (paddingLength buffer size) := by
  cases padded : hasPadding buffer with
  | false => exact ⟨none, rfl, by simp [paddingLength, padded]⟩
  | true =>
    have length : paddingLength buffer size = max 1 (buffer (size - 1)).toNat := by
      rw [paddingLength, if_pos padded]
    obtain ⟨filler, counted⟩ : ∃ filler, paddingLength buffer size = filler + 1 :=
      ⟨paddingLength buffer size - 1, by omega⟩
    rw [counted] at fits length ⊢
    refine ⟨some ⟨buffer.slice (size - (filler + 1)) filler, buffer (size - 1),
      by rw [Memory.slice_length, length]⟩, rfl, ?_⟩
    have last : size - (filler + 1) + filler = size - 1 := by omega
    rw [Memory.slice_add, last, Memory.slice_one]
    rfl

theorem headerBytes_eq {buffer : Memory UInt8} (formed : version buffer = 2)
    {datagram : RtpDatagram} (marker : datagram.marker = marker buffer)
    (payloadType : datagram.payloadType.toNat = payloadType buffer)
    (sequence : datagram.sequence = sequence buffer)
    (timestamp : datagram.timestamp = timestamp buffer) (ssrc : datagram.ssrc = ssrc buffer)
    (csrcs : datagram.csrcs.length = csrcCount buffer)
    (extension : datagram.extension.isSome = hasExtension buffer)
    (padding : datagram.padding.isSome = hasPadding buffer) :
    datagram.headerBytes = buffer.slice 0 12 := by
  have firstByte : datagram.firstByte = buffer 0 := by
    apply UInt8.toNat_inj.mp
    rw [RtpDatagram.firstByte_toNat, padding, extension, csrcs]
    simp only [version, hasPadding, hasExtension, csrcCount, decide_eq_true_eq] at *
    split <;> split <;> omega
  have secondByte : datagram.secondByte = buffer 1 := by
    have := (buffer 1).toNat_lt
    apply UInt8.toNat_inj.mp
    rw [RtpDatagram.secondByte_toNat, marker, payloadType]
    simp only [RtpGrammar.marker, RtpGrammar.payloadType, decide_eq_true_eq]
    split <;> omega
  rw [RtpDatagram.headerBytes, firstByte, secondByte, sequence, timestamp, ssrc,
    RtpGrammar.sequence, RtpGrammar.timestamp, RtpGrammar.ssrc, bigEndian16_ofBigEndian16,
    bigEndian32_ofBigEndian32, bigEndian32_ofBigEndian32]
  rfl

/-- The grammar admits exactly the serialisations of datagrams. -/
theorem wellFormed_iff_serialise (buffer : Memory UInt8) (size : Nat) :
    WellFormed buffer size ↔
      ∃ datagram : RtpDatagram, datagram.serialise = buffer.slice 0 size := by
  constructor
  · rintro ⟨_, formed, fits⟩
    obtain ⟨csrcs, csrcCount, csrcBytes⟩ := exists_csrcs buffer
    obtain ⟨extension, extended, extensionBytes⟩ := exists_extension buffer
    obtain ⟨padding, padded, paddingBytes⟩ := exists_padding buffer size (by omega)
    let datagram : RtpDatagram := {
      marker := marker buffer
      payloadType := BitVec.ofNat 7 (payloadType buffer)
      sequence := sequence buffer
      timestamp := timestamp buffer
      ssrc := ssrc buffer
      csrcs := csrcs
      csrcs_le := by rw [csrcCount]; exact Nat.mod_lt _ (by decide)
      extension := extension
      payload := payload buffer size
      padding := padding }
    refine ⟨datagram, ?_⟩
    have header : datagram.headerBytes = buffer.slice 0 12 :=
      headerBytes_eq formed rfl (by simp [datagram, payloadType]) rfl rfl rfl csrcCount extended
        padded
    have offsetBound := csrcEnd_le_payloadOffset buffer
    -- the buffer in its five parts, as the grammar cuts it
    have parts : size = csrcEnd buffer + (payloadOffset buffer - csrcEnd buffer) +
        (size - payloadOffset buffer - paddingLength buffer size) + paddingLength buffer size := by
      omega
    have extensionEnd : csrcEnd buffer + (payloadOffset buffer - csrcEnd buffer) =
        payloadOffset buffer := by omega
    have payloadEnd : payloadOffset buffer +
        (size - payloadOffset buffer - paddingLength buffer size) =
        size - paddingLength buffer size := by omega
    have csrcs : buffer.slice 0 (csrcEnd buffer) = datagram.headerBytes ++ datagram.csrcBytes := by
      rw [csrcEnd, Memory.slice_add, header, RtpDatagram.csrcBytes, csrcBytes]
    have whole : buffer.slice 0 size = datagram.headerBytes ++ datagram.csrcBytes ++
        buffer.slice (csrcEnd buffer) (payloadOffset buffer - csrcEnd buffer) ++
        payload buffer size ++
        buffer.slice (size - paddingLength buffer size) (paddingLength buffer size) := by
      rw [← csrcs, congrArg (buffer.slice 0) parts, Memory.slice_add, Memory.slice_add,
        Memory.slice_add, Nat.zero_add, Nat.zero_add, Nat.zero_add, extensionEnd, payloadEnd]
      rfl
    rw [whole, ← extensionBytes, ← paddingBytes]
    rfl
  · rintro ⟨datagram, serialised⟩
    have length : datagram.serialise.length = size := by rw [serialised, Memory.slice_length]
    rw [← length]
    exact serialised_wellFormed (by rw [length, serialised])

/-! ## The parser and the grammar -/

/-- The packet object a well-formed buffer stands for, where its payload has a size for one. -/
def packetOf (buffer : Memory UInt8) (size : UInt16) : Option RtpPacket :=
  if 1 ≤ (payload buffer size.toNat).length ∧ (payload buffer size.toNat).length ≤ 64512 then
    some {
      hdr := RtpHeader.ofBytes buffer
      size := UInt16.ofNat (payload buffer size.toNat).length
      payload := payload buffer size.toNat
      payload_length := (UInt16.toNat_ofNat_of_lt' (payload_length_lt buffer size)).symm }
  else none

theorem ofParsed_accepted (buffer : Memory UInt8) (size : UInt16) :
    RtpPacket.ofParsed buffer (accepted buffer size) = packetOf buffer size := by
  have length : (UInt16.ofNat (payload buffer size.toNat).length).toNat =
      (payload buffer size.toNat).length :=
    UInt16.toNat_ofNat_of_lt' (payload_length_lt buffer size)
  by_cases empty : payload buffer size.toNat = []
  · simp [RtpPacket.ofParsed, accepted, packetOf, empty, RtpPacket.createInstance]
  have nonempty : 1 ≤ (payload buffer size.toNat).length := List.length_pos_iff.mpr empty
  have nonzero : UInt16.ofNat (payload buffer size.toNat).length ≠ 0 := by
    rw [ne_eq, ← UInt16.toNat_inj, length]
    exact Nat.ne_of_gt nonempty
  simp only [RtpPacket.ofParsed, accepted, empty, if_false, Option.map_some,
    RtpPacket.createInstance, packetOf, nonzero, nonempty, false_or, true_and, length,
    maxPayloadBytes]
  split
  next large => rw [if_neg (by omega)]
  next admitted =>
    rw [if_pos (by omega)]
    congr 1
    simp only [RtpPacket.init, RtpPacket.mk.injEq, true_and]
    rw [Memory.slice_advance, length]
    simp only [payload, Memory.slice_length, Nat.add_zero]

/-- The parts the grammar finds in a buffer are what a datagram carries. -/
structure Carries (buffer : Memory UInt8) (size : Nat) (datagram : RtpDatagram) : Prop where
  marker : marker buffer = datagram.marker
  payloadType : payloadType buffer = datagram.payloadType.toNat
  sequence : sequence buffer = datagram.sequence
  timestamp : timestamp buffer = datagram.timestamp
  ssrc : ssrc buffer = datagram.ssrc
  csrcs : buffer.slice 12 (4 * csrcCount buffer) = datagram.csrcBytes
  extension : buffer.slice (csrcEnd buffer) (payloadOffset buffer - csrcEnd buffer) =
    datagram.extensionBytes
  payload : payload buffer size = datagram.payload
  padding : buffer.slice (size - paddingLength buffer size) (paddingLength buffer size) =
    datagram.paddingBytes

theorem carries_of_serialise {buffer : Memory UInt8} {size : Nat} {datagram : RtpDatagram}
    (serialised : datagram.serialise = buffer.slice 0 size) : Carries buffer size datagram := by
  have length : datagram.serialise.length = size := by rw [serialised, Memory.slice_length]
  have known : buffer.slice 0 datagram.serialise.length = datagram.serialise := by
    rw [length, serialised]
  rw [← length]
  refine ⟨serialised_marker known, serialised_payloadType known, serialised_sequence known,
    serialised_timestamp known, serialised_ssrc known, ?_, ?_, serialised_payload_eq known, ?_⟩
  · have block := Memory.slice_of_append buffer datagram.headerBytes datagram.csrcBytes
      (datagram.extensionBytes ++ datagram.payload ++ datagram.paddingBytes)
      (by simpa [RtpDatagram.serialise] using known)
    rwa [serialised_csrcCount known, ← RtpDatagram.csrcBytes_length]
  · rw [serialised_payloadOffset known, serialised_csrcEnd known, Nat.add_sub_cancel_left]
    exact serialised_extension known
  · rw [serialised_paddingLength known]
    exact serialised_padding known

/-- `RtpPacket::parse` accepts exactly the RTP datagrams, recovers what they carry and stays inside
the buffer. -/
theorem parse_recovers_datagram (buffer : Memory UInt8) (size : UInt16) (hdr : RtpHeader) :
    let parsed := (RtpPacket.parse size hdr).value buffer
    (parsed.ret = true ↔ WellFormed buffer size.toNat) ∧
    (parsed.ret = true →
      parsed.payloadSize.toNat = (payload buffer size.toNat).length ∧
      parsed.payload =
        (if payload buffer size.toNat = [] then none else some (payloadOffset buffer)) ∧
      (1 ≤ (payload buffer size.toNat).length →
        (payload buffer size.toNat).length ≤ 64512 →
        ∃ packet, RtpPacket.ofParsed buffer parsed = some packet ∧
          packet.marker = marker buffer ∧ packet.payloadType = payloadType buffer ∧
          packet.sequence = sequence buffer ∧ packet.timestamp = timestamp buffer ∧
          packet.ssrc = ssrc buffer ∧ packet.payload = payload buffer size.toNat)) ∧
    (parsed.ret = false → parsed.payload = none ∧ parsed.payloadSize = 0) ∧
    (RtpPacket.parse size hdr).ReadsBelow buffer size.toNat ∧
    (parsed.ret = true ↔
      ∃ datagram : RtpDatagram, datagram.serialise = buffer.slice 0 size.toNat) ∧
    (∀ datagram : RtpDatagram, datagram.serialise = buffer.slice 0 size.toNat →
      Carries buffer size.toNat datagram) := by
  intro parsed
  have formed : parsed.ret = true ↔ WellFormed buffer size.toNat := parse_ret_iff buffer size hdr
  refine ⟨formed, fun ret => ?_, fun ret => ?_, readsBelow_parse buffer size hdr,
    formed.trans (wellFormed_iff_serialise buffer size.toNat), fun _ => carries_of_serialise⟩
  · have result : parsed = accepted buffer size :=
      (value_parse buffer size hdr).trans (if_pos (formed.mp ret))
    rw [result]
    refine ⟨UInt16.toNat_ofNat_of_lt' (payload_length_lt buffer size), rfl, ?_⟩
    intro nonempty bounded
    refine ⟨_, (ofParsed_accepted buffer size).trans (if_pos ⟨nonempty, bounded⟩),
      ?_, ?_, ?_, ?_, ?_, rfl⟩
    · -- the fields are read in the byte order of the wire
      rw [RtpPacket.marker, Bool.eq_iff_iff, decide_eq_true_eq]
      exact RtpHeader.ofBytes_m buffer
    · rw [RtpPacket.payloadType, RtpHeader.ofBytes_pt]
    · exact swap16_ofLittleEndian16 _ _
    · exact swap32_ofLittleEndian32 _ _ _ _
    · exact swap32_ofLittleEndian32 _ _ _ _
  · have malformed : ¬ WellFormed buffer size.toNat := fun holds => by
      rw [formed.mpr holds] at ret
      cases ret
    have result : parsed = RtpPacket.reject _ :=
      (value_parse buffer size hdr).trans (if_neg malformed)
    rw [result]
    exact ⟨rfl, rfl⟩

end RtpGrammar

end RtpPlayer
