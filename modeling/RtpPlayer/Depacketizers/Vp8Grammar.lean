import RtpPlayer.Depacketizers.RtpDepacketizerVp8

/-! # The grammar of the VP8 payload descriptor

Which descriptors `parse` gets past, where the payload begins behind them and what their fields
are, each as a function of the packet alone. -/

namespace RtpPlayer

open Foundations

namespace Vp8Grammar

open RtpDepacketizerVp8

variable (packet : Memory UInt8)

/-! ## The fields -/

def hasExtension : Bool := bit (packet 0) 0x80

def beginningOfPartition : Bool := bit (packet 0) 0x10

def partitionId : Nat := (packet 0 &&& 0x0F).toNat

def pictureIdLength : Nat :=
  if bit (packet 1) 0x80 then if bit (packet 2) 0x80 then 2 else 1 else 0

def tl0PicIdxLength : Nat := if bit (packet 1) 0x40 then 1 else 0

def tidAndKeyIdxLength : Nat := if bit (packet 1) 0x20 || bit (packet 1) 0x10 then 1 else 0

def extensionLength : Nat :=
  1 + pictureIdLength packet + tl0PicIdxLength packet + tidAndKeyIdxLength packet

def descriptorLength : Nat := if hasExtension packet then 1 + extensionLength packet else 1

/-- The header without what an extension adds. -/
def mandatoryHeader : RtpVideoHeaderVp8 := (initialPayload (packet 0)).vp8

def pictureId : Int :=
  if bit (packet 2) 0x80 then (packet 2 &&& 0x7F).toNat * 256 + (packet 3).toNat
  else (packet 2 &&& 0x7F).toNat

def pictureIdHeader (header : RtpVideoHeaderVp8) : RtpVideoHeaderVp8 :=
  if bit (packet 1) 0x80 then { header with pictureId := pictureId packet } else header

def tl0PicIdxHeader (header : RtpVideoHeaderVp8) : RtpVideoHeaderVp8 :=
  if bit (packet 1) 0x40 then
    { header with tl0PicIdx := (packet (2 + pictureIdLength packet)).toNat }
  else header

def tidAndKeyIdx : UInt8 := packet (2 + pictureIdLength packet + tl0PicIdxLength packet)

def tidHeader (header : RtpVideoHeaderVp8) : RtpVideoHeaderVp8 :=
  if bit (packet 1) 0x20 then
    { header with
      temporalIdx := (tidAndKeyIdx packet >>> 6) &&& 0x03
      layerSync := bit (tidAndKeyIdx packet) 0x20 }
  else header

def keyIdxHeader (header : RtpVideoHeaderVp8) : RtpVideoHeaderVp8 :=
  if bit (packet 1) 0x10 then { header with keyIdx := (tidAndKeyIdx packet &&& 0x1F).toNat }
  else header

def header : RtpVideoHeaderVp8 :=
  if hasExtension packet then
    keyIdxHeader packet (tidHeader packet (tl0PicIdxHeader packet
      (pictureIdHeader packet (mandatoryHeader packet))))
  else mandatoryHeader packet

theorem header_beginningOfPartition :
    (header packet).beginningOfPartition = beginningOfPartition packet := by
  unfold header keyIdxHeader tidHeader tl0PicIdxHeader pictureIdHeader
  split_ifs <;> rfl

theorem header_partitionId : (header packet).partitionId = partitionId packet := by
  unfold header keyIdxHeader tidHeader tl0PicIdxHeader pictureIdHeader
  split_ifs <;> rfl

end Vp8Grammar

namespace RtpDepacketizerVp8

open Vp8Grammar

/-! ## The parsers of the fields -/

def Cursor.advance (cursor : Cursor) (count : Nat) : Cursor where
  data := cursor.data + count
  dataLength := cursor.dataLength - count
  parsedBytes := cursor.parsedBytes + count

variable {packet : Memory UInt8} {cursor : Cursor}

/-- What a field of `length` bytes leaves, if it is complete. -/
def field (length : Nat) (vp8 : RtpVideoHeaderVp8) (cursor : Cursor) :
    Option (RtpVideoHeaderVp8 × Cursor) :=
  if length ≤ cursor.dataLength then some (vp8, cursor.advance length) else none

theorem pictureId_value (vp8 : RtpVideoHeaderVp8) (reached : cursor.data = 2) :
    (optionalField (bit (packet 1) 0x80) parseVp8PictureId vp8 cursor).value packet =
      field (pictureIdLength packet) (pictureIdHeader packet vp8) cursor := by
  rw [optionalField, LoggedReader.value_ite, pictureIdLength, pictureIdHeader, field]
  split
  next present =>
    rw [parseVp8PictureId, LoggedReader.value_ite]
    by_cases exhausted : cursor.dataLength = 0
    · rw [if_pos exhausted, if_neg (by split <;> omega)]
      rfl
    -- the M bit of the first byte tells whether there is a second
    · rw [if_neg exhausted, LoggedReader.value_bind, LoggedReader.value_read, reached,
        LoggedReader.value_ite, pictureId]
      by_cases long : bit (packet 2) 0x80 = true
      · have remaining : cursor.next.dataLength = cursor.dataLength - 1 := rfl
        rw [if_pos long, if_pos long, if_pos long, LoggedReader.value_ite, remaining]
        by_cases second : cursor.dataLength - 1 = 0
        · rw [if_pos second, if_neg (by omega)]
          rfl
        · rw [if_neg second, if_pos (by omega)]
          simp only [LoggedReader.value_bind, LoggedReader.value_read, LoggedReader.value_pure,
            Cursor.next, Cursor.advance, reached, Nat.sub_sub, Nat.add_assoc]
      · rw [if_neg long, if_neg long, if_neg long, if_pos (by omega)]
        rfl
  next absent => rfl

theorem tl0PicIdx_value (vp8 : RtpVideoHeaderVp8)
    (reached : cursor.data = 2 + pictureIdLength packet) :
    (optionalField (bit (packet 1) 0x40) parseVp8Tl0PicIdx vp8 cursor).value packet =
      field (tl0PicIdxLength packet) (tl0PicIdxHeader packet vp8) cursor := by
  rw [optionalField, LoggedReader.value_ite, tl0PicIdxLength, tl0PicIdxHeader, field]
  split
  next present =>
    rw [parseVp8Tl0PicIdx, LoggedReader.value_ite, reached]
    split
    next exhausted => rw [if_neg (by omega)]; rfl
    next more => rw [if_pos (by omega)]; rfl
  next absent => rfl

theorem tidAndKeyIdx_value (vp8 : RtpVideoHeaderVp8)
    (reached : cursor.data = 2 + pictureIdLength packet + tl0PicIdxLength packet) :
    (optionalField (bit (packet 1) 0x20 || bit (packet 1) 0x10)
        (parseVp8TidAndKeyIdx (bit (packet 1) 0x20) (bit (packet 1) 0x10)) vp8 cursor).value
        packet =
      field (tidAndKeyIdxLength packet) (keyIdxHeader packet (tidHeader packet vp8)) cursor := by
  rw [optionalField, LoggedReader.value_ite, tidAndKeyIdxLength, field]
  split
  next present =>
    rw [parseVp8TidAndKeyIdx, LoggedReader.value_ite, reached]
    split
    next exhausted => rw [if_neg (by omega)]; rfl
    next more => rw [if_pos (by omega)]; rfl
  next absent =>
    rw [Bool.or_eq_true, not_or] at absent
    rw [keyIdxHeader, if_neg absent.2, tidHeader, if_neg absent.1]
    rfl

theorem parseVp8Extension_value (vp8 : RtpVideoHeaderVp8) {dataLength : Nat}
    (nonempty : 0 < dataLength) :
    (parseVp8Extension vp8 1 dataLength).value packet =
      if extensionLength packet ≤ dataLength then
        some (keyIdxHeader packet (tidHeader packet (tl0PicIdxHeader packet
          (pictureIdHeader packet vp8))), extensionLength packet)
      else none := by
  have pictureIdEnd : 1 + 1 + pictureIdLength packet = 2 + pictureIdLength packet := rfl
  -- the fields follow each other; the first that the data ends in refuses the extension
  rw [parseVp8Extension, LoggedReader.value_bind, LoggedReader.value_read]
  dsimp only
  rw [LoggedReader.value_bind, pictureId_value _ rfl, field]
  by_cases first : pictureIdLength packet ≤ dataLength - 1
  · rw [if_pos first]
    dsimp only
    rw [LoggedReader.value_bind, tl0PicIdx_value _ rfl, field]
    by_cases second : tl0PicIdxLength packet ≤ dataLength - 1 - pictureIdLength packet
    · rw [if_pos (by exact second)]
      dsimp only
      rw [LoggedReader.value_bind, tidAndKeyIdx_value _ rfl, field]
      by_cases third : tidAndKeyIdxLength packet ≤
          dataLength - 1 - pictureIdLength packet - tl0PicIdxLength packet
      · rw [if_pos (by exact third), if_pos (by rw [extensionLength]; omega)]
        rfl
      · rw [if_neg (by exact third), if_neg (by rw [extensionLength]; omega)]
        rfl
    · rw [if_neg (by exact second), if_neg (by rw [extensionLength]; omega)]
      rfl
  · rw [if_neg first, if_neg (by rw [extensionLength]; omega)]
    rfl

/-- `parse` gets past exactly the complete descriptors with something behind them. -/
theorem parseDescriptor_value (packet : Memory UInt8) (dataLength : Int) :
    (parseDescriptor dataLength).value packet =
      if partitionId packet ≤ 8 ∧ descriptorLength packet < dataLength then
        some ({ initialPayload (packet 0) with vp8 := header packet }, descriptorLength packet)
      else none := by
  rw [parseDescriptor, LoggedReader.value_bind, LoggedReader.value_read]
  simp only [LoggedReader.value_ite]
  by_cases known : partitionId packet ≤ 8
  · rw [if_neg (by exact Nat.not_lt.mpr known)]
    by_cases short : dataLength ≤ 1
    · have tooLong : ¬ (descriptorLength packet : Int) < dataLength := by
        rw [descriptorLength, extensionLength]
        split <;> omega
      rw [if_pos short, if_neg (fun both => tooLong both.2)]
      rfl
    · rw [if_neg short]
      by_cases extended : hasExtension packet = true
      · rw [if_pos (by exact extended), LoggedReader.value_bind,
          parseVp8Extension_value _ (by omega), descriptorLength, if_pos extended, header,
          if_pos extended]
        by_cases complete : extensionLength packet ≤ (dataLength - 1).toNat
        · rw [if_pos complete]
          dsimp only
          rw [LoggedReader.value_ite]
          -- a complete descriptor with nothing behind it is refused too
          by_cases empty : dataLength - 1 - (extensionLength packet : Int) = 0
          · rw [if_pos empty, if_neg (fun both => by have := both.2; omega)]
            rfl
          · rw [if_neg empty, if_pos ⟨known, by omega⟩]
            rfl
        · rw [if_neg complete, if_neg (fun both => by have := both.2; omega)]
          rfl
      · rw [if_neg (by exact extended), descriptorLength, if_neg extended, header, if_neg extended,
          if_pos ⟨known, by omega⟩]
        rfl
  · rw [if_pos (by exact Nat.lt_of_not_le known), if_neg (fun both => known both.1)]
    rfl

end RtpDepacketizerVp8

end RtpPlayer
