import RtpPlayer.Depacketizers.RtpDepacketizer

/-! # The VP8 depacketizer

The model of `Depacketizers/RtpDepacketizerVp8`.  The descriptor functions take a pointer, the
remaining length and the count of parsed bytes by address and move all three; here they are a
`Cursor` that is passed and returned. -/

namespace RtpPlayer

open Foundations

/-- The values of `FrameType` this depacketizer uses. -/
inductive FrameType where
  | emptyFrame
  | videoFrameKey
  | videoFrameDelta
  deriving DecidableEq

/-- `RTPVideoHeaderVP8`; -1 and 0xFF are the `kNo...` values. -/
structure RtpVideoHeaderVp8 where
  nonReference : Bool
  pictureId : Int
  tl0PicIdx : Int
  temporalIdx : UInt8
  layerSync : Bool
  keyIdx : Int
  partitionId : Nat
  beginningOfPartition : Bool
  deriving DecidableEq

/-- The part of `ParsedPayload` that `parse` fills: the codec header and the fields of
`RTPVideoHeader` beside it. -/
structure ParsedPayload where
  frameType : FrameType
  width : Nat
  height : Nat
  isFirstPacket : Bool
  vp8 : RtpVideoHeaderVp8
  deriving DecidableEq

structure RtpDepacketizerVp8 where
  keyRequired : Bool
  frameType : FrameType
  frameLen : Nat
  frame : Memory UInt8
  packets : Nat

namespace RtpDepacketizerVp8

def noPictureId : Int := -1

def noTl0PicIdx : Int := -1

def noTemporalIdx : UInt8 := 0xFF

def noKeyIdx : Int := -1

/-- The constructor; the buffer comes uninitialised. -/
def create (frame : Memory UInt8) : RtpDepacketizerVp8 where
  keyRequired := true
  frameType := .emptyFrame
  frameLen := 0
  frame := frame
  packets := 0

def setSyncPoint (depacketizer : RtpDepacketizerVp8) : RtpDepacketizerVp8 :=
  { depacketizer with keyRequired := true, frameLen := 0 }

/-! ## The payload descriptor -/

/-- `data`, `data_length` and `parsed_bytes`. -/
structure Cursor where
  data : Nat
  dataLength : Nat
  parsedBytes : Nat

namespace Cursor

def next (cursor : Cursor) : Cursor where
  data := cursor.data + 1
  dataLength := cursor.dataLength - 1
  parsedBytes := cursor.parsedBytes + 1

end Cursor

/-- Whether a mask has a bit in common with a byte. -/
def bit (byte mask : UInt8) : Bool := byte &&& mask ≠ 0

/-- `ParseVP8PictureID`; `none` for -1. -/
def parseVp8PictureId (vp8 : RtpVideoHeaderVp8) (cursor : Cursor) :
    LoggedReader UInt8 (Option (RtpVideoHeaderVp8 × Cursor)) :=
  if cursor.dataLength = 0 then
    return none
  else do
    let first ← LoggedReader.read cursor.data
    let pictureId : Int := (first &&& 0x7F).toNat
    if bit first 0x80 then
      -- the M bit: a second byte follows
      let cursor := cursor.next
      if cursor.dataLength = 0 then
        return none
      else do
        let second ← LoggedReader.read cursor.data
        return some ({ vp8 with pictureId := pictureId * 256 + second.toNat }, cursor.next)
    else
      return some ({ vp8 with pictureId := pictureId }, cursor.next)

def parseVp8Tl0PicIdx (vp8 : RtpVideoHeaderVp8) (cursor : Cursor) :
    LoggedReader UInt8 (Option (RtpVideoHeaderVp8 × Cursor)) :=
  if cursor.dataLength = 0 then
    return none
  else do
    let byte ← LoggedReader.read cursor.data
    return some ({ vp8 with tl0PicIdx := byte.toNat }, cursor.next)

def parseVp8TidAndKeyIdx (hasTid hasKeyIdx : Bool) (vp8 : RtpVideoHeaderVp8) (cursor : Cursor) :
    LoggedReader UInt8 (Option (RtpVideoHeaderVp8 × Cursor)) :=
  if cursor.dataLength = 0 then
    return none
  else do
    let byte ← LoggedReader.read cursor.data
    let vp8 := if hasTid then
      { vp8 with temporalIdx := (byte >>> 6) &&& 0x03, layerSync := bit byte 0x20 } else vp8
    let vp8 := if hasKeyIdx then { vp8 with keyIdx := (byte &&& 0x1F).toNat } else vp8
    return some (vp8, cursor.next)

/-- A field that is parsed where its bit is set. -/
def optionalField (present : Bool)
    (parse : RtpVideoHeaderVp8 → Cursor → LoggedReader UInt8 (Option (RtpVideoHeaderVp8 × Cursor)))
    (vp8 : RtpVideoHeaderVp8) (cursor : Cursor) :
    LoggedReader UInt8 (Option (RtpVideoHeaderVp8 × Cursor)) :=
  if present then parse vp8 cursor else return some (vp8, cursor)

/-- `ParseVP8Extension` of the bytes from `data` on; the count of parsed bytes, or `none` for -1. -/
def parseVp8Extension (vp8 : RtpVideoHeaderVp8) (data dataLength : Nat) :
    LoggedReader UInt8 (Option (RtpVideoHeaderVp8 × Nat)) := do
  let byte ← LoggedReader.read data
  let hasPictureId := bit byte 0x80
  let hasTl0PicIdx := bit byte 0x40
  let hasTid := bit byte 0x20
  let hasKeyIdx := bit byte 0x10
  let cursor : Cursor := ⟨data + 1, dataLength - 1, 1⟩
  match ← optionalField hasPictureId parseVp8PictureId vp8 cursor with
  | none => return none
  | some (vp8, cursor) =>
    match ← optionalField hasTl0PicIdx parseVp8Tl0PicIdx vp8 cursor with
    | none => return none
    | some (vp8, cursor) =>
      match ← optionalField (hasTid || hasKeyIdx) (parseVp8TidAndKeyIdx hasTid hasKeyIdx)
          vp8 cursor with
      | none => return none
      | some (vp8, cursor) => return some (vp8, cursor.parsedBytes)

/-- `ParseVP8FrameSize`; `none` for -1. -/
def parseVp8FrameSize (parsed : ParsedPayload) (data dataLength : Nat) :
    LoggedReader UInt8 (Option ParsedPayload) :=
  if parsed.frameType ≠ .videoFrameKey then
    return some parsed
  else if dataLength < 10 then
    return none
  else do
    let size ← LoggedReader.readSlice (data + 6) 4
    let cell (index : Nat) : Nat := (size.getD index 0).toNat
    return some { parsed with
      width := (cell 1 * 256 + cell 0) % 0x4000
      height := (cell 3 * 256 + cell 2) % 0x4000 }

/-- The payload `parse` starts from: the mandatory first byte of the descriptor. -/
def initialPayload (first : UInt8) : ParsedPayload where
  frameType := .emptyFrame
  width := 0
  height := 0
  isFirstPacket := bit first 0x10 && first &&& 0x0F = 0
  vp8 := {
    nonReference := bit first 0x20
    pictureId := noPictureId
    tl0PicIdx := noTl0PicIdx
    temporalIdx := noTemporalIdx
    layerSync := false
    keyIdx := noKeyIdx
    partitionId := (first &&& 0x0F).toNat
    beginningOfPartition := bit first 0x10 }

/-- `parse` up to the extension: the payload so far and where its data begins, or `none` where it
returns an error. -/
def parseDescriptor (dataLength : Int) :
    LoggedReader UInt8 (Option (ParsedPayload × Nat)) := do
  let first ← LoggedReader.read 0
  let parsed := initialPayload first
  if parsed.vp8.partitionId > 8 then
    return none
  else if dataLength ≤ 1 then
    return none
  else if bit first 0x80 then
    match ← parseVp8Extension parsed.vp8 1 (dataLength - 1).toNat with
    | none => return none
    | some (vp8, parsedBytes) =>
      -- never negative: the extension is parsed within `data_length`
      if dataLength - 1 - parsedBytes = 0 then
        return none
      else
        return some ({ parsed with vp8 := vp8 }, 1 + parsedBytes)
  else
    return some (parsed, 1)

/-! ## Parsing a packet -/

/-- The end of `parse`: the payload of the packet has been added to the frame. -/
def finishPacket (depacketizer : RtpDepacketizerVp8) (call : ParseCall) :
    ParseResult RtpDepacketizerVp8 :=
  if call.marker then
    -- the gate looks at the type of the last first packet, not at what is in the buffer
    if depacketizer.keyRequired ∧ depacketizer.frameType ≠ .videoFrameKey then
      ⟨.needMore, { depacketizer with packets := 0, frameLen := 0 }, call.frame⟩
    else
      { status := .frame
        depacketizer := { depacketizer with keyRequired := false, packets := 0, frameLen := 0 }
        frame := call.frame.map fun _ =>
          { len := depacketizer.frameLen
            pts := call.pts.toNat
            rtpPayloadType := call.payloadType
            flags := if depacketizer.frameType = .videoFrameKey then frameIsSyncPoint else 0
            packets := depacketizer.packets } }
  else
    ⟨.needMore, depacketizer, call.frame⟩

/-- The frame type of a packet; only a first packet has the P bit at the start of its payload. -/
def payloadFrameType (isFirst : Bool) (data : Nat) : LoggedReader UInt8 FrameType :=
  if isFirst then do
    let header ← LoggedReader.read data
    return if bit header 0x01 then .videoFrameDelta else .videoFrameKey
  else
    return .videoFrameDelta

/-- The part of `parse` after the descriptor: `length` payload bytes from `data` on. -/
def parsePayload (depacketizer : RtpDepacketizerVp8) (call : ParseCall) (parsed : ParsedPayload)
    (data length : Nat) : LoggedReader UInt8 (ParseResult RtpDepacketizerVp8) := do
  let isFirst := parsed.vp8.beginningOfPartition && parsed.vp8.partitionId = 0
  let frameType ← payloadFrameType isFirst data
  -- the member is set before the packet can still be refused
  let depacketizer :=
    if isFirst then { depacketizer with frameType := frameType } else depacketizer
  match ← parseVp8FrameSize { parsed with frameType := frameType } data length with
  | none => return ⟨.error, depacketizer, call.frame⟩
  | some _ =>
    -- `payload_data_length > MAX_ES_FRAME_SIZE - m_frame_len`
    if depacketizer.frameLen + length > maxEsFrameSize then
      let depacketizer := { depacketizer with
        frameType := .emptyFrame, frameLen := 0, packets := 0 }
      return ⟨.error, depacketizer, call.frame⟩
    else do
      let bytes ← LoggedReader.readSlice data length
      let depacketizer := { depacketizer with
        frame := depacketizer.frame.write depacketizer.frameLen bytes
        frameLen := depacketizer.frameLen + length }
      return depacketizer.finishPacket call

/-- `parse`, run over the packet of the call. -/
def parse (depacketizer : RtpDepacketizerVp8) (call : ParseCall) :
    LoggedReader UInt8 (ParseResult RtpDepacketizerVp8) :=
  if call.packetLen = 0 then
    return ⟨.error, depacketizer, call.frame⟩
  else do
    let depacketizer := { depacketizer with packets := depacketizer.packets + 1 }
    match ← parseDescriptor call.packetLen with
    | none => return ⟨.error, depacketizer, call.frame⟩
    | some (parsed, data) =>
      depacketizer.parsePayload call parsed data (call.packetLen - data).toNat

instance : RtpDepacketizer RtpDepacketizerVp8 where
  parse := parse
  setSyncPoint := setSyncPoint
  frameBuffer := frame

end RtpDepacketizerVp8

end RtpPlayer
