import RtpPlayer.Depacketizers.RtpDepacketizer
import RtpPlayer.Foundations.ByteOrder

/-! # The H.264 depacketizer

The model of `Depacketizers/RtpDepacketizerH264`, under its names.  `m_nalu` and `m_frame` are whole
memories, so what an earlier NALU left behind the current length is still there to be read; a
`goto fail` out of a macro is an `Except.error` with the state at the jump. -/

namespace RtpPlayer

open Foundations
open Foundations.ByteOrder

structure RtpDepacketizerH264 where
  nalu : Memory UInt8
  naluLen : Nat
  spsSentry : Bool
  ppsSentry : Bool
  idrSentry : Bool
  frame : Memory UInt8
  frameLen : Nat
  packets : Nat

namespace RtpDepacketizerH264

def startcodeLength : Nat := 4

def spsType : UInt8 := 7

def ppsType : UInt8 := 8

def idrType : UInt8 := 5

/-- `PACKET_TYPE`, which is also `NALU_TYPE`. -/
def packetType (byte : UInt8) : UInt8 := byte &&& 0x1f

/-- The constructor; the two buffers come uninitialised. -/
def create (nalu frame : Memory UInt8) : RtpDepacketizerH264 where
  nalu := nalu
  naluLen := 0
  spsSentry := true
  ppsSentry := true
  idrSentry := true
  frame := frame
  frameLen := 0
  packets := 0

def setSyncPoint (depacketizer : RtpDepacketizerH264) : RtpDepacketizerH264 :=
  { depacketizer with
    spsSentry := true, ppsSentry := true, idrSentry := true, naluLen := 0, frameLen := 0 }

/-! ## Decoding a NALU -/

def checkRandomAccessUnit (depacketizer : RtpDepacketizerH264) (naluType : UInt8) :
    Bool × RtpDepacketizerH264 :=
  if naluType = spsType ∨ naluType = ppsType then
    if naluType = spsType then (true, { depacketizer with spsSentry := false })
    else (true, { depacketizer with ppsSentry := false })
  else if depacketizer.spsSentry ∨ depacketizer.ppsSentry then (false, depacketizer)
  else if naluType ≠ idrType then (false, depacketizer)
  else (true, { depacketizer with idrSentry := false })

/-- The sentry check of `decode_nalu`. -/
def checkSentries (depacketizer : RtpDepacketizerH264) (naluType : UInt8) :
    Bool × RtpDepacketizerH264 :=
  if depacketizer.spsSentry ∨ depacketizer.ppsSentry ∨ depacketizer.idrSentry then
    depacketizer.checkRandomAccessUnit naluType
  else
    (true, depacketizer)

def decodeNalu (depacketizer : RtpDepacketizerH264) (nalu : Memory UInt8) (naluLen : Nat)
    (naluType : UInt8) (frameEnd : Bool) (call : ParseCall) (frame : Option MediaFrame) :
    ParseResult RtpDepacketizerH264 :=
  -- the lengths are never negative
  if naluLen = 0 then
    ⟨.error, depacketizer, frame⟩
  else
    -- `nalu_len > MAX_ES_FRAME_SIZE - m_frame_len`: copy what fits and close the frame
    let tooLarge := depacketizer.frameLen + naluLen > maxEsFrameSize
    let flags := if tooLarge then frameIsIncomplete else 0
    let naluLen := if tooLarge then maxEsFrameSize - depacketizer.frameLen else naluLen
    let frameEnd := if tooLarge then true else frameEnd
    let (admitted, depacketizer) := depacketizer.checkSentries naluType
    if !admitted then
      ⟨.needMore, depacketizer, frame⟩
    else
      let flags := if naluType = idrType then flags ||| frameIsSyncPoint else flags
      let depacketizer := { depacketizer with
        frame := depacketizer.frame.write depacketizer.frameLen (nalu.slice 0 naluLen)
        frameLen := depacketizer.frameLen + naluLen }
      if frameEnd then
        { status := .frame
          depacketizer := { depacketizer with packets := 0, frameLen := 0 }
          frame := frame.map fun _ =>
            { len := depacketizer.frameLen
              pts := call.pts.toNat
              rtpPayloadType := call.payloadType
              flags := flags
              packets := depacketizer.packets } }
      else
        ⟨.needMore, depacketizer, frame⟩

/-! ## The macros of `parse` -/

def checkSize (depacketizer : RtpDepacketizerH264) (size : Nat) :
    Except RtpDepacketizerH264 RtpDepacketizerH264 :=
  -- `size > MAX_ES_FRAME_SIZE - m_nalu_len`
  if depacketizer.naluLen + size > maxEsFrameSize then
    .error { depacketizer with naluLen := 0, frameLen := 0, packets := 0 }
  else
    .ok depacketizer

/-- Bytes put at the end of the current NALU. -/
def pushNalu (depacketizer : RtpDepacketizerH264) (bytes : List UInt8) : RtpDepacketizerH264 :=
  { depacketizer with
    nalu := depacketizer.nalu.write depacketizer.naluLen bytes
    naluLen := depacketizer.naluLen + bytes.length }

def addStartcode (depacketizer : RtpDepacketizerH264) :
    Except RtpDepacketizerH264 RtpDepacketizerH264 := do
  let depacketizer ← depacketizer.checkSize startcodeLength
  return (((depacketizer.pushNalu [0]).pushNalu [0]).pushNalu [0]).pushNalu [1]

def startNalu (depacketizer : RtpDepacketizerH264) (header : UInt8) :
    Except RtpDepacketizerH264 RtpDepacketizerH264 := do
  let depacketizer ← depacketizer.addStartcode
  let depacketizer ← depacketizer.checkSize 1
  return depacketizer.pushNalu [header]

/-- `ADD_BUFFER` of `length` packet bytes from `start` on. -/
def addBuffer (depacketizer : RtpDepacketizerH264) (start length : Nat) :
    LoggedReader UInt8 (Except RtpDepacketizerH264 RtpDepacketizerH264) :=
  match depacketizer.checkSize length with
  | .error depacketizer => return .error depacketizer
  | .ok depacketizer => do
    let bytes ← LoggedReader.readSlice start length
    return .ok (depacketizer.pushNalu bytes)

def decNalu (depacketizer : RtpDepacketizerH264) (last : Bool) (call : ParseCall)
    (frame : Option MediaFrame) : ParseResult RtpDepacketizerH264 :=
  let result := depacketizer.decodeNalu depacketizer.nalu depacketizer.naluLen
    (packetType (depacketizer.nalu startcodeLength)) last call frame
  { result with depacketizer := { result.depacketizer with naluLen := 0 } }

/-- The `fail` label. -/
def fail (depacketizer : RtpDepacketizerH264) (frame : Option MediaFrame) :
    ParseResult RtpDepacketizerH264 :=
  ⟨.error, { depacketizer with naluLen := 0 }, frame⟩

/-! ## Parsing a packet -/

def parseSingle (depacketizer : RtpDepacketizerH264) (call : ParseCall) :
    LoggedReader UInt8 (ParseResult RtpDepacketizerH264) :=
  match depacketizer.addStartcode with
  | .error depacketizer => return fail depacketizer call.frame
  | .ok depacketizer => do
    match ← depacketizer.addBuffer 0 call.packetLen.toNat with
    | .error depacketizer => return fail depacketizer call.frame
    | .ok depacketizer => return depacketizer.decNalu call.marker call call.frame

/-- The loop of a STAP-A packet: `packet` has moved to `position`, `packetLen` bytes remain. -/
def parseStapA (depacketizer : RtpDepacketizerH264) (position : Nat) (packetLen : Int)
    (call : ParseCall) (frame : Option MediaFrame) :
    LoggedReader UInt8 (ParseResult RtpDepacketizerH264) := do
  -- the two length bytes are read whether or not the packet has them
  let high ← LoggedReader.read position
  let low ← LoggedReader.read (position + 1)
  let length := (ofBigEndian16 high low).toNat
  if (length : Int) > packetLen - 2 then
    return fail depacketizer frame
  else
    match depacketizer.addStartcode with
    | .error depacketizer => return fail depacketizer frame
    | .ok depacketizer => do
      match ← depacketizer.addBuffer (position + 2) length with
      | .error depacketizer => return fail depacketizer frame
      | .ok depacketizer =>
        let remaining := packetLen - 2 - length
        if remaining < 0 then
          return fail depacketizer frame
        else
          let last := if remaining = 0 then call.marker else false
          let result := depacketizer.decNalu last call frame
          if remaining > 0 then
            result.depacketizer.parseStapA (position + 2 + length) remaining call result.frame
          else
            return result
termination_by packetLen.toNat

def parseFuA (depacketizer : RtpDepacketizerH264) (call : ParseCall) :
    LoggedReader UInt8 (ParseResult RtpDepacketizerH264) := do
  -- read before the length of the packet is checked
  let indicator ← LoggedReader.read 0
  let header ← LoggedReader.read 1
  let naluHeader := (indicator &&& 0xe0) ||| (header &&& 0x1f)
  let start := header &&& 0x80 > 0
  let finish := header &&& 0x40 > 0
  let packetLen := call.packetLen - 2
  if packetLen < 0 then
    return fail depacketizer call.frame
  else if start ∧ finish then
    return fail depacketizer call.frame
  else
    match if start then depacketizer.startNalu naluHeader else .ok depacketizer with
    | .error depacketizer => return fail depacketizer call.frame
    | .ok depacketizer => do
      match ← depacketizer.addBuffer 2 packetLen.toNat with
      | .error depacketizer => return fail depacketizer call.frame
      | .ok depacketizer =>
        if finish then
          return depacketizer.decNalu call.marker call call.frame
        else
          return ⟨.needMore, depacketizer, call.frame⟩

/-- `parse`, run over the packet of the call. -/
def parse (depacketizer : RtpDepacketizerH264) (call : ParseCall) :
    LoggedReader UInt8 (ParseResult RtpDepacketizerH264) :=
  if call.packetLen ≤ 0 then
    return ⟨.error, depacketizer, call.frame⟩
  else do
    let depacketizer := { depacketizer with packets := depacketizer.packets + 1 }
    let first ← LoggedReader.read 0
    if 1 ≤ packetType first ∧ packetType first ≤ 12 then
      depacketizer.parseSingle call
    else if packetType first = 24 then
      depacketizer.parseStapA 1 (call.packetLen - 1) call call.frame
    else if packetType first = 28 then
      depacketizer.parseFuA call
    else do
      -- the leading bytes of a packet of unknown type are only logged
      let _leadingBytes ← LoggedReader.readSlice 0 (min call.packetLen.toNat 8)
      return fail depacketizer call.frame

instance : RtpDepacketizer RtpDepacketizerH264 where
  parse := parse
  setSyncPoint := setSyncPoint
  frameBuffer := frame

end RtpDepacketizerH264

end RtpPlayer
