import RtpPlayer.Foundations.ByteOrder
import RtpPlayer.Foundations.LoggedReader

/-! # RTP packets

The model of `Rtp/RtpPacket`: the header as its bit-fields lie in memory on a little-endian host,
`RtpPacket::parse` over a raw buffer, and the packet object with its accessors.  The memory a
nothrow `new` asks for is taken to be there. -/

namespace RtpPlayer

open Foundations
open Foundations.ByteOrder

/-- `RTP_HEADER` with `WORDS_BIGENDIAN` undefined; `seq`, `ts` and `ssrc` hold what a little-endian
host loads, that is they are in network byte order. -/
structure RtpHeader where
  cc : BitVec 4
  x : BitVec 1
  p : BitVec 1
  v : BitVec 2
  pt : BitVec 7
  m : BitVec 1
  seq : UInt16
  ts : UInt32
  ssrc : UInt32
  deriving DecidableEq

namespace RtpHeader

def size : Nat := 12

/-- The header whose twelve bytes in memory are those at offsets 0 to 11 of `bytes`. -/
def ofBytes (bytes : Memory UInt8) : RtpHeader where
  cc := (bytes 0).toBitVec.extractLsb' 0 4
  x := (bytes 0).toBitVec.extractLsb' 4 1
  p := (bytes 0).toBitVec.extractLsb' 5 1
  v := (bytes 0).toBitVec.extractLsb' 6 2
  pt := (bytes 1).toBitVec.extractLsb' 0 7
  m := (bytes 1).toBitVec.extractLsb' 7 1
  seq := ofLittleEndian16 (bytes 2) (bytes 3)
  ts := ofLittleEndian32 (bytes 4) (bytes 5) (bytes 6) (bytes 7)
  ssrc := ofLittleEndian32 (bytes 8) (bytes 9) (bytes 10) (bytes 11)

end RtpHeader

/-- `ntohs` on a little-endian host. -/
def ntohs (word : UInt16) : UInt16 := swap16 word

def ntohl (word : UInt32) : UInt32 := swap32 word

def maxPayloadBytes : Nat := 1024 * 63

/-- What `RtpPacket::parse` leaves behind: its return value and its three reference parameters.
`payload` is an offset into the buffer, `none` for `NULL`. -/
structure ParsedPacket where
  ret : Bool
  hdr : RtpHeader
  payload : Option Nat
  payloadSize : UInt16
  deriving DecidableEq

/-- An `RtpPacket` object: its `RTP_PACKET`, with as many payload bytes as `size` says. -/
structure RtpPacket where
  hdr : RtpHeader
  size : UInt16
  payload : List UInt8
  payload_length : payload.length = size.toNat
  deriving DecidableEq

namespace RtpPacket

/-! ## Parsing -/

/-- The `if (!ret)` exit. -/
def reject (hdr : RtpHeader) : ParsedPacket where
  ret := false
  hdr := hdr
  payload := none
  payloadSize := 0

/-- `hdr = *(RTP_HEADER *)pos` -/
def readHeader (pos : Nat) : LoggedReader UInt8 RtpHeader := do
  let bytes ← LoggedReader.readSlice pos RtpHeader.size
  return RtpHeader.ofBytes (Memory.ofList bytes fun _ => 0)

def readUInt16 (pos : Nat) : LoggedReader UInt8 UInt16 := do
  let first ← LoggedReader.read pos
  let second ← LoggedReader.read (pos + 1)
  return ofLittleEndian16 first second

/-- The `if (hdr.x != 0)` block: the new `pos` and `need_size`, or `none` where it breaks. -/
def skipExtension (size : UInt16) (hdr : RtpHeader) (pos needSize : Nat) :
    LoggedReader UInt8 (Option (Nat × Nat)) :=
  if hdr.x ≠ 0 then
    let needSize := needSize + 2 + 2
    if size.toNat < needSize then
      return none
    else do
      let pos := pos + 2
      let word ← readUInt16 pos
      let extCount := ntohs word
      let pos := pos + 2
      let needSize := needSize + 4 * extCount.toNat
      if size.toNat < needSize then
        return none
      else
        return some (pos + 4 * extCount.toNat, needSize)
  else
    return some (pos, needSize)

/-- The `if (hdr.p != 0)` block: the new `payload_size`, or `none` where it breaks. -/
def stripPadding (size : UInt16) (hdr : RtpHeader) (needSize : Nat) (payloadSize : UInt16) :
    LoggedReader UInt8 (Option UInt16) :=
  if hdr.p ≠ 0 then
    if size.toNat < needSize + 1 then
      return none
    else do
      let last ← LoggedReader.read (size.toNat - 1)
      let paddingSize := if last < 1 then 1 else last
      let needSize := needSize + paddingSize.toNat
      if size.toNat < needSize then
        return none
      else
        return some (payloadSize - paddingSize.toUInt16)
  else
    return some payloadSize

/-- The part of `parse` after the CSRCs. -/
def parseBody (size : UInt16) (hdr : RtpHeader) (pos needSize : Nat) :
    LoggedReader UInt8 ParsedPacket := do
  match ← skipExtension size hdr pos needSize with
  | none => return reject hdr
  | some (pos, needSize) =>
    -- `pos` and `need_size` have moved in step, so `pos` is not past the end here
    let payloadSize := UInt16.ofNat (size.toNat - pos)
    match ← stripPadding size hdr needSize payloadSize with
    | none => return reject hdr
    | some payloadSize =>
      return {
        ret := true
        hdr := hdr
        payload := if payloadSize = 0 then none else some pos
        payloadSize := payloadSize }

/-- `RtpPacket::parse` of a buffer that is not `NULL`; `hdr` comes in with whatever the caller's
variable holds. -/
def parse (size : UInt16) (hdr : RtpHeader) : LoggedReader UInt8 ParsedPacket :=
  if size.toNat < RtpHeader.size then
    return reject hdr
  else do
    let needSize := RtpHeader.size
    let pos := 0
    let hdr ← readHeader pos
    if hdr.v ≠ 2 then
      return reject hdr
    else
      let pos := pos + RtpHeader.size
      let needSize := needSize + 4 * hdr.cc.toNat
      if size.toNat < needSize then
        return reject hdr
      else
        parseBody size hdr (pos + 4 * hdr.cc.toNat) needSize

/-! ## Packet objects -/

/-- `RtpPacket::init`, given what `create_instance` has checked. -/
def init (hdr : RtpHeader) (payload : Memory UInt8) (size : UInt16) : RtpPacket where
  hdr := hdr
  size := size
  payload := payload.slice 0 size.toNat
  payload_length := by simp

/-- `RtpPacket::create_instance`; `payload` is `none` for `NULL`. -/
def createInstance (hdr : RtpHeader) (payload : Option (Memory UInt8)) (size : UInt16) :
    Option RtpPacket :=
  match payload with
  | none => none
  | some payload =>
    if size = 0 ∨ size.toNat > maxPayloadBytes then
      none
    else
      some (init hdr payload size)

def marker (packet : RtpPacket) : Bool := packet.hdr.m ≠ 0

/-- `RtpPacket::payload_type`: a `char`, never negative since the field has seven bits. -/
def payloadType (packet : RtpPacket) : Int := packet.hdr.pt.toNat

def sequence (packet : RtpPacket) : UInt16 := ntohs packet.hdr.seq

def timestamp (packet : RtpPacket) : UInt32 := ntohl packet.hdr.ts

def ssrc (packet : RtpPacket) : UInt32 := ntohl packet.hdr.ssrc

/-- The packet `RtpClient::on_network_read` makes of a parsed buffer. -/
def ofParsed (buffer : Memory UInt8) (parsed : ParsedPacket) : Option RtpPacket :=
  createInstance parsed.hdr (parsed.payload.map buffer.advance) parsed.payloadSize

end RtpPacket

end RtpPlayer
