import RtpPlayer.Foundations.Machine
import RtpPlayer.Rtp.RtpPacket

/-! # The receiving side of an RTP client

The model of `Rtp/RtpClient`, `Networks/UdpSession` and `Networks/Session` as far as a datagram
goes through them.  There is no receive loop in the source: a receive is posted by
`UdpSession::read`, its completion runs `Session::on_read`, and whoever wants more has to post the
next one from there.  Of asio it is taken that a posted receive completes once, with one
datagram. -/

namespace RtpPlayer

open Foundations

/-- The error codes `Session::on_read` tells apart. -/
inductive NetError where
  | eof
  | other
  deriving DecidableEq

/-- What calling an empty `std::function` throws. -/
inductive BadFunctionCall where
  | badFunctionCall
  deriving DecidableEq

/-- A `UdpSession`.  The read handler, where connected, is `RtpClient::on_network_read`; the error
handler of a session is never connected. -/
structure UdpSession where
  bufferSize : Nat
  readHandler : Bool
  readCompleteHandler : Bool
  /-- Receives posted to the socket and not completed yet. -/
  pending : Nat
  /-- Datagrams that found no receive to complete; they wait in the socket. -/
  waiting : List (List UInt8)
  deriving DecidableEq

/-- An `RtpClient`; `observer` says whether `m_observer` is set. -/
structure RtpClient where
  exit : Bool
  observer : Bool
  session : Option UdpSession
  deriving DecidableEq

namespace UdpSession

def create : UdpSession where
  bufferSize := 0
  readHandler := false
  readCompleteHandler := false
  pending := 0
  waiting := []

def readSize (session : UdpSession) (size : Nat) : UdpSession :=
  { session with bufferSize := size, pending := session.pending + 1 }

def read (session : UdpSession) : UdpSession := session.readSize (64 * 1024)

end UdpSession

namespace RtpClient

/-- A client that `build` has given an observer, before a session is accepted. -/
def built : RtpClient where
  exit := false
  observer := true
  session := none

def read (client : RtpClient) : RtpClient :=
  if client.exit then client
  else { client with session := client.session.map UdpSession.read }

def onNetworkAccept (client : RtpClient) (session : UdpSession) : RtpClient :=
  read { client with session := some { session with readHandler := true } }

/-- `RtpClient::on_network_read`, with the packet it hands to `m_observer->on_rtp_packet`.  The
header variable is not initialised there; `parse` fills it before it accepts. -/
def onNetworkRead (client : RtpClient) (data : Memory UInt8) (bytes : Nat) :
    RtpClient × Option RtpPacket :=
  if client.observer then
    let parsed := (RtpPacket.parse (UInt16.ofNat bytes) (RtpHeader.ofBytes fun _ => 0)).value data
    if parsed.ret then
      -- a packet that cannot be created is only logged, the next receive is posted all the same
      (read client, RtpPacket.ofParsed data parsed)
    else
      -- nothing here posts the next receive
      (client, none)
  else
    (client, none)

/-- `Session::on_read` of the client's session, for a completion that left `received` in the
buffer. -/
def onRead (client : RtpClient) (session : UdpSession) (err : Option NetError)
    (received : List UInt8) : Except BadFunctionCall (RtpClient × Option RtpPacket) :=
  let handled :=
    if received.length > 0 ∧ session.readHandler then
      -- `data` has one byte more than was received, and it is zero
      onNetworkRead client (Memory.ofList received fun _ => 0) received.length
    else
      (client, none)
  if err = some .eof ∨ session.readCompleteHandler ∧ session.bufferSize > 0 ∧
      received.length < session.bufferSize then
    -- the handler is called without a look whether it is connected
    if session.readCompleteHandler then .ok handled else .error .badFunctionCall
  else
    .ok handled

/-- A datagram arrives at the socket: it completes a pending receive, or waits. -/
def deliver (client : RtpClient) (datagram : List UInt8) : RtpClient × Option RtpPacket :=
  match client.session with
  | none => (client, none)
  | some session =>
    if session.pending = 0 then
      ({ client with session := some { session with waiting := session.waiting ++ [datagram] } },
        none)
    else
      let completed := { session with pending := session.pending - 1 }
      match onRead { client with session := some completed } completed none
          (datagram.take session.bufferSize) with
      | .ok handled => handled
      | .error _ => (client, none)

/-- The client under a sequence of datagrams; each puts out the packet it made the client hand to
its observer. -/
def machine : Machine RtpClient (List UInt8) (Option RtpPacket) where
  step := deliver

end RtpClient

end RtpPlayer
