import Usmp.Session.Recv

/-!
# `UDPStream`

The datagram side of a UDP connection: the demultiplexing of incoming datagrams
into UTACKs and frames, duplicate detection, the bounded read buffer, and the
state of the stop-and-wait ARQ.  The estimation of round-trip times only chooses
how long an attempt waits and is left out.
-/

namespace Usmp

open LittleEndian

def utackMagic : Bytes := [0xAC, 0xAC]
def utackMacLen : Nat := 8
def utackHeaderLen : Nat := 7
def maxReadBuffer : Nat := 4096

structure UDPStream where
  isServer : Bool
  readBuffer : Bytes := []
  lastRxSeq : Int := -1
  lastRxType : Int := -1
  pendingSendData : Option Bytes := none
  pendingSendSeq : Option Nat := none
  pendingSendType : Option Nat := none
  /-- `_ack_received_event.is_set()`. -/
  ackReceived : Bool := false
  closed : Bool := false
  txKey : Option Key := none
  rxKey : Option Key := none
  deriving DecidableEq, Repr

/-- The 7 bytes of a UTACK before its MAC. -/
def utackHeader (type seq : Nat) : Bytes :=
  utackMagic ++ leBytes 1 type ++ leBytes 4 seq

/-- The 8-byte truncated HMAC-SHA256 over the UTACK header. -/
def utackMac (P : Primitives) (key : Key) (header : Bytes) : Bytes :=
  (P.hmacSha256 key.1 header).1.take utackMacLen

namespace UDPStream

/-- Install the directional session keys. -/
def setSessionKeys (stream : UDPStream) (txKey rxKey : Key) : UDPStream :=
  { stream with txKey := some txKey, rxKey := some rxKey }

/-- A UTACK, with a MAC for session-phase types. -/
def buildUtack (P : Primitives) (stream : UDPStream) (type seq : Nat) : Bytes :=
  let header := utackHeader type seq
  match stream.rxKey with
  | some rxKey => if type ≥ 5 then header ++ utackMac P rxKey header else header
  | none => header

/-- `data[:2] == UTACK_MAGIC` on a datagram of at least the header length. -/
def isUtack (data : Bytes) : Bool :=
  data.length ≥ utackHeaderLen && data.take 2 = utackMagic

/-- Whether a session-phase UTACK carries a valid MAC under our `tx_key`. -/
def utackAuthentic (P : Primitives) (stream : UDPStream) (data : Bytes) : Bool :=
  match stream.txKey with
  | none => false
  | some txKey =>
      !(data.length < utackHeaderLen + utackMacLen) &&
        utackMac P txKey (data.take utackHeaderLen) =
          (data.drop utackHeaderLen).take utackMacLen

/-- The UTACK branch of `feed_packet`. -/
def feedUtack (P : Primitives) (stream : UDPStream) (data : Bytes) : UDPStream :=
  let type := fieldAt data 2 1
  let seq := fieldAt data 3 4
  if type ≥ 5 && !stream.utackAuthentic P data then
    stream
  else if some seq = stream.pendingSendSeq ∧ some type = stream.pendingSendType then
    { stream with ackReceived := true }
  else
    stream

/-- The shape that `feed_packet` requires of a frame: size, magic, declared length. -/
def isFrame (data : Bytes) : Bool :=
  !(data.length < usmpHeaderSize) && fieldAt data 0 2 = usmpMagic &&
    !(fieldAt data 8 2 > usmpMaxPayload) && data.length = usmpHeaderSize + fieldAt data 8 2

/-- Duplicate detection for handshake packets. -/
def isDuplicateHandshake (stream : UDPStream) (type : Nat) : Bool :=
  (type : Int) = stream.lastRxType ||
    (type = 0x0A && stream.lastRxType ≠ -1) ||
    (type = 2 && stream.lastRxType = 4) ||
    (stream.isServer && stream.lastRxType ≠ -1 && (type : Int) ≤ stream.lastRxType)

/-- Duplicate detection for session packets. -/
def isStale (stream : UDPStream) (seq : Nat) : Bool :=
  stream.lastRxSeq ≠ -1 && (seq : Int) ≤ stream.lastRxSeq - 64

/-- The end of `feed_packet`: the UTACK goes out only after the buffer limit check. -/
def bufferPacket (P : Primitives) (stream : UDPStream) (data : Bytes) (type seq : Nat) :
    UDPStream × List Bytes :=
  if stream.readBuffer.length + data.length > maxReadBuffer then
    (stream, [])
  else
    ({ stream with readBuffer := stream.readBuffer ++ data }, [stream.buildUtack P type seq])

/-- An incoming datagram.  The second component is what is sent back. -/
def feedPacket (P : Primitives) (stream : UDPStream) (data : Bytes) : UDPStream × List Bytes :=
  if stream.closed then
    (stream, [])
  else if isUtack data then
    (stream.feedUtack P data, [])
  else if !isFrame data then
    (stream, [])
  else
    let type := fieldAt data 3 1
    let seq := fieldAt data 4 4
    if type < 5 ∨ type = 0x0A then
      if stream.isDuplicateHandshake type then
        (stream, [stream.buildUtack P type seq])
      else
        bufferPacket P { stream with lastRxType := type } data type seq
    else if stream.isStale seq then
      (stream, [stream.buildUtack P type seq])
    else
      stream.bufferPacket P data type seq

def confirmAuthenticated (stream : UDPStream) (seq : Nat) : UDPStream :=
  if (seq : Int) > stream.lastRxSeq then { stream with lastRxSeq := seq } else stream

def write (stream : UDPStream) (data : Bytes) : Except Exn UDPStream :=
  if stream.closed then
    .error ⟨.osError, "Stream is closed"⟩
  else
    .ok { stream with
      pendingSendData := some data
      pendingSendType := if data.length ≥ 8 then some (fieldAt data 3 1) else none
      pendingSendSeq := if data.length ≥ 8 then some (fieldAt data 4 4) else none }

/-- `drain` up to its first wait. -/
def startDrain (stream : UDPStream) : UDPStream :=
  { stream with pendingSendData := none, ackReceived := false }

def close (stream : UDPStream) : UDPStream :=
  { stream with closed := true }

end UDPStream

end Usmp
