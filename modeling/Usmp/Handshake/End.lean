import Usmp.Handshake.Server
import Usmp.Udp.Peer

/-!
# A handshake coroutine on a UDP stream

One end of a handshake over UDP: the coroutine, its stream, the ARQ of the write in progress
and the header that a read has taken.  The end remembers the types of the frames that its
stream handed to the coroutine.
-/

namespace Usmp

/-- The ways in which a handshake coroutine is resumed. -/
structure Coroutine (Run : Type) where
  /-- Suspended in `read_frame`. -/
  reading : Run → Bool
  read : Run → Except Exn USMPFrame → Option (Run × List HandshakeCall)
  wrote : Run → Option Exn → Option Run

def ClientHandshake.reading (run : ClientHandshake) : Bool :=
  match run.stage with
  | .readingChallenge | .readingChallengeAgain | .readingSessionOk _ => true
  | .writingHello | .writingRetry | .writingHelloAck _ | .returned _ | .raised _ => false

def ServerHandshake.reading (run : ServerHandshake) : Bool :=
  match run.stage with
  | .readingHello | .readingHelloAck _ _ => true
  | .created | .resolving _ _ | .writingChallenge _ | .writingSessionOk _ | .returned _
  | .raised _ => false

def clientCoroutine (P : Primitives) (X : KeyExchange) : Coroutine ClientHandshake where
  reading := ClientHandshake.reading
  read := ClientHandshake.read P X
  wrote := ClientHandshake.wrote

/-- A step of the server's coroutine draws its random values from the entropy. -/
def serverCoroutine (P : Primitives) (X : KeyExchange) (entropy : Entropy) :
    Coroutine ServerHandshake where
  reading := ServerHandshake.reading
  read run result := run.read P X result entropy
  wrote := ServerHandshake.wrote P X

/-- The loop of `drain`: a write waiting for its UTACK. -/
structure Resend where
  data : Bytes
  attempt : Nat := 0
  deriving DecidableEq, Repr

structure HandshakeEnd (Run : Type) where
  run : Run
  stream : UDPStream
  arq : Option Resend := none
  pending : Option Bytes := none
  handed : List PacketType := []

namespace HandshakeEnd

variable {Run : Type}

/-- `write_frame` raises before its first transmission. -/
def failWrite (C : Coroutine Run) (self : HandshakeEnd Run) (exn : Exn) : HandshakeEnd Run :=
  { self with run := (C.wrote self.run (some exn)).getD self.run }

/-- `write_frame` up to its first wait. -/
def startWrite (C : Coroutine Run) (self : HandshakeEnd Run) (type : PacketType)
    (payload : Bytes) (seq : Nat) : HandshakeEnd Run × List Bytes :=
  match encodeFrame type payload seq with
  | .error exn => (self.failWrite C exn, [])
  | .ok data =>
      match self.stream.write data with
      | .error exn => (self.failWrite C exn, [])
      | .ok stream => ({ self with stream := stream.startDrain, arq := some { data } }, [data])

/-- Perform what the coroutine asks for, up to its next await. -/
def perform (C : Coroutine Run) (self : HandshakeEnd Run) :
    List HandshakeCall → HandshakeEnd Run × List Bytes
  | [] => (self, [])
  | .setSessionKeys txKey rxKey :: rest =>
      perform C { self with stream := self.stream.setSessionKeys txKey rxKey } rest
  | .writeFrame type payload seq :: _ => self.startWrite C type payload seq

/-- The coroutine takes the result of a step and goes on. -/
def goOn (self : HandshakeEnd Run) (C : Coroutine Run) (result : Run × List HandshakeCall) :
    HandshakeEnd Run × List Bytes :=
  { self with run := result.1 }.perform C result.2

/-- The wait for the UTACK returns. -/
def acked (C : Coroutine Run) (self : HandshakeEnd Run) : Option (HandshakeEnd Run) :=
  match self.arq with
  | none => none
  | some _ =>
      if self.stream.ackReceived then
        (C.wrote self.run none).map fun run => { self with run, arq := none }
      else
        none

/-- The wait for the UTACK times out. -/
def timeout (C : Coroutine Run) (self : HandshakeEnd Run) :
    Option (HandshakeEnd Run × List Bytes) :=
  match self.arq with
  | none => none
  | some resend =>
      if resend.attempt + 1 < maxAttempts then
        some ({ self with arq := some { resend with attempt := resend.attempt + 1 } },
          [resend.data])
      else
        (C.wrote self.run (some ⟨.osError, "UDP transmission failed"⟩)).map fun run =>
          ({ self with run, arq := none }, [])

/-- `read_frame` goes on with what is in the buffer.  A closed stream ends a read that it
cannot serve. -/
def resume (C : Coroutine Run) (self : HandshakeEnd Run) :
    Option (HandshakeEnd Run × List Bytes) :=
  if C.reading self.run then
    match readFrame false self.pending self.stream.readBuffer with
    | (.finished result, rest) =>
        let self := { self with
          stream := { self.stream with readBuffer := rest }
          pending := none
          handed :=
            match result with
            | .ok frame => self.handed ++ [frame.type]
            | .error _ => self.handed }
        (C.read self.run result).map (self.goOn C)
    | (.suspended header, rest) =>
        if self.stream.closed then
          (C.read self.run (.error ⟨.incompleteReadError, "stream closed"⟩)).map (self.goOn C)
        else
          some ({ self with
            stream := { self.stream with readBuffer := rest }, pending := header }, [])
  else
    none

/-- `datagram_received`. -/
def feed (P : Primitives) (self : HandshakeEnd Run) (data : Bytes) :
    HandshakeEnd Run × List Bytes :=
  let (stream, replies) := self.stream.feedPacket P data
  ({ self with stream }, replies)

def close (self : HandshakeEnd Run) : HandshakeEnd Run :=
  { self with stream := self.stream.close }

/-- The coroutine ends by an exception that is thrown into it. -/
def abort (self : HandshakeEnd Run) (run : Run) : HandshakeEnd Run :=
  { self with run, arq := none }

/-- The session that follows the handshake has the stream now. -/
def serve (self : HandshakeEnd Run) (stream : UDPStream) : HandshakeEnd Run :=
  { self with stream, arq := none, pending := none }

end HandshakeEnd

end Usmp
