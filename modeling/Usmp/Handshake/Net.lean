import Usmp.Handshake.End
import Usmp.Server.Accounting

/-!
# A UDP handshake over a network

One client, the server with its listener and its connection tasks, and the datagrams in
flight between them.  The network loses, duplicates, delays and reorders datagrams; other
peers send the server what they like.  The session that follows a handshake may do to its
stream what a session can do: it leaves the type of the last handshake frame alone, and it
sends frames of the session phase.
-/

namespace Usmp

/-- What the server is configured with, and the address that the client's datagrams come
from. -/
structure HandshakeSetup where
  config : ServerConfig
  psk : PskInput
  addr : Addr

structure HandshakeNet where
  server : Server
  /-- The streams and handshakes of the server's connections, in the same order. -/
  instances : List (HandshakeEnd ServerHandshake) := []
  client : HandshakeEnd ClientHandshake
  /-- What is in flight from the client to the server. -/
  toServer : List Bytes
  toClient : List Bytes := []

inductive NetAction where
  /-- A datagram in flight reaches the listener. -/
  | deliver (index : Nat) (wall mono : Rat)
  /-- A datagram in flight reaches the client, whose socket is closed with its stream. -/
  | arrive (index : Nat)
  | duplicateToServer (index : Nat)
  | duplicateToClient (index : Nat)
  | loseToServer (index : Nat)
  | loseToClient (index : Nat)
  /-- A datagram from another address. -/
  | stranger (data : Bytes) (addr : Addr) (wall mono : Rat)
  /-- The connection task starts. -/
  | start (id : Nat)
  /-- `server_handshake` starts, once the semaphore lets it. -/
  | begin (id : Nat) (mono : Rat)
  | resume (id : Nat) (entropy : Entropy)
  | resolved (id : Nat) (result : Except Exn (Option Bytes)) (entropy : Entropy)
  | acked (id : Nat)
  | timeout (id : Nat)
  /-- The connection task takes the result of its handshake. -/
  | finish (id : Nat) (now : Rat)
  /-- The timeout of `wait_for`. -/
  | expire (id : Nat) (now : Rat)
  /-- The session does something. -/
  | serve (id : Nat) (stream : UDPStream) (sent : List Bytes)
  | handlerEnds (id : Nat) (raised : Option Exn) (now : Rat)
  | proceed (id : Nat)
  | cancel (id : Nat)
  | clientResume
  | clientAcked
  | clientTimeout
  /-- The client's task is cancelled, or its `wait_for` runs out. -/
  | clientAbort
  /-- `error_received`, `connection_lost`, or the end of `connect`. -/
  | clientClose
  | clientServe (stream : UDPStream) (sent : List Bytes)

/-- `f"{value:.1f}"` of a positive number. -/
def formatTenths (value : Rat) : String :=
  let low := (value * 10).floor.toNat
  let rest := value * 10 - low
  let rounded := if rest > 1 / 2 ∨ rest = 1 / 2 ∧ low % 2 = 1 then low + 1 else low
  s!"{rounded / 10}.{rounded % 10}"

/-- The seconds that a lockout has left. -/
def lockoutRemaining (table : FailedHandshakes) (ip : String) (now : Rat) : Option String :=
  match table.get? ip with
  | none => none
  | some entry =>
      if entry.lockoutUntil > now then some (formatTenths (entry.lockoutUntil - now)) else none

/-- The frames that a session sends. -/
def sessionTypes : List PacketType := [.data, .ping, .pong, .bye, .dataFrag, .rekey]

/-- A datagram with one frame of the session phase. -/
def isSessionDatagram (data : Bytes) : Bool :=
  !UDPStream.isUtack data && UDPStream.isFrame data &&
    sessionTypes.any fun type => type.toNat = fieldAt data 3 1

/-- What a session can have made of the stream. -/
def servedStream (before after : UDPStream) : Bool :=
  after.isServer = before.isServer && after.lastRxType = before.lastRxType

namespace HandshakeNet

variable (P : Primitives) (X : KeyExchange) (setup : HandshakeSetup)

/-- Whether a connection is from the client's address. -/
def own (net : HandshakeNet) (id : Nat) : Bool :=
  match net.server.connections[id]? with
  | some connection => connection.addr = setup.addr
  | none => false

/-- What the server sends to a connection's address is on its way to the client, or
elsewhere. -/
def send (net : HandshakeNet) (id : Nat) (sent : List Bytes) : HandshakeNet :=
  if net.own setup id then { net with toClient := net.toClient ++ sent } else net

def setInstance (net : HandshakeNet) (id : Nat) (self : HandshakeEnd ServerHandshake) :
    HandshakeNet :=
  { net with instances := net.instances.set id self }

/-- What the server asks of the transports. -/
def applyEffect (net : HandshakeNet) : ServerEffect → HandshakeNet
  | .sendto addr data =>
      if addr = setup.addr then { net with toClient := net.toClient ++ [data] } else net
  | .feed id data =>
      match net.instances[id]? with
      | none => net
      | some self => (net.setInstance id (self.feed P data).1).send setup id (self.feed P data).2
  | .close id =>
      match net.instances[id]? with
      | none => net
      | some self => net.setInstance id self.close

/-- The stream of a connection that has just been made. -/
def freshInstance : HandshakeEnd ServerHandshake :=
  { run := { psk := setup.psk, stage := .created }, stream := { isServer := true } }

/-- New connections get their streams, and the effects take place. -/
def afterServer (net : HandshakeNet) (result : Server × List ServerEffect) : HandshakeNet :=
  result.2.foldl (applyEffect P setup)
    { net with
      server := result.1
      instances := net.instances ++
        List.replicate (result.1.connections.length - net.instances.length)
          (freshInstance setup) }

/-- A step of the server's tables and tasks. -/
def serverStep (net : HandshakeNet) (action : ServerAction) : Option HandshakeNet :=
  (net.server.perform P setup.config action).map (net.afterServer P setup)

/-- A step of one connection's handshake. -/
def instanceStep (net : HandshakeNet) (id : Nat)
    (step : HandshakeEnd ServerHandshake → Option (HandshakeEnd ServerHandshake × List Bytes)) :
    Option HandshakeNet :=
  match net.instances[id]? with
  | none => none
  | some self =>
      (step self).map fun result => (net.setInstance id result.1).send setup id result.2

def clientStep (net : HandshakeNet)
    (step : HandshakeEnd ClientHandshake → Option (HandshakeEnd ClientHandshake × List Bytes)) :
    Option HandshakeNet :=
  (step net.client).map fun result =>
    { net with client := result.1, toServer := net.toServer ++ result.2 }

/-- The handshake that is broken off. -/
def abortServer (self : HandshakeEnd ServerHandshake) : HandshakeEnd ServerHandshake :=
  match self.run.stage with
  | .returned _ | .raised _ => self
  | .created | .readingHello | .resolving _ _ | .writingChallenge _ | .readingHelloAck _ _
  | .writingSessionOk _ => self.abort (self.run.goto (.raised ⟨.cancelledError, ""⟩))

def abortClient (self : HandshakeEnd ClientHandshake) : Option (HandshakeEnd ClientHandshake) :=
  match self.run.stage with
  | .returned _ | .raised _ => none
  | .writingHello | .readingChallenge | .writingRetry | .readingChallengeAgain
  | .writingHelloAck _ | .readingSessionOk _ =>
      some (self.abort (self.run.goto (.raised ⟨.cancelledError, ""⟩)))

/-- Whether the connection task runs its session. -/
def serving (net : HandshakeNet) (id : Nat) : Bool :=
  match net.server.connections[id]? with
  | some connection => connection.stage = .serving
  | none => false

def handshaking (net : HandshakeNet) (id : Nat) : Bool :=
  match net.server.connections[id]? with
  | some connection => connection.stage = .handshaking
  | none => false

/-- `server_handshake` up to its first await: the lockout, or the read of the HELLO. -/
def beginHandshake (net : HandshakeNet) (id : Nat) (mono : Rat) : Option HandshakeNet :=
  match net.server.connections[id]?, net.instances[id]? with
  | some connection, some self =>
      if connection.stage = .handshaking then
        match self.run.stage with
        | .created =>
            let lockedOut :=
              lockoutRemaining net.server.failedHandshakes connection.addr.1 mono
            let net := net.setInstance id { self with run := .start setup.psk lockedOut }
            if lockedOut.isSome then net.serverStep P setup (.handshakeEnds id .lockedOut mono)
            else some net
        | _ => none
      else none
  | _, _ => none

def finishHandshake (net : HandshakeNet) (id : Nat) (now : Rat) : Option HandshakeNet :=
  match net.instances[id]? with
  | none => none
  | some self =>
      match self.run.stage with
      | .returned _ => net.serverStep P setup (.handshakeEnds id .established now)
      | .raised exn => net.serverStep P setup (.handshakeEnds id (.failed exn) now)
      | .created | .readingHello | .resolving _ _ | .writingChallenge _ | .readingHelloAck _ _
      | .writingSessionOk _ => none

/-- The session of a connection acts on its stream. -/
def serveStep (net : HandshakeNet) (id : Nat) (stream : UDPStream) (sent : List Bytes) :
    Option HandshakeNet :=
  if net.serving id && sent.all isSessionDatagram then
    net.instanceStep setup id fun self =>
      if servedStream self.stream stream then some (self.serve stream, sent) else none
  else none

def clientServeStep (net : HandshakeNet) (stream : UDPStream) (sent : List Bytes) :
    Option HandshakeNet :=
  match net.client.run.stage with
  | .returned _ =>
      if servedStream net.client.stream stream && sent.all isSessionDatagram then
        some { net with client := net.client.serve stream, toServer := net.toServer ++ sent }
      else none
  | _ => none

def step (net : HandshakeNet) : NetAction → Option HandshakeNet
  | .deliver index wall mono =>
      match net.toServer[index]? with
      | none => none
      | some data =>
          { net with toServer := net.toServer.eraseIdx index }.serverStep P setup
            (.datagram data setup.addr wall mono)
  | .arrive index =>
      match net.toClient[index]? with
      | none => none
      | some data =>
          { net with toClient := net.toClient.eraseIdx index }.clientStep fun self =>
            if self.stream.closed then none else some (self.feed P data)
  | .duplicateToServer index =>
      (net.toServer[index]?).map fun data => { net with toServer := net.toServer ++ [data] }
  | .duplicateToClient index =>
      (net.toClient[index]?).map fun data => { net with toClient := net.toClient ++ [data] }
  | .loseToServer index => some { net with toServer := net.toServer.eraseIdx index }
  | .loseToClient index => some { net with toClient := net.toClient.eraseIdx index }
  | .stranger data addr wall mono =>
      if addr = setup.addr then none
      else net.serverStep P setup (.datagram data addr wall mono)
  | .start id => net.serverStep P setup (.start id)
  | .begin id mono => net.beginHandshake P setup id mono
  | .resume id entropy =>
      net.instanceStep setup id fun self => self.resume (serverCoroutine P X entropy)
  | .resolved id result entropy =>
      net.instanceStep setup id fun self =>
        (self.run.resolved X result entropy).map (self.goOn (serverCoroutine P X entropy))
  | .acked id =>
      net.instanceStep setup id fun self => (self.acked (serverCoroutine P X default)).map (·, [])
  | .timeout id =>
      net.instanceStep setup id fun self => self.timeout (serverCoroutine P X default)
  | .finish id now => net.finishHandshake P setup id now
  | .expire id now =>
      if net.handshaking id then
        match net.instances[id]? with
        | none => none
        | some self =>
            (net.setInstance id (abortServer self)).serverStep P setup
              (.handshakeEnds id .timedOut now)
      else none
  | .serve id stream sent => net.serveStep setup id stream sent
  | .handlerEnds id raised now => net.serverStep P setup (.handlerEnds id raised now)
  | .proceed id => net.serverStep P setup (.proceed id)
  | .cancel id =>
      match net.instances[id]? with
      | none => none
      | some self => (net.setInstance id (abortServer self)).serverStep P setup (.cancel id)
  | .clientResume => net.clientStep fun self => self.resume (clientCoroutine P X)
  | .clientAcked => net.clientStep fun self => (self.acked (clientCoroutine P X)).map (·, [])
  | .clientTimeout => net.clientStep fun self => self.timeout (clientCoroutine P X)
  | .clientAbort => net.clientStep fun self => (abortClient self).map (·, [])
  | .clientClose => net.clientStep fun self => some (self.close, [])
  | .clientServe stream sent => net.clientServeStep stream sent

/-- A client that has just begun, and a server that has just started. -/
def initial (psk deviceId : Bytes) (priv : PrivateKey) (failedHandshakes : FailedHandshakes) :
    HandshakeNet :=
  let started := ClientHandshake.start X psk deviceId priv
  let client : HandshakeEnd ClientHandshake :=
    { run := started.1, stream := { isServer := false } }
  { server := .new failedHandshakes
    client := (client.goOn (clientCoroutine P X) started).1
    toServer := (client.goOn (clientCoroutine P X) started).2 }

/-! ## A concrete handshake -/

def sampleSetup : HandshakeSetup where
  config := { cookieSecret := [1] }
  psk := .table ⟨[(sampleDeviceId.1, samplePsk)], nodup_samplePsks⟩
  addr := ("10.0.0.1", 4000)

def sampleInitial : HandshakeNet :=
  initial samplePrimitives sampleKeyExchange samplePsk sampleDeviceId.1 (samplePrivate 1) {}

/-- A step between the sample client and the sample server. -/
def sampleStep : HandshakeNet → NetAction → Option HandshakeNet :=
  step samplePrimitives sampleKeyExchange sampleSetup

/-- The client asks for a cookie and sends its HELLO again, and the server's CHALLENGE is on
its way. -/
def sampleOpening : List NetAction :=
  [.deliver 0 0 0, .arrive 0, .clientAcked, .arrive 0, .clientResume, .deliver 0 0 0,
    .deliver 0 0 0, .start 0, .begin 0 0, .resume 0 (sampleEntropy 2), .arrive 0, .clientAcked]

end HandshakeNet

end Usmp
