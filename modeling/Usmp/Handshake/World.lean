import Usmp.Handshake.Server
import Usmp.Lib.Machine

/-!
# Many handshakes on a hostile network

Any number of runs of `client_handshake` and `server_handshake`.  The attacker starts runs,
hands every read whatever bytes it likes, lets reads and writes fail, and sees what is
written.  A run remembers the authenticator that it put on the wire.
-/

namespace Usmp

/-- A client, and what its HELLO_ACK, once sent, was made of. -/
structure ClientRun where
  run : ClientHandshake
  helloAck : Option ClientLocals := none
  deriving DecidableEq, Repr

/-- A server, and what its SESSION_OK, once sent, was made of. -/
structure ServerRun where
  run : ServerHandshake
  sessionOk : Option ServerLocals := none

structure HandshakeWorld where
  clients : List ClientRun := []
  servers : List ServerRun := []
  /-- The private keys that were generated. -/
  generated : List PrivateKey := []

inductive ClientEvent where
  /-- The bytes that a read takes from the transport. -/
  | received (data : Bytes)
  | readFails (exn : Exn)
  | wrote (failure : Option Exn)

inductive ServerEvent where
  | received (data : Bytes) (entropy : Entropy)
  | readFails (exn : Exn)
  | resolved (result : Except Exn (Option Bytes)) (entropy : Entropy)
  | wrote (failure : Option Exn)

/-- A step of one run.  `refused` is how its transport refuses a write at once. -/
inductive WorldAction where
  | connect (psk deviceId : Bytes) (priv : PrivateKey) (refused : Option Exn)
  | accept (psk : PskInput) (lockedOut : Option String)
  | client (index : Nat) (event : ClientEvent) (refused : Option Exn)
  | server (index : Nat) (event : ServerEvent) (refused : Option Exn)

/-- The frame that a read makes of the bytes it takes. -/
def receivedFrame (data : Bytes) : Option (Except Exn USMPFrame) :=
  match (readFrame false none data).1 with
  | .finished result => some result
  | .suspended _ => none

/-- How the writes among the calls fail before anything is sent. -/
def refusal (refused : Option Exn) : List HandshakeCall → Option Exn
  | [] => none
  | .setSessionKeys _ _ :: rest => refusal refused rest
  | .writeFrame type payload seq :: _ =>
      match encodeFrame type payload seq with
      | .error exn => some exn
      | .ok _ => refused

namespace ClientRun

def event (P : Primitives) (X : KeyExchange) (client : ClientRun) :
    ClientEvent → Option (ClientHandshake × List HandshakeCall)
  | .received data => (receivedFrame data).bind (client.run.read P X)
  | .readFails exn => client.run.read P X (.error exn)
  | .wrote failure => (client.run.wrote failure).map fun run => (run, [])

/-- The frame of the run's write goes out, or the write is refused. -/
def perform (client : ClientRun) (result : ClientHandshake × List HandshakeCall)
    (refused : Option Exn) : ClientRun :=
  match refusal refused result.2 with
  | some exn => { client with run := (result.1.wrote (some exn)).getD result.1 }
  | none =>
      { run := result.1
        helloAck :=
          match result.1.stage with
          | .writingHelloAck locals => some locals
          | .writingHello | .readingChallenge | .writingRetry | .readingChallengeAgain
          | .readingSessionOk _ | .returned _ | .raised _ => client.helloAck }

end ClientRun

namespace ServerRun

def event (P : Primitives) (X : KeyExchange) (server : ServerRun) :
    ServerEvent → Option (ServerHandshake × List HandshakeCall)
  | .received data entropy => (receivedFrame data).bind (server.run.read P X · entropy)
  | .readFails exn =>
      -- a failed read draws nothing
      server.run.read P X (.error exn) default
  | .resolved result entropy => server.run.resolved X result entropy
  | .wrote failure => (server.run.wrote P X failure).map fun run => (run, [])

def perform (P : Primitives) (X : KeyExchange) (server : ServerRun)
    (result : ServerHandshake × List HandshakeCall) (refused : Option Exn) : ServerRun :=
  match refusal refused result.2 with
  | some exn => { server with run := (result.1.wrote P X (some exn)).getD result.1 }
  | none =>
      { run := result.1
        sessionOk :=
          match result.1.stage with
          | .writingSessionOk locals => some locals
          | .created | .readingHello | .resolving _ _ | .writingChallenge _
          | .readingHelloAck _ _ | .returned _ | .raised _ => server.sessionOk }

end ServerRun

/-- The private key that a server event draws. -/
def ServerEvent.generated : ServerEvent → List PrivateKey
  | .received _ entropy | .resolved _ entropy => [entropy.priv]
  | .readFails _ | .wrote _ => []

namespace HandshakeWorld

def step (P : Primitives) (X : KeyExchange) (world : HandshakeWorld) :
    WorldAction → Option HandshakeWorld
  | .connect psk deviceId priv refused =>
      let started := ClientHandshake.start X psk deviceId priv
      some { world with
        clients := world.clients ++ [ClientRun.perform { run := started.1 } started refused]
        generated := priv :: world.generated }
  | .accept psk lockedOut =>
      some { world with
        servers := world.servers ++ [{ run := .start psk lockedOut }] }
  | .client index event refused =>
      match world.clients[index]? with
      | none => none
      | some client =>
          (client.event P X event).map fun result =>
            { world with clients := world.clients.set index (client.perform result refused) }
  | .server index event refused =>
      match world.servers[index]? with
      | none => none
      | some server =>
          (server.event P X event).map fun result =>
            { world with
              servers := world.servers.set index (server.perform P X result refused)
              generated := event.generated ++ world.generated }

/-! ## The attacker -/

/-- What honest runs sent an HMAC of under the PSK. -/
def authenticated (X : KeyExchange) (psk : Bytes) (world : HandshakeWorld) : List Bytes :=
  (world.clients.filterMap fun client =>
    match client.helloAck with
    | some locals =>
        if client.run.psk = psk then
          some (clientMacMessage locals.nonce client.run.deviceId
            (X.publicKey client.run.priv).1 locals.pubS)
        else none
    | none => none) ++
  world.servers.filterMap fun server =>
    match server.sessionOk with
    | some locals =>
        if locals.hello.psk = psk then
          some (serverMacMessage locals.hello.nonce.1 locals.sessionId.1 locals.hello.pubC
            (X.publicKey locals.hello.priv).1)
        else none
    | none => none

/-- The key, the message and the received tag that an action has compared. -/
def compared (X : KeyExchange) (world : HandshakeWorld) : WorldAction →
    Option (Bytes × Bytes × Bytes)
  | .client index (.received data) _ =>
      match world.clients[index]?, receivedFrame data with
      | some client, some (.ok frame) =>
          match client.run.stage with
          | .readingSessionOk locals =>
              some (client.run.psk,
                serverMacMessage locals.nonce (payloadSlice frame 0 usmpSessionIdLen)
                  (X.publicKey client.run.priv).1 locals.pubS,
                payloadSlice frame usmpSessionIdLen usmpHmacLen)
          | _ => none
      | _, _ => none
  | .server index (.received data _) _ =>
      match world.servers[index]?, receivedFrame data with
      | some server, some (.ok frame) =>
          match server.run.stage with
          | .readingHelloAck hello _ =>
              some (hello.psk,
                clientMacMessage hello.nonce.1 hello.deviceId hello.pubC
                  (X.publicKey hello.priv).1,
                payloadSlice frame 0 usmpHmacLen)
          | _ => none
      | _, _ => none
  | _ => none

/-- The attacker does not know the PSK: a tag that is right for a message was made by an
honest run. -/
def Unforged (P : Primitives) (X : KeyExchange) (psk : Bytes) (world : HandshakeWorld)
    (action : WorldAction) : Prop :=
  match world.compared X action with
  | some (key, message, tag) =>
      key = psk → (P.hmacSha256 psk message).1 = tag → message ∈ world.authenticated X psk
  | none => True

/-- The public keys that an action generates are new. -/
def FreshKeys (X : KeyExchange) (world : HandshakeWorld) : WorldAction → Prop
  | .connect _ _ priv _ => ∀ other ∈ world.generated, X.publicKey other ≠ X.publicKey priv
  | .server _ event _ =>
      ∀ priv ∈ event.generated, ∀ other ∈ world.generated, X.publicKey other ≠ X.publicKey priv
  | _ => True

/-- The assumptions on a step. -/
def Assumed (P : Primitives) (X : KeyExchange) (psk : Bytes) (world : HandshakeWorld)
    (action : WorldAction) : Prop :=
  Unforged P X psk world action ∧ FreshKeys X world action

instance (P : Primitives) (X : KeyExchange) (psk : Bytes) (world : HandshakeWorld)
    (action : WorldAction) : Decidable (Unforged P X psk world action) :=
  match found : world.compared X action with
  | some (key, message, tag) =>
      decidable_of_iff (key = psk → (P.hmacSha256 psk message).1 = tag →
        message ∈ world.authenticated X psk) (by rw [Unforged, found])
  | none => isTrue (by rw [Unforged, found]; trivial)

instance (X : KeyExchange) (world : HandshakeWorld) :
    (action : WorldAction) → Decidable (FreshKeys X world action)
  | .connect _ _ priv _ =>
      inferInstanceAs (Decidable (∀ other ∈ world.generated, X.publicKey other ≠ X.publicKey priv))
  | .server _ event _ =>
      inferInstanceAs (Decidable (∀ priv ∈ event.generated, ∀ other ∈ world.generated,
        X.publicKey other ≠ X.publicKey priv))
  | .accept _ _ | .client _ _ _ => isTrue trivial

instance (P : Primitives) (X : KeyExchange) (psk : Bytes) (world : HandshakeWorld)
    (action : WorldAction) : Decidable (Assumed P X psk world action) :=
  inferInstanceAs (Decidable (_ ∧ _))

end HandshakeWorld

end Usmp
