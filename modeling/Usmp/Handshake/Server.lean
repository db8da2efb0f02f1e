import Usmp.Handshake.Client

/-!
# `server_handshake`

The server's coroutine from one await to the next.  Its random values (the key pair, the
nonce and the session id) come with the resumption that draws them.
-/

namespace Usmp

/-- `device_id`, `pub_c`, the resolved PSK, the server's private key and the nonce. -/
structure ServerHello where
  deviceId : Bytes
  pubC : Bytes
  psk : Bytes
  priv : PrivateKey
  nonce : FixedBytes usmpNonceLen
  deriving DecidableEq, Repr

/-- What the server knows when it has accepted the client. -/
structure ServerLocals where
  hello : ServerHello
  /-- `(k_c2s, k_s2c)`. -/
  keys : Key × Key
  sessionId : FixedBytes usmpSessionIdLen
  deriving DecidableEq, Repr

/-- The server sends with `k_s2c`. -/
def ServerLocals.txKey (locals : ServerLocals) : Key := locals.keys.2

def ServerLocals.rxKey (locals : ServerLocals) : Key := locals.keys.1

inductive ServerStage where
  /-- `server_handshake` has not started. -/
  | created
  | readingHello
  /-- `resolved_psk = await res`. -/
  | resolving (deviceId pubC : Bytes)
  | writingChallenge (hello : ServerHello)
  | readingHelloAck (hello : ServerHello) (keys : Key × Key)
  | writingSessionOk (locals : ServerLocals)
  | returned (info : SessionInfo)
  | raised (exn : Exn)
  deriving DecidableEq, Repr

/-- A run of `server_handshake`. -/
structure ServerHandshake where
  psk : PskInput
  stage : ServerStage

/-- The random values that a resumption draws. -/
structure Entropy where
  priv : PrivateKey
  nonce : FixedBytes usmpNonceLen
  sessionId : FixedBytes usmpSessionIdLen
  deriving DecidableEq, Repr

instance : Inhabited Entropy :=
  ⟨{ priv := ⟨List.replicate 32 0, rfl⟩
     nonce := ⟨List.replicate 32 0, rfl⟩
     sessionId := ⟨List.replicate 16 0, rfl⟩ }⟩

namespace ServerHandshake

def goto (run : ServerHandshake) (stage : ServerStage) : ServerHandshake := { run with stage }

def raise (run : ServerHandshake) (exn : Exn) : ServerHandshake × List HandshakeCall :=
  (run.goto (.raised exn), [])

/-- The coroutine up to its first await.  `lockedOut` is the text of the seconds that a
lockout has left. -/
def start (psk : PskInput) (lockedOut : Option String) : ServerHandshake :=
  match lockedOut with
  | none => { psk, stage := .readingHello }
  | some remaining =>
      { psk
        stage := .raised
          ⟨.handshakeError, s!"Rate limit exceeded. Lockout active for {remaining}s"⟩ }

/-- With a PSK at hand: the check of its size, the key pair, the nonce, and the CHALLENGE. -/
def challenge (X : KeyExchange) (run : ServerHandshake) (deviceId pubC psk : Bytes)
    (entropy : Entropy) : ServerHandshake × List HandshakeCall :=
  if psk.length < 16 then
    run.raise ⟨.handshakeError, "Resolved PSK must be at least 16 bytes long"⟩
  else
    (run.goto (.writingChallenge
        { deviceId, pubC, psk, priv := entropy.priv, nonce := entropy.nonce }),
      [.writeFrame .challenge (entropy.nonce.1 ++ (X.publicKey entropy.priv).1) 0])

/-- The frame that must be the HELLO. -/
def onHello (X : KeyExchange) (run : ServerHandshake) (frame : USMPFrame) (entropy : Entropy) :
    ServerHandshake × List HandshakeCall :=
  if frame.type ≠ .hello then
    run.raise ⟨.handshakeError, s!"Expected HELLO, got {frame.type.name}"⟩
  else if frame.length ≠ 38 ∧ frame.length ≠ 54 then
    run.raise ⟨.handshakeError, s!"Bad HELLO length: {frame.length}"⟩
  else
    let deviceId := payloadSlice frame 0 usmpDeviceIdLen
    let pubC := payloadSlice frame usmpDeviceIdLen usmpPubKeyLen
    match run.psk.lookup deviceId with
    | .found psk => run.challenge X deviceId pubC psk entropy
    | .waiting => (run.goto (.resolving deviceId pubC), [])
    | .failed exn => run.raise exn

/-- `await res` is over; `none` is a value that is not `bytes`. -/
def resolved (X : KeyExchange) (run : ServerHandshake) (result : Except Exn (Option Bytes))
    (entropy : Entropy) : Option (ServerHandshake × List HandshakeCall) :=
  match run.stage, result with
  | .resolving deviceId pubC, .ok (some psk) =>
      some (run.challenge X deviceId pubC psk entropy)
  | .resolving _ _, .ok none =>
      some (run.raise ⟨.handshakeError, "Resolved PSK must be bytes"⟩)
  | .resolving _ _, .error exn => some (run.raise exn)
  | .created, _ | .readingHello, _ | .writingChallenge _, _ | .readingHelloAck _ _, _
  | .writingSessionOk _, _ | .returned _, _ | .raised _, _ => none

/-- The frame that must be the HELLO_ACK. -/
def onHelloAck (P : Primitives) (X : KeyExchange) (run : ServerHandshake) (hello : ServerHello)
    (keys : Key × Key) (frame : USMPFrame) (entropy : Entropy) :
    ServerHandshake × List HandshakeCall :=
  if frame.type ≠ .helloAck then
    run.raise ⟨.handshakeError, s!"Expected HELLO_ACK, got {frame.type.name}"⟩
  else if frame.length ≠ usmpHmacLen then
    run.raise ⟨.handshakeError, s!"Bad HELLO_ACK length: {frame.length}"⟩
  else
    let pubS := (X.publicKey hello.priv).1
    let expectedClient :=
      P.hmacSha256 hello.psk (clientMacMessage hello.nonce.1 hello.deviceId hello.pubC pubS)
    if expectedClient.1 ≠ payloadSlice frame 0 usmpHmacLen then
      run.raise ⟨.authError, "Client HMAC verification failed"⟩
    else
      let sessionId := entropy.sessionId
      let hmacServer :=
        P.hmacSha256 hello.psk (serverMacMessage hello.nonce.1 sessionId.1 hello.pubC pubS)
      (run.goto (.writingSessionOk { hello, keys, sessionId }),
        -- the keys are there before the client can answer
        [.setSessionKeys keys.2 keys.1,
          .writeFrame .sessionOk (sessionId.1 ++ hmacServer.1) 0])

/-- `transport.read_frame` is over. -/
def read (P : Primitives) (X : KeyExchange) (run : ServerHandshake)
    (result : Except Exn USMPFrame) (entropy : Entropy) :
    Option (ServerHandshake × List HandshakeCall) :=
  match run.stage, result with
  | .readingHello, .ok frame => some (run.onHello X frame entropy)
  | .readingHello, .error exn =>
      some (run.raise (readExcept exn "Connection closed before HELLO"))
  | .readingHelloAck hello keys, .ok frame => some (run.onHelloAck P X hello keys frame entropy)
  | .readingHelloAck _ _, .error exn =>
      some (run.raise (readExcept exn "Connection closed before HELLO_ACK"))
  | .created, _ | .resolving _ _, _ | .writingChallenge _, _ | .writingSessionOk _, _
  | .returned _, _ | .raised _, _ => none

/-- `transport.write_frame` is over. -/
def wrote (P : Primitives) (X : KeyExchange) (run : ServerHandshake) (failure : Option Exn) :
    Option ServerHandshake :=
  match run.stage, failure with
  | .writingChallenge hello, none =>
      match deriveSessionKeys P X hello.priv hello.pubC hello.nonce.1 hello.pubC
          (X.publicKey hello.priv).1 with
      | .error exn => some (run.goto (.raised exn))
      | .ok keys => some (run.goto (.readingHelloAck hello keys))
  | .writingSessionOk locals, none =>
      if deviceSize : locals.hello.deviceId.length = usmpDeviceIdLen then
        some (run.goto (.returned
          { deviceId := ⟨locals.hello.deviceId, deviceSize⟩
            sessionId := locals.sessionId
            txKey := locals.keys.2
            rxKey := locals.keys.1 }))
      else
        some (run.goto (.raised
          ⟨.valueError, s!"Invalid device_id length: {locals.hello.deviceId.length}"⟩))
  | .writingChallenge _, some exn | .writingSessionOk _, some exn =>
      some (run.goto (.raised exn))
  | .created, _ | .readingHello, _ | .resolving _ _, _ | .readingHelloAck _ _, _
  | .returned _, _ | .raised _, _ => none

/-- The coroutine waits for nothing any more. -/
def hasEnded (run : ServerHandshake) : Bool :=
  match run.stage with
  | .returned _ | .raised _ => true
  | .created | .readingHello | .resolving _ _ | .writingChallenge _ | .readingHelloAck _ _
  | .writingSessionOk _ => false

end ServerHandshake

/-! ## Concrete values -/

def samplePrivate (byte : UInt8) : PrivateKey := ⟨List.replicate 32 byte, by rfl⟩

def samplePsk : Bytes := List.replicate 16 9

theorem nodup_samplePsks : ([(sampleDeviceId.1, samplePsk)].map Prod.fst).Nodup := by decide

def sampleNonce : FixedBytes usmpNonceLen := ⟨List.replicate 32 3, by rfl⟩

def sampleEntropy (byte : UInt8) : Entropy :=
  { priv := samplePrivate byte, nonce := sampleNonce, sessionId := sampleSessionId }

end Usmp
