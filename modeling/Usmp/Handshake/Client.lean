import Usmp.Handshake.Keys

/-!
# `client_handshake`

The client's coroutine from one await to the next.  A resumption hands it the result of a
read or of a write; it goes on to its next read, or asks the transport for one write.
-/

namespace Usmp

/-- What a handshake coroutine asks of its transport. -/
inductive HandshakeCall where
  | writeFrame (type : PacketType) (payload : Bytes) (seq : Nat)
  | setSessionKeys (txKey rxKey : Key)
  deriving DecidableEq, Repr

/-- What the client knows once it has the CHALLENGE: `nonce`, `pub_s` and
`(k_c2s, k_s2c)`. -/
structure ClientLocals where
  nonce : Bytes
  pubS : Bytes
  keys : Key × Key
  deriving DecidableEq, Repr

/-- The client sends with `k_c2s`. -/
def ClientLocals.txKey (locals : ClientLocals) : Key := locals.keys.1

def ClientLocals.rxKey (locals : ClientLocals) : Key := locals.keys.2

inductive ClientStage where
  | writingHello
  | readingChallenge
  | writingRetry
  /-- The read after a HELLO_RETRY. -/
  | readingChallengeAgain
  | writingHelloAck (locals : ClientLocals)
  | readingSessionOk (locals : ClientLocals)
  | returned (info : SessionInfo)
  | raised (exn : Exn)
  deriving DecidableEq, Repr

/-- A run of `client_handshake`. -/
structure ClientHandshake where
  psk : Bytes
  deviceId : Bytes
  priv : PrivateKey
  stage : ClientStage
  deriving DecidableEq, Repr

/-- `except asyncio.IncompleteReadError as e: raise HandshakeError(message) from e`. -/
def readExcept (exn : Exn) (message : String) : Exn :=
  if exn.caughtBy [.incompleteReadError] then ⟨.handshakeError, message⟩ else exn

/-- `frame.payload[start:start + size]`. -/
def payloadSlice (frame : USMPFrame) (start size : Nat) : Bytes :=
  (frame.payload.drop start).take size

namespace ClientHandshake

def goto (run : ClientHandshake) (stage : ClientStage) : ClientHandshake := { run with stage }

def raise (run : ClientHandshake) (exn : Exn) : ClientHandshake × List HandshakeCall :=
  (run.goto (.raised exn), [])

/-- The coroutine up to its first await. -/
def start (X : KeyExchange) (psk deviceId : Bytes) (priv : PrivateKey) :
    ClientHandshake × List HandshakeCall :=
  let run : ClientHandshake := { psk, deviceId, priv, stage := .writingHello }
  if psk.length < 16 then
    run.raise ⟨.valueError, "PSK must be configured and at least 16 bytes long"⟩
  else
    (run, [.writeFrame .hello (deviceId ++ (X.publicKey priv).1) 0])

/-- The frame that must be the CHALLENGE. -/
def onChallenge (P : Primitives) (X : KeyExchange) (run : ClientHandshake) (frame : USMPFrame) :
    ClientHandshake × List HandshakeCall :=
  if frame.type ≠ .challenge then
    run.raise ⟨.handshakeError, s!"Expected CHALLENGE, got {frame.type.name}"⟩
  else if frame.length ≠ usmpNonceLen + usmpPubKeyLen then
    run.raise ⟨.handshakeError, s!"Bad CHALLENGE length: {frame.length}"⟩
  else
    let nonce := payloadSlice frame 0 usmpNonceLen
    let pubS := payloadSlice frame usmpNonceLen usmpPubKeyLen
    let pubC := (X.publicKey run.priv).1
    match deriveSessionKeys P X run.priv pubS nonce pubC pubS with
    | .error exn => run.raise exn
    | .ok keys =>
        let hmacClient := P.hmacSha256 run.psk (clientMacMessage nonce run.deviceId pubC pubS)
        (run.goto (.writingHelloAck { nonce, pubS, keys }),
          [.writeFrame .helloAck hmacClient.1 2])

/-- The first frame: the CHALLENGE, or the HELLO_RETRY that precedes it. -/
def onFirst (P : Primitives) (X : KeyExchange) (run : ClientHandshake) (frame : USMPFrame) :
    ClientHandshake × List HandshakeCall :=
  if frame.type = .helloRetry then
    if frame.length ≠ 16 then
      run.raise ⟨.handshakeError, s!"Bad HELLO_RETRY length: {frame.length}"⟩
    else
      let cookie := payloadSlice frame 0 16
      (run.goto .writingRetry,
        [.writeFrame .hello (run.deviceId ++ (X.publicKey run.priv).1 ++ cookie) 1])
  else
    run.onChallenge P X frame

/-- The frame that must be the SESSION_OK. -/
def onSessionOk (P : Primitives) (X : KeyExchange) (run : ClientHandshake)
    (locals : ClientLocals) (frame : USMPFrame) : ClientHandshake × List HandshakeCall :=
  if frame.type ≠ .sessionOk then
    run.raise ⟨.handshakeError, s!"Expected SESSION_OK, got {frame.type.name}"⟩
  else if frame.length ≠ usmpSessionIdLen + usmpHmacLen then
    run.raise ⟨.handshakeError, s!"Bad SESSION_OK length: {frame.length}"⟩
  else
    let sessionId := payloadSlice frame 0 usmpSessionIdLen
    let hmacServer := payloadSlice frame usmpSessionIdLen usmpHmacLen
    let pubC := (X.publicKey run.priv).1
    let expectedServer :=
      P.hmacSha256 run.psk (serverMacMessage locals.nonce sessionId pubC locals.pubS)
    if expectedServer.1 ≠ hmacServer then
      run.raise ⟨.authError, "Server HMAC verification failed — possible rogue server"⟩
    else
      let install := [.setSessionKeys locals.keys.1 locals.keys.2]
      -- the checks of `SessionInfo.__post_init__`
      if deviceSize : run.deviceId.length = usmpDeviceIdLen then
        if sessionSize : sessionId.length = usmpSessionIdLen then
          (run.goto (.returned
            { deviceId := ⟨run.deviceId, deviceSize⟩
              sessionId := ⟨sessionId, sessionSize⟩
              txKey := locals.keys.1
              rxKey := locals.keys.2 }), install)
        else
          (run.goto (.raised
            ⟨.valueError, s!"Invalid session_id length: {sessionId.length}"⟩), install)
      else
        (run.goto (.raised
          ⟨.valueError, s!"Invalid device_id length: {run.deviceId.length}"⟩), install)

/-- `transport.read_frame` is over. -/
def read (P : Primitives) (X : KeyExchange) (run : ClientHandshake)
    (result : Except Exn USMPFrame) : Option (ClientHandshake × List HandshakeCall) :=
  match run.stage, result with
  | .readingChallenge, .ok frame => some (run.onFirst P X frame)
  | .readingChallenge, .error exn =>
      some (run.raise (readExcept exn "Connection closed before CHALLENGE"))
  | .readingChallengeAgain, .ok frame => some (run.onChallenge P X frame)
  | .readingChallengeAgain, .error exn =>
      some (run.raise (readExcept exn "Connection closed before CHALLENGE (after retry)"))
  | .readingSessionOk locals, .ok frame => some (run.onSessionOk P X locals frame)
  | .readingSessionOk _, .error exn =>
      some (run.raise
        (readExcept exn "Connection closed by server — PSK rejected or server error"))
  | .writingHello, _ | .writingRetry, _ | .writingHelloAck _, _ | .returned _, _
  | .raised _, _ => none

/-- `transport.write_frame` is over. -/
def wrote (run : ClientHandshake) (failure : Option Exn) : Option ClientHandshake :=
  match run.stage, failure with
  | .writingHello, none => some (run.goto .readingChallenge)
  | .writingRetry, none => some (run.goto .readingChallengeAgain)
  | .writingHelloAck locals, none => some (run.goto (.readingSessionOk locals))
  | .writingHello, some exn | .writingRetry, some exn | .writingHelloAck _, some exn =>
      some (run.goto (.raised exn))
  | .readingChallenge, _ | .readingChallengeAgain, _ | .readingSessionOk _, _
  | .returned _, _ | .raised _, _ => none

end ClientHandshake

end Usmp
