import Usmp.Handshake.World

/-!
# What one step does to a run

Every step of a client is one of five moves, and every step of a server one of four.
-/

namespace Usmp

variable {P : Primitives} {X : KeyExchange}

/-! ## Frames -/

theorem receivedFrame_length {data : Bytes} {frame : USMPFrame}
    (received : receivedFrame data = some (.ok frame)) :
    frame.payload.length = frame.length := by
  unfold receivedFrame at received
  split at received <;> cases received
  rename_i read
  simp only [readFrame] at read
  split at read
  · cases read
  split at read
  · cases read
  · simp only [readFramePayload] at read
    split at read
    · cases read
    · exact (decodeFrame_fields (ReadProgress.finished.inj read)).2.2.2

theorem length_payloadSlice {frame : USMPFrame} {start size : Nat}
    (fits : start + size ≤ frame.payload.length) :
    (payloadSlice frame start size).length = size := by
  rw [payloadSlice, List.length_take, List.length_drop]
  omega

/-! ## Clients -/

/-- The locals agree with what the client computes from them. -/
structure ClientLocals.Derived (P : Primitives) (X : KeyExchange) (priv : PrivateKey)
    (locals : ClientLocals) : Prop where
  nonceSize : locals.nonce.length = usmpNonceLen
  pubSSize : locals.pubS.length = usmpPubKeyLen
  keys : deriveSessionKeys P X priv locals.pubS locals.nonce (X.publicKey priv).1 locals.pubS =
    .ok locals.keys

/-- Before the HELLO_ACK. -/
def ClientStage.early : ClientStage → Prop
  | .writingHello | .readingChallenge | .writingRetry | .readingChallengeAgain => True
  | .writingHelloAck _ | .readingSessionOk _ | .returned _ | .raised _ => False

/-- The client accepts the authenticator of a SESSION_OK. -/
structure ClientRun.Accepts (P : Primitives) (X : KeyExchange) (client : ClientRun)
    (locals : ClientLocals) (info : SessionInfo) (data : Bytes) : Prop where
  stage : client.run.stage = .readingSessionOk locals
  received : ∃ frame, receivedFrame data = some (.ok frame) ∧
    payloadSlice frame 0 usmpSessionIdLen = info.sessionId.1 ∧
    (P.hmacSha256 client.run.psk (serverMacMessage locals.nonce info.sessionId.1
      (X.publicKey client.run.priv).1 locals.pubS)).1 =
        payloadSlice frame usmpSessionIdLen usmpHmacLen
  deviceId : info.deviceId.1 = client.run.deviceId
  keys : (info.txKey, info.rxKey) = locals.keys

inductive ClientRun.Move (P : Primitives) (X : KeyExchange) (client : ClientRun) :
    ClientEvent → ClientRun → Prop where
  | early {event : ClientEvent} (stage : ClientStage) (before : client.run.stage.early)
      (after : stage.early) : Move P X client event { client with run := client.run.goto stage }
  | acked {event : ClientEvent} (locals : ClientLocals) (before : client.run.stage.early)
      (derived : locals.Derived P X client.run.priv) :
      Move P X client event
        { run := client.run.goto (.writingHelloAck locals), helloAck := some locals }
  | waits {event : ClientEvent} (locals : ClientLocals)
      (before : client.run.stage = .writingHelloAck locals) :
      Move P X client event { client with run := client.run.goto (.readingSessionOk locals) }
  | returns (locals : ClientLocals) (info : SessionInfo) (data : Bytes)
      (accepts : client.Accepts P X locals info data) :
      Move P X client (.received data) { client with run := client.run.goto (.returned info) }
  | raises {event : ClientEvent} (exn : Exn) :
      Move P X client event { client with run := client.run.goto (.raised exn) }

theorem ClientHandshake.onChallenge_cases (run : ClientHandshake) {frame : USMPFrame}
    (payload : frame.payload.length = frame.length) :
    (∃ exn, run.onChallenge P X frame = run.raise exn) ∨
      ∃ locals mac, locals.Derived P X run.priv ∧ run.onChallenge P X frame =
        (run.goto (.writingHelloAck locals), [.writeFrame .helloAck mac 2]) := by
  unfold onChallenge
  split
  · exact .inl ⟨_, rfl⟩
  split
  · exact .inl ⟨_, rfl⟩
  rename_i size
  have size : frame.length = usmpNonceLen + usmpPubKeyLen := not_not.mp size
  dsimp only
  split
  · exact .inl ⟨_, rfl⟩
  · rename_i keys derived
    refine .inr ⟨_, _, ⟨?_, ?_, derived⟩, rfl⟩
    · apply length_payloadSlice
      omega
    · apply length_payloadSlice
      omega

/-- A write of the client either goes out or ends its run. -/
theorem ClientRun.perform_write (client : ClientRun) (stage : ClientStage)
    (type : PacketType) (payload : Bytes) (seq : Nat) (refused : Option Exn)
    (writes : stage = .writingHello ∨ stage = .writingRetry ∨
      ∃ locals, stage = .writingHelloAck locals) :
    client.perform (client.run.goto stage, [.writeFrame type payload seq]) refused =
        { run := client.run.goto stage
          helloAck :=
            match stage with
            | .writingHelloAck locals => some locals
            | _ => client.helloAck } ∨
      ∃ exn, client.perform (client.run.goto stage, [.writeFrame type payload seq]) refused =
        { client with run := client.run.goto (.raised exn) } := by
  unfold perform
  split
  · rename_i exn _
    right
    refine ⟨exn, ?_⟩
    rcases writes with rfl | rfl | ⟨locals, rfl⟩ <;> rfl
  · left
    rcases writes with rfl | rfl | ⟨locals, rfl⟩ <;> rfl

/-- A client begins with its HELLO, or ends at once. -/
theorem ClientRun.perform_start (psk deviceId : Bytes) (priv : PrivateKey)
    (refused : Option Exn) :
    ∃ stage, ClientRun.perform { run := (ClientHandshake.start X psk deviceId priv).1 }
        (ClientHandshake.start X psk deviceId priv) refused =
          { run := { psk, deviceId, priv, stage } } ∧
      (stage = .writingHello ∨ ∃ exn, stage = .raised exn) := by
  unfold ClientHandshake.start
  dsimp only
  split
  · exact ⟨_, rfl, .inr ⟨_, rfl⟩⟩
  · rcases ClientRun.perform_write { run := { psk, deviceId, priv, stage := .writingHello } } _
        .hello (deviceId ++ (X.publicKey priv).1) 0 refused (.inl rfl) with
      sent | ⟨exn, failed⟩
    · exact ⟨_, sent, .inl rfl⟩
    · exact ⟨_, failed, .inr ⟨exn, rfl⟩⟩

theorem ClientRun.move_onChallenge (client : ClientRun) {event : ClientEvent} {frame : USMPFrame}
    (payload : frame.payload.length = frame.length) (early : client.run.stage.early)
    (refused : Option Exn) :
    client.Move P X event (client.perform (client.run.onChallenge P X frame) refused) := by
  rcases client.run.onChallenge_cases (P := P) (X := X) payload with
    ⟨exn, raised⟩ | ⟨locals, mac, derived, acked⟩
  · rw [raised]
    exact .raises exn
  · rw [acked]
    rcases client.perform_write _ .helloAck mac 2 refused (.inr (.inr ⟨locals, rfl⟩)) with
      sent | ⟨exn, refused⟩
    · rw [sent]
      exact .acked locals early derived
    · rw [refused]
      exact .raises exn

theorem ClientRun.move_onFirst (client : ClientRun) {event : ClientEvent} {frame : USMPFrame}
    (payload : frame.payload.length = frame.length) (early : client.run.stage.early)
    (refused : Option Exn) :
    client.Move P X event (client.perform (client.run.onFirst P X frame) refused) := by
  unfold ClientHandshake.onFirst
  split
  · split
    · exact .raises _
    · rcases client.perform_write .writingRetry .hello _ 1 refused
          (.inr (.inl rfl)) with sent | ⟨exn, refused⟩
      · rw [sent]
        exact .early _ early trivial
      · rw [refused]
        exact .raises exn
  · exact client.move_onChallenge payload early refused

theorem ClientRun.move_onSessionOk (client : ClientRun) {locals : ClientLocals} {data : Bytes}
    {frame : USMPFrame} (received : receivedFrame data = some (.ok frame))
    (stage : client.run.stage = .readingSessionOk locals) (refused : Option Exn) :
    client.Move P X (.received data)
      (client.perform (client.run.onSessionOk P X locals frame) refused) := by
  unfold ClientHandshake.onSessionOk
  split
  · exact .raises _
  split
  · exact .raises _
  dsimp only
  split
  · exact .raises _
  rename_i verified
  split
  · split
    · refine .returns locals _ data ⟨stage, ⟨frame, received, rfl, ?_⟩, rfl, rfl⟩
      exact not_not.mp verified
    · exact .raises _
  · exact .raises _

theorem ClientRun.move_of_event {client : ClientRun} {event : ClientEvent}
    {result : ClientHandshake × List HandshakeCall}
    (stepped : client.event P X event = some result) (refused : Option Exn) :
    client.Move P X event (client.perform result refused) := by
  cases event with
  | received data =>
      rcases Option.bind_eq_some_iff.mp stepped with ⟨outcome, received, read⟩
      unfold ClientHandshake.read at read
      split at read <;> cases read
      · rename_i stage
        apply client.move_onFirst (receivedFrame_length received)
        rw [stage]
        trivial
      · exact .raises _
      · rename_i stage
        apply client.move_onChallenge (receivedFrame_length received)
        rw [stage]
        trivial
      · exact .raises _
      · rename_i stage
        exact client.move_onSessionOk received stage refused
      · exact .raises _
  | readFails exn =>
      simp only [event, ClientHandshake.read] at stepped
      cases stage : client.run.stage <;> rw [stage] at stepped <;> cases stepped <;>
        exact .raises _
  | wrote failure =>
      rcases Option.map_eq_some_iff.mp stepped with ⟨run, wrote, rfl⟩
      unfold ClientHandshake.wrote at wrote
      split at wrote <;> cases wrote
      · rename_i stage
        exact .early _ (by rw [stage]; trivial) trivial
      · rename_i stage
        exact .early _ (by rw [stage]; trivial) trivial
      · rename_i stage
        exact .waits _ stage
      · exact .raises _
      · exact .raises _
      · exact .raises _

/-! ## Servers -/

/-- The sizes of what the HELLO brought. -/
structure ServerHello.Sized (hello : ServerHello) : Prop where
  deviceId : hello.deviceId.length = usmpDeviceIdLen
  pubC : hello.pubC.length = usmpPubKeyLen

/-- The keys that the server computes. -/
def ServerHello.Derives (P : Primitives) (X : KeyExchange) (hello : ServerHello)
    (keys : Key × Key) : Prop :=
  deriveSessionKeys P X hello.priv hello.pubC hello.nonce.1 hello.pubC
    (X.publicKey hello.priv).1 = .ok keys

/-- Before the SESSION_OK, with what is known by then. -/
def ServerStage.Early (P : Primitives) (X : KeyExchange) : ServerStage → Prop
  | .created | .readingHello => True
  | .resolving deviceId pubC =>
      deviceId.length = usmpDeviceIdLen ∧ pubC.length = usmpPubKeyLen
  | .writingChallenge hello => hello.Sized
  | .readingHelloAck hello keys => hello.Sized ∧ hello.Derives P X keys
  | .writingSessionOk _ | .returned _ | .raised _ => False

def ServerStage.late : ServerStage → Bool
  | .created | .readingHello | .resolving _ _ | .writingChallenge _
  | .readingHelloAck _ _ => false
  | .writingSessionOk _ | .returned _ | .raised _ => true

/-- The server accepts the authenticator of a HELLO_ACK. -/
structure ServerRun.Accepts (P : Primitives) (X : KeyExchange) (server : ServerRun)
    (locals : ServerLocals) (data : Bytes) : Prop where
  stage : server.run.stage = .readingHelloAck locals.hello locals.keys
  received : ∃ frame, receivedFrame data = some (.ok frame) ∧
    (P.hmacSha256 locals.hello.psk (clientMacMessage locals.hello.nonce.1 locals.hello.deviceId
      locals.hello.pubC (X.publicKey locals.hello.priv).1)).1 =
        payloadSlice frame 0 usmpHmacLen

/-- The result of the server. -/
def ServerLocals.Returns (locals : ServerLocals) (info : SessionInfo) : Prop :=
  info.deviceId.1 = locals.hello.deviceId ∧ info.sessionId = locals.sessionId ∧
    (info.rxKey, info.txKey) = locals.keys

inductive ServerRun.Move (P : Primitives) (X : KeyExchange) (server : ServerRun) :
    ServerEvent → ServerRun → Prop where
  | early {event : ServerEvent} (stage : ServerStage) (before : server.run.stage.Early P X)
      (after : stage.Early P X) : Move P X server event { server with run := server.run.goto stage }
  | accepts (locals : ServerLocals) (data : Bytes) (entropy : Entropy)
      (accepted : server.Accepts P X locals data) :
      Move P X server (.received data entropy)
        { run := server.run.goto (.writingSessionOk locals), sessionOk := some locals }
  | returns {event : ServerEvent} (locals : ServerLocals) (info : SessionInfo)
      (before : server.run.stage = .writingSessionOk locals) (returned : locals.Returns info) :
      Move P X server event { server with run := server.run.goto (.returned info) }
  | raises {event : ServerEvent} (exn : Exn) :
      Move P X server event { server with run := server.run.goto (.raised exn) }

/-- A write of the server either goes out or ends its run. -/
theorem ServerRun.perform_challenge (server : ServerRun) (hello : ServerHello) (payload : Bytes)
    (refused : Option Exn) :
    server.perform P X (server.run.goto (.writingChallenge hello),
        [.writeFrame .challenge payload 0]) refused =
        { server with run := server.run.goto (.writingChallenge hello) } ∨
      ∃ exn, server.perform P X (server.run.goto (.writingChallenge hello),
          [.writeFrame .challenge payload 0]) refused =
        { server with run := server.run.goto (.raised exn) } := by
  unfold perform
  split
  · rename_i exn _
    exact .inr ⟨exn, rfl⟩
  · exact .inl rfl

theorem ServerRun.perform_sessionOk (server : ServerRun) (locals : ServerLocals)
    (keys : Key × Key) (payload : Bytes) (refused : Option Exn) :
    server.perform P X (server.run.goto (.writingSessionOk locals),
        [.setSessionKeys keys.1 keys.2, .writeFrame .sessionOk payload 0]) refused =
        { run := server.run.goto (.writingSessionOk locals), sessionOk := some locals } ∨
      ∃ exn, server.perform P X (server.run.goto (.writingSessionOk locals),
          [.setSessionKeys keys.1 keys.2, .writeFrame .sessionOk payload 0]) refused =
        { server with run := server.run.goto (.raised exn) } := by
  unfold perform
  split
  · rename_i exn _
    exact .inr ⟨exn, rfl⟩
  · exact .inl rfl

theorem ServerRun.move_challenge (server : ServerRun) {event : ServerEvent}
    {deviceId pubC : Bytes} (early : server.run.stage.Early P X)
    (deviceIdSize : deviceId.length = usmpDeviceIdLen) (pubCSize : pubC.length = usmpPubKeyLen)
    (psk : Bytes) (entropy : Entropy) (refused : Option Exn) :
    server.Move P X event
      (server.perform P X (server.run.challenge X deviceId pubC psk entropy) refused) := by
  unfold ServerHandshake.challenge
  split
  · exact .raises _
  · rcases server.perform_challenge (P := P) (X := X)
        { deviceId, pubC, psk, priv := entropy.priv, nonce := entropy.nonce }
        (entropy.nonce.1 ++ (X.publicKey entropy.priv).1) refused with sent | ⟨exn, refused⟩
    · rw [sent]
      exact .early _ early ⟨deviceIdSize, pubCSize⟩
    · rw [refused]
      exact .raises exn

theorem ServerRun.move_onHello (server : ServerRun) {event : ServerEvent} {frame : USMPFrame}
    (payload : frame.payload.length = frame.length) (early : server.run.stage.Early P X)
    (entropy : Entropy) (refused : Option Exn) :
    server.Move P X event
      (server.perform P X (server.run.onHello X frame entropy) refused) := by
  unfold ServerHandshake.onHello
  split
  · exact .raises _
  split
  · exact .raises _
  rename_i size
  have long : 38 ≤ frame.payload.length := by omega
  have deviceIdSize : (payloadSlice frame 0 usmpDeviceIdLen).length = usmpDeviceIdLen := by
    apply length_payloadSlice
    simp only [usmpDeviceIdLen]
    omega
  have pubCSize : (payloadSlice frame usmpDeviceIdLen usmpPubKeyLen).length = usmpPubKeyLen := by
    apply length_payloadSlice
    simp only [usmpDeviceIdLen, usmpPubKeyLen]
    omega
  dsimp only
  split
  · exact server.move_challenge early deviceIdSize pubCSize _ entropy refused
  · exact .early _ early ⟨deviceIdSize, pubCSize⟩
  · exact .raises _

theorem ServerRun.move_onHelloAck (server : ServerRun) {hello : ServerHello} {keys : Key × Key}
    {data : Bytes} {frame : USMPFrame} (received : receivedFrame data = some (.ok frame))
    (stage : server.run.stage = .readingHelloAck hello keys) (entropy : Entropy)
    (refused : Option Exn) :
    server.Move P X (.received data entropy)
      (server.perform P X (server.run.onHelloAck P X hello keys frame entropy) refused) := by
  unfold ServerHandshake.onHelloAck
  split
  · exact .raises _
  split
  · exact .raises _
  dsimp only
  split
  · exact .raises _
  rename_i verified
  rcases server.perform_sessionOk (P := P) (X := X)
      { hello, keys, sessionId := entropy.sessionId } keys.swap _ refused with
    sent | ⟨exn, refused⟩
  · exact sent ▸ .accepts { hello, keys, sessionId := entropy.sessionId } data entropy
      ⟨stage, ⟨frame, received, not_not.mp verified⟩⟩
  · exact refused ▸ .raises exn

theorem ServerRun.move_of_event {server : ServerRun} {event : ServerEvent}
    {result : ServerHandshake × List HandshakeCall}
    (sound : server.run.stage.late = false → server.run.stage.Early P X)
    (stepped : server.event P X event = some result) (refused : Option Exn) :
    server.Move P X event (server.perform P X result refused) := by
  cases event with
  | received data entropy =>
      rcases Option.bind_eq_some_iff.mp stepped with ⟨outcome, received, read⟩
      unfold ServerHandshake.read at read
      split at read <;> cases read
      · rename_i stage
        apply server.move_onHello (receivedFrame_length received)
        rw [stage]
        trivial
      · exact .raises _
      · rename_i stage
        exact server.move_onHelloAck received stage entropy refused
      · exact .raises _
  | readFails exn =>
      simp only [event, ServerHandshake.read] at stepped
      cases stage : server.run.stage <;> rw [stage] at stepped <;> cases stepped <;>
        exact .raises _
  | resolved outcome entropy =>
      simp only [event, ServerHandshake.resolved] at stepped
      split at stepped <;> cases stepped
      · rename_i stage
        rw [stage] at sound
        have early := sound rfl
        rw [← stage] at sound
        exact server.move_challenge (sound (by rw [stage]; rfl)) early.1 early.2 _ entropy refused
      · exact .raises _
      · exact .raises _
  | wrote failure =>
      rcases Option.map_eq_some_iff.mp stepped with ⟨run, wrote, rfl⟩
      unfold ServerHandshake.wrote at wrote
      split at wrote
      · rename_i hello stage
        have early := sound (by rw [stage]; rfl)
        have sized : hello.Sized := by
          rw [stage] at early
          exact early
        split at wrote <;> cases wrote
        · exact .raises _
        · rename_i keys derived
          exact .early _ early ⟨sized, derived⟩
      · rename_i locals stage
        split at wrote <;> cases wrote
        · exact .returns locals _ stage ⟨rfl, rfl, rfl⟩
        · exact .raises _
      · cases wrote
        exact .raises _
      · cases wrote
        exact .raises _
      all_goals cases wrote

end Usmp
