import Usmp.Handshake.Agreement
import Usmp.Tcp.Dialogue

/-!
# From the handshake to the secure channel

A client whose handshake returned talks to a server that accepted it.  If that server's
handshake returned as well, the two sets of parameters mirror each other, and the sessions on
top of them are a secure channel, on the same network of the attacker.
-/

namespace Usmp

variable {P : Primitives} {X : KeyExchange}

/-- Parameters that no frame has been sent or received with. -/
structure SessionInfo.Unused (info : SessionInfo) : Prop where
  txSeq : info.txSeq = 0
  rxSeq : info.rxSeq = 0
  rxWindowBitmap : info.rxWindowBitmap = 0
  cipherSuite : info.cipherSuite = .aes256Gcm

/-! ## What handshakes return is unused -/

def ClientStage.Unused (stage : ClientStage) : Prop :=
  ∀ info, stage = .returned info → info.Unused

def ServerStage.Unused (stage : ServerStage) : Prop :=
  ∀ info, stage = .returned info → info.Unused

theorem ClientHandshake.read_unused {run : ClientHandshake} {outcome : Except Exn USMPFrame}
    {result : ClientHandshake × List HandshakeCall} (read : run.read P X outcome = some result) :
    result.1.stage.Unused := by
  have raises : ∀ exn, (run.raise exn).1.stage.Unused := by
    intro exn info returned
    cases returned
  have challenged : ∀ frame, (run.onChallenge P X frame).1.stage.Unused := by
    intro frame
    unfold onChallenge
    split
    · exact raises _
    split
    · exact raises _
    dsimp only
    split
    · exact raises _
    · intro info returned
      cases returned
  unfold ClientHandshake.read at read
  split at read <;> cases read
  · unfold onFirst
    split
    · split
      · exact raises _
      · intro info returned
        cases returned
    · exact challenged _
  · exact raises _
  · exact challenged _
  · exact raises _
  · unfold onSessionOk
    split
    · exact raises _
    split
    · exact raises _
    dsimp only
    split
    · exact raises _
    split
    · split
      · intro info returned
        cases returned
        exact ⟨rfl, rfl, rfl, rfl⟩
      · intro info returned
        cases returned
    · intro info returned
      cases returned
  · exact raises _

theorem ClientHandshake.wrote_unused {run after : ClientHandshake} {failure : Option Exn}
    (wrote : run.wrote failure = some after) : after.stage.Unused := by
  unfold ClientHandshake.wrote at wrote
  split at wrote <;> cases wrote <;> intro info returned <;> cases returned

theorem ClientRun.event_unused {client : ClientRun} {event : ClientEvent}
    {result : ClientHandshake × List HandshakeCall}
    (stepped : client.event P X event = some result) : result.1.stage.Unused := by
  cases event with
  | received data =>
      rcases Option.bind_eq_some_iff.mp stepped with ⟨outcome, _, read⟩
      exact ClientHandshake.read_unused read
  | readFails exn => exact ClientHandshake.read_unused stepped
  | wrote failure =>
      rcases Option.map_eq_some_iff.mp stepped with ⟨run, wrote, rfl⟩
      exact ClientHandshake.wrote_unused wrote

/-- A refused write does not make a run return. -/
theorem ClientRun.perform_unused (client : ClientRun)
    {result : ClientHandshake × List HandshakeCall} (unused : result.1.stage.Unused)
    (refused : Option Exn) : (client.perform result refused).run.stage.Unused := by
  unfold perform
  split
  · rename_i exn _
    cases failed : result.1.wrote (some exn) with
    | none => exact unused
    | some after => exact ClientHandshake.wrote_unused failed
  · exact unused

theorem ServerHandshake.challenge_unused (run : ServerHandshake) (deviceId pubC psk : Bytes)
    (entropy : Entropy) : (run.challenge X deviceId pubC psk entropy).1.stage.Unused := by
  unfold challenge
  split <;> intro info returned <;> cases returned

theorem ServerHandshake.read_unused {run : ServerHandshake} {outcome : Except Exn USMPFrame}
    {entropy : Entropy} {result : ServerHandshake × List HandshakeCall}
    (read : run.read P X outcome entropy = some result) : result.1.stage.Unused := by
  have raises : ∀ exn, (run.raise exn).1.stage.Unused := by
    intro exn info returned
    cases returned
  unfold ServerHandshake.read at read
  split at read <;> cases read
  · unfold onHello
    split
    · exact raises _
    split
    · exact raises _
    dsimp only
    split
    · exact run.challenge_unused _ _ _ entropy
    · intro info returned
      cases returned
    · exact raises _
  · exact raises _
  · unfold onHelloAck
    split
    · exact raises _
    split
    · exact raises _
    dsimp only
    split
    · exact raises _
    · intro info returned
      cases returned
  · exact raises _

theorem ServerHandshake.wrote_unused {run after : ServerHandshake} {failure : Option Exn}
    (wrote : run.wrote P X failure = some after) : after.stage.Unused := by
  intro info returned
  unfold ServerHandshake.wrote at wrote
  split at wrote
  · split at wrote <;> cases wrote <;> cases returned
  · split at wrote <;> cases wrote <;> cases returned
    exact ⟨rfl, rfl, rfl, rfl⟩
  all_goals cases wrote
  all_goals cases returned

theorem ServerRun.event_unused {server : ServerRun} {event : ServerEvent}
    {result : ServerHandshake × List HandshakeCall}
    (stepped : server.event P X event = some result) : result.1.stage.Unused := by
  cases event with
  | received data entropy =>
      rcases Option.bind_eq_some_iff.mp stepped with ⟨outcome, _, read⟩
      exact ServerHandshake.read_unused read
  | readFails exn => exact ServerHandshake.read_unused stepped
  | resolved outcome entropy =>
      simp only [event, ServerHandshake.resolved] at stepped
      split at stepped <;> cases stepped
      · exact server.run.challenge_unused _ _ _ entropy
      · intro info returned
        cases returned
      · intro info returned
        cases returned
  | wrote failure =>
      rcases Option.map_eq_some_iff.mp stepped with ⟨run, wrote, rfl⟩
      exact ServerHandshake.wrote_unused wrote

theorem ServerRun.perform_unused (server : ServerRun)
    {result : ServerHandshake × List HandshakeCall} (unused : result.1.stage.Unused)
    (refused : Option Exn) : (server.perform P X result refused).run.stage.Unused := by
  unfold perform
  split
  · rename_i exn _
    cases failed : result.1.wrote P X (some exn) with
    | none => exact unused
    | some after => exact ServerHandshake.wrote_unused failed
  · exact unused

namespace HandshakeWorld

/-- The parameters that runs returned. -/
structure Unused (world : HandshakeWorld) : Prop where
  clients : ∀ client ∈ world.clients, client.run.stage.Unused
  servers : ∀ server ∈ world.servers, server.run.stage.Unused

theorem Unused.step {world next : HandshakeWorld} {action : WorldAction} (unused : world.Unused)
    (stepped : world.step P X action = some next) : next.Unused := by
  cases action with
  | connect psk deviceId priv refused =>
      cases stepped
      refine ⟨?_, unused.servers⟩
      intro client member
      rcases List.mem_append.mp member with old | new
      · exact unused.clients client old
      · rw [List.mem_singleton.mp new]
        apply ClientRun.perform_unused
        unfold ClientHandshake.start
        dsimp only
        split <;> intro info returned <;> cases returned
  | accept psk lockedOut =>
      cases stepped
      refine ⟨unused.clients, ?_⟩
      intro server member
      rcases List.mem_append.mp member with old | new
      · exact unused.servers server old
      · rw [List.mem_singleton.mp new]
        unfold ServerHandshake.start
        split <;> intro info returned <;> cases returned
  | client index event refused =>
      simp only [HandshakeWorld.step] at stepped
      split at stepped
      · cases stepped
      rename_i client isAt
      rcases Option.map_eq_some_iff.mp stepped with ⟨result, resumed, rfl⟩
      refine ⟨?_, unused.servers⟩
      intro other member
      rcases List.mem_or_eq_of_mem_set member with old | rfl
      · exact unused.clients other old
      · exact client.perform_unused (ClientRun.event_unused resumed) refused
  | server index event refused =>
      simp only [HandshakeWorld.step] at stepped
      split at stepped
      · cases stepped
      rename_i server isAt
      rcases Option.map_eq_some_iff.mp stepped with ⟨result, resumed, rfl⟩
      refine ⟨unused.clients, ?_⟩
      intro other member
      rcases List.mem_or_eq_of_mem_set member with old | rfl
      · exact unused.servers other old
      · exact server.perform_unused (ServerRun.event_unused resumed) refused

end HandshakeWorld

/-! ## The channel -/

/-- The two ends of a connection can talk through an attacker: what either returns before its
first failure begins what the other one sent. -/
structure SecureChannel (P : Primitives) (near far : SessionInfo) : Prop where
  deviceId : far.deviceId = near.deviceId
  mirrored : Mirrored near far
  nearUnused : near.Unused
  farUnused : far.Unused
  intact : near.txKey ≠ near.rxKey → ∀ nearEnd farEnd, TcpPeer.Conversed P near nearEnd →
    TcpPeer.Conversed P far farEnd → P.Unforgeable (nearEnd.session.sent ++ farEnd.session.sent) →
      farEnd.session.receivedIntact <+: nearEnd.session.admittedPayloads ∧
      nearEnd.session.receivedIntact <+: farEnd.session.admittedPayloads

theorem secureChannel_of_mirrored (sized : P.SizedAead) {near far : SessionInfo}
    (deviceId : far.deviceId = near.deviceId) (mirrored : Mirrored near far)
    (nearUnused : near.Unused) (farUnused : far.Unused) : SecureChannel P near far := by
  refine ⟨deviceId, mirrored, nearUnused, farUnused, ?_⟩
  intro directions nearEnd farEnd nearConversed farConversed ideal
  have nearBound : near.txSeq ≤ maxSeq := by
    rw [nearUnused.txSeq]
    exact Nat.zero_le maxSeq
  have farBound : far.txSeq ≤ maxSeq := by
    rw [farUnused.txSeq]
    exact Nat.zero_le maxSeq
  constructor
  · exact nearConversed.intact sized mirrored nearBound farBound directions farConversed ideal
  · apply farConversed.intact sized mirrored.symm farBound nearBound ?_ nearConversed
    · exact Primitives.Unforgeable.mono ideal List.perm_append_comm.subset
    · rw [mirrored.txKey, mirrored.rxKey]
      exact directions.symm

namespace HandshakeWorld

theorem Agreed.empty (P : Primitives) (X : KeyExchange) (psk : Bytes) : Agreed P X psk {} := by
  constructor
  case distinct => exact List.nodup_nil
  all_goals exact fun _ member => absurd member List.not_mem_nil

/-- A client that returned has a server that accepted it, with the same PSK and device. -/
theorem Agreed.secureChannel {psk : Bytes} {world : HandshakeWorld} (sized : P.SizedAead)
    (agreed : Agreed P X psk world) (unused : world.Unused) {client : ClientRun}
    (member : client ∈ world.clients) {info : SessionInfo}
    (returned : client.run.stage = .returned info) (isPsk : client.run.psk = psk) :
    ∃ server ∈ world.servers, ∃ locals, server.sessionOk = some locals ∧ locals.hello.psk = psk ∧
      ∀ serverInfo, server.run.stage = .returned serverInfo → SecureChannel P info serverInfo := by
  have sameDevice := (agreed.clients client member).returned info returned
  rcases agreed.returned client member info returned isPsk with
    ⟨server, isServer, locals, sent, samePsk, deviceId, _, sessionId, keys⟩
  refine ⟨server, isServer, locals, sent, samePsk.trans isPsk, ?_⟩
  intro serverInfo serverReturned
  rcases (agreed.servers server isServer).returned serverInfo serverReturned with
    ⟨other, isOther, serverDevice, serverSession, serverKeys⟩
  cases sent.symm.trans isOther
  have near := unused.clients client member info returned
  have far := unused.servers server isServer serverInfo serverReturned
  have sameKeys := Prod.mk.inj (serverKeys.trans keys)
  apply secureChannel_of_mirrored sized ?_ ?_ near far
  · exact Subtype.ext (serverDevice.trans (deviceId.trans sameDevice.symm))
  · refine ⟨serverSession.trans sessionId, ?_, sameKeys.2, sameKeys.1, ?_, ?_⟩
    · rw [near.cipherSuite, far.cipherSuite]
    · rw [near.rxSeq, far.txSeq]
    · rw [near.txSeq, far.rxSeq]

/-- Handshake and session together, on one hostile network. -/
theorem session_secure (P : Primitives) (X : KeyExchange) (commutes : X.Commutative)
    (sized : P.SizedAead) (psk : Bytes) (actions : List WorldAction) (world : HandshakeWorld)
    (assumed : Machine.Along (step P X) (Assumed P X psk) {} actions)
    (reached : Machine.run (step P X) {} actions = some world) :
    ∀ client ∈ world.clients, ∀ info, client.run.stage = .returned info →
      client.run.psk = psk → ∃ server ∈ world.servers, ∃ locals,
        server.sessionOk = some locals ∧ locals.hello.psk = psk ∧
          ∀ serverInfo, server.run.stage = .returned serverInfo →
            SecureChannel P info serverInfo := by
  have agreed := Machine.run_invariant (Agreed P X psk)
    (fun _ _ _ agreed assumed stepped => agreed.step commutes assumed stepped)
    (Agreed.empty P X psk) assumed reached
  have unused := Machine.run_invariant' Unused (fun _ _ _ unused stepped => unused.step stepped)
    ⟨List.forall_mem_nil _, List.forall_mem_nil _⟩ reached
  intro client member info returned isPsk
  exact agreed.secureChannel sized unused member returned isPsk

/-! ## One message each way -/

/-- What a server returned. -/
def returnedInfo (server : ServerRun) : Option SessionInfo :=
  match server.run.stage with
  | .returned info => some info
  | .created | .readingHello | .resolving _ _ | .writingChallenge _ | .readingHelloAck _ _
  | .writingSessionOk _ | .raised _ => none

theorem stage_of_returnedInfo {server : ServerRun} {info : SessionInfo}
    (isInfo : returnedInfo server = some info) : server.run.stage = .returned info := by
  unfold returnedInfo at isInfo
  split at isInfo <;> cases isInfo
  assumption

/-- The keys of the sample exchange. -/
def sampleKeys : Key × Key :=
  let pubC := (sampleKeyExchange.publicKey (samplePrivate 1)).1
  let pubS := (sampleKeyExchange.publicKey (samplePrivate 2)).1
  match deriveSessionKeys samplePrimitives sampleKeyExchange (samplePrivate 1) pubS sampleNonce.1
    pubC pubS with
  | .ok keys => keys
  | .error _ => (sampleKey 0, sampleKey 0)

def sampleClientInfo : SessionInfo :=
  { deviceId := sampleDeviceId
    sessionId := sampleSessionId
    txKey := sampleKeys.1
    rxKey := sampleKeys.2 }

def sampleServerInfo : SessionInfo :=
  { deviceId := sampleDeviceId
    sessionId := sampleSessionId
    txKey := sampleKeys.2
    rxKey := sampleKeys.1 }

def sampleRequest : SentFrame := encryptedFrame samplePrimitives sampleClientInfo 0 (.send [7] 0)

def sampleResponse : SentFrame := encryptedFrame samplePrimitives sampleServerInfo 1 (.send [8] 0)

/-- The client sends, and then reads a copy of its own frame behind the response. -/
def sampleClientEnd : List TcpAction :=
  [.call 0 (.send [7]) 0, .acquire 0, .wrote 0 none 0, .receive sampleResponse.bytes,
    .receive sampleRequest.bytes, .call 1 .recv 0, .resume 1 0, .call 2 .recv 0, .resume 2 0]

def sampleServerEnd : List TcpAction :=
  [.receive sampleRequest.bytes, .call 0 .recv 0, .resume 0 0, .call 1 (.send [8]) 0, .acquire 1,
    .wrote 1 none 0]

theorem session_secure_sampleExchange :
    ∃ world server nearEnd farEnd,
      Machine.run (step (tablePrimitives [sampleRequest, sampleResponse]) sampleKeyExchange) {}
          sampleExchange = some world ∧
        server ∈ world.servers ∧ server.run.stage = .returned sampleServerInfo ∧
        (world.clients.any fun client => client.run.stage = .returned sampleClientInfo) = true ∧
        SecureChannel (tablePrimitives [sampleRequest, sampleResponse]) sampleClientInfo
          sampleServerInfo ∧
        TcpPeer.Conversed (tablePrimitives [sampleRequest, sampleResponse]) sampleClientInfo
          nearEnd ∧
        TcpPeer.Conversed (tablePrimitives [sampleRequest, sampleResponse]) sampleServerInfo
          farEnd ∧
        farEnd.session.receivedIntact = [[7]] ∧ nearEnd.session.receivedIntact = [[8]] ∧
        farEnd.session.receivedIntact <+: nearEnd.session.admittedPayloads ∧
        nearEnd.session.receivedIntact <+: farEnd.session.admittedPayloads := by
  have assumed : Machine.Along
      (step (tablePrimitives [sampleRequest, sampleResponse]) sampleKeyExchange)
      (Assumed (tablePrimitives [sampleRequest, sampleResponse]) sampleKeyExchange samplePsk) {}
      sampleExchange := by
    decide +kernel
  rcases Machine.exists_run (step (tablePrimitives [sampleRequest, sampleResponse])
      sampleKeyExchange) {} sampleExchange
    (fun world => (world.clients.any fun client =>
        client.run.stage = .returned sampleClientInfo ∧ client.run.psk = samplePsk) = true ∧
      ∀ server ∈ world.servers, server.sessionOk.isSome = true →
        returnedInfo server = some sampleServerInfo)
    (by decide +kernel) with ⟨world, reached, clientReturned, serverReturned⟩
  rcases Machine.exists_run (TcpPeer.step (tablePrimitives [sampleRequest, sampleResponse]))
    { session := .new true sampleClientInfo } sampleClientEnd
    (fun nearEnd => nearEnd.session.lock = none ∧ nearEnd.session.sent = [sampleRequest] ∧
      nearEnd.session.receivedIntact = [[8]]) (by decide +kernel) with
    ⟨nearEnd, nearReached, nearFree, nearSent, nearReceived⟩
  rcases Machine.exists_run (TcpPeer.step (tablePrimitives [sampleRequest, sampleResponse]))
    { session := .new true sampleServerInfo } sampleServerEnd
    (fun farEnd => farEnd.session.lock = none ∧ farEnd.session.sent = [sampleResponse] ∧
      farEnd.session.receivedIntact = [[7]]) (by decide +kernel) with
    ⟨farEnd, farReached, farFree, farSent, farReceived⟩
  have near : TcpPeer.Conversed (tablePrimitives [sampleRequest, sampleResponse])
      sampleClientInfo nearEnd := ⟨_, nearReached, by decide +kernel, nearFree⟩
  have far : TcpPeer.Conversed (tablePrimitives [sampleRequest, sampleResponse])
      sampleServerInfo farEnd := ⟨_, farReached, by decide +kernel, farFree⟩
  rcases List.any_eq_true.mp clientReturned with ⟨client, isClient, isReturned⟩
  rcases of_decide_eq_true isReturned with ⟨returned, isPsk⟩
  rcases session_secure (tablePrimitives [sampleRequest, sampleResponse]) sampleKeyExchange
      sampleKeyExchange_commutative (tablePrimitives_sized _) samplePsk sampleExchange world
      assumed reached client isClient sampleClientInfo returned isPsk with
    ⟨server, isServer, locals, isSent, _, secure⟩
  have atEnd := stage_of_returnedInfo (serverReturned server isServer (by rw [isSent]; rfl))
  have channel := secure sampleServerInfo atEnd
  refine ⟨world, server, nearEnd, farEnd, reached, isServer, atEnd, ?_, channel, near, far,
    farReceived, nearReceived, channel.intact (by decide +kernel) nearEnd farEnd near far ?_⟩
  · exact List.any_eq_true.mpr ⟨client, isClient, by simpa using returned⟩
  · rw [nearSent, farSent]
    exact tablePrimitives_unforgeable _

end HandshakeWorld

end Usmp
