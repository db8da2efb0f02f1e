import Usmp.Handshake.Moves

/-!
# Agreement

With HMAC unforgeable under the PSK and distinct key pairs, a client that returns has a
server that accepted it, and a server that returns has a client that asked for it.  The
authenticator of SESSION_OK does not cover the device; that the server serves this client's
device follows from the HELLO_ACK that the server accepted, whose public key is the client's
own.
-/

namespace Usmp

variable {P : Primitives} {X : KeyExchange}

/-! ## One run -/

structure ClientRun.Sound (P : Primitives) (X : KeyExchange) (client : ClientRun) : Prop where
  early : client.run.stage.early → client.helloAck = none
  acked : ∀ locals, client.run.stage = .writingHelloAck locals ∨
    client.run.stage = .readingSessionOk locals → client.helloAck = some locals
  derived : ∀ locals, client.helloAck = some locals → locals.Derived P X client.run.priv
  returned : ∀ info, client.run.stage = .returned info → info.deviceId.1 = client.run.deviceId

/-- The parameters of a client stay, and so does its HELLO_ACK. -/
structure ClientRun.Continues (before after : ClientRun) : Prop where
  psk : after.run.psk = before.run.psk
  deviceId : after.run.deviceId = before.run.deviceId
  priv : after.run.priv = before.run.priv
  helloAck : ∀ locals, before.helloAck = some locals → after.helloAck = some locals

theorem ClientRun.Continues.refl (client : ClientRun) : client.Continues client :=
  ⟨rfl, rfl, rfl, fun _ sent => sent⟩

theorem ClientRun.Move.continues {client after : ClientRun} {event : ClientEvent}
    (move : client.Move P X event after) (sound : client.Sound P X) :
    client.Continues after := by
  cases move with
  | early stage before late => exact ⟨rfl, rfl, rfl, fun _ sent => sent⟩
  | acked locals before derived =>
      refine ⟨rfl, rfl, rfl, ?_⟩
      intro other sent
      rw [sound.early before] at sent
      cases sent
  | waits locals before => exact ⟨rfl, rfl, rfl, fun _ sent => sent⟩
  | returns locals info data accepts => exact ⟨rfl, rfl, rfl, fun _ sent => sent⟩
  | raises exn => exact ⟨rfl, rfl, rfl, fun _ sent => sent⟩

theorem ClientRun.Move.sound {client after : ClientRun} {event : ClientEvent}
    (move : client.Move P X event after) (sound : client.Sound P X) : after.Sound P X := by
  cases move with
  | early stage before late =>
      refine ⟨fun _ => sound.early before, ?_, sound.derived, ?_⟩
      · intro locals isStage
        have isStage : stage = .writingHelloAck locals ∨ stage = .readingSessionOk locals :=
          isStage
        rcases isStage with rfl | rfl <;> exact absurd late id
      · intro info isStage
        have isStage : stage = .returned info := isStage
        subst isStage
        exact absurd late id
  | acked locals before derived =>
      refine ⟨fun impossible => absurd impossible id, ?_, ?_, ?_⟩
      · intro other isStage
        rcases isStage with same | same <;> cases same
        rfl
      · intro other sent
        cases sent
        exact derived
      · intro info isStage
        cases isStage
  | waits locals before =>
      refine ⟨fun impossible => absurd impossible id, ?_, sound.derived, ?_⟩
      · intro other isStage
        rcases isStage with same | same <;> cases same
        exact sound.acked locals (.inl before)
      · intro info isStage
        cases isStage
  | returns locals info data accepts =>
      refine ⟨fun impossible => absurd impossible id, ?_, sound.derived, ?_⟩
      · intro other isStage
        rcases isStage with same | same <;> cases same
      · intro other isStage
        cases isStage
        exact accepts.deviceId
  | raises exn =>
      refine ⟨fun impossible => absurd impossible id, ?_, sound.derived, ?_⟩
      · intro other isStage
        rcases isStage with same | same <;> cases same
      · intro other isStage
        cases isStage

structure ServerRun.Sound (P : Primitives) (X : KeyExchange) (server : ServerRun) : Prop where
  early : server.run.stage.late = false →
    server.run.stage.Early P X ∧ server.sessionOk = none
  sending : ∀ locals, server.run.stage = .writingSessionOk locals →
    server.sessionOk = some locals
  returned : ∀ info, server.run.stage = .returned info →
    ∃ locals, server.sessionOk = some locals ∧ locals.Returns info
  locals : ∀ locals, server.sessionOk = some locals →
    locals.hello.Sized ∧ locals.hello.Derives P X locals.keys

theorem ServerStage.Early.notLate {stage : ServerStage} (early : stage.Early P X) :
    stage.late = false := by
  cases stage <;> first | rfl | exact absurd early id

theorem ServerRun.Move.continues {server after : ServerRun} {event : ServerEvent}
    (move : server.Move P X event after) (sound : server.Sound P X) :
    ∀ locals, server.sessionOk = some locals → after.sessionOk = some locals := by
  cases move with
  | accepts locals data entropy accepted =>
      intro other sent
      rw [(sound.early (by rw [accepted.stage]; rfl)).2] at sent
      cases sent
  | early stage before late | returns locals info before returned | raises exn =>
      exact fun _ sent => sent

theorem ServerRun.Move.sound {server after : ServerRun} {event : ServerEvent}
    (move : server.Move P X event after) (sound : server.Sound P X) : after.Sound P X := by
  cases move with
  | early stage before late =>
      refine ⟨fun _ => ⟨late, (sound.early before.notLate).2⟩, ?_, ?_, sound.locals⟩
      · intro locals isStage
        have isStage : stage = .writingSessionOk locals := isStage
        subst isStage
        exact absurd late id
      · intro info isStage
        have isStage : stage = .returned info := isStage
        subst isStage
        exact absurd late id
  | accepts locals data entropy accepted =>
      have early := (sound.early (by rw [accepted.stage]; rfl)).1
      rw [accepted.stage] at early
      refine ⟨fun impossible => (Bool.noConfusion impossible), ?_, ?_, ?_⟩
      · intro other isStage
        cases isStage
        rfl
      · intro info isStage
        cases isStage
      · intro other sent
        cases sent
        exact early
  | returns locals info before returned =>
      refine ⟨fun impossible => (Bool.noConfusion impossible), ?_, ?_, sound.locals⟩
      · intro other isStage
        cases isStage
      · intro other isStage
        cases isStage
        exact ⟨locals, sound.sending locals before, returned⟩
  | raises exn =>
      refine ⟨fun impossible => (Bool.noConfusion impossible), ?_, ?_, sound.locals⟩
      · intro other isStage
        cases isStage
      · intro other isStage
        cases isStage

/-! ## Counterparts -/

namespace HandshakeWorld

/-- A client asked for the session that the server accepted. -/
def HasClient (X : KeyExchange) (world : HandshakeWorld) (locals : ServerLocals) : Prop :=
  ∃ client ∈ world.clients, ∃ sent, client.helloAck = some sent ∧
    client.run.psk = locals.hello.psk ∧ client.run.deviceId = locals.hello.deviceId ∧
    (X.publicKey client.run.priv).1 = locals.hello.pubC ∧ sent.nonce = locals.hello.nonce.1 ∧
    sent.pubS = (X.publicKey locals.hello.priv).1 ∧ sent.keys = locals.keys

/-- A server accepted the session that the client returned. -/
def HasServer (X : KeyExchange) (world : HandshakeWorld) (client : ClientHandshake)
    (info : SessionInfo) : Prop :=
  ∃ server ∈ world.servers, ∃ locals, server.sessionOk = some locals ∧
    locals.hello.psk = client.psk ∧ locals.hello.deviceId = client.deviceId ∧
    locals.hello.pubC = (X.publicKey client.priv).1 ∧ locals.sessionId = info.sessionId ∧
    locals.keys = (info.txKey, info.rxKey)

/-- Runs go on, and no run is forgotten. -/
structure Continues (before after : HandshakeWorld) : Prop where
  clients : ∀ client ∈ before.clients, ∃ later ∈ after.clients, client.Continues later
  servers : ∀ server ∈ before.servers, ∃ later ∈ after.servers,
    ∀ locals, server.sessionOk = some locals → later.sessionOk = some locals

theorem HasClient.continues {before after : HandshakeWorld} {locals : ServerLocals}
    (has : before.HasClient X locals) (continues : before.Continues after) :
    after.HasClient X locals := by
  rcases has with ⟨client, member, sent, isSent, psk, deviceId, pubC, facts⟩
  rcases continues.clients client member with ⟨later, laterMember, goesOn⟩
  refine ⟨later, laterMember, sent, goesOn.helloAck sent isSent, ?_, ?_, ?_, facts⟩
  · rw [goesOn.psk, psk]
  · rw [goesOn.deviceId, deviceId]
  · rw [goesOn.priv, pubC]

theorem HasServer.continues {before after : HandshakeWorld} {client later : ClientHandshake}
    {info : SessionInfo} (has : before.HasServer X client info)
    (continues : before.Continues after) (psk : later.psk = client.psk)
    (deviceId : later.deviceId = client.deviceId) (priv : later.priv = client.priv) :
    after.HasServer X later info := by
  rcases has with ⟨server, member, locals, isSent, facts⟩
  rcases continues.servers server member with ⟨laterServer, laterMember, goesOn⟩
  rw [← psk, ← deviceId, ← priv] at facts
  exact ⟨laterServer, laterMember, locals, goesOn locals isSent, facts⟩

/-- The run at an index goes on, and the others stay. -/
theorem exists_mem_set {Run : Type} {Related : Run → Run → Prop} (related : ∀ run, Related run run)
    {runs : List Run} {index : Nat} {before after : Run} (isAt : runs[index]? = some before)
    (goesOn : Related before after) :
    ∀ run ∈ runs, ∃ later ∈ runs.set index after, Related run later := by
  intro run member
  rcases List.getElem?_of_mem member with ⟨place, isPlace⟩
  by_cases same : place = index
  · subst same
    rw [isAt] at isPlace
    cases isPlace
    have inside := (List.getElem?_eq_some_iff.mp isAt).1
    exact ⟨after, List.mem_set inside after, goesOn⟩
  · refine ⟨run, ?_, related run⟩
    apply List.mem_of_getElem?
    rw [List.getElem?_set_ne (Ne.symm same)]
    exact isPlace

/-- Messages that honest runs authenticated under a PSK. -/
theorem mem_authenticated {psk message : Bytes} {world : HandshakeWorld}
    (member : message ∈ world.authenticated X psk) :
    (∃ client ∈ world.clients, ∃ sent, client.helloAck = some sent ∧ client.run.psk = psk ∧
      clientMacMessage sent.nonce client.run.deviceId (X.publicKey client.run.priv).1 sent.pubS =
        message) ∨
    ∃ server ∈ world.servers, ∃ locals, server.sessionOk = some locals ∧
      locals.hello.psk = psk ∧
      serverMacMessage locals.hello.nonce.1 locals.sessionId.1 locals.hello.pubC
        (X.publicKey locals.hello.priv).1 = message := by
  rcases List.mem_append.mp member with fromClient | fromServer
  · left
    rcases List.mem_filterMap.mp fromClient with ⟨client, isClient, isMessage⟩
    split at isMessage
    · rename_i sent isSent
      split at isMessage <;> cases isMessage
      rename_i isPsk
      exact ⟨client, isClient, sent, isSent, isPsk, rfl⟩
    · cases isMessage
  · right
    rcases List.mem_filterMap.mp fromServer with ⟨server, isServer, isMessage⟩
    split at isMessage
    · rename_i locals isSent
      split at isMessage <;> cases isMessage
      rename_i isPsk
      exact ⟨server, isServer, locals, isSent, isPsk, rfl⟩
    · cases isMessage

/-! ## The invariant -/

structure Agreed (P : Primitives) (X : KeyExchange) (psk : Bytes) (world : HandshakeWorld) :
    Prop where
  clients : ∀ client ∈ world.clients, client.Sound P X
  servers : ∀ server ∈ world.servers, server.Sound P X
  distinct : (world.clients.map fun client => X.publicKey client.run.priv).Nodup
  generated : ∀ client ∈ world.clients, client.run.priv ∈ world.generated
  accepted : ∀ server ∈ world.servers, ∀ locals, server.sessionOk = some locals →
    locals.hello.psk = psk → world.HasClient X locals
  returned : ∀ client ∈ world.clients, ∀ info, client.run.stage = .returned info →
    client.run.psk = psk → world.HasServer X client.run info

/-- The client that a server accepted, found by the authenticator of its HELLO_ACK. -/
theorem Agreed.hasClient {psk : Bytes} {world : HandshakeWorld} (agreed : Agreed P X psk world)
    (commutes : X.Commutative) {index : Nat} {server : ServerRun}
    (isAt : world.servers[index]? = some server) {locals : ServerLocals} {data : Bytes}
    {entropy : Entropy} {refused : Option Exn}
    (unforged : Unforged P X psk world (.server index (.received data entropy) refused))
    (accepts : server.Accepts P X locals data) (isPsk : locals.hello.psk = psk) :
    world.HasClient X locals := by
  have sound := agreed.servers server (List.mem_of_getElem? isAt)
  have early := (sound.early (by rw [accepts.stage]; rfl)).1
  rw [accepts.stage] at early
  rcases early with ⟨sized, derives⟩
  rcases accepts.received with ⟨frame, received, verified⟩
  simp only [Unforged, compared, isAt, received, accepts.stage] at unforged
  rw [isPsk] at verified unforged
  rcases mem_authenticated (unforged rfl verified) with
    ⟨client, member, sent, isSent, sentPsk, same⟩ |
    ⟨other, _, sent, _, _, same⟩
  · have derived := (agreed.clients client member).derived sent isSent
    have sizes : sent.nonce.length = locals.hello.nonce.1.length := by
      rw [derived.nonceSize, locals.hello.nonce.2]
    rcases clientMacMessage_inj sizes
        (by rw [(X.publicKey client.run.priv).2, sized.pubC])
        (by rw [derived.pubSSize, (X.publicKey locals.hello.priv).2]) same with
      ⟨sameNonce, sameDevice, samePubC, samePubS⟩
    refine ⟨client, member, sent, isSent, sentPsk.trans isPsk.symm, sameDevice, samePubC,
      sameNonce, samePubS, ?_⟩
    -- both derivations are of the same secret
    have keys := derived.keys
    have agree := deriveSessionKeys_agree P commutes client.run.priv locals.hello.priv
      locals.hello.nonce.1
    rw [sameNonce, samePubS, agree, samePubC] at keys
    rw [ServerHello.Derives] at derives
    exact Except.ok.inj (keys.symm.trans derives)
  · exact absurd same.symm (clientMacMessage_ne_serverMacMessage _ _ _ _ _ _ _ _)

/-- The server that accepted a client, found by the authenticator of its SESSION_OK. -/
theorem Agreed.hasServer {psk : Bytes} {world : HandshakeWorld} (agreed : Agreed P X psk world)
    {index : Nat} {client : ClientRun} (isAt : world.clients[index]? = some client)
    {locals : ClientLocals} {info : SessionInfo} {data : Bytes} {refused : Option Exn}
    (unforged : Unforged P X psk world (.client index (.received data) refused))
    (accepts : client.Accepts P X locals info data) (isPsk : client.run.psk = psk) :
    world.HasServer X client.run info := by
  have isClient := List.mem_of_getElem? isAt
  have sound := agreed.clients client isClient
  have derived := sound.derived locals (sound.acked locals (.inr accepts.stage))
  rcases accepts.received with ⟨frame, received, sessionId, verified⟩
  simp only [Unforged, compared, isAt, received, accepts.stage, sessionId] at unforged
  rw [isPsk] at verified unforged
  rcases mem_authenticated (unforged rfl verified) with
    ⟨other, _, sent, _, _, same⟩ |
    ⟨server, member, sent, isSent, sentPsk, same⟩
  · exact absurd same (clientMacMessage_ne_serverMacMessage _ _ _ _ _ _ _ _)
  · have sized := ((agreed.servers server member).locals sent isSent).1
    rcases serverMacMessage_inj (by rw [derived.nonceSize, sent.hello.nonce.2])
        (by rw [(X.publicKey client.run.priv).2, sized.pubC])
        (by rw [derived.pubSSize, (X.publicKey sent.hello.priv).2]) same.symm with
      ⟨sameNonce, sameSession, samePubC, samePubS⟩
    -- the client that this server accepted has the same public key
    rcases agreed.accepted server member sent isSent sentPsk with
      ⟨asked, isAsked, ack, isAck, askedPsk, askedDevice, askedPubC, ackNonce, ackPubS, ackKeys⟩
    have samePub : X.publicKey asked.run.priv = X.publicKey client.run.priv :=
      Subtype.ext (askedPubC.trans samePubC.symm)
    have same : asked = client :=
      List.inj_on_of_nodup_map agreed.distinct isAsked isClient samePub
    subst same
    have sameLocals : ack = locals := by
      have isLocals := sound.acked locals (.inr accepts.stage)
      rw [isAck] at isLocals
      exact Option.some.inj isLocals
    subst sameLocals
    exact ⟨server, member, sent, isSent, sentPsk.trans isPsk.symm, askedDevice.symm,
      samePubC.symm, Subtype.ext sameSession.symm, ackKeys.symm.trans accepts.keys.symm⟩

theorem Agreed.connect {psk : Bytes} {world : HandshakeWorld} (agreed : Agreed P X psk world)
    (ownPsk deviceId : Bytes) (priv : PrivateKey) (refused : Option Exn)
    (fresh : ∀ other ∈ world.generated, X.publicKey other ≠ X.publicKey priv) :
    let started := ClientHandshake.start X ownPsk deviceId priv
    Agreed P X psk { world with
      clients := world.clients ++ [ClientRun.perform { run := started.1 } started refused]
      generated := priv :: world.generated } := by
  intro started
  rcases ClientRun.perform_start (X := X) ownPsk deviceId priv refused with
    ⟨stage, performed, isStage⟩
  simp only [started, performed]
  generalize isRun : ({ run := { psk := ownPsk, deviceId, priv, stage } } : ClientRun) = client
  have unsent : client.helloAck = none := by rw [← isRun]
  have isPriv : client.run.priv = priv := by rw [← isRun]
  have isStage : client.run.stage = .writingHello ∨ ∃ exn, client.run.stage = .raised exn := by
    rw [← isRun]
    exact isStage
  have continues : world.Continues { world with
      clients := world.clients ++ [client], generated := priv :: world.generated } :=
    ⟨fun other member => ⟨other, List.mem_append_left _ member, .refl other⟩,
      fun other member => ⟨other, member, fun _ sent => sent⟩⟩
  have sound : client.Sound P X := by
    refine ⟨fun _ => unsent, ?_, ?_, ?_⟩
    · intro locals sends
      rcases isStage with isStage | ⟨exn, isStage⟩ <;> rw [isStage] at sends <;>
        rcases sends with sends | sends <;> cases sends
    · intro locals sent
      rw [unsent] at sent
      cases sent
    · intro info returned
      rcases isStage with isStage | ⟨exn, isStage⟩ <;> rw [isStage] at returned <;>
        cases returned
  constructor
  · intro other member
    rcases List.mem_append.mp member with old | new
    · exact agreed.clients other old
    · rw [List.mem_singleton.mp new]
      exact sound
  · exact agreed.servers
  · rw [List.map_append, List.nodup_append]
    refine ⟨agreed.distinct, List.nodup_singleton _, ?_⟩
    intro pub old other new
    rcases List.mem_map.mp old with ⟨earlier, member, rfl⟩
    rw [List.map_singleton, List.mem_singleton, isPriv] at new
    rw [new]
    exact fresh _ (agreed.generated earlier member)
  · intro other member
    rcases List.mem_append.mp member with old | new
    · exact List.mem_cons_of_mem _ (agreed.generated other old)
    · rw [List.mem_singleton.mp new, isPriv]
      exact List.mem_cons_self
  · intro server member locals sent isPsk
    exact (agreed.accepted server member locals sent isPsk).continues continues
  · intro other member info returned isPsk
    rcases List.mem_append.mp member with old | new
    · exact (agreed.returned other old info returned isPsk).continues continues rfl rfl rfl
    · rw [List.mem_singleton.mp new] at returned
      rcases isStage with isStage | ⟨exn, isStage⟩ <;> rw [isStage] at returned <;>
        cases returned

theorem Agreed.accept {psk : Bytes} {world : HandshakeWorld} (agreed : Agreed P X psk world)
    (input : PskInput) (lockedOut : Option String) :
    Agreed P X psk
      { world with servers := world.servers ++ [{ run := .start input lockedOut }] } := by
  have continues : world.Continues
      { world with servers := world.servers ++ [{ run := .start input lockedOut }] } :=
    ⟨fun other member => ⟨other, member, .refl other⟩,
      fun other member => ⟨other, List.mem_append_left _ member, fun _ sent => sent⟩⟩
  refine ⟨agreed.clients, ?_, agreed.distinct, agreed.generated, ?_, ?_⟩
  · intro server member
    rcases List.mem_append.mp member with old | new
    · exact agreed.servers server old
    · rw [List.mem_singleton.mp new]
      cases lockedOut with
      | none =>
          refine ⟨fun _ => ⟨trivial, rfl⟩, ?_, ?_, ?_⟩ <;> intro value impossible <;>
            cases impossible
      | some remaining =>
          refine ⟨fun late => Bool.noConfusion late, ?_, ?_, ?_⟩ <;> intro value impossible <;>
            cases impossible
  · intro server member locals sent isPsk
    rcases List.mem_append.mp member with old | new
    · exact (agreed.accepted server old locals sent isPsk).continues continues
    · rw [List.mem_singleton.mp new] at sent
      cases sent
  · intro client member info returned isPsk
    exact (agreed.returned client member info returned isPsk).continues continues rfl rfl rfl

theorem Agreed.client {psk : Bytes} {world : HandshakeWorld} (agreed : Agreed P X psk world)
    {index : Nat} {client after : ClientRun} {event : ClientEvent} {refused : Option Exn}
    (isAt : world.clients[index]? = some client)
    (unforged : Unforged P X psk world (.client index event refused))
    (move : client.Move P X event after) :
    Agreed P X psk { world with clients := world.clients.set index after } := by
  have isClient := List.mem_of_getElem? isAt
  have goesOn := move.continues (agreed.clients client isClient)
  have continues : world.Continues { world with clients := world.clients.set index after } :=
    ⟨exists_mem_set ClientRun.Continues.refl isAt goesOn,
      fun server member => ⟨server, member, fun _ sent => sent⟩⟩
  constructor
  · intro other member
    rcases List.mem_or_eq_of_mem_set member with old | rfl
    · exact agreed.clients other old
    · exact move.sound (agreed.clients client isClient)
  · exact agreed.servers
  · have same : (world.clients.set index after).map (fun client => X.publicKey client.run.priv) =
        world.clients.map fun client => X.publicKey client.run.priv := by
      rw [List.map_set, goesOn.priv]
      apply List.ext_getElem?
      intro place
      rw [List.getElem?_set]
      split
      · rename_i isPlace
        subst isPlace
        have inside := (List.getElem?_eq_some_iff.mp isAt).1
        rw [List.length_map, if_pos inside, List.getElem?_map, isAt, Option.map_some]
      · rfl
    rw [same]
    exact agreed.distinct
  · intro other member
    rcases List.mem_or_eq_of_mem_set member with old | rfl
    · exact agreed.generated other old
    · rw [goesOn.priv]
      exact agreed.generated client isClient
  · intro server member locals sent isPsk
    exact (agreed.accepted server member locals sent isPsk).continues continues
  · intro other member info returned isPsk
    rcases List.mem_or_eq_of_mem_set member with old | rfl
    · exact (agreed.returned other old info returned isPsk).continues continues rfl rfl rfl
    · cases move with
      | returns locals own data accepts =>
          cases returned
          exact (agreed.hasServer isAt unforged accepts isPsk).continues continues rfl rfl rfl
      | early stage before late =>
          have isStage : stage = .returned info := returned
          subst isStage
          exact absurd late id
      | acked locals before derived | waits locals before | raises exn => cases returned

theorem Agreed.server {psk : Bytes} {world : HandshakeWorld} (agreed : Agreed P X psk world)
    (commutes : X.Commutative) {index : Nat} {server after : ServerRun} {event : ServerEvent}
    {refused : Option Exn} (isAt : world.servers[index]? = some server)
    (unforged : Unforged P X psk world (.server index event refused))
    (move : server.Move P X event after) :
    Agreed P X psk { world with
      servers := world.servers.set index after
      generated := event.generated ++ world.generated } := by
  have isServer := List.mem_of_getElem? isAt
  have goesOn := move.continues (agreed.servers server isServer)
  have continues : world.Continues { world with
      servers := world.servers.set index after
      generated := event.generated ++ world.generated } :=
    ⟨fun client member => ⟨client, member, .refl client⟩,
      exists_mem_set (fun _ _ sent => sent) isAt goesOn⟩
  refine ⟨agreed.clients, ?_, agreed.distinct, ?_, ?_, ?_⟩
  · intro other member
    rcases List.mem_or_eq_of_mem_set member with old | rfl
    · exact agreed.servers other old
    · exact move.sound (agreed.servers server isServer)
  · intro client member
    exact List.mem_append_right _ (agreed.generated client member)
  · intro other member locals sent isPsk
    rcases List.mem_or_eq_of_mem_set member with old | rfl
    · exact (agreed.accepted other old locals sent isPsk).continues continues
    · cases move with
      | accepts accepted data entropy facts =>
          cases sent
          exact (agreed.hasClient commutes isAt unforged facts isPsk).continues continues
      | early stage before late | returns accepted info before returned | raises exn =>
          exact (agreed.accepted server isServer locals sent isPsk).continues continues
  · intro client member info returned isPsk
    exact (agreed.returned client member info returned isPsk).continues continues rfl rfl rfl

theorem Agreed.step {psk : Bytes} {world next : HandshakeWorld} {action : WorldAction}
    (agreed : Agreed P X psk world) (commutes : X.Commutative)
    (assumed : Assumed P X psk world action) (stepped : world.step P X action = some next) :
    Agreed P X psk next := by
  cases action with
  | connect ownPsk deviceId priv refused =>
      cases stepped
      exact agreed.connect ownPsk deviceId priv refused assumed.2
  | accept input lockedOut =>
      cases stepped
      exact agreed.accept input lockedOut
  | client index event refused =>
      simp only [HandshakeWorld.step] at stepped
      split at stepped
      · cases stepped
      rename_i client isAt
      rcases Option.map_eq_some_iff.mp stepped with ⟨result, resumed, rfl⟩
      exact agreed.client isAt assumed.1 (ClientRun.move_of_event resumed refused)
  | server index event refused =>
      simp only [HandshakeWorld.step] at stepped
      split at stepped
      · cases stepped
      rename_i server isAt
      rcases Option.map_eq_some_iff.mp stepped with ⟨result, resumed, rfl⟩
      have sound := agreed.servers server (List.mem_of_getElem? isAt)
      exact agreed.server commutes isAt assumed.1
        (ServerRun.move_of_event (fun early => (sound.early early).1) resumed refused)

/-! ## The result -/

/-- What the two sides of a handshake under the PSK owe each other. -/
structure Agreement (X : KeyExchange) (psk : Bytes) (world : HandshakeWorld) : Prop where
  client : ∀ client ∈ world.clients, ∀ info, client.run.stage = .returned info →
    client.run.psk = psk →
    ∃ server ∈ world.servers, ∃ locals, server.sessionOk = some locals ∧
      locals.hello.psk = psk ∧ locals.hello.deviceId = client.run.deviceId ∧
      locals.hello.pubC = (X.publicKey client.run.priv).1 ∧
      locals.hello.deviceId = info.deviceId.1 ∧ locals.sessionId = info.sessionId ∧
      locals.txKey = info.rxKey ∧ locals.rxKey = info.txKey
  server : ∀ server ∈ world.servers, ∀ info, server.run.stage = .returned info →
    ∃ locals, server.sessionOk = some locals ∧ info.deviceId.1 = locals.hello.deviceId ∧
      (locals.hello.psk = psk →
        ∃ client ∈ world.clients, ∃ sent, client.helloAck = some sent ∧ client.run.psk = psk ∧
          client.run.deviceId = info.deviceId.1 ∧ sent.nonce = locals.hello.nonce.1 ∧
          (X.publicKey client.run.priv).1 = locals.hello.pubC ∧
          sent.pubS = (X.publicKey locals.hello.priv).1 ∧
          sent.txKey = info.rxKey ∧ sent.rxKey = info.txKey)

theorem Agreed.agreement {psk : Bytes} {world : HandshakeWorld}
    (agreed : Agreed P X psk world) : Agreement X psk world where
  client client member info returned isPsk := by
    have sameDevice := (agreed.clients client member).returned info returned
    rcases agreed.returned client member info returned isPsk with
      ⟨server, isServer, locals, sent, samePsk, deviceId, pubC, sessionId, keys⟩
    refine ⟨server, isServer, locals, sent, samePsk.trans isPsk, deviceId, pubC,
      deviceId.trans sameDevice.symm, sessionId, ?_, ?_⟩
    · rw [ServerLocals.txKey, keys]
    · rw [ServerLocals.rxKey, keys]
  server server member info returned := by
    rcases (agreed.servers server member).returned info returned with
      ⟨locals, sent, sameDevice, _, sameKeys⟩
    refine ⟨locals, sent, sameDevice, ?_⟩
    intro isPsk
    rcases agreed.accepted server member locals sent isPsk with
      ⟨client, isClient, ack, isAck, samePsk, deviceId, pubC, nonce, pubS, keys⟩
    refine ⟨client, isClient, ack, isAck, samePsk.trans isPsk, deviceId.trans sameDevice.symm,
      nonce, pubC, pubS, ?_, ?_⟩
    · rw [ClientLocals.txKey, keys, ← sameKeys]
    · rw [ClientLocals.rxKey, keys, ← sameKeys]

theorem handshake_agreement (P : Primitives) (X : KeyExchange) (commutes : X.Commutative)
    (psk : Bytes) (actions : List WorldAction) (world : HandshakeWorld)
    (assumed : Machine.Along (step P X) (Assumed P X psk) {} actions)
    (reached : Machine.run (step P X) {} actions = some world) : Agreement X psk world := by
  have start : Agreed P X psk {} := by
    constructor
    case distinct => exact List.nodup_nil
    all_goals exact fun _ member => absurd member List.not_mem_nil
  exact Agreed.agreement (Machine.run_invariant (Agreed P X psk)
    (fun _ _ _ agreed assumed stepped => agreed.step commutes assumed stepped) start assumed
    reached)

/-- A client and the server that knows its device.  The attacker sends a HELLO_RETRY of its
own and lets a second server answer a copy of the HELLO. -/
def sampleExchange : List WorldAction :=
  let P := samplePrimitives
  let X := sampleKeyExchange
  let pubC := (X.publicKey (samplePrivate 1)).1
  let pubS := (X.publicKey (samplePrivate 2)).1
  let psk := PskInput.table ⟨[(sampleDeviceId.1, samplePsk)], nodup_samplePsks⟩
  let hello := frameBytes .hello (sampleDeviceId.1 ++ pubC) 0
  [.connect samplePsk sampleDeviceId.1 (samplePrivate 1) none, .client 0 (.wrote none) none,
    .client 0 (.received (frameBytes .helloRetry (List.replicate 16 5) 0)) none,
    .client 0 (.wrote none) none, .accept psk none, .accept psk none,
    .server 0 (.received hello (sampleEntropy 2)) none,
    .server 1 (.received hello (sampleEntropy 3)) none, .server 0 (.wrote none) none,
    .client 0 (.received (frameBytes .challenge (sampleNonce.1 ++ pubS) 0)) none,
    .client 0 (.wrote none) none,
    .server 0 (.received (frameBytes .helloAck (P.hmacSha256 samplePsk
      (clientMacMessage sampleNonce.1 sampleDeviceId.1 pubC pubS)).1 2) (sampleEntropy 4)) none,
    .server 0 (.wrote none) none,
    .client 0 (.received (frameBytes .sessionOk (sampleSessionId.1 ++ (P.hmacSha256 samplePsk
      (serverMacMessage sampleNonce.1 sampleSessionId.1 pubC pubS)).1) 0)) none]

theorem handshake_agreement_sampleExchange :
    ∃ world,
      sampleKeyExchange.Commutative ∧
      Machine.Along (step samplePrimitives sampleKeyExchange)
        (Assumed samplePrimitives sampleKeyExchange samplePsk) {} sampleExchange ∧
      Machine.run (step samplePrimitives sampleKeyExchange) {} sampleExchange = some world ∧
      (world.clients.any fun client => client.run.stage matches .returned _) = true ∧
      (world.servers.any fun server => server.run.stage matches .returned _) = true ∧
      Agreement sampleKeyExchange samplePsk world := by
  have assumed : Machine.Along (step samplePrimitives sampleKeyExchange)
      (Assumed samplePrimitives sampleKeyExchange samplePsk) {} sampleExchange := by
    decide +kernel
  rcases Machine.exists_run (step samplePrimitives sampleKeyExchange) {} sampleExchange
    (fun world => (world.clients.any fun client => client.run.stage matches .returned _) = true ∧
      (world.servers.any fun server => server.run.stage matches .returned _) = true)
    (by decide +kernel) with ⟨world, reached, clientReturned, serverReturned⟩
  exact ⟨world, sampleKeyExchange_commutative, assumed, reached, clientReturned, serverReturned,
    handshake_agreement samplePrimitives sampleKeyExchange sampleKeyExchange_commutative samplePsk
      sampleExchange world assumed reached⟩

end HandshakeWorld

end Usmp
