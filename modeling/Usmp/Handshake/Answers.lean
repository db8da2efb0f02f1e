import Usmp.Handshake.Sequence

/-!
# Copies of accepted handshake frames

The client sends a HELLO or a HELLO_ACK again as long as no UTACK for it has come.  The listener
routes handshake frames through the table of handshakes, which a connection leaves when it is
promoted to a session.
-/

namespace Usmp

namespace HandshakeNet

variable {P : Primitives} {X : KeyExchange} {setup : HandshakeSetup}

/-- A HELLO with a cookie, or a HELLO_ACK. -/
structure IsCopy (data : Bytes) : Prop where
  frame : IsFrame data
  isType : typeOf data = 1 ∧ data.length = 66 ∨ typeOf data = 3

/-- A connection of the client's address, from its first datagram to the end of its session,
whose stream has come to the type of the frame. -/
structure HasAccepted (setup : HandshakeSetup) (net : HandshakeNet) (id : Nat) (data : Bytes) :
    Prop where
  goesOn : ∃ connection, net.server.connections[id]? = some connection ∧
    (connection.stage = .created ∨ connection.stage = .handshaking ∨
      connection.stage = .serving)
  seen : Seen setup net (some id) data

/-- The server answers the frame with a UTACK of its type and number, and with nothing else. -/
def Acknowledges (net next : HandshakeNet) (data : Bytes) : Prop :=
  ∃ reply, UDPStream.isUtack reply = true ∧ fieldAt reply 2 1 = typeOf data ∧
    fieldAt reply 3 4 = seqOf data ∧ next.toClient = net.toClient ++ [reply]

/-- The stream in the table of handshakes has seen the type of the frame, or has room for it. -/
def EntryAnswers (setup : HandshakeSetup) (net : HandshakeNet) (data : Bytes) : Prop :=
  ∃ id self, net.server.udpHandshakes.get? setup.addr = some id ∧
    net.instances[id]? = some self ∧
      ((typeOf data : Int) ≤ self.stream.lastRxType ∨
        self.stream.readBuffer.length + data.length ≤ maxReadBuffer)

/-- The frame is a HELLO that starts another handshake. -/
def StartsAnother (P : Primitives) (setup : HandshakeSetup) (net : HandshakeNet) (data : Bytes)
    (wall mono : Rat) : Prop :=
  net.server.udpHandshakes.get? setup.addr = none ∧ typeOf data = 1 ∧
    net.server.startsHandshake P setup.config data setup.addr wall mono = true

/-! ## The answer -/

theorem Acknowledges.of_reply {net next : HandshakeNet} {data : Bytes} (stream : UDPStream)
    (toClient : next.toClient =
      net.toClient ++ [stream.buildUtack P (typeOf data) (seqOf data)]) :
    Acknowledges net next data := by
  rcases isUtack_reply P stream data with ⟨utack, isType, isSeq⟩
  exact ⟨_, utack, isType, isSeq, toClient⟩

theorem not_acknowledges {net next : HandshakeNet} {data : Bytes}
    (toClient : next.toClient = net.toClient) : ¬ Acknowledges net next data := by
  intro acknowledged
  rcases acknowledged with ⟨reply, _, _, _, answered⟩
  rw [toClient] at answered
  exact List.cons_ne_nil _ _ (List.self_eq_append_right.mp answered)

/-- A copy is routed by the table of handshakes. -/
theorem step_copy {net : HandshakeNet} {index : Nat} {data : Bytes}
    (inFlight : net.toServer[index]? = some data) (copy : IsCopy data) (wall mono : Rat) :
    net.step P X setup (.deliver index wall mono) =
      some { net.afterServer P setup (net.server.routeHandshake P setup.config (typeOf data) data
          setup.addr wall mono) with
        toServer := net.toServer.eraseIdx index } := by
  have isHandshake : typeOf data < 5 := by
    rcases copy.isType with ⟨is, _⟩ | is <;> rw [is] <;> decide
  simp only [step, inFlight]
  rw [serverStep_toServer]
  simp only [serverStep, Server.perform, Server.handleUdpDatagram, routedType_frame copy.frame,
    if_pos isHandshake, Option.map_some]

/-- What the listener makes of a copy, by the entry of the client's address. -/
theorem acknowledges_iff_table {net : HandshakeNet} (sound : Sound setup net) {data : Bytes}
    (copy : IsCopy data) (wall mono : Rat) :
    Acknowledges net (net.afterServer P setup (net.server.routeHandshake P setup.config
        (typeOf data) data setup.addr wall mono)) data ↔
      EntryAnswers setup net data ∨ StartsAnother P setup net data wall mono := by
  have linked := sound.linked
  have isType : typeOf data = 1 ∨ typeOf data = 3 := copy.isType.imp_left And.left
  have isHandshake : isHandshakeType (typeOf data) = true := by
    rcases isType with is | is <;> rw [is] <;> rfl
  unfold Server.routeHandshake
  split
  · rename_i id inTable
    rcases linked.entry inTable with ⟨self, isOwn, isOpen⟩
    have isServer := (sound.ordered.own id self isOwn).isServer
    have entry : EntryAnswers setup net data ↔
        ((typeOf data : Int) ≤ self.stream.lastRxType ∨
          self.stream.readBuffer.length + data.length ≤ maxReadBuffer) := by
      simp only [EntryAnswers, inTable, Option.some.injEq, exists_and_left, exists_eq_left',
        isOwn.2]
    have noStart : ¬ StartsAnother P setup net data wall mono := by
      intro starts
      cases inTable.symm.trans starts.1
    rw [afterServer_feed linked isOwn, or_iff_left noStart, entry,
      ← isDuplicateHandshake_iff isServer isType]
    have reply := feedPacket_reply P isOpen copy.frame
    rw [UDPStream.seenBefore, if_pos isHandshake] at reply
    by_cases answers : self.stream.isDuplicateHandshake (typeOf data) = true ∨
        self.stream.readBuffer.length + data.length ≤ maxReadBuffer
    · rw [if_pos answers] at reply
      exact iff_of_true (.of_reply self.stream (congrArg (net.toClient ++ ·) reply)) answers
    · rw [if_neg answers] at reply
      have silent : net.toClient ++ (self.feed P data).2 = net.toClient :=
        (congrArg (net.toClient ++ ·) reply).trans (List.append_nil _)
      exact iff_of_false (not_acknowledges silent) answers
  · rename_i free
    have noEntry : ¬ EntryAnswers setup net data := by
      intro answers
      rcases answers with ⟨id, self, inTable, _⟩
      cases free.symm.trans inTable
    have unchanged : (net.afterServer P setup (net.server, [])).toClient = net.toClient := rfl
    rw [or_iff_right noEntry]
    split
    · rename_i notHello
      exact iff_of_false (not_acknowledges unchanged) fun starts => notHello starts.2.1
    rename_i isHello
    have isHello : typeOf data = 1 := not_not.mp isHello
    have size : data.length = 66 := by
      rcases copy.isType with ⟨_, size⟩ | isAck
      · exact size
      · rw [isHello] at isAck
        cases isAck
    split
    · rename_i noCookie
      rw [size] at noCookie
      cases noCookie
    split
    · rename_i starts
      refine iff_of_true (.of_reply (P := P) (freshInstance setup).stream ?_)
        ⟨free, isHello, starts⟩
      rw [afterServer_allocate linked, (own_withConnection linked rfl _).2]
      have isOpen : (freshInstance setup).stream.closed = false := rfl
      have reply := feedPacket_reply P isOpen copy.frame
      have room : (freshInstance setup).stream.readBuffer.length + data.length ≤
          maxReadBuffer := by
        rw [size]
        simp [freshInstance, maxReadBuffer]
      rw [if_pos (.inr room)] at reply
      exact congrArg (net.toClient ++ ·) reply
    · rename_i refused
      exact iff_of_false (not_acknowledges unchanged) fun starts => refused starts.2.2

/-- A connection that is not promoted is the one in the table, and answers. -/
theorem HasAccepted.entry {net : HandshakeNet} (sound : Sound setup net) {id : Nat}
    {data : Bytes} (accepted : HasAccepted setup net id data)
    (notPromoted : net.serving id = false) : EntryAnswers setup net data := by
  rcases accepted.goesOn with ⟨connection, isAt, isStage⟩
  rcases accepted.seen with ⟨self, isOwn, above⟩
  have isAddr := isOwn.1
  rw [serving, isAt, decide_eq_false_iff_not] at notPromoted
  rw [own, isAt, decide_eq_true_iff] at isAddr
  have inHandshake : net.server.InHandshake setup.addr id :=
    ⟨connection, isAt, sound.linked.unreliable id connection isAt, isAddr, by
      rcases isStage with created | handshaking | serving
      · exact .inl created
      · exact .inr handshaking
      · exact absurd serving notPromoted⟩
  exact ⟨id, self, (sound.linked.tables.handshakeTask _ _).mpr inHandshake, isOwn.2, .inl above⟩

/-- In every state that a handshake reaches over a network that loses, duplicates, delays and
reorders datagrams, a copy of a handshake frame that a connection's stream has accepted is
answered if and only if the connection has not been promoted to a session, or another handshake
of the address has taken its place in the table and its stream knows the frame or has room for
it, or the copy is a HELLO that starts a handshake itself. -/
theorem copy_acknowledged_iff (P : Primitives) (X : KeyExchange) (setup : HandshakeSetup)
    (psk deviceId : Bytes) (priv : PrivateKey) (failedHandshakes : FailedHandshakes)
    (actions : List NetAction) (net : HandshakeNet)
    (reached : Machine.run (step P X setup)
      (initial P X psk deviceId priv failedHandshakes) actions = some net)
    (id index : Nat) (data : Bytes) (wall mono : Rat)
    (accepted : HasAccepted setup net id data) (inFlight : net.toServer[index]? = some data)
    (copy : IsCopy data) :
    ∃ next, net.step P X setup (.deliver index wall mono) = some next ∧
      (Acknowledges net next data ↔
        net.serving id = false ∨ EntryAnswers setup net data ∨
          StartsAnother P setup net data wall mono) := by
  have sound := ((sound_initial P X setup psk deviceId priv failedHandshakes).run reached).1
  refine ⟨_, step_copy inFlight copy wall mono, ?_⟩
  rw [← acknowledges_iff_table sound copy wall mono]
  constructor
  · exact .inr
  · intro answers
    rcases answers with notPromoted | answers
    · exact (acknowledges_iff_table sound copy wall mono).mpr
        (.inl (accepted.entry sound notPromoted))
    · exact answers

/-! ## A lost UTACK -/

theorem hasAccepted_iff (setup : HandshakeSetup) (net : HandshakeNet) (id : Nat) (data : Bytes) :
    HasAccepted setup net id data ↔
      (∃ connection ∈ net.server.connections[id]?, connection.stage = .created ∨
        connection.stage = .handshaking ∨ connection.stage = .serving) ∧
      net.own setup id = true ∧
      ∃ self ∈ net.instances[id]?, (typeOf data : Int) ≤ self.stream.lastRxType := by
  constructor
  · intro accepted
    rcases accepted.goesOn with ⟨connection, isAt, isStage⟩
    rcases accepted.seen with ⟨self, isOwn, above⟩
    exact ⟨⟨connection, isAt, isStage⟩, isOwn.1, self, isOwn.2, above⟩
  · intro holds
    rcases holds with ⟨⟨connection, isAt, isStage⟩, isAddr, self, isSelf, above⟩
    exact ⟨⟨connection, isAt, isStage⟩, self, ⟨isAddr, isSelf⟩, above⟩

instance (setup : HandshakeSetup) (net : HandshakeNet) (id : Nat) (data : Bytes) :
    Decidable (HasAccepted setup net id data) :=
  decidable_of_iff' _ (hasAccepted_iff setup net id data)

/-- The HELLO_ACK of the sample client. -/
def sampleHelloAck : Bytes :=
  let pubC := (sampleKeyExchange.publicKey (samplePrivate 1)).1
  let pubS := (sampleKeyExchange.publicKey (samplePrivate 2)).1
  frameBytes .helloAck (samplePrimitives.hmacSha256 samplePsk
    (clientMacMessage sampleNonce.1 sampleDeviceId.1 pubC pubS)).1 2

theorem isCopy_sampleHelloAck : IsCopy sampleHelloAck :=
  ⟨(isFrame_iff _).mp (by decide +kernel), .inr (by decide +kernel)⟩

/-- The server has accepted the HELLO_ACK, and the network loses the UTACK for it. -/
def sampleLostUtack : List NetAction :=
  sampleOpening ++ [.arrive 0, .clientResume, .deliver 0 0 0, .acked 0, .deliver 0 0 0,
    .loseToClient 0]

/-- The SESSION_OK comes, and the connection is promoted. -/
def samplePromotion : List NetAction :=
  [.resume 0 (sampleEntropy 3), .arrive 0, .deliver 0 0 0, .acked 0, .finish 0 0]

/-- The client sends its HELLO_ACK again until its attempts run out. -/
def sampleVainly : List NetAction :=
  [.clientTimeout, .deliver 0 0 0, .clientTimeout, .deliver 0 0 0, .clientTimeout,
    .deliver 0 0 0, .clientTimeout]

/-- A copy that comes before the promotion. -/
theorem copy_acknowledged_iff_sampleLostUtack :
    ∃ net next,
      Machine.run sampleStep sampleInitial (sampleLostUtack ++ [.clientTimeout]) = some net ∧
      HasAccepted sampleSetup net 0 sampleHelloAck ∧
      sampleStep net (.deliver 0 0 0) = some next ∧ Acknowledges net next sampleHelloAck := by
  rcases Machine.exists_run sampleStep sampleInitial (sampleLostUtack ++ [.clientTimeout])
    (fun net => net.toServer[0]? = some sampleHelloAck ∧
      HasAccepted sampleSetup net 0 sampleHelloAck ∧ net.serving 0 = false)
    (by decide +kernel) with ⟨net, reached, inFlight, accepted, notPromoted⟩
  rcases copy_acknowledged_iff samplePrimitives sampleKeyExchange sampleSetup samplePsk
    sampleDeviceId.1 (samplePrivate 1) {} _ net reached 0 0 sampleHelloAck 0 0 accepted inFlight
    isCopy_sampleHelloAck with ⟨next, stepped, acknowledged⟩
  exact ⟨net, next, reached, accepted, stepped, acknowledged.mpr (.inl notPromoted)⟩

/-- After the promotion no copy is answered: the server serves its session while the client
sends its HELLO_ACK in vain and fails. -/
theorem not_acknowledged_sampleLostUtack :
    ∃ net next last,
      Machine.run sampleStep sampleInitial
        (sampleLostUtack ++ samplePromotion ++ [.clientTimeout]) = some net ∧
      HasAccepted sampleSetup net 0 sampleHelloAck ∧ IsCopy sampleHelloAck ∧
      net.toServer = [sampleHelloAck] ∧ net.toClient = [] ∧ net.serving 0 = true ∧
      sampleStep net (.deliver 0 0 0) = some next ∧ ¬ Acknowledges net next sampleHelloAck ∧
      Machine.run sampleStep next sampleVainly = some last ∧
      last.client.run.stage = .raised ⟨.osError, "UDP transmission failed"⟩ ∧
      last.serving 0 = true := by
  rcases Machine.exists_run sampleStep sampleInitial
    (sampleLostUtack ++ samplePromotion ++ [.clientTimeout])
    (fun net => net.toServer = [sampleHelloAck] ∧ net.toClient = [] ∧ net.serving 0 = true ∧
      HasAccepted sampleSetup net 0 sampleHelloAck ∧
      ((sampleStep net (.deliver 0 0 0)).any fun next => next.toClient = [] ∧
        ((Machine.run sampleStep next sampleVainly).any fun last =>
          last.client.run.stage = .raised ⟨.osError, "UDP transmission failed"⟩ ∧
            last.serving 0 = true)) = true)
    (by decide +kernel) with ⟨net, reached, toServer, toClient, serving, accepted, evaluates⟩
  rcases (Option.any_eq_true _ _).mp evaluates with ⟨next, stepped, evaluates⟩
  rcases of_decide_eq_true evaluates with ⟨silent, evaluates⟩
  rcases (Option.any_eq_true _ _).mp evaluates with ⟨last, continued, evaluates⟩
  rcases of_decide_eq_true evaluates with ⟨raised, stillServing⟩
  exact ⟨net, next, last, reached, accepted, isCopy_sampleHelloAck, toServer, toClient, serving,
    stepped, not_acknowledges (silent.trans toClient.symm), continued, raised, stillServing⟩

end HandshakeNet

end Usmp
