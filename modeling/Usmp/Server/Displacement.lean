import Usmp.Server.Accounting

/-!
# An established session and late handshake datagrams

A session keeps its datagrams as long as no HELLO that arrives from its address starts a
new handshake.  A copy of the client's own HELLO, while its cookie is valid, starts one.
-/

namespace Usmp

namespace Server

/-- The established session of the address: its connection is past its handshake, and while
it is served the session table has its stream and the handshake table none. -/
structure Established (addr : Addr) (id : Nat) (server : Server) : Prop where
  free : server.udpHandshakes.get? addr = none
  own : ∃ connection, server.connections[id]? = some connection ∧
    connection.isReliable = false ∧ connection.addr = addr ∧
    connection.stage ≠ .created ∧ connection.stage ≠ .handshaking
  entry : server.InSession addr id → server.udpSessions.get? addr = some id

/-- A datagram from the address does not start a handshake. -/
def NoNewHandshake (P : Primitives) (config : ServerConfig) (addr : Addr) (server : Server) :
    ServerAction → Prop
  | .datagram data source wall mono =>
      source = addr → routedType data = some 1 →
        server.startsHandshake P config data addr wall mono = false
  | _ => True

instance (P : Primitives) (config : ServerConfig) (addr : Addr) (server : Server) :
    (action : ServerAction) → Decidable (NoNewHandshake P config addr server action)
  | .datagram data source wall mono =>
      inferInstanceAs (Decidable (source = addr → routedType data = some 1 →
        server.startsHandshake P config data addr wall mono = false))
  | .accept _ | .start _ | .handshakeEnds _ _ _ | .handlerEnds _ _ _ | .proceed _
  | .cancel _ => isTrue trivial

/-- A datagram of the session phase reaches the stream of the session that is served at the
address.  A datagram of the handshake creates no task and records no failure, and no task of
the address is in a handshake that could fail. -/
structure Undisplaced (P : Primitives) (config : ServerConfig) (addr : Addr) (id : Nat)
    (server : Server) (data : Bytes) (wall mono : Rat) : Prop where
  fed : (∀ type, routedType data = some type → 5 ≤ type) → server.InSession addr id →
    server.handleUdpDatagram P config data addr wall mono = (server, [.feed id data])
  unpunished : (server.handleUdpDatagram P config data addr wall mono).1.connections =
      server.connections ∧
    (server.handleUdpDatagram P config data addr wall mono).1.failedHandshakes =
      server.failedHandshakes
  settled : ∀ other, ¬ server.InHandshake addr other

variable {P : Primitives} {config : ServerConfig} {addr : Addr} {id : Nat}

theorem Established.congr {before after : Server} (established : Established addr id before)
    (handshakes : after.udpHandshakes.get? addr = before.udpHandshakes.get? addr)
    (sessions : before.InSession addr id →
      after.udpSessions.get? addr = before.udpSessions.get? addr)
    (connections : after.connections[id]? = before.connections[id]?) :
    Established addr id after where
  free := by rw [handshakes, established.free]
  own := by rw [connections]; exact established.own
  entry inSession := by
    rw [InSession, connections] at inSession
    rw [sessions inSession]
    exact established.entry inSession

/-- The stage of another connection. -/
theorem Established.setStage {before base : Server} (established : Established addr id before)
    {other : Nat} {connection : Connection}
    (isAt : before.connections[other]? = some connection) (stage : Stage)
    (connections : base.connections = before.connections)
    (handshakes : base.udpHandshakes.get? addr = before.udpHandshakes.get? addr)
    (sessions : other ≠ id → before.InSession addr id →
      base.udpSessions.get? addr = before.udpSessions.get? addr)
    (onward : other = id → stage ≠ .created ∧ stage ≠ .handshaking ∧ stage ≠ .serving) :
    Established addr id (base.setStage other stage) := by
  by_cases same : id = other
  · subst same
    rcases established.own with ⟨found, isFound, unreliable, isAddr, _⟩
    rw [isAt] at isFound
    cases isFound
    rcases onward rfl with ⟨notCreated, notHandshaking, notServing⟩
    refine ⟨handshakes.trans established.free, ?_, ?_⟩
    · simp only [Server.setStage, connections, exists_modified isAt, if_true]
      exact ⟨unreliable, isAddr, notCreated, notHandshaking⟩
    · intro inSession
      simp only [InSession, Server.setStage, connections, exists_modified isAt, if_true]
        at inSession
      exact absurd inSession.2.2 notServing
  · refine established.congr handshakes (sessions (Ne.symm same)) ?_
    simp only [Server.setStage, connections]
    exact List.getElem?_modify_ne _ _ (Ne.symm same)

theorem Established.appended {before after : Server} (established : Established addr id before)
    {connection : Connection} (connections : after.connections = before.connections ++ [connection])
    (handshakes : after.udpHandshakes.get? addr = before.udpHandshakes.get? addr)
    (sessions : after.udpSessions.get? addr = before.udpSessions.get? addr) :
    Established addr id after := by
  refine established.congr handshakes (fun _ => sessions) ?_
  rcases established.own with ⟨found, isFound, _⟩
  rw [connections, List.getElem?_append_left (List.getElem?_eq_some_iff.mp isFound).1]

theorem Established.step {before after : Server} {action : ServerAction}
    (established : Established addr id before) (tables : UdpTables config before)
    (quiet : NoNewHandshake P config addr before action)
    (change : Change P config before action after) : Established addr id after := by
  have notOwn : ∀ {other : Nat} {connection : Connection},
      before.connections[other]? = some connection →
      connection.stage = .created ∨ connection.stage = .handshaking → other ≠ id := by
    intro other connection isAt early same
    subst same
    rcases established.own with ⟨found, isFound, _, _, notCreated, notHandshaking⟩
    rw [isAt] at isFound
    cases isFound
    rcases early with created | handshaking
    · exact notCreated created
    · exact notHandshaking handshaking
  -- an address with a handshake is another one
  have elsewhere : ∀ {other : Nat} {connection : Connection},
      before.connections[other]? = some connection → connection.isReliable = false →
      connection.stage = .handshaking → addr ≠ connection.addr := by
    intro other connection isAt unreliable handshaking same
    subst same
    have found := (tables.handshakeTask _ _).mpr
      ⟨connection, isAt, unreliable, rfl, .inr handshaking⟩
    rw [established.free] at found
    cases found
  cases change with
  | quiet same =>
      exact established.congr (by rw [same.udpHandshakes])
        (fun _ => by rw [same.udpSessions])
        (by rw [same.connections])
  | accepted source => exact established.appended rfl rfl rfl
  | allocated data source wall mono isHello free starts =>
      refine established.appended rfl ?_ rfl
      have distinct : addr ≠ source := by
        intro same
        subst same
        rw [quiet rfl isHello] at starts
        cases starts
      simp only [allocateHandshake, Dict.get?_set, if_neg distinct]
  | rejected other connection isAt created isReliable
  | admitted other connection isAt created isReliable
  | started other connection isAt created unreliable =>
      exact established.setStage isAt _ rfl rfl (fun _ _ => rfl)
        fun same => absurd same (notOwn isAt (.inl created))
  | served same other connection isAt handshaking isReliable =>
      exact established.setStage isAt _ same.connections (by rw [same.udpHandshakes])
        (fun _ _ => by rw [same.udpSessions])
        fun isId => absurd isId (notOwn isAt (.inr handshaking))
  | promoted same other connection isAt handshaking unreliable room ipRoom =>
      have distinct := elsewhere isAt unreliable handshaking
      refine established.setStage isAt _ same.connections ?_ (fun _ _ => ?_)
        fun isId => absurd isId (notOwn isAt (.inr handshaking))
      · simp only [Dict.get?_erase, if_neg distinct, same.udpHandshakes]
      · simp only [Dict.get?_set, if_neg distinct, same.udpSessions]
  | left same other connection watched isAt active =>
      have onward : ∀ watched : Bool,
          (if watched then Stage.unwatching else Stage.closing) ≠ .created ∧
          (if watched then Stage.unwatching else Stage.closing) ≠ .handshaking ∧
          (if watched then Stage.unwatching else Stage.closing) ≠ .serving := by decide
      cases isReliable : connection.isReliable with
      | true =>
          rw [leave_tcp _ _ isReliable]
          exact established.setStage isAt _ same.connections
            (congrArg (Dict.get? · addr) same.udpHandshakes)
            (fun _ _ => congrArg (Dict.get? · addr) same.udpSessions) fun _ => onward watched
      | false =>
          rw [leave_udp _ _ isReliable]
          refine established.setStage isAt _ same.connections ?_ (fun others inSession => ?_)
            fun _ => onward watched
          · dsimp only
            rw [same.udpHandshakes]
            split
            · rw [Dict.get?_erase]
              split
              · exact established.free.symm
              · rfl
            · rfl
          · dsimp only
            rw [same.udpSessions]
            split
            · rename_i isOther
              have distinct : addr ≠ connection.addr := by
                intro isAddr
                rw [← isAddr, established.entry inSession] at isOther
                exact others (Option.some.inj isOther).symm
              rw [Dict.get?_erase, if_neg distinct]
            · rfl
  | cleaned other connection stage isAt cleaning =>
      refine established.setStage isAt _ rfl rfl (fun _ _ => rfl) (fun _ => ?_)
      rcases cleaning with ⟨_, rfl⟩ | ⟨_, rfl⟩ <;> decide

theorem routeSession_established {server : Server} (established : Established addr id server)
    (inSession : server.InSession addr id) (data : Bytes) :
    server.routeSession data addr = (server, [.feed id data]) := by
  simp only [routeSession, established.free, established.entry inSession, Option.none_or]

/-- Only a step of a connection task records a failure. -/
theorem failedHandshakes_datagram (P : Primitives) (config : ServerConfig) (server : Server)
    (data : Bytes) (addr : Addr) (wall mono : Rat) :
    (server.handleUdpDatagram P config data addr wall mono).1.failedHandshakes =
      server.failedHandshakes := by
  have session : (server.routeSession data addr).1.failedHandshakes =
      server.failedHandshakes := by
    unfold routeSession
    split <;> rfl
  unfold handleUdpDatagram
  split
  · split
    · unfold routeHandshake
      split
      · rfl
      split
      · rfl
      split
      · unfold answerHello
        dsimp only
        split <;> rfl
      · split <;> rfl
    · exact session
  · exact session

theorem Established.undisplaced {server : Server} (established : Established addr id server)
    (tables : UdpTables config server) {data : Bytes} {wall mono : Rat}
    (quiet : NoNewHandshake P config addr server (.datagram data addr wall mono)) :
    Undisplaced P config addr id server data wall mono where
  fed sessionPhase inSession := by
    unfold handleUdpDatagram
    split
    · rename_i type isType
      rw [if_neg (Nat.not_lt.mpr (sessionPhase type isType))]
      exact routeSession_established established inSession data
    · exact routeSession_established established inSession data
  unpunished := by
    constructor
    · rcases handleUdpDatagram_cases P config server data addr wall mono with
        same | ⟨isHello, _, starts, _⟩
      · exact same.connections
      · rw [quiet rfl isHello] at starts
        cases starts
    · exact failedHandshakes_datagram P config server data addr wall mono
  settled other inHandshake := by
    have found := (tables.handshakeTask addr other).mpr inHandshake
    rw [established.free] at found
    cases found

/-- A handshake that ends in an entry of the session table leaves its address established. -/
theorem established_of_handshakeEnds {before server : Server} {now : Rat}
    (tables : UdpTables config before)
    (ended : before.step P config (.handshakeEnds id .established now) = some server)
    (entry : server.udpSessions.get? addr = some id) : Established addr id server := by
  have after := tables.change (change_of_step ended)
  rcases after.sessionTask _ _ entry with ⟨connection, isAt, unreliable, isAddr, serving⟩
  have free : server.udpHandshakes.get? addr = none := by
    rcases Option.map_eq_some_iff.mp ended with ⟨result, performed, rfl⟩
    simp only [perform] at performed
    split at performed <;> try cases performed
    rename_i own isOwn
    split at performed <;> cases performed
    have moved : ∀ {base : Server} {stage : Stage}, base.connections = before.connections →
        (base.setStage id stage).connections[id]? = some connection →
        own.isReliable = false ∧ own.addr = addr ∧ stage = .serving := by
      intro base stage same isAt
      simp only [Server.setStage, same, List.getElem?_modify_eq, isOwn, Option.map_eq_map,
        Option.map_some, Option.some.injEq] at isAt
      subst isAt
      exact ⟨unreliable, isAddr, serving⟩
    simp only [handshakeEnds] at isAt ⊢
    split at isAt
    · rename_i isReliable
      have unreliable := (moved rfl isAt).1
      rw [isReliable] at unreliable
      cases unreliable
    · rename_i isUnreliable
      rw [if_neg isUnreliable]
      unfold promote at isAt ⊢
      dsimp only at isAt ⊢
      split at isAt
      · rw [leave_udp _ _ (by simpa using isUnreliable)] at isAt
        cases (moved rfl isAt).2.2
      · rename_i fits
        rw [if_neg fits]
        have sameAddr := (moved rfl isAt).2.1
        simp only [Server.setStage, Dict.get?_erase, sameAddr, if_true]
  refine ⟨free, ⟨connection, isAt, unreliable, isAddr, ?_, ?_⟩, fun _ => entry⟩
  · rw [serving]
    decide
  · rw [serving]
    decide

theorem undisplaced_of_run {before server : Server} {later : List ServerAction}
    (tables : UdpTables config before) (established : Established addr id before)
    (quiet : Machine.Along (step P config) (NoNewHandshake P config addr) before later)
    (reached : Machine.run (step P config) before later = some server) :
    UdpTables config server ∧ Established addr id server :=
  Machine.run_invariant (fun server => UdpTables config server ∧ Established addr id server)
    (fun _ _ _ holds quiet stepped =>
      ⟨holds.1.change (change_of_step stepped),
        holds.2.step holds.1 quiet (change_of_step stepped)⟩)
    ⟨tables, established⟩ quiet reached

/-- From the end of its handshake on, a session is displaced by no datagram, as long as no
HELLO from its address that carries a valid cookie gets past the lockout and the limits. -/
theorem session_undisplaced (P : Primitives) (config : ServerConfig)
    (failedHandshakes : FailedHandshakes) (addr : Addr) (id : Nat) (now : Rat)
    (earlier later : List ServerAction) (before established server : Server)
    (started : Machine.run (step P config) (.new failedHandshakes) earlier = some before)
    (ended : before.step P config (.handshakeEnds id .established now) = some established)
    (entry : established.udpSessions.get? addr = some id)
    (quiet : Machine.Along (step P config) (NoNewHandshake P config addr) established later)
    (reached : Machine.run (step P config) established later = some server)
    (data : Bytes) (wall mono : Rat)
    (late : NoNewHandshake P config addr server (.datagram data addr wall mono)) :
    Undisplaced P config addr id server data wall mono := by
  have tables := udpTables_of_run started
  have isEstablished := established_of_handshakeEnds tables ended entry
  have holds := undisplaced_of_run (tables.change (change_of_step ended)) isEstablished quiet
    reached
  exact holds.2.undisplaced holds.1 late

/-- A HELLO with a cookie, and the start of its handshake. -/
def handshakeStarted (addr : Addr) : List ServerAction :=
  [.datagram (cookieHello addr 40) addr 50 0, .start 0]

/-- Datagrams of the handshake that come late: the HELLO without a cookie, the HELLO whose
cookie has expired, and the HELLO_ACK. -/
def lateHandshake (addr : Addr) : List ServerAction :=
  [.datagram (frameBytes .hello (List.replicate 38 7) 0) addr 51 1,
    .datagram (cookieHello addr 40) addr 90 40,
    .datagram (frameBytes .helloAck (List.replicate 32 0) 2) addr 91 41]

theorem session_undisplaced_lateHandshake :
    ∃ before established server,
      Machine.run (step samplePrimitives tightConfig) (.new {})
          (handshakeStarted ("10.0.0.1", 1)) = some before ∧
        before.step samplePrimitives tightConfig (.handshakeEnds 0 .established 1) =
          some established ∧
        established.udpSessions.get? ("10.0.0.1", 1) = some 0 ∧
        Machine.Along (step samplePrimitives tightConfig)
          (NoNewHandshake samplePrimitives tightConfig ("10.0.0.1", 1)) established
          (lateHandshake ("10.0.0.1", 1)) ∧
        Machine.run (step samplePrimitives tightConfig) established
          (lateHandshake ("10.0.0.1", 1)) = some server ∧
        Undisplaced samplePrimitives tightConfig ("10.0.0.1", 1) 0 server
          (frameBytes .data [1, 2, 3] 0) 92 42 := by
  rcases Machine.exists_run (step samplePrimitives tightConfig) (.new {})
    (handshakeStarted ("10.0.0.1", 1))
    (fun before => (before.step samplePrimitives tightConfig
      (.handshakeEnds 0 .established 1)).any (fun established =>
        decide (established.udpSessions.get? ("10.0.0.1", 1) = some 0) &&
        decide (Machine.Along (step samplePrimitives tightConfig)
          (NoNewHandshake samplePrimitives tightConfig ("10.0.0.1", 1)) established
          (lateHandshake ("10.0.0.1", 1))) &&
        (Machine.run (step samplePrimitives tightConfig) established
          (lateHandshake ("10.0.0.1", 1))).isSome) = true)
    (by decide +kernel) with ⟨before, started, found⟩
  rcases (Option.any_eq_true _ _).mp found with ⟨established, ended, checked⟩
  simp only [Bool.and_eq_true, decide_eq_true_eq] at checked
  rcases checked with ⟨⟨entry, quiet⟩, isSome⟩
  rcases Option.isSome_iff_exists.mp isSome with ⟨server, reached⟩
  refine ⟨before, established, server, started, ended, entry, quiet, reached, ?_⟩
  apply session_undisplaced samplePrimitives tightConfig {} ("10.0.0.1", 1) 0 1
    (handshakeStarted ("10.0.0.1", 1)) (lateHandshake ("10.0.0.1", 1)) before established server
    started ended entry quiet reached
  intro _ isHello
  have isData : routedType (frameBytes .data [1, 2, 3] 0) ≠ some 1 := by decide +kernel
  exact absurd isHello isData

/-- The HELLO of an established session comes again within a minute: the next DATA frame goes
to a new stream, and the handshake that nobody continues costs the host a failure. -/
theorem session_displaced_by_hello :
    ∃ before established server final,
      Machine.run (step samplePrimitives tightConfig) (.new {})
          (handshakeStarted ("10.0.0.1", 1)) = some before ∧
        before.step samplePrimitives tightConfig (.handshakeEnds 0 .established 1) =
          some established ∧
        established.udpSessions.get? ("10.0.0.1", 1) = some 0 ∧
        established.failedHandshakes.get? "10.0.0.1" = none ∧
        established.step samplePrimitives tightConfig
          (.datagram (cookieHello ("10.0.0.1", 1) 40) ("10.0.0.1", 1) 55 5) = some server ∧
        server.udpSessions.get? ("10.0.0.1", 1) = some 0 ∧
        (server.handleUdpDatagram samplePrimitives tightConfig (frameBytes .data [1, 2, 3] 0)
          ("10.0.0.1", 1) 56 6).2 = [.feed 1 (frameBytes .data [1, 2, 3] 0)] ∧
        Machine.run (step samplePrimitives tightConfig) server
          [.start 1, .handshakeEnds 1 .timedOut 15] = some final ∧
        (final.failedHandshakes.get? "10.0.0.1").map FailedEntry.fails = some 1 := by
  rcases Machine.exists_run (step samplePrimitives tightConfig) (.new {})
    (handshakeStarted ("10.0.0.1", 1))
    (fun before => (before.step samplePrimitives tightConfig
      (.handshakeEnds 0 .established 1)).any (fun established =>
        decide (established.udpSessions.get? ("10.0.0.1", 1) = some 0) &&
        decide (established.failedHandshakes.get? "10.0.0.1" = none) &&
        (established.step samplePrimitives tightConfig
          (.datagram (cookieHello ("10.0.0.1", 1) 40) ("10.0.0.1", 1) 55 5)).any fun server =>
            decide (server.udpSessions.get? ("10.0.0.1", 1) = some 0) &&
            decide ((server.handleUdpDatagram samplePrimitives tightConfig
              (frameBytes .data [1, 2, 3] 0) ("10.0.0.1", 1) 56 6).2 =
                [.feed 1 (frameBytes .data [1, 2, 3] 0)]) &&
            (Machine.run (step samplePrimitives tightConfig) server
              [.start 1, .handshakeEnds 1 .timedOut 15]).any fun final =>
                decide ((final.failedHandshakes.get? "10.0.0.1").map FailedEntry.fails =
                  some 1)) = true)
    (by decide +kernel) with ⟨before, started, found⟩
  rcases (Option.any_eq_true _ _).mp found with ⟨established, ended, checked⟩
  simp only [Bool.and_eq_true, decide_eq_true_eq] at checked
  rcases checked with ⟨⟨entry, unpunished⟩, found⟩
  rcases (Option.any_eq_true _ _).mp found with ⟨server, again, checked⟩
  simp only [Bool.and_eq_true, decide_eq_true_eq] at checked
  rcases checked with ⟨⟨kept, fed⟩, found⟩
  rcases (Option.any_eq_true _ _).mp found with ⟨final, reached, punished⟩
  exact ⟨before, established, server, final, started, ended, entry, unpunished, again, kept,
    fed, reached, by simpa using punished⟩

end Server

end Usmp
