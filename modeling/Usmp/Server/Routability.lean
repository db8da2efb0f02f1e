import Usmp.Server.Accounting

/-!
# Return routability

The server with a record of the datagrams that the listener itself sent, and when.  An
attacker who does not know the secret presents no cookie that was not sent; then a
handshake starts only for an address that a recent cookie was sent to.
-/

namespace Usmp

/-- A datagram of the listener. -/
structure SentDatagram where
  wall : Rat
  addr : Addr
  data : Bytes
  deriving DecidableEq, Repr

/-- The server, what its listener sent, and the latest time that it read. -/
structure WatchedServer where
  server : Server
  sent : List SentDatagram := []
  clock : Rat

namespace WatchedServer

/-- The datagrams among the effects of a step. -/
def sentBy (wall : Rat) : List ServerEffect → List SentDatagram
  | [] => []
  | .sendto addr data :: rest => { wall, addr, data } :: sentBy wall rest
  | .feed _ _ :: rest | .close _ :: rest => sentBy wall rest

def step (P : Primitives) (config : ServerConfig) (watched : WatchedServer)
    (action : ServerAction) : Option WatchedServer :=
  (watched.server.perform P config action).map fun result =>
    match action with
    | .datagram _ _ wall _ =>
        { server := result.1, sent := watched.sent ++ sentBy wall result.2, clock := wall }
    | .accept _ | .start _ | .handshakeEnds _ _ _ | .handlerEnds _ _ _ | .proceed _
    | .cancel _ => { watched with server := result.1 }

/-- The cookie field of a HELLO. -/
def cookieOf (data : Bytes) : Bytes := (data.drop 50).take 16

/-- No cookie that was sent collides with one that would be accepted from the address. -/
def NoCollision (P : Primitives) (config : ServerConfig) (watched : WatchedServer) (addr : Addr)
    (wall : Rat) : Prop :=
  ∀ sent ∈ watched.sent, ∀ message ∈ checkedMessages addr wall,
    issueCookie P config.cookieSecret sent.addr sent.wall =
        cookieTag P config.cookieSecret message →
      cookieMessage sent.addr (timeBucket sent.wall) = message

/-- An attacker without the secret: a cookie that would be accepted was sent to somebody. -/
def Unforged (P : Primitives) (config : ServerConfig) (watched : WatchedServer) (data : Bytes)
    (addr : Addr) (wall : Rat) : Prop :=
  data.length = 66 → cookieValid P config.cookieSecret addr wall (cookieOf data) = true →
    ∃ sent ∈ watched.sent, sent.data = frameBytes .helloRetry (cookieOf data) 0

/-- The assumptions on a step: HMAC and the clock. -/
def Assumed (P : Primitives) (config : ServerConfig) (watched : WatchedServer) :
    ServerAction → Prop
  | .datagram data addr wall _ =>
      watched.clock ≤ wall ∧ NoCollision P config watched addr wall ∧
        Unforged P config watched data addr wall
  | _ => True

instance (P : Primitives) (config : ServerConfig) (watched : WatchedServer) :
    (action : ServerAction) → Decidable (Assumed P config watched action)
  | .datagram data addr wall _ =>
      inferInstanceAs (Decidable (watched.clock ≤ wall ∧
        (∀ sent ∈ watched.sent, ∀ message ∈ checkedMessages addr wall,
          issueCookie P config.cookieSecret sent.addr sent.wall =
              cookieTag P config.cookieSecret message →
            cookieMessage sent.addr (timeBucket sent.wall) = message) ∧
        (data.length = 66 →
          cookieValid P config.cookieSecret addr wall (cookieOf data) = true →
          ∃ sent ∈ watched.sent, sent.data = frameBytes .helloRetry (cookieOf data) 0)))
  | .accept _ | .start _ | .handshakeEnds _ _ _ | .handlerEnds _ _ _ | .proceed _
  | .cancel _ => isTrue trivial

variable {P : Primitives} {config : ServerConfig}

/-! ## What the listener sends -/

theorem frameBytes_payload_inj {type type' : PacketType} {payload payload' : Bytes}
    {seq seq' : Nat} (equal : frameBytes type payload seq = frameBytes type' payload' seq') :
    payload = payload' := by
  have sizes := congrArg List.length equal
  rw [length_frameBytes, length_frameBytes] at sizes
  rw [frameBytes, frameBytes] at equal
  exact (List.append_inj' equal (by omega)).2

/-- A HELLO_RETRY of the listener carries the cookie of the moment and of the address. -/
structure Issued (P : Primitives) (config : ServerConfig) (watched : WatchedServer) : Prop where
  cookie : ∀ sent ∈ watched.sent, ∀ cookie, sent.data = frameBytes .helloRetry cookie 0 →
    cookie = issueCookie P config.cookieSecret sent.addr sent.wall
  past : ∀ sent ∈ watched.sent, sent.wall ≤ watched.clock

/-- What a datagram makes the listener send: nothing, or the answer to a HELLO. -/
theorem sentBy_datagram (P : Primitives) (config : ServerConfig) (server : Server)
    (data : Bytes) (addr : Addr) (wall mono : Rat) :
    sentBy wall (server.handleUdpDatagram P config data addr wall mono).2 = [] ∨
      sentBy wall (server.handleUdpDatagram P config data addr wall mono).2 =
        [{ wall, addr, data := utackHeader (fieldAt data 3 1) (fieldAt data 4 4) },
          { wall, addr,
            data := frameBytes .helloRetry (issueCookie P config.cookieSecret addr wall) 0 }] := by
  have session : sentBy wall (server.routeSession data addr).2 = [] := by
    unfold Server.routeSession
    split <;> rfl
  unfold Server.handleUdpDatagram
  split
  · split
    · unfold Server.routeHandshake
      split
      · exact .inl rfl
      split
      · exact .inl rfl
      split
      · unfold Server.answerHello
        dsimp only
        split
        · exact .inr rfl
        · exact .inl rfl
      · split <;> exact .inl rfl
    · exact .inl session
  · exact .inl session

theorem Issued.step {watched next : WatchedServer} {action : ServerAction}
    (issued : Issued P config watched) (assumed : Assumed P config watched action)
    (stepped : watched.step P config action = some next) : Issued P config next := by
  rcases Option.map_eq_some_iff.mp stepped with ⟨result, performed, rfl⟩
  cases action with
  | datagram data addr wall mono =>
      cases performed
      have old : ∀ sent ∈ watched.sent, sent.wall ≤ wall := fun sent member =>
        (issued.past sent member).trans assumed.1
      dsimp only
      rcases sentBy_datagram P config watched.server data addr wall mono with nothing | answer
      · rw [nothing, List.append_nil]
        exact ⟨issued.cookie, old⟩
      · rw [answer]
        constructor
        · intro sent member cookie isRetry
          rcases List.mem_append.mp member with before | new
          · exact issued.cookie sent before cookie isRetry
          · simp only [List.mem_cons, List.not_mem_nil, or_false] at new
            rcases new with rfl | rfl
            · have sizes := congrArg List.length isRetry
              simp only [length_frameBytes, usmpHeaderSize, utackHeader, utackMagic,
                List.length_append, LittleEndian.length_leBytes, List.length_cons,
                List.length_nil] at sizes
              omega
            · exact (frameBytes_payload_inj isRetry).symm
        · intro sent member
          rcases List.mem_append.mp member with before | new
          · exact old sent before
          · simp only [List.mem_cons, List.not_mem_nil, or_false] at new
            rcases new with rfl | rfl <;> exact le_rfl
  | accept addr | start id | handshakeEnds id outcome now | handlerEnds id raised now
  | proceed id | cancel id => exact ⟨issued.cookie, issued.past⟩

/-! ## Entries of the handshake table -/

/-- A handshake entry is new only where a datagram from its address starts a handshake. -/
theorem entry_of_change {before after : Server} {action : ServerAction}
    (change : Server.Change P config before action after) {target : Addr} {id : Nat}
    (entry : after.udpHandshakes.get? target = some id) :
    before.udpHandshakes.get? target = some id ∨
      ∃ data wall mono, action = .datagram data target wall mono ∧
        before.startsHandshake P config data target wall mono = true := by
  have erased : ∀ {table : Dict Addr Nat} {addr : Addr},
      (table.erase addr).get? target = some id → table.get? target = some id := by
    intro table addr found
    rw [Dict.get?_erase] at found
    split at found
    · cases found
    · exact found
  cases change with
  | quiet same =>
      rw [same.udpHandshakes] at entry
      exact .inl entry
  | allocated data addr wall mono isHello free starts =>
      simp only [Server.allocateHandshake, Dict.get?_set] at entry
      split at entry
      · rename_i same
        subst same
        exact .inr ⟨data, wall, mono, rfl, starts⟩
      · exact .inl entry
  | accepted addr | rejected other connection | admitted other connection
  | started other connection | cleaned other connection => exact .inl entry
  | served same other connection =>
      simp only [Server.setStage, same.udpHandshakes] at entry
      exact .inl entry
  | promoted same other connection =>
      simp only [Server.setStage, same.udpHandshakes] at entry
      exact .inl (erased entry)
  | left same other connection watched isAt active =>
      left
      cases isReliable : connection.isReliable with
      | true =>
          rw [Server.leave_tcp _ _ isReliable] at entry
          simpa only [Server.setStage, Server.discardTask, same.udpHandshakes] using entry
      | false =>
          rw [Server.leave_udp _ _ isReliable] at entry
          simp only [Server.setStage, same.udpHandshakes] at entry
          split at entry
          · exact erased entry
          · exact entry

/-- A handshake entry is new only by a HELLO with a cookie that the listener sent to that
address less than 60 seconds before; a cookie for one address is refused from every other;
and a cookie is good for 30 seconds. -/
structure Routable (P : Primitives) (config : ServerConfig) (watched : WatchedServer) :
    Prop where
  entered : ∀ action next target id, Assumed P config watched action →
    watched.step P config action = some next →
    next.server.udpHandshakes.get? target = some id →
    watched.server.udpHandshakes.get? target ≠ some id →
    ∃ data wall mono issued, action = .datagram data target wall mono ∧ data.length = 66 ∧
      ⟨issued, target, frameBytes .helloRetry (cookieOf data) 0⟩ ∈ watched.sent ∧
      issued ≤ wall ∧ wall < issued + 60
  exclusive : ∀ issued addr cookie target wall,
    ⟨issued, addr, frameBytes .helloRetry cookie 0⟩ ∈ watched.sent → target ≠ addr →
    NoCollision P config watched target wall →
    cookieValid P config.cookieSecret target wall cookie = false
  lasting : ∀ issued addr cookie wall,
    ⟨issued, addr, frameBytes .helloRetry cookie 0⟩ ∈ watched.sent →
    issued ≤ wall → wall ≤ issued + 30 →
    cookieValid P config.cookieSecret addr wall cookie = true

theorem Issued.routable {watched : WatchedServer} (issued : Issued P config watched) :
    Routable P config watched where
  entered action next target id assumed stepped entry new := by
    rcases Option.map_eq_some_iff.mp stepped with ⟨result, performed, isNext⟩
    have entry : result.1.udpHandshakes.get? target = some id := by
      rw [← isNext] at entry
      cases action <;> exact entry
    have change : Server.Change P config watched.server action result.1 :=
      Server.change_of_step (by rw [Server.step, performed]; rfl)
    rcases entry_of_change change entry with old | ⟨data, wall, mono, rfl, starts⟩
    · exact absurd old new
    · simp only [Server.startsHandshake, Bool.and_eq_true, decide_eq_true_eq] at starts
      rcases starts with ⟨⟨size, valid⟩, _⟩
      rcases assumed.2.2 size valid with ⟨sent, member, isRetry⟩
      have isIssued := issued.cookie sent member _ isRetry
      change cookieValid P config.cookieSecret target wall (cookieOf data) = true at valid
      rw [isIssued] at valid
      rcases recent_of_cookieValid (assumed.2.1 sent member) valid with ⟨sameAddr, recent⟩
      refine ⟨data, wall, mono, sent.wall, rfl, size, ?_,
        (issued.past sent member).trans assumed.1, recent⟩
      rw [← isRetry, ← sameAddr]
      exact member
  exclusive time addr cookie target wall member distinct noCollision := by
    have isIssued := issued.cookie _ member cookie rfl
    apply Bool.eq_false_iff.mpr
    intro valid
    rw [isIssued] at valid
    exact distinct (recent_of_cookieValid (noCollision _ member) valid).1.symm
  lasting time addr cookie wall member after within := by
    have isIssued := issued.cookie _ member cookie rfl
    rw [isIssued]
    exact cookieValid_within P _ addr after within

theorem return_routability (P : Primitives) (config : ServerConfig)
    (failedHandshakes : FailedHandshakes) (clock : Rat) (actions : List ServerAction)
    (watched : WatchedServer)
    (assumed : Machine.Along (step P config) (Assumed P config)
      { server := .new failedHandshakes, clock } actions)
    (reached : Machine.run (step P config) { server := .new failedHandshakes, clock } actions =
      some watched) :
    Routable P config watched := by
  have start : Issued P config { server := .new failedHandshakes, clock } :=
    ⟨fun _ member => absurd member List.not_mem_nil,
      fun _ member => absurd member List.not_mem_nil⟩
  exact Issued.routable (Machine.run_invariant (Issued P config)
    (fun _ _ _ issued assumed stepped => issued.step assumed stepped) start assumed reached)

/-- A client gets a cookie and starts a handshake with it; a copy of the cookie from another
port is refused. -/
def cookieExchange : List ServerAction :=
  [.datagram (frameBytes .hello (List.replicate 38 7) 0) ("fe80::1", 1) 40 0,
    .datagram (Server.cookieHello ("fe80::1", 1) 40) ("fe80::1", 2) 61 21,
    .datagram (Server.cookieHello ("fe80::1", 1) 40) ("fe80::1", 1) 62 22]

theorem return_routability_cookieExchange :
    ∃ watched,
      Machine.Along (step samplePrimitives Server.tightConfig)
        (Assumed samplePrimitives Server.tightConfig)
        { server := .new {}, clock := 0 } cookieExchange ∧
      Machine.run (step samplePrimitives Server.tightConfig)
        { server := .new {}, clock := 0 } cookieExchange = some watched ∧
      watched.server.udpHandshakes.entries = [(("fe80::1", 1), 0)] ∧
      Routable samplePrimitives Server.tightConfig watched := by
  have assumed : Machine.Along (step samplePrimitives Server.tightConfig)
      (Assumed samplePrimitives Server.tightConfig)
      { server := .new {}, clock := 0 } cookieExchange := by decide +kernel
  rcases Machine.exists_run (step samplePrimitives Server.tightConfig)
    { server := .new {}, clock := 0 } cookieExchange
    (fun watched => watched.server.udpHandshakes.entries = [(("fe80::1", 1), 0)])
    (by decide +kernel) with ⟨watched, reached, entries⟩
  exact ⟨watched, assumed, reached, entries,
    return_routability samplePrimitives Server.tightConfig {} 0 cookieExchange watched assumed
      reached⟩

end WatchedServer

end Usmp
