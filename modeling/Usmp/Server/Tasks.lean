import Usmp.Server.Accounting

/-!
# What a step asks of the transports

The effects of each step of the server: a datagram is fed to the stream of its address, starts
a handshake or is answered, and a connection task closes transports that are past their
handshake.
-/

namespace Usmp

/-- The task whose step an action is. -/
def ServerAction.task : ServerAction → Option Nat
  | .start id | .handshakeEnds id _ _ | .handlerEnds id _ _ | .proceed id | .cancel id => some id
  | .datagram _ _ _ _ | .accept _ => none

/-- Whether a handshake ends in a session. -/
def ServerAction.establishes : ServerAction → Bool
  | .handshakeEnds _ .established _ => true
  | .handshakeEnds _ _ _ | .start _ | .handlerEnds _ _ _ | .proceed _ | .cancel _
  | .datagram _ _ _ _ | .accept _ => false

namespace Server

variable {P : Primitives} {config : ServerConfig}

/-- The four ways to treat a datagram. -/
inductive Routed (P : Primitives) (config : ServerConfig) (server : Server) (data : Bytes)
    (addr : Addr) (wall mono : Rat) : Server × List ServerEffect → Prop where
  | fed (id : Nat)
      (entry : server.udpHandshakes.get? addr = some id ∨
        server.udpHandshakes.get? addr = none ∧ server.udpSessions.get? addr = some id ∧
          ∀ type, routedType data = some type → 5 ≤ type) :
      Routed P config server data addr wall mono (server, [.feed id data])
  | started (isHello : routedType data = some 1)
      (free : server.udpHandshakes.get? addr = none)
      (starts : server.startsHandshake P config data addr wall mono = true) :
      Routed P config server data addr wall mono (server.allocateHandshake data addr)
  | answered (limiter : CookieLimiter) (isHello : routedType data = some 1)
      (free : server.udpHandshakes.get? addr = none) (size : data.length = 50) :
      Routed P config server data addr wall mono
        ({ server with udpCookieRateLimiter := limiter },
          [.sendto addr (utackHeader (fieldAt data 3 1) (fieldAt data 4 4)),
            .sendto addr
              (frameBytes .helloRetry (issueCookie P config.cookieSecret addr wall) 0)])
  | dropped (limiter : CookieLimiter) :
      Routed P config server data addr wall mono
        ({ server with udpCookieRateLimiter := limiter }, [])

theorem handleUdpDatagram_routed (P : Primitives) (config : ServerConfig) (server : Server)
    (data : Bytes) (addr : Addr) (wall mono : Rat) :
    Routed P config server data addr wall mono
      (server.handleUdpDatagram P config data addr wall mono) := by
  have drop : Routed P config server data addr wall mono (server, []) :=
    .dropped server.udpCookieRateLimiter
  have session : (∀ type, routedType data = some type → 5 ≤ type) →
      Routed P config server data addr wall mono (server.routeSession data addr) := by
    intro isSession
    unfold routeSession
    split
    · rename_i id found
      cases inHandshakes : server.udpHandshakes.get? addr with
      | some other =>
          rw [inHandshakes] at found
          cases found
          exact .fed id (.inl inHandshakes)
      | none =>
          rw [inHandshakes] at found
          exact .fed id (.inr ⟨inHandshakes, found, isSession⟩)
    · exact drop
  unfold handleUdpDatagram
  split
  · rename_i type isType
    split
    · unfold routeHandshake
      split
      · rename_i id found
        exact .fed id (.inl found)
      rename_i free
      split
      · exact drop
      rename_i isHello
      have isHello : routedType data = some 1 := by
        rw [isType, not_not.mp isHello]
      split
      · rename_i size
        unfold answerHello
        dsimp only
        split
        · exact .answered _ isHello free size
        · exact .dropped _
      split
      · rename_i starts
        exact .started isHello free starts
      · exact drop
    · rename_i atLeast
      refine session fun found isFound => ?_
      cases isType.symm.trans isFound
      exact Nat.not_lt.mp atLeast
  · rename_i noType
    refine session fun found isFound => ?_
    cases noType.symm.trans isFound

theorem step_of_perform {server : Server} {action : ServerAction}
    {result : Server × List ServerEffect}
    (performed : server.perform P config action = some result) :
    server.step P config action = some result.1 := by
  rw [step, performed, Option.map_some]

/-- The stages that a task passes through. -/
inductive Onward : Stage → Stage → Prop where
  | starts : Onward .created .handshaking
  | serves : Onward .handshaking .serving
  | leaves {stage next : Stage} (left : stage ≠ .created)
      (cleaning : next = .unwatching ∨ next = .closing ∨ next = .finished) : Onward stage next

/-- A step of the task of one UDP connection. -/
structure TaskStep (server : Server) (id : Nat) (result : Server × List ServerEffect)
    (connection : Connection) (stage : Stage) : Prop where
  isAt : server.connections[id]? = some connection
  connections : result.1.connections =
    server.connections.modify id fun connection => { connection with stage }
  onward : Onward connection.stage stage
  closes : ∀ effect ∈ result.2, ∃ other, effect = .close other ∧
    (other = id ∧ stage ≠ .created ∧ stage ≠ .handshaking ∨
      server.udpSessions.get? connection.addr = some other)

theorem taskStep_leave {server base : Server} (same : SameTables server base) {id : Nat}
    {connection : Connection} (isAt : server.connections[id]? = some connection)
    (unreliable : connection.isReliable = false) (left : connection.stage ≠ .created)
    (decremented watched : Bool) :
    ∃ stage, (stage = .unwatching ∨ stage = .closing) ∧
      TaskStep server id (base.leave id connection decremented watched) connection stage := by
  cases watched with
  | true =>
      refine ⟨.unwatching, .inl rfl, isAt, ?_, .leaves left (.inl rfl), ?_⟩
      · rw [leave_udp _ _ unreliable]
        simp only [setStage, discardTask, same.connections, if_true]
      · intro effect member
        simp [leave] at member
  | false =>
      refine ⟨.closing, .inr rfl, isAt, ?_, .leaves left (.inr (.inl rfl)), ?_⟩
      · rw [leave_udp _ _ unreliable]
        simp only [setStage, discardTask, same.connections, Bool.false_eq_true, if_false]
      · intro effect member
        simp only [leave, Bool.false_eq_true, if_false, List.mem_singleton] at member
        subst member
        exact ⟨id, rfl, .inl ⟨rfl, by decide, by decide⟩⟩

/-- A handshake of a UDP connection that ends makes it a session or leaves. -/
theorem taskStep_handshakeEnds (config : ServerConfig) {server : Server} {id : Nat}
    {connection : Connection}
    (isAt : server.connections[id]? = some connection)
    (unreliable : connection.isReliable = false) (handshaking : connection.stage = .handshaking)
    (now : Rat) (outcome : HandshakeOutcome) :
    ∃ stage, (stage = .serving ∧ outcome = .established ∨ stage = .unwatching ∨
        stage = .closing) ∧
      TaskStep server id (server.handshakeEnds config id connection now outcome) connection
        stage := by
  have left : connection.stage ≠ .created := by rw [handshaking]; decide
  have leaves : ∀ {base : Server} (decremented : Bool), SameTables server base →
      ∃ stage, (stage = .serving ∧ outcome = .established ∨ stage = .unwatching ∨
          stage = .closing) ∧
        TaskStep server id (base.leave id connection decremented false) connection stage := by
    intro base decremented same
    rcases taskStep_leave same isAt unreliable left decremented false with
      ⟨stage, isStage, stepped⟩
    exact ⟨stage, .inr isStage, stepped⟩
  cases outcome with
  | established =>
      simp only [handshakeEnds, unreliable, Bool.false_eq_true, if_false]
      unfold promote
      dsimp only
      split
      · refine ⟨.closing, .inr (.inr rfl), isAt, ?_, .leaves left (.inr (.inl rfl)), ?_⟩
        · rw [leave_udp _ _ unreliable]
          rfl
        · intro effect member
          simp only [leave, Bool.false_eq_true, if_false, List.mem_cons, List.not_mem_nil,
            or_false, or_self] at member
          subst member
          exact ⟨id, rfl, .inl ⟨rfl, by decide, by decide⟩⟩
      · refine ⟨.serving, .inl ⟨rfl, trivial⟩, isAt, rfl, handshaking ▸ .serves, ?_⟩
        intro effect member
        split at member
        · rename_i old found
          rw [List.mem_singleton.mp member]
          exact ⟨old, rfl, .inr found⟩
        · cases member
  | lockedOut => exact leaves false (.refl server)
  | failed exn =>
      exact leaves false
        ((sameTables_handshakeExcept _ _ _ _).trans (sameTables_connectExcept _ _ _ _))
  | timedOut => exact leaves false (sameTables_connectExcept _ _ _ _)

theorem taskStep_of_perform {server : Server} {action : ServerAction}
    {result : Server × List ServerEffect} {id : Nat}
    (performed : server.perform P config action = some result) (isTask : action.task = some id)
    (unreliable : ∀ connection, server.connections[id]? = some connection →
      connection.isReliable = false) :
    ∃ connection stage, (stage = .serving → action.establishes = true) ∧
      TaskStep server id result connection stage := by
  cases action with
  | datagram data addr wall mono | accept addr => cases isTask
  | start other =>
      cases isTask
      simp only [perform] at performed
      split at performed <;> try cases performed
      rename_i connection isAt
      split at performed <;> cases performed
      rename_i created
      refine ⟨connection, .handshaking, by simp, isAt, ?_, ?_, ?_⟩
      · simp [startTask, unreliable connection isAt, setStage, addTask]
      · rw [created]
        exact .starts
      · intro effect member
        simp [startTask, unreliable connection isAt] at member
  | handshakeEnds other outcome now =>
      cases isTask
      simp only [perform] at performed
      split at performed <;> try cases performed
      rename_i connection isAt
      split at performed <;> cases performed
      rename_i handshaking
      rcases taskStep_handshakeEnds config isAt (unreliable connection isAt) handshaking now
        outcome with ⟨stage, isStage, stepped⟩
      refine ⟨connection, stage, ?_, stepped⟩
      intro serving
      rcases isStage with ⟨_, rfl⟩ | same | same
      · rfl
      · rw [same] at serving
        cases serving
      · rw [same] at serving
        cases serving
  | handlerEnds other raised now =>
      cases isTask
      simp only [perform] at performed
      split at performed <;> try cases performed
      rename_i connection isAt
      split at performed <;> cases performed
      rename_i serving
      have left : connection.stage ≠ .created := by rw [serving]; decide
      have leaves : ∀ {base : Server}, SameTables server base → ∃ found stage,
          (stage = .serving → (ServerAction.handlerEnds id raised now).establishes = true) ∧
          TaskStep server id (base.leave id connection true true) found stage := by
        intro base same
        rcases taskStep_leave same isAt (unreliable connection isAt) left true true with
          ⟨stage, isStage, stepped⟩
        refine ⟨connection, stage, ?_, stepped⟩
        rintro rfl
        rcases isStage with impossible | impossible <;> cases impossible
      cases raised with
      | none => exact leaves (.refl server)
      | some exn => exact leaves (sameTables_connectExcept _ _ _ _)
  | proceed other =>
      cases isTask
      simp only [perform] at performed
      split at performed <;> try cases performed
      rename_i connection isAt
      split at performed <;> cases performed
      · rename_i unwatching
        refine ⟨connection, .closing, by simp, isAt, rfl,
          .leaves (by rw [unwatching]; decide) (.inr (.inl rfl)), ?_⟩
        intro effect member
        rw [List.mem_singleton.mp member]
        exact ⟨id, rfl, .inl ⟨rfl, by decide, by decide⟩⟩
      · rename_i closing
        exact ⟨connection, .finished, by simp, isAt, rfl,
          .leaves (by rw [closing]; decide) (.inr (.inr rfl)), List.forall_mem_nil _⟩
  | cancel other =>
      cases isTask
      simp only [perform] at performed
      split at performed <;> try cases performed
      rename_i connection isAt
      have leaves : ∀ {decremented watched : Bool}, connection.stage ≠ .created →
          ∃ found stage, (stage = .serving → (ServerAction.cancel id).establishes = true) ∧
          TaskStep server id (server.leave id connection decremented watched) found stage := by
        intro decremented watched left
        rcases taskStep_leave (.refl server) isAt (unreliable connection isAt) left decremented
          watched with ⟨stage, isStage, stepped⟩
        refine ⟨connection, stage, ?_, stepped⟩
        rintro rfl
        rcases isStage with impossible | impossible <;> cases impossible
      unfold cancelTask at performed
      split at performed <;> cases performed
      · rename_i handshaking
        exact leaves (by rw [handshaking]; decide)
      · rename_i serving
        exact leaves (by rw [serving]; decide)
      · rename_i unwatching
        refine ⟨connection, .closing, by simp, isAt, rfl,
          .leaves (by rw [unwatching]; decide) (.inr (.inl rfl)), ?_⟩
        intro effect member
        rw [List.mem_singleton.mp member]
        exact ⟨id, rfl, .inl ⟨rfl, by decide, by decide⟩⟩
      · rename_i closing
        exact ⟨connection, .finished, by simp, isAt, rfl,
          .leaves (by rw [closing]; decide) (.inr (.inr rfl)), List.forall_mem_nil _⟩

end Server

end Usmp
