import Usmp.Server.Machine

/-!
# What a step does to the tables

Every step of the server is one of nine changes of its tables and tasks.
-/

namespace Usmp

/-- A connection task between its admission and its clean-up. -/
def Stage.active : Stage → Bool
  | .handshaking | .serving => true
  | .created | .unwatching | .closing | .finished => false

namespace Server

/-- Everything but the two limiters. -/
structure SameTables (before after : Server) : Prop where
  tcpConnections : after.tcpConnections = before.tcpConnections
  udpSessions : after.udpSessions = before.udpSessions
  udpHandshakes : after.udpHandshakes = before.udpHandshakes
  udpInProgressHandshakes : after.udpInProgressHandshakes = before.udpInProgressHandshakes
  connTasks : after.connTasks = before.connTasks
  connections : after.connections = before.connections

theorem SameTables.refl (server : Server) : SameTables server server :=
  ⟨rfl, rfl, rfl, rfl, rfl, rfl⟩

theorem SameTables.trans {first second third : Server} (left : SameTables first second)
    (right : SameTables second third) : SameTables first third :=
  ⟨right.tcpConnections.trans left.tcpConnections, right.udpSessions.trans left.udpSessions,
    right.udpHandshakes.trans left.udpHandshakes,
    right.udpInProgressHandshakes.trans left.udpInProgressHandshakes,
    right.connTasks.trans left.connTasks, right.connections.trans left.connections⟩

inductive Change (P : Primitives) (config : ServerConfig) (before : Server) :
    ServerAction → Server → Prop where
  | quiet {action : ServerAction} {after : Server} (same : SameTables before after) :
      Change P config before action after
  | accepted (addr : Addr) :
      Change P config before (.accept addr)
        { before with connections := before.connections ++ [{ addr, isReliable := true }] }
  | allocated (data : Bytes) (addr : Addr) (wall mono : Rat) (isHello : routedType data = some 1)
      (free : before.udpHandshakes.get? addr = none)
      (starts : before.startsHandshake P config data addr wall mono = true) :
      Change P config before (.datagram data addr wall mono) (before.allocateHandshake data addr).1
  | rejected {action : ServerAction} (id : Nat) (connection : Connection)
      (isAt : before.connections[id]? = some connection) (created : connection.stage = .created)
      (isReliable : connection.isReliable = true) :
      Change P config before action (((before.addTask id).discardTask id).setStage id .finished)
  | admitted {action : ServerAction} (id : Nat) (connection : Connection)
      (isAt : before.connections[id]? = some connection) (created : connection.stage = .created)
      (isReliable : connection.isReliable = true)
      (room : before.tcpConnections.total (fun _ count => count) < config.maxConnections)
      (ipRoom : (before.tcpConnections.get? connection.addr.1).getD 0 <
        config.maxConnectionsPerIp) :
      Change P config before action
        ({ before.addTask id with
          tcpConnections := before.tcpConnections.set connection.addr.1
            ((before.tcpConnections.get? connection.addr.1).getD 0 + 1) }.setStage id
          .handshaking)
  | started {action : ServerAction} (id : Nat) (connection : Connection)
      (isAt : before.connections[id]? = some connection) (created : connection.stage = .created)
      (unreliable : connection.isReliable = false) :
      Change P config before action ((before.addTask id).setStage id .handshaking)
  | served {action : ServerAction} {base : Server} (same : SameTables before base) (id : Nat)
      (connection : Connection)
      (isAt : before.connections[id]? = some connection)
      (handshaking : connection.stage = .handshaking) (isReliable : connection.isReliable = true) :
      Change P config before action (base.setStage id .serving)
  | promoted {action : ServerAction} {base : Server} (same : SameTables before base) (id : Nat)
      (connection : Connection)
      (isAt : before.connections[id]? = some connection)
      (handshaking : connection.stage = .handshaking)
      (unreliable : connection.isReliable = false)
      (room : before.udpSessions.size < config.maxConnections)
      (ipRoom : before.udpSessions.count (fun other _ => other.1 = connection.addr.1) <
        config.maxConnectionsPerIp) :
      Change P config before action
        ({ base with
          udpInProgressHandshakes := decrement base.udpInProgressHandshakes connection.addr.1
          udpSessions := base.udpSessions.set connection.addr id
          udpHandshakes := base.udpHandshakes.erase connection.addr }.setStage id .serving)
  | left {action : ServerAction} {base : Server} (same : SameTables before base) (id : Nat)
      (connection : Connection)
      (watched : Bool) (isAt : before.connections[id]? = some connection)
      (active : connection.stage.active = true) :
      Change P config before action
        (base.leave id connection (connection.stage = .serving) watched).1
  | cleaned {action : ServerAction} (id : Nat) (connection : Connection) (stage : Stage)
      (isAt : before.connections[id]? = some connection)
      (cleaning : connection.stage = .unwatching ∧ stage = .closing ∨
        connection.stage = .closing ∧ stage = .finished) :
      Change P config before action (before.setStage id stage)

theorem sameTables_recordFailure (server : Server) (ip : String) (now : Rat) (exn : Exn) :
    SameTables server (server.recordFailure ip now exn).1 := by
  unfold recordFailure
  split <;> exact ⟨rfl, rfl, rfl, rfl, rfl, rfl⟩

theorem sameTables_connectExcept (server : Server) (ip : String) (now : Rat) (exn : Exn) :
    SameTables server (server.connectExcept ip now exn) := by
  unfold connectExcept
  split
  · exact .refl server
  split
  · exact sameTables_recordFailure server ip now exn
  · exact .refl server

theorem sameTables_handshakeExcept (server : Server) (ip : String) (now : Rat) (exn : Exn) :
    SameTables server (server.handshakeExcept ip now exn).1 := by
  unfold handshakeExcept
  split
  · exact .refl server
  split
  · exact sameTables_recordFailure server ip now exn
  · exact .refl server

/-- A datagram starts a handshake, or leaves the tables alone. -/
theorem handleUdpDatagram_cases (P : Primitives) (config : ServerConfig) (server : Server)
    (data : Bytes) (addr : Addr) (wall mono : Rat) :
    SameTables server (server.handleUdpDatagram P config data addr wall mono).1 ∨
      routedType data = some 1 ∧ server.udpHandshakes.get? addr = none ∧
        server.startsHandshake P config data addr wall mono = true ∧
        server.handleUdpDatagram P config data addr wall mono =
          server.allocateHandshake data addr := by
  have quiet : SameTables server (server.routeSession data addr).1 := by
    unfold routeSession
    split <;> exact .refl server
  unfold handleUdpDatagram
  split
  · rename_i type isType
    split
    · unfold routeHandshake
      split
      · exact .inl (.refl server)
      rename_i free
      split
      · exact .inl (.refl server)
      rename_i isHello
      have isOne : type = 1 := not_not.mp isHello
      subst isOne
      split
      · left
        unfold answerHello
        dsimp only
        split <;> exact ⟨rfl, rfl, rfl, rfl, rfl, rfl⟩
      split
      · rename_i starts
        exact .inr ⟨isType, free, starts, rfl⟩
      · exact .inl (.refl server)
    · exact .inl quiet
  · exact .inl quiet

theorem change_leave {P : Primitives} {config : ServerConfig} {before base : Server}
    {action : ServerAction} (same : SameTables before base) {id : Nat} {connection : Connection}
    (isAt : before.connections[id]? = some connection)
    (active : connection.stage.active = true) (watched : Bool) {decremented : Bool}
    (agrees : decide (connection.stage = .serving) = decremented) :
    Change P config before action (base.leave id connection decremented watched).1 := by
  subst agrees
  exact .left same id connection watched isAt active

theorem change_handshakeEnds {P : Primitives} {config : ServerConfig} {server : Server}
    {action : ServerAction} {id : Nat} {connection : Connection} (now : Rat)
    (outcome : HandshakeOutcome)
    (isAt : server.connections[id]? = some connection)
    (handshaking : connection.stage = .handshaking) :
    Change P config server action (server.handshakeEnds config id connection now outcome).1 := by
  have leaves : ∀ {base : Server}, SameTables server base →
      Change P config server action (base.leave id connection false false).1 := fun same =>
    change_leave same isAt (by rw [handshaking]; rfl) false (by rw [handshaking]; rfl)
  cases outcome with
  | established =>
      have same : SameTables server
          { server with failedHandshakes := server.failedHandshakes.erase connection.addr.1 } :=
        ⟨rfl, rfl, rfl, rfl, rfl, rfl⟩
      simp only [handshakeEnds]
      split
      · rename_i isReliable
        exact .served same id connection isAt handshaking isReliable
      · rename_i unreliable
        have unreliable : connection.isReliable = false := by simpa using unreliable
        unfold promote
        dsimp only
        split
        · -- the clean-up finds the handshake already subtracted
          have sameLeave := leaves same
          rw [leave] at sameLeave ⊢
          simpa [unreliable, discardTask] using sameLeave
        · rename_i fits
          rw [not_or, Nat.not_le, Nat.not_le] at fits
          exact .promoted same id connection isAt handshaking unreliable fits.1 fits.2
  | lockedOut => exact leaves (.refl server)
  | failed exn =>
      exact leaves ((sameTables_handshakeExcept _ _ _ _).trans (sameTables_connectExcept _ _ _ _))
  | timedOut => exact leaves (sameTables_connectExcept _ _ _ _)

theorem change_of_step {P : Primitives} {config : ServerConfig} {before after : Server}
    {action : ServerAction} (stepped : before.step P config action = some after) :
    Change P config before action after := by
  rcases Option.map_eq_some_iff.mp stepped with ⟨result, performed, rfl⟩
  cases action with
  | datagram data addr wall mono =>
      cases performed
      rcases handleUdpDatagram_cases P config before data addr wall mono with
        same | ⟨isHello, free, starts, allocated⟩
      · exact .quiet same
      · rw [allocated]
        exact .allocated data addr wall mono isHello free starts
  | accept addr =>
      cases performed
      exact .accepted addr
  | start id =>
      simp only [perform] at performed
      split at performed <;> try cases performed
      rename_i connection isAt
      split at performed <;> cases performed
      rename_i created
      unfold startTask
      dsimp only
      split
      · rename_i isReliable
        split
        · exact .rejected id connection isAt created isReliable
        rename_i room
        split
        · exact .rejected id connection isAt created isReliable
        rename_i ipRoom
        exact .admitted id connection isAt created isReliable (Nat.not_le.mp room)
          (Nat.not_le.mp ipRoom)
      · rename_i unreliable
        exact .started id connection isAt created (by simpa using unreliable)
  | handshakeEnds id outcome now =>
      simp only [perform] at performed
      split at performed <;> try cases performed
      rename_i connection isAt
      split at performed <;> cases performed
      rename_i handshaking
      exact change_handshakeEnds now outcome isAt handshaking
  | handlerEnds id raised now =>
      simp only [perform] at performed
      split at performed <;> try cases performed
      rename_i connection isAt
      split at performed <;> cases performed
      rename_i serving
      have leaves : ∀ {base : Server}, SameTables before base →
          Change P config before (.handlerEnds id raised now)
            (base.leave id connection true true).1 := fun same =>
        change_leave same isAt (by rw [serving]; rfl) true (by rw [serving]; rfl)
      cases raised with
      | none => exact leaves (.refl before)
      | some exn => exact leaves (sameTables_connectExcept _ _ _ _)
  | proceed id =>
      simp only [perform] at performed
      split at performed <;> try cases performed
      rename_i connection isAt
      split at performed <;> cases performed
      · rename_i unwatching
        exact .cleaned id connection .closing isAt (.inl ⟨unwatching, rfl⟩)
      · rename_i closing
        exact .cleaned id connection .finished isAt (.inr ⟨closing, rfl⟩)
  | cancel id =>
      simp only [perform] at performed
      split at performed <;> try cases performed
      rename_i connection isAt
      unfold cancelTask at performed
      split at performed <;> cases performed
      · rename_i handshaking
        exact change_leave (.refl before) isAt (by rw [handshaking]; rfl) false
          (by rw [handshaking]; rfl)
      · rename_i serving
        exact change_leave (.refl before) isAt (by rw [serving]; rfl) true (by rw [serving]; rfl)
      · rename_i unwatching
        exact .cleaned id connection .closing isAt (.inl ⟨unwatching, rfl⟩)
      · rename_i closing
        exact .cleaned id connection .finished isAt (.inr ⟨closing, rfl⟩)

end Server

end Usmp
