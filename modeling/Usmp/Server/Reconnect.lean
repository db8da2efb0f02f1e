import Usmp.Server.Blame

/-!
# A client that connects again

A handshake from an address that has a session is to replace it.  The limits are checked
before the old session is looked up, so at a limit the new session is turned away instead.
-/

namespace Usmp

namespace Server

variable {P : Primitives} {config : ServerConfig}

/-- The new stream takes the place of the old one, which is closed, and no later step of the
old task takes it away. -/
structure Replaces (P : Primitives) (config : ServerConfig) (addr : Addr) (id old : Nat)
    (before : Server) (result : Server × List ServerEffect) : Prop where
  entry : result.1.udpSessions.get? addr = some id
  closed : .close old ∈ result.2
  size : result.1.udpSessions.size = before.udpSessions.size
  kept : ∀ actions later action next,
    Machine.run (step P config) result.1 actions = some later →
    action.task = some old → later.step P config action = some next →
    later.udpSessions.get? addr = some id → next.udpSessions.get? addr = some id

theorem get?_leave {server : Server} {addr : Addr} {id old : Nat} (distinct : id ≠ old)
    (entry : server.udpSessions.get? addr = some id) (connection : Connection)
    (decremented watched : Bool) :
    (server.leave old connection decremented watched).1.udpSessions.get? addr = some id := by
  cases isReliable : connection.isReliable with
  | true =>
      have same : (server.leave old connection decremented watched).1.udpSessions =
          server.udpSessions := by
        unfold leave
        rw [isReliable]
        cases watched <;> rfl
      rw [same]
      exact entry
  | false =>
      rw [leave_udp _ _ isReliable]
      simp only [setStage, discardTask]
      split
      · rename_i own
        have elsewhere : addr ≠ connection.addr := by
          intro same
          rw [← same, entry, Option.some.injEq] at own
          exact distinct own
        rw [Dict.get?_erase, if_neg elsewhere]
        exact entry
      · exact entry

/-- A task past its handshake takes only its own entry away. -/
theorem get?_step_past {before after : Server} {action : ServerAction} {addr : Addr}
    {id old : Nat} (distinct : id ≠ old) (past : pending old before = 0)
    (isTask : action.task = some old) (stepped : before.step P config action = some after)
    (entry : before.udpSessions.get? addr = some id) :
    after.udpSessions.get? addr = some id := by
  have late : ∀ connection, before.connections[old]? = some connection →
      connection.stage ≠ .created ∧ connection.stage ≠ .handshaking := by
    intro connection isAt
    rw [pending, isAt] at past
    simpa using past
  rcases Option.map_eq_some_iff.mp stepped with ⟨result, performed, rfl⟩
  cases action with
  | datagram data source wall mono | accept source => cases isTask
  | start other =>
      cases isTask
      simp only [perform] at performed
      split at performed <;> try cases performed
      rename_i connection isAt
      split at performed <;> cases performed
      rename_i created
      exact absurd created (late connection isAt).1
  | handshakeEnds other outcome now =>
      cases isTask
      simp only [perform] at performed
      split at performed <;> try cases performed
      rename_i connection isAt
      split at performed <;> cases performed
      rename_i handshaking
      exact absurd handshaking (late connection isAt).2
  | handlerEnds other raised now =>
      cases isTask
      simp only [perform] at performed
      split at performed <;> try cases performed
      rename_i connection isAt
      split at performed <;> cases performed
      apply get?_leave distinct
      cases raised with
      | none => exact entry
      | some exn => rwa [(sameTables_connectExcept _ _ _ _).udpSessions]
  | proceed other =>
      cases isTask
      simp only [perform] at performed
      split at performed <;> try cases performed
      split at performed <;> cases performed <;> exact entry
  | cancel other =>
      cases isTask
      simp only [perform] at performed
      split at performed <;> try cases performed
      unfold cancelTask at performed
      split at performed <;> cases performed
      · exact get?_leave distinct entry _ _ _
      · exact get?_leave distinct entry _ _ _
      · exact entry
      · exact entry

theorem pending_of_run {id : Nat} {server final : Server} {actions : List ServerAction}
    (past : pending id server = 0)
    (reached : Machine.run (step P config) server actions = some final) : pending id final = 0 :=
  Machine.run_invariant' (fun server => pending id server = 0)
    (fun _ _ _ past stepped => Nat.le_zero.mp (past ▸ pending_change (change_of_step stepped) id))
    past reached

/-- A handshake from an address with a session replaces it exactly when the limits leave room
for one more session. -/
theorem reconnect_replaces_iff (P : Primitives) (config : ServerConfig)
    (failedHandshakes : FailedHandshakes) (earlier : List ServerAction) (before : Server)
    (started : Machine.run (step P config) (.new failedHandshakes) earlier = some before)
    (id old : Nat) (connection : Connection) (now : Rat) (result : Server × List ServerEffect)
    (isAt : before.connections[id]? = some connection)
    (unreliable : connection.isReliable = false)
    (entry : before.udpSessions.get? connection.addr = some old)
    (ended : before.perform P config (.handshakeEnds id .established now) = some result) :
    Replaces P config connection.addr id old before result ↔
      before.udpSessions.size < config.maxConnections ∧
        before.udpSessions.count (fun other _ => other.1 = connection.addr.1) <
          config.maxConnectionsPerIp := by
  rcases (udpTables_of_run started).sessionTask _ _ entry with
    ⟨served, isServed, _, _, serving⟩
  simp only [perform, isAt] at ended
  split at ended <;> cases ended
  rename_i handshaking
  have distinct : id ≠ old := by
    intro same
    subst same
    rw [isAt] at isServed
    cases isServed
    rw [handshaking] at serving
    cases serving
  simp only [handshakeEnds, unreliable, Bool.false_eq_true, if_false]
  unfold promote
  dsimp only
  split
  · rename_i crowded
    -- the old entry stays, and the new stream is closed
    apply iff_of_false
    · intro replaces
      have kept := replaces.entry
      rw [get?_leave (Ne.symm distinct) (by exact entry), Option.some.injEq] at kept
      exact distinct kept.symm
    · intro room
      exact crowded.elim (Nat.not_le.mpr room.1) (Nat.not_le.mpr room.2)
  · rename_i room
    rw [not_or, Nat.not_le, Nat.not_le] at room
    refine iff_of_true ?_ room
    have past : pending old before = 0 := by
      rw [pending, isServed]
      simp [serving]
    constructor
    · simp only [setStage, Dict.get?_set, if_true]
    · simp only [entry, List.mem_singleton]
    · exact Dict.size_set_old entry id
    · intro actions later action next reached isTask stepped isEntry
      refine get?_step_past distinct (pending_of_run ?_ reached) isTask stepped isEntry
      apply Nat.le_zero.mp
      rw [← past]
      refine pending_setStage rfl (fun _ _ => .inr (.inr ?_)) old
      decide

/-- A client connects, and connects again from the same address. -/
def reboot : List ServerAction :=
  [.datagram (cookieHello ("10.0.0.1", 1) 40) ("10.0.0.1", 1) 50 0, .start 0,
    .handshakeEnds 0 .established 1,
    .datagram (cookieHello ("10.0.0.1", 1) 60) ("10.0.0.1", 1) 70 20, .start 1]

def roomyConfig : ServerConfig := { tightConfig with maxConnections := 2, maxConnectionsPerIp := 2 }

theorem reconnect_replaces_iff_reboot :
    ∃ before result, Machine.run (step samplePrimitives roomyConfig) (.new {}) reboot =
      some before ∧
      before.udpSessions.get? ("10.0.0.1", 1) = some 0 ∧
      before.perform samplePrimitives roomyConfig (.handshakeEnds 1 .established 21) =
        some result ∧
      Replaces samplePrimitives roomyConfig ("10.0.0.1", 1) 1 0 before result := by
  rcases Machine.exists_run (step samplePrimitives roomyConfig) (.new {}) reboot
    (fun before => before.udpSessions.get? ("10.0.0.1", 1) = some 0 ∧
      before.connections[1]? = some ⟨("10.0.0.1", 1), false, .handshaking⟩ ∧
      before.udpSessions.size < roomyConfig.maxConnections ∧
      before.udpSessions.count (fun other _ => other.1 = "10.0.0.1") <
        roomyConfig.maxConnectionsPerIp ∧
      (before.perform samplePrimitives roomyConfig (.handshakeEnds 1 .established 21)).isSome)
    (by decide +kernel) with ⟨before, started, entry, isAt, room, ipRoom, isSome⟩
  rcases Option.isSome_iff_exists.mp isSome with ⟨result, ended⟩
  exact ⟨before, result, started, entry, ended,
    (reconnect_replaces_iff samplePrimitives roomyConfig {} reboot before started 1 0 _ 21 result
      isAt rfl entry ended).mpr ⟨room, ipRoom⟩⟩

/-- At the limit the session of the client that rebooted is turned away. -/
theorem reconnect_rejected_reboot :
    ∃ before result, Machine.run (step samplePrimitives tightConfig) (.new {}) reboot =
      some before ∧
      before.udpSessions.get? ("10.0.0.1", 1) = some 0 ∧
      before.udpSessions.size = tightConfig.maxConnections ∧
      before.perform samplePrimitives tightConfig (.handshakeEnds 1 .established 21) =
        some result ∧
      result.2 = [.close 1, .close 1] ∧
      ¬ Replaces samplePrimitives tightConfig ("10.0.0.1", 1) 1 0 before result := by
  rcases Machine.exists_run (step samplePrimitives tightConfig) (.new {}) reboot
    (fun before => before.udpSessions.get? ("10.0.0.1", 1) = some 0 ∧
      before.udpSessions.size = tightConfig.maxConnections ∧
      (before.perform samplePrimitives tightConfig (.handshakeEnds 1 .established 21)).any
        fun result => decide (result.2 = [.close 1, .close 1] ∧
          result.1.udpSessions.get? ("10.0.0.1", 1) = some 0))
    (by decide +kernel) with ⟨before, started, entry, full, found⟩
  rcases (Option.any_eq_true _ _).mp found with ⟨result, ended, checked⟩
  rcases of_decide_eq_true checked with ⟨closes, kept⟩
  refine ⟨before, result, started, entry, full, ended, closes, fun replaces => ?_⟩
  have replaced := replaces.entry
  rw [kept] at replaced
  cases replaced

end Server

end Usmp
