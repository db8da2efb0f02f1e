import Usmp.Server.Backoff
import Usmp.Server.Tasks

/-!
# What counts toward the lockout

The failures that the steps of one connection task record for its peer.  A handshake that
fails or times out is to count once, and nothing after it.
-/

namespace Usmp

theorem failsOf_afterFailure (table : FailedHandshakes) (key : String) (now : Rat) :
    failsOf (afterFailure table key now) key =
      if failsOf table key < 1028 then failsOf table key + 1 else failsOf table key := by
  rw [failsOf, get?_afterFailure_self, ownFailure, ← failsOf]
  split
  · rfl
  · rfl

/-- A recorded failure shows. -/
theorem afterFailure_ne {table : FailedHandshakes} {key : String}
    (few : failsOf table key < 1028) (now : Rat) : afterFailure table key now ≠ table := by
  intro same
  have counted := failsOf_afterFailure table key now
  rw [same, if_pos few] at counted
  exact absurd counted (Nat.ne_of_lt (Nat.lt_succ_self _))

theorem afterFailure_full {table : FailedHandshakes} {key : String}
    (full : 1028 ≤ failsOf table key) (now : Rat) : afterFailure table key now = table := by
  rw [afterFailure, recordFailedHandshake_of_ge full]

/-- Whether a handshake ends without a session. -/
def ServerAction.failsHandshake : ServerAction → Bool
  | .handshakeEnds _ (.failed _) _ | .handshakeEnds _ .timedOut _ => true
  | .handshakeEnds _ .established _ | .handshakeEnds _ .lockedOut _ | .handlerEnds _ _ _
  | .start _ | .proceed _ | .cancel _ | .datagram _ _ _ _ | .accept _ => false

namespace Server

variable {P : Primitives} {config : ServerConfig}

theorem recordFailure_table (server : Server) (ip : String) (now : Rat) (exn : Exn) :
    (server.recordFailure ip now exn).1.failedHandshakes =
      afterFailure server.failedHandshakes ip now := by
  rw [recordFailure, afterFailure]
  cases recordFailedHandshake server.failedHandshakes ip now <;> rfl

theorem recordFailure_exn {server : Server} {ip : String}
    (few : failsOf server.failedHandshakes ip < 1028) (now : Rat) (exn : Exn) :
    (server.recordFailure ip now exn).2 = exn := by
  rw [recordFailure, recordFailedHandshake_of_lt few]

theorem recordFailure_full {server : Server} {ip : String}
    (full : 1028 ≤ failsOf server.failedHandshakes ip) (now : Rat) (exn : Exn) :
    server.recordFailure ip now exn =
      (server, ⟨.overflowError, "(34, 'Numerical result out of range')"⟩) := by
  rw [recordFailure, recordFailedHandshake_of_ge full]

/-- The exceptions that the connection task takes for a handshake that timed out. -/
def takenForTimeout (exn : Exn) : Bool :=
  !exn.caughtBy [.handshakeError] && exn.caughtBy [.timeoutError, .usmpTimeoutError]

theorem connectExcept_table (server : Server) (ip : String) (now : Rat) (exn : Exn) :
    (server.connectExcept ip now exn).failedHandshakes =
      if takenForTimeout exn then afterFailure server.failedHandshakes ip now
      else server.failedHandshakes := by
  rw [connectExcept, takenForTimeout]
  cases exn.caughtBy [.handshakeError]
  · cases exn.caughtBy [.timeoutError, .usmpTimeoutError]
    · rfl
    · exact recordFailure_table server ip now exn
  · rfl

theorem leave_table (server : Server) (id : Nat) (connection : Connection)
    (decremented watched : Bool) :
    (server.leave id connection decremented watched).1.failedHandshakes =
      server.failedHandshakes := by
  unfold leave
  cases connection.isReliable <;> cases decremented <;> cases watched <;> rfl

/-- The exceptions for which `server_handshake` records a failure. -/
def countsAsFailure (exn : Exn) : Bool :=
  !exn.caughtBy [.incompleteReadError, .connectionResetError, .connectionAbortedError, .eofError,
      .osError] &&
    exn.caughtBy [.usmpError, .valueError, .structError]

theorem handshakeExcept_eq (server : Server) (ip : String) (now : Rat) (exn : Exn) :
    server.handshakeExcept ip now exn =
      if countsAsFailure exn then server.recordFailure ip now exn else (server, exn) := by
  rw [handshakeExcept, countsAsFailure]
  cases exn.caughtBy [.incompleteReadError, .connectionResetError, .connectionAbortedError,
    .eofError, .osError] <;> rfl

/-- Only a `USMPTimeoutError` is taken by both functions. -/
theorem taken_by_both (exn : Exn) :
    (countsAsFailure exn && takenForTimeout exn) = exn.caughtBy [.usmpTimeoutError] := by
  rcases exn with ⟨cls, message⟩
  cases cls <;> rfl

/-- The table after `server_handshake` raised, and the connection task took it. -/
def failedTable (server : Server) (ip : String) (now : Rat) (exn : Exn) : FailedHandshakes :=
  ((server.handshakeExcept ip now exn).1.connectExcept ip now
    (server.handshakeExcept ip now exn).2).failedHandshakes

theorem failsOf_connectExcept_le (server : Server) (ip : String) (now : Rat) (exn : Exn) :
    failsOf (server.connectExcept ip now exn).failedHandshakes ip ≤
      failsOf server.failedHandshakes ip + 1 := by
  rw [connectExcept_table]
  split
  · rw [failsOf_afterFailure]
    split
    · exact le_rfl
    · exact Nat.le_succ _
  · exact Nat.le_succ _

/-- The two functions count the failure of a handshake once, unless both take it. -/
theorem failsOf_failedTable_le_iff (server : Server) (ip : String) (now : Rat) (exn : Exn) :
    failsOf (server.failedTable ip now exn) ip ≤ failsOf server.failedHandshakes ip + 1 ↔
      (exn.caughtBy [.usmpTimeoutError] = true → 1027 ≤ failsOf server.failedHandshakes ip) := by
  have both := taken_by_both exn
  rw [failedTable, handshakeExcept_eq]
  cases counts : countsAsFailure exn with
  | false =>
      rw [counts, Bool.false_and] at both
      rw [← both]
      exact iff_of_true (failsOf_connectExcept_le server ip now exn) nofun
  | true =>
      rw [counts, Bool.true_and] at both
      rw [if_pos rfl, ← both]
      by_cases few : failsOf server.failedHandshakes ip < 1028
      · rw [recordFailure_exn few, connectExcept_table, recordFailure_table]
        cases takenForTimeout exn with
        | false =>
            rw [if_neg Bool.false_ne_true, failsOf_afterFailure, if_pos few]
            exact iff_of_true le_rfl nofun
        | true =>
            rw [if_pos rfl, failsOf_afterFailure, failsOf_afterFailure, if_pos few]
            split <;> simp <;> omega
      · have full := Nat.not_lt.mp few
        rw [recordFailure_full full]
        exact iff_of_true (failsOf_connectExcept_le server ip now _)
          (fun _ => (Nat.le_succ 1027).trans full)

/-! ## The steps of one task -/

/-- The IP of the peer of a connection. -/
def peer (server : Server) (id : Nat) : String :=
  ((server.connections[id]?).map fun connection => connection.addr.1).getD ""

/-- The failures that a step records for the peer of a connection. -/
def gain (id : Nat) (before after : Server) : Nat :=
  failsOf after.failedHandshakes (before.peer id) - failsOf before.failedHandshakes (before.peer id)

/-- The failures that the steps of a connection task record for its peer in a run. -/
def gains (P : Primitives) (config : ServerConfig) (id : Nat) : Server → List ServerAction → Nat
  | _, [] => 0
  | server, action :: rest =>
      match server.step P config action with
      | some next =>
          (if action.task = some id then gain id server next else 0) + gains P config id next rest
      | none => 0

/-- The table after a step of the task of a connection. -/
def tableAfter (server : Server) (ip : String) : ServerAction → FailedHandshakes
  | .handshakeEnds _ .established _ => server.failedHandshakes.erase ip
  | .handshakeEnds _ (.failed exn) now => server.failedTable ip now exn
  | .handshakeEnds _ .timedOut now =>
      (server.connectExcept ip now ⟨.timeoutError, ""⟩).failedHandshakes
  | .handlerEnds _ (some exn) now => (server.connectExcept ip now exn).failedHandshakes
  | .handshakeEnds _ .lockedOut _ | .handlerEnds _ none _ | .start _ | .proceed _ | .cancel _
  | .datagram _ _ _ _ | .accept _ => server.failedHandshakes

theorem startTask_table (config : ServerConfig) (server : Server) (id : Nat)
    (connection : Connection) :
    (server.startTask config id connection).1.failedHandshakes = server.failedHandshakes := by
  unfold startTask
  dsimp only
  split
  · split
    · rfl
    split <;> rfl
  · rfl

theorem promote_table (config : ServerConfig) (server : Server) (id : Nat)
    (connection : Connection) :
    (server.promote config id connection).1.failedHandshakes = server.failedHandshakes := by
  unfold promote
  dsimp only
  split
  · exact leave_table _ _ _ _ _
  · rfl

theorem handshakeEnds_table (config : ServerConfig) (server : Server) (id : Nat)
    (connection : Connection) (now : Rat) (outcome : HandshakeOutcome) :
    (server.handshakeEnds config id connection now outcome).1.failedHandshakes =
      server.tableAfter connection.addr.1 (.handshakeEnds id outcome now) := by
  cases outcome with
  | established =>
      simp only [handshakeEnds, tableAfter]
      split
      · rfl
      · exact promote_table _ _ _ _
  | lockedOut => exact leave_table _ _ _ _ _
  | failed exn => exact leave_table _ _ _ _ _
  | timedOut => exact leave_table _ _ _ _ _

theorem cancelTask_table {server : Server} {id : Nat} {connection : Connection}
    {result : Server × List ServerEffect}
    (cancelled : server.cancelTask id connection = some result) :
    result.1.failedHandshakes = server.failedHandshakes := by
  unfold cancelTask at cancelled
  split at cancelled <;> cases cancelled
  · exact leave_table _ _ _ _ _
  · exact leave_table _ _ _ _ _
  · rfl
  · rfl

theorem table_of_step {before after : Server} {action : ServerAction} {id : Nat}
    (stepped : before.step P config action = some after) (isTask : action.task = some id) :
    after.failedHandshakes = before.tableAfter (before.peer id) action := by
  rcases Option.map_eq_some_iff.mp stepped with ⟨result, performed, rfl⟩
  cases action with
  | datagram data addr wall mono | accept addr => cases isTask
  | start other =>
      cases isTask
      simp only [perform] at performed
      split at performed <;> try cases performed
      split at performed <;> cases performed
      exact startTask_table _ _ _ _
  | handshakeEnds other outcome now =>
      cases isTask
      simp only [perform] at performed
      split at performed <;> try cases performed
      rename_i connection isAt
      split at performed <;> cases performed
      rw [handshakeEnds_table, peer, isAt]
      rfl
  | handlerEnds other raised now =>
      cases isTask
      simp only [perform] at performed
      split at performed <;> try cases performed
      rename_i connection isAt
      split at performed <;> cases performed
      rw [leave_table, peer, isAt]
      cases raised <;> rfl
  | proceed other =>
      cases isTask
      simp only [perform] at performed
      split at performed <;> try cases performed
      split at performed <;> cases performed <;> rfl
  | cancel other =>
      cases isTask
      simp only [perform] at performed
      split at performed <;> try cases performed
      exact cancelTask_table performed

/-! ## One failure at most -/

/-- The failures that a connection may still be charged with: one until its handshake ends. -/
def pending (id : Nat) (server : Server) : Nat :=
  match server.connections[id]? with
  | some connection =>
      if connection.stage = .created ∨ connection.stage = .handshaking then 1 else 0
  | none => 1

theorem pending_le_one (id : Nat) (server : Server) : pending id server ≤ 1 := by
  unfold pending
  split
  · split
    · exact le_rfl
    · exact Nat.zero_le 1
  · exact le_rfl

theorem pending_congr {before after : Server} (id : Nat)
    (connections : after.connections = before.connections) :
    pending id after = pending id before := by
  rw [pending, pending, connections]

theorem pending_setStage {before base : Server}
    (connections : base.connections = before.connections)
    {other : Nat} {stage : Stage}
    (onward : ∀ connection, before.connections[other]? = some connection →
      connection.stage = .created ∨ connection.stage = .handshaking ∨
        stage ≠ .created ∧ stage ≠ .handshaking) (id : Nat) :
    pending id (base.setStage other stage) ≤ pending id before := by
  rw [pending, pending]
  simp only [setStage, connections]
  by_cases same : id = other
  · subst same
    rw [List.getElem?_modify_eq]
    cases isAt : before.connections[id]? with
    | none => exact le_rfl
    | some connection =>
        simp only [Option.map_eq_map, Option.map_some]
        rcases onward connection isAt with created | handshaking | ⟨notCreated, notHandshaking⟩
        · rw [if_pos (.inl created : connection.stage = .created ∨ _)]
          split <;> decide
        · rw [if_pos (.inr handshaking : _ ∨ connection.stage = .handshaking)]
          split <;> decide
        · rw [if_neg (fun early => early.elim notCreated notHandshaking)]
          exact Nat.zero_le _
  · rw [List.getElem?_modify_ne _ _ (Ne.symm same)]

theorem pending_append {before after : Server} {connection : Connection}
    (connections : after.connections = before.connections ++ [connection]) (id : Nat) :
    pending id after ≤ pending id before := by
  cases isAt : before.connections[id]? with
  | none =>
      have whole : pending id before = 1 := by rw [pending, isAt]
      rw [whole]
      exact pending_le_one id after
  | some found =>
      rw [pending, pending, connections,
        List.getElem?_append_left (List.getElem?_eq_some_iff.mp isAt).1]

theorem leave_connections (server : Server) (id : Nat) (connection : Connection)
    (decremented watched : Bool) :
    (server.leave id connection decremented watched).1.connections =
      (server.setStage id (if watched then .unwatching else .closing)).connections := by
  unfold leave
  cases connection.isReliable <;> cases decremented <;> cases watched <;> rfl

theorem pending_change {before after : Server} {action : ServerAction}
    (change : Change P config before action after) (id : Nat) :
    pending id after ≤ pending id before := by
  cases change with
  | quiet same => exact (pending_congr id same.connections).le
  | accepted addr => exact pending_append rfl id
  | allocated data addr wall mono isHello free starts => exact pending_append rfl id
  | rejected other connection isAt created isReliable =>
      refine pending_setStage ?_ (fun _ _ => .inr (.inr (by decide))) id
      rfl
  | admitted other connection isAt created isReliable room ipRoom =>
      refine pending_setStage ?_ (fun found isFound => ?_) id
      · rfl
      · rw [isAt] at isFound
        cases isFound
        exact .inl created
  | started other connection isAt created unreliable =>
      refine pending_setStage ?_ (fun found isFound => ?_) id
      · rfl
      · rw [isAt] at isFound
        cases isFound
        exact .inl created
  | served same other connection isAt handshaking isReliable =>
      exact pending_setStage same.connections (fun _ _ => .inr (.inr (by decide))) id
  | promoted same other connection isAt handshaking unreliable room ipRoom =>
      refine pending_setStage ?_ (fun _ _ => .inr (.inr (by decide))) id
      exact same.connections
  | left same other connection watched isAt active =>
      rw [pending_congr id (leave_connections _ _ _ _ _)]
      refine pending_setStage same.connections (fun _ _ => .inr (.inr ?_)) id
      cases watched <;> decide
  | cleaned other connection stage isAt cleaning =>
      refine pending_setStage rfl (fun _ _ => .inr (.inr ?_)) id
      rcases cleaning with ⟨_, rfl⟩ | ⟨_, rfl⟩ <;> decide

/-- A handshake that fails uses up what its connection may be charged with. -/
theorem pending_failed {before after : Server} {action : ServerAction} {id : Nat}
    (stepped : before.step P config action = some after) (isTask : action.task = some id)
    (fails : action.failsHandshake = true) : pending id after = 0 ∧ pending id before = 1 := by
  rcases Option.map_eq_some_iff.mp stepped with ⟨result, performed, rfl⟩
  cases action with
  | datagram _ _ _ _ | accept _ | start _ | handlerEnds _ _ _ | proceed _ | cancel _ => cases fails
  | handshakeEnds other outcome now =>
      cases isTask
      simp only [perform] at performed
      split at performed <;> try cases performed
      rename_i connection isAt
      split at performed <;> cases performed
      rename_i handshaking
      have leaves : ∀ {base : Server}, SameTables before base →
          pending id (base.leave id connection false false).1 = 0 := by
        intro base same
        rw [pending, leave_connections]
        simp [setStage, same.connections, isAt]
      constructor
      · cases outcome with
        | established | lockedOut => cases fails
        | failed exn =>
            exact leaves
              ((sameTables_handshakeExcept _ _ _ _).trans (sameTables_connectExcept _ _ _ _))
        | timedOut => exact leaves (sameTables_connectExcept _ _ _ _)
      · rw [pending, isAt]
        simp [handshaking]

/-- Neither function counts again what was counted, nor the session handler's timeouts. -/
def CountsOnce (id : Nat) (server : Server) : ServerAction → Prop
  | .handshakeEnds other (.failed exn) _ =>
      other = id → exn.caughtBy [.usmpTimeoutError] = true →
        1027 ≤ failsOf server.failedHandshakes (server.peer id)
  | .handlerEnds other (some exn) _ =>
      other = id → takenForTimeout exn = true →
        1028 ≤ failsOf server.failedHandshakes (server.peer id)
  | .handshakeEnds _ .established _ | .handshakeEnds _ .lockedOut _
  | .handshakeEnds _ .timedOut _ | .handlerEnds _ none _ | .start _ | .proceed _ | .cancel _
  | .datagram _ _ _ _ | .accept _ => True

/-- A step of the task counts only a handshake that fails or times out, and only the end of
the handshake changes the table. -/
def ChargesHandshake (P : Primitives) (config : ServerConfig) (id : Nat) (before : Server)
    (action : ServerAction) : Prop :=
  action.task = some id → ∀ after, before.step P config action = some after →
    (0 < gain id before after → action.failsHandshake = true) ∧
      ((∀ outcome now, action ≠ .handshakeEnds id outcome now) →
        after.failedHandshakes = before.failedHandshakes)

theorem gain_eq_zero {id : Nat} {before after : Server}
    (same : after.failedHandshakes = before.failedHandshakes) : gain id before after = 0 := by
  rw [gain, same, Nat.sub_self]

theorem failsOf_erase (table : FailedHandshakes) (key : String) :
    failsOf (table.erase key) key = 0 := by
  rw [failsOf, Dict.get?_erase, if_pos rfl]
  rfl

/-- What the condition on a step gives. -/
theorem charges_of_countsOnce {before after : Server} {action : ServerAction} {id : Nat}
    (stepped : before.step P config action = some after) (isTask : action.task = some id)
    (once : CountsOnce id before action) :
    gain id before after + pending id after ≤ pending id before ∧
      ChargesHandshake P config id before action := by
  have table := table_of_step stepped isTask
  have onward := pending_change (change_of_step stepped) id
  have alone : ∀ property : Server → Prop, property after →
      ∀ other, before.step P config action = some other → property other := by
    intro property holds other again
    rw [stepped] at again
    cases again
    exact holds
  -- a step that leaves the table alone
  have quiet : after.failedHandshakes = before.failedHandshakes →
      gain id before after + pending id after ≤ pending id before ∧
        ChargesHandshake P config id before action := by
    intro same
    have nothing : gain id before after = 0 := gain_eq_zero same
    rw [nothing, Nat.zero_add]
    refine ⟨onward, fun _ => alone _ ⟨fun some => ?_, fun _ => same⟩⟩
    rw [nothing] at some
    cases some
  -- the end of a handshake that fails
  have fails : action.failsHandshake = true →
      (∃ outcome now, action = .handshakeEnds id outcome now) →
      failsOf after.failedHandshakes (before.peer id) ≤
        failsOf before.failedHandshakes (before.peer id) + 1 →
      gain id before after + pending id after ≤ pending id before ∧
        ChargesHandshake P config id before action := by
    intro isFailure isEnd bound
    rcases pending_failed stepped isTask isFailure with ⟨spent, whole⟩
    have small : gain id before after ≤ 1 := Nat.sub_le_iff_le_add'.mpr bound
    rw [spent, whole]
    refine ⟨small, fun _ => alone _ ⟨fun _ => isFailure, fun notEnd => ?_⟩⟩
    rcases isEnd with ⟨outcome, now, isEnd⟩
    exact absurd isEnd (notEnd outcome now)
  cases action with
  | datagram _ _ _ _ | accept _ | start _ | proceed _ | cancel _ => exact quiet table
  | handlerEnds other raised now =>
      cases isTask
      cases raised with
      | none => exact quiet table
      | some exn =>
          apply quiet
          rw [table, tableAfter, connectExcept_table]
          cases taken : takenForTimeout exn with
          | false => rfl
          | true => exact afterFailure_full (once rfl taken) now
  | handshakeEnds other outcome now =>
      cases isTask
      cases outcome with
      | lockedOut => exact quiet table
      | established =>
          have nothing : gain id before after = 0 := by
            rw [gain, table, tableAfter, failsOf_erase, Nat.zero_sub]
          rw [nothing, Nat.zero_add]
          refine ⟨onward, fun _ => alone _ ⟨fun some => ?_, fun notEnd => ?_⟩⟩
          · rw [nothing] at some
            cases some
          · exact absurd rfl (notEnd .established now)
      | failed exn =>
          apply fails rfl ⟨_, _, rfl⟩
          rw [table]
          exact (failsOf_failedTable_le_iff before _ now exn).mpr (once rfl)
      | timedOut =>
          apply fails rfl ⟨_, _, rfl⟩
          rw [table]
          exact failsOf_connectExcept_le before _ now _

/-- A step that breaks the condition counts twice, or counts the session handler. -/
theorem countsOnce_of_charges {before after : Server} {action : ServerAction} {id : Nat}
    (stepped : before.step P config action = some after)
    (small : action.task = some id → gain id before after ≤ 1)
    (charges : ChargesHandshake P config id before action) : CountsOnce id before action := by
  cases action with
  | datagram _ _ _ _ | accept _ | start _ | proceed _ | cancel _ => trivial
  | handlerEnds other raised now =>
      cases raised with
      | none => trivial
      | some exn =>
          intro isTask taken
          subst isTask
          have same := (charges rfl after stepped).2 nofun
          have table := table_of_step stepped rfl
          rw [same, tableAfter, connectExcept_table, taken, if_pos rfl] at table
          by_contra few
          exact afterFailure_ne (Nat.not_le.mp few) now table.symm
  | handshakeEnds other outcome now =>
      cases outcome with
      | established | lockedOut | timedOut => trivial
      | failed exn =>
          intro isTask
          subst isTask
          have table := table_of_step stepped rfl
          have small : failsOf after.failedHandshakes (before.peer other) ≤ _ :=
            Nat.sub_le_iff_le_add'.mp (small rfl)
          rw [table] at small
          exact (failsOf_failedTable_le_iff before _ now exn).mp small

theorem gains_cons {server next : Server} {action : ServerAction}
    (stepped : server.step P config action = some next) (id : Nat) (rest : List ServerAction) :
    gains P config id server (action :: rest) =
      (if action.task = some id then gain id server next else 0) +
        gains P config id next rest := by
  rw [gains, stepped]

theorem chargesHandshake_other {id : Nat} {action : ServerAction}
    (foreign : action.task ≠ some id) (before : Server) :
    ChargesHandshake P config id before action := fun isTask => absurd isTask foreign

/-- A run whose steps all meet the condition. -/
theorem gains_le_pending {server final : Server} {actions : List ServerAction} {id : Nat}
    (once : Machine.Along (step P config) (CountsOnce id) server actions)
    (reached : Machine.run (step P config) server actions = some final) :
    gains P config id server actions ≤ pending id server ∧
      Machine.Along (step P config) (ChargesHandshake P config id) server actions := by
  induction actions generalizing server with
  | nil => exact ⟨Nat.zero_le _, trivial⟩
  | cons action rest ih =>
      rcases Machine.run_cons_some.mp reached with ⟨next, stepped, reached⟩
      rcases ih (once.2 next stepped) reached with ⟨bound, charges⟩
      have later : ∀ other, server.step P config action = some other →
          Machine.Along (step P config) (ChargesHandshake P config id) other rest := by
        intro other again
        rw [stepped] at again
        cases again
        exact charges
      rw [gains_cons stepped]
      by_cases isTask : action.task = some id
      · rcases charges_of_countsOnce stepped isTask once.1 with ⟨here, charged⟩
        rw [if_pos isTask]
        exact ⟨(Nat.add_le_add_left bound _).trans here, charged, later⟩
      · rw [if_neg isTask, Nat.zero_add]
        exact ⟨bound.trans (pending_change (change_of_step stepped) id),
          chargesHandshake_other isTask server, later⟩

/-- A run that counts once meets the condition in every step. -/
theorem along_countsOnce {server final : Server} {actions : List ServerAction} {id : Nat}
    (bound : gains P config id server actions ≤ 1)
    (charges : Machine.Along (step P config) (ChargesHandshake P config id) server actions)
    (reached : Machine.run (step P config) server actions = some final) :
    Machine.Along (step P config) (CountsOnce id) server actions := by
  induction actions generalizing server with
  | nil => trivial
  | cons action rest ih =>
      rcases Machine.run_cons_some.mp reached with ⟨next, stepped, reached⟩
      rw [gains_cons stepped] at bound
      have small : action.task = some id → gain id server next ≤ 1 := by
        intro isTask
        rw [if_pos isTask] at bound
        exact (Nat.le_add_right _ _).trans bound
      have restBound : gains P config id next rest ≤ 1 := (Nat.le_add_left _ _).trans bound
      refine ⟨countsOnce_of_charges stepped small charges.1, fun other again => ?_⟩
      rw [stepped] at again
      cases again
      exact ih restBound (charges.2 next stepped) reached

/-- A connection is charged with one failure at most, and only for its handshake, exactly
when no handshake raises a `USMPTimeoutError` and no session handler a timeout, as long as
these can still be counted. -/
theorem charged_once_iff (P : Primitives) (config : ServerConfig) (id : Nat)
    {server final : Server} {actions : List ServerAction}
    (reached : Machine.run (step P config) server actions = some final) :
    gains P config id server actions ≤ 1 ∧
        Machine.Along (step P config) (ChargesHandshake P config id) server actions ↔
      Machine.Along (step P config) (CountsOnce id) server actions := by
  constructor
  · intro charged
    exact along_countsOnce charged.1 charged.2 reached
  · intro once
    rcases gains_le_pending once reached with ⟨bound, charges⟩
    exact ⟨bound.trans (pending_le_one id server), charges⟩

instance (id : Nat) (server : Server) : (action : ServerAction) →
    Decidable (CountsOnce id server action)
  | .handshakeEnds other (.failed exn) _ =>
      inferInstanceAs (Decidable (other = id → exn.caughtBy [.usmpTimeoutError] = true →
        1027 ≤ failsOf server.failedHandshakes (server.peer id)))
  | .handlerEnds other (some exn) _ =>
      inferInstanceAs (Decidable (other = id → takenForTimeout exn = true →
        1028 ≤ failsOf server.failedHandshakes (server.peer id)))
  | .handshakeEnds _ .established _ | .handshakeEnds _ .lockedOut _
  | .handshakeEnds _ .timedOut _ | .handlerEnds _ none _ | .start _ | .proceed _ | .cancel _
  | .datagram _ _ _ _ | .accept _ => inferInstanceAs (Decidable True)

/-- A TCP connection whose handshake fails, and one that serves a session. -/
def sampleConnections (raised : Exn) : List ServerAction :=
  [.accept ("10.0.0.1", 1), .start 0, .handshakeEnds 0 (.failed ⟨.authError, ""⟩) 1,
    .accept ("10.0.0.2", 1), .start 1, .handshakeEnds 1 .established 2,
    .handlerEnds 1 (some raised) 3]

theorem charged_once_iff_sampleConnections :
    ∃ final, Machine.run (step samplePrimitives tightConfig) (.new {})
        (sampleConnections ⟨.connectionClosedError, ""⟩) = some final ∧
      failsOf final.failedHandshakes "10.0.0.1" = 1 ∧
      (gains samplePrimitives tightConfig 1 (.new {})
          (sampleConnections ⟨.connectionClosedError, ""⟩) ≤ 1 ∧
        Machine.Along (step samplePrimitives tightConfig)
          (ChargesHandshake samplePrimitives tightConfig 1) (.new {})
          (sampleConnections ⟨.connectionClosedError, ""⟩)) := by
  rcases Machine.exists_run (step samplePrimitives tightConfig) (.new {})
    (sampleConnections ⟨.connectionClosedError, ""⟩)
    (fun final => failsOf final.failedHandshakes "10.0.0.1" = 1) (by decide +kernel) with
    ⟨final, reached, fails⟩
  exact ⟨final, reached, fails,
    (charged_once_iff samplePrimitives tightConfig 1 reached).mpr (by decide +kernel)⟩

/-- A session that is idle for as long as its handler waits counts as a failed handshake. -/
theorem charged_for_idle_session :
    ∃ final, Machine.run (step samplePrimitives tightConfig) (.new {})
        (sampleConnections ⟨.usmpTimeoutError, "Receive timed out"⟩) = some final ∧
      failsOf final.failedHandshakes "10.0.0.2" = 1 ∧
      ¬ (gains samplePrimitives tightConfig 1 (.new {})
          (sampleConnections ⟨.usmpTimeoutError, "Receive timed out"⟩) ≤ 1 ∧
        Machine.Along (step samplePrimitives tightConfig)
          (ChargesHandshake samplePrimitives tightConfig 1) (.new {})
          (sampleConnections ⟨.usmpTimeoutError, "Receive timed out"⟩)) := by
  rcases Machine.exists_run (step samplePrimitives tightConfig) (.new {})
    (sampleConnections ⟨.usmpTimeoutError, "Receive timed out"⟩)
    (fun final => failsOf final.failedHandshakes "10.0.0.2" = 1) (by decide +kernel) with
    ⟨final, reached, fails⟩
  refine ⟨final, reached, fails, fun charged => ?_⟩
  have once := along_countsOnce charged.1 charged.2 reached
  revert once
  decide +kernel

end Server

end Usmp
