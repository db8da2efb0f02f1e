import Usmp.Lib.Lockout
import Usmp.Server.Blame
import Usmp.Server.Displacement
import Usmp.Server.Reconnect

/-!
# Guessing a PSK

The server with its clock and its `_handshake_semaphore`.  A task that gets a place meets the
check for a lockout; a peer whose HMAC is wrong is charged while the task still has its place.
To one address, the server is a gate with ten places that locks for a minute from the eleventh
failure on.
-/

namespace Usmp

/-- The server, its clock and the holders of its semaphore. -/
structure GuardedServer where
  server : Server
  /-- `time.monotonic()`. -/
  now : Rat
  /-- The tasks in `server_handshake`, past the check for a lockout. -/
  inside : List Nat := []
  /-- The peers whose HMAC was wrong, and when; the latest first. -/
  guesses : List (String × Rat) := []

inductive GuardedAction where
  | tick (now : Rat)
  /-- `async with self._handshake_semaphore`, up to the first await of `server_handshake`. -/
  | enter (id : Nat)
  | server (action : ServerAction)

/-- What a step reads from `time.monotonic`. -/
def ServerAction.mono? : ServerAction → Option Rat
  | .datagram _ _ _ mono => some mono
  | .handshakeEnds _ _ now | .handlerEnds _ _ now => some now
  | .accept _ | .start _ | .proceed _ | .cancel _ => none

namespace GuardedServer

/-- A handshake returns or raises inside the semaphore, and is locked out where it enters; its
timeout and its cancellation come at any time. -/
def permits (guarded : GuardedServer) : ServerAction → Bool
  | .handshakeEnds id .established _ | .handshakeEnds id (.failed _) _ => id ∈ guarded.inside
  | .handshakeEnds _ .lockedOut _ => false
  | .handshakeEnds _ .timedOut _ | .handlerEnds _ _ _ | .start _ | .proceed _ | .cancel _
  | .datagram _ _ _ _ | .accept _ => true

/-- The peer whose HMAC a step found to be wrong. -/
def guesser (server : Server) : ServerAction → Option String
  | .handshakeEnds id (.failed exn) _ =>
      if exn.caughtBy [.authError] then some (server.peer id) else none
  | .handshakeEnds _ .established _ | .handshakeEnds _ .lockedOut _
  | .handshakeEnds _ .timedOut _ | .handlerEnds _ _ _ | .start _ | .proceed _ | .cancel _
  | .datagram _ _ _ _ | .accept _ => none

/-- The holders after a step: a task in `server_handshake` has no step but its end. -/
def holders (inside : List Nat) (action : ServerAction) : List Nat :=
  inside.filter fun id => action.task ≠ some id

/-- After a step of the server. -/
def advance (guarded : GuardedServer) (action : ServerAction) (server : Server) :
    GuardedServer :=
  { guarded with
    server
    inside := holders guarded.inside action
    guesses :=
      ((guesser guarded.server action).map fun ip => (ip, guarded.now)).toList ++
        guarded.guesses }

def step (P : Primitives) (config : ServerConfig) (guarded : GuardedServer) :
    GuardedAction → Option GuardedServer
  | .tick now => if guarded.now ≤ now then some { guarded with now } else none
  | .enter id =>
      match guarded.server.connections[id]? with
      | some connection =>
          if connection.stage = .handshaking ∧ id ∉ guarded.inside ∧
              guarded.inside.length < 10 then
            if isLockedOut guarded.server.failedHandshakes connection.addr.1 guarded.now then
              (guarded.server.step P config (.handshakeEnds id .lockedOut guarded.now)).map
                (guarded.advance (.handshakeEnds id .lockedOut guarded.now))
            else
              some { guarded with inside := id :: guarded.inside }
          else
            none
      | none => none
  | .server action =>
      if action.mono?.all (· = guarded.now) && guarded.permits action then
        (guarded.server.step P config action).map (guarded.advance action)
      else
        none

/-- The entry of an address is not taken away: no handshake of it succeeds, and no failure of
another address prunes or evicts it. -/
def KeepsCount (P : Primitives) (config : ServerConfig) (ip : String) (guarded : GuardedServer)
    (action : GuardedAction) : Prop :=
  guarded.server.failedHandshakes.get? ip ≠ none →
    ∀ next, guarded.step P config action = some next →
      next.server.failedHandshakes.get? ip ≠ none

/-- How often the HMAC of an address was wrong since a time. -/
def wrongSince (guarded : GuardedServer) (ip : String) (since : Rat) : Nat :=
  guarded.guesses.countP fun guess => guess.1 = ip ∧ since ≤ guess.2

/-- Ten handshakes at a time, and a minute from the eleventh failure on. -/
def policy : Lockout.Policy Rat where
  threshold := 11
  width := 10
  pause := 60
  positive := by decide

/-- The gate that an address finds, by its entry. -/
def gateOf (now : Rat) (inside : Nat) (entry : Option FailedEntry) (guesses : List Rat) :
    Lockout.Gate Rat where
  now := now
  inside := inside
  failures := (entry.map FailedEntry.fails).getD 0
  lockedUntil := (entry.map FailedEntry.lockoutUntil).getD 0
  guesses := guesses

/-- How many of the holders serve an address. -/
def seats (server : Server) (ip : String) (inside : List Nat) : Nat :=
  inside.countP fun id => server.peer id = ip

def guessesOf (guarded : GuardedServer) (ip : String) : List Rat :=
  (guarded.guesses.filter fun guess => guess.1 = ip).map Prod.snd

def gate (guarded : GuardedServer) (ip : String) : Lockout.Gate Rat :=
  gateOf guarded.now (seats guarded.server ip guarded.inside)
    (guarded.server.failedHandshakes.get? ip) (guarded.guessesOf ip)

end GuardedServer

/-! ## The entry of an address -/

/-- The entry after a number of failures at one time. -/
def ownFailures (entry : Option FailedEntry) (now : Rat) : Nat → Option FailedEntry
  | 0 => entry
  | count + 1 => ownFailure (ownFailures entry now count) now

def afterFailures (table : FailedHandshakes) (key : String) (now : Rat) : Nat → FailedHandshakes
  | 0 => table
  | count + 1 => afterFailure (afterFailures table key now count) key now

theorem get?_afterFailures_self (table : FailedHandshakes) (key : String) (now : Rat)
    (count : Nat) :
    (afterFailures table key now count).get? key = ownFailures (table.get? key) now count := by
  induction count with
  | zero => rfl
  | succ count ih => rw [afterFailures, get?_afterFailure_self, ih, ownFailures]

theorem get?_afterFailures_other {key other : String} (distinct : key ≠ other)
    (table : FailedHandshakes) (now : Rat) (count : Nat) :
    (afterFailures table other now count).get? key = table.get? key ∨
      (afterFailures table other now count).get? key = none := by
  induction count with
  | zero => exact .inl rfl
  | succ count ih =>
      rw [afterFailures]
      rcases get?_afterFailure_other_cases distinct (afterFailures table other now count) now with
        same | gone
      · rw [same]
        exact ih
      · exact .inr gone

/-- The failures of an entry. -/
def countOf (entry : Option FailedEntry) : Nat := (entry.map FailedEntry.fails).getD 0

theorem countOf_ownFailure_le (entry : Option FailedEntry) (now : Rat) :
    countOf entry ≤ countOf (ownFailure entry now) := by
  rw [ownFailure]
  split
  · exact Nat.le_succ _
  · exact le_rfl

theorem countOf_ownFailures_le (entry : Option FailedEntry) (now : Rat) (count : Nat) :
    countOf entry ≤ countOf (ownFailures entry now count) := by
  induction count with
  | zero => exact le_rfl
  | succ count ih => exact ih.trans (countOf_ownFailure_le _ now)

theorem backoffUntil_of_ge {fails : Nat} (many : 11 ≤ fails) (now : Rat) :
    backoffUntil fails now = now + 60 := by
  have long : (60 : Rat) ≤ 2 ^ (fails - 5) := by
    calc (60 : Rat) ≤ 2 ^ 6 := by norm_num
      _ ≤ 2 ^ (fails - 5) := pow_le_pow_right₀ (by norm_num) (by omega)
  rw [backoffUntil, if_neg (by omega), min_eq_left long]

theorem ownFailure_of_lt {entry : Option FailedEntry} (few : countOf entry < 1028) (now : Rat) :
    ownFailure entry now =
      some ⟨countOf entry + 1, backoffUntil (countOf entry + 1) now, now⟩ := if_pos few

namespace Server

variable {P : Primitives} {config : ServerConfig}

/-- What a step does to the table: a success takes an entry away, or failures of one address
are recorded. -/
inductive TableStep (ip : String) (now : Rat) (table : FailedHandshakes) :
    FailedHandshakes → Prop where
  | erased : TableStep ip now table (table.erase ip)
  | charged (count : Nat) : TableStep ip now table (afterFailures table ip now count)

theorem table_connectExcept (server : Server) (ip : String) (now : Rat) (exn : Exn) :
    ∃ count, (server.connectExcept ip now exn).failedHandshakes =
      afterFailures server.failedHandshakes ip now count := by
  rw [connectExcept_table]
  split
  · exact ⟨1, rfl⟩
  · exact ⟨0, rfl⟩

theorem table_handshakeExcept (server : Server) (ip : String) (now : Rat) (exn : Exn) :
    ∃ count, (server.handshakeExcept ip now exn).1.failedHandshakes =
      afterFailures server.failedHandshakes ip now count := by
  rw [handshakeExcept_eq]
  split
  · rw [recordFailure_table]
    exact ⟨1, rfl⟩
  · exact ⟨0, rfl⟩

theorem afterFailures_add (table : FailedHandshakes) (key : String) (now : Rat)
    (first second : Nat) :
    afterFailures (afterFailures table key now first) key now second =
      afterFailures table key now (first + second) := by
  induction second with
  | zero => rfl
  | succ second ih => rw [afterFailures, ih, Nat.add_succ, afterFailures]

theorem table_failed (server : Server) (ip : String) (now : Rat) (exn : Exn) :
    ∃ count, server.failedTable ip now exn =
      afterFailures server.failedHandshakes ip now count := by
  rcases table_handshakeExcept server ip now exn with ⟨first, isFirst⟩
  rcases table_connectExcept (server.handshakeExcept ip now exn).1 ip now
    (server.handshakeExcept ip now exn).2 with ⟨second, isSecond⟩
  refine ⟨first + second, ?_⟩
  rw [failedTable, isSecond, isFirst, afterFailures_add]

/-- A wrong HMAC is charged once. -/
theorem table_authError (server : Server) (ip : String) (now : Rat) {exn : Exn}
    (wrong : exn.caughtBy [.authError] = true) :
    server.failedTable ip now exn = afterFailure server.failedHandshakes ip now := by
  have counts : countsAsFailure exn = true ∧ takenForTimeout exn = false := by
    rcases exn with ⟨cls, message⟩
    cases cls <;> first | exact ⟨rfl, rfl⟩ | cases wrong
  rw [failedTable, handshakeExcept_eq, if_pos counts.1]
  by_cases few : failsOf server.failedHandshakes ip < 1028
  · rw [recordFailure_exn few, connectExcept_table, counts.2, if_neg Bool.false_ne_true,
      recordFailure_table]
  · have full := Nat.not_lt.mp few
    rw [recordFailure_full full, afterFailure_full full]
    rfl

/-- What a step leaves of the entry of an address that it does not take away. -/
theorem TableStep.entry {ip key : String} {now : Rat} {table next : FailedHandshakes}
    (stepped : TableStep ip now table next)
    (keeps : table.get? key ≠ none → next.get? key ≠ none) :
    ∃ count, next.get? key = ownFailures (table.get? key) now count := by
  have undisturbed : next.get? key = table.get? key ∨ next.get? key = none →
      next.get? key = ownFailures (table.get? key) now 0 := by
    intro cases
    rcases cases with same | gone
    · exact same
    · by_contra differs
      exact keeps (fun isNew => differs (gone.trans isNew.symm)) gone
  cases stepped with
  | erased =>
      refine ⟨0, undisturbed ?_⟩
      rw [Dict.get?_erase]
      by_cases same : key = ip
      · exact .inr (if_pos same)
      · exact .inl (if_neg same)
  | charged count =>
      by_cases same : key = ip
      · subst same
        exact ⟨count, get?_afterFailures_self table key now count⟩
      · exact ⟨0, undisturbed (get?_afterFailures_other same table now count)⟩

theorem tableStep_of_step {before after : Server} {action : ServerAction} {now : Rat}
    (stepped : before.step P config action = some after)
    (timed : action.mono?.all (· = now) = true) :
    ∃ ip, TableStep ip now before.failedHandshakes after.failedHandshakes := by
  cases isTask : action.task with
  | none =>
      have same : after.failedHandshakes = before.failedHandshakes := by
        rcases Option.map_eq_some_iff.mp stepped with ⟨result, performed, rfl⟩
        cases action with
        | datagram data addr wall mono =>
            cases performed
            exact failedHandshakes_datagram P config before data addr wall mono
        | accept addr =>
            cases performed
            rfl
        | start _ | handshakeEnds _ _ _ | handlerEnds _ _ _ | proceed _ | cancel _ => cases isTask
      rw [same]
      exact ⟨"", .charged 0⟩
  | some id =>
      refine ⟨before.peer id, ?_⟩
      rw [table_of_step stepped isTask]
      cases action with
      | handshakeEnds other outcome time =>
          have isNow : time = now := by simpa [ServerAction.mono?] using timed
          subst isNow
          cases outcome with
          | established => exact .erased
          | lockedOut => exact .charged 0
          | failed exn =>
              rcases table_failed before (before.peer id) time exn with ⟨count, isCount⟩
              rw [tableAfter, isCount]
              exact .charged count
          | timedOut =>
              rcases table_connectExcept before (before.peer id) time ⟨.timeoutError, ""⟩ with
                ⟨count, isCount⟩
              rw [tableAfter, isCount]
              exact .charged count
      | handlerEnds other raised time =>
          have isNow : time = now := by simpa [ServerAction.mono?] using timed
          subst isNow
          cases raised with
          | none => exact .charged 0
          | some exn =>
              rcases table_connectExcept before (before.peer id) time exn with ⟨count, isCount⟩
              rw [tableAfter, isCount]
              exact .charged count
      | datagram _ _ _ _ | accept _ | start _ | proceed _ | cancel _ => exact .charged 0

/-! ## The peers of the connections -/

/-- No connection changes its peer. -/
def KeepsPeers (before after : Server) : Prop :=
  ∀ id < before.connections.length,
    id < after.connections.length ∧ after.peer id = before.peer id

theorem KeepsPeers.congr {before middle after : Server} (keeps : KeepsPeers before middle)
    (connections : after.connections = middle.connections) : KeepsPeers before after := by
  intro id inside
  rcases keeps id inside with ⟨bound, same⟩
  constructor
  · rwa [connections]
  · rw [← same, peer, peer, connections]

theorem keepsPeers_refl (server : Server) : KeepsPeers server server :=
  fun _ inside => ⟨inside, rfl⟩

theorem keepsPeers_append {before after : Server} {connection : Connection}
    (connections : after.connections = before.connections ++ [connection]) :
    KeepsPeers before after := by
  intro id inside
  rw [peer, peer, connections, List.getElem?_append_left inside, List.length_append]
  exact ⟨Nat.lt_add_right _ inside, rfl⟩

theorem keepsPeers_setStage {before base : Server}
    (connections : base.connections = before.connections) (other : Nat) (stage : Stage) :
    KeepsPeers before (base.setStage other stage) := by
  intro id inside
  rw [peer, peer]
  simp only [setStage, connections, List.length_modify]
  refine ⟨inside, ?_⟩
  by_cases same : other = id
  · subst same
    rw [List.getElem?_modify_eq]
    cases before.connections[other]? <;> rfl
  · rw [List.getElem?_modify_ne _ _ same]

theorem keepsPeers_step {before after : Server} {action : ServerAction}
    (stepped : before.step P config action = some after) : KeepsPeers before after := by
  cases change_of_step stepped with
  | quiet same => exact (keepsPeers_refl before).congr same.connections
  | accepted addr => exact keepsPeers_append rfl
  | allocated data addr wall mono isHello free starts => exact keepsPeers_append rfl
  | rejected id connection isAt created isReliable =>
      apply keepsPeers_setStage
      rfl
  | admitted id connection isAt created isReliable room ipRoom =>
      apply keepsPeers_setStage
      rfl
  | started id connection isAt created unreliable =>
      apply keepsPeers_setStage
      rfl
  | served same id connection isAt handshaking isReliable =>
      exact keepsPeers_setStage same.connections id _
  | promoted same id connection isAt handshaking unreliable room ipRoom =>
      apply keepsPeers_setStage
      exact same.connections
  | left same id connection watched isAt active =>
      exact (keepsPeers_setStage same.connections id _).congr (leave_connections _ _ _ _ _)
  | cleaned id connection stage isAt cleaning =>
      apply keepsPeers_setStage
      rfl

end Server

namespace GuardedServer

variable {P : Primitives} {config : ServerConfig} {guarded next : GuardedServer} {ip : String}

/-- A wrong HMAC is one failure of its address. -/
theorem entry_of_guess {before after : Server} {action : ServerAction} {now : Rat}
    (stepped : before.step P config action = some after)
    (timed : action.mono?.all (· = now) = true) (wrong : guesser before action = some ip) :
    after.failedHandshakes.get? ip = ownFailure (before.failedHandshakes.get? ip) now ∧
      ∃ id exn, action = .handshakeEnds id (.failed exn) now ∧ before.peer id = ip := by
  cases action with
  | datagram _ _ _ _ | accept _ | start _ | handlerEnds _ _ _ | proceed _ | cancel _ => cases wrong
  | handshakeEnds id outcome time =>
      cases outcome with
      | established | lockedOut | timedOut => cases wrong
      | failed exn =>
          have isNow : time = now := by simpa [ServerAction.mono?] using timed
          subst isNow
          rw [guesser] at wrong
          split at wrong <;> cases wrong
          rename_i isAuth
          refine ⟨?_, id, exn, rfl, rfl⟩
          rw [Server.table_of_step stepped rfl, Server.tableAfter,
            Server.table_authError _ _ _ isAuth, get?_afterFailure_self]

/-! ## The gate of an address -/

theorem fail_move {entry : Option FailedEntry} (few : countOf entry < 1028) (now : Rat)
    (inside : Nat) (guesses : List Rat) :
    Lockout.Move policy (gateOf now inside entry guesses)
      (gateOf now inside (ownFailure entry now) guesses) := by
  rw [ownFailure_of_lt few]
  exact .fail fun enough => backoffUntil_of_ge enough now

theorem guess_move {entry : Option FailedEntry} (few : countOf entry < 1028) (now : Rat)
    {inside fewer : Nat} (one : fewer < inside) (guesses : List Rat) :
    Lockout.Move policy (gateOf now inside entry guesses)
      (gateOf now fewer (ownFailure entry now) (now :: guesses)) := by
  rw [ownFailure_of_lt few]
  exact .guess one fun enough => backoffUntil_of_ge enough now

theorem fail_moves {entry : Option FailedEntry} {now : Rat} {count : Nat}
    (few : countOf (ownFailures entry now count) < 1028) (inside : Nat) (guesses : List Rat) :
    Relation.ReflTransGen (Lockout.Move policy) (gateOf now inside entry guesses)
      (gateOf now inside (ownFailures entry now count) guesses) := by
  induction count with
  | zero => exact .refl
  | succ count ih =>
      have fewer : countOf (ownFailures entry now count) < 1028 :=
        (countOf_ownFailure_le _ now).trans_lt few
      exact (ih fewer).tail (fail_move fewer now inside guesses)

/-- Every holder has a connection. -/
def Seated (guarded : GuardedServer) : Prop :=
  ∀ id ∈ guarded.inside, id < guarded.server.connections.length

theorem seats_keepsPeers {before after : Server} (keeps : before.KeepsPeers after)
    {inside : List Nat} (seated : ∀ id ∈ inside, id < before.connections.length) :
    seats after ip inside = seats before ip inside := by
  apply List.countP_congr
  intro id member
  rw [(keeps id (seated id member)).2]

theorem seats_holders_le (server : Server) (ip : String) (inside : List Nat)
    (action : ServerAction) :
    seats server ip (holders inside action) ≤ seats server ip inside :=
  List.Sublist.countP_le List.filter_sublist

/-- The task that ends leaves a place. -/
theorem seats_holders_lt {server : Server} {inside : List Nat} {action : ServerAction} {id : Nat}
    (isTask : action.task = some id) (member : id ∈ inside) (isPeer : server.peer id = ip) :
    seats server ip (holders inside action) < seats server ip inside := by
  rw [seats, seats,
    List.countP_eq_countP_filter_add inside _ fun other => action.task ≠ some other]
  apply Nat.lt_add_of_pos_right
  rw [List.countP_pos_iff]
  exact ⟨id, List.mem_filter.mpr ⟨member, by simp [isTask]⟩, by simp [isPeer]⟩

theorem guessesOf_advance_self {action : ServerAction} {server : Server}
    (wrong : guesser guarded.server action = some ip) :
    (guarded.advance action server).guessesOf ip = guarded.now :: guarded.guessesOf ip := by
  simp [guessesOf, advance, wrong]

theorem guessesOf_advance_other {action : ServerAction} {server : Server}
    (other : guesser guarded.server action ≠ some ip) :
    (guarded.advance action server).guessesOf ip = guarded.guessesOf ip := by
  cases found : guesser guarded.server action with
  | none => simp [guessesOf, advance, found]
  | some peer =>
      have differs : peer ≠ ip := by
        rintro rfl
        exact other found
      simp [guessesOf, advance, found, differs]

/-- What a step of the server is to the gate of an address. -/
theorem moves_of_server {action : ServerAction} {server : Server} (seated : guarded.Seated)
    (stepped : guarded.server.step P config action = some server)
    (timed : action.mono?.all (· = guarded.now) = true)
    (holds : ∀ id exn, action = .handshakeEnds id (.failed exn) guarded.now →
      id ∈ guarded.inside)
    (keeps : guarded.server.failedHandshakes.get? ip ≠ none →
      server.failedHandshakes.get? ip ≠ none) :
    countOf (guarded.server.failedHandshakes.get? ip) ≤
        countOf (server.failedHandshakes.get? ip) ∧
      (countOf (server.failedHandshakes.get? ip) < 1028 →
        Relation.ReflTransGen (Lockout.Move policy) (guarded.gate ip)
          ((guarded.advance action server).gate ip)) := by
  have peers : guarded.server.KeepsPeers server := Server.keepsPeers_step stepped
  have held : seats server ip (holders guarded.inside action) =
      seats guarded.server ip (holders guarded.inside action) :=
    seats_keepsPeers peers fun id member => seated id (List.mem_filter.mp member).1
  rcases Server.tableStep_of_step stepped timed with ⟨charged, table⟩
  rcases table.entry keeps with ⟨count, entry⟩
  have counted : countOf (guarded.server.failedHandshakes.get? ip) ≤
      countOf (server.failedHandshakes.get? ip) := by
    rw [entry]
    exact countOf_ownFailures_le _ _ _
  refine ⟨counted, fun few => ?_⟩
  have before : countOf (guarded.server.failedHandshakes.get? ip) < 1028 := counted.trans_lt few
  by_cases wrong : guesser guarded.server action = some ip
  · rcases entry_of_guess stepped timed wrong with ⟨once, id, exn, isEnd, isPeer⟩
    have isTask : action.task = some id := by rw [isEnd]; rfl
    have one := seats_holders_lt isTask (holds id exn isEnd) isPeer
    rw [gate, gate, guessesOf_advance_self wrong]
    apply Relation.ReflTransGen.single
    simp only [advance, held, once]
    exact guess_move before guarded.now one _
  · have left : Lockout.Move policy (guarded.gate ip)
        (gateOf guarded.now (seats guarded.server ip (holders guarded.inside action))
          (guarded.server.failedHandshakes.get? ip) (guarded.guessesOf ip)) :=
      .leave (seats_holders_le guarded.server ip guarded.inside action)
    apply (Relation.ReflTransGen.single left).trans
    rw [gate, guessesOf_advance_other wrong]
    simp only [advance, held, entry]
    rw [entry] at few
    exact fail_moves few _ _

theorem seated_advance {action : ServerAction} {server : Server} (seated : guarded.Seated)
    (stepped : guarded.server.step P config action = some server) :
    (guarded.advance action server).Seated := by
  intro id member
  exact (Server.keepsPeers_step stepped id (seated id (List.mem_filter.mp member).1)).1

theorem lockout_passed {table : FailedHandshakes} {now : Rat}
    (unlocked : isLockedOut table ip now = false) (counted : 0 < countOf (table.get? ip)) :
    ((table.get? ip).map FailedEntry.lockoutUntil).getD 0 ≤ now := by
  rw [isLockedOut] at unlocked
  cases found : table.get? ip with
  | none =>
      rw [found] at counted
      cases counted
  | some entry =>
      rw [found] at unlocked
      simpa using unlocked

/-- An address that is not locked out may enter. -/
theorem enter_move {id : Nat} {connection : Connection}
    (isAt : guarded.server.connections[id]? = some connection)
    (room : guarded.inside.length < 10)
    (unlocked : isLockedOut guarded.server.failedHandshakes connection.addr.1 guarded.now = false) :
    Relation.ReflTransGen (Lockout.Move policy) (guarded.gate ip)
      ({ guarded with inside := id :: guarded.inside }.gate ip) := by
  have isPeer : guarded.server.peer id = connection.addr.1 := by
    rw [Server.peer, isAt]
    rfl
  by_cases own : connection.addr.1 = ip
  · have seats : seats guarded.server ip (id :: guarded.inside) =
        seats guarded.server ip guarded.inside + 1 := by
      rw [GuardedServer.seats, List.countP_cons_of_pos (by simp [isPeer, own])]
      rfl
    have few : GuardedServer.seats guarded.server ip guarded.inside < 10 :=
      List.countP_le_length.trans_lt room
    apply Relation.ReflTransGen.single
    rw [gate, gate]
    dsimp only
    rw [seats]
    rw [own] at unlocked
    exact .enter few fun locks => lockout_passed unlocked ((Nat.succ_pos 10).trans_le locks)
  · have seats : seats guarded.server ip (id :: guarded.inside) =
        seats guarded.server ip guarded.inside := by
      rw [GuardedServer.seats, List.countP_cons_of_neg (by simp [isPeer, own])]
      rfl
    rw [gate, gate]
    dsimp only
    rw [seats]
    exact .refl

/-- What a step is to the gate of an address that keeps its entry. -/
theorem moves_of_step {action : GuardedAction} (seated : guarded.Seated)
    (keeps : KeepsCount P config ip guarded action)
    (stepped : guarded.step P config action = some next) :
    next.Seated ∧
      countOf (guarded.server.failedHandshakes.get? ip) ≤
        countOf (next.server.failedHandshakes.get? ip) ∧
      (countOf (next.server.failedHandshakes.get? ip) < 1028 →
        Relation.ReflTransGen (Lockout.Move policy) (guarded.gate ip) (next.gate ip)) := by
  have kept := fun found => keeps found next stepped
  cases action with
  | tick now =>
      simp only [step] at stepped
      split at stepped <;> cases stepped
      rename_i later
      exact ⟨seated, le_rfl, fun _ => .single (.tick later)⟩
  | enter id =>
      simp only [step] at stepped
      split at stepped <;> try cases stepped
      rename_i connection isAt
      split at stepped <;> try cases stepped
      rename_i free
      rcases free with ⟨handshaking, outside, room⟩
      split at stepped
      · rcases Option.map_eq_some_iff.mp stepped with ⟨server, turnedAway, rfl⟩
        refine ⟨seated_advance seated turnedAway,
          moves_of_server seated turnedAway (by simp [ServerAction.mono?]) ?_ kept⟩
        intro other exn isEnd
        cases isEnd
      · rename_i unlocked
        cases stepped
        refine ⟨?_, le_rfl, fun _ => enter_move isAt room (by simpa using unlocked)⟩
        intro other member
        rcases List.mem_cons.mp member with rfl | member
        · exact (List.getElem?_eq_some_iff.mp isAt).1
        · exact seated other member
  | server action =>
      simp only [step] at stepped
      split at stepped <;> try cases stepped
      rename_i allowed
      rw [Bool.and_eq_true] at allowed
      rcases Option.map_eq_some_iff.mp stepped with ⟨server, performed, rfl⟩
      refine ⟨seated_advance seated performed,
        moves_of_server seated performed allowed.1 ?_ kept⟩
      intro id exn isEnd
      subst isEnd
      simpa [permits] using allowed.2

theorem wrongSince_eq (guarded : GuardedServer) (ip : String) (since : Rat) :
    guarded.wrongSince ip since = Lockout.recent since (guarded.guessesOf ip) := by
  rw [wrongSince, Lockout.recent, guessesOf, List.countP_map, List.countP_filter]
  apply List.countP_congr
  intro guess _
  simp [and_comm]

/-- In any time up to now, the HMACs of an address were wrong at most twenty times and once
more every six seconds, as long as its entry is kept and its count stays below the overflow. -/
theorem guesses_limited (P : Primitives) (config : ServerConfig) (ip : String)
    {failedHandshakes : FailedHandshakes} {start : Rat} {actions : List GuardedAction}
    {final : GuardedServer} (isNew : failedHandshakes.get? ip = none)
    (keeps : Machine.Along (step P config) (KeepsCount P config ip)
      { server := .new failedHandshakes, now := start } actions)
    (reached : Machine.run (step P config) { server := .new failedHandshakes, now := start }
      actions = some final)
    (few : failsOf final.server.failedHandshakes ip < 1028) {since : Rat}
    (started : since ≤ final.now) :
    (final.wrongSince ip since : Rat) ≤ 20 + (final.now - since) / 6 := by
  let fresh : GuardedServer := { server := .new failedHandshakes, now := start }
  have isFresh : Lockout.Fresh policy (fresh.gate ip) := by
    constructor
    · rfl
    · exact Nat.zero_le _
    · intro locks
      have noEntry : fresh.server.failedHandshakes.get? ip = none := isNew
      rw [gate, noEntry] at locks
      cases locks
  have moves : final.Seated ∧ (countOf (final.server.failedHandshakes.get? ip) < 1028 →
      Relation.ReflTransGen (Lockout.Move policy) (fresh.gate ip) (final.gate ip)) := by
    apply Machine.run_invariant
      (fun guarded => guarded.Seated ∧
        (countOf (guarded.server.failedHandshakes.get? ip) < 1028 →
          Relation.ReflTransGen (Lockout.Move policy) (fresh.gate ip) (guarded.gate ip)))
      _ _ keeps reached
    · intro guarded action next holds keeps stepped
      rcases moves_of_step holds.1 keeps stepped with ⟨seated, counted, moves⟩
      exact ⟨seated, fun few => (holds.2 (counted.trans_lt few)).trans (moves few)⟩
    · exact ⟨fun _ member => absurd member List.not_mem_nil, fun _ => .refl⟩
  have bound := isFresh.recent_le (moves.2 few) started
  rw [wrongSince_eq]
  calc ((Lockout.recent since (final.guessesOf ip) : Nat) : Rat)
      ≤ 10 + 10 * ((final.now - since) / 60 + 1) := bound
    _ = 20 + (final.now - since) / 6 := by ring

instance (P : Primitives) (config : ServerConfig) (ip : String) (guarded : GuardedServer)
    (action : GuardedAction) : Decidable (KeepsCount P config ip guarded action) :=
  decidable_of_iff
    (guarded.server.failedHandshakes.get? ip ≠ none →
      (guarded.step P config action).all fun next =>
        next.server.failedHandshakes.get? ip ≠ none)
    (imp_congr_right fun _ => by simp [Option.all_eq_true])

/-- A handshake whose HMAC is wrong. -/
def wrongGuess (id : Nat) (now : Rat) : GuardedAction :=
  .server (.handshakeEnds id (.failed ⟨.authError, "Client HMAC verification failed"⟩) now)

/-- Two connections of one address are inside, and each guesses wrong. -/
def twoGuesses : List GuardedAction :=
  [.server (.accept ("10.0.0.1", 1)), .server (.accept ("10.0.0.1", 2)), .server (.start 0),
    .server (.start 1), .enter 0, .enter 1, .tick 1, wrongGuess 0 1, .tick 2, wrongGuess 1 2]

theorem guesses_limited_twoGuesses :
    ∃ final, Machine.run (step samplePrimitives Server.roomyConfig)
        { server := .new {}, now := 0 } twoGuesses = some final ∧
      final.wrongSince "10.0.0.1" 1 = 2 ∧
      (final.wrongSince "10.0.0.1" 1 : Rat) ≤ 20 + (final.now - 1) / 6 := by
  rcases Machine.exists_run (step samplePrimitives Server.roomyConfig)
    { server := .new {}, now := 0 } twoGuesses
    (fun final => final.wrongSince "10.0.0.1" 1 = 2 ∧
      failsOf final.server.failedHandshakes "10.0.0.1" < 1028 ∧ 1 ≤ final.now)
    (by decide +kernel) with ⟨final, reached, wrong, few, started⟩
  exact ⟨final, reached, wrong,
    guesses_limited samplePrimitives Server.roomyConfig "10.0.0.1" (Dict.get?_empty _)
      (by decide +kernel) reached few started⟩

end GuardedServer

end Usmp
