import Mathlib.Tactic.Linarith
import Usmp.Session.Dialogue
import Usmp.Session.Window

/-!
# The watchdog of a session

`_watchdog` wakes up twice in every session timeout and closes the transport of a session that
has been idle for longer.  `Watched` is a session with a clock and its watchdog; it records when
`recv` authenticated a frame, when the watchdog found the session idle and when it closed the
transport.
-/

namespace Usmp

/-- `session_timeout`, and whether there is an `on_timeout`. -/
structure WatchdogConfig where
  sessionTimeout : Rat
  reports : Bool

inductive WatchdogStage where
  /-- `await asyncio.sleep(interval)`, over at `wake`. -/
  | sleeping (wake : Rat)
  /-- `await self._on_timeout(...)`. -/
  | reporting (since : Rat)
  | finished
  | cancelled
  deriving DecidableEq, Repr

structure Watched where
  windowed : Windowed
  /-- `time.monotonic()`. -/
  now : Rat
  watchdog : WatchdogStage
  /-- When `recv` authenticated a frame, the latest first. -/
  heard : List Rat := []
  /-- When the watchdog found the session idle. -/
  verdict : Option Rat := none
  /-- When it closed the transport. -/
  closed : Option Rat := none

inductive WatchedAction where
  | session (action : SessionAction)
  | tick (now : Rat)
  | wake
  /-- `on_timeout` returned, or raised. -/
  | reported
  /-- The clean-up of the connection. -/
  | cancel

/-- The time that a resumption happens at. -/
def SessionAction.now? : SessionAction → Option Rat
  | .call _ _ now | .wrote _ _ now | .read _ _ now => some now
  | .acquire _ | .readHeader _ _ | .cancel _ => none

/-- Whether a step sets `_last_recv`. -/
def Session.authenticates (P : Primitives) (session : Session) : SessionAction → Bool
  | .read task result now =>
      match session.tasks task with
      | some (.reading locals _) =>
          (recvTurn P session.reliable session.info locals now result).authenticated
      | _ => false
  | _ => false

namespace Watched

/-- The session and its watchdog as `_on_transport_connect` starts them. -/
def new (config : WatchdogConfig) (reliable : Bool) (info : SessionInfo) (now : Rat) : Watched :=
  { windowed := { session := .new reliable info now }
    now
    watchdog := .sleeping (now + config.sessionTimeout / 2) }

/-- `session._transport.close()`, and the watchdog returns. -/
def close (watched : Watched) : Watched :=
  { watched with watchdog := .finished, closed := some watched.now }

/-- The watchdog after its sleep. -/
def check (config : WatchdogConfig) (watched : Watched) : Watched :=
  let elapsed := watched.now - watched.windowed.session.lastRecv
  if elapsed > config.sessionTimeout then
    let watched := { watched with verdict := some watched.now }
    if config.reports then { watched with watchdog := .reporting watched.now }
    else watched.close
  else
    { watched with watchdog := .sleeping (watched.now + config.sessionTimeout / 2) }

def step (P : Primitives) (config : WatchdogConfig) (watched : Watched) :
    WatchedAction → Option Watched
  | .session action =>
      if action.now?.all (· = watched.now) then
        (watched.windowed.next P action).map fun windowed =>
          { watched with
            windowed
            heard :=
              if watched.windowed.session.authenticates P action then watched.now :: watched.heard
              else watched.heard }
      else
        none
  | .tick now => if watched.now ≤ now then some { watched with now } else none
  | .wake =>
      match watched.watchdog with
      | .sleeping wake => if wake ≤ watched.now then some (watched.check config) else none
      | .reporting _ | .finished | .cancelled => none
  | .reported =>
      match watched.watchdog with
      | .reporting _ => some watched.close
      | .sleeping _ | .finished | .cancelled => none
  | .cancel =>
      match watched.watchdog with
      | .sleeping _ | .reporting _ => some { watched with watchdog := .cancelled }
      | .finished | .cancelled => none

/-- When the watchdog goes on at the latest: the event loop resumes it at most `delay` after its
sleep, and `on_timeout` takes no longer than `callback`. -/
def dueBy (delay callback : Rat) (watched : Watched) : Option Rat :=
  match watched.watchdog with
  | .sleeping wake => some (wake + delay)
  | .reporting since => some (since + callback)
  | .finished | .cancelled => none

/-- Time does not pass over a watchdog that is due. -/
def Prompt (delay callback : Rat) (watched : Watched) : WatchedAction → Prop
  | .tick now => (watched.dueBy delay callback).all (now ≤ ·) = true
  | .session _ | .wake | .reported | .cancel => True

instance (delay callback : Rat) (watched : Watched) :
    (action : WatchedAction) → Decidable (watched.Prompt delay callback action)
  | .tick now => inferInstanceAs (Decidable ((watched.dueBy delay callback).all (now ≤ ·) = true))
  | .session _ | .wake | .reported | .cancel => isTrue trivial

/-- How long after the last activity the transport is closed at the latest. -/
def patience (config : WatchdogConfig) (delay callback : Rat) : Rat :=
  3 / 2 * config.sessionTimeout + delay + callback

end Watched

/-! ## The clock of the session -/

namespace Session

variable {P : Primitives}

@[simp] theorem settle_lastRecv (session : Session) (task : Nat) (fate : Fate) :
    (session.settle task fate).lastRecv = session.lastRecv := by
  cases fate <;> rfl

/-- `_last_recv` is the time at which `recv` last authenticated a frame. -/
theorem lastRecv_next {before after : Session} {action : SessionAction}
    (stepped : before.next P action = some after) :
    (before.authenticates P action = true ∧ action.now? = some after.lastRecv) ∨
      before.authenticates P action = false ∧ after.lastRecv = before.lastRecv := by
  rcases progress_of_next stepped with ⟨base, fate, effects, progress, _, rfl⟩
  rw [settle_lastRecv]
  cases progress with
  | encrypted task action locked admitted ready unspent =>
      right
      cases ready <;> exact ⟨rfl, rfl⟩
  | refused task action locked admitted ready spent notBye exn =>
      right
      cases ready <;> exact ⟨rfl, rfl⟩
  | received task locals pending now result reading turn isTurn =>
      simp only [authenticates, reading, ← isTurn, SessionAction.now?]
      cases turn.authenticated with
      | true => exact .inl ⟨rfl, rfl⟩
      | false => exact .inr ⟨rfl, rfl⟩
  | called | failed | sent | signalled | rekeyed | ponged | tookHeader | abandoned
  | interrupted => exact .inr ⟨rfl, rfl⟩

end Session

namespace Watched

variable {P : Primitives} {config : WatchdogConfig} {start delay callback : Rat}

/-! ## The invariant -/

/-- Where the watchdog stands, `last` being the last activity. -/
def Due (config : WatchdogConfig) (delay callback : Rat) (last : Rat) (watched : Watched) : Prop :=
  match watched.watchdog with
  | .sleeping wake =>
      watched.closed = none ∧ wake ≤ last + 3 / 2 * config.sessionTimeout ∧
        watched.now ≤ wake + delay
  | .reporting since =>
      watched.closed = none ∧ watched.verdict = some since ∧
        since ≤ last + 3 / 2 * config.sessionTimeout + delay ∧ watched.now ≤ since + callback
  | .finished =>
      ∃ found at_, watched.verdict = some found ∧ watched.closed = some at_ ∧ found ≤ at_ ∧
        at_ ≤ found + callback
  | .cancelled => watched.closed = none

structure Timely (config : WatchdogConfig) (start delay callback : Rat) (watched : Watched) :
    Prop where
  last : watched.heard.headD start = watched.windowed.session.lastRecv
  early : ∀ time ∈ watched.heard, start ≤ time ∧ time ≤ watched.windowed.session.lastRecv
  started : start ≤ watched.windowed.session.lastRecv
  past : watched.windowed.session.lastRecv ≤ watched.now
  due : watched.Due config delay callback watched.windowed.session.lastRecv
  /-- A session found idle had heard nothing for a whole session timeout. -/
  idle : ∀ found, watched.verdict = some found → found ≤ watched.now ∧
    start + config.sessionTimeout < found ∧
      ∀ time ∈ watched.heard, time + config.sessionTimeout < found ∨ found ≤ time

theorem Due.mono {last later : Rat} {watched : Watched} (lastLater : last ≤ later)
    (due : watched.Due config delay callback last) :
    watched.Due config delay callback later := by
  unfold Due at due ⊢
  cases isStage : watched.watchdog with
  | sleeping wake =>
      simp only [isStage] at due ⊢
      exact ⟨due.1, by linarith [due.2.1], due.2.2⟩
  | reporting since =>
      simp only [isStage] at due ⊢
      exact ⟨due.1, due.2.1, by linarith [due.2.2.1], due.2.2.2⟩
  | finished | cancelled =>
      simp only [isStage] at due ⊢
      exact due

theorem Timely.new (nonneg : 0 ≤ config.sessionTimeout) (delayed : 0 ≤ delay)
    (reliable : Bool) (info : SessionInfo) :
    Timely config start delay callback (.new config reliable info start) := by
  refine ⟨rfl, by simp [Watched.new], ?_, ?_, ⟨rfl, ?_, ?_⟩, by simp [Watched.new]⟩
  · exact le_refl start
  · exact le_refl start
  · change start + config.sessionTimeout / 2 ≤ start + 3 / 2 * config.sessionTimeout
    linarith
  · change start ≤ start + config.sessionTimeout / 2 + delay
    linarith

/-- A step of the session: either nothing was heard, or it was heard now. -/
theorem step_session {before after : Watched} {action : SessionAction}
    (stepped : before.step P config (.session action) = some after) :
    ∃ windowed, before.windowed.next P action = some windowed ∧
      ((before.windowed.session.authenticates P action = true ∧
          windowed.session.lastRecv = before.now ∧
          after = { before with windowed, heard := before.now :: before.heard }) ∨
        before.windowed.session.authenticates P action = false ∧
          windowed.session.lastRecv = before.windowed.session.lastRecv ∧
          after = { before with windowed }) := by
  simp only [step] at stepped
  split at stepped
  case isFalse => cases stepped
  rename_i inTime
  rcases Option.map_eq_some_iff.mp stepped with ⟨windowed, moved, rfl⟩
  refine ⟨windowed, moved, ?_⟩
  rcases Option.map_eq_some_iff.mp moved with ⟨session, onSession, rfl⟩
  rcases Session.lastRecv_next onSession with ⟨authentic, isNow⟩ | ⟨silent, same⟩
  · left
    rw [isNow, Option.all_some, decide_eq_true_eq] at inTime
    exact ⟨authentic, inTime, by rw [if_pos authentic]⟩
  · right
    exact ⟨silent, same, by simp [silent]⟩

theorem Timely.session {before after : Watched} {action : SessionAction}
    (timely : Timely config start delay callback before)
    (stepped : before.step P config (.session action) = some after) :
    Timely config start delay callback after := by
  rcases step_session stepped with
    ⟨windowed, _, ⟨_, isNow, rfl⟩ | ⟨_, same, rfl⟩⟩
  · refine ⟨isNow.symm, ?_, ?_, le_of_eq isNow, ?_, ?_⟩
    · intro time member
      rw [isNow]
      rcases List.mem_cons.mp member with rfl | old
      · exact ⟨timely.started.trans timely.past, le_refl _⟩
      · exact ⟨(timely.early time old).1, (timely.early time old).2.trans timely.past⟩
    · rw [isNow]
      exact timely.started.trans timely.past
    · apply Due.mono _ timely.due
      rw [isNow]
      exact timely.past
    · intro found isFound
      rcases timely.idle found isFound with ⟨before, late, idle⟩
      refine ⟨before, late, ?_⟩
      intro time member
      rcases List.mem_cons.mp member with rfl | old
      · exact .inr before
      · exact idle time old
  · refine ⟨timely.last.trans same.symm, ?_, ?_, ?_, ?_, timely.idle⟩
    · intro time member
      rw [same]
      exact timely.early time member
    · rw [same]
      exact timely.started
    · rw [same]
      exact timely.past
    · rw [same]
      exact timely.due

/-- The watchdog after its sleep: a session that it finds idle has been so for longer than the
session timeout. -/
theorem Timely.check {before : Watched} {wake : Rat}
    (timely : Timely config start delay callback before) (timeout : 0 ≤ config.sessionTimeout)
    (delayed : 0 ≤ delay) (called : 0 ≤ callback) (sleeping : before.watchdog = .sleeping wake) :
    Timely config start delay callback (before.check config) := by
  have due := timely.due
  simp only [Due, sleeping] at due
  rcases due with ⟨isOpen, wakes, prompt⟩
  have since : before.now ≤ before.windowed.session.lastRecv + 3 / 2 * config.sessionTimeout +
      delay := by
    linarith
  have idle : before.now - before.windowed.session.lastRecv > config.sessionTimeout →
      ∀ found, some before.now = some found → found ≤ before.now ∧
        start + config.sessionTimeout < found ∧
        ∀ time ∈ before.heard, time + config.sessionTimeout < found ∨ found ≤ time := by
    intro late found isFound
    cases isFound
    refine ⟨le_refl _, by linarith [timely.started], ?_⟩
    intro time member
    left
    linarith [(timely.early time member).2]
  unfold Watched.check
  dsimp only
  split
  · rename_i late
    cases config.reports with
    | true =>
        refine ⟨timely.last, timely.early, timely.started, timely.past, ?_, idle late⟩
        exact ⟨isOpen, rfl, since, le_add_of_nonneg_right called⟩
    | false =>
        refine ⟨timely.last, timely.early, timely.started, timely.past, ?_, idle late⟩
        exact ⟨before.now, before.now, rfl, rfl, le_refl _, le_add_of_nonneg_right called⟩
  · rename_i recent
    refine ⟨timely.last, timely.early, timely.started, timely.past, ⟨isOpen, ?_, ?_⟩, timely.idle⟩
    · change before.now + config.sessionTimeout / 2 ≤
        before.windowed.session.lastRecv + 3 / 2 * config.sessionTimeout
      linarith
    · change before.now ≤ before.now + config.sessionTimeout / 2 + delay
      linarith

theorem Timely.step {before after : Watched} {action : WatchedAction}
    (timely : Timely config start delay callback before) (timeout : 0 ≤ config.sessionTimeout)
    (delayed : 0 ≤ delay) (called : 0 ≤ callback) (prompt : before.Prompt delay callback action)
    (stepped : before.step P config action = some after) :
    Timely config start delay callback after := by
  cases action with
  | session action => exact timely.session stepped
  | tick now =>
      simp only [Watched.step] at stepped
      split at stepped <;> cases stepped
      rename_i later
      refine ⟨timely.last, timely.early, timely.started, timely.past.trans later, ?_, ?_⟩
      · have due := timely.due
        simp only [Prompt, dueBy] at prompt
        unfold Due at due ⊢
        dsimp only
        cases isStage : before.watchdog with
        | sleeping wake =>
            simp only [isStage, Option.all_some, decide_eq_true_eq] at due prompt ⊢
            exact ⟨due.1, due.2.1, prompt⟩
        | reporting since =>
            simp only [isStage, Option.all_some, decide_eq_true_eq] at due prompt ⊢
            exact ⟨due.1, due.2.1, due.2.2.1, prompt⟩
        | finished | cancelled =>
            simp only [isStage] at due ⊢
            exact due
      · intro found isFound
        rcases timely.idle found isFound with ⟨before, late, idle⟩
        exact ⟨before.trans later, late, idle⟩
  | wake =>
      simp only [Watched.step] at stepped
      split at stepped <;> try cases stepped
      rename_i sleeping
      split at stepped <;> cases stepped
      exact timely.check timeout delayed called sleeping
  | reported =>
      simp only [Watched.step] at stepped
      split at stepped <;> cases stepped
      rename_i since reporting
      have due := timely.due
      simp only [Due, reporting] at due
      rcases due with ⟨_, isFound, _, inTime⟩
      refine ⟨timely.last, timely.early, timely.started, timely.past, ?_, timely.idle⟩
      exact ⟨since, before.now, isFound, rfl, (timely.idle since isFound).1, inTime⟩
  | cancel =>
      have due := timely.due
      simp only [Watched.step] at stepped
      split at stepped <;> cases stepped
      all_goals
        rename_i isStage
        simp only [Due, isStage] at due
        exact ⟨timely.last, timely.early, timely.started, timely.past, due.1, timely.idle⟩

/-- A watchdog that still watches has been idle for a limited time. -/
theorem Timely.watching {watched : Watched} (timely : Timely config start delay callback watched)
    (called : 0 ≤ callback) (there : watched.watchdog ≠ .cancelled)
    (isOpen : watched.closed = none) :
    watched.now ≤ watched.windowed.session.lastRecv + patience config delay callback := by
  have due := timely.due
  unfold Due at due
  unfold patience
  cases isStage : watched.watchdog with
  | sleeping wake =>
      simp only [isStage] at due
      linarith
  | reporting since =>
      simp only [isStage] at due
      linarith
  | finished =>
      simp only [isStage] at due
      rcases due with ⟨_, _, _, isClosed, _⟩
      rw [isOpen] at isClosed
      cases isClosed
  | cancelled => exact absurd isStage there

theorem Timely.closes {watched : Watched} {at_ : Rat}
    (timely : Timely config start delay callback watched) (isClosed : watched.closed = some at_) :
    ∃ found, found ≤ at_ ∧ at_ ≤ found + callback ∧ start + config.sessionTimeout < found ∧
      ∀ time ∈ watched.heard, time + config.sessionTimeout < found ∨ found ≤ time := by
  have due := timely.due
  unfold Due at due
  cases isStage : watched.watchdog with
  | sleeping wake | reporting since =>
      simp only [isStage] at due
      rw [due.1] at isClosed
      cases isClosed
  | finished =>
      simp only [isStage] at due
      rcases due with ⟨found, _, isFound, isAt, before, after⟩
      rw [isClosed] at isAt
      cases isAt
      exact ⟨found, before, after, (timely.idle found isFound).2⟩
  | cancelled =>
      simp only [isStage] at due
      rw [due] at isClosed
      cases isClosed

/-- In every run the watchdog closes the transport only of a session that had heard nothing for
longer than the session timeout, and no session stays open for longer than one and a half session
timeouts, and the two delays, after it heard something. -/
theorem watchdog_closes_idle (P : Primitives) (config : WatchdogConfig) (reliable : Bool)
    (info : SessionInfo) (start delay callback : Rat) (timeout : 0 ≤ config.sessionTimeout)
    (delayed : 0 ≤ delay) (called : 0 ≤ callback) (actions : List WatchedAction) (final : Watched)
    (reached : Machine.run (step P config) (.new config reliable info start) actions = some final)
    (prompt : Machine.Along (step P config) (Prompt delay callback)
      (.new config reliable info start) actions) :
    final.windowed.session.lastRecv = final.heard.headD start ∧
      (∀ at_, final.closed = some at_ → ∃ found, found ≤ at_ ∧ at_ ≤ found + callback ∧
        start + config.sessionTimeout < found ∧
          ∀ time ∈ final.heard, time + config.sessionTimeout < found ∨ found ≤ time) ∧
      (final.watchdog ≠ .cancelled → final.closed = none →
        final.now ≤ final.windowed.session.lastRecv + patience config delay callback) := by
  have timely := Machine.run_invariant (Timely config start delay callback)
    (fun _ _ _ timely prompt stepped => timely.step timeout delayed called prompt stepped)
    (.new timeout delayed reliable info) prompt reached
  exact ⟨timely.last.symm, fun _ => timely.closes, timely.watching called⟩

/-- A byte is heard 40 seconds after the start, and nothing after it. -/
def byteThenSilence : List WatchedAction :=
  [.session (.call 0 .recv 0), .tick 30, .wake, .tick 40,
    .session (.read 0 (.ok (sentFrame .data
      (encryptedFrame samplePrimitives (sampleInfo 3 4) 0 (.send [7] 0)).payload 0)) 40),
    .tick 61, .wake, .tick 91, .wake, .tick 121, .wake, .tick 123, .reported, .tick 200]

theorem watchdog_closes_idle_byteThenSilence :
    ∃ final,
      Machine.run (step samplePrimitives ⟨60, true⟩) (.new ⟨60, true⟩ false (sampleInfo 4 3) 0)
          byteThenSilence = some final ∧
        final.heard = [40] ∧ final.closed = some 123 ∧
        ∃ found, found ≤ 123 ∧ 123 ≤ found + (2 : Rat) ∧ (0 : Rat) + 60 < found ∧
          ∀ time ∈ final.heard, time + 60 < found ∨ found ≤ time := by
  rcases Machine.exists_run (step samplePrimitives ⟨60, true⟩)
    (.new ⟨60, true⟩ false (sampleInfo 4 3) 0) byteThenSilence
    (fun final => final.heard = [40] ∧ final.closed = some 123) (by decide +kernel) with
    ⟨final, reached, heard, closed⟩
  refine ⟨final, reached, heard, closed, ?_⟩
  exact (watchdog_closes_idle samplePrimitives ⟨60, true⟩ false (sampleInfo 4 3) 0 1 2
    (by decide +kernel) (by decide +kernel) (by decide +kernel) byteThenSilence final reached
    (by decide +kernel)).2.1 123 closed

end Watched

end Usmp
