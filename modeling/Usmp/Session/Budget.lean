import Usmp.Lib.TumblingWindow
import Usmp.Sample
import Usmp.Session.Exceptions
import Usmp.Session.Listener

/-!
# The budget of control frames

`recv` counts the PINGs and PONGs that it handles outside a message in a window of one second.
The guard is a tumbling window over the times of these frames, whatever else the session does
between them.
-/

namespace Usmp

open TumblingWindow

/-! ## The guard -/

def RecvLocals.window (locals : RecvLocals) : Window Rat :=
  ⟨locals.ctrlWindowStart, locals.ctrlCount⟩

/-- Eight control frames in one second. -/
abbrev controlTicks : Window Rat → List Rat → Option (Window Rat) := ticks 8 1

theorem tick_of_countControl_ok {locals after : RecvLocals} {now : Rat}
    (counted : countControl locals now = .ok after) :
    tick 8 1 locals.window now = some after.window := by
  by_cases expired : now - locals.ctrlWindowStart > 1
  · simp only [countControl, expired, if_true] at counted
    split at counted <;> cases counted
    simp only [tick, RecvLocals.window, expired, if_true]
    rfl
  · simp only [countControl, expired, if_false] at counted
    split at counted <;> cases counted
    rename_i room
    simp only [tick, RecvLocals.window, expired, if_false, room]

theorem tick_of_countControl_error {locals : RecvLocals} {now : Rat} {exn : Exn}
    (failed : countControl locals now = .error exn) : tick 8 1 locals.window now = none := by
  rcases countControl_error failed with ⟨_, many, isOpen⟩
  have unexpired : ¬ now - locals.ctrlWindowStart > 1 := Rat.not_lt.mpr isOpen
  simp only [tick, RecvLocals.window, unexpired, if_false]
  rw [if_pos (by omega)]

/-- The guard's exception is not one that `recv` drops. -/
theorem onViolation_tooManyControls (reliable : Bool) (locals : RecvLocals) :
    onViolation reliable locals tooManyControls = .raised tooManyControls := by
  cases reliable <;> rfl

/-! ## What a step does to the budget -/

namespace Session

/-- The guard's part in a step: the locals and the time with which `recv` counts a control
frame.  A PONG is counted when it is handled, a PING when its answer was sent. -/
def controlAt (P : Primitives) (session : Session) : SessionAction → Option (RecvLocals × Rat)
  | .read task result now =>
      match session.tasks task with
      | some (.reading locals _) =>
          match openFrame P session.reliable session.info result with
          | .ok (some (frame, _)) =>
              match acceptSeq session.reliable session.info frame.seq with
              | .ok _ =>
                  if frame.type = .pong ∧ locals.assembledPayload = [] then
                    some (locals, now)
                  else
                    none
              | .error _ => none
          | .ok none | .error _ => none
      | _ => none
  | .wrote task none now =>
      match session.tasks task with
      | some (.writing (.pong locals)) => some (locals, now)
      | _ => none
  | _ => none

/-- A step that neither calls `recv` nor counts a control frame. -/
structure Uncounted (P : Primitives) (before : Session) (action : SessionAction) : Prop where
  notControl : controlAt P before action = none
  notCall : ∀ task now, action ≠ .call task .recv now

/-- What becomes of the coroutine that a step resumes, as far as its budget is concerned. -/
inductive BudgetMove (P : Primitives) (before : Session) (action : SessionAction) :
    Fate → Prop where
  | counted (at_ : Task) (locals after : RecvLocals) (now : Rat)
      (isAt : before.tasks action.task = some at_) (isLocals : at_.locals? = some locals)
      (isControl : controlAt P before action = some (locals, now))
      (next : countControl locals now = .ok after) :
      BudgetMove P before action (.suspended (.reading after none))
  | crowded (at_ : Task) (locals : RecvLocals) (now : Rat)
      (isAt : before.tasks action.task = some at_) (isLocals : at_.locals? = some locals)
      (isControl : controlAt P before action = some (locals, now))
      (tooMany : countControl locals now = .error tooManyControls) :
      BudgetMove P before action (.ended (.raised tooManyControls))
  | started (now : Rat) (isCall : action = .call action.task .recv now) :
      BudgetMove P before action (.suspended (.reading { ctrlWindowStart := now } none))
  | kept (at_ next : Task) (locals after : RecvLocals)
      (isAt : before.tasks action.task = some at_) (isLocals : at_.locals? = some locals)
      (uncounted : Uncounted P before action)
      (isAfter : next.locals? = some after) (same : after.window = locals.window) :
      BudgetMove P before action (.suspended next)
  | other (fate : Fate) (uncounted : Uncounted P before action)
      (noLocals : ∀ at_, fate.await = some at_ → at_.locals? = none) :
      BudgetMove P before action fate

/-- An exception in the handling of a frame ends the call or costs the partial message. -/
theorem budgetMove_onViolation {P : Primitives} {before : Session} {action : SessionAction}
    {at_ : Task} {locals : RecvLocals} {exn : Exn} (reliable : Bool)
    (isAt : before.tasks action.task = some at_) (isLocals : at_.locals? = some locals)
    (uncounted : Uncounted P before action) :
    BudgetMove P before action (onViolation reliable locals exn).fate := by
  unfold onViolation
  split
  · exact .kept at_ (.reading locals.dropPartial none) locals _ isAt isLocals uncounted rfl rfl
  · exact .other _ uncounted (fun at_ impossible => by cases impossible)

theorem budgetMove_raisedFate {P : Primitives} {before : Session} {action : SessionAction}
    {at_ : Task} {locked : Locked} {exn : Exn} (reliable : Bool)
    (isAt : before.tasks action.task = some at_)
    (isLocked : at_ = .lockWait locked ∨ at_ = .writing locked)
    (uncounted : Uncounted P before action) :
    BudgetMove P before action (locked.raisedFate reliable exn) := by
  cases locked with
  | pong locals =>
      apply budgetMove_onViolation reliable isAt _ uncounted
      rcases isLocked with rfl | rfl <;> rfl
  | bye =>
      apply BudgetMove.other _ uncounted
      intro next isNext
      simp only [Locked.raisedFate] at isNext
      split at isNext <;> cases isNext
  | send data offset | ping | rekey salt =>
      exact .other _ uncounted (fun next impossible => by cases impossible)

/-- One result of `read_frame`. -/
theorem budgetMove_received {P : Primitives} {before : Session} {task : Nat} {locals : RecvLocals}
    {pending : Option Bytes} (now : Rat) (result : Except Exn USMPFrame)
    (reading : before.tasks task = some (.reading locals pending)) :
    BudgetMove P before (.read task result now)
      (recvTurn P before.reliable before.info locals now result).step.fate := by
  have isKept : ∀ after : RecvLocals, after.window = locals.window →
      Uncounted P before (.read task result now) →
      BudgetMove P before (.read task result now) (RecvStep.next after).fate :=
    fun after same uncounted => .kept _ _ locals after reading rfl uncounted rfl same
  have isEnded : ∀ outcome, Uncounted P before (.read task result now) →
      BudgetMove P before (.read task result now) (.ended outcome) :=
    fun outcome uncounted => .other _ uncounted (fun _ impossible => by cases impossible)
  unfold recvTurn
  split
  · rename_i exn failed
    have uncounted : Uncounted P before (.read task result now) :=
      ⟨by simp only [controlAt, reading, failed], nofun⟩
    split
    · exact isKept locals rfl uncounted
    · exact isEnded _ uncounted
  · rename_i dropped
    exact isKept locals rfl ⟨by simp only [controlAt, reading, dropped], nofun⟩
  rename_i frame plaintext opened
  split
  · rename_i exn rejected
    exact isEnded _ ⟨by simp only [controlAt, reading, opened, rejected], nofun⟩
  rename_i marked calls accepted
  by_cases isCount : frame.type = .pong ∧ locals.assembledPayload = []
  · have isControl : controlAt P before (.read task result now) = some (locals, now) := by
      simp only [controlAt, reading, opened, accepted, if_pos isCount]
    rw [handleFrame_pong isCount.1 isCount.2]
    cases next : countControl locals now with
    | ok after => exact .counted _ locals after now reading rfl isControl next
    | error exn =>
        cases (countControl_error next).1
        simp only [Except.map]
        rw [onViolation_tooManyControls]
        exact .crowded _ locals now reading rfl isControl next
  · have uncounted : Uncounted P before (.read task result now) :=
      ⟨by simp only [controlAt, reading, opened, accepted, if_neg isCount], nofun⟩
    split
    · exact budgetMove_onViolation before.reliable reading rfl uncounted
    · rename_i after moreCalls step handled
      rcases handleFrame_controls handled isCount with rfl | ⟨payload, rfl⟩ | ⟨next, rfl, same⟩
      · exact .kept _ _ locals locals reading rfl uncounted rfl rfl
      · exact isEnded _ uncounted
      · apply isKept next _ uncounted
        rw [RecvLocals.window, RecvLocals.window, same.1, same.2]

theorem budgetMove_of_progress {P : Primitives} {before base : Session} {action : SessionAction}
    {fate : Fate} {effects : Effects} (progress : Progress P before action base fate effects) :
    BudgetMove P before action fate := by
  have ended : ∀ outcome, Uncounted P before action →
      BudgetMove P before action (.ended outcome) :=
    fun outcome uncounted => .other _ uncounted (fun _ impossible => by cases impossible)
  cases progress with
  | called task op now isNew =>
      cases op with
      | recv => exact .started now rfl
      | send data =>
          apply BudgetMove.other _ ⟨rfl, by simp⟩
          intro next isNext
          simp only [Op.start] at isNext
          split at isNext <;> cases isNext
          rfl
      | bye =>
          apply BudgetMove.other _ ⟨rfl, by simp⟩
          intro next isNext
          simp only [Op.start] at isNext
          split at isNext <;> cases isNext
          rfl
      | ping | rekey salt =>
          apply BudgetMove.other _ ⟨rfl, by simp⟩
          intro next isNext
          cases isNext
          rfl
  | encrypted task action locked admitted ready unspent =>
      cases ready with
      | admitted locked free waiting =>
          cases locked with
          | pong locals => exact .kept _ _ locals locals waiting rfl ⟨rfl, by simp⟩ rfl rfl
          | send data offset | ping | rekey salt | bye =>
              apply BudgetMove.other _ ⟨rfl, by simp⟩
              intro next isNext
              cases isNext
              rfl
      | nextFragment data offset now writing more =>
          have uncounted : Uncounted P before (.wrote task none now) :=
            ⟨by simp only [controlAt, writing], by simp⟩
          apply BudgetMove.other _ uncounted
          intro next isNext
          cases isNext
          rfl
  | refused task action locked admitted ready spent notBye exn =>
      cases ready with
      | admitted locked free waiting =>
          exact budgetMove_raisedFate before.reliable waiting (.inl rfl) ⟨rfl, by simp⟩
      | nextFragment data offset now writing more =>
          exact ended _ ⟨by simp only [controlAt, writing], by simp⟩
  | failed task locked exn now writing =>
      exact budgetMove_raisedFate before.reliable writing (.inr rfl) ⟨rfl, by simp⟩
  | sent task data offset now writing last =>
      exact ended _ ⟨by simp only [controlAt, writing], by simp⟩
  | signalled task locked now writing kind =>
      apply ended
      refine ⟨?_, by simp⟩
      rcases kind with rfl | rfl <;> simp only [controlAt, writing]
  | rekeyed task salt now writing =>
      exact ended _ ⟨by simp only [controlAt, writing], by simp⟩
  | ponged task locals now writing =>
      have isControl : controlAt P before (.wrote task none now) = some (locals, now) := by
        simp only [controlAt, writing]
      unfold pongSent
      cases next : countControl locals now with
      | ok after => exact .counted _ locals after now writing rfl isControl next
      | error exn =>
          cases (countControl_error next).1
          simp only
          rw [onViolation_tooManyControls]
          exact .crowded _ locals now writing rfl isControl next
  | received task locals pending now result reading turn isTurn =>
      subst isTurn
      exact budgetMove_received now result reading
  | tookHeader task locals header reading =>
      exact .kept _ _ locals locals reading rfl ⟨rfl, by simp⟩ rfl rfl
  | abandoned task at_ isAt unlocked => exact ended _ ⟨rfl, by simp⟩
  | interrupted task locked writing => exact ended _ ⟨rfl, by simp⟩

end Session

/-! ## Whole calls -/

/-- A session, and for each `recv` the time of its call, the times at which it counted control
frames, and whether the guard raised. -/
structure Budgeted where
  session : Session
  started : Nat → Rat := fun _ => 0
  handled : Nat → List Rat := fun _ => []
  exceeded : Nat → Bool := fun _ => false

namespace Budgeted

/-- Note the call of a `recv`, or what the guard does in the step. -/
def note (P : Primitives) (budgeted : Budgeted) (action : SessionAction) : Budgeted :=
  match action with
  | .call task .recv now =>
      { budgeted with started := Function.update budgeted.started task now }
  | action =>
      match budgeted.session.controlAt P action with
      | some (locals, now) =>
          { budgeted with
            handled := Function.update budgeted.handled action.task
              (budgeted.handled action.task ++ [now])
            exceeded := Function.update budgeted.exceeded action.task
              (!(countControl locals now).isOk) }
      | none => budgeted

def step (P : Primitives) (budgeted : Budgeted) (action : SessionAction) : Option Budgeted :=
  match budgeted.session.step P action with
  | some (next, _) => some { budgeted.note P action with session := next }
  | none => none

/-- The window of a call that begins now, before any control frame. -/
def fresh (budgeted : Budgeted) (task : Nat) : Window Rat := ⟨budgeted.started task, 0⟩

/-- The guard of a call, and whether it has raised. -/
inductive Guarded (budgeted : Budgeted) (task : Nat) : Prop where
  | within (window : Window Rat) (calm : budgeted.exceeded task = false)
      (ticked : controlTicks (budgeted.fresh task) (budgeted.handled task) = some window)
  | raised (earlier : List Rat) (last : Rat) (window : Window Rat)
      (exceeded : budgeted.exceeded task = true)
      (outcome : (task, .raised tooManyControls) ∈ budgeted.session.outcomes)
      (isHandled : budgeted.handled task = earlier ++ [last])
      (ticked : controlTicks (budgeted.fresh task) earlier = some window)
      (raises : tick 8 1 window last = none)

/-- What holds of the budgets in every reachable session. -/
structure BudgetInv (budgeted : Budgeted) : Prop where
  calls : Session.CallInv budgeted.session
  unused : ∀ task, task ∉ budgeted.session.calls.map Prod.fst →
    budgeted.handled task = [] ∧ budgeted.exceeded task = false
  waiting : ∀ task at_ locals, budgeted.session.tasks task = some at_ →
    at_.locals? = some locals → budgeted.exceeded task = false ∧
      controlTicks (budgeted.fresh task) (budgeted.handled task) = some locals.window
  guarded : ∀ task, Guarded budgeted task

variable {P : Primitives} {budgeted : Budgeted} {action : SessionAction}

theorem note_of_uncounted (uncounted : Session.Uncounted P budgeted.session action) :
    budgeted.note P action = budgeted := by
  unfold note
  split
  · exact absurd rfl (uncounted.notCall _ _)
  · rw [uncounted.notControl]

theorem note_of_control {locals : RecvLocals} {now : Rat}
    (isControl : budgeted.session.controlAt P action = some (locals, now)) :
    budgeted.note P action =
      { budgeted with
        handled := Function.update budgeted.handled action.task
          (budgeted.handled action.task ++ [now])
        exceeded := Function.update budgeted.exceeded action.task
          (!(countControl locals now).isOk) } := by
  unfold note
  split
  · cases isControl
  · rw [isControl]

theorem BudgetInv.new (reliable : Bool) (info : SessionInfo) (now : Rat) :
    BudgetInv { session := Session.new reliable info now } := by
  constructor
  case calls => exact Session.CallInv.new reliable info now
  case unused => exact fun task _ => ⟨rfl, rfl⟩
  case waiting =>
    intro task at_ locals isAt
    cases isAt
  case guarded => exact fun task => .within _ rfl rfl

/-- The guard of a call whose part of the history a step does not touch. -/
theorem Guarded.of_same {after : Budgeted} {task : Nat} (guarded : Guarded budgeted task)
    (started : after.started task = budgeted.started task)
    (handled : after.handled task = budgeted.handled task)
    (exceeded : after.exceeded task = budgeted.exceeded task)
    (outcomes : budgeted.session.outcomes ⊆ after.session.outcomes) : Guarded after task := by
  have fresh : after.fresh task = budgeted.fresh task := by
    rw [Budgeted.fresh, Budgeted.fresh, started]
  cases guarded with
  | within window calm ticked =>
      apply Guarded.within window (exceeded.trans calm)
      rw [fresh, handled]
      exact ticked
  | raised earlier last window hasExceeded outcome isHandled ticked raises =>
      apply Guarded.raised earlier last window (exceeded.trans hasExceeded) (outcomes outcome)
        (handled.trans isHandled) _ raises
      rw [fresh]
      exact ticked

/-- A step that leaves the histories of all other calls alone, and what it makes of its own. -/
theorem BudgetInv.settle {after : Budgeted} {base : Session} {fate : Fate} {effects : Effects}
    (inv : BudgetInv budgeted)
    (progress : Session.Progress P budgeted.session action base fate effects)
    (isAfter : after.session = base.settle action.task fate)
    (others : ∀ task, task ≠ action.task → after.started task = budgeted.started task ∧
      after.handled task = budgeted.handled task ∧
      after.exceeded task = budgeted.exceeded task)
    (waiting : ∀ at_ locals, fate.await = some at_ → at_.locals? = some locals →
      after.exceeded action.task = false ∧
        controlTicks (after.fresh action.task) (after.handled action.task) = some locals.window)
    (guarded : Guarded after action.task) : BudgetInv after := by
  have outcomes : budgeted.session.outcomes ⊆ after.session.outcomes := by
    rw [isAfter, Session.settle_outcomes, progress.frame.2]
    exact List.subset_append_left _ _
  have calls : after.session.calls = base.calls := by
    rw [isAfter]
    exact (Session.settle_frame base action.task fate).2.2.2.2.1
  rcases progress.called_task inv.calls with ⟨isCalled, more, grown⟩
  constructor
  case calls =>
    rw [isAfter]
    exact Session.callInv_progress inv.calls progress
  case unused =>
    intro task isNew
    rw [calls] at isNew
    have distinct : task ≠ action.task := by
      intro same
      exact isNew (same ▸ isCalled)
    have wasNew : task ∉ budgeted.session.calls.map Prod.fst := by
      intro known
      apply isNew
      rw [grown, List.map_append]
      exact List.mem_append_left _ known
    rw [(others task distinct).2.1, (others task distinct).2.2]
    exact inv.unused task wasNew
  case waiting =>
    intro task at_ locals isAt isLocals
    rw [isAfter, Session.settle_tasks, progress.frame.1] at isAt
    by_cases same : task = action.task
    · subst same
      rw [Function.update_self] at isAt
      exact waiting at_ locals isAt isLocals
    · rw [Function.update_of_ne same] at isAt
      rcases others task same with ⟨started, handled, exceeded⟩
      have guard := inv.waiting task at_ locals isAt isLocals
      rw [exceeded, handled, fresh, started]
      exact guard
  case guarded =>
    intro task
    by_cases same : task = action.task
    · subst same
      exact guarded
    · rcases others task same with ⟨started, handled, exceeded⟩
      exact (inv.guarded task).of_same started handled exceeded outcomes

theorem BudgetInv.step {after : Budgeted} (inv : BudgetInv budgeted)
    (stepped : budgeted.step P action = some after) : BudgetInv after := by
  simp only [Budgeted.step] at stepped
  split at stepped
  case h_2 => cases stepped
  rename_i next effects onSession
  cases stepped
  rcases Session.progress_of_step onSession with ⟨base, fate, progress, isNext⟩
  dsimp only at isNext
  have outcomes : budgeted.session.outcomes ⊆ next.outcomes := by
    rw [isNext, Session.settle_outcomes, progress.frame.2]
    exact List.subset_append_left _ _
  have move := Session.budgetMove_of_progress progress
  cases move with
  | counted at_ locals window now isAt isLocals isControl counts =>
      rcases inv.waiting action.task at_ locals isAt isLocals with ⟨calm, ticked⟩
      have more : controlTicks (budgeted.fresh action.task)
          (budgeted.handled action.task ++ [now]) = some window.window := by
        refine Machine.run_append_some.mpr ⟨_, ticked, ?_⟩
        exact Machine.run_cons_some.mpr ⟨_, tick_of_countControl_ok counts, rfl⟩
      rw [note_of_control isControl]
      apply inv.settle progress isNext
      · intro task distinct
        exact ⟨rfl, Function.update_of_ne distinct _ _, Function.update_of_ne distinct _ _⟩
      · intro at' locals' isAt' isLocals'
        cases isAt'
        cases isLocals'
        simp only [Function.update_self, counts]
        exact ⟨rfl, more⟩
      · apply Guarded.within window.window
        · simp only [Function.update_self, counts]
          rfl
        · simp only [Function.update_self]
          exact more
  | crowded at_ locals now isAt isLocals isControl tooMany =>
      rcases inv.waiting action.task at_ locals isAt isLocals with ⟨calm, ticked⟩
      rw [note_of_control isControl]
      apply inv.settle progress isNext
      · intro task distinct
        exact ⟨rfl, Function.update_of_ne distinct _ _, Function.update_of_ne distinct _ _⟩
      · intro at' locals' impossible
        cases impossible
      · apply Guarded.raised (budgeted.handled action.task) now locals.window
        · simp only [Function.update_self, tooMany]
          rfl
        · rw [isNext, Session.settle_outcomes]
          exact List.mem_append_right _ List.mem_cons_self
        · simp only [Function.update_self]
        · exact ticked
        · exact tick_of_countControl_error tooMany
  | started now isCall =>
      cases action with
      | call task op time =>
          cases isCall
          have isNew : task ∉ budgeted.session.calls.map Prod.fst := by
            intro known
            simp only [Session.step, if_pos known] at onSession
            cases onSession
          rcases inv.unused task isNew with ⟨unhandled, calm⟩
          apply inv.settle progress isNext
          · intro other distinct
            exact ⟨Function.update_of_ne distinct _ _, rfl, rfl⟩
          · intro at_ locals isAt isLocals
            cases isAt
            cases isLocals
            refine ⟨calm, ?_⟩
            simp only [SessionAction.task, note, fresh, Function.update_self, unhandled]
            rfl
          · refine .within ⟨now, 0⟩ calm ?_
            simp only [SessionAction.task, note, fresh, Function.update_self, unhandled]
            rfl
      | acquire task | wrote task failure time | read task result time | readHeader task header
      | cancel task => cases isCall
  | kept at_ at' locals locals' isAt isLocals uncounted isLocals' same =>
      rw [note_of_uncounted uncounted]
      apply inv.settle progress isNext
      · exact fun task _ => ⟨rfl, rfl, rfl⟩
      · intro other locals'' isOther isLocals''
        cases isOther
        rw [isLocals'] at isLocals''
        cases isLocals''
        rw [same]
        exact inv.waiting action.task at_ locals isAt isLocals
      · exact (inv.guarded action.task).of_same rfl rfl rfl outcomes
  | other _ uncounted noLocals =>
      rw [note_of_uncounted uncounted]
      apply inv.settle progress isNext
      · exact fun task _ => ⟨rfl, rfl, rfl⟩
      · intro at_ locals isAt isLocals
        rw [noLocals at_ isAt] at isLocals
        cases isLocals
      · exact (inv.guarded action.task).of_same rfl rfl rfl outcomes

theorem budgetInv_of_run {P : Primitives} {reliable : Bool} {info : SessionInfo} {now : Rat}
    {actions : List SessionAction} {final : Budgeted}
    (reached : Machine.run (Budgeted.step P) { session := Session.new reliable info now } actions =
      some final) : BudgetInv final :=
  Machine.run_invariant' BudgetInv (fun _ _ _ inv stepped => inv.step stepped)
    (BudgetInv.new reliable info now) reached

/-- The guard of every `recv` raises only if some second has more than eight control frames, and
has raised by the end of every second that has more than sixteen. -/
theorem control_budget (P : Primitives) (reliable : Bool) (info : SessionInfo) (now : Rat)
    (actions : List SessionAction) (final : Budgeted)
    (reached : Machine.run (Budgeted.step P) { session := Session.new reliable info now } actions =
      some final)
    (task : Nat)
    (ordered : (final.started task :: final.handled task).Pairwise (· ≤ ·)) :
    ((∀ first, within (final.handled task) first (first + 1) ≤ 8) →
        final.exceeded task = false) ∧
      ∀ first, 16 < within (final.handled task) first (first + 1) →
        final.exceeded task = true ∧
          (task, .raised tooManyControls) ∈ final.session.outcomes ∧
          ∀ time ∈ final.handled task, time ≤ first + 1 := by
  cases (budgetInv_of_run reached).guarded task with
  | within window calm ticked =>
      refine ⟨fun _ => calm, ?_⟩
      intro first many
      have few := within_of_ticks (by decide) ordered ticked first
      omega
  | raised earlier last window exceeded outcome isHandled ticked raises =>
      rw [isHandled] at ordered ⊢
      constructor
      · intro quiet
        rcases crowded_of_tick_none (by decide) ordered ticked raises with ⟨first, crowded⟩
        have := quiet first
        omega
      · intro first many
        refine ⟨exceeded, outcome, ?_⟩
        rw [← List.cons_append, List.pairwise_append] at ordered
        have few := within_of_ticks (by decide) ordered.1 ticked first
        have isLast : last ≤ first + 1 := by
          by_contra outside
          rw [within_append, within_singleton_of_not fun both => outside both.2] at many
          omega
        intro time member
        rcases List.mem_append.mp member with before | isTime
        · have ordered := ordered.2.2 time (List.mem_cons_of_mem _ before) last List.mem_cons_self
          exact ordered.trans isLast
        · cases List.mem_singleton.mp isTime
          exact isLast

/-- A PONG of the other side. -/
def pongAt (seq : Nat) (now : Rat) : SessionAction :=
  let sent := encryptedFrame samplePrimitives (sampleInfo 3 4 seq) 0
    (.pong { ctrlWindowStart := 0 })
  .read 0 (.ok (sentFrame sent.type sent.payload seq)) now

/-- Eight PONGs at the end of the first window, and nine at the beginning of the second. -/
def seventeenPongs : List SessionAction :=
  .call 0 .recv 0 :: (List.range 17).map fun seq => pongAt seq (if seq < 8 then 1 else 3 / 2)

theorem control_budget_seventeenPongs :
    ∃ final,
      Machine.run (Budgeted.step samplePrimitives)
          { session := Session.new true (sampleInfo 4 3) } seventeenPongs = some final ∧
        final.exceeded 0 = true ∧ (0, .raised tooManyControls) ∈ final.session.outcomes ∧
        ∀ time ∈ final.handled 0, time ≤ 1 + 1 := by
  rcases Machine.exists_run (Budgeted.step samplePrimitives)
    { session := Session.new true (sampleInfo 4 3) } seventeenPongs
    (fun final => (final.started 0 :: final.handled 0).Pairwise (· ≤ ·) ∧
      16 < within (final.handled 0) 1 (1 + 1)) (by decide +kernel) with
    ⟨final, reached, ordered, many⟩
  have budget := control_budget samplePrimitives true (sampleInfo 4 3) 0 seventeenPongs final
    reached 0 ordered
  exact ⟨final, reached, budget.2 1 many⟩

end Budgeted

end Usmp
