import Usmp.Session.View

/-!
# A session as the receiver of a stream

`Receiver session view header` says that the session has made `view` of what it
received, and that its `recv` has taken `header` of the next frame.  It holds for
sessions with one call of `recv` at a time, whatever else runs beside it.
-/

namespace Usmp

/-- The locals of the `recv` that a coroutine belongs to. -/
def Task.locals? : Task → Option RecvLocals
  | .reading locals _ | .lockWait (.pong locals) | .writing (.pong locals) => some locals
  | _ => none

theorem Task.locals?_of_recv {at_ : Task} (isRecv : at_.op = .recv) :
    ∃ locals, at_.locals? = some locals := by
  cases at_ with
  | reading locals pending => exact ⟨locals, rfl⟩
  | lockWait locked | writing locked => cases locked <;> simp_all [Locked.op, Task.locals?]

theorem Task.op_of_locals? {at_ : Task} {locals : RecvLocals} (isSome : at_.locals? = some locals) :
    at_.op = .recv := by
  cases at_ with
  | reading locals pending => rfl
  | lockWait locked | writing locked => cases locked <;> simp_all [Locked.op, Task.locals?]

def Outcome.message? : Outcome → Option Bytes
  | .returned message => message
  | .raised _ | .cancelled => none

namespace Session

/-- The messages that calls of `recv` returned. -/
def received (session : Session) : List Bytes :=
  session.outcomes.filterMap fun outcome => outcome.2.message?

/-- Whether a call of `recv` is in progress. -/
def receiving (session : Session) : Bool :=
  session.calls.any fun call => (session.tasks call.1).any fun at_ => at_.op = .recv

theorem CallInv.receiving_iff {session : Session} (inv : CallInv session) :
    session.receiving = true ↔
      ∃ task at_, session.tasks task = some at_ ∧ at_.op = .recv := by
  simp only [receiving, List.any_eq_true, Option.any_eq_true, decide_eq_true_eq]
  constructor
  · rintro ⟨call, _, at_, isAt, isRecv⟩
    exact ⟨call.1, at_, isAt, isRecv⟩
  · rintro ⟨task, at_, isAt, isRecv⟩
    exact ⟨_, inv.known task at_ isAt, at_, isAt, isRecv⟩

theorem received_settle (session : Session) (task : Nat) (fate : Fate) :
    (session.settle task fate).received =
      session.received ++ (fate.outcome.bind Outcome.message?).toList := by
  rw [received, settle_outcomes, List.filterMap_append]
  congr 1
  cases fate with
  | suspended at_ => rfl
  | ended outcome =>
      cases outcome <;> simp [Fate.outcome, Outcome.message?, List.filterMap]
      split <;> simp_all

structure Receiver (session : Session) (view : View) (header : Option Bytes) : Prop where
  matched : view.Matches session.info
  messages : session.received = view.messages
  tidy : view.Tidy
  /-- One call of `recv` at a time. -/
  alone : ∀ task other at_ at_', session.tasks task = some at_ → at_.op = .recv →
    session.tasks other = some at_' → at_'.op = .recv → task = other
  shown : ∀ task at_ locals, session.tasks task = some at_ → at_.locals? = some locals →
    view.ShownBy locals
  between : (∀ task at_, session.tasks task = some at_ → at_.op ≠ .recv) → view.fragments = 0
  taken : ∀ task locals pending, session.tasks task = some (.reading locals pending) →
    pending = header
  untaken : (∀ task locals pending, session.tasks task ≠ some (.reading locals pending)) →
    header = none

theorem Receiver.new (reliable : Bool) (info : SessionInfo) (now : Rat) :
    Receiver (Session.new reliable info now)
      { txKey := info.txKey, rxKey := info.rxKey, rxSeq := info.rxSeq } none := by
  constructor <;> try simp [Session.new, received]
  · exact ⟨rfl, rfl, rfl⟩
  · exact fun _ => rfl

/-- A coroutine of another call moves.  The keys and the sequence may change with it
between two messages. -/
theorem Receiver.settle_other {before base : Session} {view next : View}
    {header : Option Bytes} {task : Nat} {fate : Fate} (receiver : Receiver before view header)
    (tasks : base.tasks = before.tasks) (outcomes : base.outcomes = before.outcomes)
    (matched : next.Matches base.info) (messages : next.messages = view.messages)
    (assembled : next.assembled = view.assembled) (fragments : next.fragments = view.fragments)
    (rxSeq : 0 < view.fragments → next.rxSeq = view.rxSeq)
    (wasOther : ∀ at_, before.tasks task = some at_ → at_.op ≠ .recv)
    (isOther : ∀ at_, fate.await = some at_ → at_.op ≠ .recv)
    (noMessage : fate.outcome.bind Outcome.message? = none) :
    Receiver (base.settle task fate) next header := by
  have same : ∀ other at_, at_.op = .recv →
      ((base.settle task fate).tasks other = some at_ ↔ before.tasks other = some at_) := by
    intro other at_ isRecv
    by_cases isTask : other = task
    · subst isTask
      simp only [settle_tasks, Function.update_self]
      exact ⟨fun isAt => absurd isRecv (isOther at_ isAt),
        fun isAt => absurd isRecv (wasOther at_ isAt)⟩
    · simp [isTask, tasks]
  refine ⟨by simpa using matched, ?_, ?_, ?_, ?_, ?_, ?_, ?_⟩
  · rw [received_settle, noMessage, messages]
    simpa [received, outcomes] using receiver.messages
  · intro between
    rw [assembled]
    exact receiver.tidy (fragments ▸ between)
  · intro first second at_ at_' isAt isRecv isAt' isRecv'
    exact receiver.alone first second at_ at_' ((same _ _ isRecv).mp isAt) isRecv
      ((same _ _ isRecv').mp isAt') isRecv'
  · intro other at_ locals isAt isLocals
    have shown := receiver.shown other at_ locals
      ((same _ _ (Task.op_of_locals? isLocals)).mp isAt) isLocals
    refine ⟨shown.assembled.trans assembled.symm, shown.fragments.trans fragments.symm, ?_⟩
    intro some
    rw [fragments] at some
    rw [shown.expected some, rxSeq some]
  · intro none
    rw [fragments]
    refine receiver.between fun other at_ isAt isRecv => ?_
    exact none other at_ ((same _ _ isRecv).mpr isAt) isRecv
  · intro other locals pending isReading
    exact receiver.taken other locals pending ((same _ _ rfl).mp isReading)
  · intro none
    refine receiver.untaken fun other locals pending isReading => ?_
    exact none other locals pending ((same _ _ rfl).mpr isReading)

/-- The coroutine of the only `recv` moves, and the view may change with it. -/
theorem Receiver.settle_recv {base : Session} {view : View} {header : Option Bytes} {task : Nat}
    {fate : Fate} (matched : view.Matches base.info) (tidy : view.Tidy)
    (messages : base.received ++ (fate.outcome.bind Outcome.message?).toList = view.messages)
    (alone : ∀ other at_, other ≠ task → base.tasks other = some at_ → at_.op ≠ .recv)
    (shown : ∀ at_ locals, fate.await = some at_ → at_.locals? = some locals →
      view.ShownBy locals)
    (between : (∀ at_, fate.await = some at_ → at_.op ≠ .recv) → view.fragments = 0)
    (taken : ∀ locals pending, fate.await = some (.reading locals pending) →
      pending = header)
    (untaken : (∀ locals pending, fate.await ≠ some (.reading locals pending)) →
      header = none) :
    Receiver (base.settle task fate) view header := by
  have only : ∀ other at_, at_.op = .recv → (base.settle task fate).tasks other = some at_ →
      other = task ∧ fate.await = some at_ := by
    intro other at_ isRecv isAt
    by_cases isTask : other = task
    · subst isTask
      exact ⟨rfl, by simpa using isAt⟩
    · exact absurd isRecv (alone other at_ isTask (by simpa [isTask] using isAt))
  refine ⟨by simpa using matched, by rw [received_settle, messages], tidy, ?_, ?_, ?_, ?_, ?_⟩
  · intro first second at_ at_' isAt isRecv isAt' isRecv'
    rw [(only first at_ isRecv isAt).1, (only second at_' isRecv' isAt').1]
  · intro other at_ locals isAt isLocals
    exact shown at_ locals (only other at_ (Task.op_of_locals? isLocals) isAt).2 isLocals
  · intro none
    refine between fun at_ isAt => ?_
    exact none task at_ (by simpa using isAt)
  · intro other locals pending isReading
    exact taken locals pending (only other _ rfl isReading).2
  · intro none
    refine untaken fun locals pending isReading => ?_
    exact none task locals pending (by simpa using isReading)

/-- A call of `recv` between messages. -/
theorem Receiver.called {before base : Session} {view : View} {header : Option Bytes} {task : Nat}
    {closed : Bool} {now : Rat} (receiver : Receiver before view header)
    (tasks : base.tasks = before.tasks) (outcomes : base.outcomes = before.outcomes)
    (matched : view.Matches base.info)
    (none : ∀ other at_, before.tasks other = some at_ → at_.op ≠ .recv) :
    Receiver (base.settle task (Op.recv.start closed now)) view header := by
  have messages : base.received = view.messages := by
    rw [received, outcomes]
    exact receiver.messages
  refine .settle_recv matched receiver.tidy (by simpa [Op.start, Fate.outcome] using messages)
    (fun other at_ _ isAt => none other at_ (tasks ▸ isAt)) ?_
    (fun _ => receiver.between none) ?_ ?_
  · intro at_ locals isAt isLocals
    cases isAt
    cases isLocals
    exact View.shownBy_new (receiver.between none) receiver.tidy now
  · intro locals pending isReading
    cases isReading
    exact (receiver.untaken fun other locals pending isReading =>
      none other _ isReading rfl).symm
  · intro notReading
    exact absurd rfl (notReading _ _)

/-- The fate of a coroutine of another call is no `recv` and no message. -/
theorem raisedFate_other {locked : Locked} (isOther : locked.op ≠ .recv) (reliable : Bool)
    (exn : Exn) :
    (∀ at_, (locked.raisedFate reliable exn).await = some at_ → at_.op ≠ .recv) ∧
      (locked.raisedFate reliable exn).outcome.bind Outcome.message? = none := by
  constructor
  · intro at_ isAt
    obtain ⟨before, after, rfl, rfl⟩ := Locked.await_raisedFate isAt
    exact absurd rfl isOther
  · cases locked with
    | pong locals => exact absurd rfl isOther
    | bye =>
        simp only [Locked.raisedFate]
        split <;> rfl
    | send data offset | ping | rekey salt => rfl

theorem Op.start_other {op : Op} (isOther : op ≠ .recv) (closed : Bool) (now : Rat) :
    (∀ at_, (op.start closed now).await = some at_ → at_.op ≠ .recv) ∧
      (op.start closed now).outcome.bind Outcome.message? = none := by
  constructor
  · intro at_ isAt
    rw [(Op.await_start isAt).1]
    exact isOther
  · cases op with
    | send data | bye =>
        simp only [Op.start]
        split <;> rfl
    | ping | rekey salt | recv => rfl

/-- What a step leaves to its coroutine alone. -/
theorem Progress.frame {P : Primitives} {before base : Session} {action : SessionAction}
    {fate : Fate} {effects : Effects} (progress : Progress P before action base fate effects) :
    base.tasks = before.tasks ∧ base.outcomes = before.outcomes := by
  cases progress <;> exact ⟨rfl, rfl⟩

/-- A step that neither reads nor rotates keeps the receive position. -/
theorem Progress.matches {P : Primitives} {before base : Session} {action : SessionAction}
    {fate : Fate} {effects : Effects} {view : View}
    (progress : Progress P before action base fate effects)
    (epochs : base.epochs = before.epochs)
    (notRead : ∀ task result now, action ≠ .read task result now)
    (matched : view.Matches before.info) : view.Matches base.info := by
  cases progress with
  | rekeyed task salt now writing => simp at epochs
  | received task locals pending now result reading turn isTurn =>
      exact absurd rfl (notRead task result now)
  | encrypted => exact ⟨matched.txKey, matched.rxKey, matched.rxSeq⟩
  | called | refused | failed | sent | signalled | ponged | tookHeader | abandoned
  | interrupted => exact matched

/-- A coroutine of another call does not become a `recv`. -/
theorem Progress.other {P : Primitives} {before base : Session} {action : SessionAction}
    {fate : Fate} {effects : Effects} (progress : Progress P before action base fate effects)
    (notCall : ∀ task now, action ≠ .call task .recv now)
    (isOther : ∀ at_, before.tasks action.task = some at_ → at_.op ≠ .recv) :
    (∀ at_, fate.await = some at_ → at_.op ≠ .recv) ∧
      fate.outcome.bind Outcome.message? = none := by
  have ended : (∀ at_, (Fate.ended (.returned none)).await = some at_ → at_.op ≠ .recv) ∧
      (Fate.ended (.returned none)).outcome.bind Outcome.message? = none :=
    ⟨fun _ impossible => (by cases impossible), rfl⟩
  have cancelled : (∀ at_, (Fate.ended .cancelled).await = some at_ → at_.op ≠ .recv) ∧
      (Fate.ended .cancelled).outcome.bind Outcome.message? = none :=
    ⟨fun _ impossible => (by cases impossible), rfl⟩
  cases progress with
  | called task op now isNew =>
      exact Op.start_other (fun isRecv => notCall task now (by rw [isRecv])) _ _
  | encrypted task action locked admitted ready unspent =>
      obtain ⟨isTask, was, wasAt, sameOp, _⟩ := ready.was
      refine ⟨fun at_ isAt => ?_, rfl⟩
      cases isAt
      rw [Task.op_writing, ← sameOp]
      exact isOther was (isTask ▸ wasAt)
  | refused task action locked admitted ready spent notBye exn =>
      obtain ⟨isTask, was, wasAt, sameOp, _⟩ := ready.was
      exact raisedFate_other (sameOp ▸ isOther was (isTask ▸ wasAt)) _ _
  | failed task locked exn now writing => exact raisedFate_other (isOther _ writing) _ _
  | sent | signalled | rekeyed => exact ended
  | ponged task locals now writing => exact absurd rfl (isOther _ writing)
  | received task locals pending now result reading turn isTurn =>
      exact absurd rfl (isOther _ reading)
  | tookHeader task locals header reading => exact absurd rfl (isOther _ reading)
  | abandoned | interrupted => exact cancelled

/-- The header that `recv` holds after a step. -/
def headerAfter (header : Option Bytes) : SessionAction → Option Bytes
  | .readHeader _ taken => some taken
  | _ => header

/-- Over a reliable transport the `recv` in progress goes on without a frame in two
ways: it takes a header, or its PONG gets on. -/
theorem Progress.continues {P : Primitives} {before base : Session} {action : SessionAction}
    {fate : Fate} {effects : Effects} {at_ next : Task}
    (progress : Progress P before action base fate effects)
    (reliable : before.reliable = true)
    (notRead : ∀ task result now, action ≠ .read task result now)
    (notCall : ∀ task op now, action ≠ .call task op now)
    (isAt : before.tasks action.task = some at_) (isRecv : at_.op = .recv)
    (continues : fate.await = some next) :
    (∃ task locals taken, action = .readHeader task taken ∧ at_ = .reading locals none ∧
        next = .reading locals (some taken)) ∨
      (∀ header, headerAfter header action = header) ∧ next.op = .recv ∧
        (∀ locals pending, at_ ≠ .reading locals pending) ∧
        (∀ locals pending, next = .reading locals pending → pending = none) ∧
        ∀ locals, next.locals? = some locals → ∃ earlier, at_.locals? = some earlier ∧
          ∀ view : View, view.ShownBy earlier → view.ShownBy locals := by
  cases progress with
  | called task op now isNew => exact absurd rfl (notCall task op now)
  | encrypted task action locked admitted ready unspent =>
      obtain ⟨isTask, was, wasAt, sameOp, notReading⟩ := ready.was
      rw [isTask, wasAt] at isAt
      cases isAt
      cases continues
      refine .inr ⟨?_, sameOp.symm.trans isRecv, notReading, by simp, ?_⟩
      · cases ready <;> exact fun _ => rfl
      · intro locals isLocals
        cases ready with
        | admitted locked free waiting =>
            rw [waiting] at wasAt
            cases wasAt
            cases locked with
            | pong earlier =>
                cases isLocals
                exact ⟨locals, rfl, fun _ => id⟩
            | send data offset | ping | rekey salt | bye => cases isLocals
        | nextFragment data offset now writing more => cases isLocals
  | refused task action locked admitted ready spent notBye exn =>
      obtain ⟨_, after, rfl, rfl⟩ := Locked.await_raisedFate continues
      simp [Locked.raisedFate, onViolation, reliable, RecvStep.fate, Fate.await] at continues
  | failed task locked exn now writing =>
      obtain ⟨_, after, rfl, rfl⟩ := Locked.await_raisedFate continues
      simp [Locked.raisedFate, onViolation, reliable, RecvStep.fate, Fate.await] at continues
  | sent | signalled | rekeyed | abandoned | interrupted => cases continues
  | ponged task earlier now writing =>
      rw [SessionAction.task, writing] at isAt
      cases isAt
      refine .inr ⟨fun _ => rfl, ?_, by simp, ?_, ?_⟩
      · rcases RecvStep.await_fate continues with ⟨after, rfl⟩ | ⟨after, rfl⟩ <;> rfl
      · intro locals pending isReading
        rcases RecvStep.await_fate continues with ⟨after, rfl⟩ | ⟨after, rfl⟩
        · cases isReading
          rfl
        · cases isReading
      · intro locals isLocals
        refine ⟨earlier, rfl, fun view shown => ?_⟩
        unfold pongSent at continues
        split at continues
        · simp [onViolation, reliable, RecvStep.fate, Fate.await] at continues
        · rename_i within
          cases continues
          cases isLocals
          exact shown.countControl within
  | received task locals pending now result reading turn isTurn =>
      exact absurd rfl (notRead task result now)
  | tookHeader task locals taken reading =>
      rw [SessionAction.task, reading] at isAt
      cases isAt
      cases continues
      exact .inl ⟨task, locals, taken, rfl, rfl, rfl⟩

/-- Every step over a reliable transport that neither reads a frame nor rotates the
keys keeps the view, as long as `recv` goes on. -/
theorem Receiver.progress {P : Primitives} {before base : Session} {action : SessionAction}
    {fate : Fate} {effects : Effects} {view : View} {header : Option Bytes}
    (inv : CallInv before) (reliable : before.reliable = true)
    (receiver : Receiver before view header)
    (progress : Progress P before action base fate effects)
    (epochs : base.epochs = before.epochs)
    (notRead : ∀ task result now, action ≠ .read task result now)
    (single : ∀ task now, action = .call task .recv now → before.receiving = false)
    (goesOn : ∀ at_, before.tasks action.task = some at_ → at_.op = .recv →
      ∃ next, fate.await = some next) :
    Receiver (base.settle action.task fate) view (headerAfter header action) := by
  obtain ⟨tasks, outcomes⟩ := progress.frame
  have matched := progress.matches epochs notRead receiver.matched
  have messages : base.received = view.messages := by
    rw [received, outcomes]
    exact receiver.messages
  by_cases isCall : ∃ task now, action = .call task .recv now
  · obtain ⟨task, now, rfl⟩ := isCall
    have none : ∀ other at_, before.tasks other = some at_ → at_.op ≠ .recv := by
      intro other at_ isAt isRecv
      have some := inv.receiving_iff.mpr ⟨other, at_, isAt, isRecv⟩
      rw [single task now rfl] at some
      cases some
    have isFate : fate = Op.recv.start before.closed now := by
      cases progress with
      | called => rfl
      | encrypted task action locked admitted ready unspent => cases ready
      | refused task action locked admitted ready spent notBye exn => cases ready
    subst isFate
    exact receiver.called tasks outcomes matched none
  have notCall : ∀ task now, action ≠ .call task .recv now :=
    fun task now isCall' => isCall ⟨task, now, isCall'⟩
  by_cases isOther : ∀ at_, before.tasks action.task = some at_ → at_.op ≠ .recv
  · obtain ⟨stays, noMessage⟩ := progress.other notCall isOther
    have sameHeader : headerAfter header action = header := by
      cases action with
      | readHeader task taken =>
          cases progress with
          | tookHeader task locals taken reading => exact absurd rfl (isOther _ reading)
          | encrypted task action locked admitted ready unspent => cases ready
          | refused task action locked admitted ready spent notBye exn => cases ready
      | _ => rfl
    rw [sameHeader]
    exact receiver.settle_other tasks outcomes matched rfl rfl rfl (fun _ => rfl) isOther stays
      noMessage
  -- what is left are the steps of the `recv` in progress
  simp only [not_forall, not_not] at isOther
  obtain ⟨at_, isAt, isRecv⟩ := isOther
  have oldCall : ∀ task op now, action ≠ .call task op now := by
    rintro task op now rfl
    cases progress with
    | called task op now isNew =>
        rw [SessionAction.task, inv.none_of_new isNew] at isAt
        cases isAt
    | encrypted task action locked admitted ready unspent => cases ready
    | refused task action locked admitted ready spent notBye exn => cases ready
  obtain ⟨next, continues⟩ := goesOn at_ isAt isRecv
  have isNext : fate = .suspended next := by
    cases fate <;> cases continues
    rfl
  subst isNext
  have alone : ∀ other at_', other ≠ action.task → base.tasks other = some at_' →
      at_'.op ≠ .recv := by
    intro other at_' distinct isAt' isRecv'
    rw [tasks] at isAt'
    exact distinct (receiver.alone other _ at_' at_ isAt' isRecv' isAt isRecv)
  have untaken : (∀ locals pending, at_ ≠ .reading locals pending) → header = none := by
    intro notReading
    refine receiver.untaken fun other locals pending isReading => ?_
    by_cases same : other = action.task
    · rw [same, isAt] at isReading
      exact notReading locals pending (Option.some.inj isReading)
    · exact alone other _ same (tasks ▸ isReading) rfl
  have noMessage : base.received ++
      ((Fate.suspended next).outcome.bind Outcome.message?).toList = view.messages := by
    simpa [Fate.outcome] using messages
  rcases progress.continues reliable notRead oldCall isAt isRecv rfl with
    ⟨task, locals, taken, rfl, rfl, rfl⟩ | ⟨sameHeader, isRecv', notReading, fresh, shown⟩
  · refine .settle_recv matched receiver.tidy noMessage alone ?_ ?_ ?_ ?_
    · intro other locals' isNext isLocals
      cases isNext
      cases isLocals
      exact receiver.shown _ _ locals isAt rfl
    · intro none
      exact absurd rfl (none _ rfl)
    · intro locals' pending isReading
      cases isReading
      rfl
    · intro none
      exact absurd rfl (none _ _)
  · have noHeader := untaken notReading
    rw [sameHeader, noHeader]
    refine .settle_recv matched receiver.tidy noMessage alone ?_ ?_ ?_ (fun _ => rfl)
    · intro other locals isNext isLocals
      cases isNext
      obtain ⟨earlier, isEarlier, carries⟩ := shown locals isLocals
      exact carries view (receiver.shown _ _ earlier isAt isEarlier)
    · intro none
      exact absurd isRecv' (none next rfl)
    · intro locals pending isReading
      cases isReading
      exact fresh locals pending rfl

/-- The end of a `rekey` between two messages. -/
theorem Receiver.rekeyed {before base : Session} {view : View} {header : Option Bytes}
    {task : Nat} {salt : FixedBytes 32} {keys : Key × Key}
    (receiver : Receiver before view header) (between : view.fragments = 0)
    (tasks : base.tasks = before.tasks) (outcomes : base.outcomes = before.outcomes)
    (info : base.info = before.info.rotated keys)
    (writing : before.tasks task = some (.writing (.rekey salt))) :
    Receiver (base.settle task (.ended (.returned none)))
      { view with txKey := keys.1, rxKey := keys.2, rxSeq := 0 } header := by
  refine receiver.settle_other tasks outcomes ?_ rfl rfl rfl ?_ ?_
    (fun _ impossible => by cases impossible) rfl
  · rw [info]
    exact ⟨rfl, rfl, rfl⟩
  · intro some
    omega
  · intro at_ isAt
    rw [writing] at isAt
    cases isAt
    simp [Locked.op]

/-- A turn of the loop takes the view along. -/
theorem Receiver.turned {before base : Session} {view next : View} {header : Option Bytes}
    {task : Nat} {was : Task} {type : PacketType} {step : RecvStep}
    (receiver : Receiver before view header) (wasAt : before.tasks task = some was)
    (isRecv : was.op = .recv) (tasks : base.tasks = before.tasks)
    (outcomes : base.outcomes = before.outcomes) (matched : next.Matches base.info)
    (tidy : next.Tidy) (turned : View.Turned view next type step) :
    Receiver (base.settle task step.fate) next none := by
  have alone : ∀ other at_, other ≠ task → base.tasks other = some at_ → at_.op ≠ .recv := by
    intro other at_ distinct isAt isRecv'
    rw [tasks] at isAt
    exact distinct (receiver.alone other task at_ was isAt isRecv' wasAt isRecv)
  have old : base.received = view.messages := by
    rw [received, outcomes]
    exact receiver.messages
  refine .settle_recv matched tidy ?_ alone ?_ ?_ ?_ (fun _ => rfl)
  · rw [old]
    cases turned with
    | next locals shown messages | pong locals shown messages =>
        simp [RecvStep.fate, Fate.outcome, messages]
    | returned payload fragments messages =>
        simp [RecvStep.fate, Fate.outcome, Outcome.message?, messages]
    | raised exn fragments messages =>
        simp [RecvStep.fate, Fate.outcome, Outcome.message?, messages]
  · intro at_ locals isAt isLocals
    cases turned with
    | next locals shown messages =>
        cases isAt
        cases isLocals
        exact shown
    | pong locals shown messages =>
        cases isAt
        cases isLocals
        exact shown
    | returned | raised => cases isAt
  · intro none
    cases turned with
    | next locals shown messages => exact absurd rfl (none _ rfl)
    | pong locals shown messages => exact absurd rfl (none _ rfl)
    | returned payload fragments | raised exn fragments => exact fragments
  · intro locals pending isReading
    cases turned with
    | next locals shown messages =>
        cases isReading
        rfl
    | pong | returned | raised => cases isReading

/-- Reading the next frame of the sender takes the view along. -/
theorem Receiver.read {before base : Session} {view next : View} {header : Option Bytes}
    {task : Nat} {locals : RecvLocals} {pending : Option Bytes} {type : PacketType}
    {step : RecvStep} (receiver : Receiver before view header)
    (reading : before.tasks task = some (.reading locals pending))
    (tasks : base.tasks = before.tasks) (outcomes : base.outcomes = before.outcomes)
    (matched : next.Matches base.info) (tidy : next.Tidy)
    (turned : View.Turned view next type step) :
    Receiver (base.settle task step.fate) next none :=
  receiver.turned reading rfl tasks outcomes matched tidy turned

/-- The session with another receive sequence.  Over UDP `rx_seq` is the largest sequence seen
and not the next one. -/
def expecting (session : Session) (rxSeq : Nat) : Session :=
  { session with info := { session.info with rxSeq } }

theorem expecting_settle (session : Session) (rxSeq task : Nat) (fate : Fate) :
    (session.settle task fate).expecting rxSeq = (session.expecting rxSeq).settle task fate := by
  cases fate <;> rfl

end Session

end Usmp
