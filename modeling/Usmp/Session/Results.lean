import Usmp.Session.Mirror
import Mathlib.Data.List.Nodup

/-!
# What the calls come to

The results of the calls of a session: the messages whose `send` returned, and
whether a `recv` raised.  As long as no locked part is cut short, `send` returns in the
order in which the lock admits it.
-/

namespace Usmp

def Op.payload? : Op → Option Bytes
  | .send data => some data
  | _ => none

@[simp] theorem Locked.payload?_op (locked : Locked) : locked.op.payload? = locked.payload? := by
  cases locked <;> rfl

namespace Session

/-- The message of a call. -/
def payloadOf (session : Session) (task : Nat) : Option Bytes :=
  (session.calls.lookup task).bind Op.payload?

/-- The messages whose `send` returned, in the order in which it did. -/
def completedSends (session : Session) : List Bytes :=
  session.outcomes.filterMap fun outcome =>
    if outcome.2 = .returned none then session.payloadOf outcome.1 else none

/-- The call of `recv` raised. -/
def RecvRaised (session : Session) : Prop :=
  ∃ task exn, (task, Op.recv) ∈ session.calls ∧ (task, .raised exn) ∈ session.outcomes

theorem CallInv.lookup {session : Session} (inv : CallInv session) {task : Nat} {op : Op}
    (call : (task, op) ∈ session.calls) : session.calls.lookup task = some op := by
  obtain ⟨before, after, split⟩ := List.append_of_mem call
  rw [List.lookup_eq_some_iff]
  refine ⟨before, after, split, fun other member => ?_⟩
  have nodup := inv.nodup
  rw [split, List.map_append, List.map_cons, List.nodup_append] at nodup
  have distinct := nodup.2.2 other.1 (List.mem_map_of_mem member) task List.mem_cons_self
  simpa using distinct.symm

/-- The results of a run in which no `recv` raised and no locked part was cut short. -/
structure Results (session : Session) : Prop where
  known : ∀ outcome ∈ session.outcomes, outcome.1 ∈ session.calls.map Prod.fst
  noFault : ¬ session.RecvRaised
  completed : session.completedSends =
    if session.holder.any (fun locked => locked.payload?.isSome) then
      session.admittedPayloads.dropLast
    else
      session.admittedPayloads

theorem Results.new (reliable : Bool) (info : SessionInfo) (now : Rat) :
    Results (Session.new reliable info now) := by
  constructor <;>
    simp [Session.new, RecvRaised, completedSends, holder, admittedPayloads]

/-- The completed calls of `send` after a coroutine moved. -/
theorem completedSends_settle {base : Session} {task : Nat} {fate : Fate} :
    (base.settle task fate).completedSends =
      base.completedSends ++
        (if fate.outcome = some (.returned none) then base.payloadOf task else none).toList := by
  have sameCalls : ∀ other, (base.settle task fate).payloadOf other = base.payloadOf other := by
    intro other
    simp [payloadOf]
  simp only [completedSends, sameCalls, settle_outcomes, List.filterMap_append]
  congr 1
  cases fate with
  | suspended at_ => simp [Fate.outcome]
  | ended outcome =>
      simp only [Fate.outcome, Option.toList_some, List.map_cons, List.map_nil,
        List.filterMap_cons, List.filterMap_nil, Option.some.injEq]
      split <;> rename_i isNone <;> simp [isNone]

/-- A `recv` that raised did so before the coroutine moved, or just then. -/
theorem recvRaised_settle {base : Session} {task : Nat} {fate : Fate}
    (raised : (base.settle task fate).RecvRaised) :
    base.RecvRaised ∨
      ∃ exn, fate = .ended (.raised exn) ∧ (task, Op.recv) ∈ base.calls := by
  obtain ⟨other, exn, isRecv, member⟩ := raised
  simp only [settle_frame, settle_outcomes] at isRecv member
  rcases List.mem_append.mp member with old | new
  · exact .inl ⟨other, exn, isRecv, old⟩
  · right
    cases fate with
    | suspended at_ => cases new
    | ended outcome =>
        simp only [Fate.outcome, Option.toList_some, List.map_cons, List.map_nil,
          List.mem_singleton, Prod.mk.injEq] at new
        obtain ⟨rfl, rfl⟩ := new
        exact ⟨exn, rfl, isRecv⟩

/-- A coroutine that was not sending a message moves. -/
theorem Results.settle {before base : Session} {task : Nat} {fate : Fate}
    (results : Results before) (calls : base.calls = before.calls)
    (outcomes : base.outcomes = before.outcomes) (called : task ∈ before.calls.map Prod.fst)
    (noRaise : ∀ exn, fate = .ended (.raised exn) → (task, Op.recv) ∉ before.calls)
    (completed : before.completedSends ++
        (if fate.outcome = some (.returned none) then before.payloadOf task else none).toList =
      if (base.settle task fate).holder.any (fun locked => locked.payload?.isSome) then
        base.admittedPayloads.dropLast
      else
        base.admittedPayloads) :
    Results (base.settle task fate) := by
  have sameCompleted : base.completedSends = before.completedSends := by
    simp [completedSends, payloadOf, calls, outcomes]
  have samePayload : base.payloadOf task = before.payloadOf task := by
    simp [payloadOf, calls]
  refine ⟨?_, ?_, ?_⟩
  · intro outcome member
    simp only [settle_outcomes, outcomes, settle_frame, calls] at member ⊢
    rcases List.mem_append.mp member with old | new
    · exact results.known outcome old
    · obtain ⟨_, _, rfl⟩ := List.mem_map.mp new
      exact called
  · intro raised
    rcases recvRaised_settle raised with ⟨other, exn, isRecv, member⟩ | ⟨exn, isFate, isRecv⟩
    · exact results.noFault ⟨other, exn, calls ▸ isRecv, outcomes ▸ member⟩
    · exact noRaise exn isFate (calls ▸ isRecv)
  · rw [completedSends_settle, sameCompleted, samePayload, completed]
    simp [admittedPayloads]

/-- A new call. -/
theorem Results.called {before base : Session} {task : Nat} {op : Op} {closed : Bool} {now : Rat}
    (results : Results before) (inv : CallInv before)
    (isNew : task ∉ before.calls.map Prod.fst) (calls : base.calls = before.calls ++ [(task, op)])
    (outcomes : base.outcomes = before.outcomes) (tasks : base.tasks = before.tasks)
    (lock : base.lock = before.lock) (admitted : base.admitted = before.admitted) :
    Results (base.settle task (op.start closed now)) := by
  have newCall : base.payloadOf task = op.payload? := by
    have absent : before.calls.lookup task = none := by
      rw [List.lookup_eq_none_iff]
      intro other member
      have distinct : task ≠ other.1 := fun same => isNew (same ▸ List.mem_map_of_mem member)
      simpa using distinct
    simp [payloadOf, calls, List.lookup_append, absent]
  have noPayload : (op.start closed now).outcome = some (.returned none) → op.payload? = none := by
    intro returned
    cases op with
    | send data =>
        simp only [Op.start] at returned
        split at returned <;> cases returned
    | ping | rekey salt | bye | recv => rfl
  refine ⟨?_, ?_, ?_⟩
  · intro outcome member
    simp only [settle_outcomes, settle_frame, calls, outcomes, List.map_append] at member ⊢
    rcases List.mem_append.mp member with old | new
    · exact List.mem_append_left _ (results.known outcome old)
    · obtain ⟨_, _, rfl⟩ := List.mem_map.mp new
      simp
  · intro raised
    rcases recvRaised_settle raised with ⟨other, exn, isRecv, member⟩ | ⟨exn, isFate, isRecv⟩
    · rw [calls] at isRecv
      rw [outcomes] at member
      have isKnown := results.known _ member
      rcases List.mem_append.mp isRecv with old | new
      · exact results.noFault ⟨other, exn, old, member⟩
      · cases List.mem_singleton.mp new
        exact isNew isKnown
    · rw [calls] at isRecv
      rcases List.mem_append.mp isRecv with old | new
      · exact isNew (List.mem_map_of_mem old)
      · cases List.mem_singleton.mp new
        cases isFate
  · have sameCompleted : base.completedSends = before.completedSends := by
      rw [completedSends, outcomes]
      refine List.filterMap_congr fun outcome member => ?_
      obtain ⟨call, isCall, same⟩ := List.mem_map.mp (results.known outcome member)
      have found : before.calls.lookup outcome.1 = some call.2 := by
        rw [← same]
        exact inv.lookup isCall
      simp [payloadOf, calls, List.lookup_append, found]
    have nothing : (if (op.start closed now).outcome = some (.returned none) then
        base.payloadOf task else none) = none := by
      split
      · rename_i returned
        rw [newCall, noPayload returned]
      · rfl
    rw [completedSends_settle, sameCompleted, nothing,
      inv.holder_settle_other tasks lock (by simp [inv.none_of_new isNew])]
    simpa [admittedPayloads, admitted] using results.completed

variable {P : Primitives}

theorem Results.progress {before base : Session} {action : SessionAction} {fate : Fate}
    {effects : Effects} (results : Results before) (inv : CallInv before)
    (progress : Progress P before action base fate effects)
    (completes : Completes before action)
    (noRaise : ∀ exn at_, fate = .ended (.raised exn) →
      before.tasks action.task = some at_ → at_.op ≠ .recv) :
    Results (base.settle action.task fate) := by
  have callOf : ∀ {task : Nat} {at_ : Task}, before.tasks task = some at_ →
      task ∈ before.calls.map Prod.fst ∧ before.payloadOf task = at_.op.payload? := by
    intro task at_ isAt
    have call := inv.known task at_ isAt
    refine ⟨List.mem_map_of_mem call, ?_⟩
    rw [payloadOf, inv.lookup call]
    rfl
  have notRecv : ∀ {at_ : Task}, before.tasks action.task = some at_ →
      ∀ exn, fate = .ended (.raised exn) → (action.task, Op.recv) ∉ before.calls := by
    intro at_ isAt exn isFate isRecv
    have call := inv.lookup (inv.known _ at_ isAt)
    rw [inv.lookup isRecv] at call
    exact noRaise exn at_ isFate isAt (Option.some.inj call).symm
  -- a coroutine that does not touch the lock and does not end a `send`
  have aside : ∀ {base : Session}, base.calls = before.calls → base.outcomes = before.outcomes →
      base.tasks = before.tasks → base.lock = before.lock → base.admitted = before.admitted →
      ∀ {at_ : Task}, before.tasks action.task = some at_ → at_.op.payload? = none →
      (∀ locked, at_ ≠ .writing locked) → Results (base.settle action.task fate) := by
    intro base calls outcomes tasks lock admitted at_ isAt noPayload unlocked
    obtain ⟨called, payload⟩ := callOf isAt
    refine results.settle calls outcomes called (notRecv isAt) ?_
    rw [inv.holder_settle_other tasks lock (fun locked writing => ?_), payload, noPayload]
    · simpa [admittedPayloads, admitted] using results.completed
    · rw [isAt] at writing
      exact unlocked locked (Option.some.inj writing)
  -- the end of a locked part that is no `send`
  have ended : ∀ {base : Session}, base.calls = before.calls → base.outcomes = before.outcomes →
      base.lock = none → base.admitted = before.admitted →
      ∀ {locked : Locked}, before.tasks action.task = some (.writing locked) →
      locked.payload? = none → Results (base.settle action.task fate) := by
    intro base calls outcomes lock admitted locked writing noPayload
    obtain ⟨called, payload⟩ := callOf writing
    refine results.settle calls outcomes called (notRecv writing) ?_
    have completed := results.completed
    rw [inv.holder_eq writing, Option.any_some, noPayload] at completed
    rw [holder_of_free (by simpa using lock), payload, Task.op_writing, Locked.payload?_op,
      noPayload]
    simpa [admittedPayloads, admitted] using completed
  cases progress with
  | called task op now isNew => exact results.called inv isNew rfl rfl rfl rfl rfl
  | encrypted task action locked admitted ready unspent =>
      obtain ⟨isTask, was, wasAt, sameOp, notReading⟩ := ready.was
      rw [isTask] at notRecv ⊢
      refine results.settle rfl rfl (callOf wasAt).1 (notRecv wasAt) ?_
      rw [holder_settle_self rfl]
      have completed := results.completed
      cases ready with
      | admitted locked free waiting =>
          rw [holder_of_free free] at completed
          cases payload : locked.payload? <;>
            simp_all [admittedPayloads, List.filterMap_append, Fate.outcome]
      | nextFragment data offset now writing more =>
          rw [inv.holder_eq writing] at completed
          simpa [Fate.outcome, Locked.payload?, admittedPayloads] using completed
  | refused task action locked admitted ready spent notBye exn =>
      exact absurd (completes.unspent task locked admitted ready) (Nat.not_lt.mpr spent)
  | failed task locked exn now writing => exact absurd rfl (completes.noFailure task exn now)
  | sent task data offset now writing last =>
      obtain ⟨called, payload⟩ := callOf writing
      refine results.settle rfl rfl called (notRecv writing) ?_
      obtain ⟨earlier, split⟩ := inv.payloads_of_writing writing
      have completed := results.completed
      rw [inv.holder_eq writing, split] at completed
      rw [holder_of_free (by simp), SessionAction.task, payload, completed]
      simpa [Locked.payload?, Fate.outcome, admittedPayloads] using split.symm
  | signalled task locked now writing kind =>
      exact ended rfl rfl rfl rfl writing (by rcases kind with rfl | rfl <;> rfl)
  | rekeyed task salt now writing => exact ended rfl rfl rfl rfl writing rfl
  | ponged task locals now writing => exact ended rfl rfl rfl rfl writing rfl
  | received task locals pending now result reading turn isTurn =>
      exact aside rfl rfl rfl rfl rfl reading rfl (by simp)
  | tookHeader task locals header reading => exact aside rfl rfl rfl rfl rfl reading rfl (by simp)
  | abandoned task at_ isAt unlocked => exact absurd rfl (completes.noCancel task)
  | interrupted task locked writing => exact absurd rfl (completes.noCancel task)

/-! ## Every call is admitted once -/

/-- The calls of `send`, with their messages. -/
def calledSends (session : Session) : List (Nat × Bytes) :=
  session.calls.filterMap fun call => call.2.payload?.map (Prod.mk call.1)

/-- The calls of `send` that the lock admitted, in that order. -/
def admittedSends (session : Session) : List (Nat × Bytes) :=
  session.admitted.filterMap fun entry => entry.2.payload?.map (Prod.mk entry.1)

theorem admittedPayloads_eq (session : Session) :
    session.admittedPayloads = session.admittedSends.map Prod.snd := by
  rw [admittedPayloads, admittedSends, List.map_filterMap]
  refine List.filterMap_congr fun entry _ => ?_
  cases entry.2.payload? <;> rfl

theorem mem_calledSends {session : Session} {task : Nat} {data : Bytes} :
    (task, data) ∈ session.calledSends ↔ (task, Op.send data) ∈ session.calls := by
  simp only [calledSends, List.mem_filterMap, Option.map_eq_some_iff, Prod.mk.injEq]
  constructor
  · rintro ⟨⟨other, op⟩, member, _, payload, rfl, rfl⟩
    cases op <;> cases payload
    exact member
  · intro member
    exact ⟨_, member, data, rfl, rfl, rfl⟩

/-- The lock admits every call of `send` at most once, and it has admitted all that do
not wait for it. -/
structure Admission (session : Session) : Prop where
  once : (session.admittedSends.map Prod.fst).Nodup
  called : ∀ entry ∈ session.admittedSends, entry ∈ session.calledSends
  waiting : ∀ task locked, session.tasks task = some (.lockWait locked) →
    task ∉ session.admittedSends.map Prod.fst
  all : ∀ entry ∈ session.calledSends, entry ∈ session.admittedSends ∨
    ∃ locked, session.tasks entry.1 = some (.lockWait locked)

theorem Admission.new (reliable : Bool) (info : SessionInfo) (now : Rat) :
    Admission (Session.new reliable info now) := by
  constructor <;> simp [Session.new, admittedSends, calledSends]

/-- When no call waits any more, the messages admitted are those that were called. -/
theorem Admission.perm {session : Session} (admission : Admission session)
    (inv : CallInv session)
    (noneWaits : ∀ task locked, session.tasks task ≠ some (.lockWait locked)) :
    session.admittedPayloads.Perm (session.calls.filterMap fun call => call.2.payload?) := by
  have called : (session.calls.filterMap fun call => call.2.payload?) =
      session.calledSends.map Prod.snd := by
    rw [calledSends, List.map_filterMap]
    refine List.filterMap_congr fun call _ => ?_
    cases call.2.payload? <;> rfl
  rw [admittedPayloads_eq, called]
  refine List.Perm.map _ ((List.perm_ext_iff_of_nodup ?_ ?_).mpr fun entry => ⟨?_, ?_⟩)
  · exact admission.once.of_map
  · refine inv.nodup.of_map.filterMap fun first second entry inFirst inSecond => ?_
    obtain ⟨task, op⟩ := first
    obtain ⟨other, op'⟩ := second
    cases op <;> cases inFirst
    cases op' <;> cases inSecond
    rfl
  · exact admission.called entry
  · intro member
    rcases admission.all entry member with admitted | ⟨locked, waits⟩
    · exact admitted
    · exact absurd waits (noneWaits _ _)

/-- A coroutine that was not waiting for the lock moves. -/
theorem Admission.settle {before base : Session} {task : Nat} {fate : Fate}
    (admission : Admission before) (calls : base.calls = before.calls)
    (admitted : base.admitted = before.admitted) (tasks : base.tasks = before.tasks)
    (notWaiting : ∀ locked, before.tasks task ≠ some (.lockWait locked))
    (fated : ∀ locked, fate.await = some (.lockWait locked) → before.payloadOf task = none)
    (inv : CallInv before) : Admission (base.settle task fate) := by
  have sameAdmitted : (base.settle task fate).admittedSends = before.admittedSends := by
    simp [admittedSends, admitted]
  have sameCalled : (base.settle task fate).calledSends = before.calledSends := by
    simp [calledSends, calls]
  refine ⟨by rw [sameAdmitted]; exact admission.once,
    by rw [sameAdmitted, sameCalled]; exact admission.called, ?_, ?_⟩
  · intro other locked waits
    rw [sameAdmitted]
    by_cases same : other = task
    · subst same
      intro member
      obtain ⟨entry, isEntry, rfl⟩ := List.mem_map.mp member
      have noPayload := fated locked (by simpa using waits)
      have called := mem_calledSends.mp (admission.called entry isEntry)
      rw [payloadOf, inv.lookup called] at noPayload
      cases noPayload
    · exact admission.waiting other locked (by simpa [same, tasks] using waits)
  · intro entry member
    rw [sameCalled] at member
    rw [sameAdmitted]
    rcases admission.all entry member with isAdmitted | ⟨locked, waits⟩
    · exact .inl isAdmitted
    · have distinct : entry.1 ≠ task := by
        rintro rfl
        exact notWaiting locked waits
      exact .inr ⟨locked, by simp [distinct, tasks, waits]⟩

theorem Admission.newCall {before base : Session} {task : Nat} {op : Op} {fate : Fate}
    (admission : Admission before)
    (isNew : task ∉ before.calls.map Prod.fst) (calls : base.calls = before.calls ++ [(task, op)])
    (admitted : base.admitted = before.admitted) (tasks : base.tasks = before.tasks)
    (waits : ∀ data, op = .send data → ∃ locked, fate.await = some (.lockWait locked)) :
    Admission (base.settle task fate) := by
  have sameAdmitted : (base.settle task fate).admittedSends = before.admittedSends := by
    simp [admittedSends, admitted]
  have moreCalled : (base.settle task fate).calledSends =
      before.calledSends ++ (op.payload?.map (Prod.mk task)).toList := by
    simp only [calledSends, settle_frame, calls, List.filterMap_append]
    cases op <;> rfl
  have absent : ∀ entry ∈ before.calledSends, entry.1 ≠ task := by
    rintro ⟨other, data⟩ member rfl
    exact isNew (List.mem_map_of_mem (mem_calledSends.mp member))
  refine ⟨by rw [sameAdmitted]; exact admission.once, ?_, ?_, ?_⟩
  · intro entry member
    rw [sameAdmitted] at member
    rw [moreCalled]
    exact List.mem_append_left _ (admission.called entry member)
  · intro other locked isWaiting member
    rw [sameAdmitted] at member
    by_cases same : other = task
    · subst same
      obtain ⟨entry, isEntry, isTask⟩ := List.mem_map.mp member
      exact absent entry (admission.called entry isEntry) isTask
    · exact admission.waiting other locked (by simpa [same, tasks] using isWaiting) member
  · intro entry member
    rw [moreCalled] at member
    rw [sameAdmitted]
    rcases List.mem_append.mp member with old | new
    · rcases admission.all entry old with isAdmitted | ⟨locked, isWaiting⟩
      · exact .inl isAdmitted
      · exact .inr ⟨locked, by simp [absent entry old, tasks, isWaiting]⟩
    · cases op with
      | send data =>
          cases List.mem_singleton.mp new
          obtain ⟨locked, isWaiting⟩ := waits data rfl
          exact .inr ⟨locked, by simp [isWaiting]⟩
      | ping | rekey salt | bye | recv => cases new

theorem Admission.admit {before base : Session} {task : Nat} {locked : Locked}
    (admission : Admission before) (inv : CallInv before)
    (waiting : before.tasks task = some (.lockWait locked)) (calls : base.calls = before.calls)
    (admitted : base.admitted = before.admitted ++ [(task, locked)])
    (tasks : base.tasks = before.tasks) :
    Admission (base.settle task (.suspended (.writing locked))) := by
  have moreAdmitted : (base.settle task (.suspended (.writing locked))).admittedSends =
      before.admittedSends ++ (locked.payload?.map (Prod.mk task)).toList := by
    simp only [admittedSends, settle_frame, admitted, List.filterMap_append]
    cases locked <;> rfl
  have sameCalled : (base.settle task (.suspended (.writing locked))).calledSends =
      before.calledSends := by
    simp [calledSends, calls]
  have call := inv.known task _ waiting
  have isNew := admission.waiting task locked waiting
  refine ⟨?_, ?_, ?_, ?_⟩
  · rw [moreAdmitted, List.map_append]
    refine List.nodup_append.mpr ⟨admission.once, ?_, ?_⟩
    · cases locked.payload? <;> simp
    · intro first inFirst second inSecond same
      obtain ⟨entry, isEntry, rfl⟩ := List.mem_map.mp inSecond
      cases payload : locked.payload? <;> simp [payload] at isEntry
      subst isEntry
      rw [same] at inFirst
      exact isNew inFirst
  · intro entry member
    rw [moreAdmitted] at member
    rw [sameCalled]
    rcases List.mem_append.mp member with old | new
    · exact admission.called entry old
    · cases locked with
      | send data offset =>
          cases List.mem_singleton.mp new
          exact mem_calledSends.mpr call
      | ping | rekey salt | bye | pong locals => cases new
  · intro other locked' isWaiting member
    have distinct : other ≠ task := by
      rintro rfl
      simp [Fate.await] at isWaiting
    rw [moreAdmitted, List.map_append] at member
    rcases List.mem_append.mp member with old | new
    · exact admission.waiting other locked' (by simpa [distinct, tasks] using isWaiting) old
    · obtain ⟨entry, isEntry, rfl⟩ := List.mem_map.mp new
      cases payload : locked.payload? <;> simp [payload] at isEntry
      subst isEntry
      exact distinct rfl
  · intro entry member
    rw [sameCalled] at member
    rw [moreAdmitted]
    rcases admission.all entry member with isAdmitted | ⟨locked', isWaiting⟩
    · exact .inl (List.mem_append_left _ isAdmitted)
    · by_cases same : entry.1 = task
      · obtain ⟨other, data⟩ := entry
        subst same
        have isSend := (inv.lookup (mem_calledSends.mp member)).symm.trans (inv.lookup call)
        have payload := congrArg Op.payload? (Option.some.inj isSend)
        rw [Task.op_lockWait, Locked.payload?_op] at payload
        refine .inl (List.mem_append_right _ ?_)
        rw [← payload]
        exact List.mem_singleton.mpr rfl
      · exact .inr ⟨locked', by simp [same, tasks, isWaiting]⟩

theorem Admission.progress {before base : Session} {action : SessionAction} {fate : Fate}
    {effects : Effects} (admission : Admission before) (inv : CallInv before)
    (progress : Progress P before action base fate effects)
    (completes : Completes before action)
    (fits : ∀ task data now, action = .call task (.send data) now →
      data.length ≤ usmpMaxDataLen * usmpMaxFrames) :
    Admission (base.settle action.task fate) := by
  have noPayload : ∀ {task : Nat} {at_ : Task}, before.tasks task = some at_ →
      at_.op.payload? = none → before.payloadOf task = none := by
    intro task at_ isAt none
    rw [payloadOf, inv.lookup (inv.known task at_ isAt)]
    exact none
  have stays : ∀ {base : Session} {at_ : Task}, base.calls = before.calls →
      base.admitted = before.admitted → base.tasks = before.tasks →
      before.tasks action.task = some at_ → (∀ locked, at_ ≠ .lockWait locked) →
      ((∃ locked, fate.await = some (.lockWait locked)) → at_.op.payload? = none) →
      Admission (base.settle action.task fate) := by
    intro base at_ calls admitted tasks isAt notWaiting fated
    refine admission.settle calls admitted tasks (fun locked waits => ?_)
      (fun locked waits => noPayload isAt (fated ⟨locked, waits⟩)) inv
    rw [isAt] at waits
    exact notWaiting locked (Option.some.inj waits)
  cases progress with
  | called task op now isNew =>
      refine admission.newCall isNew rfl rfl rfl fun data isSend => ?_
      subst isSend
      have small := fits task data now rfl
      exact ⟨_, by rw [Op.start, if_neg (Nat.not_lt.mpr small)]; rfl⟩
  | encrypted task action locked admitted ready unspent =>
      cases ready with
      | admitted locked free waiting => exact admission.admit inv waiting rfl rfl rfl
      | nextFragment data offset now writing more =>
          exact stays rfl rfl rfl writing (by simp) (by rintro ⟨_, impossible⟩; cases impossible)
  | refused task action locked admitted ready spent notBye exn =>
      exact absurd (completes.unspent task locked admitted ready) (Nat.not_lt.mpr spent)
  | failed task locked exn now writing => exact absurd rfl (completes.noFailure task exn now)
  | sent task data offset now writing last =>
      exact stays rfl rfl rfl writing (by simp) (by rintro ⟨_, impossible⟩; cases impossible)
  | signalled task locked now writing kind =>
      exact stays rfl rfl rfl writing (by simp) (by rintro ⟨_, impossible⟩; cases impossible)
  | rekeyed task salt now writing =>
      exact stays rfl rfl rfl writing (by simp) (by rintro ⟨_, impossible⟩; cases impossible)
  | ponged task locals now writing => exact stays rfl rfl rfl writing (by simp) (fun _ => rfl)
  | received task locals pending now result reading turn isTurn =>
      exact stays rfl rfl rfl reading (by simp) (fun _ => rfl)
  | tookHeader task locals header reading =>
      exact stays rfl rfl rfl reading (by simp) (fun _ => rfl)
  | abandoned task at_ isAt unlocked => exact absurd rfl (completes.noCancel task)
  | interrupted task locked writing => exact absurd rfl (completes.noCancel task)

end Session

end Usmp
