import Usmp.Session.Steps

/-!
# Calls, their coroutines and the send lock

Facts about every run of a session, whatever fails or is cancelled: a coroutine
belongs to a call, the lock is held by the coroutine that is writing, and a
message is cut at multiples of the fragment size.
-/

namespace Usmp

/-- The message of a `send`. -/
def Locked.payload? : Locked → Option Bytes
  | .send data _ => some data
  | _ => none

/-- The offsets at which `send` cuts a message. -/
def Locked.Placed : Locked → Prop
  | .send data offset =>
      data.length ≤ usmpMaxDataLen * usmpMaxFrames ∧ usmpMaxDataLen ∣ offset ∧
        (offset < data.length ∨ offset = 0)
  | _ => True

/-- A holder that has sent nothing. -/
def Locked.AtStart : Locked → Prop
  | .send _ offset => offset = 0
  | _ => True

def Task.Placed : Task → Prop
  | .lockWait locked => locked.Placed ∧ locked.AtStart
  | .writing locked => locked.Placed
  | .reading _ _ => True

theorem Locked.payload?_of_op {first second : Locked} (same : first.op = second.op) :
    first.payload? = second.payload? := by
  cases first <;> cases second <;> simp_all [Locked.op, Locked.payload?]

/-- A chunk that is not the last one is full. -/
theorem length_chunkAt_of_more {data : Bytes} {offset : Nat}
    (more : offset + (chunkAt data offset).length < data.length) :
    (chunkAt data offset).length = usmpMaxDataLen := by
  rw [length_chunkAt] at more ⊢
  omega

theorem Locked.Placed.next {data : Bytes} {offset : Nat}
    (placed : (Locked.send data offset).Placed)
    (more : offset + (chunkAt data offset).length < data.length) :
    (Locked.send data (offset + (chunkAt data offset).length)).Placed := by
  obtain ⟨fits, aligned, _⟩ := placed
  refine ⟨fits, ?_, .inl more⟩
  rw [length_chunkAt_of_more more]
  exact Nat.dvd_add aligned (Nat.dvd_refl _)

/-- A `recv` coroutine that goes on reads, or waits for the lock to send a PONG. -/
theorem RecvStep.await_fate {step : RecvStep} {at_ : Task} (isAt : step.fate.await = some at_) :
    (∃ locals, at_ = .reading locals none) ∨ ∃ locals, at_ = .lockWait (.pong locals) := by
  cases step with
  | next locals =>
      cases isAt
      exact .inl ⟨locals, rfl⟩
  | pong locals =>
      cases isAt
      exact .inr ⟨locals, rfl⟩
  | returned payload | raised exn => cases isAt

/-- After an exception only a `recv` over UDP goes on. -/
theorem Locked.await_raisedFate {locked : Locked} {reliable : Bool} {exn : Exn} {at_ : Task}
    (isAt : (locked.raisedFate reliable exn).await = some at_) :
    ∃ before after, locked = .pong before ∧ at_ = .reading after none := by
  cases locked with
  | pong before =>
      rcases RecvStep.await_fate isAt with ⟨after, rfl⟩ | ⟨after, rfl⟩
      · exact ⟨before, after, rfl, rfl⟩
      · exfalso
        simp only [Locked.raisedFate, onViolation] at isAt
        split at isAt <;> cases isAt
  | bye =>
      simp only [Locked.raisedFate] at isAt
      split at isAt <;> cases isAt
  | send data offset | ping | rekey salt => cases isAt

theorem Op.await_start {op : Op} {closed : Bool} {now : Rat} {at_ : Task}
    (isAt : (op.start closed now).await = some at_) :
    at_.op = op ∧ at_.Placed ∧ ∀ locked, at_ ≠ .writing locked := by
  cases op with
  | send data =>
      simp only [Op.start] at isAt
      split at isAt <;> cases isAt
      rename_i fits
      exact ⟨rfl, ⟨⟨by omega, Nat.dvd_zero _, .inr rfl⟩, rfl⟩, by simp⟩
  | bye =>
      simp only [Op.start] at isAt
      split at isAt <;> cases isAt
      exact ⟨rfl, ⟨trivial, trivial⟩, by simp⟩
  | ping | rekey salt =>
      cases isAt
      exact ⟨rfl, ⟨trivial, trivial⟩, by simp⟩
  | recv =>
      cases isAt
      exact ⟨rfl, trivial, by simp⟩

namespace Session

/-- What holds of the coroutines of every reachable session. -/
structure CallInv (session : Session) : Prop where
  nodup : (session.calls.map Prod.fst).Nodup
  /-- A suspended coroutine belongs to a call. -/
  known : ∀ task at_, session.tasks task = some at_ → (task, at_.op) ∈ session.calls
  placed : ∀ task at_, session.tasks task = some at_ → at_.Placed
  /-- The lock is held by the coroutine that is writing. -/
  holder : ∀ task, session.lock = some task ↔
    ∃ locked, session.tasks task = some (.writing locked)
  /-- The holder is the call that the lock admitted last. -/
  current : ∀ task locked, session.tasks task = some (.writing locked) →
    ∃ earlier first, session.admitted = earlier ++ [(task, first)] ∧ first.op = locked.op

theorem CallInv.new (reliable : Bool) (info : SessionInfo) (now : Rat) :
    CallInv (Session.new reliable info now) := by
  constructor <;> simp [Session.new]

theorem CallInv.none_of_new {session : Session} (inv : CallInv session) {task : Nat}
    (isNew : task ∉ session.calls.map Prod.fst) : session.tasks task = none := by
  cases isAt : session.tasks task with
  | none => rfl
  | some at_ => exact absurd (List.mem_map_of_mem (inv.known task at_ isAt)) isNew

/-- Only one coroutine writes. -/
theorem CallInv.holder_unique {session : Session} (inv : CallInv session) {task other : Nat}
    {locked locked' : Locked} (writing : session.tasks task = some (.writing locked))
    (writing' : session.tasks other = some (.writing locked')) : other = task := by
  have held := (inv.holder task).mpr ⟨locked, writing⟩
  have held' := (inv.holder other).mpr ⟨locked', writing'⟩
  rw [held] at held'
  exact (Option.some.inj held').symm

theorem CallInv.not_writing {session : Session} (inv : CallInv session)
    (free : session.lock = none) (task : Nat) (locked : Locked) :
    session.tasks task ≠ some (.writing locked) := by
  intro writing
  have held := (inv.holder task).mpr ⟨locked, writing⟩
  rw [free] at held
  cases held

/-- The coroutine that encrypts was suspended on behalf of the same call. -/
theorem Encrypting.was {session : Session} {task : Nat} {action : SessionAction}
    {locked : Locked} {admitted : List (Nat × Locked)}
    (ready : Encrypting session task action locked admitted) :
    action.task = task ∧ ∃ at_, session.tasks task = some at_ ∧ at_.op = locked.op ∧
      ∀ locals pending, at_ ≠ .reading locals pending := by
  cases ready with
  | admitted locked free waiting => exact ⟨rfl, _, waiting, rfl, by simp⟩
  | nextFragment data offset now writing more => exact ⟨rfl, _, writing, rfl, by simp⟩

/-- The call of the coroutine that encrypts, and no other coroutine writes. -/
theorem Encrypting.facts {session : Session} (inv : CallInv session) {task : Nat}
    {action : SessionAction} {locked : Locked} {admitted : List (Nat × Locked)}
    (ready : Encrypting session task action locked admitted) :
    action.task = task ∧ (task, locked.op) ∈ session.calls ∧ locked.Placed ∧
      (∀ other locked', other ≠ task → session.tasks other ≠ some (.writing locked')) ∧
      ∃ earlier first, admitted = earlier ++ [(task, first)] ∧ first.op = locked.op := by
  cases ready with
  | admitted locked free waiting =>
      exact ⟨rfl, inv.known task _ waiting, (inv.placed task _ waiting).1,
        fun other locked' _ => inv.not_writing free other locked',
        session.admitted, locked, rfl, rfl⟩
  | nextFragment data offset now writing more =>
      obtain ⟨earlier, first, split, same⟩ := inv.current task _ writing
      exact ⟨rfl, inv.known task _ writing, (inv.placed task _ writing).next more,
        fun other locked' distinct writing' =>
          distinct (inv.holder_unique writing writing'),
        earlier, first, split, same⟩

/-- A coroutine that ends up anywhere but in a write gives up the lock. -/
theorem CallInv.settle_unlocked {before base : Session} {task : Nat} {fate : Fate}
    (inv : CallInv before) (tasks : base.tasks = before.tasks)
    (nodup : (base.calls.map Prod.fst).Nodup) (calls : before.calls ⊆ base.calls)
    (lock : ∀ other, base.lock = some other ↔ other ≠ task ∧ before.lock = some other)
    (admitted : base.admitted = before.admitted ∨ before.lock = none ∨ before.lock = some task)
    (fated : ∀ at_, fate.await = some at_ →
      (task, at_.op) ∈ base.calls ∧ at_.Placed ∧ ∀ locked, at_ ≠ .writing locked) :
    CallInv (base.settle task fate) := by
  have atTask : ∀ at_, (base.settle task fate).tasks task = some at_ →
      fate.await = some at_ := by
    intro at_ isAt
    simpa using isAt
  have atOther : ∀ other, other ≠ task →
      (base.settle task fate).tasks other = before.tasks other := by
    intro other distinct
    simp [distinct, tasks]
  constructor
  · simpa using nodup
  · intro other at_ isAt
    by_cases same : other = task
    · subst same
      simpa using (fated at_ (atTask at_ isAt)).1
    · rw [atOther other same] at isAt
      simpa using calls (inv.known other at_ isAt)
  · intro other at_ isAt
    by_cases same : other = task
    · subst same
      exact (fated at_ (atTask at_ isAt)).2.1
    · rw [atOther other same] at isAt
      exact inv.placed other at_ isAt
  · intro other
    by_cases same : other = task
    · subst same
      constructor
      · intro held
        simp [lock] at held
      · rintro ⟨locked, writing⟩
        exact absurd rfl ((fated _ (atTask _ writing)).2.2 locked)
    · rw [atOther other same, ← inv.holder other]
      simp [lock, same]
  · intro other locked writing
    by_cases same : other = task
    · subst same
      exact absurd rfl ((fated _ (atTask _ writing)).2.2 locked)
    · rw [atOther other same] at writing
      have held := (inv.holder other).mpr ⟨locked, writing⟩
      rcases admitted with unchanged | free | byTask
      · simpa [unchanged] using inv.current other locked writing
      · rw [free] at held
        cases held
      · rw [byTask] at held
        exact absurd (Option.some.inj held).symm same

/-- The coroutine of a `recv` that goes on. -/
theorem CallInv.recvFate {session : Session} (inv : CallInv session) {task : Nat} {at_ : Task}
    (isAt : session.tasks task = some at_) (isRecv : at_.op = .recv) {step : RecvStep} :
    ∀ next, step.fate.await = some next →
      (task, next.op) ∈ session.calls ∧ next.Placed ∧ ∀ locked, next ≠ .writing locked := by
  intro next goesOn
  have call := inv.known task at_ isAt
  rw [isRecv] at call
  rcases RecvStep.await_fate goesOn with ⟨locals, rfl⟩ | ⟨locals, rfl⟩
  · exact ⟨call, trivial, by simp⟩
  · exact ⟨call, ⟨trivial, trivial⟩, by simp⟩

/-- The coroutine of a locked part that raised. -/
theorem raisedFate_facts {session : Session} {task : Nat} {locked : Locked} {reliable : Bool}
    {exn : Exn} (call : (task, locked.op) ∈ session.calls) :
    ∀ next, (locked.raisedFate reliable exn).await = some next →
      (task, next.op) ∈ session.calls ∧ next.Placed ∧ ∀ other, next ≠ .writing other := by
  intro next goesOn
  obtain ⟨before, after, rfl, rfl⟩ := Locked.await_raisedFate goesOn
  exact ⟨call, trivial, by simp⟩

theorem callInv_progress {P : Primitives} {before base : Session} {action : SessionAction}
    {fate : Fate} {effects : Effects} (inv : CallInv before)
    (progress : Progress P before action base fate effects) :
    CallInv (base.settle action.task fate) := by
  have kept : ∀ {task : Nat}, (∀ locked, before.tasks task ≠ some (.writing locked)) →
      ∀ other, before.lock = some other ↔ other ≠ task ∧ before.lock = some other := by
    intro task idle other
    refine ⟨fun held => ⟨?_, held⟩, And.right⟩
    rintro rfl
    obtain ⟨locked, writing⟩ := (inv.holder other).mp held
    exact idle locked writing
  have freed : ∀ {task : Nat} {locked : Locked}, before.tasks task = some (.writing locked) →
      ∀ other, (none : Option Nat) = some other ↔ other ≠ task ∧ before.lock = some other := by
    intro task locked writing other
    refine ⟨fun impossible => (by cases impossible), ?_⟩
    rintro ⟨distinct, held⟩
    rw [(inv.holder task).mpr ⟨locked, writing⟩] at held
    exact absurd (Option.some.inj held).symm distinct
  cases progress with
  | called task op now isNew =>
      have idle := inv.none_of_new isNew
      refine inv.settle_unlocked rfl ?_ (by simp) (kept (by simp [SessionAction.task, idle]))
        (.inl rfl) ?_
      · rw [List.map_append]
        refine List.nodup_append.mpr ⟨inv.nodup, by simp, ?_⟩
        intro old member new isTask equal
        rw [List.map_singleton, List.mem_singleton] at isTask
        rw [equal, isTask] at member
        exact isNew member
      · intro at_ isAt
        obtain ⟨sameOp, placed, unlocked⟩ := Op.await_start isAt
        exact ⟨by simp [SessionAction.task, sameOp], placed, unlocked⟩
  | encrypted task action locked admitted ready unspent =>
      obtain ⟨isTask, call, placed, others, current⟩ := ready.facts inv
      rw [isTask]
      constructor
      · simpa using inv.nodup
      · intro other at_ isAt
        by_cases same : other = task
        · subst same
          cases Option.some.inj (by simpa [Fate.await] using isAt)
          simpa using call
        · simpa using inv.known other at_ (by simpa [same] using isAt)
      · intro other at_ isAt
        by_cases same : other = task
        · subst same
          cases Option.some.inj (by simpa [Fate.await] using isAt)
          exact placed
        · exact inv.placed other at_ (by simpa [same] using isAt)
      · intro other
        by_cases same : other = task
        · subst same
          simp [Fate.await]
        · simpa [same, Ne.symm same] using others other
      · intro other locked' writing
        by_cases same : other = task
        · subst same
          cases Option.some.inj (by simpa [Fate.await] using writing)
          simpa using current
        · exact absurd (by simpa [same] using writing) (others other locked' same)
  | refused task action locked admitted ready spent notBye exn =>
      obtain ⟨isTask, call, _, _, _⟩ := ready.facts inv
      rw [isTask]
      refine inv.settle_unlocked rfl inv.nodup (fun _ => id) ?_ ?_ (raisedFate_facts call)
      · cases ready with
        | admitted locked free waiting => simp [free]
        | nextFragment data offset now writing more => exact freed writing
      · cases ready with
        | admitted locked free waiting => exact .inr (.inl free)
        | nextFragment data offset now writing more =>
            exact .inr (.inr ((inv.holder task).mpr ⟨_, writing⟩))
  | failed task locked exn now writing =>
      exact inv.settle_unlocked rfl inv.nodup (fun _ => id) (freed writing) (.inl rfl)
        (raisedFate_facts (inv.known task _ writing))
  | sent task data offset now writing last =>
      exact inv.settle_unlocked rfl inv.nodup (fun _ => id) (freed writing) (.inl rfl)
        (fun _ isAt => by cases isAt)
  | signalled task locked now writing kind =>
      exact inv.settle_unlocked rfl inv.nodup (fun _ => id) (freed writing) (.inl rfl)
        (fun _ isAt => by cases isAt)
  | rekeyed task salt now writing =>
      exact inv.settle_unlocked rfl inv.nodup (fun _ => id) (freed writing) (.inl rfl)
        (fun _ isAt => by cases isAt)
  | ponged task locals now writing =>
      exact inv.settle_unlocked rfl inv.nodup (fun _ => id) (freed writing) (.inl rfl)
        (inv.recvFate writing rfl)
  | received task locals pending now result reading turn isTurn =>
      exact inv.settle_unlocked rfl inv.nodup (fun _ => id)
        (kept (by simp [SessionAction.task, reading])) (.inl rfl)
        (inv.recvFate reading rfl)
  | tookHeader task locals header reading =>
      refine inv.settle_unlocked rfl inv.nodup (fun _ => id)
        (kept (by simp [SessionAction.task, reading])) (.inl rfl) ?_
      intro at_ isAt
      cases isAt
      exact ⟨inv.known task (.reading locals none) reading, trivial, by simp⟩
  | abandoned task at_ isAt unlocked =>
      refine inv.settle_unlocked rfl inv.nodup (fun _ => id) (kept ?_) (.inl rfl)
        (fun _ isAt => by cases isAt)
      intro locked writing
      rw [SessionAction.task, isAt] at writing
      exact unlocked locked (Option.some.inj writing)
  | interrupted task locked writing =>
      exact inv.settle_unlocked rfl inv.nodup (fun _ => id) (freed writing) (.inl rfl)
        (fun _ isAt => by cases isAt)

/-- No step changes what a session is identified by. -/
theorem Progress.identity {P : Primitives} {before base : Session} {action : SessionAction}
    {fate : Fate} {effects : Effects} (progress : Progress P before action base fate effects) :
    base.info.sessionId = before.info.sessionId ∧
      base.info.cipherSuite = before.info.cipherSuite ∧
      base.reliable = before.reliable ∧
      (before.info.txSeq ≤ maxSeq → base.info.txSeq ≤ maxSeq) := by
  cases progress with
  | received task locals pending now result reading turn isTurn =>
      rcases recvTurn_keys P before.reliable before.info locals now result with
        ⟨same, _⟩ | ⟨salt, keys, _, rotated, _⟩
      · rw [← isTurn] at same
        exact ⟨same.sessionId, same.cipherSuite, rfl, fun bound => same.txSeq ▸ bound⟩
      · rw [← isTurn] at rotated
        simp [rotated, SessionInfo.rotated]
  | encrypted => exact ⟨rfl, rfl, rfl, fun _ => Nat.min_le_right _ _⟩
  | rekeyed => exact ⟨rfl, rfl, rfl, fun _ => Nat.zero_le _⟩
  | called | refused | failed | sent | signalled | ponged | tookHeader | abandoned
  | interrupted => exact ⟨rfl, rfl, rfl, id⟩

theorem sessionId_of_run {P : Primitives} {start final : Session} {actions : List SessionAction}
    (reached : Machine.run (next P) start actions = some final) :
    final.info.sessionId = start.info.sessionId := by
  refine Machine.run_invariant' (fun session => session.info.sessionId = start.info.sessionId)
    (fun before action after same stepped => ?_) rfl reached
  obtain ⟨result, performed, rfl⟩ := Option.map_eq_some_iff.mp stepped
  obtain ⟨base, fate, progress, settled⟩ := progress_of_step performed
  rw [settled, (settle_frame base action.task fate).2.1, progress.identity.1, same]

end Session

end Usmp
