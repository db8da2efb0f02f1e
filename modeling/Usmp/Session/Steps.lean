import Usmp.Session.Machine

/-!
# What a step can do

A step resumes one coroutine.  It ends with the coroutine suspended at its next
await, or with the call's outcome, and besides that it changes the session only
in the ways that `Progress` lists.  The invariants of sessions are derived from
this list and not from the step function.
-/

namespace Usmp

/-- Where a resumed coroutine ends up. -/
inductive Fate where
  | suspended (at_ : Task)
  | ended (outcome : Outcome)

/-- The await of a coroutine that is suspended. -/
def Fate.await : Fate → Option Task
  | .suspended at_ => some at_
  | .ended _ => none

/-- The outcome of a coroutine that ended. -/
def Fate.outcome : Fate → Option Outcome
  | .suspended _ => none
  | .ended outcome => some outcome

/-- The call that a coroutine belongs to. -/
def Locked.op : Locked → Op
  | .send data _ => .send data
  | .ping => .ping
  | .rekey salt => .rekey salt
  | .bye => .bye
  | .pong _ => .recv

def Task.op : Task → Op
  | .lockWait locked | .writing locked => locked.op
  | .reading _ _ => .recv

/-- The coroutine that an action resumes. -/
def SessionAction.task : SessionAction → Nat
  | .call task _ _ | .acquire task | .wrote task _ _ | .read task _ _ | .readHeader task _
  | .cancel task => task

@[simp] theorem Task.op_lockWait (locked : Locked) : (Task.lockWait locked).op = locked.op := rfl

@[simp] theorem Task.op_writing (locked : Locked) : (Task.writing locked).op = locked.op := rfl

@[simp] theorem Task.op_reading (locals : RecvLocals) (pending : Option Bytes) :
    (Task.reading locals pending).op = .recv := rfl

def RecvStep.fate : RecvStep → Fate
  | .next locals => .suspended (.reading locals none)
  | .pong locals => .suspended (.lockWait (.pong locals))
  | .returned payload => .ended (.returned (some payload))
  | .raised exn => .ended (.raised exn)

/-- What an exception in the locked part of a call makes of it. -/
def Locked.raisedFate (reliable : Bool) (exn : Exn) : Locked → Fate
  | .pong locals => (onViolation reliable locals exn).fate
  | .bye => if exn.caughtBy [.sequenceError, .osError] then .ended (.returned none)
      else .ended (.raised exn)
  | .send _ _ | .ping | .rekey _ => .ended (.raised exn)

/-- `bye` closes the transport whichever way its locked part ends. -/
def Locked.closing : Locked → List TransportCall
  | .bye => [.close]
  | _ => []

/-- The exception of a payload that does not fit the fragmentation limits. -/
def payloadTooLarge (data : Bytes) : Exn :=
  ⟨.payloadError,
    s!"Payload too large for fragmentation limits: {data.length} bytes, " ++
    s!"max {usmpMaxDataLen * usmpMaxFrames}"⟩

/-- The first await of a call. -/
def Op.start (closed : Bool) (now : Rat) : Op → Fate
  | .send data =>
      if data.length > usmpMaxDataLen * usmpMaxFrames then .ended (.raised (payloadTooLarge data))
      else .suspended (.lockWait (.send data 0))
  | .ping => .suspended (.lockWait .ping)
  | .rekey salt => .suspended (.lockWait (.rekey salt))
  | .bye => if closed then .ended (.returned none) else .suspended (.lockWait .bye)
  | .recv => .suspended (.reading { ctrlWindowStart := now } none)

namespace Session

/-- Suspend or end the coroutine. -/
def settle (session : Session) (task : Nat) : Fate → Session
  | .suspended at_ => session.park task at_
  | .ended outcome => session.finish task outcome

/-- A coroutine that is about to encrypt: it was admitted by the lock, or it goes on
with the next fragment of its message.  `admitted` is the history after that. -/
inductive Encrypting (session : Session) (task : Nat) :
    SessionAction → Locked → List (Nat × Locked) → Prop where
  | admitted (locked : Locked) (free : session.lock = none)
      (waiting : session.tasks task = some (.lockWait locked)) :
      Encrypting session task (.acquire task) locked (session.admitted ++ [(task, locked)])
  | nextFragment (data : Bytes) (offset : Nat) (now : Rat)
      (writing : session.tasks task = some (.writing (.send data offset)))
      (more : offset + (chunkAt data offset).length < data.length) :
      Encrypting session task (.wrote task none now)
        (.send data (offset + (chunkAt data offset).length)) session.admitted

/-- What a step does apart from moving its coroutine: the session with that coroutine
left where it was, where it goes, and the effects. -/
inductive Progress (P : Primitives) (session : Session) :
    SessionAction → Session → Fate → Effects → Prop where
  | called (task : Nat) (op : Op) (now : Rat) (isNew : task ∉ session.calls.map Prod.fst) :
      Progress P session (.call task op now)
        { session with
          calls := session.calls ++ [(task, op)]
          closed := session.closed || op == .bye }
        (op.start session.closed now) {}
  | encrypted (task : Nat) (action : SessionAction) (locked : Locked)
      (admitted : List (Nat × Locked)) (ready : Encrypting session task action locked admitted)
      (unspent : session.info.txSeq < maxSeq ∨ locked.frame.1 = .bye) :
      Progress P session action
        { session with
          info := { session.info with txSeq := min (session.info.txSeq + 1) maxSeq }
          lock := some task
          admitted
          sent := session.sent ++ [encryptedFrame P session.info task locked] }
        (.suspended (.writing locked))
        { write := some (encryptedFrame P session.info task locked) }
  | refused (task : Nat) (action : SessionAction) (locked : Locked)
      (admitted : List (Nat × Locked)) (ready : Encrypting session task action locked admitted)
      (spent : maxSeq ≤ session.info.txSeq) (notBye : locked.frame.1 ≠ .bye) (exn : Exn) :
      Progress P session action { session with lock := none, admitted }
        (locked.raisedFate session.reliable exn) {}
  | failed (task : Nat) (locked : Locked) (exn : Exn) (now : Rat)
      (writing : session.tasks task = some (.writing locked)) :
      Progress P session (.wrote task (some exn) now) { session with lock := none }
        (locked.raisedFate session.reliable exn) { calls := locked.closing }
  | sent (task : Nat) (data : Bytes) (offset : Nat) (now : Rat)
      (writing : session.tasks task = some (.writing (.send data offset)))
      (last : data.length ≤ offset + (chunkAt data offset).length) :
      Progress P session (.wrote task none now) { session with lock := none }
        (.ended (.returned none)) {}
  | signalled (task : Nat) (locked : Locked) (now : Rat)
      (writing : session.tasks task = some (.writing locked))
      (kind : locked = .ping ∨ locked = .bye) :
      Progress P session (.wrote task none now) { session with lock := none }
        (.ended (.returned none)) { calls := locked.closing }
  | rekeyed (task : Nat) (salt : FixedBytes 32) (now : Rat)
      (writing : session.tasks task = some (.writing (.rekey salt))) :
      Progress P session (.wrote task none now)
        { session with
          info := session.info.rotated (initiatorKeys P session.info salt)
          lock := none
          epochs := session.epochs ++ [initiatorKeys P session.info salt] }
        (.ended (.returned none))
        { calls := [.setSessionKeys (initiatorKeys P session.info salt).1
            (initiatorKeys P session.info salt).2] }
  | ponged (task : Nat) (locals : RecvLocals) (now : Rat)
      (writing : session.tasks task = some (.writing (.pong locals))) :
      Progress P session (.wrote task none now) { session with lock := none }
        (pongSent session.reliable locals now).fate {}
  | received (task : Nat) (locals : RecvLocals) (pending : Option Bytes) (now : Rat)
      (result : Except Exn USMPFrame)
      (reading : session.tasks task = some (.reading locals pending))
      (turn : RecvTurn)
      (isTurn : turn = recvTurn P session.reliable session.info locals now result) :
      Progress P session (.read task result now)
        { session with
          info := turn.info
          lastRecv := if turn.authenticated then now else session.lastRecv
          epochs := session.epochs ++ turn.rotations }
        turn.step.fate { calls := turn.calls }
  | tookHeader (task : Nat) (locals : RecvLocals) (header : Bytes)
      (reading : session.tasks task = some (.reading locals none)) :
      Progress P session (.readHeader task header) session
        (.suspended (.reading locals (some header))) {}
  | abandoned (task : Nat) (at_ : Task) (isAt : session.tasks task = some at_)
      (unlocked : ∀ locked, at_ ≠ .writing locked) :
      Progress P session (.cancel task) session (.ended .cancelled)
        { calls := if at_ = .lockWait .bye then [.close] else [] }
  | interrupted (task : Nat) (locked : Locked)
      (writing : session.tasks task = some (.writing locked)) :
      Progress P session (.cancel task) { session with lock := none } (.ended .cancelled)
        { calls := locked.closing }

theorem resumeRecv_eq (session : Session) (task : Nat) (step : RecvStep) :
    session.resumeRecv task step = session.settle task step.fate := by
  cases step <;> rfl

theorem begin_eq (session : Session) (task : Nat) (now : Rat) (op : Op) :
    session.begin task now op =
      ({ session with closed := session.closed || op == .bye } : Session).settle task
        (op.start session.closed now) := by
  cases op with
  | send data =>
      simp only [begin, Op.start, payloadTooLarge]
      split <;> simp [settle, park, finish]
  | ping | rekey salt | recv => simp [begin, Op.start, settle, park]
  | bye =>
      simp only [begin, Op.start]
      split <;> simp_all [settle, park, finish]

theorem raiseLocked_eq (session : Session) (task : Nat) (locked : Locked) (exn : Exn) :
    session.raiseLocked task locked exn =
      (({ session with lock := none } : Session).settle task
          (locked.raisedFate session.reliable exn),
        { calls := locked.closing }) := by
  cases locked with
  | pong locals => simp [raiseLocked, Locked.raisedFate, resumeRecv_eq, release, Locked.closing]
  | bye =>
      simp only [raiseLocked, Locked.raisedFate, Locked.closing]
      split <;> rfl
  | send data offset | ping | rekey salt => rfl

theorem progress_emit (P : Primitives) {session : Session} {task : Nat} {action : SessionAction}
    {locked : Locked} {admitted : List (Nat × Locked)}
    (ready : Encrypting session task action locked admitted) :
    ∃ base fate,
      Progress P session action base fate (({ session with admitted } : Session).emit P task
        locked).2 ∧
      (({ session with admitted } : Session).emit P task locked).1 = base.settle task fate := by
  obtain ⟨spent, notBye, exn, failed⟩ | ⟨unspent, wrote⟩ :=
    emit_cases P { session with admitted } task locked
  · rw [failed, raiseLocked_eq]
    have noCalls : locked.closing = [] := by
      cases locked <;> simp_all [Locked.closing, Locked.frame]
    rw [noCalls]
    exact ⟨_, _, .refused task action locked admitted ready spent notBye exn, rfl⟩
  · rw [wrote]
    exact ⟨_, _, .encrypted task action locked admitted ready unspent, rfl⟩

theorem progress_of_step {P : Primitives} {session : Session} {action : SessionAction}
    {result : Session × Effects} (stepped : session.step P action = some result) :
    ∃ base fate, Progress P session action base fate result.2 ∧
      result.1 = base.settle action.task fate := by
  cases action with
  | call task op now =>
      simp only [step] at stepped
      split at stepped <;> cases stepped
      rename_i isNew
      rw [begin_eq]
      exact ⟨_, _, .called task op now isNew, rfl⟩
  | acquire task =>
      simp only [step] at stepped
      split at stepped <;> cases stepped
      rename_i locked free waiting
      exact progress_emit P (.admitted locked free waiting)
  | wrote task failure now =>
      simp only [step] at stepped
      split at stepped <;> try cases stepped
      rename_i locked writing
      split at stepped <;> cases stepped
      · rw [raiseLocked_eq]
        exact ⟨_, _, .failed task locked _ now writing, rfl⟩
      · cases locked with
        | send data offset =>
            simp only [wroteFrame]
            split
            · rename_i more
              exact progress_emit P (.nextFragment data offset now writing more)
            · rename_i noMore
              exact ⟨_, _, .sent task data offset now writing (by omega), rfl⟩
        | ping => exact ⟨_, _, .signalled task .ping now writing (.inl rfl), rfl⟩
        | bye => exact ⟨_, _, .signalled task .bye now writing (.inr rfl), rfl⟩
        | rekey salt => exact ⟨_, _, .rekeyed task salt now writing, rfl⟩
        | pong locals =>
            simp only [wroteFrame, resumeRecv_eq]
            exact ⟨_, _, .ponged task locals now writing, rfl⟩
  | read task result now =>
      simp only [step] at stepped
      split at stepped <;> cases stepped
      rename_i locals pending reading
      simp only [readFrame, resumeRecv_eq]
      exact ⟨_, _, .received task locals pending now result reading _ rfl, rfl⟩
  | readHeader task header =>
      simp only [step] at stepped
      split at stepped <;> cases stepped
      rename_i locals reading
      exact ⟨_, _, .tookHeader task locals header reading, rfl⟩
  | cancel task =>
      simp only [step] at stepped
      split at stepped <;> cases stepped
      rename_i at_ isAt
      cases at_ with
      | reading locals pending =>
          exact ⟨_, _, .abandoned task _ isAt (by simp), rfl⟩
      | lockWait locked =>
          refine ⟨session, .ended .cancelled, ?_, ?_⟩
          · have progress := Progress.abandoned (P := P) task _ isAt (by simp)
            cases locked <;> simpa [cancelTask] using progress
          · cases locked <;> rfl
      | writing locked =>
          refine ⟨{ session with lock := none }, .ended .cancelled, ?_, ?_⟩
          · have progress := Progress.interrupted (P := P) task locked isAt
            cases locked <;> simpa [cancelTask, Locked.closing] using progress
          · cases locked <;> rfl

/-! ## Settling a coroutine -/

@[simp] theorem settle_frame (session : Session) (task : Nat) (fate : Fate) :
    (session.settle task fate).reliable = session.reliable ∧
      (session.settle task fate).info = session.info ∧
      (session.settle task fate).closed = session.closed ∧
      (session.settle task fate).lock = session.lock ∧
      (session.settle task fate).calls = session.calls ∧
      (session.settle task fate).admitted = session.admitted ∧
      (session.settle task fate).sent = session.sent ∧
      (session.settle task fate).epochs = session.epochs := by
  cases fate <;> exact ⟨rfl, rfl, rfl, rfl, rfl, rfl, rfl, rfl⟩

@[simp] theorem settle_tasks (session : Session) (task : Nat) (fate : Fate) :
    (session.settle task fate).tasks = Function.update session.tasks task fate.await := by
  cases fate <;> rfl

@[simp] theorem settle_outcomes (session : Session) (task : Nat) (fate : Fate) :
    (session.settle task fate).outcomes =
      session.outcomes ++ fate.outcome.toList.map (Prod.mk task) := by
  cases fate <;> simp [settle, Fate.outcome]

end Session

end Usmp
