import Usmp.Lib.Machine
import Usmp.Session.Send
import Mathlib.Logic.Function.Basic

/-!
# A session and its concurrent calls

Every call of `send`, `ping`, `rekey`, `bye` and `recv` is a coroutine.  Between
two awaits a coroutine runs without interruption, so the machine's actions are
the resumptions: an environment (the event loop, the transport, the application)
chooses which coroutine goes on, what its await gave it, and which one is
cancelled.  `asyncio.Lock` admits one waiting call at a time, in any order.

The session keeps histories that the code does not: the calls, the order in
which the lock admitted them, the frames encrypted, the keys held and the results
of the calls.
-/

namespace Usmp

/-- A call on the session.  `rekey` draws its salt from `os.urandom`. -/
inductive Op where
  | send (data : Bytes)
  | ping
  | rekey (salt : FixedBytes 32)
  | bye
  | recv
  deriving DecidableEq, Repr

/-- The await at which a coroutine is suspended. -/
inductive Task where
  /-- `async with self._send_lock`. -/
  | lockWait (locked : Locked)
  /-- `write_frame`, with the lock held. -/
  | writing (locked : Locked)
  /-- `read_frame`, with the header bytes that it has already taken. -/
  | reading (locals : RecvLocals) (pending : Option Bytes)
  deriving DecidableEq, Repr

/-- How a call ended. -/
inductive Outcome where
  | returned (message : Option Bytes)
  | raised (exn : Exn)
  | cancelled
  deriving DecidableEq, Repr

structure Session where
  /-- `transport.is_reliable`. -/
  reliable : Bool
  info : SessionInfo
  closed : Bool := false
  /-- The call that holds `_send_lock`. -/
  lock : Option Nat := none
  tasks : Nat → Option Task := fun _ => none
  lastRecv : Rat := 0
  calls : List (Nat × Op) := []
  admitted : List (Nat × Locked) := []
  sent : List SentFrame := []
  epochs : List (Key × Key)
  outcomes : List (Nat × Outcome) := []

/-- What a step asks of the transport. -/
structure Effects where
  /-- The frame passed to `write_frame`. -/
  write : Option SentFrame := none
  calls : List TransportCall := []

namespace Session

/-- `USMPSession(transport, info)`. -/
def new (reliable : Bool) (info : SessionInfo) (now : Rat := 0) : Session :=
  { reliable, info, lastRecv := now, epochs := [(info.txKey, info.rxKey)] }

/-- Suspend a coroutine at an await. -/
def park (session : Session) (task : Nat) (at_ : Task) : Session :=
  { session with tasks := Function.update session.tasks task (some at_) }

/-- End a coroutine. -/
def finish (session : Session) (task : Nat) (outcome : Outcome) : Session :=
  { session with
    tasks := Function.update session.tasks task none
    outcomes := session.outcomes ++ [(task, outcome)] }

/-- Install rotated keys and reset both sequences and the window. -/
def rotate (session : Session) (keys : Key × Key) : Session :=
  { session with
    info := session.info.rotated keys
    epochs := session.epochs ++ [keys] }

/-- Leave `async with self._send_lock`. -/
def release (session : Session) : Session :=
  { session with lock := none }

/-- Go on with a `recv` coroutine. -/
def resumeRecv (session : Session) (task : Nat) : RecvStep → Session
  | .next locals => session.park task (.reading locals none)
  | .pong locals => session.park task (.lockWait (.pong locals))
  | .returned payload => session.finish task (.returned (some payload))
  | .raised exn => session.finish task (.raised exn)

/-- An exception inside the locked part of a call. -/
def raiseLocked (session : Session) (task : Nat) (locked : Locked) (exn : Exn) :
    Session × Effects :=
  match locked with
  | .pong locals =>
      (session.release.resumeRecv task (onViolation session.reliable locals exn), {})
  | .bye =>
      -- BYE is a courtesy: a spent sequence or a dead peer is not an error
      if exn.caughtBy [.sequenceError, .osError] then
        (session.release.finish task (.returned none), { calls := [.close] })
      else
        (session.release.finish task (.raised exn), { calls := [.close] })
  | .send _ _ | .ping | .rekey _ => (session.release.finish task (.raised exn), {})

/-- `_send_encrypted_locked`, suspended in its `write_frame`. -/
def emit (P : Primitives) (session : Session) (task : Nat) (locked : Locked) :
    Session × Effects :=
  match sendEncryptedLocked P session.info task locked with
  | .error exn => session.raiseLocked task locked exn
  | .ok (info, sent) =>
      ({ session with info, lock := some task, sent := session.sent ++ [sent] }.park task
        (.writing locked), { write := some sent })

/-- `write_frame` returned: the rest of the locked part. -/
def wroteFrame (P : Primitives) (session : Session) (task : Nat) (now : Rat) :
    Locked → Session × Effects
  | .send data offset =>
      let next := offset + (chunkAt data offset).length
      if next < data.length then
        session.emit P task (.send data next)
      else
        (session.release.finish task (.returned none), {})
  | .ping => (session.release.finish task (.returned none), {})
  | .rekey salt =>
      let keys := initiatorKeys P session.info salt
      ((session.rotate keys).release.finish task (.returned none),
        { calls := [.setSessionKeys keys.1 keys.2] })
  | .bye => (session.release.finish task (.returned none), { calls := [.close] })
  | .pong locals =>
      (session.release.resumeRecv task (pongSent session.reliable locals now), {})

/-- A call, up to its first await. -/
def begin (session : Session) (task : Nat) (now : Rat) : Op → Session
  | .send data =>
      if data.length > usmpMaxDataLen * usmpMaxFrames then
        session.finish task (.raised ⟨.payloadError,
          s!"Payload too large for fragmentation limits: {data.length} bytes, " ++
          s!"max {usmpMaxDataLen * usmpMaxFrames}"⟩)
      else
        session.park task (.lockWait (.send data 0))
  | .ping => session.park task (.lockWait .ping)
  | .rekey salt => session.park task (.lockWait (.rekey salt))
  | .bye =>
      if session.closed then
        session.finish task (.returned none)
      else
        { session with closed := true }.park task (.lockWait .bye)
  | .recv => session.park task (.reading { ctrlWindowStart := now } none)

/-- `read_frame` returned or raised inside `recv`. -/
def readFrame (P : Primitives) (session : Session) (task : Nat) (locals : RecvLocals)
    (now : Rat) (result : Except Exn USMPFrame) : Session × Effects :=
  let turn := recvTurn P session.reliable session.info locals now result
  ({ session with
      info := turn.info
      lastRecv := if turn.authenticated then now else session.lastRecv
      epochs := session.epochs ++ turn.rotations }.resumeRecv task turn.step,
    { calls := turn.calls })

/-- `CancelledError` at the await of a coroutine. -/
def cancelTask (session : Session) (task : Nat) : Task → Session × Effects
  | .lockWait .bye => (session.finish task .cancelled, { calls := [.close] })
  | .writing .bye => (session.release.finish task .cancelled, { calls := [.close] })
  | .lockWait _ | .reading _ _ => (session.finish task .cancelled, {})
  | .writing _ => (session.release.finish task .cancelled, {})

end Session

/-- A resumption, with what the environment gives. -/
inductive SessionAction where
  | call (task : Nat) (op : Op) (now : Rat)
  | acquire (task : Nat)
  /-- `write_frame` returned, or raised `failure`. -/
  | wrote (task : Nat) (failure : Option Exn) (now : Rat)
  | read (task : Nat) (result : Except Exn USMPFrame) (now : Rat)
  /-- `read_frame` took the header and waits for the payload. -/
  | readHeader (task : Nat) (header : Bytes)
  | cancel (task : Nat)

namespace Session

def step (P : Primitives) (session : Session) : SessionAction → Option (Session × Effects)
  | .call task op now =>
      if task ∈ session.calls.map Prod.fst then
        none
      else
        some ({ session with calls := session.calls ++ [(task, op)] }.begin task now op, {})
  | .acquire task =>
      match session.lock, session.tasks task with
      | none, some (.lockWait locked) =>
          some ({ session with admitted := session.admitted ++ [(task, locked)] }.emit P
            task locked)
      | _, _ => none
  | .wrote task failure now =>
      match session.tasks task with
      | some (.writing locked) =>
          match failure with
          | some exn => some (session.raiseLocked task locked exn)
          | none => some (session.wroteFrame P task now locked)
      | _ => none
  | .read task result now =>
      match session.tasks task with
      | some (.reading locals _) => some (session.readFrame P task locals now result)
      | _ => none
  | .readHeader task header =>
      match session.tasks task with
      | some (.reading locals none) =>
          some (session.park task (.reading locals (some header)), {})
      | _ => none
  | .cancel task =>
      match session.tasks task with
      | some at_ => some (session.cancelTask task at_)
      | none => none

/-- The session on its own: what it asks of the transport is not looked at. -/
def next (P : Primitives) (session : Session) (action : SessionAction) : Option Session :=
  (session.step P action).map Prod.fst

/-! ## What each piece of a step leaves alone -/

@[simp] theorem park_frame (session : Session) (task : Nat) (at_ : Task) :
    (session.park task at_).reliable = session.reliable ∧
      (session.park task at_).info = session.info ∧
      (session.park task at_).closed = session.closed ∧
      (session.park task at_).lock = session.lock ∧
      (session.park task at_).calls = session.calls ∧
      (session.park task at_).admitted = session.admitted ∧
      (session.park task at_).sent = session.sent ∧
      (session.park task at_).epochs = session.epochs ∧
      (session.park task at_).outcomes = session.outcomes ∧
      (session.park task at_).tasks = Function.update session.tasks task (some at_) :=
  ⟨rfl, rfl, rfl, rfl, rfl, rfl, rfl, rfl, rfl, rfl⟩

@[simp] theorem finish_frame (session : Session) (task : Nat) (outcome : Outcome) :
    (session.finish task outcome).reliable = session.reliable ∧
      (session.finish task outcome).info = session.info ∧
      (session.finish task outcome).closed = session.closed ∧
      (session.finish task outcome).lock = session.lock ∧
      (session.finish task outcome).calls = session.calls ∧
      (session.finish task outcome).admitted = session.admitted ∧
      (session.finish task outcome).sent = session.sent ∧
      (session.finish task outcome).epochs = session.epochs ∧
      (session.finish task outcome).outcomes = session.outcomes ++ [(task, outcome)] ∧
      (session.finish task outcome).tasks = Function.update session.tasks task none :=
  ⟨rfl, rfl, rfl, rfl, rfl, rfl, rfl, rfl, rfl, rfl⟩

@[simp] theorem release_frame (session : Session) :
    session.release.reliable = session.reliable ∧
      session.release.info = session.info ∧
      session.release.closed = session.closed ∧
      session.release.lock = none ∧
      session.release.calls = session.calls ∧
      session.release.admitted = session.admitted ∧
      session.release.sent = session.sent ∧
      session.release.epochs = session.epochs ∧
      session.release.outcomes = session.outcomes ∧
      session.release.tasks = session.tasks :=
  ⟨rfl, rfl, rfl, rfl, rfl, rfl, rfl, rfl, rfl, rfl⟩

@[simp] theorem rotate_frame (session : Session) (keys : Key × Key) :
    (session.rotate keys).reliable = session.reliable ∧
      (session.rotate keys).info = session.info.rotated keys ∧
      (session.rotate keys).closed = session.closed ∧
      (session.rotate keys).lock = session.lock ∧
      (session.rotate keys).calls = session.calls ∧
      (session.rotate keys).admitted = session.admitted ∧
      (session.rotate keys).sent = session.sent ∧
      (session.rotate keys).epochs = session.epochs ++ [keys] ∧
      (session.rotate keys).outcomes = session.outcomes ∧
      (session.rotate keys).tasks = session.tasks :=
  ⟨rfl, rfl, rfl, rfl, rfl, rfl, rfl, rfl, rfl, rfl⟩

/-- Going on with `recv` touches its own coroutine only, and never makes it wait
for the lock on behalf of anything but a PONG. -/
@[simp] theorem resumeRecv_frame (session : Session) (task : Nat) (step : RecvStep) :
    (session.resumeRecv task step).reliable = session.reliable ∧
      (session.resumeRecv task step).info = session.info ∧
      (session.resumeRecv task step).closed = session.closed ∧
      (session.resumeRecv task step).lock = session.lock ∧
      (session.resumeRecv task step).calls = session.calls ∧
      (session.resumeRecv task step).admitted = session.admitted ∧
      (session.resumeRecv task step).sent = session.sent ∧
      (session.resumeRecv task step).epochs = session.epochs := by
  cases step <;> exact ⟨rfl, rfl, rfl, rfl, rfl, rfl, rfl, rfl⟩

theorem resumeRecv_tasks_of_ne (session : Session) {task other : Nat} (step : RecvStep)
    (distinct : other ≠ task) :
    (session.resumeRecv task step).tasks other = session.tasks other := by
  cases step <;> simp [resumeRecv, distinct]

/-- A `recv` coroutine that goes on does not hold the lock, and waits for it
only to send a PONG. -/
theorem resumeRecv_tasks_self (session : Session) (task : Nat) (step : RecvStep) :
    (session.resumeRecv task step).tasks task = none ∨
      (∃ locals, (session.resumeRecv task step).tasks task = some (.reading locals none)) ∨
      ∃ locals, (session.resumeRecv task step).tasks task = some (.lockWait (.pong locals)) := by
  cases step with
  | next locals => exact .inr (.inl ⟨locals, by simp [resumeRecv]⟩)
  | pong locals => exact .inr (.inr ⟨locals, by simp [resumeRecv]⟩)
  | returned payload => exact .inl (by simp [resumeRecv])
  | raised exn => exact .inl (by simp [resumeRecv])

/-- A coroutine that leaves the locked part of its call. -/
structure Left (before after : Session) (task : Nat) : Prop where
  reliable : after.reliable = before.reliable
  info : after.info = before.info
  closed : after.closed = before.closed
  lock : after.lock = none
  calls : after.calls = before.calls
  admitted : after.admitted = before.admitted
  sent : after.sent = before.sent
  epochs : after.epochs = before.epochs
  others : ∀ other, other ≠ task → after.tasks other = before.tasks other
  self : after.tasks task = none ∨
    ∃ locals, after.tasks task = some (.reading locals none)

theorem left_finish (session : Session) (task : Nat) (outcome : Outcome) :
    Left session (session.release.finish task outcome) task := by
  constructor <;> simp +contextual

/-- A violation inside `_send_pong` or after it does not send another PONG. -/
theorem onViolation_ne_pong (reliable : Bool) (locals : RecvLocals) (exn : Exn)
    (others : RecvLocals) : onViolation reliable locals exn ≠ .pong others := by
  unfold onViolation
  split <;> simp

theorem pongSent_ne_pong (reliable : Bool) (locals : RecvLocals) (now : Rat)
    (others : RecvLocals) : pongSent reliable locals now ≠ .pong others := by
  unfold pongSent
  split
  · exact onViolation_ne_pong _ _ _ _
  · simp

theorem left_resumeRecv (session : Session) (task : Nat) {step : RecvStep}
    (noPong : ∀ locals, step ≠ .pong locals) :
    Left session (session.release.resumeRecv task step) task := by
  constructor <;> try simp
  case others => exact fun other distinct => resumeRecv_tasks_of_ne _ _ distinct
  case self =>
    cases step with
    | next locals => exact .inr ⟨locals, by simp [resumeRecv]⟩
    | pong locals => exact absurd rfl (noPong locals)
    | returned payload => exact .inl (by simp [resumeRecv])
    | raised exn => exact .inl (by simp [resumeRecv])

theorem left_raiseLocked (session : Session) (task : Nat) (locked : Locked) (exn : Exn) :
    Left session (session.raiseLocked task locked exn).1 task := by
  cases locked with
  | pong locals => exact left_resumeRecv _ _ (onViolation_ne_pong _ _ _)
  | bye =>
      simp only [raiseLocked]
      split <;> exact left_finish ..
  | send data offset => exact left_finish ..
  | ping => exact left_finish ..
  | rekey salt => exact left_finish ..

@[simp] theorem raiseLocked_write (session : Session) (task : Nat) (locked : Locked) (exn : Exn) :
    (session.raiseLocked task locked exn).2.write = none := by
  cases locked with
  | bye =>
      simp only [raiseLocked]
      split <;> rfl
  | send data offset | ping | rekey salt | pong locals => rfl

/-- `_send_encrypted_locked` refuses a spent sequence for everything but BYE, and
otherwise burns one sequence and encrypts once. -/
theorem emit_cases (P : Primitives) (session : Session) (task : Nat) (locked : Locked) :
    (session.info.txSeq ≥ maxSeq ∧ locked.frame.1 ≠ .bye ∧
        ∃ exn, session.emit P task locked = session.raiseLocked task locked exn) ∨
      ((session.info.txSeq < maxSeq ∨ locked.frame.1 = .bye) ∧
        session.emit P task locked =
          ({ session with
              info := { session.info with txSeq := min (session.info.txSeq + 1) maxSeq }
              lock := some task
              sent := session.sent ++ [encryptedFrame P session.info task locked] }.park task
            (.writing locked),
          { write := some (encryptedFrame P session.info task locked) })) := by
  by_cases spent : session.info.txSeq ≥ maxSeq ∧ locked.frame.1 ≠ .bye
  · refine .inl ⟨spent.1, spent.2, ⟨.sequenceError, "TX sequence overflowed"⟩, ?_⟩
    simp only [emit, sendEncryptedLocked, if_pos spent]
  · refine .inr ⟨?_, ?_⟩
    · by_cases below : session.info.txSeq < maxSeq
      · exact .inl below
      · exact .inr (by_contra fun other => spent ⟨Nat.le_of_not_lt below, other⟩)
    · simp only [emit, sendEncryptedLocked, if_neg spent]

@[simp] theorem emit_reliable (P : Primitives) (session : Session) (task : Nat)
    (locked : Locked) : (session.emit P task locked).1.reliable = session.reliable := by
  obtain ⟨_, _, exn, failed⟩ | ⟨_, wrote⟩ := emit_cases P session task locked
  · rw [failed]
    exact (left_raiseLocked ..).reliable
  · rw [wrote]
    rfl

theorem step_reliable {P : Primitives} {session : Session} {action : SessionAction}
    {result : Session × Effects} (stepped : session.step P action = some result) :
    result.1.reliable = session.reliable := by
  cases action with
  | call task op now =>
      simp only [step] at stepped
      split at stepped <;> cases stepped
      cases op <;> simp only [begin] <;> try split
      all_goals rfl
  | acquire task =>
      simp only [step] at stepped
      split at stepped <;> cases stepped
      exact emit_reliable ..
  | wrote task failure now =>
      simp only [step] at stepped
      split at stepped <;> try cases stepped
      rename_i locked _
      split at stepped <;> cases stepped
      · exact (left_raiseLocked ..).reliable
      · cases locked <;> simp only [wroteFrame] <;> try split
        all_goals simp
  | read task result now =>
      simp only [step] at stepped
      split at stepped <;> cases stepped
      simp [readFrame]
  | readHeader task header =>
      simp only [step] at stepped
      split at stepped <;> cases stepped
      rfl
  | cancel task =>
      simp only [step] at stepped
      split at stepped <;> cases stepped
      unfold cancelTask
      split <;> rfl

end Session

end Usmp
