import Usmp.Session.Calls
import Usmp.Udp.Peer

/-!
# What a step of a UDP end does to its session

A step of the end is at most one step of its session, and a second one if the write that the
first one asked for fails at once.
-/

namespace Usmp

namespace Session

/-- A step touches its own coroutine and the results of its own call only. -/
theorem step_others {P : Primitives} {session : Session} {action : SessionAction}
    {result : Session × Effects} (stepped : session.step P action = some result) :
    (∀ other, other ≠ action.task → result.1.tasks other = session.tasks other) ∧
      ∃ outcome : Option Outcome,
        result.1.outcomes = session.outcomes ++ outcome.toList.map (Prod.mk action.task) := by
  rcases progress_of_step stepped with ⟨base, fate, progress, isResult⟩
  have frame : base.tasks = session.tasks ∧ base.outcomes = session.outcomes := by
    rcases result with ⟨after, effects⟩
    cases progress <;> exact ⟨rfl, rfl⟩
  rw [isResult]
  refine ⟨?_, fate.outcome, by rw [settle_outcomes, frame.2]⟩
  intro other distinct
  rw [settle_tasks, Function.update_of_ne distinct, frame.1]

/-- What a step asks to write is a frame of the resumed coroutine, which waits for it. -/
theorem write_of_step {P : Primitives} {session : Session} {action : SessionAction}
    {result : Session × Effects} (stepped : session.step P action = some result)
    {sent : SentFrame} (write : result.2.write = some sent) :
    ∃ locked, sent = encryptedFrame P session.info action.task locked ∧
      result.1.tasks action.task = some (.writing locked) ∧
      result.1.outcomes = session.outcomes ∧ result.2.calls = [] ∧
      (session.info.txSeq < maxSeq ∨ locked = .bye) := by
  rcases progress_of_step stepped with ⟨base, fate, progress, isResult⟩
  rcases result with ⟨after, effects⟩
  dsimp only at isResult write progress ⊢
  subst isResult
  cases progress with
  | encrypted task action locked admitted ready unspent =>
      cases write
      have isTask : action.task = task := by cases ready <;> rfl
      refine ⟨locked, by rw [isTask], by simp [isTask, Fate.await], by simp [Fate.outcome], rfl, ?_⟩
      refine unspent.imp_right fun isBye => ?_
      cases locked with
      | bye => rfl
      | send data offset =>
          simp only [Locked.frame] at isBye
          split at isBye <;> cases isBye
      | ping | rekey salt | pong locals => cases isBye
  | _ => cases write

end Session

namespace UdpPeer

/-- Why the frame of a write was not sent at all. -/
inductive NotSent (peer : UdpPeer) (sent : SentFrame) : Exn → Prop where
  | encode (exn : Exn) (failed : encodeFrame sent.type sent.payload sent.seq = .error exn) :
      NotSent peer sent exn
  | closed (isClosed : peer.stream.closed = true) :
      NotSent peer sent ⟨.osError, "Stream is closed"⟩

/-- The session after a session step was performed. -/
inductive Performed (peer : UdpPeer) (result : Session × Effects) : Session → Prop where
  | plain : Performed peer result result.1
  /-- The write raised before its first transmission. -/
  | notSent (sent : SentFrame) (locked : Locked) (exn : Exn) (write : result.2.write = some sent)
      (writing : result.1.tasks sent.task = some (.writing locked))
      (why : NotSent (peer.applyStep result) sent exn) :
      Performed peer result (result.1.raiseLocked sent.task locked exn).1

theorem performed (peer : UdpPeer) (result : Session × Effects) :
    Performed peer result (peer.perform result).session := by
  have failed : ∀ sent exn, result.2.write = some sent →
      NotSent (peer.applyStep result) sent exn →
      Performed peer result ((peer.applyStep result).failWrite sent.task exn).session := by
    intro sent exn write why
    unfold failWrite
    rw [(applyStep_frame peer result).1]
    split
    · rename_i locked writing
      rw [(applyStep_frame _ _).1]
      exact .notSent sent locked exn write writing why
    · rw [(applyStep_frame peer result).1]
      exact .plain
  unfold perform
  split
  · rw [(applyStep_frame peer result).1]
    exact .plain
  rename_i sent write
  unfold startWrite
  split
  · rename_i exn notEncoded
    exact failed sent exn write (.encode exn notEncoded)
  split
  · rename_i exn notWritten
    unfold UDPStream.write at notWritten
    split at notWritten <;> cases notWritten
    rename_i isClosed
    exact failed sent _ write (.closed isClosed)
  · dsimp only
    rw [(applyStep_frame peer result).1]
    exact .plain

/-- A step of the end runs its session. -/
theorem performed_run {P : Primitives} {peer : UdpPeer} {session after : Session}
    {action : SessionAction} {result : Session × Effects}
    (stepped : session.step P action = some result) (done : Performed peer result after) :
    ∃ actions, Machine.run (Session.next P) session actions = some after := by
  have first : Session.next P session action = some result.1 := by
    rw [Session.next, stepped]
    rfl
  cases done with
  | plain => exact ⟨[action], Machine.run_cons_some.mpr ⟨_, first, rfl⟩⟩
  | notSent sent locked exn write writing why =>
      refine ⟨[action, .wrote sent.task (some exn) 0], Machine.run_cons_some.mpr ⟨_, first, ?_⟩⟩
      refine Machine.run_cons_some.mpr ⟨_, ?_, rfl⟩
      simp only [Session.next, Session.step, writing, Option.map_some]

/-- The coroutine that an action resumes. -/
def resumed (peer : UdpPeer) : UdpAction → Option Nat
  | .call task _ _ | .acquire task | .resume task _ | .cancel task => some task
  | .acked _ | .timeout _ => peer.arq.map Arq.task
  | .feed _ => none

/-- The session step that an action makes the end perform. -/
def sessionAction (peer : UdpPeer) : UdpAction → Option SessionAction
  | .call task op now => some (.call task op now)
  | .acquire task => some (.acquire task)
  | .acked now => peer.arq.map fun arq => .wrote arq.task none now
  | .timeout now =>
      match peer.arq with
      | some arq =>
          if arq.attempt + 1 < maxAttempts then
            none
          else
            some (.wrote arq.task (some ⟨.osError, "UDP transmission failed"⟩) now)
      | none => none
  | .resume task now =>
      match peer.session.tasks task with
      | some (.reading _ pending) =>
          match (readFrame true pending peer.stream.readBuffer).1 with
          | .finished result => some (.read task result now)
          | .suspended header =>
              if peer.stream.closed then
                some (.read task (.error ⟨.incompleteReadError, "stream closed"⟩) now)
              else
                header.map (.readHeader task)
      | _ => none
  | .cancel task => some (.cancel task)
  | .feed _ => none

theorem task_of_sessionAction {peer : UdpPeer} {action : UdpAction}
    {sessionAction : SessionAction} (performs : peer.sessionAction action = some sessionAction) :
    peer.resumed action = some sessionAction.task := by
  unfold UdpPeer.sessionAction at performs
  repeat' split at performs
  all_goals try cases performs
  all_goals try rfl
  · rcases Option.map_eq_some_iff.mp performs with ⟨arq, isArq, rfl⟩
    simp only [resumed, isArq, Option.map_some]
    rfl
  · rename_i isArq _
    simp only [resumed, isArq, Option.map_some]
    rfl
  · rcases Option.map_eq_some_iff.mp performs with ⟨header, _, rfl⟩
    rfl

/-- A step of the end performs its session step, and nothing else on the session. -/
theorem performed_of_step {P : Primitives} {peer next : UdpPeer} {action : UdpAction}
    (stepped : peer.step P action = some next) :
    (peer.sessionAction action = none ∧ next.session = peer.session) ∨
      ∃ sessionAction result at_, peer.sessionAction action = some sessionAction ∧
        peer.session.step P sessionAction = some result ∧
        Performed at_ result next.session := by
  have moved : ∀ {at_ : UdpPeer} {sessionAction : SessionAction} {result : Session × Effects},
      peer.sessionAction action = some sessionAction →
      peer.session.step P sessionAction = some result →
      ∃ sessionAction result' at', peer.sessionAction action = some sessionAction ∧
        peer.session.step P sessionAction = some result' ∧
        Performed at' result' (at_.perform result).session :=
    fun performs onSession => ⟨_, _, _, performs, onSession, performed _ _⟩
  cases action with
  | call task op now | acquire task | cancel task =>
      rcases Option.map_eq_some_iff.mp stepped with ⟨result, onSession, rfl⟩
      exact .inr (moved rfl onSession)
  | acked now =>
      simp only [step] at stepped
      split at stepped <;> try cases stepped
      rename_i arq isArq
      split at stepped <;> try cases stepped
      rcases Option.map_eq_some_iff.mp stepped with ⟨result, onSession, rfl⟩
      exact .inr (moved (by rw [sessionAction, isArq]; rfl) onSession)
  | timeout now =>
      simp only [step] at stepped
      split at stepped <;> try cases stepped
      rename_i arq isArq
      split at stepped
      · rename_i again
        cases stepped
        exact .inl ⟨by simp [sessionAction, isArq, again], rfl⟩
      · rename_i last
        rcases Option.map_eq_some_iff.mp stepped with ⟨result, onSession, rfl⟩
        exact .inr (moved (by simp [sessionAction, isArq, last]) onSession)
  | resume task now =>
      simp only [step, resumeRead] at stepped
      split at stepped
      case h_2 => cases stepped
      rename_i locals pending reading
      split at stepped
      · rename_i result rest read
        rcases Option.map_eq_some_iff.mp stepped with ⟨result, onSession, rfl⟩
        exact .inr (moved (by simp only [sessionAction, reading, read]) onSession)
      rename_i header rest read
      split at stepped
      · rename_i isClosed
        rcases Option.map_eq_some_iff.mp stepped with ⟨result, onSession, rfl⟩
        exact .inr (moved (by simp only [sessionAction, reading, read, isClosed, if_true])
          onSession)
      rename_i isOpen
      split at stepped
      · cases stepped
        refine .inl ⟨?_, rfl⟩
        simp only [sessionAction, reading, read, isOpen]
        rfl
      · rcases Option.map_eq_some_iff.mp stepped with ⟨result, onSession, rfl⟩
        refine .inr (moved ?_ onSession)
        simp only [sessionAction, reading, read, isOpen]
        rfl
  | feed data =>
      cases stepped
      exact .inl ⟨rfl, rfl⟩

/-- A step of the end leaves the session alone, or performs one step of it. -/
theorem session_of_step {P : Primitives} {peer next : UdpPeer} {action : UdpAction}
    (stepped : peer.step P action = some next) :
    next.session = peer.session ∨
      ∃ sessionAction result at_, peer.resumed action = some sessionAction.task ∧
        peer.session.step P sessionAction = some result ∧
        Performed at_ result next.session := by
  rcases performed_of_step stepped with ⟨_, same⟩ | ⟨_, result, at_, performs, onSession, done⟩
  · exact .inl same
  · exact .inr ⟨_, result, at_, task_of_sessionAction performs, onSession, done⟩

/-- The session of the end makes a run of its own. -/
theorem session_run_of_step {P : Primitives} {peer next : UdpPeer} {action : UdpAction}
    (stepped : peer.step P action = some next) :
    ∃ actions, Machine.run (Session.next P) peer.session actions = some next.session := by
  rcases session_of_step stepped with same | ⟨sessionAction, result, at_, _, onSession, done⟩
  · exact ⟨[], by rw [same]; rfl⟩
  · exact performed_run onSession done

/-- A step touches the resumed coroutine and the results of its call only. -/
theorem step_others {P : Primitives} {peer next : UdpPeer} {action : UdpAction}
    (stepped : peer.step P action = some next) {other : Nat}
    (distinct : peer.resumed action ≠ some other) :
    next.session.tasks other = peer.session.tasks other ∧
      ∀ outcome, (other, outcome) ∈ next.session.outcomes →
        (other, outcome) ∈ peer.session.outcomes := by
  rcases session_of_step stepped with same | ⟨sessionAction, result, at_, resumed, onSession, done⟩
  · rw [same]
    exact ⟨rfl, fun _ => id⟩
  have isOther : other ≠ sessionAction.task := by
    intro same
    rw [resumed, same] at distinct
    exact distinct rfl
  have settled : ∀ {before after : Session} {task : Nat} {outcomes : Option Outcome},
      other ≠ task →
      after.outcomes = before.outcomes ++ outcomes.toList.map (Prod.mk task) →
      ∀ outcome, (other, outcome) ∈ after.outcomes → (other, outcome) ∈ before.outcomes := by
    intro before after task outcomes apart added outcome member
    rw [added] at member
    rcases List.mem_append.mp member with old | new
    · exact old
    · rcases List.mem_map.mp new with ⟨_, _, equal⟩
      exact absurd (congrArg Prod.fst equal).symm apart
  have first := Session.step_others onSession
  rcases first.2 with ⟨outcome, added⟩
  generalize next.session = after at done ⊢
  cases done with
  | plain => exact ⟨first.1 other isOther, settled isOther added⟩
  | notSent sent locked exn write writing why =>
      rcases Session.write_of_step onSession write with ⟨_, isSent, _⟩
      have isTask : sent.task = sessionAction.task := by rw [isSent]; rfl
      have failed : result.1.step P (.wrote sent.task (some exn) 0) =
          some (result.1.raiseLocked sent.task locked exn) := by
        simp only [Session.step, writing]
      have second := Session.step_others failed
      rcases second.2 with ⟨outcome', added'⟩
      have apart : other ≠ sent.task := by rwa [isTask]
      exact ⟨(second.1 other apart).trans (first.1 other isOther),
        fun outcome member => settled isOther added outcome (settled apart added' outcome member)⟩

end UdpPeer

end Usmp
