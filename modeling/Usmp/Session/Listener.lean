import Usmp.Session.Ideal
import Usmp.Session.Teller
import Mathlib.Data.List.TakeWhile

/-!
# A session that listens to an attacker

The bytes that reach `recv` are the attacker's, the AEAD is ideal, and an honest peer
has encrypted the frames of a log.  As long as no `recv` failed, the session has
accepted exactly a prefix of that log.
-/

namespace Usmp

namespace Session

/-- A call of `recv` that ended without a message. -/
def failedRecv (session : Session) (outcome : Nat × Outcome) : Bool :=
  session.calls.lookup outcome.1 = some .recv && outcome.2.message?.isNone

/-- The messages that calls of `recv` returned before the first of them failed. -/
def receivedIntact (session : Session) : List Bytes :=
  (session.outcomes.takeWhile fun outcome => !session.failedRecv outcome).filterMap fun outcome =>
    outcome.2.message?

/-- What holds of every session that calls no `rekey`. -/
structure Listening (sessionId : FixedBytes usmpSessionIdLen) (session : Session) : Prop where
  calls : CallInv session
  reliable : session.reliable = true
  sessionId : session.info.sessionId = sessionId
  bound : session.info.txSeq ≤ maxSeq
  known : ∀ outcome ∈ session.outcomes, outcome.1 ∈ session.calls.map Prod.fst
  noRekey : ∀ call ∈ session.calls, ∀ salt, call.2 ≠ .rekey salt
  logged : ∀ frame ∈ session.sent,
    frame.seq ≤ maxSeq ∧ frame.txKey ∈ session.epochs.map Prod.fst
  current : session.info.txKey ∈ session.epochs.map Prod.fst

variable {P : Primitives} {sessionId : FixedBytes usmpSessionIdLen}

/-- A step belongs to a call. -/
theorem Progress.called_task {before base : Session} {action : SessionAction} {fate : Fate}
    {effects : Effects} (inv : CallInv before)
    (progress : Progress P before action base fate effects) :
    action.task ∈ base.calls.map Prod.fst ∧ ∃ more, base.calls = before.calls ++ more := by
  have knownTask : ∀ {task : Nat} {at_ : Task}, before.tasks task = some at_ →
      task ∈ before.calls.map Prod.fst :=
    fun isAt => List.mem_map_of_mem (inv.known _ _ isAt)
  cases progress with
  | called task op now isNew => exact ⟨by simp [SessionAction.task], _, rfl⟩
  | encrypted task action locked admitted ready unspent =>
      obtain ⟨isTask, was, wasAt, _⟩ := ready.was
      rw [isTask]
      exact ⟨knownTask wasAt, [], by simp⟩
  | refused task action locked admitted ready spent notBye exn =>
      obtain ⟨isTask, was, wasAt, _⟩ := ready.was
      rw [isTask]
      exact ⟨knownTask wasAt, [], by simp⟩
  | failed task locked exn now writing | sent task data offset now writing
  | signalled task locked now writing | rekeyed task salt now writing
  | ponged task locals now writing | interrupted task locked writing =>
      exact ⟨knownTask writing, [], by simp⟩
  | received task locals pending now result reading =>
      exact ⟨knownTask reading, [], by simp⟩
  | tookHeader task locals header reading => exact ⟨knownTask reading, [], by simp⟩
  | abandoned task at_ isAt => exact ⟨knownTask isAt, [], by simp⟩

/-- The keys of the frames and of the session are keys that it has held. -/
theorem Progress.logged {before base : Session} {action : SessionAction} {fate : Fate}
    {effects : Effects} (progress : Progress P before action base fate effects)
    (bound : before.info.txSeq ≤ maxSeq)
    (logged : ∀ frame ∈ before.sent,
      frame.seq ≤ maxSeq ∧ frame.txKey ∈ before.epochs.map Prod.fst)
    (current : before.info.txKey ∈ before.epochs.map Prod.fst) :
    (∀ frame ∈ base.sent, frame.seq ≤ maxSeq ∧ frame.txKey ∈ base.epochs.map Prod.fst) ∧
      base.info.txKey ∈ base.epochs.map Prod.fst := by
  have more : ∀ {keys : List (Key × Key)}, ∀ frame ∈ before.sent,
      frame.seq ≤ maxSeq ∧ frame.txKey ∈ (before.epochs ++ keys).map Prod.fst := by
    intro keys frame member
    rw [List.map_append]
    exact ⟨(logged frame member).1, List.mem_append_left _ (logged frame member).2⟩
  cases progress with
  | encrypted task action locked admitted ready unspent =>
      refine ⟨fun frame member => ?_, current⟩
      rcases List.mem_append.mp member with old | new
      · exact logged frame old
      · cases List.mem_singleton.mp new
        exact ⟨bound, current⟩
  | rekeyed task salt now writing => exact ⟨more, by simp [SessionInfo.rotated]⟩
  | received task locals pending now result reading turn isTurn =>
      refine ⟨more, ?_⟩
      rcases recvTurn_keys P before.reliable before.info locals now result with
        ⟨same, rotations⟩ | ⟨salt, keys, _, info, rotations⟩
      · simpa [isTurn, rotations, same.txKey] using current
      · simp [isTurn, rotations, info, SessionInfo.rotated]
  | called | refused | failed | sent | signalled | ponged | tookHeader | abandoned
  | interrupted => exact ⟨logged, current⟩

theorem Listening.progress {before base : Session} {action : SessionAction} {fate : Fate}
    {effects : Effects} (listening : Listening sessionId before)
    (progress : Progress P before action base fate effects)
    (notRekey : ∀ task salt now, action ≠ .call task (.rekey salt) now) :
    Listening sessionId (base.settle action.task fate) := by
  obtain ⟨sameId, _, sameReliable, bound⟩ := progress.identity
  obtain ⟨isCalled, more, calls⟩ := progress.called_task listening.calls
  obtain ⟨logged, current⟩ := progress.logged listening.bound listening.logged listening.current
  refine ⟨callInv_progress listening.calls progress,
    by simpa using sameReliable.trans listening.reliable,
    by simpa using sameId.trans listening.sessionId, by simpa using bound listening.bound, ?_, ?_,
    by simpa using logged, by simpa using current⟩
  · intro outcome member
    rw [settle_outcomes, progress.frame.2] at member
    simp only [settle_frame]
    rcases List.mem_append.mp member with old | new
    · rw [calls, List.map_append]
      exact List.mem_append_left _ (listening.known outcome old)
    · obtain ⟨_, _, rfl⟩ := List.mem_map.mp new
      exact isCalled
  · intro call member salt
    simp only [settle_frame] at member
    cases progress with
    | called task op now isNew =>
        rcases List.mem_append.mp member with old | new
        · exact listening.noRekey call old salt
        · cases List.mem_singleton.mp new
          rintro rfl
          exact notRekey task salt now rfl
    | _ => exact listening.noRekey call member salt

/-! ## Accepting a frame -/

/-- The session has accepted the first `count` frames of the log. -/
structure Heard (P : Primitives) (start : View) (teller session : Session) (view : View)
    (header : Option Bytes) (count : Nat) : Prop where
  receiver : Receiver session view header
  replayed : start.replay P teller.info.sessionId (teller.sent.take count) = some view

/-- Under an ideal AEAD, what opens at the next sequence is the next frame. -/
theorem Heard.next {start view : View} {teller session : Session} {header : Option Bytes}
    {count : Nat} {log : List SentFrame} {result : Except Exn USMPFrame} {frame : USMPFrame}
    {plaintext : Bytes} (tells : Tells P start teller) (nonces : NonceInv teller)
    (quiet : teller.holder = none) (ideal : P.Unforgeable (teller.sent ++ log))
    (logBound : ∀ sent ∈ log, sent.seq ≤ maxSeq)
    (directions : ∀ sent ∈ log, sent.txKey ∉ teller.epochs.map Prod.fst)
    (listening : Listening teller.info.sessionId session)
    (heard : Heard P start teller session view header count)
    (opened : openFrame P true session.info result = .ok (some (frame, plaintext)))
    (inOrder : frame.seq = session.info.rxSeq) (below : frame.seq < maxSeq) :
    result = .ok frame ∧ ∃ sent next,
      start.replay P teller.info.sessionId (teller.sent.take (count + 1)) = some next ∧
        view.accept P teller.info.sessionId sent = some next ∧ sent.type = frame.type ∧
        sent.seq = frame.seq ∧ sent.plaintext = plaintext := by
  have bound : ∀ sent ∈ teller.sent ++ log, sent.seq ≤ maxSeq := by
    intro sent member
    rcases List.mem_append.mp member with own | other
    · exact nonces.sent_bound sent own
    · exact logBound sent other
  obtain ⟨isFrame, sent, member, key, type, seq, nonce, _, isPlaintext⟩ :=
    openFrame_logged ideal bound opened (by omega)
  refine ⟨isFrame, ?_⟩
  have sameKey : sent.txKey = view.rxKey := key.trans heard.receiver.matched.rxKey
  have sameSeq : sent.seq = view.rxSeq :=
    seq.trans (inOrder.trans heard.receiver.matched.rxSeq)
  have told := tells.told
  rw [← List.take_append_drop count teller.sent] at told
  obtain ⟨_, replayed, later⟩ := Machine.run_append_some.mp told
  rw [← View.replay, heard.replayed] at replayed
  cases replayed
  cases isRest : teller.sent.drop count with
  | nil =>
      -- everything was accepted, so no frame of the current key has this sequence
      exfalso
      rw [isRest] at later
      have isMirror := Option.some.inj later
      rw [mirror, quiet] at isMirror
      rw [isMirror] at sameKey sameSeq
      rcases List.mem_append.mp member with own | other
      · rcases nonces.burned sent own sameKey with small | ⟨_, spent⟩
        · exact absurd sameSeq (Nat.ne_of_lt small)
        · have isSpent : sent.seq = maxSeq := sameSeq.trans spent
          omega
      · refine directions sent other ?_
        rw [sameKey]
        exact nonces.current_known
  | cons current rest =>
      rw [isRest] at later
      obtain ⟨next, accepted, _⟩ := Machine.run_cons_some.mp later
      obtain ⟨⟨currentKey, currentSeq, _⟩, _⟩ := View.accept_some.mp accepted
      have isCurrent : current ∈ teller.sent :=
        List.mem_of_mem_drop (isRest ▸ List.mem_cons_self : current ∈ teller.sent.drop count)
      have own : sent ∈ teller.sent := by
        rcases List.mem_append.mp member with own | other
        · exact own
        · refine absurd ?_ (directions sent other)
          rw [sameKey, ← currentKey]
          exact nonces.key_known current isCurrent
      have same : sent = current := by
        refine List.inj_on_of_nodup_map nonces.nodup own isCurrent ?_
        rw [sameKey, ← currentKey, nonce, nonces.nonce current isCurrent, currentSeq, ← sameSeq,
          seq, listening.sessionId]
      subst same
      refine ⟨sent, next, ?_, accepted, type, seq, isPlaintext⟩
      rw [List.take_add, isRest]
      exact Machine.run_append_some.mpr
        ⟨_, heard.replayed, Machine.run_cons_some.mpr ⟨_, accepted, rfl⟩⟩

/-- Over a reliable transport a turn that does not raise has opened the next frame. -/
theorem opened_of_turn {info : SessionInfo} {locals : RecvLocals} {now : Rat}
    {result : Except Exn USMPFrame}
    (goesOn : ∀ exn, (recvTurn P true info locals now result).step ≠ .raised exn) :
    ∃ frame plaintext, openFrame P true info result = .ok (some (frame, plaintext)) ∧
      frame.seq = info.rxSeq ∧ frame.seq < maxSeq := by
  unfold recvTurn at goesOn
  cases opened : openFrame P true info result with
  | error exn => simp [opened] at goesOn
  | ok frame =>
      cases frame with
      | none =>
          unfold openFrame at opened
          split at opened
          · cases opened
          · simp only [Bool.not_true, Bool.false_and, Bool.false_eq_true, if_false] at opened
            split at opened <;> cases opened
      | some pair =>
          obtain ⟨frame, plaintext⟩ := pair
          simp only [opened] at goesOn
          cases accepted : acceptSeq true info frame.seq with
          | error exn => simp [accepted] at goesOn
          | ok pair =>
              obtain ⟨below, ⟨_, inOrder, _⟩ | ⟨unreliable, _⟩⟩ := acceptSeq_ok accepted
              · exact ⟨frame, plaintext, rfl, inOrder, below⟩
              · cases unreliable

/-- Without reading a frame no `recv` returns. -/
theorem Progress.noMessage {before base : Session} {action : SessionAction} {fate : Fate}
    {effects : Effects} (progress : Progress P before action base fate effects)
    (reliable : before.reliable = true)
    (notRead : ∀ task result now, action ≠ .read task result now) :
    fate.outcome.bind Outcome.message? = none := by
  have raised : ∀ {locked : Locked} {exn : Exn},
      (locked.raisedFate before.reliable exn).outcome.bind Outcome.message? = none := by
    intro locked exn
    cases locked with
    | pong locals => simp [Locked.raisedFate, onViolation, reliable, RecvStep.fate, Fate.outcome,
        Outcome.message?]
    | bye =>
        simp only [Locked.raisedFate]
        split <;> rfl
    | send data offset | ping | rekey salt => rfl
  cases progress with
  | called task op now isNew =>
      cases op with
      | send data | bye =>
          simp only [Op.start]
          split <;> rfl
      | ping | rekey salt | recv => rfl
  | refused | failed => exact raised
  | ponged task locals now writing =>
      unfold pongSent
      split
      · simp [onViolation, reliable, RecvStep.fate, Fate.outcome, Outcome.message?]
      · rfl
  | received task locals pending now result reading turn isTurn =>
      exact absurd rfl (notRead task result now)
  | encrypted | sent | signalled | rekeyed | tookHeader | abandoned | interrupted => rfl

/-! ## The invariant -/

/-- The messages received intact begin the messages that the peer sent; and while no
`recv` has failed, what the session accepted is a prefix of the peer's log. -/
structure Secure (P : Primitives) (start : View) (teller session : Session) : Prop where
  listening : Listening teller.info.sessionId session
  begins : session.receivedIntact <+: teller.admittedPayloads
  heard : (∀ outcome ∈ session.outcomes, session.failedRecv outcome = false) →
    ∃ view header count, Heard P start teller session view header count

theorem Heard.begins {start view : View} {teller session : Session} {header : Option Bytes}
    {count : Nat} (tells : Tells P start teller)
    (heard : Heard P start teller session view header count) :
    session.received <+: teller.admittedPayloads := by
  have told := tells.told
  rw [← List.take_append_drop count teller.sent] at told
  obtain ⟨_, replayed, later⟩ := Machine.run_append_some.mp told
  rw [← View.replay, heard.replayed] at replayed
  cases replayed
  rw [heard.receiver.messages]
  exact (View.replay_messages later).trans (mirror_messages teller)

/-- While no `recv` has failed all messages are received intact. -/
theorem receivedIntact_of_none {session : Session}
    (none : ∀ outcome ∈ session.outcomes, session.failedRecv outcome = false) :
    session.receivedIntact = session.received := by
  rw [receivedIntact, received]
  congr 1
  exact List.takeWhile_eq_self_iff.mpr fun outcome member => by simp [none outcome member]

/-- One more element does not change what comes before the first failure. -/
theorem takeWhile_append_failed {α : Type} {before after : α → Bool} {old new : List α}
    (agree : ∀ item ∈ old, after item = before item) (short : new.length ≤ 1)
    (failed : ∃ item ∈ old ++ new, after item = false) :
    (old ++ new).takeWhile after = old.takeWhile before := by
  induction old with
  | nil =>
      obtain ⟨item, member, fails⟩ := failed
      match new, short, member with
      | [only], _, member =>
          cases List.mem_singleton.mp member
          simp [fails]
  | cons first rest ih =>
      have same := agree first List.mem_cons_self
      cases holds : after first with
      | false => simp [holds, ← same]
      | true =>
          obtain ⟨item, member, fails⟩ := failed
          have inRest : item ∈ rest ++ new := by
            rcases List.mem_cons.mp member with rfl | later
            · rw [holds] at fails
              cases fails
            · exact later
          simp only [List.cons_append, List.takeWhile_cons, holds, ← same, if_true]
          rw [ih (fun item member => agree item (List.mem_cons_of_mem _ member))
            ⟨item, inRest, fails⟩]

/-- Whether a known call failed does not change. -/
theorem failedRecv_settle {before base : Session} {task : Nat} {fate : Fate}
    {outcome : Nat × Outcome} (inv : CallInv before) {more : List (Nat × Op)}
    (calls : base.calls = before.calls ++ more)
    (known : outcome.1 ∈ before.calls.map Prod.fst) :
    (base.settle task fate).failedRecv outcome = before.failedRecv outcome := by
  obtain ⟨call, isCall, same⟩ := List.mem_map.mp known
  have found : before.calls.lookup outcome.1 = some call.2 := by
    rw [← same]
    exact inv.lookup isCall
  simp [failedRecv, calls, List.lookup_append, found]

/-- A step after which no `recv` has failed accepts the next frame of the log, or none. -/
theorem Heard.progress {start view : View} {teller before base : Session}
    {header : Option Bytes} {count : Nat} {log : List SentFrame} {action : SessionAction}
    {fate : Fate} {effects : Effects} (tells : Tells P start teller) (nonces : NonceInv teller)
    (quiet : teller.holder = none) (ideal : P.Unforgeable (teller.sent ++ log))
    (logBound : ∀ sent ∈ log, sent.seq ≤ maxSeq)
    (directions : ∀ sent ∈ log, sent.txKey ∉ teller.epochs.map Prod.fst)
    (listening : Listening teller.info.sessionId before)
    (heard : Heard P start teller before view header count)
    (progress : Progress P before action base fate effects)
    (single : ∀ task now, action = .call task .recv now → before.receiving = false)
    (unfailed : ∀ at_ outcome, before.tasks action.task = some at_ → at_.op = .recv →
      fate = .ended outcome → outcome.message? ≠ none) :
    ∃ view' header' count',
      Heard P start teller (base.settle action.task fate) view' header' count' := by
  by_cases isRead : ∃ task result now, action = .read task result now
  · obtain ⟨task, result, now, rfl⟩ := isRead
    cases progress with
    | encrypted task action locked admitted ready unspent => cases ready
    | refused task action locked admitted ready spent notBye exn => cases ready
    | received task locals pending now result reading turn isTurn =>
        rw [listening.reliable] at isTurn
        subst isTurn
        have goesOn : ∀ exn,
            (recvTurn P true before.info locals now result).step ≠ .raised exn := by
          intro exn raised
          refine unfailed _ (.raised exn) reading rfl ?_ rfl
          rw [raised]
          rfl
        obtain ⟨frame, plaintext, opened, inOrder, below⟩ := opened_of_turn goesOn
        obtain ⟨rfl, sent, next, replayed, accepted, type, seq, rfl⟩ :=
          heard.next tells nonces quiet ideal logBound directions listening opened inOrder below
        rw [← listening.sessionId] at accepted
        obtain ⟨matched, _, _, _, _, turned⟩ := View.recvTurn_accept now heard.receiver.tidy
          heard.receiver.matched (heard.receiver.shown task _ locals reading rfl) opened
          type.symm seq.symm accepted
        exact ⟨next, none, count + 1,
          heard.receiver.read reading rfl rfl matched (heard.receiver.tidy.accept accepted) turned,
          replayed⟩
  · simp only [not_exists] at isRead
    have epochs : base.epochs = before.epochs := by
      cases progress with
      | rekeyed task salt now writing =>
          exact absurd rfl (listening.noRekey _ (listening.calls.known task _ writing) salt)
      | received task locals pending now result reading turn isTurn =>
          exact absurd rfl (isRead task result now)
      | _ => rfl
    have goesOn : ∀ at_, before.tasks action.task = some at_ → at_.op = .recv →
        ∃ next, fate.await = some next := by
      intro at_ isAt isRecv
      cases fate with
      | suspended next => exact ⟨next, rfl⟩
      | ended outcome =>
          exact absurd (progress.noMessage listening.reliable isRead)
            (unfailed at_ outcome isAt isRecv rfl)
    exact ⟨view, _, count, Receiver.progress listening.calls listening.reliable heard.receiver
      progress epochs isRead single goesOn, heard.replayed⟩

theorem Secure.progress {start : View} {teller before base : Session} {log : List SentFrame}
    {action : SessionAction} {fate : Fate} {effects : Effects} (tells : Tells P start teller)
    (nonces : NonceInv teller) (quiet : teller.holder = none)
    (ideal : P.Unforgeable (teller.sent ++ log)) (logBound : ∀ sent ∈ log, sent.seq ≤ maxSeq)
    (directions : ∀ sent ∈ log, sent.txKey ∉ teller.epochs.map Prod.fst)
    (secure : Secure P start teller before)
    (progress : Progress P before action base fate effects)
    (notRekey : ∀ task salt now, action ≠ .call task (.rekey salt) now)
    (single : ∀ task now, action = .call task .recv now → before.receiving = false) :
    Secure P start teller (base.settle action.task fate) := by
  have listening := secure.listening
  have listening' := listening.progress progress notRekey
  obtain ⟨_, more, calls⟩ := progress.called_task listening.calls
  have outcomes : (base.settle action.task fate).outcomes =
      before.outcomes ++ fate.outcome.toList.map (Prod.mk action.task) := by
    rw [settle_outcomes, progress.frame.2]
  have stable : ∀ outcome ∈ before.outcomes,
      (base.settle action.task fate).failedRecv outcome = before.failedRecv outcome :=
    fun outcome member => failedRecv_settle listening.calls calls (listening.known outcome member)
  have heard' : (∀ outcome ∈ (base.settle action.task fate).outcomes,
      (base.settle action.task fate).failedRecv outcome = false) →
      ∃ view header count,
        Heard P start teller (base.settle action.task fate) view header count := by
    intro none
    rw [outcomes] at none
    obtain ⟨view, header, count, heard⟩ := secure.heard fun outcome member => by
      rw [← stable outcome member]
      exact none outcome (List.mem_append_left _ member)
    refine heard.progress tells nonces quiet ideal logBound directions listening progress single ?_
    rintro at_ outcome isAt isRecv rfl noMessage
    have call := listening.calls.known _ at_ isAt
    rw [isRecv] at call
    have failed := none (action.task, outcome)
      (List.mem_append_right _ (by simp [Fate.outcome]))
    simp [failedRecv, calls, List.lookup_append, listening.calls.lookup call, noMessage] at failed
  refine ⟨listening', ?_, heard'⟩
  by_cases none : ∀ outcome ∈ (base.settle action.task fate).outcomes,
      (base.settle action.task fate).failedRecv outcome = false
  · obtain ⟨view, header, count, heard⟩ := heard' none
    rw [receivedIntact_of_none none]
    exact heard.begins tells
  · -- what a failed `recv` leaves is what was received before it
    simp only [not_forall, Bool.not_eq_false] at none
    obtain ⟨outcome, member, failed⟩ := none
    have sameIntact : (base.settle action.task fate).receivedIntact = before.receivedIntact := by
      rw [outcomes] at member
      rw [receivedIntact, receivedIntact, outcomes, takeWhile_append_failed
        (fun outcome member => by rw [stable outcome member])
        (by cases fate <;> simp [Fate.outcome])
        ⟨outcome, member, by simp [failed]⟩]
    rw [sameIntact]
    exact secure.begins

end Session

end Usmp
