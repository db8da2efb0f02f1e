import Usmp.Session.Dialogue
import Usmp.Session.Exceptions

/-!
# Hanging up

A BYE is authentic and numbered like every other frame.  A `recv` that reports it has therefore
seen the whole log before it: an attacker who cuts a connection short cannot make that look like
the peer hanging up.
-/

namespace Usmp

/-- What `recv` raises on a BYE. -/
def remoteSentBye : Exn := ⟨.connectionClosedError, "Remote sent BYE"⟩

/-- Handling a frame raises, or it does not: there is no third way. -/
theorem handleFrame_ok_ne_raised {P : Primitives} {info after : SessionInfo} {locals : RecvLocals}
    {now : Rat} {frame : USMPFrame} {plaintext : Bytes} {calls : List TransportCall} {exn : Exn} :
    handleFrame P info locals now frame plaintext ≠ .ok (after, calls, .raised exn) := by
  intro handled
  by_cases counted : frame.type = .pong ∧ locals.assembledPayload = []
  · rw [handleFrame_pong counted.1 counted.2] at handled
    cases budget : countControl locals now with
    | error _ =>
        rw [budget] at handled
        cases handled
    | ok _ =>
        rw [budget] at handled
        cases handled
  · rcases handleFrame_controls handled counted with isPong | ⟨_, returned⟩ | ⟨_, goesOn, _⟩
    · cases isPong
    · cases returned
    · cases goesOn

/-- Only a BYE makes a turn over a reliable transport report one, unless the transport raises a
`ConnectionClosedError` of its own. -/
theorem recvTurn_bye {P : Primitives} {info : SessionInfo} {locals : RecvLocals} {now : Rat}
    {result : Except Exn USMPFrame}
    (own : ∀ exn, result = .error exn → exn.cls ≠ .connectionClosedError)
    (told : (recvTurn P true info locals now result).step = .raised remoteSentBye) :
    ∃ frame plaintext, openFrame P true info result = .ok (some (frame, plaintext)) ∧
      frame.type = .bye ∧ frame.seq = info.rxSeq ∧ frame.seq < maxSeq := by
  unfold recvTurn at told
  split at told
  · -- neither the transport nor the decryption reports a BYE
    rename_i exn failed
    exfalso
    simp only [Bool.not_true, Bool.false_and, Bool.false_eq_true, if_false,
      RecvStep.raised.injEq] at told
    subst told
    unfold openFrame at failed
    split at failed
    · cases failed
      exact own _ rfl rfl
    simp only [Bool.not_true, Bool.false_and, Bool.false_eq_true, if_false] at failed
    split at failed
    · rename_i undecrypted
      cases failed
      unfold decrypt at undecrypted
      repeat' split at undecrypted
      all_goals cases undecrypted
    · cases failed
  · cases told
  rename_i frame plaintext opened
  split at told
  · rename_i exn refused
    simp only [RecvStep.raised.injEq] at told
    subst told
    unfold acceptSeq at refused
    repeat' split at refused
    all_goals cases refused
  rename_i after calls accepted
  rcases acceptSeq_ok accepted with ⟨below, ⟨_, inOrder, _⟩ | ⟨unreliable, _⟩⟩
  case inr => cases unreliable
  split at told
  · rename_i exn handled
    simp only [onViolation, Bool.not_true, Bool.false_and, Bool.false_eq_true, if_false,
      RecvStep.raised.injEq] at told
    subst told
    rcases handleFrame_error handled with ⟨isBye, _⟩ | ⟨_, _, tooMany⟩ | violation
    · exact ⟨frame, plaintext, opened, isBye, inOrder, below⟩
    · exact absurd (countControl_error tooMany).1 (by decide)
    · exact absurd violation (by decide)
  · rename_i handled
    cases told
    exact absurd handled handleFrame_ok_ne_raised

namespace Session

variable {P : Primitives} {start view : View} {teller session : Session} {header : Option Bytes}
  {count : Nat} {goodbye : SentFrame} {later own : List SentFrame}

/-! ## The log of a session that says goodbye -/

/-- A session at rest, the BYE that it sends next, and whatever it sends after that. -/
structure Departed (P : Primitives) (start : View) (teller : Session) (goodbye : SentFrame)
    (later : List SentFrame) : Prop where
  tells : Tells P start teller
  quiet : teller.holder = none
  isBye : goodbye.type = .bye
  txKey : goodbye.txKey = teller.info.txKey
  seq : goodbye.seq = teller.info.txSeq
  bound : ∀ sent ∈ teller.sent ++ goodbye :: later, sent.seq ≤ maxSeq
  nonce : ∀ sent ∈ teller.sent ++ goodbye :: later,
    sent.nonce = packNonce sent.seq teller.info.sessionId
  nodup : ((teller.sent ++ goodbye :: later).map fun sent => (sent.txKey, sent.nonce)).Nodup

theorem mirror_quiet (quiet : session.holder = none) :
    session.mirror P = mirrorOf P session.info session.admittedPayloads none := by
  rw [mirror, quiet]

/-- The frame that a listener who has heard `count` frames waits for. -/
theorem Departed.expected (departed : Departed P start teller goodbye later)
    (heard : Heard P start teller session view header count) :
    (teller.sent.drop count = [] ∧ view = teller.mirror P ∧ goodbye.txKey = view.rxKey ∧
        goodbye.seq = view.rxSeq) ∨
      ∃ current ∈ teller.sent, ∃ next,
        start.replay P teller.info.sessionId (teller.sent.take (count + 1)) = some next ∧
          view.accept P teller.info.sessionId current = some next := by
  have told := departed.tells.told
  rw [← List.take_append_drop count teller.sent] at told
  rcases Machine.run_append_some.mp told with ⟨_, replayed, rest⟩
  rw [← View.replay, heard.replayed] at replayed
  cases replayed
  cases isRest : teller.sent.drop count with
  | nil =>
      rw [isRest] at rest
      cases rest
      left
      rw [mirror_quiet departed.quiet]
      exact ⟨rfl, rfl, departed.txKey, departed.seq⟩
  | cons current others =>
      rw [isRest] at rest
      rcases Machine.run_cons_some.mp rest with ⟨next, accepted, _⟩
      have member : current ∈ teller.sent.drop count := isRest ▸ List.mem_cons_self
      right
      refine ⟨current, List.mem_of_mem_drop member, next, ?_, accepted⟩
      rw [List.take_add, isRest]
      exact Machine.run_append_some.mpr
        ⟨_, heard.replayed, Machine.run_cons_some.mpr ⟨_, accepted, rfl⟩⟩

/-- A frame of the log with the key and the sequence of another one is that frame. -/
theorem Departed.unique (departed : Departed P start teller goodbye later) {sent other : SentFrame}
    (isSent : sent ∈ teller.sent ++ goodbye :: later)
    (isOther : other ∈ teller.sent ++ goodbye :: later) (key : sent.txKey = other.txKey)
    (seq : sent.seq = other.seq) : sent = other := by
  apply List.inj_on_of_nodup_map departed.nodup isSent isOther
  rw [key, departed.nonce sent isSent, departed.nonce other isOther, seq]

/-- Under an ideal AEAD, what opens at the next sequence is the next frame of the log, or the
BYE once everything before it was heard. -/
theorem Departed.next (departed : Departed P start teller goodbye later)
    (ideal : P.Unforgeable ((teller.sent ++ goodbye :: later) ++ own))
    (ownBound : ∀ sent ∈ own, sent.seq ≤ maxSeq)
    (directions : ∀ sent ∈ own, ∀ other ∈ teller.sent ++ goodbye :: later,
      sent.txKey ≠ other.txKey)
    (heard : Heard P start teller session view header count)
    {result : Except Exn USMPFrame} {frame : USMPFrame} {plaintext : Bytes}
    (opened : openFrame P true session.info result = .ok (some (frame, plaintext)))
    (inOrder : frame.seq = session.info.rxSeq) (below : frame.seq < maxSeq) :
    (teller.sent.drop count = [] ∧ view = teller.mirror P ∧ frame.type = .bye) ∨
      result = .ok frame ∧ ∃ sent next,
        start.replay P teller.info.sessionId (teller.sent.take (count + 1)) = some next ∧
          view.accept P teller.info.sessionId sent = some next ∧ sent.type = frame.type ∧
          sent.seq = frame.seq ∧ sent.plaintext = plaintext := by
  have bound : ∀ sent ∈ (teller.sent ++ goodbye :: later) ++ own, sent.seq ≤ maxSeq := by
    intro sent member
    rcases List.mem_append.mp member with told | other
    · exact departed.bound sent told
    · exact ownBound sent other
  rcases openFrame_logged ideal bound opened (Nat.le_of_lt below) with
    ⟨isFrame, sent, member, key, type, seq, _, _, isPlaintext⟩
  have sameKey : sent.txKey = view.rxKey := key.trans heard.receiver.matched.rxKey
  have sameSeq : sent.seq = view.rxSeq :=
    seq.trans (inOrder.trans heard.receiver.matched.rxSeq)
  -- the sender's own frames carry the other key
  have isTold : ∀ other ∈ teller.sent ++ goodbye :: later, other.txKey = view.rxKey →
      sent ∈ teller.sent ++ goodbye :: later := by
    intro other isOther otherKey
    rcases List.mem_append.mp member with told | isOwn
    · exact told
    · exact absurd (sameKey.trans otherKey.symm) (directions sent isOwn other isOther)
  rcases departed.expected heard with
    ⟨nothingLeft, isMirror, byeKey, byeSeq⟩ | ⟨current, isCurrent, next, replayed, accepted⟩
  · left
    have isGoodbye : goodbye ∈ teller.sent ++ goodbye :: later := by simp
    have same : sent = goodbye := departed.unique (isTold goodbye isGoodbye byeKey) isGoodbye
      (sameKey.trans byeKey.symm) (sameSeq.trans byeSeq.symm)
    refine ⟨nothingLeft, isMirror, ?_⟩
    rw [← type, same]
    exact departed.isBye
  · right
    rcases View.accept_some.mp accepted with ⟨⟨currentKey, currentSeq, _⟩, _⟩
    have inLog : current ∈ teller.sent ++ goodbye :: later := List.mem_append_left _ isCurrent
    have same : sent = current := departed.unique (isTold current inLog currentKey) inLog
      (sameKey.trans currentKey.symm) (sameSeq.trans currentSeq.symm)
    subst same
    exact ⟨isFrame, sent, next, replayed, accepted, type, seq, isPlaintext⟩

/-! ## The first failure of a listener -/

/-- How the first `recv` that failed ended. -/
def firstFailure (session : Session) : Option Outcome :=
  (session.outcomes.find? session.failedRecv).map Prod.snd

theorem firstFailure_none {session : Session} :
    session.firstFailure = none ↔
      ∀ outcome ∈ session.outcomes, session.failedRecv outcome = false := by
  rw [firstFailure, Option.map_eq_none_iff, List.find?_eq_none]
  simp

/-- What a step adds to the outcomes. -/
theorem Progress.outcomes {before base : Session} {action : SessionAction} {fate : Fate}
    {effects : Effects} (progress : Progress P before action base fate effects) :
    (base.settle action.task fate).outcomes =
      before.outcomes ++ fate.outcome.toList.map (Prod.mk action.task) := by
  rw [settle_outcomes, progress.frame.2]

/-- The first failure stays the first. -/
theorem Progress.firstFailure_of_some {sessionId : FixedBytes usmpSessionIdLen}
    {before base : Session} {action : SessionAction} {fate : Fate} {effects : Effects}
    (listening : Listening sessionId before)
    (progress : Progress P before action base fate effects)
    (failed : before.firstFailure ≠ none) :
    (base.settle action.task fate).firstFailure = before.firstFailure ∧
      (base.settle action.task fate).receivedIntact = before.receivedIntact := by
  rcases progress.called_task listening.calls with ⟨_, more, calls⟩
  have stable : ∀ outcome ∈ before.outcomes,
      (base.settle action.task fate).failedRecv outcome = before.failedRecv outcome :=
    fun outcome member => failedRecv_settle listening.calls calls (listening.known outcome member)
  constructor
  · have same : before.outcomes.find? (base.settle action.task fate).failedRecv =
        before.outcomes.find? before.failedRecv := by
      rw [← List.head?_filter, ← List.head?_filter, List.filter_congr stable]
    rw [firstFailure, progress.outcomes, List.find?_append, same]
    cases found : before.outcomes.find? before.failedRecv with
    | none => exact absurd (by rw [firstFailure, found, Option.map_none]) failed
    | some outcome => rw [firstFailure, found, Option.some_or]
  · rw [ne_eq, firstFailure_none, not_forall] at failed
    rcases failed with ⟨outcome, fails⟩
    rw [Classical.not_imp, Bool.not_eq_false] at fails
    rw [receivedIntact, receivedIntact, progress.outcomes]
    rw [takeWhile_append_failed (fun outcome member => by rw [stable outcome member])
      (by cases fate <;> simp [Fate.outcome])
      ⟨outcome, List.mem_append_left _ fails.1, by rw [stable outcome fails.1, fails.2]; rfl⟩]

/-- A step after which the first failure is known ended a `recv` that way. -/
theorem Progress.firstFailure_of_none {sessionId : FixedBytes usmpSessionIdLen}
    {before base : Session} {action : SessionAction} {fate : Fate} {effects : Effects}
    {outcome : Outcome} (listening : Listening sessionId before)
    (progress : Progress P before action base fate effects)
    (unfailed : before.firstFailure = none)
    (fails : (base.settle action.task fate).firstFailure = some outcome) :
    fate = .ended outcome ∧
      (base.settle action.task fate).calls.lookup action.task = some .recv ∧
      outcome.message? = none := by
  rcases progress.called_task listening.calls with ⟨_, more, calls⟩
  have stable : ∀ outcome ∈ before.outcomes,
      (base.settle action.task fate).failedRecv outcome = before.failedRecv outcome :=
    fun outcome member => failedRecv_settle listening.calls calls (listening.known outcome member)
  have noneBefore : before.outcomes.find? (base.settle action.task fate).failedRecv = none := by
    rw [List.find?_eq_none]
    intro old member
    rw [stable old member, firstFailure_none.mp unfailed old member]
    simp
  rw [firstFailure, progress.outcomes, List.find?_append, noneBefore, Option.none_or] at fails
  cases fate with
  | suspended at_ => cases fails
  | ended ending =>
      simp only [Fate.outcome, Option.toList_some, List.map_cons, List.map_nil,
        List.find?_singleton] at fails
      split at fails
      · rename_i failed
        cases fails
        simp only [failedRecv, Bool.and_eq_true, decide_eq_true_eq, Option.isNone_iff_eq_none]
          at failed
        exact ⟨rfl, failed⟩
      · cases fails

/-! ## Who is told of a BYE -/

/-- Calls of `recv` one after the other, beside anything but `rekey`, over a transport that
raises no `ConnectionClosedError`: that one is the session's own. -/
def Attends (session : Session) : SessionAction → Prop
  | .call _ (.rekey _) _ => False
  | .call _ .recv _ => session.receiving = false
  | .wrote _ (some exn) _ | .read _ (.error exn) _ => exn.cls ≠ .connectionClosedError
  | _ => True

instance (session : Session) : (action : SessionAction) → Decidable (session.Attends action)
  | .call _ (.rekey _) _ => isFalse id
  | .call _ .recv _ => inferInstanceAs (Decidable (session.receiving = false))
  | .wrote _ (some exn) _ | .read _ (.error exn) _ =>
      inferInstanceAs (Decidable (exn.cls ≠ .connectionClosedError))
  | .call _ (.send _) _ | .call _ .ping _ | .call _ .bye _ | .acquire _ | .wrote _ none _
  | .read _ (.ok _) _ | .readHeader _ _ | .cancel _ => isTrue trivial

theorem Attends.keeps {session : Session} {action : SessionAction}
    (attends : session.Attends action) :
    (∀ task salt now, action ≠ .call task (.rekey salt) now) ∧
      ∀ task now, action = .call task .recv now → session.receiving = false := by
  constructor
  · rintro task salt now rfl
    exact attends
  · rintro task now rfl
    exact attends

/-- A PONG without a sequence left ends `recv` with a `SequenceError`. -/
theorem refused_pong {session : Session} {task : Nat} {locals : RecvLocals}
    {result : Session × Effects} (reliable : session.reliable = true)
    (spent : maxSeq ≤ session.info.txSeq)
    (waiting : session.tasks task = some (.lockWait (.pong locals)))
    (performed : session.step P (.acquire task) = some result) :
    result.1.outcomes = session.outcomes ++
      [(task, .raised ⟨.sequenceError, "TX sequence overflowed"⟩)] := by
  have isSpent : session.info.txSeq ≥ maxSeq ∧ (Locked.pong locals).frame.1 ≠ .bye :=
    ⟨spent, by simp [Locked.frame]⟩
  cases free : session.lock with
  | some holder => simp [step, free] at performed
  | none =>
      simp only [step, free, waiting, emit, sendEncryptedLocked, if_pos isSpent,
        Option.some.injEq] at performed
      subst performed
      simp [raiseLocked, onViolation, reliable, resumeRecv]

/-- A `recv` that reports a BYE has read one. -/
theorem Progress.told_bye {sessionId : FixedBytes usmpSessionIdLen} {before base : Session}
    {action : SessionAction} {fate : Fate} {effects : Effects}
    (listening : Listening sessionId before)
    (progress : Progress P before action base fate effects) (attends : before.Attends action)
    (performed : before.step P action = some (base.settle action.task fate, effects))
    (isRecv : (base.settle action.task fate).calls.lookup action.task = some .recv)
    (told : fate = .ended (.raised remoteSentBye)) :
    ∃ result now frame plaintext, action = .read action.task result now ∧
      openFrame P true before.info result = .ok (some (frame, plaintext)) ∧
      frame.type = .bye ∧ frame.seq = before.info.rxSeq ∧ frame.seq < maxSeq := by
  rw [(settle_frame base action.task fate).2.2.2.2.1] at isRecv
  have isOp : ∀ {at_ : Task}, before.tasks action.task = some at_ → base.calls = before.calls →
      at_.op = .recv := by
    intro at_ isAt calls
    have call := listening.calls.lookup (listening.calls.known _ at_ isAt)
    rw [calls, call] at isRecv
    exact Option.some.inj isRecv
  cases progress with
  | called task op now isNew =>
      cases op with
      | send data | bye =>
          simp only [Op.start] at told
          split at told <;> cases told
      | ping | rekey salt | recv => cases told
  | encrypted task action locked admitted ready unspent => cases told
  | refused task action locked admitted ready spent notBye exn =>
      rcases ready.was with ⟨isTask, was, wasAt, sameOp, _⟩
      have pongs := isOp (isTask ▸ wasAt) rfl
      cases ready with
      | admitted locked free waiting =>
          rw [waiting] at wasAt
          cases wasAt
          cases locked with
          | pong locals =>
              have ended := refused_pong listening.reliable spent waiting performed
              rw [told] at ended
              simp [settle, finish, remoteSentBye] at ended
          | send data offset | ping | rekey salt | bye => cases pongs
      | nextFragment data offset now writing more =>
          rw [writing] at wasAt
          cases wasAt
          cases pongs
  | failed task locked exn now writing =>
      have pongs := isOp writing rfl
      cases locked with
      | pong locals =>
          exfalso
          simp only [Locked.raisedFate, onViolation, listening.reliable, Bool.not_true,
            Bool.false_and, Bool.false_eq_true, if_false, RecvStep.fate, Fate.ended.injEq,
            Outcome.raised.injEq] at told
          exact attends (by rw [told]; rfl)
      | send data offset | ping | rekey salt | bye => cases pongs
  | sent | signalled | rekeyed | tookHeader | abandoned | interrupted => cases told
  | ponged task locals now writing =>
      exfalso
      unfold pongSent at told
      split at told
      · rename_i tooMany
        rw [(countControl_error tooMany).1, listening.reliable] at told
        exact absurd told (by simp [onViolation, RecvStep.fate, tooManyControls, remoteSentBye])
      · cases told
  | received task locals pending now result reading turn isTurn =>
      rw [listening.reliable] at isTurn
      subst isTurn
      have raised : (recvTurn P true before.info locals now result).step =
          .raised remoteSentBye := by
        cases isStep : (recvTurn P true before.info locals now result).step with
        | raised exn =>
            rw [isStep] at told
            cases told
            rfl
        | next _ | pong _ | returned _ =>
            rw [isStep] at told
            cases told
      rcases recvTurn_bye (by rintro exn rfl; exact attends) raised with
        ⟨frame, plaintext, opened⟩
      exact ⟨result, now, frame, plaintext, rfl, opened⟩

/-! ## The invariant of the listener -/

/-- A turn on a BYE raises. -/
theorem recvTurn_of_bye {info : SessionInfo} {locals : RecvLocals} {now : Rat}
    {result : Except Exn USMPFrame} {frame : USMPFrame} {plaintext : Bytes}
    (opened : openFrame P true info result = .ok (some (frame, plaintext)))
    (isBye : frame.type = .bye) :
    ∃ exn, (recvTurn P true info locals now result).step = .raised exn := by
  unfold recvTurn
  rw [opened]
  dsimp only
  split
  · exact ⟨_, rfl⟩
  · simp [handleFrame, isBye, onViolation]

/-- A step after which no `recv` has failed hears the next frame before the BYE, or none. -/
theorem Heard.departed {before base : Session} {action : SessionAction} {fate : Fate}
    {effects : Effects} (departed : Departed P start teller goodbye later)
    (ideal : P.Unforgeable ((teller.sent ++ goodbye :: later) ++ own))
    (ownBound : ∀ sent ∈ own, sent.seq ≤ maxSeq)
    (directions : ∀ sent ∈ own, ∀ other ∈ teller.sent ++ goodbye :: later,
      sent.txKey ≠ other.txKey)
    (listening : Listening teller.info.sessionId before)
    (heard : Heard P start teller before view header count)
    (progress : Progress P before action base fate effects) (attends : before.Attends action)
    (unfailed : ∀ at_ outcome, before.tasks action.task = some at_ → at_.op = .recv →
      fate = .ended outcome → outcome.message? ≠ none) :
    ∃ view' header' count',
      Heard P start teller (base.settle action.task fate) view' header' count' := by
  by_cases isRead : ∃ task result now, action = .read task result now
  · rcases isRead with ⟨task, result, now, rfl⟩
    cases progress with
    | encrypted task action locked admitted ready unspent => cases ready
    | refused task action locked admitted ready spent notBye exn => cases ready
    | received task locals pending now result reading turn isTurn =>
        rw [listening.reliable] at isTurn
        subst isTurn
        have goesOn : ∀ exn,
            (recvTurn P true before.info locals now result).step ≠ .raised exn := by
          intro exn raised
          apply unfailed _ (.raised exn) reading rfl ?_ rfl
          rw [raised]
          rfl
        rcases opened_of_turn goesOn with ⟨frame, plaintext, opened, inOrder, below⟩
        rcases departed.next ideal ownBound directions heard opened inOrder below with
          ⟨_, _, isBye⟩ | ⟨rfl, sent, next, replayed, accepted, type, seq, rfl⟩
        · rcases recvTurn_of_bye opened isBye with ⟨exn, raised⟩
          exact absurd raised (goesOn exn)
        · rw [← listening.sessionId] at accepted
          rcases View.recvTurn_accept now heard.receiver.tidy heard.receiver.matched
            (heard.receiver.shown task _ locals reading rfl) opened type.symm seq.symm accepted with
            ⟨matched, _, _, _, _, turned⟩
          exact ⟨next, none, count + 1, heard.receiver.read reading rfl rfl matched
            (heard.receiver.tidy.accept accepted) turned, replayed⟩
  · simp only [not_exists] at isRead
    have epochs : base.epochs = before.epochs := by
      cases progress with
      | rekeyed task salt now writing =>
          exact absurd rfl (listening.noRekey _ (listening.calls.known task _ writing) salt)
      | received task locals pending now result reading turn isTurn =>
          exact absurd rfl (isRead task result now)
      | _ => rfl
    have goesOn : ∀ at_, before.tasks action.task = some at_ → at_.op = .recv →
        ∃ next, fate.await = some next := by
      intro at_ isAt isRecv
      cases fate with
      | suspended next => exact ⟨next, rfl⟩
      | ended outcome =>
          exact absurd (progress.noMessage listening.reliable isRead)
            (unfailed at_ outcome isAt isRecv rfl)
    exact ⟨view, _, count, Receiver.progress listening.calls listening.reliable heard.receiver
      progress epochs isRead attends.keeps.2 goesOn, heard.replayed⟩

/-- What the listener returned begins what was sent before the BYE, and is all of it once the
first failure is that BYE. -/
structure Parting (P : Primitives) (start : View) (teller session : Session) : Prop where
  listening : Listening teller.info.sessionId session
  begins : session.receivedIntact <+: teller.admittedPayloads
  heard : session.firstFailure = none →
    ∃ view header count, Heard P start teller session view header count
  complete : session.firstFailure = some (.raised remoteSentBye) →
    session.receivedIntact = teller.admittedPayloads

/-- What a session that fails in this step has received before. -/
theorem Progress.receivedIntact_of_failure {sessionId : FixedBytes usmpSessionIdLen}
    {before base : Session} {action : SessionAction} {fate : Fate} {effects : Effects}
    {outcome : Outcome} (listening : Listening sessionId before)
    (progress : Progress P before action base fate effects)
    (unfailed : before.firstFailure = none)
    (fails : (base.settle action.task fate).firstFailure = some outcome) :
    (base.settle action.task fate).receivedIntact = before.received := by
  rcases progress.called_task listening.calls with ⟨_, more, calls⟩
  have stable : ∀ outcome ∈ before.outcomes,
      (base.settle action.task fate).failedRecv outcome = before.failedRecv outcome :=
    fun outcome member => failedRecv_settle listening.calls calls (listening.known outcome member)
  rcases progress.firstFailure_of_none listening unfailed fails with ⟨rfl, isRecv, noMessage⟩
  have failed : (base.settle action.task (.ended outcome)).failedRecv (action.task, outcome) =
      true := by
    rw [failedRecv, isRecv, noMessage]
    rfl
  rw [← receivedIntact_of_none (firstFailure_none.mp unfailed), receivedIntact, receivedIntact,
    progress.outcomes]
  rw [takeWhile_append_failed (fun outcome member => by rw [stable outcome member])
    (by simp [Fate.outcome]) ⟨(action.task, outcome), by simp [Fate.outcome], by simp [failed]⟩]

theorem Parting.progress {before base : Session} {action : SessionAction} {fate : Fate}
    {effects : Effects} (departed : Departed P start teller goodbye later)
    (ideal : P.Unforgeable ((teller.sent ++ goodbye :: later) ++ own))
    (ownBound : ∀ sent ∈ own, sent.seq ≤ maxSeq)
    (directions : ∀ sent ∈ own, ∀ other ∈ teller.sent ++ goodbye :: later,
      sent.txKey ≠ other.txKey)
    (parting : Parting P start teller before)
    (progress : Progress P before action base fate effects) (attends : before.Attends action)
    (performed : before.step P action = some (base.settle action.task fate, effects)) :
    Parting P start teller (base.settle action.task fate) := by
  have listening := parting.listening
  have listening' := listening.progress progress attends.keeps.1
  by_cases failed : before.firstFailure = none
  case neg =>
    rcases progress.firstFailure_of_some listening failed with ⟨sameFailure, sameIntact⟩
    refine ⟨listening', ?_, ?_, ?_⟩
    · rw [sameIntact]
      exact parting.begins
    · rw [sameFailure]
      exact fun none => absurd none failed
    · rw [sameFailure, sameIntact]
      exact parting.complete
  rcases parting.heard failed with ⟨view, header, count, heard⟩
  cases failure : (base.settle action.task fate).firstFailure with
  | none =>
      have heard' := heard.departed departed ideal ownBound directions listening progress attends
        (by
          intro at_ outcome isAt isRecv isEnded noMessage
          rcases progress.called_task listening.calls with ⟨_, more, calls⟩
          have call := listening.calls.known _ at_ isAt
          rw [isRecv] at call
          have unfailed := firstFailure_none.mp failure (action.task, outcome)
            (by rw [progress.outcomes, isEnded]; simp [Fate.outcome])
          simp [failedRecv, calls, List.lookup_append, listening.calls.lookup call, noMessage]
            at unfailed)
      rcases heard' with ⟨view', header', count', heard'⟩
      refine ⟨listening', ?_, fun _ => ⟨view', header', count', heard'⟩, ?_⟩
      · rw [receivedIntact_of_none (firstFailure_none.mp failure)]
        exact heard'.begins departed.tells
      · rw [failure]
        exact fun impossible => by cases impossible
  | some outcome =>
      have intact := progress.receivedIntact_of_failure listening failed failure
      refine ⟨listening', ?_, ?_, ?_⟩
      · rw [intact]
        exact heard.begins departed.tells
      · rw [failure]
        exact fun impossible => by cases impossible
      · rw [failure, intact]
        intro isBye
        cases isBye
        rcases progress.firstFailure_of_none listening failed failure with ⟨told, isRecv, _⟩
        rcases progress.told_bye listening attends performed isRecv told with
          ⟨result, now, frame, plaintext, _, opened, isBye, inOrder, below⟩
        rcases departed.next ideal ownBound directions heard opened inOrder below with
          ⟨_, isMirror, _⟩ | ⟨_, sent, next, _, accepted, type, _⟩
        · -- everything before the BYE was heard
          rw [heard.receiver.messages, isMirror, mirror_quiet departed.quiet]
          rfl
        · rcases View.accept_some.mp accepted with ⟨_, absorbed⟩
          rw [type.trans isBye] at absorbed
          cases absorbed

/-! ## The whole run -/

theorem Attends.keepsKeys {session : Session} {action : SessionAction}
    (attends : session.Attends action) : session.KeepsKeys action := by
  unfold KeepsKeys
  split
  · exact attends
  · trivial

theorem Listening.new {info : SessionInfo} (bound : info.txSeq ≤ maxSeq) :
    Listening info.sessionId (.new true info) := by
  refine ⟨.new true info 0, rfl, rfl, bound, ?_, ?_, ?_, ?_⟩ <;> simp [Session.new]

/-- A BYE is encrypted even when no sequence is left. -/
theorem emit_bye (session : Session) (task : Nat) :
    (session.emit P task .bye).1.sent =
      session.sent ++ [encryptedFrame P session.info task .bye] := by
  rcases emit_cases P session task .bye with ⟨_, notBye, _⟩ | ⟨_, emitted⟩
  · exact absurd rfl notBye
  · rw [emitted]
    rfl

/-- A `bye` that takes the lock sends its BYE. -/
theorem sent_of_bye {before called after : Session} {task : Nat} {now : Rat}
    (begun : before.next P (.call task .bye now) = some called)
    (admitted : called.next P (.acquire task) = some after) :
    after.sent = before.sent ++ [encryptedFrame P before.info task .bye] := by
  have waiting : called.tasks task = some (.lockWait .bye) ∧ called.sent = before.sent ∧
      called.info = before.info := by
    simp only [next, step, begin, Option.map_eq_some_iff] at begun
    rcases begun with ⟨result, begun, rfl⟩
    split at begun <;> cases begun
    split
    · -- a second `bye` has returned, and waits for nothing
      simp [next, step, finish, *] at admitted
    · simp
  rcases waiting with ⟨waiting, sameSent, sameInfo⟩
  rcases Option.map_eq_some_iff.mp admitted with ⟨result, acquired, rfl⟩
  cases free : called.lock with
  | some holder => simp [step, free] at acquired
  | none =>
      simp only [step, free, waiting, Option.some.injEq] at acquired
      subst acquired
      rw [emit_bye, sameSent, sameInfo]

theorem sent_prefix_of_run {before final : Session} {actions : List SessionAction}
    (reached : Machine.run (next P) before actions = some final) :
    before.sent <+: final.sent := by
  apply Machine.run_invariant' (fun session => before.sent <+: session.sent) ?_
    List.prefix_rfl reached
  intro state action after grown stepped
  rcases progress_of_next stepped with ⟨base, fate, effects, progress, _, rfl⟩
  simp only [settle_frame]
  rw [progress.log]
  exact grown.trans (List.prefix_append _ _)

/-- The log of a conversation that came to rest, in a world without REKEY frames. -/
theorem speaking_of_run {info : SessionInfo} {atRest : Session} {talked : List SessionAction}
    {log : List SentFrame}
    (rests : Machine.run (next P) (.new true info) talked = some atRest)
    (converses : Machine.Along (next P) Converses (.new true info) talked)
    (ideal : P.Unforgeable log) (bound : ∀ sent ∈ log, sent.seq ≤ maxSeq)
    (types : ∀ sent ∈ log, sent.type ≠ .rekey) :
    Speaking P { txKey := info.rxKey, rxKey := info.txKey, rxSeq := info.txSeq }
      (info.txKey, info.rxKey) atRest := by
  apply Machine.run_invariant (Speaking P _ _) ?_ (.new info) converses rests
  intro state action after speaking converses stepped
  rcases progress_of_next stepped with ⟨base, fate, effects, progress, _, rfl⟩
  exact speaking.progress progress converses ideal bound types

/-- A session that talked, came to rest and said goodbye. -/
theorem departed_of_run {info : SessionInfo} {atRest final : Session}
    {talked rest : List SessionAction} {task : Nat} {now : Rat} {log : List SentFrame}
    (infoBound : info.txSeq ≤ maxSeq)
    (rests : Machine.run (next P) (.new true info) talked = some atRest)
    (converses : Machine.Along (next P) Converses (.new true info) talked)
    (free : atRest.lock = none)
    (leaves : Machine.run (next P) atRest (.call task .bye now :: .acquire task :: rest) =
      some final)
    (epochs : final.epochs = [(info.txKey, info.rxKey)])
    (ideal : P.Unforgeable log) (bound : ∀ sent ∈ log, sent.seq ≤ maxSeq)
    (types : ∀ sent ∈ log, sent.type ≠ .rekey) :
    ∃ goodbye later, final.sent = atRest.sent ++ goodbye :: later ∧
      Departed P { txKey := info.rxKey, rxKey := info.txKey, rxSeq := info.txSeq }
        atRest.atRest goodbye later := by
  have speaking := speaking_of_run rests converses ideal bound types
  have nonces : NonceInv final := by
    apply nonceInv_of_run infoBound (Machine.run_append_some.mpr ⟨atRest, rests, leaves⟩)
    rw [epochs]
    exact List.pairwise_singleton _ _
  have sameId := sessionId_of_run leaves
  rcases Machine.run_cons_some.mp leaves with ⟨called, begun, afterCall⟩
  rcases Machine.run_cons_some.mp afterCall with ⟨left, admitted, afterBye⟩
  rcases sent_prefix_of_run afterBye with ⟨later, grown⟩
  rw [sent_of_bye begun admitted, List.append_assoc, List.singleton_append] at grown
  refine ⟨_, later, grown.symm, speaking.tells free, holder_of_free rfl, rfl, rfl, rfl, ?_, ?_, ?_⟩
  all_goals
    rw [show atRest.atRest.sent = atRest.sent from rfl, grown]
  · exact nonces.sent_bound
  · rw [show atRest.atRest.info = atRest.info from rfl, ← sameId]
    exact nonces.nonce
  · exact nonces.nodup

end Session

end Usmp
