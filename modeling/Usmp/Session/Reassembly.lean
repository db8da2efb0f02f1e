import Usmp.Lib.Machine
import Usmp.Session.Fragments
import Usmp.Session.Receiver
import Usmp.Sample

/-!
# Reassembly of messages

Every frame that some `recv` accepts goes into one log, and each `recv` collects the log
positions of the fragments that it concatenates.
-/

namespace Usmp

/-- A session with the log of the frames that it accepted, the positions of the fragments that
each `recv` holds, and those of the frames of every message that was returned. -/
structure Reassembly where
  session : Session
  log : List Accepted := []
  parts : Nat → List Nat := fun _ => []
  returned : List (Nat × List Nat) := []

namespace Session

/-- The frame that a step makes a `recv` accept. -/
def accepts (P : Primitives) (session : Session) : SessionAction → Option Accepted
  | .read task result now =>
      match session.tasks task with
      | some (.reading locals _) =>
          (acceptedFrame P session.reliable session.info locals now result).map
            fun (frame, plaintext) =>
              ⟨session.epochs.length, frame.type, frame.seq, plaintext⟩
      | _ => none
  | _ => none

/-- The locals of a call of `recv` in progress. -/
def localsOf (session : Session) (task : Nat) : Option RecvLocals :=
  (session.tasks task).bind Task.locals?

/-- Whether some `recv` holds fragments of a message. -/
def holdsFragments (session : Session) : Bool :=
  session.calls.any fun call =>
    (session.localsOf call.1).any fun locals => locals.frameCount > 0

/-- Whether some `recv` holds fragments that the guards of this `recv` do not see.  They look at
the length of the payload that it has assembled itself. -/
def holdsUnseen (session : Session) (task : Nat) : Bool :=
  session.calls.any fun call =>
    (session.localsOf call.1).any fun locals =>
      locals.frameCount > 0 && (call.1 ≠ task || locals.assembledPayload = [])

/-- Whether a step can come between fragments and no guard is there to stop it: `rekey` gets to
its rotation, or a `recv` reads an authentic REKEY, or over UDP a PING or a PONG, while fragments
are held that its guards do not see. -/
def interposes (P : Primitives) (session : Session) (action : SessionAction) : Bool :=
  match action with
  | .wrote task none _ =>
      match session.tasks task with
      | some (.writing (.rekey _)) => session.holdsFragments
      | _ => false
  | .read task result _ =>
      match openFrame P session.reliable session.info result with
      | .ok (some (frame, _)) =>
          (frame.type = .rekey || !session.reliable && frame.type.isControl) &&
            session.holdsUnseen task
      | _ => false
  | _ => false

/-- What the guards leave to the caller and the peer. -/
def Undisturbed (P : Primitives) (session : Session) (action : SessionAction) : Prop :=
  session.interposes P action = false

instance (P : Primitives) (session : Session) (action : SessionAction) :
    Decidable (session.Undisturbed P action) :=
  inferInstanceAs (Decidable (_ = _))

end Session

namespace Reassembly

/-- The positions that the `recv` of a step holds or, at its end, has concatenated. -/
def joined (reassembly : Reassembly) (task : Nat) : Option Accepted → List Nat
  | some item =>
      if item.type = .data ∨ item.type = .dataFrag then
        reassembly.parts task ++ [reassembly.log.length]
      else
        reassembly.parts task
  | none => reassembly.parts task

def next (P : Primitives) (reassembly : Reassembly) (action : SessionAction) :
    Option Reassembly :=
  (reassembly.session.next P action).map fun session =>
    let item := reassembly.session.accepts P action
    let joined := reassembly.joined action.task item
    { session
      log := reassembly.log ++ item.toList
      parts := Function.update reassembly.parts action.task
        (heldBy (session.localsOf action.task) joined)
      returned :=
        if item.any (fun item => item.type = .data) then
          reassembly.returned ++ [(action.task, joined)]
        else
          reassembly.returned }

/-- Every message that `recv` returned is contiguous. -/
def AllContiguous (reassembly : Reassembly) : Prop :=
  ∀ task payload, (task, .returned (some payload)) ∈ reassembly.session.outcomes →
    ∃ parts, (task, parts) ∈ reassembly.returned ∧ Contiguous reassembly.log parts payload

/-- What holds as long as nothing comes between fragments. -/
structure Inv (reassembly : Reassembly) : Prop where
  calls : reassembly.session.CallInv
  holds : ∀ task locals, reassembly.session.localsOf task = some locals →
    Holds reassembly.session.reliable reassembly.session.epochs.length
      reassembly.session.info.rxSeq reassembly.log locals (reassembly.parts task)
  contiguous : reassembly.AllContiguous

/-! ### One step -/

/-- While no `recv` holds fragments, every `recv` in progress is at the start of a message. -/
theorem frameCount_of_not_holds {session : Session} (calls : session.CallInv)
    (none : session.holdsFragments = false) {task : Nat} {locals : RecvLocals}
    (isLocals : session.localsOf task = some locals) : locals.frameCount = 0 := by
  rcases Option.bind_eq_some_iff.mp isLocals with ⟨at_, isAt, _⟩
  simp only [Session.holdsFragments, List.any_eq_false] at none
  have idle := none _ (calls.known task at_ isAt)
  rw [isLocals] at idle
  simpa using idle

/-- The guards and the condition together: when a frame is accepted that could come between
fragments, no `recv` holds any. -/
theorem not_holdsFragments_of_accepted {P : Primitives} {session : Session} {task : Nat}
    {locals : RecvLocals} {result : Except Exn USMPFrame} {now : Rat} {frame : USMPFrame}
    {plaintext : Bytes} (undisturbed : session.Undisturbed P (.read task result now))
    (was : session.localsOf task = some locals)
    (isAccepted : acceptedFrame P session.reliable session.info locals now result =
      some (frame, plaintext))
    (interposes : (frame.type = .rekey || !session.reliable && frame.type.isControl) = true) :
    session.holdsFragments = false := by
  rcases acceptedFrame_opened isAccepted with ⟨opened, guarded⟩
  have control : frame.type.isControl = true := by
    rcases Bool.or_eq_true _ _ |>.mp interposes with isRekey | control
    · rw [of_decide_eq_true isRekey]
      rfl
    · exact (Bool.and_eq_true _ _ |>.mp control).2
  have unseen : session.holdsUnseen task = false := by
    simp only [Session.Undisturbed, Session.interposes, opened] at undisturbed
    rwa [interposes, Bool.true_and] at undisturbed
  simp only [Session.holdsUnseen, List.any_eq_false] at unseen
  simp only [Session.holdsFragments, List.any_eq_false]
  intro call member
  have seen := unseen call member
  cases isLocals : session.localsOf call.1 with
  | none => simp
  | some held =>
      rw [isLocals] at seen
      by_cases same : call.1 = task
      · rw [same, was] at isLocals
        cases isLocals
        simpa [guarded control] using seen
      · simpa [same] using seen

/-- A coroutine moves, and the log and the messages grow. -/
theorem Inv.settle {reassembly : Reassembly} {base : Session} {task : Nat} {fate : Fate}
    {log : List Accepted} {positions : List Nat} {returned : List (Nat × List Nat)}
    (inv : Inv reassembly) (tasks : base.tasks = reassembly.session.tasks)
    (outcomes : base.outcomes = reassembly.session.outcomes)
    (calls : (base.settle task fate).CallInv) (grows : ∃ more, log = reassembly.log ++ more)
    (kept : reassembly.returned ⊆ returned)
    (others : ∀ other locals, reassembly.session.localsOf other = some locals → ∀ parts,
      Holds reassembly.session.reliable reassembly.session.epochs.length
        reassembly.session.info.rxSeq reassembly.log locals parts →
      Holds base.reliable base.epochs.length base.info.rxSeq log locals parts)
    (own : ∀ locals, fate.await.bind Task.locals? = some locals →
      Holds base.reliable base.epochs.length base.info.rxSeq log locals
        (heldBy (some locals) positions))
    (message : ∀ payload, fate.outcome = some (.returned (some payload)) →
      ∃ parts, (task, parts) ∈ returned ∧ Contiguous log parts payload) :
    Inv {
      session := base.settle task fate
      log
      parts := Function.update reassembly.parts task
        (heldBy ((base.settle task fate).localsOf task) positions)
      returned } := by
  have frame := Session.settle_frame base task fate
  refine ⟨calls, ?_, ?_⟩
  · intro other locals isLocals
    dsimp only at isLocals ⊢
    rw [frame.1, frame.2.1, frame.2.2.2.2.2.2.2]
    by_cases same : other = task
    · subst same
      rw [Function.update_self, isLocals]
      apply own
      rw [← isLocals, Session.localsOf, Session.settle_tasks, Function.update_self]
    · rw [Function.update_of_ne same]
      rw [Session.localsOf, Session.settle_tasks, Function.update_of_ne same, tasks] at isLocals
      exact others other locals isLocals _ (inv.holds other locals isLocals)
  · intro other payload member
    dsimp only at member ⊢
    rw [Session.settle_outcomes, outcomes] at member
    rcases List.mem_append.mp member with old | new
    · rcases inv.contiguous other payload old with ⟨parts, isReturned, contiguous⟩
      rcases grows with ⟨more, rfl⟩
      exact ⟨parts, kept isReturned, contiguous.append more⟩
    · rcases List.mem_map.mp new with ⟨outcome, isOutcome, equal⟩
      cases equal
      exact message payload (Option.mem_toList.mp isOutcome)

/-- What becomes of the message that a coroutine holds, when it joins nothing to it. -/
inductive KeepsMessage (session : Session) (task : Nat) (fate : Fate) : Prop where
  | same (old after : RecvLocals) (was : session.localsOf task = some old)
      (isLocals : fate.await.bind Task.locals? = some after)
      (message : after.assembledPayload = old.assembledPayload ∧
        after.frameCount = old.frameCount ∧ after.expectedFragSeq = old.expectedFragSeq)
  | idle (after : RecvLocals) (isLocals : fate.await.bind Task.locals? = some after)
      (payload : after.assembledPayload = []) (count : after.frameCount = 0)
      (expected : after.expectedFragSeq = 0)
  | none (noLocals : fate.await.bind Task.locals? = none)

theorem KeepsMessage.next {session : Session} {task : Nat} {old after : RecvLocals}
    (was : session.localsOf task = some old)
    (message : after.assembledPayload = old.assembledPayload ∧
      after.frameCount = old.frameCount ∧ after.expectedFragSeq = old.expectedFragSeq) :
    KeepsMessage session task (RecvStep.next after).fate :=
  .same old after was rfl message

theorem KeepsMessage.dropped (session : Session) (task : Nat) (locals : RecvLocals) :
    KeepsMessage session task (RecvStep.next locals.dropPartial).fate :=
  .idle locals.dropPartial rfl rfl rfl rfl

theorem KeepsMessage.ended (session : Session) (task : Nat) (outcome : Outcome) :
    KeepsMessage session task (.ended outcome) :=
  .none rfl

theorem KeepsMessage.violation (session : Session) (task : Nat) (reliable : Bool)
    (locals : RecvLocals) (exn : Exn) :
    KeepsMessage session task (onViolation reliable locals exn).fate := by
  rcases onViolation_cases reliable locals exn with dropped | raised
  · rw [dropped]
    exact .dropped session task locals
  · rw [raised]
    exact .ended session task _

theorem KeepsMessage.raised (session : Session) (task : Nat) (reliable : Bool) (locked : Locked)
    (exn : Exn) : KeepsMessage session task (locked.raisedFate reliable exn) := by
  cases locked with
  | pong locals => exact .violation session task reliable locals exn
  | bye =>
      simp only [Locked.raisedFate]
      split <;> exact .ended session task _
  | send data offset | ping | rekey salt => exact .ended session task _

theorem KeepsMessage.started {session : Session} {task : Nat} (op : Op) (closed : Bool)
    (now : Rat) : KeepsMessage session task (op.start closed now) := by
  cases op with
  | recv => exact .idle { ctrlWindowStart := now } rfl rfl rfl rfl
  | send data =>
      simp only [Op.start]
      split
      · exact .ended session task _
      · exact .none rfl
  | bye =>
      simp only [Op.start]
      split
      · exact .ended session task _
      · exact .none rfl
  | ping | rekey salt => exact .none rfl

theorem KeepsMessage.encrypting {session : Session} {task : Nat} {action : SessionAction}
    {locked : Locked} {admitted : List (Nat × Locked)}
    (ready : session.Encrypting task action locked admitted) :
    KeepsMessage session action.task (.suspended (.writing locked)) := by
  cases ready with
  | admitted locked free waiting =>
      cases locked with
      | pong locals =>
          have was : session.localsOf task = some locals := by
            rw [Session.localsOf, waiting]
            rfl
          exact .same locals locals was rfl ⟨rfl, rfl, rfl⟩
      | send data offset | ping | rekey salt | bye => exact .none rfl
  | nextFragment data offset now writing more => exact .none rfl

theorem KeepsMessage.ponged {session : Session} {task : Nat} {locals : RecvLocals}
    (writing : session.tasks task = some (.writing (.pong locals))) (reliable : Bool) (now : Rat) :
    KeepsMessage session task (pongSent reliable locals now).fate := by
  unfold pongSent
  split
  · exact .violation session task reliable locals _
  · rename_i counted
    have was : session.localsOf task = some locals := by
      rw [Session.localsOf, writing]
      rfl
    exact .next was (countControl_message counted)

/-! An exception returns no message. -/

theorem noMessage_onViolation (reliable : Bool) (locals : RecvLocals) (exn : Exn)
    (payload : Bytes) :
    (onViolation reliable locals exn).fate.outcome ≠ some (.returned (some payload)) := by
  rcases onViolation_cases reliable locals exn with dropped | raised
  · rw [dropped]
    simp [RecvStep.fate, Fate.outcome]
  · rw [raised]
    simp [RecvStep.fate, Fate.outcome]

theorem noMessage_raised (reliable : Bool) (locked : Locked) (exn : Exn) (payload : Bytes) :
    (locked.raisedFate reliable exn).outcome ≠ some (.returned (some payload)) := by
  cases locked with
  | pong locals => exact noMessage_onViolation reliable locals exn payload
  | bye =>
      simp only [Locked.raisedFate]
      split <;> simp [Fate.outcome]
  | send data offset | ping | rekey salt => simp [Locked.raisedFate, Fate.outcome]

theorem noMessage_started (op : Op) (closed : Bool) (now : Rat) (payload : Bytes) :
    (op.start closed now).outcome ≠ some (.returned (some payload)) := by
  cases op with
  | send data | bye =>
      simp only [Op.start]
      split <;> simp [Fate.outcome]
  | ping | rekey salt | recv => simp [Op.start, Fate.outcome]

theorem noMessage_pongSent (reliable : Bool) (locals : RecvLocals) (now : Rat) (payload : Bytes) :
    (pongSent reliable locals now).fate.outcome ≠ some (.returned (some payload)) := by
  unfold pongSent
  split
  · exact noMessage_onViolation reliable locals _ payload
  · simp [RecvStep.fate, Fate.outcome]

/-- A `recv` that joins nothing holds what it held, or nothing. -/
theorem KeepsMessage.own {session : Session} {task : Nat} {fate : Fate}
    (keeps : KeepsMessage session task fate) {reliable : Bool} {epoch rxSeq : Nat}
    {log : List Accepted} {positions : List Nat}
    (held : ∀ old, session.localsOf task = some old →
      Holds reliable epoch rxSeq log old positions)
    (locals : RecvLocals) (isLocals : fate.await.bind Task.locals? = some locals) :
    Holds reliable epoch rxSeq log locals (heldBy (some locals) positions) := by
  cases keeps with
  | same old after was isAfter message =>
      rw [isAfter] at isLocals
      cases isLocals
      exact ((held old was).congr message).held
  | idle after isAfter payload count expected =>
      rw [isAfter] at isLocals
      cases isLocals
      rw [heldBy, if_pos count]
      exact .idle reliable epoch rxSeq log payload count expected
  | none noLocals =>
      rw [noLocals] at isLocals
      cases isLocals

/-- A step that accepts nothing and installs no keys. -/
theorem Inv.quiet {reassembly : Reassembly} {base : Session} {task : Nat} {fate : Fate}
    (inv : Inv reassembly) (tasks : base.tasks = reassembly.session.tasks)
    (outcomes : base.outcomes = reassembly.session.outcomes)
    (reliable : base.reliable = reassembly.session.reliable)
    (epochs : base.epochs = reassembly.session.epochs)
    (rxSeq : reassembly.session.reliable = true →
      reassembly.session.info.rxSeq ≤ base.info.rxSeq)
    (calls : (base.settle task fate).CallInv) (keeps : KeepsMessage reassembly.session task fate)
    (noMessage : ∀ payload, fate.outcome ≠ some (.returned (some payload))) :
    Inv {
      session := base.settle task fate
      log := reassembly.log
      parts := Function.update reassembly.parts task
        (heldBy ((base.settle task fate).localsOf task) (reassembly.parts task))
      returned := reassembly.returned } := by
  have others : ∀ other locals, reassembly.session.localsOf other = some locals → ∀ parts,
      Holds reassembly.session.reliable reassembly.session.epochs.length
        reassembly.session.info.rxSeq reassembly.log locals parts →
      Holds base.reliable base.epochs.length base.info.rxSeq reassembly.log locals parts := by
    intro other locals _ parts holds
    rw [reliable, epochs]
    exact holds.later rxSeq
  refine inv.settle tasks outcomes calls ⟨[], by simp⟩ (fun _ => id) others ?_ ?_
  · exact keeps.own fun old was => others task old was _ (inv.holds task old was)
  · intro payload isMessage
    exact absurd isMessage (noMessage payload)

/-- A step that installs new keys while no fragment is held. -/
theorem Inv.rotated {reassembly : Reassembly} {base : Session} {task : Nat} {fate : Fate}
    {log : List Accepted}
    (inv : Inv reassembly) (tasks : base.tasks = reassembly.session.tasks)
    (outcomes : base.outcomes = reassembly.session.outcomes)
    (reliable : base.reliable = reassembly.session.reliable)
    (rxSeq : base.info.rxSeq = 0) (none : reassembly.session.holdsFragments = false)
    (grows : ∃ more, log = reassembly.log ++ more)
    (calls : (base.settle task fate).CallInv) (keeps : KeepsMessage reassembly.session task fate)
    (noMessage : ∀ payload, fate.outcome ≠ some (.returned (some payload))) :
    Inv {
      session := base.settle task fate
      log
      parts := Function.update reassembly.parts task
        (heldBy ((base.settle task fate).localsOf task) (reassembly.parts task))
      returned := reassembly.returned } := by
  have others : ∀ other locals, reassembly.session.localsOf other = some locals → ∀ parts,
      Holds reassembly.session.reliable reassembly.session.epochs.length
        reassembly.session.info.rxSeq reassembly.log locals parts →
      Holds base.reliable base.epochs.length base.info.rxSeq log locals parts := by
    intro other locals isLocals parts holds
    rw [reliable, rxSeq]
    exact holds.rotate (frameCount_of_not_holds inv.calls none isLocals) _ _
  refine inv.settle tasks outcomes calls grows (fun _ => id) others ?_ ?_
  · exact keeps.own fun old was => others task old was _ (inv.holds task old was)
  · intro payload isMessage
    exact absurd isMessage (noMessage payload)

/-- A step that accepts a frame other than a REKEY. -/
theorem Inv.accepted {reassembly : Reassembly} {base : Session} {task : Nat} {locals : RecvLocals}
    {frame : USMPFrame} {plaintext : Bytes} {marked info : SessionInfo}
    {calls : List TransportCall} {step : RecvStep} {item : Accepted} (inv : Inv reassembly)
    (was : reassembly.session.localsOf task = some locals)
    (isItem : item = ⟨reassembly.session.epochs.length, frame.type, frame.seq, plaintext⟩)
    (handled : Handled marked locals frame plaintext (info, calls, step))
    (isInfo : base.info = info)
    (notRekey : frame.type ≠ .rekey)
    (ordered : reassembly.session.reliable = true →
      frame.seq = reassembly.session.info.rxSeq ∧
        marked.rxSeq = reassembly.session.info.rxSeq + 1)
    (undisturbed : item.type.isControl = true →
      reassembly.session.reliable = true ∨ reassembly.session.holdsFragments = false)
    (tasks : base.tasks = reassembly.session.tasks)
    (outcomes : base.outcomes = reassembly.session.outcomes)
    (reliable : base.reliable = reassembly.session.reliable)
    (epochs : base.epochs = reassembly.session.epochs)
    (callsAfter : (base.settle task step.fate).CallInv) :
    Inv {
      session := base.settle task step.fate
      log := reassembly.log ++ [item]
      parts := Function.update reassembly.parts task
        (heldBy ((base.settle task step.fate).localsOf task)
          (reassembly.joined task (some item)))
      returned :=
        if item.type = .data then
          reassembly.returned ++ [(task, reassembly.joined task (some item))]
        else
          reassembly.returned } := by
  have isMarked : base.info = marked := by
    rw [isInfo]
    cases handled with
    | rekey keys isRekey => exact absurd isRekey notRekey
    | _ => rfl
  have rxSeq : base.reliable = true → base.info.rxSeq = reassembly.session.info.rxSeq + 1 := by
    intro isReliable
    rw [isMarked]
    exact (ordered (reliable ▸ isReliable)).2
  have held := inv.holds task locals was
  have others : ∀ other locals, reassembly.session.localsOf other = some locals → ∀ parts,
      Holds reassembly.session.reliable reassembly.session.epochs.length
        reassembly.session.info.rxSeq reassembly.log locals parts →
      Holds base.reliable base.epochs.length base.info.rxSeq (reassembly.log ++ [item]) locals
        parts := by
    intro other locals isLocals parts holds
    rw [epochs]
    rw [← reliable] at holds
    refine holds.accept item (fun isReliable => ?_) (fun control => ?_)
    · rw [rxSeq isReliable]
      exact Nat.lt_succ_self _
    · rw [reliable]
      exact (undisturbed control).imp_right fun none =>
        frameCount_of_not_holds inv.calls none isLocals
  have kept : reassembly.returned ⊆
      (if item.type = .data then
        reassembly.returned ++ [(task, reassembly.joined task (some item))]
      else
        reassembly.returned) := by
    split
    · exact List.subset_append_left _ _
    · exact fun _ => id
  have keeps : ∀ {fate : Fate}, KeepsMessage reassembly.session task fate → item.type ≠ .data →
      item.type ≠ .dataFrag → ∀ after, fate.await.bind Task.locals? = some after →
      Holds base.reliable base.epochs.length base.info.rxSeq (reassembly.log ++ [item]) after
        (heldBy (some after) (reassembly.joined task (some item))) := by
    intro fate keeps notData notFragment
    have unjoined : reassembly.joined task (some item) = reassembly.parts task := by
      simp [joined, notData, notFragment]
    rw [unjoined]
    exact keeps.own fun old wasOld => others task old wasOld _ (inv.holds task old wasOld)
  refine inv.settle tasks outcomes callsAfter ⟨[item], rfl⟩ kept others ?_ ?_
  · cases handled with
    | ping isPing =>
        exact keeps (.same locals locals was rfl ⟨rfl, rfl, rfl⟩) (by simp [isItem, isPing])
          (by simp [isItem, isPing])
    | pong after isPong message =>
        exact keeps (.next was message) (by simp [isItem, isPong]) (by simp [isItem, isPong])
    | rekey keys isRekey => exact absurd isRekey notRekey
    | data isData inOrder =>
        intro after isAfter
        cases isAfter
    | fragment isFragment inOrder few =>
        intro after isAfter
        cases isAfter
        have isJoined : reassembly.joined task (some item) =
            reassembly.parts task ++ [reassembly.log.length] := by
          simp [joined, isItem, isFragment]
        rw [isJoined, epochs]
        rw [← reliable] at held
        subst isItem
        exact (held.join ⟨_, _, _, _⟩ rfl isFragment inOrder few fun isReliable =>
          ⟨(ordered (reliable ▸ isReliable)).1, rxSeq isReliable⟩).held
  · intro payload isMessage
    cases handled with
    | data isData inOrder =>
        cases isMessage
        have isJoined : reassembly.joined task (some item) =
            reassembly.parts task ++ [reassembly.log.length] := by
          simp [joined, isItem, isData]
        refine ⟨reassembly.joined task (some item), ?_, ?_⟩
        · simp [isItem, isData]
        · rw [isJoined]
          subst isItem
          exact held.complete ⟨_, _, _, _⟩ rfl isData inOrder fun isReliable =>
            (ordered isReliable).1
    | ping isPing | pong after isPong message | rekey keys isRekey
    | fragment isFragment inOrder few => cases isMessage

/-- An action that reads nothing accepts no frame. -/
theorem next_silent {P : Primitives} {reassembly : Reassembly} {action : SessionAction}
    (silent : reassembly.session.accepts P action = none) (session : Session) :
    ({ session
       log := reassembly.log ++ (reassembly.session.accepts P action).toList
       parts := Function.update reassembly.parts action.task
        (heldBy (session.localsOf action.task)
          (reassembly.joined action.task (reassembly.session.accepts P action)))
       returned :=
        if (reassembly.session.accepts P action).any (fun item => item.type = .data) then
          reassembly.returned ++
            [(action.task, reassembly.joined action.task (reassembly.session.accepts P action))]
        else
          reassembly.returned } : Reassembly) =
      { session
        log := reassembly.log
        parts := Function.update reassembly.parts action.task
          (heldBy (session.localsOf action.task) (reassembly.parts action.task))
        returned := reassembly.returned } := by
  simp [silent, joined]

theorem Inv.next {P : Primitives} {before after : Reassembly} {action : SessionAction}
    (inv : Inv before) (undisturbed : before.session.Undisturbed P action)
    (stepped : before.next P action = some after) : Inv after := by
  rcases Option.map_eq_some_iff.mp stepped with ⟨session, moved, rfl⟩
  rcases Option.map_eq_some_iff.mp moved with ⟨⟨session, effects⟩, performed, rfl⟩
  rcases Session.progress_of_step performed with ⟨base, fate, progress, rfl⟩
  have calls := Session.callInv_progress inv.calls progress
  dsimp only at progress ⊢
  have same : ∀ {base : Session} {fate : Fate}, before.session.accepts P action = none →
      base.tasks = before.session.tasks → base.outcomes = before.session.outcomes →
      base.reliable = before.session.reliable → base.epochs = before.session.epochs →
      base.info.rxSeq = before.session.info.rxSeq → (base.settle action.task fate).CallInv →
      KeepsMessage before.session action.task fate →
      (∀ payload, fate.outcome ≠ some (.returned (some payload))) →
      Inv {
        session := base.settle action.task fate
        log := before.log ++ (before.session.accepts P action).toList
        parts := Function.update before.parts action.task
          (heldBy ((base.settle action.task fate).localsOf action.task)
            (before.joined action.task (before.session.accepts P action)))
        returned :=
          if (before.session.accepts P action).any (fun item => item.type = .data) then
            before.returned ++
              [(action.task, before.joined action.task (before.session.accepts P action))]
          else
            before.returned } := by
    intro base fate silent tasks outcomes reliable epochs rxSeq calls keeps noMessage
    rw [next_silent silent]
    exact inv.quiet tasks outcomes reliable epochs (fun _ => Nat.le_of_eq rxSeq.symm) calls keeps
      noMessage
  cases progress with
  | received task locals pending now result reading turn isTurn =>
      have was : before.session.localsOf task = some locals := by
        rw [Session.localsOf, reading]
        rfl
      have reads : before.session.accepts P (.read task result now) =
          (acceptedFrame P before.session.reliable before.session.info locals now result).map
            fun (frame, plaintext) =>
              ⟨before.session.epochs.length, frame.type, frame.seq, plaintext⟩ := by
        rw [Session.accepts, reading]
      cases isAccepted : acceptedFrame P before.session.reliable before.session.info locals now
          result with
      | none =>
          have refused := refused_turn isAccepted
          rw [← isTurn] at refused
          have silent : before.session.accepts P (.read task result now) = none := by
            rw [reads, isAccepted]
            rfl
          rw [next_silent silent]
          refine inv.quiet rfl rfl rfl (by simp [refused.rotations]) refused.rxSeq calls ?_ ?_
          · rcases refused.step with kept | dropped | ⟨exn, raised⟩
            · rw [kept]
              exact .next was ⟨rfl, rfl, rfl⟩
            · rw [dropped]
              exact .dropped _ _ locals
            · rw [raised]
              exact .ended _ _ _
          · intro payload
            rcases refused.step with kept | dropped | ⟨exn, raised⟩
            · simp [kept, RecvStep.fate, Fate.outcome]
            · simp [dropped, RecvStep.fate, Fate.outcome]
            · simp [raised, RecvStep.fate, Fate.outcome]
      | some opened =>
          rcases opened with ⟨frame, plaintext⟩
          rcases accepted_turn isAccepted with ⟨marked, moreCalls, accepted⟩
          rw [← isTurn] at accepted
          generalize isItem : Accepted.mk before.session.epochs.length frame.type frame.seq
            plaintext = item
          have accepts : before.session.accepts P (.read task result now) = some item := by
            rw [reads, isAccepted, ← isItem]
            rfl
          simp only [accepts, Option.toList_some, Option.any_some, decide_eq_true_eq]
          have idle : (item.type = .rekey || !before.session.reliable && item.type.isControl) =
              true → before.session.holdsFragments = false := by
            rw [← isItem]
            exact not_holdsFragments_of_accepted undisturbed was isAccepted
          rcases accepted.rotations with ⟨notRekey, unrotated⟩ | ⟨isRekey, keys, rotated⟩
          · refine inv.accepted was isItem.symm accepted.handled rfl notRekey accepted.rxSeq ?_ rfl
              rfl rfl (by simp [unrotated]) calls
            intro control
            cases isReliable : before.session.reliable with
            | true => exact .inl rfl
            | false =>
                right
                apply idle
                simp [control, isReliable]
          · have none : before.session.holdsFragments = false := by
              apply idle
              simp [← isItem, isRekey]
            have unjoined : before.joined task (some item) = before.parts task := by
              simp [joined, ← isItem, isRekey]
            have notData : item.type ≠ .data := by simp [← isItem, isRekey]
            simp only [SessionAction.task, unjoined, notData, if_false]
            rcases turn with ⟨info, turnCalls, authenticated, step⟩
            cases accepted.handled with
            | rekey newKeys isRekey =>
                exact inv.rotated rfl rfl rfl rfl none ⟨[item], rfl⟩ calls
                  (.next was ⟨rfl, rfl, rfl⟩) (by simp [RecvStep.fate, Fate.outcome])
            | ping isPing | pong after isPing message | data isPing inOrder
            | fragment isPing inOrder few =>
                rw [isRekey] at isPing
                cases isPing
  | rekeyed task salt now writing =>
      rw [next_silent rfl]
      have none : before.session.holdsFragments = false := by
        simpa [Session.Undisturbed, Session.interposes, writing] using undisturbed
      exact inv.rotated rfl rfl rfl rfl none ⟨[], by simp⟩ calls (.ended _ _ _)
        (by simp [Fate.outcome])
  | called task op now isNew =>
      exact same rfl rfl rfl rfl rfl rfl calls (.started op _ now) (noMessage_started op _ now)
  | encrypted task action locked admitted ready unspent =>
      have silent : before.session.accepts P action = none := by cases ready <;> rfl
      exact same silent rfl rfl rfl rfl rfl calls (.encrypting ready) (by simp [Fate.outcome])
  | refused task action locked admitted ready spent notBye exn =>
      have silent : before.session.accepts P action = none := by cases ready <;> rfl
      exact same silent rfl rfl rfl rfl rfl calls (.raised _ _ _ locked exn)
        (noMessage_raised _ locked exn)
  | failed task locked exn now writing =>
      exact same rfl rfl rfl rfl rfl rfl calls (.raised _ _ _ locked exn)
        (noMessage_raised _ locked exn)
  | ponged task locals now writing =>
      exact same rfl rfl rfl rfl rfl rfl calls (.ponged writing _ now)
        (noMessage_pongSent _ locals now)
  | tookHeader task locals header reading =>
      have was : before.session.localsOf task = some locals := by
        rw [Session.localsOf, reading]
        rfl
      exact same rfl rfl rfl rfl rfl rfl calls
        (.same locals locals was rfl ⟨rfl, rfl, rfl⟩) (by simp [Fate.outcome])
  | sent | signalled | abandoned | interrupted =>
      exact same rfl rfl rfl rfl rfl rfl calls (.ended _ _ _) (by simp [Fate.outcome])

/-- The guards keep every message contiguous: in every run in which no authentic REKEY, and over
UDP no PING or PONG, is read while fragments are held that the guards do not see, and no `rekey`
gets to its rotation while fragments are held. -/
theorem contiguous_of_undisturbed (P : Primitives) (reliable : Bool) (info : SessionInfo)
    (actions : List SessionAction) (final : Reassembly)
    (reached : Machine.run (next P) { session := .new reliable info } actions = some final)
    (undisturbed : Machine.Along (next P)
      (fun reassembly action => reassembly.session.Undisturbed P action)
      { session := .new reliable info } actions) : final.AllContiguous := by
  have initially : Inv { session := .new reliable info } := by
    refine ⟨.new reliable info 0, ?_, ?_⟩
    · intro task locals isLocals
      cases isLocals
    · intro task payload member
      cases member
  have inv := Machine.run_invariant Inv
    (fun before action after inv undisturbed stepped => inv.next undisturbed stepped) initially
    undisturbed reached
  exact inv.contiguous

/-- A frame that the peer, who has the keys, makes up. -/
def craftedFrame (key : Key) (type : PacketType) (plaintext : Bytes) (seq : Nat) : USMPFrame :=
  sentFrame type
    (encrypt samplePrimitives key (packNonce seq sampleSessionId) seq type.toNat usmpVersion
      usmpMagic plaintext) seq

/-- One `recv` reads these frames. -/
def receiveAll (frames : List USMPFrame) : List SessionAction :=
  .call 0 .recv 0 :: frames.map fun frame => .read 0 (.ok frame) 0

/-- A PONG and a message in three fragments, one of them empty. -/
def sampleFragments : List SessionAction :=
  receiveAll [craftedFrame (sampleKey 3) .pong [] 0, craftedFrame (sampleKey 3) .dataFrag [7] 1,
    craftedFrame (sampleKey 3) .dataFrag [] 2, craftedFrame (sampleKey 3) .data [8] 3]

theorem contiguous_of_undisturbed_sampleFragments :
    ∃ final,
      Machine.run (next samplePrimitives) { session := .new true (sampleInfo 4 3) }
          sampleFragments = some final ∧
        final.session.outcomes = [(0, .returned (some [7, 8]))] ∧ final.AllContiguous := by
  rcases Machine.exists_run (next samplePrimitives) { session := .new true (sampleInfo 4 3) }
    sampleFragments (fun final => final.session.outcomes = [(0, .returned (some [7, 8]))])
    (by decide +kernel) with ⟨final, reached, outcomes⟩
  exact ⟨final, reached, outcomes,
    contiguous_of_undisturbed samplePrimitives true (sampleInfo 4 3) sampleFragments final reached
      (by decide +kernel)⟩

/-- An empty fragment, and a PONG before the end of the message. -/
def pongInMessage : List SessionAction :=
  receiveAll [craftedFrame (sampleKey 3) .dataFrag [] 0, craftedFrame (sampleKey 3) .pong [] 5,
    craftedFrame (sampleKey 3) .data [8] 1]

/-- The key that the peer sends with after a REKEY with this salt. -/
def rekeyedKey (salt : Bytes) : Key :=
  (deriveRekeyKeys samplePrimitives false (sampleKey 4) (sampleKey 3) sampleSessionId salt).2

/-- An empty fragment, a REKEY, and under the new keys a PONG and the end of the message. -/
def rekeyInMessage : List SessionAction :=
  let salt := List.replicate 32 5
  receiveAll [craftedFrame (sampleKey 3) .dataFrag [] 0, craftedFrame (sampleKey 3) .rekey salt 1,
    craftedFrame (rekeyedKey salt) .pong [] 0, craftedFrame (rekeyedKey salt) .data [8] 1]

/-- A message around a control frame. -/
theorem not_allContiguous {reassembly : Reassembly} {payload : Bytes} {last : Nat}
    (outcomes : reassembly.session.outcomes = [(0, .returned (some payload))])
    (returned : reassembly.returned = [(0, [0, last])]) (after : 1 ≤ last)
    (control : (reassembly.log[1]?.any fun item => item.type.isControl) = true) :
    ¬ reassembly.AllContiguous := by
  intro all
  rcases all 0 payload (by simp [outcomes]) with ⟨parts, isReturned, contiguous⟩
  rw [returned, List.mem_singleton, Prod.mk.injEq] at isReturned
  rcases Option.any_eq_true _ _ |>.mp control with ⟨item, found, isControl⟩
  have quiet := contiguous.between 0 (by simp [isReturned.2]) last (by simp [isReturned.2]) 1 item
    (by decide) after found
  rw [quiet] at isControl
  cases isControl

/-- The guards against control frames inside a message do not see an empty fragment: over UDP a
PONG passes them, and over TCP a REKEY. -/
theorem not_contiguous_around_control :
    (∃ final,
      Machine.run (next samplePrimitives) { session := .new false (sampleInfo 4 3) }
          pongInMessage = some final ∧ ¬ final.AllContiguous) ∧
      ∃ final,
        Machine.run (next samplePrimitives) { session := .new true (sampleInfo 4 3) }
            rekeyInMessage = some final ∧ ¬ final.AllContiguous := by
  constructor
  · rcases Machine.exists_run (next samplePrimitives) { session := .new false (sampleInfo 4 3) }
      pongInMessage
      (fun final => final.session.outcomes = [(0, .returned (some [8]))] ∧
        final.returned = [(0, [0, 2])] ∧ final.log[1]?.any fun item => item.type.isControl)
      (by decide +kernel) with ⟨final, reached, outcomes, returned, control⟩
    exact ⟨final, reached, not_allContiguous outcomes returned (by decide) control⟩
  · rcases Machine.exists_run (next samplePrimitives) { session := .new true (sampleInfo 4 3) }
      rekeyInMessage
      (fun final => final.session.outcomes = [(0, .returned (some [8]))] ∧
        final.returned = [(0, [0, 3])] ∧ final.log[1]?.any fun item => item.type.isControl)
      (by decide +kernel) with ⟨final, reached, outcomes, returned, control⟩
    exact ⟨final, reached, not_allContiguous outcomes returned (by decide) control⟩

end Reassembly

end Usmp
