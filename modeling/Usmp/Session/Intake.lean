import Usmp.Session.Receiver

/-!
# What calls of `recv` make of their input

`Intake.take` is one turn of a `recv` that is never cut short, after which a new call goes on
where the last one ended.  A session whose calls of `recv` time out only between two messages
makes the same of its input.
-/

namespace Usmp

/-- The session parameters without the send sequence. -/
def SessionInfo.rxPart (info : SessionInfo) : SessionInfo := { info with txSeq := 0 }

/-- A result of `read_frame` is no fragment without a plaintext.  `send` makes no such
fragments. -/
def NoEmptyFragment (P : Primitives) (reliable : Bool) (info : SessionInfo)
    (result : Except Exn USMPFrame) : Prop :=
  match openFrame P reliable info result with
  | .ok (some (frame, plaintext)) => frame.type = .dataFrag → plaintext ≠ []
  | .ok none | .error _ => True

instance (P : Primitives) (reliable : Bool) (info : SessionInfo)
    (result : Except Exn USMPFrame) : Decidable (NoEmptyFragment P reliable info result) := by
  unfold NoEmptyFragment
  exact match openFrame P reliable info result with
    | .ok (some (frame, plaintext)) => inferInstanceAs (Decidable (_ → _))
    | .ok none | .error _ => isTrue trivial

/-- What calls of `recv` have made of their input: the parameters, the locals of the call in
progress and the messages returned. -/
structure Intake where
  info : SessionInfo
  locals : RecvLocals := { ctrlWindowStart := 0 }
  messages : List Bytes := []

namespace Intake

/-- The next turn.  The budget for control frames plays no part in what is returned. -/
def take (P : Primitives) (reliable : Bool) (intake : Intake) (result : Except Exn USMPFrame) :
    Intake :=
  let turn := recvTurn P reliable intake.info { intake.locals with ctrlCount := 0 } 0 result
  match turn.step with
  | .next locals | .pong locals => { intake with info := turn.info, locals }
  | .returned payload =>
      { info := turn.info
        locals := { ctrlWindowStart := 0 }
        messages := intake.messages ++ [payload] }
  | .raised _ => { intake with info := turn.info, locals := { ctrlWindowStart := 0 } }

/-- The view of a session that has taken this in. -/
def view (intake : Intake) : View :=
  { txKey := intake.info.txKey
    rxKey := intake.info.rxKey
    rxSeq := intake.locals.expectedFragSeq
    assembled := intake.locals.assembledPayload
    fragments := intake.locals.frameCount
    messages := intake.messages }

/-- Something is assembled exactly when a fragment was accepted. -/
def Even (intake : Intake) : Prop :=
  intake.locals.frameCount = 0 ↔ intake.locals.assembledPayload = []

end Intake

/-! ## Two turns on the same input -/

/-- Locals that differ in the budget for control frames only. -/
structure RecvLocals.Alike (locals other : RecvLocals) : Prop where
  assembled : locals.assembledPayload = other.assembledPayload
  frames : locals.frameCount = other.frameCount
  expected : 0 < other.frameCount → locals.expectedFragSeq = other.expectedFragSeq
  even : other.frameCount = 0 ↔ other.assembledPayload = []

/-- Turns that do the same to the messages. -/
inductive RecvStep.Alike : RecvStep → RecvStep → Prop where
  | next {locals other : RecvLocals} (alike : locals.Alike other) :
      RecvStep.Alike (.next locals) (.next other)
  | pong {locals other : RecvLocals} (alike : locals.Alike other) (none : other.frameCount = 0) :
      RecvStep.Alike (.pong locals) (.pong other)
  | returned (payload : Bytes) : RecvStep.Alike (.returned payload) (.returned payload)
  | raised (exn exn' : Exn) : RecvStep.Alike (.raised exn) (.raised exn')
  /-- The budget for control frames was spent on one side only. -/
  | crowded (exn : Exn) {locals other : RecvLocals} (alike : locals.Alike other)
      (none : other.frameCount = 0) : RecvStep.Alike (.raised exn) (.next other)

section Alike

variable {P : Primitives} {reliable : Bool} {locals other : RecvLocals} {frame : USMPFrame}
  {plaintext : Bytes}

theorem RecvLocals.Alike.dropPartial (locals other : RecvLocals) :
    locals.dropPartial.Alike other.dropPartial :=
  ⟨rfl, rfl, fun _ => rfl, fun _ => rfl, fun _ => rfl⟩

theorem onViolation_alike (locals other : RecvLocals) (exn : Exn) :
    (onViolation reliable locals exn).Alike (onViolation reliable other exn) := by
  unfold onViolation
  split
  · exact .next (.dropPartial locals other)
  · exact .raised exn exn

theorem RecvLocals.Alike.countControl (alike : locals.Alike other) {now : Rat}
    {counted : RecvLocals} (within : countControl locals now = .ok counted) :
    counted.Alike other := by
  simp only [Usmp.countControl] at within
  repeat' split at within
  all_goals cases within
  all_goals exact ⟨alike.assembled, alike.frames, alike.expected, alike.even⟩

/-- The first control frame is within the budget. -/
theorem countControl_first (other : RecvLocals) (now : Rat) (first : other.ctrlCount = 0) :
    ∃ counted, countControl other now = .ok counted ∧
      ∀ locals : RecvLocals, locals.Alike other → locals.Alike counted := by
  unfold countControl
  dsimp only
  split
  · refine ⟨_, if_neg (by simp), ?_⟩
    intro locals alike
    exact ⟨alike.assembled, alike.frames, alike.expected, alike.even⟩
  · refine ⟨_, if_neg (by simp [first]), ?_⟩
    intro locals alike
    exact ⟨alike.assembled, alike.frames, alike.expected, alike.even⟩

theorem reassemble_alike (alike : locals.Alike other)
    (noEmpty : frame.type ≠ .data → plaintext ≠ []) :
    (∃ exn, reassemble locals frame plaintext = .error exn ∧
        reassemble other frame plaintext = .error exn) ∨
      ∃ step step', reassemble locals frame plaintext = .ok step ∧
        reassemble other frame plaintext = .ok step' ∧ step.Alike step' := by
  have sameOrder : (locals.frameCount > 0 ∧ frame.seq ≠ locals.expectedFragSeq) ↔
      (other.frameCount > 0 ∧ frame.seq ≠ other.expectedFragSeq) := by
    rw [alike.frames]
    constructor
    · intro both
      exact ⟨both.1, alike.expected both.1 ▸ both.2⟩
    · intro both
      exact ⟨both.1, (alike.expected both.1).symm ▸ both.2⟩
  unfold reassemble
  by_cases outOfOrder : other.frameCount > 0 ∧ frame.seq ≠ other.expectedFragSeq
  · rw [if_pos outOfOrder, if_pos (sameOrder.mpr outOfOrder)]
    exact .inl ⟨_, rfl, rfl⟩
  rw [if_neg outOfOrder, if_neg (fun both => outOfOrder (sameOrder.mp both))]
  dsimp only
  rw [alike.assembled, alike.frames]
  by_cases isData : frame.type = .data
  · rw [if_pos isData, if_pos isData]
    exact .inr ⟨_, _, rfl, rfl, .returned _⟩
  rw [if_neg isData, if_neg isData]
  by_cases tooMany : other.frameCount + 1 ≥ usmpMaxFrames
  · rw [if_pos tooMany, if_pos tooMany]
    exact .inl ⟨_, rfl, rfl⟩
  rw [if_neg tooMany, if_neg tooMany]
  refine .inr ⟨_, _, rfl, rfl, .next ⟨rfl, rfl, ?_, ?_⟩⟩
  · intro _
    dsimp only
    split
    · rename_i some
      rw [alike.expected some]
    · rfl
  · constructor
    · intro none
      cases none
    · intro nothing
      exact absurd (List.append_eq_nil_iff.mp nothing).2 (noEmpty isData)

/-- Handling an authentic frame with locals that are alike. -/
theorem handleFrame_alike (reliable : Bool) (alike : locals.Alike other)
    (first : other.ctrlCount = 0) (info : SessionInfo) (now : Rat)
    (noEmpty : frame.type = .dataFrag → plaintext ≠ []) :
    (∃ exn, handleFrame P info locals now frame plaintext = .error exn ∧
        handleFrame P info.rxPart other 0 frame plaintext = .error exn) ∨
      (∃ exn other', handleFrame P info locals now frame plaintext = .error exn ∧
        onViolation reliable locals exn = .raised exn ∧ locals.Alike other' ∧
        other'.frameCount = 0 ∧
        handleFrame P info.rxPart other 0 frame plaintext =
          .ok (info.rxPart, [], .next other')) ∨
      ∃ after calls step step',
        handleFrame P info locals now frame plaintext = .ok (after, calls, step) ∧
        handleFrame P info.rxPart other 0 frame plaintext = .ok (after.rxPart, calls, step') ∧
        step.Alike step' := by
  unfold handleFrame
  by_cases isBye : frame.type = .bye
  · rw [if_pos isBye, if_pos isBye]
    exact .inl ⟨_, rfl, rfl⟩
  rw [if_neg isBye, if_neg isBye]
  by_cases control : frame.type = .ping ∨ frame.type = .pong
  · rw [if_pos control, if_pos control, alike.assembled]
    by_cases fragment : other.assembledPayload.length > 0
    · rw [if_pos fragment, if_pos fragment]
      exact .inl ⟨_, rfl, rfl⟩
    have none : other.frameCount = 0 :=
      alike.even.mpr (List.length_eq_zero_iff.mp (Nat.le_zero.mp (Nat.not_lt.mp fragment)))
    rw [if_neg fragment, if_neg fragment]
    by_cases isPing : frame.type = .ping
    · rw [if_pos isPing, if_pos isPing]
      exact .inr (.inr ⟨_, _, _, _, rfl, rfl, .pong alike none⟩)
    rw [if_neg isPing, if_neg isPing]
    rcases countControl_first other 0 first with ⟨counted, within, shows⟩
    rw [within]
    have nothing : counted.frameCount = 0 := (shows locals alike).frames ▸ alike.frames ▸ none
    cases counts : countControl locals now with
    | error exn =>
        refine .inr (.inl ⟨exn, counted, rfl, ?_, shows locals alike, nothing, rfl⟩)
        simp only [countControl] at counts
        repeat' split at counts
        all_goals cases counts
        all_goals exact if_neg (by cases reliable <;> decide)
    | ok after =>
        exact .inr (.inr ⟨_, _, _, _, rfl, rfl, .next (shows _ (alike.countControl counts))⟩)
  rw [if_neg control, if_neg control]
  by_cases isRekey : frame.type = .rekey
  · rw [if_pos isRekey, if_pos isRekey, alike.assembled]
    by_cases fragment : other.assembledPayload.length > 0
    · rw [if_pos fragment, if_pos fragment]
      exact .inl ⟨_, rfl, rfl⟩
    rw [if_neg fragment, if_neg fragment]
    by_cases wrongLength : plaintext.length ≠ 32
    · rw [if_pos wrongLength, if_pos wrongLength]
      exact .inl ⟨_, rfl, rfl⟩
    rw [if_neg wrongLength, if_neg wrongLength]
    exact .inr (.inr ⟨_, _, _, _, rfl, rfl, .next alike⟩)
  rw [if_neg isRekey, if_neg isRekey]
  by_cases unexpected : frame.type ≠ .data ∧ frame.type ≠ .dataFrag
  · rw [if_pos unexpected, if_pos unexpected]
    exact .inl ⟨_, rfl, rfl⟩
  rw [if_neg unexpected, if_neg unexpected]
  have notEmpty : frame.type ≠ .data → plaintext ≠ [] := by
    intro notData
    apply noEmpty
    by_contra notFrag
    exact unexpected ⟨notData, notFrag⟩
  rcases reassemble_alike alike notEmpty with ⟨exn, here, there⟩ | ⟨step, step', here, there, same⟩
  · rw [here, there]
    exact .inl ⟨exn, rfl, rfl⟩
  · rw [here, there]
    exact .inr (.inr ⟨_, _, step, step', rfl, rfl, same⟩)

theorem acceptSeq_rxPart (reliable : Bool) (info : SessionInfo) (seq : Nat) :
    acceptSeq reliable info.rxPart seq =
      match acceptSeq reliable info seq with
      | .error exn => .error exn
      | .ok (after, calls) => .ok (after.rxPart, calls) := by
  have marked : markReceived info.rxPart seq = (markReceived info seq).rxPart := by
    unfold markReceived
    by_cases newer : seq > info.rxSeq
    · rw [if_pos newer]
      exact if_pos newer
    · rw [if_neg newer]
      exact if_neg newer
  unfold acceptSeq
  split
  · rfl
  split
  · by_cases wrong : seq ≠ info.rxSeq
    · rw [if_pos wrong]
      exact if_pos wrong
    · rw [if_neg wrong]
      exact if_neg wrong
  · rw [marked]

/-- A turn of the loop with locals that are alike. -/
theorem recvTurn_alike (alike : locals.Alike other) (first : other.ctrlCount = 0)
    (info : SessionInfo) (now : Rat) {result : Except Exn USMPFrame}
    (noEmpty : NoEmptyFragment P reliable info result) :
    (recvTurn P reliable info.rxPart other 0 result).info =
        (recvTurn P reliable info locals now result).info.rxPart ∧
      (recvTurn P reliable info locals now result).step.Alike
        (recvTurn P reliable info.rxPart other 0 result).step := by
  have opens : openFrame P reliable info.rxPart result = openFrame P reliable info result := rfl
  unfold recvTurn
  rw [opens]
  unfold NoEmptyFragment at noEmpty
  cases opened : openFrame P reliable info result with
  | error exn =>
      dsimp only
      split
      · exact ⟨rfl, .next alike⟩
      · exact ⟨rfl, .raised exn exn⟩
  | ok some =>
      cases some with
      | none => exact ⟨rfl, .next alike⟩
      | some both =>
          rcases both with ⟨frame, plaintext⟩
          rw [opened] at noEmpty
          dsimp only
          rw [acceptSeq_rxPart]
          cases acceptSeq reliable info frame.seq with
          | error exn => exact ⟨rfl, .raised exn exn⟩
          | ok accepted =>
              rcases accepted with ⟨after, calls⟩
              dsimp only
              rcases handleFrame_alike reliable alike first after now noEmpty with
                ⟨exn, here, there⟩ | ⟨exn, other', here, raises, counted, none, there⟩ |
                ⟨final, moreCalls, step, step', here, there, same⟩
              · rw [here, there]
                exact ⟨rfl, onViolation_alike locals other exn⟩
              · rw [here, there]
                dsimp only
                rw [raises]
                exact ⟨rfl, .crowded exn counted none⟩
              · rw [here, there]
                exact ⟨rfl, same⟩

/-- A turn of a session that has taken this in, and of the intake itself. -/
theorem Intake.take_turn {intake : Intake} {info : SessionInfo} (same : intake.info = info.rxPart)
    (shown : intake.view.ShownBy locals) (even : intake.Even) (now : Rat)
    {result : Except Exn USMPFrame} (noEmpty : NoEmptyFragment P reliable info result) :
    let turn := recvTurn P reliable info locals now result
    let next := intake.take P reliable result
    next.info = turn.info.rxPart ∧ next.Even ∧
      (∃ type, View.Turned intake.view next.view type turn.step) ∧
      ∀ after, turn.step = .pong after → next.locals.frameCount = 0 := by
  have alike : locals.Alike { intake.locals with ctrlCount := 0 } :=
    ⟨shown.assembled, shown.fragments, shown.expected, even⟩
  have turned := recvTurn_alike alike rfl info now noEmpty
  rw [← same] at turned
  dsimp only
  unfold Intake.take
  generalize recvTurn P reliable intake.info { intake.locals with ctrlCount := 0 } 0 result =
    turn' at turned ⊢
  generalize recvTurn P reliable info locals now result = turn at turned ⊢
  rcases turned with ⟨sameInfo, steps⟩
  rcases turn with ⟨after, calls, authenticated, step⟩
  rcases turn' with ⟨after', calls', authenticated', step'⟩
  dsimp only at sameInfo steps ⊢
  cases steps with
  | next alike =>
      exact ⟨sameInfo, alike.even, ⟨.data, .next _ ⟨alike.assembled, alike.frames, alike.expected⟩
        rfl⟩, by simp⟩
  | pong alike none =>
      exact ⟨sameInfo, alike.even, ⟨.ping, .pong _ ⟨alike.assembled, alike.frames, alike.expected⟩
        rfl rfl⟩, fun _ _ => none⟩
  | returned payload =>
      exact ⟨sameInfo, ⟨fun _ => rfl, fun _ => rfl⟩, ⟨.data, .returned payload rfl rfl⟩, by simp⟩
  | raised exn exn' =>
      exact ⟨sameInfo, ⟨fun _ => rfl, fun _ => rfl⟩, ⟨.pong, .raised exn rfl rfl rfl⟩, by simp⟩
  | crowded exn alike none =>
      exact ⟨sameInfo, alike.even, ⟨.pong, .raised exn none rfl rfl⟩, by simp⟩

end Alike

/-! ## The session -/

/-- Nothing is lost when the coroutine ends here: no `recv` holds a header or a fragment. -/
def Task.Empty : Task → Prop
  | .reading locals pending => pending = none ∧ locals.frameCount = 0
  | .lockWait _ | .writing _ => True

instance : (at_ : Task) → Decidable at_.Empty
  | .reading locals pending =>
      inferInstanceAs (Decidable (pending = none ∧ locals.frameCount = 0))
  | .lockWait _ | .writing _ => isTrue trivial

namespace Session

/-- The session has taken this in, and its `recv` holds `header` of the next frame. -/
structure Heeds (session : Session) (intake : Intake) (header : Option Bytes) : Prop where
  info : intake.info = session.info.rxPart
  receiver : (session.expecting intake.locals.expectedFragSeq).Receiver intake.view header
  even : intake.Even
  /-- A PONG is sent between two messages. -/
  answering : ∀ task at_, session.tasks task = some at_ → at_.op = .recv →
    (∀ locals pending, at_ ≠ .reading locals pending) → intake.locals.frameCount = 0

section Heeds

variable {P : Primitives} {before base : Session} {action : SessionAction} {fate : Fate}
  {effects : Effects} {intake : Intake} {header : Option Bytes}

theorem Heeds.new (reliable : Bool) (info : SessionInfo) :
    Heeds (.new reliable info) { info := info.rxPart } none := by
  have receiver := Receiver.new reliable { info with rxSeq := 0 } 0
  refine ⟨rfl, receiver, ⟨fun _ => rfl, fun _ => rfl⟩, ?_⟩
  intro task at_ isAt
  cases isAt

theorem Heeds.expects (same : intake.info = base.info.rxPart) :
    intake.view.Matches (base.expecting intake.locals.expectedFragSeq).info := by
  refine ⟨?_, ?_, rfl⟩
  · exact (congrArg SessionInfo.txKey same).symm
  · exact (congrArg SessionInfo.rxKey same).symm

/-- A coroutine settles. -/
theorem Heeds.settle {task : Nat} (same : intake.info = base.info.rxPart) (even : intake.Even)
    (receiver : ((base.expecting intake.locals.expectedFragSeq).settle task fate).Receiver
      intake.view header)
    (answering : ∀ other at_, other ≠ task → base.tasks other = some at_ → at_.op = .recv →
      (∀ locals pending, at_ ≠ .reading locals pending) → intake.locals.frameCount = 0)
    (own : ∀ at_, fate.await = some at_ → at_.op = .recv →
      (∀ locals pending, at_ ≠ .reading locals pending) → intake.locals.frameCount = 0) :
    Heeds (base.settle task fate) intake header := by
  refine ⟨?_, ?_, even, ?_⟩
  · rw [(settle_frame _ _ _).2.1]
    exact same
  · rw [expecting_settle]
    exact receiver
  · intro other at_ isAt
    by_cases isTask : other = task
    · subst isTask
      rw [settle_tasks, Function.update_self] at isAt
      exact own at_ isAt
    · rw [settle_tasks, Function.update_of_ne isTask] at isAt
      exact answering other at_ isTask isAt

/-- A step that neither reads a frame nor rotates the keys leaves the receiving side alone. -/
theorem Progress.rxPart (progress : Progress P before action base fate effects)
    (notRead : ∀ task result now, action ≠ .read task result now)
    (noRekey : ∀ task salt, before.tasks task ≠ some (.writing (.rekey salt))) :
    base.info.rxPart = before.info.rxPart := by
  cases progress with
  | rekeyed task salt now writing => exact absurd writing (noRekey task salt)
  | received task locals pending now result reading turn isTurn =>
      exact absurd rfl (notRead task result now)
  | called | encrypted | refused | failed | sent | signalled | ponged | tookHeader | abandoned
  | interrupted => rfl

/-- How a `recv` in progress settles that gets no frame. -/
inductive Idles (before : Session) (action : SessionAction) (at_ : Task) : Fate → Prop where
  | header (task : Nat) (locals : RecvLocals) (taken : Bytes)
      (isAction : action = .readHeader task taken) (isAt : at_ = .reading locals none) :
      Idles before action at_ (.suspended (.reading locals (some taken)))
  | writes (locals : RecvLocals) (isAt : at_ = .lockWait (.pong locals)) :
      Idles before action at_ (.suspended (.writing (.pong locals)))
  | turns (locals : RecvLocals) (step : RecvStep)
      (isAt : at_ = .lockWait (.pong locals) ∨ at_ = .writing (.pong locals))
      (turned : ∀ view : View, view.ShownBy locals → view.fragments = 0 → view.Tidy →
        ∃ type, View.Turned view view type step ∧ type ≠ .ping) :
      Idles before action at_ step.fate
  | cancelled (isCancel : action = .cancel action.task) :
      Idles before action at_ (.ended .cancelled)

theorem turned_onViolation (reliable : Bool) (locals : RecvLocals) (exn : Exn) (view : View)
    (between : view.fragments = 0) (tidy : view.Tidy) :
    ∃ type, View.Turned view view type (onViolation reliable locals exn) ∧ type ≠ .ping := by
  unfold onViolation
  split
  · refine ⟨.data, .next _ ⟨(tidy between).symm, between.symm, ?_⟩ rfl, by simp⟩
    intro some
    rw [between] at some
    cases some
  · exact ⟨.pong, .raised exn between rfl rfl, by simp⟩

theorem Progress.idles (progress : Progress P before action base fate effects)
    (notRead : ∀ task result now, action ≠ .read task result now)
    (notCall : ∀ task op now, action ≠ .call task op now) {at_ : Task}
    (isAt : before.tasks action.task = some at_) (isRecv : at_.op = .recv) :
    Idles before action at_ fate := by
  have raised : ∀ {locked : Locked}, locked.op = .recv → ∀ (reliable : Bool) (exn : Exn),
      ∃ locals, locked = .pong locals ∧
        locked.raisedFate reliable exn = (onViolation reliable locals exn).fate := by
    intro locked isPong reliable exn
    cases locked with
    | pong locals => exact ⟨locals, rfl, rfl⟩
    | send data offset | ping | rekey salt | bye => cases isPong
  cases progress with
  | called task op now isNew => exact absurd rfl (notCall task op now)
  | encrypted task action locked admitted ready unspent =>
      rcases ready with ⟨_, free, waiting⟩ | ⟨data, offset, now, writing, more⟩
      · cases isAt.symm.trans waiting
        cases locked with
        | pong locals => exact .writes locals rfl
        | send data offset | ping | rekey salt | bye => cases isRecv
      · cases isAt.symm.trans writing
        cases isRecv
  | refused task action locked admitted ready spent notBye exn =>
      rcases ready with ⟨_, free, waiting⟩ | ⟨data, offset, now, writing, more⟩
      · cases isAt.symm.trans waiting
        rcases raised isRecv before.reliable exn with ⟨locals, rfl, isFate⟩
        rw [isFate]
        exact .turns locals _ (.inl rfl) fun view _ => turned_onViolation _ _ _ view
      · cases isAt.symm.trans writing
        cases isRecv
  | failed task locked exn now writing =>
      cases isAt.symm.trans writing
      rcases raised isRecv before.reliable exn with ⟨locals, rfl, isFate⟩
      rw [isFate]
      exact .turns locals _ (.inr rfl) fun view _ => turned_onViolation _ _ _ view
  | ponged task locals now writing =>
      cases isAt.symm.trans writing
      refine .turns locals _ (.inr rfl) ?_
      intro view shown between tidy
      unfold pongSent
      cases within : countControl locals now with
      | error exn => exact turned_onViolation _ _ _ view between tidy
      | ok counted => exact ⟨.data, .next counted (shown.countControl within) rfl, by simp⟩
  | sent task data offset now writing last =>
      cases isAt.symm.trans writing
      cases isRecv
  | signalled task locked now writing kind =>
      cases isAt.symm.trans writing
      rcases kind with rfl | rfl <;> cases isRecv
  | rekeyed task salt now writing =>
      cases isAt.symm.trans writing
      cases isRecv
  | received task locals pending now result reading turn isTurn =>
      exact absurd rfl (notRead task result now)
  | tookHeader task locals taken reading =>
      cases isAt.symm.trans reading
      exact .header task locals taken rfl rfl
  | abandoned task at_ isAt' unlocked => exact .cancelled rfl
  | interrupted task locked writing => exact .cancelled rfl

theorem headerAfter_of_ne (header : Option Bytes)
    (notHeader : ∀ task taken, action ≠ .readHeader task taken) :
    headerAfter header action = header := by
  cases action with
  | readHeader task taken => exact absurd rfl (notHeader task taken)
  | call | acquire | wrote | read | cancel => rfl

/-- A step of the `recv` in progress that gets no frame. -/
theorem Heeds.own (heeds : Heeds before intake header)
    (progress : Progress P before action base fate effects)
    (same : intake.info = base.info.rxPart)
    (notRead : ∀ task result now, action ≠ .read task result now)
    (notCall : ∀ task op now, action ≠ .call task op now) {at_ : Task}
    (isAt : before.tasks action.task = some at_) (isRecv : at_.op = .recv)
    (noLoss : ∀ task at_, action = .cancel task → before.tasks task = some at_ → at_.Empty) :
    Heeds (base.settle action.task fate) intake (headerAfter header action) := by
  rcases progress.frame with ⟨tasks, outcomes⟩
  have receiver := heeds.receiver
  have matched := Heeds.expects same
  have alone : ∀ other at_', other ≠ action.task → base.tasks other = some at_' →
      at_'.op ≠ .recv := by
    intro other at_' distinct isAt' isRecv'
    rw [tasks] at isAt'
    exact distinct (receiver.alone other _ at_' at_ isAt' isRecv' isAt isRecv)
  have others : ∀ other at_', other ≠ action.task → base.tasks other = some at_' →
      at_'.op = .recv → (∀ locals pending, at_' ≠ .reading locals pending) →
      intake.locals.frameCount = 0 := by
    intro other at_' distinct isAt' isRecv'
    exact absurd isRecv' (alone other at_' distinct isAt')
  have messages : (base.expecting intake.locals.expectedFragSeq).received =
      intake.view.messages := by
    have old := receiver.messages
    rw [received] at old ⊢
    exact (congrArg _ outcomes).trans old
  have untaken : (∀ locals pending, at_ ≠ .reading locals pending) → header = none := by
    intro notReading
    refine receiver.untaken fun other locals pending isReading => ?_
    by_cases isTask : other = action.task
    · subst isTask
      cases isAt.symm.trans isReading
      exact notReading locals pending rfl
    · exact alone other _ isTask (tasks ▸ isReading) rfl
  have answers : (∀ locals pending, at_ ≠ .reading locals pending) →
      header = none ∧ intake.locals.frameCount = 0 ∧ headerAfter header action = none := by
    intro notReading
    have noHeader := untaken notReading
    refine ⟨noHeader, heeds.answering _ at_ isAt isRecv notReading, ?_⟩
    rw [headerAfter_of_ne, noHeader]
    rintro task taken rfl
    cases progress with
    | tookHeader task locals taken reading =>
        cases isAt.symm.trans reading
        exact notReading _ _ rfl
    | encrypted task action locked admitted ready unspent => cases ready
    | refused task action locked admitted ready spent notBye exn => cases ready
  cases progress.idles notRead notCall isAt isRecv with
  | header task locals taken isAction isReading =>
      subst isAction isReading
      have shown := receiver.shown _ _ locals isAt rfl
      refine .settle same heeds.even (.settle_recv matched receiver.tidy ?_ alone ?_ ?_ ?_ ?_)
        others ?_
      · simpa [Fate.outcome] using messages
      · intro at_ locals' isNext isLocals
        cases isNext
        cases isLocals
        exact shown
      · intro none
        exact absurd rfl (none _ rfl)
      · intro locals' pending isReading
        cases isReading
        rfl
      · intro none
        exact absurd rfl (none _ _)
      · intro at_ isNext _ notReading
        cases isNext
        exact absurd rfl (notReading _ _)
  | writes locals isWaiting =>
      subst isWaiting
      rcases answers (by simp) with ⟨noHeader, nothing, after⟩
      rw [after]
      refine .settle same heeds.even (.settle_recv matched receiver.tidy ?_ alone ?_ ?_ ?_ ?_)
        others (fun _ _ _ _ => nothing)
      · simpa [Fate.outcome] using messages
      · intro at_ locals' isNext isLocals
        cases isNext
        cases isLocals
        exact receiver.shown _ _ locals isAt rfl
      · intro _
        exact nothing
      · intro locals' pending isReading
        cases isReading
      · intro _
        rfl
  | turns locals step isPong turned =>
      have notReading : ∀ locals pending, at_ ≠ .reading locals pending := by
        rintro locals pending rfl
        rcases isPong with impossible | impossible <;> cases impossible
      have isLocals : at_.locals? = some locals := by
        rcases isPong with rfl | rfl <;> rfl
      rcases answers notReading with ⟨noHeader, nothing, after⟩
      rcases turned intake.view (receiver.shown _ at_ locals isAt isLocals) nothing
        receiver.tidy with ⟨type, turned, _⟩
      rw [after]
      have settled : ((base.expecting intake.locals.expectedFragSeq).settle action.task
          step.fate).Receiver intake.view none :=
        receiver.turned isAt isRecv tasks outcomes matched receiver.tidy turned
      exact .settle same heeds.even settled others (fun _ _ _ _ => nothing)
  | cancelled isCancel =>
      have empty := noLoss _ at_ isCancel isAt
      have ended : header = none ∧ intake.locals.frameCount = 0 := by
        by_cases isReading : ∃ locals pending, at_ = .reading locals pending
        · rcases isReading with ⟨locals, pending, rfl⟩
          refine ⟨(receiver.taken _ locals pending isAt).symm.trans empty.1, ?_⟩
          exact (receiver.shown _ _ locals isAt rfl).fragments.symm.trans empty.2
        · rcases answers (by simpa using isReading) with ⟨noHeader, none, _⟩
          exact ⟨noHeader, none⟩
      have after : headerAfter header action = none := by
        rw [isCancel]
        exact ended.1
      rw [after]
      refine .settle same heeds.even (.settle_recv matched receiver.tidy ?_ alone ?_ ?_ ?_ ?_)
        others ?_
      · simpa [Fate.outcome, Outcome.message?] using messages
      · intro at_ locals isNext
        cases isNext
      · intro _
        exact ended.2
      · intro locals pending isNext
        cases isNext
      · intro _
        rfl
      · intro at_ isNext
        cases isNext

/-- No step but reading a frame and rotating the keys changes what was taken in. -/
theorem Heeds.progress (inv : CallInv before) (heeds : Heeds before intake header)
    (progress : Progress P before action base fate effects)
    (notRead : ∀ task result now, action ≠ .read task result now)
    (noRekey : ∀ task salt, before.tasks task ≠ some (.writing (.rekey salt)))
    (single : ∀ task now, action = .call task .recv now → before.receiving = false)
    (noLoss : ∀ task at_, action = .cancel task → before.tasks task = some at_ → at_.Empty) :
    Heeds (base.settle action.task fate) intake (headerAfter header action) := by
  rcases progress.frame with ⟨tasks, outcomes⟩
  have same : intake.info = base.info.rxPart :=
    heeds.info.trans (progress.rxPart notRead noRekey).symm
  have receiver := heeds.receiver
  have matched := Heeds.expects same
  by_cases isCall : ∃ task now, action = .call task .recv now
  · rcases isCall with ⟨task, now, rfl⟩
    have none : ∀ other at_, before.tasks other = some at_ → at_.op ≠ .recv := by
      intro other at_ isAt isRecv
      have some := inv.receiving_iff.mpr ⟨other, at_, isAt, isRecv⟩
      rw [single task now rfl] at some
      cases some
    have isFate : fate = Op.recv.start before.closed now := by
      cases progress with
      | called => rfl
      | encrypted task action locked admitted ready unspent => cases ready
      | refused task action locked admitted ready spent notBye exn => cases ready
    subst isFate
    have called : ((base.expecting intake.locals.expectedFragSeq).settle task
        (Op.recv.start before.closed now)).Receiver intake.view header :=
      receiver.called tasks outcomes matched none
    refine .settle same heeds.even called ?_ ?_
    · intro other at_ _ isAt isRecv
      exact absurd isRecv (none other at_ (tasks ▸ isAt))
    · intro at_ isAt _ notReading
      cases isAt
      exact absurd rfl (notReading _ _)
  have notCall : ∀ task now, action ≠ .call task .recv now :=
    fun task now isCall' => isCall ⟨task, now, isCall'⟩
  by_cases isOther : ∀ at_, before.tasks action.task = some at_ → at_.op ≠ .recv
  · rcases progress.other notCall isOther with ⟨stays, noMessage⟩
    have sameHeader : headerAfter header action = header := by
      apply headerAfter_of_ne
      rintro task taken rfl
      cases progress with
      | tookHeader task locals taken reading => exact isOther _ reading rfl
      | encrypted task action locked admitted ready unspent => cases ready
      | refused task action locked admitted ready spent notBye exn => cases ready
    rw [sameHeader]
    have settled : ((base.expecting intake.locals.expectedFragSeq).settle action.task
        fate).Receiver intake.view header :=
      receiver.settle_other tasks outcomes matched rfl rfl rfl (fun _ => rfl) isOther stays
        noMessage
    refine .settle same heeds.even settled ?_ ?_
    · intro other at_ _ isAt
      exact heeds.answering other at_ (tasks ▸ isAt)
    · intro at_ isAt isRecv
      exact absurd isRecv (stays at_ isAt)
  simp only [not_forall, not_not] at isOther
  rcases isOther with ⟨at_, isAt, isRecv⟩
  refine heeds.own progress same notRead ?_ isAt isRecv noLoss
  rintro task op now rfl
  cases progress with
  | called task op now isNew =>
      rw [SessionAction.task, inv.none_of_new isNew] at isAt
      cases isAt
  | encrypted task action locked admitted ready unspent => cases ready
  | refused task action locked admitted ready spent notBye exn => cases ready

/-- Reading a frame takes it in. -/
theorem Heeds.read {session : Session} (heeds : Heeds session intake header) {task : Nat}
    {locals : RecvLocals} {pending : Option Bytes} {now : Rat} {result : Except Exn USMPFrame}
    (reading : session.tasks task = some (.reading locals pending))
    (noEmpty : NoEmptyFragment P session.reliable session.info result) {turn : RecvTurn}
    (isTurn : turn = recvTurn P session.reliable session.info locals now result)
    (tasks : base.tasks = session.tasks) (outcomes : base.outcomes = session.outcomes)
    (info : base.info = turn.info) :
    Heeds (base.settle task turn.step.fate) (intake.take P session.reliable result) none := by
  have shown := heeds.receiver.shown task _ locals reading rfl
  rcases intake.take_turn heeds.info shown heeds.even now noEmpty with
    ⟨same, even, ⟨type, turned⟩, ponged⟩
  rw [← isTurn] at same turned ponged
  rw [← info] at same
  have tidy : (intake.take P session.reliable result).view.Tidy := even.mp
  have settled : ((base.expecting (intake.take P session.reliable
      result).locals.expectedFragSeq).settle task turn.step.fate).Receiver
      (intake.take P session.reliable result).view none :=
    heeds.receiver.turned reading rfl tasks outcomes (Heeds.expects same) tidy turned
  refine .settle same even settled ?_ ?_
  · intro other at_ distinct isAt isRecv
    rw [tasks] at isAt
    exact absurd (heeds.receiver.alone other task at_ _ isAt isRecv reading rfl) distinct
  · intro at_ isAt _ notReading
    rcases turn with ⟨after, calls, authenticated, step⟩
    cases step with
    | next locals =>
        cases isAt
        exact absurd rfl (notReading _ _)
    | pong locals => exact ponged locals rfl
    | returned payload | raised exn => cases isAt

end Heeds

end Session

end Usmp
