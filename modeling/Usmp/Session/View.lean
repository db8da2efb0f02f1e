import Usmp.Session.Calls

/-!
# What a stream of frames means

Over a reliable transport the receiver sees the sender's frames in order.  `View`
is the part of a receiving session that they determine: the keys, the next
sequence, the message being assembled and the messages returned.  `accept` is the
purpose of one frame, stated without the loop, its locals or its exceptions; the
turn of the loop is shown to follow it.
-/

namespace Usmp

structure View where
  txKey : Key
  rxKey : Key
  rxSeq : Nat
  assembled : Bytes := []
  fragments : Nat := 0
  messages : List Bytes := []
  deriving DecidableEq, Repr

namespace View

/-- What the plaintext of the next frame makes of the view. -/
def absorb (P : Primitives) (sessionId : FixedBytes usmpSessionIdLen) (view : View)
    (plaintext : Bytes) : PacketType → Option View
  | .data =>
      some { view with
        rxSeq := view.rxSeq + 1
        assembled := []
        fragments := 0
        messages := view.messages ++ [view.assembled ++ plaintext] }
  | .dataFrag =>
      if view.fragments + 1 < usmpMaxFrames then
        some { view with
          rxSeq := view.rxSeq + 1
          assembled := view.assembled ++ plaintext
          fragments := view.fragments + 1 }
      else
        none
  | .ping | .pong =>
      if view.fragments = 0 then some { view with rxSeq := view.rxSeq + 1 } else none
  | .rekey =>
      if view.fragments = 0 ∧ plaintext.length = 32 then
        let keys := deriveRekeyKeys P false view.txKey view.rxKey sessionId plaintext
        some { view with txKey := keys.1, rxKey := keys.2, rxSeq := 0 }
      else
        none
  | _ => none

/-- The view after the next frame of the sender, or `none` for a frame that is not
the next one or that has no place here. -/
def accept (P : Primitives) (sessionId : FixedBytes usmpSessionIdLen) (view : View)
    (sent : SentFrame) : Option View :=
  if sent.txKey = view.rxKey ∧ sent.seq = view.rxSeq ∧ sent.seq < maxSeq then
    view.absorb P sessionId sent.plaintext sent.type
  else
    none

/-- The frames of a log, one after the other. -/
def replay (P : Primitives) (sessionId : FixedBytes usmpSessionIdLen) :
    View → List SentFrame → Option View :=
  Machine.run (accept P sessionId)

/-- Between messages nothing is assembled. -/
def Tidy (view : View) : Prop := view.fragments = 0 → view.assembled = []

/-- The session parameters of a receiver in this view. -/
structure Matches (view : View) (info : SessionInfo) : Prop where
  txKey : info.txKey = view.txKey
  rxKey : info.rxKey = view.rxKey
  rxSeq : info.rxSeq = view.rxSeq

/-- The locals of a `recv` in this view. -/
structure ShownBy (view : View) (locals : RecvLocals) : Prop where
  assembled : locals.assembledPayload = view.assembled
  fragments : locals.frameCount = view.fragments
  expected : 0 < view.fragments → locals.expectedFragSeq = view.rxSeq

/-- How a turn of the loop ends when a frame takes one view to another. -/
inductive Turned (view next : View) (type : PacketType) : RecvStep → Prop where
  | next (locals : RecvLocals) (shown : next.ShownBy locals)
      (messages : next.messages = view.messages) : Turned view next type (.next locals)
  | pong (locals : RecvLocals) (shown : next.ShownBy locals)
      (messages : next.messages = view.messages) (isPing : type = .ping) :
      Turned view next type (.pong locals)
  | returned (payload : Bytes) (fragments : next.fragments = 0)
      (messages : next.messages = view.messages ++ [payload]) :
      Turned view next type (.returned payload)
  | raised (exn : Exn) (fragments : next.fragments = 0)
      (messages : next.messages = view.messages) (isPong : type = .pong) :
      Turned view next type (.raised exn)

theorem accept_some {P : Primitives} {sessionId : FixedBytes usmpSessionIdLen} {view next : View}
    {sent : SentFrame} :
    view.accept P sessionId sent = some next ↔
      (sent.txKey = view.rxKey ∧ sent.seq = view.rxSeq ∧ sent.seq < maxSeq) ∧
        view.absorb P sessionId sent.plaintext sent.type = some next := by
  rw [accept, Option.ite_none_right_eq_some]

theorem Tidy.accept {P : Primitives} {sessionId : FixedBytes usmpSessionIdLen} {view next : View}
    {sent : SentFrame} (tidy : view.Tidy) (accepted : view.accept P sessionId sent = some next) :
    next.Tidy := by
  obtain ⟨_, absorbed⟩ := accept_some.mp accepted
  unfold absorb at absorbed
  repeat' split at absorbed
  all_goals cases absorbed
  all_goals first
    | exact tidy
    | exact fun _ => rfl
    | exact fun impossible => absurd impossible (Nat.succ_ne_zero _)

theorem Tidy.replay {P : Primitives} {sessionId : FixedBytes usmpSessionIdLen} {view next : View}
    {frames : List SentFrame} (tidy : view.Tidy)
    (replayed : view.replay P sessionId frames = some next) : next.Tidy :=
  Machine.run_invariant' Tidy (fun _ _ _ tidy accepted => tidy.accept accepted) tidy replayed

/-- A new call of `recv` continues a view between messages. -/
theorem shownBy_new {view : View} (between : view.fragments = 0) (tidy : view.Tidy) (now : Rat) :
    view.ShownBy { ctrlWindowStart := now } :=
  ⟨(tidy between).symm, between.symm, fun some => absurd between (Nat.pos_iff_ne_zero.mp some)⟩

theorem ShownBy.countControl {view : View} {locals counted : RecvLocals} {now : Rat}
    (shown : view.ShownBy locals) (within : countControl locals now = .ok counted) :
    view.ShownBy counted := by
  simp only [Usmp.countControl] at within
  repeat' split at within
  all_goals cases within
  all_goals exact ⟨shown.assembled, shown.fragments, shown.expected⟩

/-- What handling does with a frame that the view absorbs; `info` counts its
sequence.  Only a PONG beyond the control budget raises. -/
theorem handleFrame_absorb {P : Primitives} {view next : View} (info : SessionInfo)
    {locals : RecvLocals} {frame : USMPFrame} {plaintext : Bytes} (now : Rat)
    (tidy : view.Tidy) (txKey : info.txKey = view.txKey) (rxKey : info.rxKey = view.rxKey)
    (rxSeq : info.rxSeq = view.rxSeq + 1) (shown : view.ShownBy locals)
    (seq : frame.seq = view.rxSeq)
    (absorbed : view.absorb P info.sessionId plaintext frame.type = some next) :
    (∃ exn, handleFrame P info locals now frame plaintext = .error exn ∧ frame.type = .pong ∧
        next = { view with rxSeq := view.rxSeq + 1 } ∧ view.fragments = 0) ∨
      ∃ after calls step, handleFrame P info locals now frame plaintext =
          .ok (after, calls, step) ∧
        Turned view next frame.type step ∧ next.Matches after ∧
        after.sessionId = info.sessionId ∧ after.cipherSuite = info.cipherSuite ∧
        after.txSeq = (if frame.type = .rekey then 0 else info.txSeq) ∧
        calls = (if frame.type = .rekey then [.setSessionKeys next.txKey next.rxKey] else []) := by
  have expected : ¬ (locals.frameCount > 0 ∧ frame.seq ≠ locals.expectedFragSeq) := by
    rintro ⟨some, differs⟩
    rw [shown.fragments] at some
    exact differs (by rw [seq, shown.expected some])
  have nothing : view.fragments = 0 → ¬ locals.assembledPayload.length > 0 := by
    intro between
    simp [shown.assembled, tidy between]
  have later : view.fragments = 0 → ∀ {counted : RecvLocals}, view.ShownBy counted →
      ({ view with rxSeq := view.rxSeq + 1 } : View).ShownBy counted := by
    intro between counted shown
    exact ⟨shown.assembled, shown.fragments, fun some =>
      absurd between (by simp only at some; omega)⟩
  cases type : frame.type with
  | data =>
      rw [type] at absorbed
      cases absorbed
      refine .inr ⟨info, [], .returned (view.assembled ++ plaintext), ?_, .returned _ rfl rfl,
        ⟨txKey, rxKey, rxSeq⟩, rfl, rfl, rfl, rfl⟩
      simp [handleFrame, type, reassemble, expected, shown.assembled]
  | dataFrag =>
      rw [type] at absorbed
      simp only [absorb] at absorbed
      split at absorbed <;> cases absorbed
      rename_i room
      have below : ¬ usmpMaxFrames ≤ locals.frameCount + 1 := by
        rw [shown.fragments]
        omega
      obtain ⟨collected, isCollected⟩ : ∃ collected : RecvLocals, collected =
          { locals with
            expectedFragSeq :=
              if locals.frameCount > 0 then locals.expectedFragSeq + 1 else frame.seq + 1
            assembledPayload := locals.assembledPayload ++ plaintext
            frameCount := locals.frameCount + 1 } := ⟨_, rfl⟩
      refine .inr ⟨info, [], .next collected, ?_, .next collected ?_ rfl, ⟨txKey, rxKey, rxSeq⟩,
        rfl, rfl, rfl, rfl⟩
      · simp [handleFrame, type, reassemble, expected, below, isCollected]
      · rw [isCollected]
        refine ⟨by simp [shown.assembled], by simp [shown.fragments], fun _ => ?_⟩
        simp only [seq]
        split
        · rename_i some
          rw [shown.expected (by rwa [shown.fragments] at some)]
        · rfl
  | ping =>
      rw [type] at absorbed
      simp only [absorb] at absorbed
      split at absorbed <;> cases absorbed
      rename_i between
      refine .inr ⟨info, [], .pong locals, ?_, .pong locals (later between shown) rfl rfl,
        ⟨txKey, rxKey, rxSeq⟩, rfl, rfl, rfl, rfl⟩
      simp [handleFrame, type, nothing between]
  | pong =>
      rw [type] at absorbed
      simp only [absorb] at absorbed
      split at absorbed <;> cases absorbed
      rename_i between
      cases budget : countControl locals now with
      | error exn =>
          refine .inl ⟨exn, ?_, rfl, rfl, between⟩
          simp [handleFrame, type, nothing between, budget]
      | ok counted =>
          refine .inr ⟨info, [], .next counted, ?_,
            .next counted (later between (shown.countControl budget)) rfl,
            ⟨txKey, rxKey, rxSeq⟩, rfl, rfl, rfl, rfl⟩
          simp [handleFrame, type, nothing between, budget]
  | rekey =>
      rw [type] at absorbed
      simp only [absorb] at absorbed
      split at absorbed <;> cases absorbed
      rename_i ready
      refine .inr ⟨info.rotated (deriveRekeyKeys P false view.txKey view.rxKey info.sessionId
        plaintext), _, .next locals, ?_, .next locals ?_ rfl, ⟨rfl, rfl, rfl⟩, rfl, rfl, rfl, rfl⟩
      · simp [handleFrame, type, nothing ready.1, ready.2, txKey, rxKey]
      · exact ⟨shown.assembled, shown.fragments,
          fun some => absurd ready.1 (by simp only at some; omega)⟩
  | hello | challenge | helloAck | sessionOk | bye | helloRetry | error =>
      rw [type] at absorbed
      cases absorbed

/-- The turn of the loop over a reliable transport, on an authentic frame that the
view accepts. -/
theorem recvTurn_accept {P : Primitives} {view next : View} {info : SessionInfo}
    {locals : RecvLocals} {frame : USMPFrame} {sent : SentFrame} (now : Rat)
    (tidy : view.Tidy) (matched : view.Matches info) (shown : view.ShownBy locals)
    (opened : openFrame P true info (.ok frame) = .ok (some (frame, sent.plaintext)))
    (type : frame.type = sent.type) (seq : frame.seq = sent.seq)
    (accepted : view.accept P info.sessionId sent = some next) :
    let turn := recvTurn P true info locals now (.ok frame)
    next.Matches turn.info ∧ turn.info.sessionId = info.sessionId ∧
      turn.info.cipherSuite = info.cipherSuite ∧
      turn.info.txSeq = (if sent.type = .rekey then 0 else info.txSeq) ∧
      turn.rotations = (if sent.type = .rekey then [(next.txKey, next.rxKey)] else []) ∧
      Turned view next sent.type turn.step := by
  obtain ⟨⟨_, inOrder, below⟩, absorbed⟩ := accept_some.mp accepted
  have inSequence : acceptSeq true info frame.seq =
      .ok ({ info with rxSeq := info.rxSeq + 1 }, []) := by
    have same : frame.seq = info.rxSeq := by rw [seq, inOrder, matched.rxSeq]
    have notSpent : ¬ maxSeq ≤ info.rxSeq := by
      rw [← same, seq]
      omega
    simp [acceptSeq, same, notSpent]
  rw [← type] at absorbed
  rcases handleFrame_absorb { info with rxSeq := info.rxSeq + 1 } now tidy matched.txKey
      matched.rxKey (by simp [matched.rxSeq]) shown (by rw [seq, inOrder]) absorbed with
    ⟨exn, handled, isPong, rfl, between⟩ |
    ⟨after, calls, step, handled, turned, matches_, sessionId, suite, txSeq, isCalls⟩
  · have isPong' : sent.type = .pong := type ▸ isPong
    simp only [recvTurn, opened, inSequence, handled, isPong']
    refine ⟨⟨matched.txKey, matched.rxKey, by simp [matched.rxSeq]⟩, ?_⟩
    simpa [RecvTurn.rotations, onViolation] using .raised exn between rfl rfl
  · simp only [recvTurn, opened, inSequence, handled]
    rw [type] at turned txSeq isCalls
    refine ⟨matches_, sessionId, suite, txSeq, ?_, turned⟩
    rw [isCalls]
    split <;> rfl

/-! ## Replaying -/

variable {P : Primitives} {sessionId : FixedBytes usmpSessionIdLen} {view next final : View}

/-- Only REKEY changes the keys of a view. -/
theorem accept_keys {sent : SentFrame} (notRekey : sent.type ≠ .rekey)
    (accepted : view.accept P sessionId sent = some next) :
    next.txKey = view.txKey ∧ next.rxKey = view.rxKey := by
  obtain ⟨_, absorbed⟩ := accept_some.mp accepted
  cases type : sent.type with
  | rekey => exact absurd type notRekey
  | dataFrag | ping | pong =>
      simp only [absorb, type] at absorbed
      split at absorbed <;> cases absorbed
      exact ⟨rfl, rfl⟩
  | data =>
      simp only [absorb, type] at absorbed
      cases absorbed
      exact ⟨rfl, rfl⟩
  | hello | challenge | helloAck | sessionOk | bye | helloRetry | error =>
      simp [absorb, type] at absorbed

theorem replay_keys {frames : List SentFrame} (noRekey : ∀ sent ∈ frames, sent.type ≠ .rekey)
    (replayed : view.replay P sessionId frames = some final) :
    final.txKey = view.txKey ∧ final.rxKey = view.rxKey := by
  induction frames generalizing view with
  | nil =>
      cases replayed
      exact ⟨rfl, rfl⟩
  | cons sent rest ih =>
      obtain ⟨next, accepted, restReplayed⟩ := Machine.run_cons_some.mp replayed
      have first := accept_keys (noRekey sent List.mem_cons_self) accepted
      have later := ih (fun other member => noRekey other (List.mem_cons_of_mem _ member))
        restReplayed
      exact ⟨later.1.trans first.1, later.2.trans first.2⟩

theorem accept_messages {sent : SentFrame} (accepted : view.accept P sessionId sent = some next) :
    view.messages <+: next.messages := by
  obtain ⟨_, absorbed⟩ := accept_some.mp accepted
  unfold absorb at absorbed
  repeat' split at absorbed
  all_goals cases absorbed
  all_goals first
    | exact List.prefix_rfl
    | exact List.prefix_append _ _

/-- Frames only add to the messages. -/
theorem replay_messages {frames : List SentFrame}
    (replayed : view.replay P sessionId frames = some final) :
    view.messages <+: final.messages := by
  induction frames generalizing view with
  | nil =>
      cases replayed
      exact List.prefix_rfl
  | cons sent rest ih =>
      obtain ⟨next, accepted, restReplayed⟩ := Machine.run_cons_some.mp replayed
      exact (accept_messages accepted).trans (ih restReplayed)

end View

end Usmp
