import Usmp.Session.Recv

/-!
# What the receive loop raises

Where each exception of the loop's body comes from, and which of the two `except` clauses
catches it over UDP.
-/

namespace Usmp

/-- What the first `except` clause of `recv` catches. -/
abbrev Exn.Malformed (exn : Exn) : Prop := exn.caughtBy [.usmpError, .structError] = true

/-- What the second `except` clause of `recv` catches. -/
abbrev Exn.Violation (exn : Exn) : Prop :=
  exn.caughtBy [.frameError, .sequenceError, .valueError] = true

/-! ## Before the frame is authentic -/

theorem decodeFrame_error {data : Bytes} {verifyCrc : Bool} {exn : Exn}
    (failed : decodeFrame data verifyCrc = .error exn) : exn.Malformed := by
  simp only [decodeFrame] at failed
  repeat' split at failed
  all_goals cases failed
  all_goals rfl

theorem readFrameLength_error {header : Bytes} {exn : Exn}
    (failed : readFrameLength header = .error exn) : exn.Malformed := by
  simp only [readFrameLength] at failed
  repeat' split at failed
  all_goals cases failed
  all_goals rfl

theorem readFramePayload_error {verifyCrc : Bool} {header buffer left : Bytes} {length : Nat}
    {exn : Exn}
    (failed : readFramePayload verifyCrc header length buffer = (.finished (.error exn), left)) :
    exn.Malformed := by
  unfold readFramePayload at failed
  split at failed
  · cases failed
  · apply decodeFrame_error
    have progress := congrArg Prod.fst failed
    simp only [ReadProgress.finished.injEq] at progress
    exact progress

/-- Whatever bytes arrive, `read_frame` raises nothing that escapes the first clause. -/
theorem readFrame_error {verifyCrc : Bool} {pending : Option Bytes} {buffer left : Bytes}
    {exn : Exn} (failed : readFrame verifyCrc pending buffer = (.finished (.error exn), left)) :
    exn.Malformed := by
  unfold readFrame at failed
  split at failed
  · exact readFramePayload_error failed
  split at failed
  · cases failed
  dsimp only at failed
  split at failed
  · rename_i rejected
    cases failed
    exact readFrameLength_error rejected
  · exact readFramePayload_error failed

theorem decrypt_error {P : Primitives} {key : Key} {nonce payload : Bytes}
    {seq type version magic length : Nat} {suite : CipherSuite} {exn : Exn}
    (failed : decrypt P key nonce seq type version magic length payload suite = .error exn) :
    exn.Malformed := by
  unfold decrypt at failed
  repeat' split at failed
  all_goals cases failed
  all_goals rfl

theorem openFrame_error {P : Primitives} {reliable : Bool} {info : SessionInfo}
    {result : Except Exn USMPFrame} {exn : Exn}
    (failed : openFrame P reliable info result = .error exn) :
    result = .error exn ∨ exn.Malformed := by
  unfold openFrame at failed
  split at failed
  · cases failed
    exact .inl rfl
  split at failed
  · cases failed
  split at failed
  · rename_i rejected
    cases failed
    exact .inr (decrypt_error rejected)
  · cases failed

/-- What is opened is the frame that was read. -/
theorem result_of_openFrame {P : Primitives} {reliable : Bool} {info : SessionInfo}
    {result : Except Exn USMPFrame} {frame : USMPFrame} {plaintext : Bytes}
    (opened : openFrame P reliable info result = .ok (some (frame, plaintext))) :
    result = .ok frame := by
  unfold openFrame at opened
  split at opened
  · cases opened
  split at opened
  · cases opened
  split at opened <;> cases opened
  rfl

/-! ## After it -/

theorem acceptSeq_error {info : SessionInfo} {seq : Nat} {exn : Exn}
    (failed : acceptSeq false info seq = .error exn) :
    maxSeq ≤ seq ∧ exn = ⟨.sequenceError, "RX sequence overflowed"⟩ := by
  unfold acceptSeq at failed
  split at failed
  · rename_i spent
    cases failed
    exact ⟨spent, rfl⟩
  split at failed
  · rename_i isReliable
    cases isReliable
  · cases failed

/-- The exception of the ninth control frame of a window. -/
def tooManyControls : Exn :=
  ⟨.connectionClosedError, "Too many consecutive control frames received"⟩

/-- The window ends a second after it began. -/
def RecvLocals.windowOpen (locals : RecvLocals) (now : Rat) : Prop :=
  now - locals.ctrlWindowStart ≤ 1

theorem countControl_error {locals : RecvLocals} {now : Rat} {exn : Exn}
    (failed : countControl locals now = .error exn) :
    exn = tooManyControls ∧ 8 ≤ locals.ctrlCount ∧ locals.windowOpen now := by
  by_cases expired : now - locals.ctrlWindowStart > 1
  · simp [countControl, expired] at failed
  · simp only [countControl, expired, if_false] at failed
    split at failed <;> cases failed
    rename_i many
    refine ⟨rfl, ?_, Rat.not_lt.mp expired⟩
    simp only [gt_iff_lt] at many
    omega

/-- A counted control frame is the next one of its window, or the first of a new window. -/
theorem countControl_ok {locals after : RecvLocals} {now : Rat}
    (counted : countControl locals now = .ok after) :
    (locals.windowOpen now ∧ after = { locals with ctrlCount := locals.ctrlCount + 1 }) ∨
      after = { locals with ctrlWindowStart := now, ctrlCount := 1 } := by
  by_cases expired : now - locals.ctrlWindowStart > 1
  · right
    simp only [countControl, expired, if_true] at counted
    split at counted <;> cases counted
    rfl
  · left
    simp only [countControl, expired, if_false] at counted
    split at counted <;> cases counted
    exact ⟨Rat.not_lt.mp expired, rfl⟩

theorem reassemble_error {locals : RecvLocals} {frame : USMPFrame} {plaintext : Bytes} {exn : Exn}
    (failed : reassemble locals frame plaintext = .error exn) : exn.Violation := by
  unfold reassemble at failed
  split at failed
  · cases failed
    rfl
  dsimp only at failed
  split at failed
  · cases failed
  split at failed
  · cases failed
    rfl
  · cases failed

/-- What `recv` raises for an authentic frame is a violation, except for a BYE and for a PONG
too many. -/
theorem handleFrame_error {P : Primitives} {info : SessionInfo} {locals : RecvLocals} {now : Rat}
    {frame : USMPFrame} {plaintext : Bytes} {exn : Exn}
    (failed : handleFrame P info locals now frame plaintext = .error exn) :
    (frame.type = .bye ∧ exn = ⟨.connectionClosedError, "Remote sent BYE"⟩) ∨
      (frame.type = .pong ∧ locals.assembledPayload = [] ∧
        countControl locals now = .error exn) ∨
      exn.Violation := by
  unfold handleFrame at failed
  split at failed
  · rename_i isBye
    cases failed
    exact .inl ⟨isBye, rfl⟩
  right
  split at failed
  · rename_i control
    split at failed
    · cases failed
      exact .inr rfl
    rename_i empty
    split at failed
    · cases failed
    rename_i notPing
    split at failed
    · rename_i tooMany
      cases failed
      refine .inl ⟨control.resolve_left notPing, ?_, tooMany⟩
      exact List.eq_nil_of_length_eq_zero (by omega)
    · cases failed
  right
  split at failed
  · split at failed
    · cases failed
      rfl
    split at failed
    · cases failed
      rfl
    · cases failed
  split at failed
  · cases failed
    rfl
  split at failed
  · rename_i rejected
    cases failed
    exact reassemble_error rejected
  · cases failed

/-- A PONG outside a message is counted. -/
theorem handleFrame_pong {P : Primitives} {info : SessionInfo} {locals : RecvLocals} {now : Rat}
    {frame : USMPFrame} {plaintext : Bytes} (isPong : frame.type = .pong)
    (outside : locals.assembledPayload = []) :
    handleFrame P info locals now frame plaintext =
      (countControl locals now).map fun after => (info, [], .next after) := by
  simp only [handleFrame, isPong, outside, List.length_nil, reduceCtorEq, if_false, or_true,
    if_true, Nat.lt_irrefl, gt_iff_lt]
  cases countControl locals now <;> rfl

theorem reassemble_controls {locals : RecvLocals} {frame : USMPFrame} {plaintext : Bytes}
    {step : RecvStep} (joined : reassemble locals frame plaintext = .ok step) :
    (∃ payload, step = .returned payload) ∨
      ∃ after, step = .next after ∧ after.ctrlCount = locals.ctrlCount ∧
        after.ctrlWindowStart = locals.ctrlWindowStart := by
  unfold reassemble at joined
  split at joined
  · cases joined
  dsimp only at joined
  split at joined
  · cases joined
    exact .inl ⟨_, rfl⟩
  split at joined <;> cases joined
  exact .inr ⟨_, rfl, rfl, rfl⟩

/-- No other frame touches the budget of control frames at once: a PING does when its answer
is sent. -/
theorem handleFrame_controls {P : Primitives} {info after : SessionInfo} {locals : RecvLocals}
    {now : Rat} {frame : USMPFrame} {plaintext : Bytes} {calls : List TransportCall}
    {step : RecvStep}
    (handled : handleFrame P info locals now frame plaintext = .ok (after, calls, step))
    (uncounted : ¬ (frame.type = .pong ∧ locals.assembledPayload = [])) :
    step = .pong locals ∨ (∃ payload, step = .returned payload) ∨
      ∃ after, step = .next after ∧ after.ctrlCount = locals.ctrlCount ∧
        after.ctrlWindowStart = locals.ctrlWindowStart := by
  unfold handleFrame at handled
  split at handled
  · cases handled
  split at handled
  · rename_i control
    split at handled
    · cases handled
    rename_i empty
    split at handled
    · cases handled
      exact .inl rfl
    · rename_i notPing
      refine absurd ⟨control.resolve_left notPing, ?_⟩ uncounted
      exact List.eq_nil_of_length_eq_zero (by omega)
  right
  split at handled
  · split at handled
    · cases handled
    split at handled <;> cases handled
    exact .inr ⟨locals, rfl, rfl, rfl⟩
  split at handled
  · cases handled
  split at handled <;> cases handled
  rename_i joined
  exact reassemble_controls joined

/-- Over UDP a violation costs the partial message and nothing else. -/
theorem onViolation_of_violation (locals : RecvLocals) {exn : Exn} (violation : exn.Violation) :
    onViolation false locals exn = .next locals.dropPartial := by
  simp [onViolation, violation]

theorem onViolation_of_not_violation (locals : RecvLocals) {exn : Exn}
    (escapes : ¬ exn.Violation) : onViolation false locals exn = .raised exn := by
  simp [onViolation, escapes]

theorem pongSent_cases (locals : RecvLocals) (now : Rat) :
    (∃ after, countControl locals now = .ok after ∧ pongSent false locals now = .next after) ∨
      countControl locals now = .error tooManyControls ∧
        pongSent false locals now = .raised tooManyControls := by
  unfold pongSent
  cases counted : countControl locals now with
  | ok after => exact .inl ⟨after, rfl, rfl⟩
  | error exn =>
      rw [(countControl_error counted).1]
      exact .inr ⟨rfl, onViolation_of_not_violation locals (by decide)⟩

end Usmp
