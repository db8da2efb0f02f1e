import Usmp.Crypto

/-!
# One turn of the receive loop

`USMPSession.recv` loops over frames.  This module models what the loop does
with one result of `read_frame`, from the await that delivered it to the next
await, the return or the exception.  The loop's local variables are explicit in
`RecvLocals`; the session parameters that it reads and writes are `SessionInfo`.
Times are readings of `time.monotonic`, as exact rationals.
-/

namespace Usmp

/-- Calls on the transport other than reading and writing frames. -/
inductive TransportCall where
  | setSessionKeys (txKey rxKey : Key)
  | confirmAuthenticated (seq : Nat)
  | close
  deriving DecidableEq, Repr

/-- The local variables of `_recv_internal`. -/
structure RecvLocals where
  assembledPayload : Bytes := []
  frameCount : Nat := 0
  ctrlCount : Nat := 0
  ctrlWindowStart : Rat
  expectedFragSeq : Nat := 0
  deriving DecidableEq, Repr

namespace RecvLocals

/-- The locals after a dropped protocol violation. -/
def dropPartial (locals : RecvLocals) : RecvLocals :=
  { locals with assembledPayload := [], frameCount := 0, expectedFragSeq := 0 }

end RecvLocals

/-- Where the loop goes after one result of `read_frame`. -/
inductive RecvStep where
  /-- Back to `read_frame`. -/
  | next (locals : RecvLocals)
  /-- `await self._send_pong()`. -/
  | pong (locals : RecvLocals)
  | returned (payload : Bytes)
  | raised (exn : Exn)
  deriving DecidableEq, Repr

/-! ## Sequence numbers -/

/-- The sliding-window check for UDP: whether the frame is dropped silently,
because it is too old or its sequence is marked. -/
def replayDrops (info : SessionInfo) (seq : Nat) : Bool :=
  if (seq : Int) ≤ (info.rxSeq : Int) - 64 then
    true
  else if seq ≤ info.rxSeq then
    let offset := info.rxSeq - seq
    (info.rxWindowBitmap &&& (1 <<< offset)) != 0
  else
    false

/-- The sliding-window update on successful verification. -/
def markReceived (info : SessionInfo) (seq : Nat) : SessionInfo :=
  if seq > info.rxSeq then
    let shift := seq - info.rxSeq
    { info with
      rxWindowBitmap :=
        if shift < 64 then
          ((info.rxWindowBitmap <<< shift) &&& 0xFFFFFFFFFFFFFFFF) ||| 1
        else
          1
      rxSeq := seq }
  else
    let offset := info.rxSeq - seq
    { info with rxWindowBitmap := info.rxWindowBitmap ||| (1 <<< offset) }

/-- The sequence handling of an authentic frame. -/
def acceptSeq (reliable : Bool) (info : SessionInfo) (seq : Nat) :
    Except Exn (SessionInfo × List TransportCall) :=
  if seq ≥ maxSeq then
    .error ⟨.sequenceError, "RX sequence overflowed"⟩
  else if reliable then
    if seq ≠ info.rxSeq then
      .error ⟨.sequenceError, s!"Sequence mismatch: expected {info.rxSeq}, got {seq}"⟩
    else
      -- `confirm_authenticated` is not called over TCP
      .ok ({ info with rxSeq := info.rxSeq + 1 }, [])
  else
    .ok (markReceived info seq, [.confirmAuthenticated seq])

/-! ## Authentication -/

/-- The body of the first `try`: `none` is a frame that the window drops. -/
def openFrame (P : Primitives) (reliable : Bool) (info : SessionInfo)
    (result : Except Exn USMPFrame) : Except Exn (Option (USMPFrame × Bytes)) :=
  match result with
  | .error exn => .error exn
  | .ok frame =>
      if !reliable && replayDrops info frame.seq then
        .ok none
      else
        match decrypt P info.rxKey (packNonce frame.seq info.sessionId) frame.seq
            frame.type.toNat frame.version frame.magic frame.length frame.payload
            info.cipherSuite with
        | .error exn => .error exn
        | .ok plaintext => .ok (some (frame, plaintext))

/-! ## Frame types -/

/-- The control-frame budget of 8 frames in a window of one second. -/
def countControl (locals : RecvLocals) (now : Rat) : Except Exn RecvLocals :=
  let expired := now - locals.ctrlWindowStart > 1
  let locals :=
    if expired then { locals with ctrlWindowStart := now, ctrlCount := 0 } else locals
  let locals := { locals with ctrlCount := locals.ctrlCount + 1 }
  if locals.ctrlCount > 8 then
    .error ⟨.connectionClosedError, "Too many consecutive control frames received"⟩
  else
    .ok locals

/-- The session parameters after a key rotation. -/
def SessionInfo.rotated (info : SessionInfo) (keys : Key × Key) : SessionInfo :=
  { info with txKey := keys.1, rxKey := keys.2, txSeq := 0, rxSeq := 0, rxWindowBitmap := 0 }

/-- The reassembly of DATA and DATA_FRAG frames. -/
def reassemble (locals : RecvLocals) (frame : USMPFrame) (plaintext : Bytes) :
    Except Exn RecvStep :=
  if locals.frameCount > 0 ∧ frame.seq ≠ locals.expectedFragSeq then
    .error ⟨.sequenceError, "Protocol error: out-of-order fragment sequence"⟩
  else
    let locals :=
      { locals with
        expectedFragSeq :=
          if locals.frameCount > 0 then locals.expectedFragSeq + 1 else frame.seq + 1
        assembledPayload := locals.assembledPayload ++ plaintext
        frameCount := locals.frameCount + 1 }
    if frame.type = .data then
      .ok (.returned locals.assembledPayload)
    else if locals.frameCount ≥ usmpMaxFrames then
      .error ⟨.payloadError, "Protocol error: exceeded max fragments limit"⟩
    else
      .ok (.next locals)

/-- The body of the second `try`, up to the await of `_send_pong` for a PING. -/
def handleFrame (P : Primitives) (info : SessionInfo) (locals : RecvLocals) (now : Rat)
    (frame : USMPFrame) (plaintext : Bytes) :
    Except Exn (SessionInfo × List TransportCall × RecvStep) :=
  if frame.type = .bye then
    .error ⟨.connectionClosedError, "Remote sent BYE"⟩
  else if frame.type = .ping ∨ frame.type = .pong then
    if locals.assembledPayload.length > 0 then
      .error ⟨.sequenceError,
        s!"Protocol error: {frame.type.name} received during fragmentation"⟩
    else if frame.type = .ping then
      .ok (info, [], .pong locals)
    else
      match countControl locals now with
      | .error exn => .error exn
      | .ok locals => .ok (info, [], .next locals)
  else if frame.type = .rekey then
    if locals.assembledPayload.length > 0 then
      .error ⟨.sequenceError, "Protocol error: REKEY received during fragmentation"⟩
    else if plaintext.length ≠ 32 then
      .error ⟨.payloadError, "Invalid REKEY payload length"⟩
    else
      let keys := deriveRekeyKeys P false info.txKey info.rxKey info.sessionId plaintext
      .ok (info.rotated keys, [.setSessionKeys keys.1 keys.2], .next locals)
  else if frame.type ≠ .data ∧ frame.type ≠ .dataFrag then
    .error ⟨.valueError, s!"Unexpected frame type: {frame.type.name}"⟩
  else
    match reassemble locals frame plaintext with
    | .error exn => .error exn
    | .ok step => .ok (info, [], step)

/-- The handler of the second `try`: over UDP a violation drops the partial
message and the loop goes on. -/
def onViolation (reliable : Bool) (locals : RecvLocals) (exn : Exn) : RecvStep :=
  if !reliable && exn.caughtBy [.frameError, .sequenceError, .valueError] then
    .next locals.dropPartial
  else
    .raised exn

/-- The second `try` after `_send_pong` returned. -/
def pongSent (reliable : Bool) (locals : RecvLocals) (now : Rat) : RecvStep :=
  match countControl locals now with
  | .error exn => onViolation reliable locals exn
  | .ok locals => .next locals

/-! ## The turn -/

/-- What one result of `read_frame` does. -/
structure RecvTurn where
  info : SessionInfo
  calls : List TransportCall
  /-- Whether `_last_recv` is set: the frame was authentic. -/
  authenticated : Bool
  step : RecvStep

/-- The keys that the turn installs, if any. -/
def RecvTurn.rotations (turn : RecvTurn) : List (Key × Key) :=
  turn.calls.filterMap fun
    | .setSessionKeys txKey rxKey => some (txKey, rxKey)
    | .confirmAuthenticated _ | .close => none

def recvTurn (P : Primitives) (reliable : Bool) (info : SessionInfo) (locals : RecvLocals)
    (now : Rat) (result : Except Exn USMPFrame) : RecvTurn :=
  match openFrame P reliable info result with
  | .error exn =>
      if !reliable && exn.caughtBy [.usmpError, .structError] then
        ⟨info, [], false, .next locals⟩
      else
        ⟨info, [], false, .raised exn⟩
  | .ok none => ⟨info, [], false, .next locals⟩
  | .ok (some (frame, plaintext)) =>
      match acceptSeq reliable info frame.seq with
      | .error exn => ⟨info, [], true, .raised exn⟩
      | .ok (info, calls) =>
          match handleFrame P info locals now frame plaintext with
          | .error exn => ⟨info, calls, true, onViolation reliable locals exn⟩
          | .ok (info, moreCalls, step) => ⟨info, calls ++ moreCalls, true, step⟩

/-! ## What a turn changes -/

/-- Everything but the receive sequence and its window. -/
structure SameKeys (before after : SessionInfo) : Prop where
  sessionId : after.sessionId = before.sessionId
  cipherSuite : after.cipherSuite = before.cipherSuite
  txKey : after.txKey = before.txKey
  rxKey : after.rxKey = before.rxKey
  txSeq : after.txSeq = before.txSeq

theorem SameKeys.refl (info : SessionInfo) : SameKeys info info := ⟨rfl, rfl, rfl, rfl, rfl⟩

theorem sameKeys_markReceived (info : SessionInfo) (seq : Nat) :
    SameKeys info (markReceived info seq) := by
  unfold markReceived
  split <;> exact ⟨rfl, rfl, rfl, rfl, rfl⟩

theorem acceptSeq_ok {reliable : Bool} {info after : SessionInfo} {seq : Nat}
    {calls : List TransportCall} (accepted : acceptSeq reliable info seq = .ok (after, calls)) :
    seq < maxSeq ∧
      ((reliable = true ∧ seq = info.rxSeq ∧ after = { info with rxSeq := info.rxSeq + 1 } ∧
          calls = []) ∨
        (reliable = false ∧ after = markReceived info seq ∧
          calls = [.confirmAuthenticated seq])) := by
  unfold acceptSeq at accepted
  split at accepted
  · cases accepted
  · rename_i below
    split at accepted
    · rename_i isReliable
      split at accepted
      · cases accepted
      · rename_i inOrder
        cases accepted
        exact ⟨Nat.lt_of_not_le below, .inl ⟨isReliable, not_not.mp inOrder, rfl, rfl⟩⟩
    · rename_i isUnreliable
      cases accepted
      exact ⟨Nat.lt_of_not_le below, .inr ⟨by simpa using isUnreliable, rfl, rfl⟩⟩

theorem sameKeys_acceptSeq {reliable : Bool} {info after : SessionInfo} {seq : Nat}
    {calls : List TransportCall} (accepted : acceptSeq reliable info seq = .ok (after, calls)) :
    SameKeys info after := by
  obtain ⟨_, ⟨_, _, rfl, _⟩ | ⟨_, rfl, _⟩⟩ := acceptSeq_ok accepted
  · exact ⟨rfl, rfl, rfl, rfl, rfl⟩
  · exact sameKeys_markReceived info seq

/-- Handling a frame rotates the keys exactly for an accepted REKEY. -/
theorem handleFrame_ok {P : Primitives} {info after : SessionInfo} {locals : RecvLocals}
    {now : Rat} {frame : USMPFrame} {plaintext : Bytes} {calls : List TransportCall}
    {step : RecvStep}
    (handled : handleFrame P info locals now frame plaintext = .ok (after, calls, step)) :
    (frame.type ≠ .rekey ∧ after = info ∧ calls = []) ∨
      ∃ keys, frame.type = .rekey ∧ locals.assembledPayload = [] ∧ plaintext.length = 32 ∧
        keys = deriveRekeyKeys P false info.txKey info.rxKey info.sessionId plaintext ∧
        after = info.rotated keys ∧ calls = [.setSessionKeys keys.1 keys.2] ∧
        step = .next locals := by
  unfold handleFrame at handled
  split at handled
  · cases handled
  split at handled
  · rename_i control
    have notRekey : frame.type ≠ .rekey := by
      rcases control with isPing | isPong <;> simp [*]
    split at handled
    · cases handled
    split at handled
    · cases handled
      exact .inl ⟨notRekey, rfl, rfl⟩
    · split at handled <;> cases handled
      exact .inl ⟨notRekey, rfl, rfl⟩
  split at handled
  · rename_i isRekey
    split at handled
    · cases handled
    rename_i nothingAssembled
    split at handled
    · cases handled
    rename_i rightLength
    cases handled
    refine .inr ⟨_, isRekey, ?_, not_not.mp rightLength, rfl, rfl, rfl, rfl⟩
    exact List.eq_nil_of_length_eq_zero (by omega)
  · rename_i notRekey
    split at handled
    · cases handled
    · split at handled <;> cases handled
      exact .inl ⟨notRekey, rfl, rfl⟩

/-- A turn of the loop leaves the keys and the send sequence alone, or it installs
one new pair of keys and resets the sequences. -/
theorem recvTurn_keys (P : Primitives) (reliable : Bool) (info : SessionInfo)
    (locals : RecvLocals) (now : Rat) (result : Except Exn USMPFrame) :
    (SameKeys info (recvTurn P reliable info locals now result).info ∧
        (recvTurn P reliable info locals now result).rotations = []) ∨
      ∃ salt keys, keys = deriveRekeyKeys P false info.txKey info.rxKey info.sessionId salt ∧
        (recvTurn P reliable info locals now result).info = info.rotated keys ∧
        (recvTurn P reliable info locals now result).rotations = [keys] := by
  unfold recvTurn
  split
  · split <;> exact .inl ⟨.refl info, rfl⟩
  · exact .inl ⟨.refl info, rfl⟩
  split
  · exact .inl ⟨.refl info, rfl⟩
  rename_i frame plaintext _ _ after calls accepted
  have same := sameKeys_acceptSeq accepted
  have noRotation : (calls.filterMap fun
      | .setSessionKeys txKey rxKey => some (txKey, rxKey)
      | .confirmAuthenticated _ | .close => none) = [] := by
    obtain ⟨_, ⟨_, _, _, rfl⟩ | ⟨_, _, rfl⟩⟩ := acceptSeq_ok accepted <;> rfl
  split
  · exact .inl ⟨same, noRotation⟩
  · rename_i handled
    obtain ⟨_, rfl, rfl⟩ | ⟨keys, _, _, _, derived, rfl, rfl, _⟩ := handleFrame_ok handled
    · refine .inl ⟨same, ?_⟩
      simpa [RecvTurn.rotations] using noRotation
    · refine .inr ⟨plaintext, keys, ?_, ?_, ?_⟩
      · rw [derived, same.txKey, same.rxKey, same.sessionId]
      · rcases acceptSeq_ok accepted with ⟨_, ⟨_, _, rfl, _⟩ | ⟨_, rfl, _⟩⟩
        · rfl
        · unfold markReceived
          split <;> rfl
      · rw [RecvTurn.rotations, List.filterMap_append, noRotation]
        rfl

end Usmp
