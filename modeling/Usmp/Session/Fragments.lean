import Usmp.Session.Exceptions

/-!
# Fragments of a message

What `recv` does with a frame that it accepts, and what it holds of a message: positions in a
log of accepted frames.  A message is contiguous if these are fragments of one key epoch with
consecutive sequences and no control frame was accepted between them.
-/

namespace Usmp

/-! ## What handling a frame does -/

/-- The locals after a fragment was joined. -/
def RecvLocals.joined (locals : RecvLocals) (seq : Nat) (plaintext : Bytes) : RecvLocals :=
  { locals with
    expectedFragSeq :=
      if locals.frameCount > 0 then locals.expectedFragSeq + 1 else seq + 1
    assembledPayload := locals.assembledPayload ++ plaintext
    frameCount := locals.frameCount + 1 }

/-- The frames that `recv` handles without a violation, and what it does with them. -/
inductive Handled (info : SessionInfo) (locals : RecvLocals) (frame : USMPFrame)
    (plaintext : Bytes) : SessionInfo × List TransportCall × RecvStep → Prop where
  | ping (isPing : frame.type = .ping) :
      Handled info locals frame plaintext (info, [], .pong locals)
  | pong (after : RecvLocals) (isPong : frame.type = .pong)
      (message : after.assembledPayload = locals.assembledPayload ∧
        after.frameCount = locals.frameCount ∧ after.expectedFragSeq = locals.expectedFragSeq) :
      Handled info locals frame plaintext (info, [], .next after)
  | rekey (keys : Key × Key) (isRekey : frame.type = .rekey) :
      Handled info locals frame plaintext
        (info.rotated keys, [.setSessionKeys keys.1 keys.2], .next locals)
  | data (isData : frame.type = .data)
      (inOrder : locals.frameCount > 0 → frame.seq = locals.expectedFragSeq) :
      Handled info locals frame plaintext
        (info, [], .returned (locals.assembledPayload ++ plaintext))
  | fragment (isFragment : frame.type = .dataFrag)
      (inOrder : locals.frameCount > 0 → frame.seq = locals.expectedFragSeq)
      (few : locals.frameCount + 1 < usmpMaxFrames) :
      Handled info locals frame plaintext (info, [], .next (locals.joined frame.seq plaintext))

theorem countControl_message {locals after : RecvLocals} {now : Rat}
    (counted : countControl locals now = .ok after) :
    after.assembledPayload = locals.assembledPayload ∧
      after.frameCount = locals.frameCount ∧ after.expectedFragSeq = locals.expectedFragSeq := by
  rcases countControl_ok counted with ⟨_, rfl⟩ | rfl <;> exact ⟨rfl, rfl, rfl⟩

theorem handled_of_handleFrame {P : Primitives} {info : SessionInfo} {locals : RecvLocals}
    {now : Rat} {frame : USMPFrame} {plaintext : Bytes}
    {result : SessionInfo × List TransportCall × RecvStep}
    (handled : handleFrame P info locals now frame plaintext = .ok result) :
    Handled info locals frame plaintext result := by
  unfold handleFrame at handled
  split at handled
  · cases handled
  split at handled
  · rename_i control
    split at handled
    · cases handled
    split at handled
    · rename_i isPing
      cases handled
      exact .ping isPing
    · rename_i notPing
      split at handled <;> cases handled
      rename_i counted
      exact .pong _ (control.resolve_left notPing) (countControl_message counted)
  split at handled
  · rename_i isRekey
    split at handled
    · cases handled
    split at handled <;> cases handled
    exact .rekey _ isRekey
  split at handled
  · cases handled
  rename_i isMessage
  split at handled <;> cases handled
  rename_i step joined
  unfold reassemble at joined
  split at joined
  · cases joined
  rename_i order
  have inOrder : locals.frameCount > 0 → frame.seq = locals.expectedFragSeq := by
    intro some
    by_contra other
    exact order ⟨some, other⟩
  dsimp only at joined
  split at joined
  · rename_i isData
    cases joined
    exact .data isData inOrder
  rename_i notData
  split at joined <;> cases joined
  rename_i few
  refine .fragment ?_ inOrder (Nat.not_le.mp few)
  by_contra other
  exact isMessage ⟨notData, other⟩

/-! ## The accepted frame of a turn -/

/-- The frame that one result of `read_frame` makes `recv` accept: it is authentic and in
sequence, and its handling raises nothing. -/
def acceptedFrame (P : Primitives) (reliable : Bool) (info : SessionInfo) (locals : RecvLocals)
    (now : Rat) (result : Except Exn USMPFrame) : Option (USMPFrame × Bytes) :=
  match openFrame P reliable info result with
  | .ok (some (frame, plaintext)) =>
      match acceptSeq reliable info frame.seq with
      | .ok (marked, _) =>
          match handleFrame P marked locals now frame plaintext with
          | .ok _ => some (frame, plaintext)
          | .error _ => none
      | .error _ => none
  | .ok none | .error _ => none

/-- What a turn does that accepts no frame. -/
structure Refused (reliable : Bool) (info : SessionInfo) (locals : RecvLocals)
    (turn : RecvTurn) : Prop where
  rotations : turn.rotations = []
  rxSeq : reliable = true → info.rxSeq ≤ turn.info.rxSeq
  step : turn.step = .next locals ∨ turn.step = .next locals.dropPartial ∨
    ∃ exn, turn.step = .raised exn

/-- What a turn does that accepts a frame. -/
structure AcceptedTurn (reliable : Bool) (info : SessionInfo) (locals : RecvLocals)
    (frame : USMPFrame) (plaintext : Bytes) (turn : RecvTurn) (marked : SessionInfo)
    (calls : List TransportCall) : Prop where
  handled : Handled marked locals frame plaintext (turn.info, calls, turn.step)
  rotations : (frame.type ≠ .rekey ∧ turn.rotations = []) ∨
    frame.type = .rekey ∧ ∃ keys, turn.rotations = [keys]
  rxSeq : reliable = true → frame.seq = info.rxSeq ∧ marked.rxSeq = info.rxSeq + 1

/-- The window update of UDP is not looked at here. -/
theorem acceptSeq_rxSeq {reliable : Bool} {info marked : SessionInfo} {seq : Nat}
    {calls : List TransportCall} (accepted : acceptSeq reliable info seq = .ok (marked, calls))
    (isReliable : reliable = true) : seq = info.rxSeq ∧ marked.rxSeq = info.rxSeq + 1 := by
  rcases (acceptSeq_ok accepted).2 with ⟨_, inOrder, rfl, _⟩ | ⟨unreliable, _⟩
  · exact ⟨inOrder, rfl⟩
  · rw [isReliable] at unreliable
    cases unreliable

theorem onViolation_cases (reliable : Bool) (locals : RecvLocals) (exn : Exn) :
    onViolation reliable locals exn = .next locals.dropPartial ∨
      onViolation reliable locals exn = .raised exn := by
  unfold onViolation
  split
  · exact .inl rfl
  · exact .inr rfl

/-- Accepting a sequence installs no keys. -/
theorem acceptSeq_rotations {reliable : Bool} {info marked : SessionInfo} {seq : Nat}
    {calls : List TransportCall} (accepted : acceptSeq reliable info seq = .ok (marked, calls))
    (more : List TransportCall) (after : SessionInfo) (step : RecvStep) :
    RecvTurn.rotations ⟨after, calls ++ more, true, step⟩ =
      RecvTurn.rotations ⟨after, more, true, step⟩ := by
  rcases (acceptSeq_ok accepted).2 with ⟨_, _, _, rfl⟩ | ⟨_, _, rfl⟩ <;> rfl

theorem refused_turn {P : Primitives} {reliable : Bool} {info : SessionInfo} {locals : RecvLocals}
    {now : Rat} {result : Except Exn USMPFrame}
    (refused : acceptedFrame P reliable info locals now result = none) :
    Refused reliable info locals (recvTurn P reliable info locals now result) := by
  unfold acceptedFrame at refused
  unfold recvTurn
  split
  · split
    · exact ⟨rfl, fun _ => Nat.le_refl _, .inl rfl⟩
    · exact ⟨rfl, fun _ => Nat.le_refl _, .inr (.inr ⟨_, rfl⟩)⟩
  · exact ⟨rfl, fun _ => Nat.le_refl _, .inl rfl⟩
  rename_i frame plaintext opened
  simp only [opened] at refused
  split
  · exact ⟨rfl, fun _ => Nat.le_refl _, .inr (.inr ⟨_, rfl⟩)⟩
  rename_i marked calls accepted
  simp only [accepted] at refused
  split
  · rename_i exn violated
    have rotations := acceptSeq_rotations accepted [] marked (onViolation reliable locals exn)
    rw [List.append_nil] at rotations
    refine ⟨rotations, ?_, ?_⟩
    · intro isReliable
      rw [(acceptSeq_rxSeq accepted isReliable).2]
      exact Nat.le_succ _
    · rcases onViolation_cases reliable locals exn with dropped | raised
      · exact .inr (.inl dropped)
      · exact .inr (.inr ⟨exn, raised⟩)
  · rename_i handled
    simp only [handled] at refused
    cases refused

theorem accepted_turn {P : Primitives} {reliable : Bool} {info : SessionInfo}
    {locals : RecvLocals} {now : Rat} {result : Except Exn USMPFrame} {frame : USMPFrame}
    {plaintext : Bytes}
    (isAccepted : acceptedFrame P reliable info locals now result = some (frame, plaintext)) :
    ∃ marked calls, AcceptedTurn reliable info locals frame plaintext
      (recvTurn P reliable info locals now result) marked calls := by
  unfold acceptedFrame at isAccepted
  split at isAccepted <;> try cases isAccepted
  rename_i opened
  split at isAccepted <;> try cases isAccepted
  rename_i marked calls accepted
  split at isAccepted <;> cases isAccepted
  rename_i outcome handling
  rcases outcome with ⟨after, moreCalls, step⟩
  have handled := handled_of_handleFrame handling
  refine ⟨marked, moreCalls, ?_⟩
  simp only [recvTurn, opened, accepted, handling]
  refine ⟨handled, ?_, acceptSeq_rxSeq accepted⟩
  rw [acceptSeq_rotations accepted moreCalls after step]
  cases handled with
  | rekey keys isRekey => exact .inr ⟨isRekey, keys, rfl⟩
  | ping isPing => exact .inl ⟨by simp [isPing], rfl⟩
  | pong counted isPong message => exact .inl ⟨by simp [isPong], rfl⟩
  | data isData inOrder => exact .inl ⟨by simp [isData], rfl⟩
  | fragment isFragment inOrder few => exact .inl ⟨by simp [isFragment], rfl⟩

/-! ## Positions in a growing log -/

/-- The log has these items at these positions. -/
def Picks {α : Type} (log : List α) (positions : List Nat) (items : List α) : Prop :=
  positions.map (fun position => log[position]?) = items.map some

theorem Picks.lt_length {α : Type} {log items : List α} {positions : List Nat}
    (picks : Picks log positions items) {position : Nat} (member : position ∈ positions) :
    position < log.length := by
  have isItem : log[position]? ∈ items.map some := by
    rw [← picks]
    exact List.mem_map_of_mem member
  rcases List.mem_map.mp isItem with ⟨item, _, found⟩
  exact (List.getElem?_eq_some_iff.mp found.symm).1

theorem Picks.append {α : Type} {log items : List α} {positions : List Nat}
    (picks : Picks log positions items) (more : List α) :
    Picks (log ++ more) positions items := by
  rw [Picks, ← picks]
  apply List.map_congr_left
  intro position member
  exact List.getElem?_append_left (picks.lt_length member)

theorem Picks.snoc {α : Type} {log items : List α} {positions : List Nat}
    (picks : Picks log positions items) (item : α) :
    Picks (log ++ [item]) (positions ++ [log.length]) (items ++ [item]) := by
  have before := picks.append [item]
  rw [Picks] at before ⊢
  rw [List.map_append, List.map_append, before]
  simp

theorem Picks.length_eq {α : Type} {log items : List α} {positions : List Nat}
    (picks : Picks log positions items) : positions.length = items.length := by
  simpa using congrArg List.length picks

/-! ## The log of accepted frames -/

/-- PING, PONG and REKEY. -/
def PacketType.isControl (type : PacketType) : Bool :=
  type = .ping || type = .pong || type = .rekey

/-- The guards let a control frame pass only while nothing is assembled. -/
theorem handleFrame_guarded {P : Primitives} {info : SessionInfo} {locals : RecvLocals}
    {now : Rat} {frame : USMPFrame} {plaintext : Bytes}
    {result : SessionInfo × List TransportCall × RecvStep}
    (handled : handleFrame P info locals now frame plaintext = .ok result)
    (control : frame.type.isControl = true) : locals.assembledPayload = [] := by
  have nothing : ¬ locals.assembledPayload.length > 0 → locals.assembledPayload = [] := by
    intro none
    exact List.eq_nil_of_length_eq_zero (Nat.eq_zero_of_not_pos none)
  unfold handleFrame at handled
  split at handled
  · cases handled
  split at handled
  · split at handled
    · cases handled
    · rename_i none
      exact nothing none
  rename_i notPingPong
  split at handled
  · split at handled
    · cases handled
    · rename_i none
      exact nothing none
  · rename_i notRekey
    simp only [PacketType.isControl, Bool.or_eq_true, decide_eq_true_eq] at control
    rcases control with isPingPong | isRekey
    · exact absurd isPingPong notPingPong
    · exact absurd isRekey notRekey

/-- An accepted frame was opened, and a control frame has passed the guards. -/
theorem acceptedFrame_opened {P : Primitives} {reliable : Bool} {info : SessionInfo}
    {locals : RecvLocals} {now : Rat} {result : Except Exn USMPFrame} {frame : USMPFrame}
    {plaintext : Bytes}
    (isAccepted : acceptedFrame P reliable info locals now result = some (frame, plaintext)) :
    openFrame P reliable info result = .ok (some (frame, plaintext)) ∧
      (frame.type.isControl = true → locals.assembledPayload = []) := by
  unfold acceptedFrame at isAccepted
  split at isAccepted <;> try cases isAccepted
  rename_i opened
  split at isAccepted <;> try cases isAccepted
  split at isAccepted <;> cases isAccepted
  rename_i handled
  exact ⟨opened, handleFrame_guarded handled⟩

structure Accepted where
  /-- The number of key pairs that the session had held. -/
  epoch : Nat
  type : PacketType
  seq : Nat
  plaintext : Bytes
  deriving DecidableEq, Repr

/-- No control frame was accepted since the first of these positions. -/
def Quiet (log : List Accepted) (parts : List Nat) : Prop :=
  ∀ part ∈ parts, ∀ (position : Nat) (item : Accepted), part ≤ position →
    log[position]? = some item → item.type.isControl = false

/-- The frames of one message: at most three DATA_FRAG and one DATA, of one key epoch, with
consecutive sequences and no control frame between them. -/
structure Contiguous (log : List Accepted) (parts : List Nat) (payload : Bytes) : Prop where
  frames : ∃ (frames : List Accepted) (fragments epoch first : Nat), Picks log parts frames ∧
    payload = frames.flatMap Accepted.plaintext ∧ fragments ≤ 3 ∧
    frames.map Accepted.type = List.replicate fragments .dataFrag ++ [.data] ∧
    (∀ frame ∈ frames, frame.epoch = epoch) ∧
    frames.map Accepted.seq = List.range' first (fragments + 1)
  between : ∀ part ∈ parts, ∀ last ∈ parts, ∀ (position : Nat) (item : Accepted),
    part ≤ position → position ≤ last → log[position]? = some item →
    item.type.isControl = false

theorem Contiguous.append {log : List Accepted} {parts : List Nat} {payload : Bytes}
    (contiguous : Contiguous log parts payload) (more : List Accepted) :
    Contiguous (log ++ more) parts payload := by
  rcases contiguous.frames with ⟨frames, fragments, epoch, first, picks, rest⟩
  refine ⟨⟨frames, fragments, epoch, first, picks.append more, rest⟩, ?_⟩
  intro part member last isLast position item after notAfter found
  rw [List.getElem?_append_left (Nat.lt_of_le_of_lt notAfter (picks.lt_length isLast))] at found
  exact contiguous.between part member last isLast position item after notAfter found

/-- What a `recv` holds of a message: fragments of the current key epoch with consecutive
sequences.  A control frame among them has taken the sequence over TCP that the next
fragment needs. -/
structure Holds (reliable : Bool) (epoch rxSeq : Nat) (log : List Accepted)
    (locals : RecvLocals) (parts : List Nat) : Prop where
  collected : ∃ (frames : List Accepted) (first : Nat), Picks log parts frames ∧
    locals.assembledPayload = frames.flatMap Accepted.plaintext ∧
    locals.frameCount = frames.length ∧
    (∀ frame ∈ frames, frame.type = .dataFrag ∧ frame.epoch = epoch) ∧
    frames.map Accepted.seq = List.range' first frames.length ∧
    locals.expectedFragSeq = first + frames.length
  few : locals.frameCount < usmpMaxFrames
  atStart : locals.frameCount = 0 → locals.expectedFragSeq = 0
  received : reliable = true → locals.expectedFragSeq ≤ rxSeq
  quiet : Quiet log parts ∨ (reliable = true ∧ locals.expectedFragSeq < rxSeq)

/-- A `recv` that holds no fragment holds no position. -/
def heldBy (locals : Option RecvLocals) (positions : List Nat) : List Nat :=
  match locals with
  | some locals => if locals.frameCount = 0 then [] else positions
  | none => []

namespace Holds

variable {reliable : Bool} {epoch rxSeq : Nat} {log : List Accepted} {locals : RecvLocals}
  {parts : List Nat}

/-- A `recv` that holds nothing. -/
theorem idle (reliable : Bool) (epoch rxSeq : Nat) (log : List Accepted) {locals : RecvLocals}
    (payload : locals.assembledPayload = []) (count : locals.frameCount = 0)
    (expected : locals.expectedFragSeq = 0) : Holds reliable epoch rxSeq log locals [] := by
  refine ⟨⟨[], 0, rfl, payload, count, by simp, rfl, expected⟩, ?_, fun _ => expected, ?_,
    .inl ?_⟩
  · rw [count]
    decide
  · intro _
    rw [expected]
    exact Nat.zero_le _
  · intro part member
    cases member

theorem length_parts (holds : Holds reliable epoch rxSeq log locals parts) :
    parts.length = locals.frameCount := by
  rcases holds.collected with ⟨frames, first, picks, _, count, _⟩
  rw [picks.length_eq, count]

theorem parts_eq_nil (holds : Holds reliable epoch rxSeq log locals parts)
    (none : locals.frameCount = 0) : parts = [] := by
  apply List.eq_nil_of_length_eq_zero
  rw [holds.length_parts, none]

/-- What is held without the positions of what was given up. -/
theorem held (holds : Holds reliable epoch rxSeq log locals parts) :
    Holds reliable epoch rxSeq log locals (heldBy (some locals) parts) := by
  simp only [heldBy]
  split
  · rename_i none
    rw [← holds.parts_eq_nil none]
    exact holds
  · exact holds

/-- The same message under other counts of control frames. -/
theorem congr (holds : Holds reliable epoch rxSeq log locals parts) {after : RecvLocals}
    (message : after.assembledPayload = locals.assembledPayload ∧
      after.frameCount = locals.frameCount ∧ after.expectedFragSeq = locals.expectedFragSeq) :
    Holds reliable epoch rxSeq log after parts := by
  rcases message with ⟨payload, count, expected⟩
  refine ⟨?_, ?_, ?_, ?_, ?_⟩
  · rw [payload, count, expected]
    exact holds.collected
  · rw [count]
    exact holds.few
  · rw [count, expected]
    exact holds.atStart
  · rw [expected]
    exact holds.received
  · rw [expected]
    exact holds.quiet

/-- The receive sequence grows, and no frame is accepted. -/
theorem later (holds : Holds reliable epoch rxSeq log locals parts) {after : Nat}
    (grows : reliable = true → rxSeq ≤ after) : Holds reliable epoch after log locals parts := by
  refine ⟨holds.collected, holds.few, holds.atStart, fun isReliable => ?_, ?_⟩
  · exact Nat.le_trans (holds.received isReliable) (grows isReliable)
  · exact holds.quiet.imp_right fun both => ⟨both.1, Nat.lt_of_lt_of_le both.2 (grows both.1)⟩

/-- Another frame is accepted, which is not joined.  A control frame has taken the next
sequence, or no message was begun. -/
theorem accept (holds : Holds reliable epoch rxSeq log locals parts) (item : Accepted)
    {after : Nat} (grows : reliable = true → rxSeq < after)
    (ordered : item.type.isControl = true → reliable = true ∨ locals.frameCount = 0) :
    Holds reliable epoch after (log ++ [item]) locals parts := by
  have kept := holds.later (fun isReliable => Nat.le_of_lt (grows isReliable))
  rcases kept.collected with ⟨frames, first, picks, rest⟩
  refine ⟨⟨frames, first, picks.append [item], rest⟩, kept.few, kept.atStart, kept.received, ?_⟩
  rcases kept.quiet with quiet | passed
  case inr => exact .inr passed
  by_cases control : item.type.isControl = true
  · rcases ordered control with isReliable | none
    · exact .inr ⟨isReliable, Nat.lt_of_le_of_lt (holds.received isReliable) (grows isReliable)⟩
    · left
      rw [holds.parts_eq_nil none]
      intro part member
      cases member
  · left
    intro part member position other after found
    rcases Nat.lt_or_ge position log.length with inside | outside
    · rw [List.getElem?_append_left inside] at found
      exact quiet part member position other after found
    · rw [List.getElem?_append_right outside] at found
      have isItem : other ∈ [item] := List.mem_of_getElem? found
      rw [List.mem_singleton.mp isItem]
      exact Bool.eq_false_iff.mpr control

/-- New keys are installed while no message is begun. -/
theorem rotate (holds : Holds reliable epoch rxSeq log locals parts)
    (none : locals.frameCount = 0) (epoch' : Nat) (log' : List Accepted) :
    Holds reliable epoch' 0 log' locals parts := by
  rcases holds.collected with ⟨frames, first, _, payload, count, _⟩
  have noFrames : frames = [] := by
    apply List.eq_nil_of_length_eq_zero
    rw [← count, none]
  rw [holds.parts_eq_nil none]
  exact idle reliable epoch' 0 log' (by rw [payload, noFrames]; rfl) none (holds.atStart none)

/-- The next fragment of a message continues what is held. -/
theorem next (holds : Holds reliable epoch rxSeq log locals parts) (item : Accepted)
    (notControl : item.type.isControl = false)
    (inOrder : locals.frameCount > 0 → item.seq = locals.expectedFragSeq)
    (isNext : reliable = true → item.seq = rxSeq) :
    ∃ (frames : List Accepted) (first : Nat), Picks log parts frames ∧
      locals.assembledPayload = frames.flatMap Accepted.plaintext ∧
      locals.frameCount = frames.length ∧
      (∀ frame ∈ frames, frame.type = .dataFrag ∧ frame.epoch = epoch) ∧
      (frames ++ [item]).map Accepted.seq = List.range' first (frames.length + 1) ∧
      item.seq = first + frames.length ∧
      Quiet (log ++ [item]) (parts ++ [log.length]) := by
  rcases holds.collected with ⟨frames, first, picks, payload, count, kinds, seqs, expected⟩
  have quietItem : ∀ (position : Nat) (other : Accepted), log.length ≤ position →
      (log ++ [item])[position]? = some other → other.type.isControl = false := by
    intro position other outside found
    rw [List.getElem?_append_right outside] at found
    have isItem : other ∈ [item] := List.mem_of_getElem? found
    rw [List.mem_singleton.mp isItem]
    exact notControl
  rcases Nat.eq_zero_or_pos locals.frameCount with none | some
  · have noFrames : frames = [] := by
      apply List.eq_nil_of_length_eq_zero
      rw [← count, none]
    subst noFrames
    refine ⟨[], item.seq, picks, payload, count, kinds, rfl, rfl, ?_⟩
    rw [holds.parts_eq_nil none]
    intro part member position other after found
    rw [List.nil_append, List.mem_singleton] at member
    exact quietItem position other (member ▸ after) found
  · have isSeq : item.seq = first + frames.length := (inOrder some).trans expected
    refine ⟨frames, first, picks, payload, count, kinds, ?_, isSeq, ?_⟩
    · rw [List.map_append, seqs, List.range'_concat, Nat.one_mul]
      simp [isSeq]
    · rcases holds.quiet with quiet | ⟨isReliable, passed⟩
      case inr =>
        rw [← inOrder some, isNext isReliable] at passed
        exact absurd passed (Nat.lt_irrefl _)
      intro part member position other after found
      rcases Nat.lt_or_ge position log.length with inside | outside
      · rw [List.getElem?_append_left inside] at found
        rcases List.mem_append.mp member with old | new
        · exact quiet part old position other after found
        · rw [List.mem_singleton.mp new] at after
          exact absurd inside (Nat.not_lt.mpr after)
      · exact quietItem position other outside found

/-- A fragment that is not the last one is joined. -/
theorem join (holds : Holds reliable epoch rxSeq log locals parts) (item : Accepted)
    (sameEpoch : item.epoch = epoch) (isFragment : item.type = .dataFrag)
    (inOrder : locals.frameCount > 0 → item.seq = locals.expectedFragSeq)
    (few : locals.frameCount + 1 < usmpMaxFrames) {after : Nat}
    (isNext : reliable = true → item.seq = rxSeq ∧ after = rxSeq + 1) :
    Holds reliable epoch after (log ++ [item]) (locals.joined item.seq item.plaintext)
      (parts ++ [log.length]) := by
  rcases holds.next item (by rw [isFragment]; rfl) inOrder (fun isReliable =>
    (isNext isReliable).1) with ⟨frames, first, picks, payload, count, kinds, seqs, isSeq, quiet⟩
  have expected : (locals.joined item.seq item.plaintext).expectedFragSeq = item.seq + 1 := by
    simp only [RecvLocals.joined]
    split
    · rename_i some
      rw [inOrder some]
    · rfl
  refine ⟨⟨frames ++ [item], first, picks.snoc item, ?_, ?_, ?_, ?_, ?_⟩, few, ?_, ?_, .inl quiet⟩
  · rw [RecvLocals.joined, payload, List.flatMap_append]
    simp
  · rw [RecvLocals.joined, count, List.length_append]
    rfl
  · intro frame member
    rcases List.mem_append.mp member with old | new
    · exact kinds frame old
    · rw [List.mem_singleton.mp new]
      exact ⟨isFragment, sameEpoch⟩
  · rw [seqs, List.length_append]
    rfl
  · rw [expected, isSeq, List.length_append]
    rfl
  · intro none
    cases none
  · intro isReliable
    have place := isNext isReliable
    rw [expected]
    omega

/-- The last frame of a message completes it. -/
theorem complete (holds : Holds reliable epoch rxSeq log locals parts) (item : Accepted)
    (sameEpoch : item.epoch = epoch) (isData : item.type = .data)
    (inOrder : locals.frameCount > 0 → item.seq = locals.expectedFragSeq)
    (isNext : reliable = true → item.seq = rxSeq) :
    Contiguous (log ++ [item]) (parts ++ [log.length])
      (locals.assembledPayload ++ item.plaintext) := by
  rcases holds.next item (by rw [isData]; rfl) inOrder isNext with
    ⟨frames, first, picks, payload, count, kinds, seqs, isSeq, quiet⟩
  have few := holds.few
  rw [count, usmpMaxFrames] at few
  refine ⟨⟨frames ++ [item], frames.length, epoch, first, picks.snoc item, ?_, by omega, ?_, ?_,
    seqs⟩, ?_⟩
  · rw [payload, List.flatMap_append]
    simp
  · rw [List.map_append, List.map_singleton, isData, List.append_cancel_right_eq,
      List.eq_replicate_iff]
    refine ⟨List.length_map _, ?_⟩
    intro type member
    rcases List.mem_map.mp member with ⟨frame, isFrame, rfl⟩
    exact (kinds frame isFrame).1
  · intro frame member
    rcases List.mem_append.mp member with old | new
    · exact (kinds frame old).2
    · rw [List.mem_singleton.mp new]
      exact sameEpoch
  · intro part member last _ position other after _ found
    exact quiet part member position other after found

end Holds

end Usmp
