import Usmp.Session.Dialogue
import Usmp.Session.Reassembly
import Usmp.Session.Turns
import Usmp.Session.Window

/-!
# What an attacker leaves of a message over UDP

Over UDP nothing marks the first fragment of a message, so an attacker who drops frames can cut a
message short at its front.  It can do no more: whatever `recv` reads, each message that it
returns is the rest of a message of the peer from one of its fragments on, and no two are of the
same message.
-/

namespace Usmp

/-- The rest of a message without its first fragments. -/
def IsTail (payload message : Bytes) : Prop :=
  ∃ lost, lost < fragmentCount payload ∧ message = payload.drop (usmpMaxDataLen * lost)

/-- A message of one fragment has no other rest. -/
theorem IsTail.whole {payload message : Bytes} (tail : IsTail payload message)
    (short : payload.length ≤ usmpMaxDataLen) : message = payload := by
  rcases tail with ⟨lost, few, rfl⟩
  have none : lost = 0 := by
    simp only [fragmentCount, usmpMaxDataLen, usmpMaxPayload, usmpTagLen, usmpGcmNonceLen]
      at few short
    omega
  rw [none, Nat.mul_zero, List.drop_zero]

/-! ## Pieces of a log -/

/-- The plaintexts of some frames of a log, one after the other. -/
def joinedAt (log : List SentFrame) (first count : Nat) : Bytes :=
  ((log.drop first).take count).flatMap SentFrame.plaintext

/-- Fragments in a log that are not the last of their message. -/
def Fragments (log : List SentFrame) (first count : Nat) : Prop :=
  first + count ≤ log.length ∧ ∀ frame ∈ (log.drop first).take count, frame.type = .dataFrag

/-- The frames from `first` on end a message at `last`. -/
structure EndsAt (log : List SentFrame) (first last : Nat) (message : Bytes) : Prop where
  ordered : first ≤ last
  fragments : Fragments log first (last - first)
  final : ∃ frame, log[last]? = some frame ∧ frame.type = .data ∧
    message = joinedAt log first (last - first) ++ frame.plaintext

/-- The number of messages that end in a log. -/
def messagesIn (log : List SentFrame) : Nat :=
  log.countP fun frame => frame.type = .data

theorem Fragments.nil {log : List SentFrame} {first : Nat} (within : first ≤ log.length) :
    Fragments log first 0 :=
  ⟨within, by simp⟩

theorem joinedAt_succ {log : List SentFrame} {first count : Nat} {frame : SentFrame}
    (isFrame : log[first + count]? = some frame) :
    joinedAt log first (count + 1) = joinedAt log first count ++ frame.plaintext := by
  have next : (log.drop first)[count]? = some frame := by
    rw [List.getElem?_drop]
    exact isFrame
  rw [joinedAt, List.take_add_one, next, List.flatMap_append]
  simp [joinedAt]

theorem Fragments.succ {log : List SentFrame} {first count : Nat} {frame : SentFrame}
    (fragments : Fragments log first count) (isFrame : log[first + count]? = some frame)
    (isFragment : frame.type = .dataFrag) : Fragments log first (count + 1) := by
  have next : (log.drop first)[count]? = some frame := by
    rw [List.getElem?_drop]
    exact isFrame
  refine ⟨(List.getElem?_eq_some_iff.mp isFrame).1, ?_⟩
  intro other member
  rw [List.take_add_one, next] at member
  rcases List.mem_append.mp member with old | new
  · exact fragments.2 other old
  · cases List.mem_singleton.mp new
    exact isFragment

/-- Different ends are of different messages. -/
theorem messagesIn_lt {log : List SentFrame} {first last : Nat} {frame : SentFrame}
    (isFrame : log[first]? = some frame) (isData : frame.type = .data) (before : first < last) :
    messagesIn (log.take first) < messagesIn (log.take last) := by
  have next : messagesIn (log.take (first + 1)) = messagesIn (log.take first) + 1 := by
    rw [messagesIn, List.take_add_one, isFrame, List.countP_append]
    simp [messagesIn, isData]
  have more : messagesIn (log.take (first + 1)) ≤ messagesIn (log.take last) :=
    (List.take_prefix_take_left before).sublist.countP_le
  omega

/-! ## The log of a session that cuts no message -/

/-- What a frame adds to the view of the peer: a fragment is full, and the last of several
fragments is not empty. -/
def View.Continues (view : View) (sent : SentFrame) : Prop :=
  (sent.type = .dataFrag → sent.plaintext.length = usmpMaxDataLen) ∧
    (sent.type = .data → 0 < view.fragments → sent.plaintext ≠ [])

/-- The view after a log: the fragments at its end are the message that is being assembled, and
whatever ends in the log is the rest of a message. -/
structure View.Reads (view : View) (log : List SentFrame) : Prop where
  pending : ∃ earlier pending, log = earlier ++ pending ∧
    (∀ frame ∈ pending, frame.type = .dataFrag ∧ frame.plaintext.length = usmpMaxDataLen) ∧
    (∀ frame ∈ earlier.getLast?, frame.type ≠ .dataFrag) ∧
    view.fragments = pending.length ∧ view.assembled = pending.flatMap SentFrame.plaintext
  messages : view.messages.length = messagesIn log
  ends : ∀ first last message, EndsAt log first last message →
    ∃ payload, view.messages[messagesIn (log.take last)]? = some payload ∧ IsTail payload message

theorem EndsAt.of_append {log : List SentFrame} {sent : SentFrame} {first last : Nat}
    {message : Bytes} (ends : EndsAt (log ++ [sent]) first last message) (old : last < log.length) :
    EndsAt log first last message := by
  have sub : first ≤ log.length := Nat.le_of_lt (Nat.lt_of_le_of_lt ends.ordered old)
  have same : ((log ++ [sent]).drop first).take (last - first) =
      (log.drop first).take (last - first) := by
    rw [List.drop_append_of_le_length sub, List.take_append_of_le_length]
    rw [List.length_drop]
    have ordered := ends.ordered
    omega
  rcases ends.final with ⟨frame, isFrame, isData, rfl⟩
  refine ⟨ends.ordered, ⟨?_, ?_⟩, frame, ?_, isData, ?_⟩
  · have ordered := ends.ordered
    omega
  · rw [← same]
    exact ends.fragments.2
  · rwa [List.getElem?_append_left old] at isFrame
  · rw [joinedAt, joinedAt, same]

/-- Full fragments, laid end to end. -/
theorem length_joined_full {frames : List SentFrame}
    (full : ∀ frame ∈ frames, frame.plaintext.length = usmpMaxDataLen) :
    (frames.flatMap SentFrame.plaintext).length = usmpMaxDataLen * frames.length := by
  induction frames with
  | nil => rfl
  | cons frame rest ih =>
      rw [List.flatMap_cons, List.length_append, full frame List.mem_cons_self,
        ih fun other member => full other (List.mem_cons_of_mem _ member), List.length_cons,
        Nat.mul_succ, Nat.add_comm]

theorem drop_joined_full {frames : List SentFrame}
    (full : ∀ frame ∈ frames, frame.plaintext.length = usmpMaxDataLen) {lost : Nat}
    (within : lost ≤ frames.length) (rest : Bytes) :
    (frames.flatMap SentFrame.plaintext ++ rest).drop (usmpMaxDataLen * lost) =
      (frames.drop lost).flatMap SentFrame.plaintext ++ rest := by
  have front : ((frames.take lost).flatMap SentFrame.plaintext).length = usmpMaxDataLen * lost := by
    rw [length_joined_full fun frame member => full frame (List.mem_of_mem_take member),
      List.length_take, Nat.min_eq_left within]
  have split : frames.flatMap SentFrame.plaintext =
      (frames.take lost).flatMap SentFrame.plaintext ++
        (frames.drop lost).flatMap SentFrame.plaintext := by
    rw [← List.flatMap_append, List.take_append_drop]
  rw [split, List.append_assoc, ← front, List.drop_left]

/-- A message that ends with the next frame is the rest of the one that is being assembled. -/
theorem View.Reads.tail {view : View} {log : List SentFrame} {sent : SentFrame} {first : Nat}
    {message : Bytes} (reads : view.Reads log) (continues : view.Continues sent)
    (isData : sent.type = .data)
    (ends : EndsAt (log ++ [sent]) first log.length message) :
    IsTail (view.assembled ++ sent.plaintext) message := by
  rcases reads.pending with ⟨earlier, pending, rfl, full, barrier, fragments, assembled⟩
  rcases ends.final with ⟨frame, isFrame, _, rfl⟩
  rw [List.getElem?_concat_length] at isFrame
  cases isFrame
  have piece : (((earlier ++ pending) ++ [sent]).drop first).take
      ((earlier ++ pending).length - first) = (earlier ++ pending).drop first := by
    rw [List.drop_append_of_le_length ends.ordered]
    exact List.take_left' List.length_drop
  have types := ends.fragments.2
  rw [piece] at types
  -- no fragment comes before the pending ones
  have begun : earlier.length ≤ first := by
    by_contra before
    rcases List.eq_nil_or_concat earlier with rfl | ⟨front, last, rfl⟩
    · exact before (Nat.zero_le _)
    · apply barrier last (by simp)
      apply types
      rw [List.length_concat, Nat.not_le, Nat.lt_succ_iff] at before
      rw [List.concat_eq_append, List.append_assoc, List.drop_append_of_le_length before]
      simp
  rcases Nat.exists_eq_add_of_le begun with ⟨lost, rfl⟩
  have within : lost ≤ pending.length := by
    have ordered := ends.ordered
    rw [List.length_append] at ordered
    omega
  rw [joinedAt, piece, assembled, List.drop_append, List.drop_of_length_le (Nat.le_add_right _ _),
    List.nil_append, Nat.add_sub_cancel_left,
    ← drop_joined_full (fun frame member => (full frame member).2) within]
  refine ⟨lost, ?_, rfl⟩
  have length := length_joined_full fun frame member => (full frame member).2
  rw [fragmentCount, List.length_append, length]
  rcases Nat.eq_zero_or_pos pending.length with none | some
  · omega
  · have more := List.length_pos_iff.mpr (continues.2 isData (by rw [fragments]; exact some))
    simp only [usmpMaxDataLen, usmpMaxPayload, usmpTagLen, usmpGcmNonceLen]
    omega

/-- What was in the log before ends where it did. -/
theorem View.Reads.kept {view next : View} {log : List SentFrame} {sent : SentFrame}
    (reads : view.Reads log) (messages : view.messages <+: next.messages)
    {first last : Nat} {message : Bytes} (ends : EndsAt (log ++ [sent]) first last message)
    (old : last < log.length) :
    ∃ payload, next.messages[messagesIn ((log ++ [sent]).take last)]? = some payload ∧
      IsTail payload message := by
  rcases reads.ends first last message (ends.of_append old) with ⟨payload, isPayload, tail⟩
  refine ⟨payload, ?_, tail⟩
  rw [List.take_append_of_le_length (Nat.le_of_lt old)]
  rcases messages with ⟨more, isNext⟩
  rw [← isNext, List.getElem?_append_left (List.getElem?_eq_some_iff.mp isPayload).1]
  exact isPayload

theorem EndsAt.last_cases {log : List SentFrame} {sent : SentFrame} {first last : Nat}
    {message : Bytes} (ends : EndsAt (log ++ [sent]) first last message) :
    last < log.length ∨ last = log.length ∧ sent.type = .data := by
  rcases ends.final with ⟨frame, isFrame, isData, _⟩
  have within := (List.getElem?_eq_some_iff.mp isFrame).1
  rw [List.length_append, List.length_singleton] at within
  rcases Nat.lt_succ_iff_lt_or_eq.mp within with old | rfl
  · exact .inl old
  · rw [List.getElem?_concat_length] at isFrame
    cases isFrame
    exact .inr ⟨rfl, isData⟩

/-- A frame that ends no message. -/
theorem View.Reads.other {view next : View} {log : List SentFrame} {sent : SentFrame}
    (reads : view.Reads log) (notData : sent.type ≠ .data)
    (messages : next.messages = view.messages)
    (pending : ∃ earlier pending, log ++ [sent] = earlier ++ pending ∧
      (∀ frame ∈ pending, frame.type = .dataFrag ∧ frame.plaintext.length = usmpMaxDataLen) ∧
      (∀ frame ∈ earlier.getLast?, frame.type ≠ .dataFrag) ∧
      next.fragments = pending.length ∧ next.assembled = pending.flatMap SentFrame.plaintext) :
    next.Reads (log ++ [sent]) := by
  refine ⟨pending, ?_, ?_⟩
  · rw [messages, reads.messages, messagesIn, messagesIn, List.countP_append]
    simp [notData]
  · intro first last message ends
    rcases ends.last_cases with old | ⟨_, isData⟩
    · exact reads.kept (messages ▸ List.prefix_rfl) ends old
    · exact absurd isData notData

theorem View.Reads.accept {P : Primitives} {sessionId : FixedBytes usmpSessionIdLen}
    {view next : View} {log : List SentFrame} {sent : SentFrame} (reads : view.Reads log)
    (continues : view.Continues sent) (accepted : view.accept P sessionId sent = some next) :
    next.Reads (log ++ [sent]) := by
  have control : sent.type ≠ .data → sent.type ≠ .dataFrag → view.fragments = 0 →
      next.messages = view.messages → next.fragments = view.fragments →
      next.assembled = view.assembled → next.Reads (log ++ [sent]) := by
    intro notData notFragment none messages fragments assembled
    rcases reads.pending with ⟨earlier, pending, _, _, _, count, isAssembled⟩
    have noPending : pending = [] := by
      apply List.eq_nil_of_length_eq_zero
      rw [← count, none]
    apply reads.other notData messages
    refine ⟨log ++ [sent], [], by simp, by simp, ?_, by rw [fragments, none]; rfl, ?_⟩
    · intro frame isLast
      rw [List.getLast?_concat] at isLast
      cases Option.mem_some.mp isLast
      exact notFragment
    · rw [assembled, isAssembled, noPending]
  rcases View.accept_some.mp accepted with ⟨_, absorbed⟩
  unfold View.absorb at absorbed
  split at absorbed
  · -- the last fragment
    rename_i isData
    cases absorbed
    refine ⟨⟨log ++ [sent], [], by simp, by simp, ?_, rfl, rfl⟩, ?_, ?_⟩
    · intro frame isLast
      rw [List.getLast?_concat] at isLast
      cases Option.mem_some.mp isLast
      rw [isData]
      simp
    · rw [List.length_append, reads.messages, messagesIn, messagesIn, List.countP_append]
      simp [isData]
    · intro first last message ends
      rcases ends.last_cases with old | ⟨rfl, _⟩
      · exact reads.kept (List.prefix_append _ _) ends old
      · refine ⟨view.assembled ++ sent.plaintext, ?_, reads.tail continues isData ends⟩
        rw [List.take_left, ← reads.messages]
        exact List.getElem?_concat_length
  · -- a fragment before the last one
    rename_i isFragment
    split at absorbed <;> cases absorbed
    rcases reads.pending with ⟨earlier, pending, split, full, barrier, count, isAssembled⟩
    refine reads.other (by rw [isFragment]; simp) rfl ?_
    refine ⟨earlier, pending ++ [sent], by rw [split, List.append_assoc], ?_, barrier, ?_, ?_⟩
    · intro frame member
      rcases List.mem_append.mp member with old | new
      · exact full frame old
      · cases List.mem_singleton.mp new
        exact ⟨isFragment, continues.1 isFragment⟩
    · rw [List.length_append, ← count]
      rfl
    · rw [List.flatMap_append, ← isAssembled]
      simp
  · rename_i isPing
    split at absorbed <;> cases absorbed
    exact control (by rw [isPing]; simp) (by rw [isPing]; simp) ‹_› rfl rfl rfl
  · rename_i isPong
    split at absorbed <;> cases absorbed
    exact control (by rw [isPong]; simp) (by rw [isPong]; simp) ‹_› rfl rfl rfl
  · rename_i isRekey
    split at absorbed
    · rename_i between
      cases absorbed
      exact control (by rw [isRekey]; simp) (by rw [isRekey]; simp) between.1 rfl rfl rfl
    · cases absorbed
  · cases absorbed

namespace Session

variable {P : Primitives}

theorem Encrypting.continues {session : Session} {task : Nat} {action : SessionAction}
    {locked : Locked} {admitted : List (Nat × Locked)}
    (ready : session.Encrypting task action locked admitted) :
    (session.mirror P).Continues (encryptedFrame P session.info task locked) := by
  constructor
  · intro isFragment
    cases locked with
    | send data offset =>
        simp only [encryptedFrame, Locked.frame] at isFragment ⊢
        split at isFragment
        · rename_i more
          exact length_chunkAt_of_more more
        · cases isFragment
    | ping | rekey salt | bye | pong locals => cases isFragment
  · intro isData some
    cases ready with
    | admitted locked free waiting =>
        -- the lock was free, so no message is being assembled
        rw [mirror, holder_of_free free] at some
        cases some
    | nextFragment data offset now writing more =>
        simp only [encryptedFrame, Locked.frame]
        rw [← List.length_pos_iff, length_chunkAt data (offset + _)]
        simp only [usmpMaxDataLen, usmpMaxPayload, usmpTagLen, usmpGcmNonceLen]
        omega

/-- What the session has sent, and how its peer would read it. -/
structure Composing (P : Primitives) (start : View) (keys : Key × Key) (session : Session) :
    Prop where
  speaking : Speaking P start keys session
  reads : (session.mirror P).Reads session.sent

theorem Composing.new (reliable : Bool) (info : SessionInfo) :
    Composing P { txKey := info.rxKey, rxKey := info.txKey, rxSeq := info.txSeq }
      (info.txKey, info.rxKey) (.new reliable info) := by
  refine ⟨⟨⟨.new reliable info 0, ?_, ?_, ?_⟩, rfl, rfl⟩, ⟨[], [], rfl, ?_, ?_, rfl, rfl⟩, rfl, ?_⟩
  · simp [Session.new]
  · simp [Session.new]
  · simp [Session.new]
  · simp
  · simp
  · intro first last message ends
    rcases ends.final with ⟨frame, isFrame, _⟩
    cases isFrame

theorem Composing.progress {start : View} {keys : Key × Key} {before base : Session}
    {action : SessionAction} {fate : Fate} {effects : Effects} {log : List SentFrame}
    (composing : Composing P start keys before)
    (progress : Progress P before action base fate effects) (converses : before.Converses action)
    (ideal : P.Unforgeable log) (bound : ∀ sent ∈ log, sent.seq ≤ maxSeq)
    (types : ∀ sent ∈ log, sent.type ≠ .rekey) :
    Composing P start keys (base.settle action.task fate) := by
  have talking := composing.speaking.talking
  refine ⟨composing.speaking.progress progress converses ideal bound types, ?_⟩
  simp only [settle_frame]
  rw [progress.log]
  rcases talking.mirror progress converses (talking.epochs progress ideal bound types) with
    ⟨task, locked, isWrite, accepted⟩ | ⟨noWrite, same⟩
  · have continues : (before.mirror P).Continues (encryptedFrame P before.info task locked) := by
      cases progress with
      | encrypted writer action holder admitted ready unspent =>
          rw [← Option.some.inj isWrite]
          exact ready.continues
      | _ => cases isWrite
    rw [isWrite]
    exact composing.reads.accept continues accepted
  · rw [noWrite, same]
    simpa using composing.reads

/-! ## What a `recv` makes of it -/

/-- A step in which no `recv` accepts a frame joins nothing to a message and returns none. -/
theorem Progress.keepsMessage {before base : Session} {action : SessionAction} {fate : Fate}
    {effects : Effects} (progress : Progress P before action base fate effects)
    (silent : before.accepts P action = none) :
    Reassembly.KeepsMessage before action.task fate ∧
      ∀ payload, fate.outcome ≠ some (.returned (some payload)) := by
  cases progress with
  | received task locals pending now result reading turn isTurn =>
      have was : before.localsOf task = some locals := by
        rw [localsOf, reading]
        rfl
      rw [accepts, reading] at silent
      have refused := refused_turn (Option.map_eq_none_iff.mp silent)
      rw [← isTurn] at refused
      rcases refused.step with kept | dropped | ⟨exn, raised⟩
      · rw [kept]
        exact ⟨.next was ⟨rfl, rfl, rfl⟩, by simp [RecvStep.fate, Fate.outcome]⟩
      · rw [dropped]
        exact ⟨.dropped _ _ locals, by simp [RecvStep.fate, Fate.outcome]⟩
      · rw [raised]
        exact ⟨.ended _ _ _, by simp [RecvStep.fate, Fate.outcome]⟩
  | called task op now isNew =>
      exact ⟨.started op _ now, Reassembly.noMessage_started op _ now⟩
  | encrypted task action locked admitted ready unspent =>
      exact ⟨.encrypting ready, by simp [Fate.outcome]⟩
  | refused task action locked admitted ready spent notBye exn =>
      exact ⟨.raised _ _ _ locked exn, Reassembly.noMessage_raised _ locked exn⟩
  | failed task locked exn now writing =>
      exact ⟨.raised _ _ _ locked exn, Reassembly.noMessage_raised _ locked exn⟩
  | ponged task locals now writing =>
      exact ⟨.ponged writing _ now, Reassembly.noMessage_pongSent _ locals now⟩
  | tookHeader task locals header reading =>
      have was : before.localsOf task = some locals := by
        rw [localsOf, reading]
        rfl
      exact ⟨.same locals locals was rfl ⟨rfl, rfl, rfl⟩, by simp [Fate.outcome]⟩
  | sent | signalled | rekeyed | abandoned | interrupted =>
      exact ⟨.ended _ _ _, by simp [Fate.outcome]⟩

end Session

/-- What a `recv` over UDP holds of a message: consecutive fragments of the peer's log. -/
def Gathered (log : List SentFrame) (locals : RecvLocals) : Prop :=
  locals.frameCount = 0 ∧ locals.assembledPayload = [] ∨
    0 < locals.frameCount ∧ ∃ first, Fragments log first locals.frameCount ∧
      locals.assembledPayload = joinedAt log first locals.frameCount ∧
      locals.expectedFragSeq = first + locals.frameCount

namespace Gathered

variable {log : List SentFrame} {locals : RecvLocals}

theorem congr (gathered : Gathered log locals) {after : RecvLocals}
    (message : after.assembledPayload = locals.assembledPayload ∧
      after.frameCount = locals.frameCount ∧ after.expectedFragSeq = locals.expectedFragSeq) :
    Gathered log after := by
  rcases message with ⟨payload, count, expected⟩
  rw [Gathered, payload, count, expected]
  exact gathered

/-- The next frame follows what is held. -/
theorem at_ {seq : Nat} {sent : SentFrame} (gathered : Gathered log locals)
    (isSent : log[seq]? = some sent)
    (inOrder : locals.frameCount > 0 → seq = locals.expectedFragSeq) :
    ∃ first, seq = first + locals.frameCount ∧ Fragments log first locals.frameCount ∧
      locals.assembledPayload = joinedAt log first locals.frameCount := by
  rcases gathered with ⟨none, empty⟩ | ⟨some, first, fragments, payload, expected⟩
  · rw [none, empty]
    exact ⟨seq, rfl, .nil (Nat.le_of_lt (List.getElem?_eq_some_iff.mp isSent).1), rfl⟩
  · exact ⟨first, (inOrder some).trans expected, fragments, payload⟩

theorem join {seq : Nat} {sent : SentFrame} (gathered : Gathered log locals)
    (isSent : log[seq]? = some sent) (isFragment : sent.type = .dataFrag)
    (inOrder : locals.frameCount > 0 → seq = locals.expectedFragSeq) :
    Gathered log (locals.joined seq sent.plaintext) := by
  rcases gathered.at_ isSent inOrder with ⟨first, rfl, fragments, payload⟩
  refine .inr ⟨Nat.succ_pos _, first, fragments.succ isSent isFragment, ?_, ?_⟩
  · rw [RecvLocals.joined, payload]
    exact (joinedAt_succ isSent).symm
  · simp only [RecvLocals.joined]
    split
    · rename_i some
      rw [← inOrder some, Nat.add_assoc]
    · rw [Nat.add_assoc]

theorem complete {seq : Nat} {sent : SentFrame} (gathered : Gathered log locals)
    (isSent : log[seq]? = some sent) (isData : sent.type = .data)
    (inOrder : locals.frameCount > 0 → seq = locals.expectedFragSeq) :
    ∃ first, EndsAt log first seq (locals.assembledPayload ++ sent.plaintext) := by
  rcases gathered.at_ isSent inOrder with ⟨first, rfl, fragments, payload⟩
  refine ⟨first, Nat.le_add_right _ _, ?_, sent, isSent, isData, ?_⟩
  · rw [Nat.add_sub_cancel_left]
    exact fragments
  · rw [Nat.add_sub_cancel_left, payload]

end Gathered

/-- The accepted frame of a turn is one of the peer's. -/
theorem acceptedFrame_logged {P : Primitives} {info : SessionInfo} {locals : RecvLocals} {now : Rat}
    {result : Except Exn USMPFrame} {frame : USMPFrame} {plaintext : Bytes}
    {log own : List SentFrame}
    (accepted : acceptedFrame P false info locals now result = some (frame, plaintext))
    (ideal : P.Unforgeable (log ++ own)) (bound : ∀ sent ∈ log ++ own, sent.seq ≤ maxSeq)
    (numbered : log.map SentFrame.seq = List.range log.length)
    (otherKeys : ∀ sent ∈ own, sent.txKey ≠ info.rxKey) :
    acceptedSeq P false info result = some frame.seq ∧
      ∃ sent, log[frame.seq]? = some sent ∧ sent.type = frame.type ∧
        sent.plaintext = plaintext := by
  unfold acceptedFrame at accepted
  split at accepted
  case h_2 | h_3 => cases accepted
  rename_i frame' plaintext' opened
  split at accepted
  case h_2 => cases accepted
  rename_i marked calls isAccepted
  split at accepted
  case h_2 => cases accepted
  cases accepted
  have below := (acceptSeq_ok isAccepted).1
  rcases openFrame_logged ideal bound opened (Nat.le_of_lt below) with
    ⟨_, sent, member, key, type, seq, _, _, isPlaintext⟩
  constructor
  · simp only [acceptedSeq, opened, isAccepted]
  · rcases List.mem_append.mp member with isLogged | isOwn
    · rcases List.getElem?_of_mem isLogged with ⟨position, isSent⟩
      have same : (log.map SentFrame.seq)[position]? = some sent.seq := by
        rw [List.getElem?_map, isSent, Option.map_some]
      rw [numbered, List.getElem?_eq_some_iff] at same
      rcases same with ⟨within, same⟩
      rw [List.getElem_range] at same
      exact ⟨sent, by rw [← seq, ← same, isSent], type, isPlaintext⟩
    · exact absurd key (otherKeys sent isOwn)

namespace Windowed

variable {P : Primitives}

/-- What the calls of `recv` hold and have returned of the peer's messages; `lasts` are the places
in the peer's log where the returned messages end. -/
structure Salvaging (log : List SentFrame) (windowed : Windowed) (lasts : List Nat) : Prop where
  calls : windowed.session.CallInv
  window : windowed.Inv
  gathered : ∀ task locals, windowed.session.localsOf task = some locals → Gathered log locals
  returned : List.Forall₂ (fun message last => ∃ first, EndsAt log first last message)
    windowed.session.received lasts
  accepted : ∀ last ∈ lasts, last ∈ windowed.accepted
  nodup : lasts.Nodup

/-- The calls of `recv` after a step, given what its own call holds. -/
theorem Salvaging.gathered_settle {log : List SentFrame} {before : Windowed} {lasts : List Nat}
    (salvaging : Salvaging log before lasts) {base : Session} {action : SessionAction}
    {fate : Fate} {effects : Effects}
    (progress : Session.Progress P before.session action base fate effects)
    (own : ∀ locals, fate.await.bind Task.locals? = some locals → Gathered log locals)
    (task : Nat) (locals : RecvLocals)
    (isLocals : (base.settle action.task fate).localsOf task = some locals) :
    Gathered log locals := by
  by_cases same : task = action.task
  · subst same
    rw [Session.localsOf, Session.settle_tasks, Function.update_self] at isLocals
    exact own locals isLocals
  · rw [Session.localsOf, Session.settle_tasks, Function.update_of_ne same,
      progress.frame.1] at isLocals
    exact salvaging.gathered task locals isLocals

/-- A step that accepts no frame returns no message, and gathers nothing. -/
theorem Salvaging.unaccepted {log : List SentFrame} {before : Windowed} {lasts : List Nat}
    (salvaging : Salvaging log before lasts) {base : Session} {action : SessionAction}
    {fate : Fate} {effects : Effects}
    (progress : Session.Progress P before.session action base fate effects)
    (isAccepted : before.session.accepts P action = none) :
    fate.outcome.bind Outcome.message? = none ∧
      ∀ locals, fate.await.bind Task.locals? = some locals → Gathered log locals := by
  rcases progress.keepsMessage isAccepted with ⟨keeps, noMessage⟩
  constructor
  · rw [Option.eq_none_iff_forall_not_mem]
    intro payload isMessage
    rcases Option.bind_eq_some_iff.mp isMessage with ⟨outcome, ended, returned⟩
    cases outcome with
    | returned message =>
        cases returned
        exact noMessage payload ended
    | raised exn | cancelled => cases returned
  · intro after isAfter
    cases keeps with
    | same old locals was isLocals message =>
        rw [isLocals] at isAfter
        cases isAfter
        exact (salvaging.gathered _ old was).congr message
    | idle locals isLocals payload count expected =>
        rw [isLocals] at isAfter
        cases isAfter
        exact .inl ⟨count, payload⟩
    | none noLocals =>
        rw [noLocals] at isAfter
        cases isAfter

theorem Salvaging.next {log own : List SentFrame} {before after : Windowed}
    {action : SessionAction} {lasts : List Nat} (salvaging : Salvaging log before lasts)
    (stepped : before.next P action = some after)
    (sameEpochs : after.session.epochs = before.session.epochs)
    (ideal : P.Unforgeable (log ++ own)) (bound : ∀ sent ∈ log ++ own, sent.seq ≤ maxSeq)
    (numbered : log.map SentFrame.seq = List.range log.length)
    (noRekey : ∀ sent ∈ log, sent.type ≠ .rekey)
    (otherKeys : ∀ sent ∈ own, sent.txKey ≠ before.session.info.rxKey) :
    ∃ lasts, Salvaging log after lasts := by
  have window := salvaging.window.next stepped
  rcases Option.map_eq_some_iff.mp stepped with ⟨session, moved, rfl⟩
  rcases Session.progress_of_next moved with ⟨base, fate, effects, progress, performed, rfl⟩
  have calls := Session.callInv_progress salvaging.calls progress
  have received : (base.settle action.task fate).received =
      before.session.received ++ (fate.outcome.bind Outcome.message?).toList := by
    rw [Session.received_settle, Session.received, Session.received, progress.frame.2]
  have kept : ∀ last ∈ lasts, last ∈ (accepts P before.session action).toList ++ before.accepted :=
    fun last member => List.mem_append_right _ (salvaging.accepted last member)
  have gathered := salvaging.gathered_settle progress
  dsimp only at sameEpochs window ⊢
  rw [sameEpochs, if_pos rfl] at window ⊢
  have quiet : fate.outcome.bind Outcome.message? = none →
      (∀ after, fate.await.bind Task.locals? = some after → Gathered log after) →
      ∃ lasts, Salvaging log ⟨base.settle action.task fate,
        (accepts P before.session action).toList ++ before.accepted⟩ lasts := by
    intro none mine
    refine ⟨lasts, calls, window, gathered mine, ?_, kept, salvaging.nodup⟩
    rw [received, none]
    simpa using salvaging.returned
  cases isAccepted : before.session.accepts P action with
  | none =>
      rcases salvaging.unaccepted progress isAccepted with ⟨noMessage, mine⟩
      exact quiet noMessage mine
  | some item =>
      cases progress with
      | received task locals pending now result reading turn isTurn =>
          have was : before.session.localsOf task = some locals := by
            rw [Session.localsOf, reading]
            rfl
          have held := salvaging.gathered task locals was
          rw [Session.accepts, reading, salvaging.window.unreliable] at isAccepted
          rcases Option.map_eq_some_iff.mp isAccepted with ⟨⟨frame, plaintext⟩, isFrame, rfl⟩
          rcases acceptedFrame_logged isFrame ideal bound numbered otherKeys with
            ⟨isSeq, sent, isSent, type, rfl⟩
          rcases accepted_turn isFrame with ⟨marked, confirmed, accepted⟩
          rw [salvaging.window.unreliable] at isTurn
          rw [← isTurn] at accepted
          rcases turn with ⟨info, turnCalls, authenticated, step⟩
          cases accepted.handled with
          | ping isPing =>
              apply quiet rfl
              intro after isAfter
              cases isAfter
              exact held
          | pong after isPong message =>
              apply quiet rfl
              intro after' isAfter
              cases isAfter
              exact held.congr message
          | rekey keys isRekey =>
              exact absurd (type.trans isRekey) (noRekey sent (List.mem_of_getElem? isSent))
          | fragment isFragment inOrder few =>
              apply quiet rfl
              intro after isAfter
              cases isAfter
              exact held.join isSent (type.trans isFragment) inOrder
          | data isData inOrder =>
              have counts : accepts P before.session (.read task result now) = some frame.seq := by
                rw [accepts, reading, salvaging.window.unreliable]
                exact isSeq
              rw [counts, Option.toList_some] at window kept ⊢
              refine ⟨lasts ++ [frame.seq], calls, window, gathered ?_, ?_, ?_, ?_⟩
              · intro after isAfter
                cases isAfter
              · rw [received]
                refine List.rel_append salvaging.returned (.cons ?_ .nil)
                exact held.complete isSent (type.trans isData) inOrder
              · intro last member
                rcases List.mem_append.mp member with old | new
                · exact kept last old
                · rw [List.mem_singleton.mp new]
                  exact List.mem_cons_self
              · rw [List.nodup_append]
                refine ⟨salvaging.nodup, List.nodup_singleton _, ?_⟩
                intro last old other isOther
                rw [List.mem_singleton.mp isOther]
                rintro rfl
                exact (List.nodup_cons.mp window.nodup).1 (salvaging.accepted _ old)
      | encrypted task action locked admitted ready unspent =>
          cases ready <;> cases isAccepted
      | refused task action locked admitted ready spent notBye exn =>
          cases ready <;> cases isAccepted
      | _ => cases isAccepted

theorem Salvaging.isData {log : List SentFrame} {windowed : Windowed} {lasts : List Nat}
    (salvaging : Salvaging log windowed lasts) {last : Nat} (member : last ∈ lasts) :
    ∃ frame, log[last]? = some frame ∧ frame.type = .data := by
  have all : ∀ {messages : List Bytes} {lasts : List Nat},
      List.Forall₂ (fun message last => ∃ first, EndsAt log first last message) messages lasts →
      ∀ last ∈ lasts, ∃ frame, log[last]? = some frame ∧ frame.type = .data := by
    intro messages lasts returned
    induction returned with
    | nil => exact List.forall_mem_nil _
    | cons ends _ ih =>
        rcases ends with ⟨_, ends⟩
        rcases ends.final with ⟨frame, isFrame, isData, _⟩
        exact List.forall_mem_cons.mpr ⟨⟨frame, isFrame, isData⟩, ih⟩
  exact all salvaging.returned last member

theorem Salvaging.new {log : List SentFrame} {info : SessionInfo} (fresh : info.rxSeq = 0)
    (unmarked : info.rxWindowBitmap = 0) :
    Salvaging log { session := .new false info } [] := by
  refine ⟨.new false info 0, ⟨rfl, ?_, List.nodup_nil⟩, ?_, .nil, List.forall_mem_nil _,
    List.nodup_nil⟩
  · change SlidingWindow.Represents 64 info.rxSeq info.rxWindowBitmap []
    rw [fresh, unmarked]
    exact .empty 64
  · intro task locals isLocals
    cases isLocals

/-- Every run of a receiver that keeps its keys gathers pieces of the peer's log. -/
theorem salvaging_of_run {log own : List SentFrame} {info : SessionInfo}
    {actions : List SessionAction} {final : Session} (fresh : info.rxSeq = 0)
    (unmarked : info.rxWindowBitmap = 0) (txBound : info.txSeq ≤ maxSeq)
    (reached : Machine.run (Session.next P) (.new false info) actions = some final)
    (keeps : Machine.Along (Session.next P) Session.KeepsKeys (.new false info) actions)
    (ideal : P.Unforgeable (log ++ own)) (bound : ∀ sent ∈ log ++ own, sent.seq ≤ maxSeq)
    (types : ∀ sent ∈ log ++ own, sent.type ≠ .rekey)
    (numbered : log.map SentFrame.seq = List.range log.length)
    (otherKeys : ∀ sent ∈ own, sent.txKey ≠ info.rxKey) :
    ∃ accepted lasts, Salvaging log ⟨final, accepted⟩ lasts := by
  have all := Machine.run_invariant
    (fun session : Session => session.Unturned info.sessionId ∧
      session.info.rxKey = info.rxKey ∧ ∃ accepted lasts, Salvaging log ⟨session, accepted⟩ lasts)
    ?_ ⟨.new txBound, rfl, [], [], .new fresh unmarked⟩ keeps reached
  · exact all.2.2
  · intro session action after holds keeps stepped
    rcases holds with ⟨unturned, sameKey, accepted, lasts, salvaging⟩
    have windowed : ∃ accepted', Windowed.next P ⟨session, accepted⟩ action =
        some ⟨after, accepted'⟩ := by
      rw [Windowed.next, stepped]
      exact ⟨_, rfl⟩
    rcases windowed with ⟨accepted', windowed⟩
    rcases Session.progress_of_next stepped with ⟨base, fate, effects, progress, _, rfl⟩
    have epochs := unturned.epochs progress ideal bound types
    refine ⟨unturned.progress progress keeps, ?_, accepted', ?_⟩
    · simpa using (progress.sameKeys epochs).trans sameKey
    · apply salvaging.next windowed (by simpa using epochs) ideal bound numbered
        (fun sent member => types sent (List.mem_append_left _ member))
      rw [sameKey]
      exact otherKeys

end Windowed

namespace Session

variable {P : Primitives}

/-- Whatever frames `far` is made to read, every message that its `recv` calls return is the rest
of a message of `near`, whole if it has a single fragment, and no two are of the same message. -/
theorem recv_leaves_tails (P : Primitives) (nearInfo farInfo : SessionInfo)
    (nearFresh : nearInfo.txSeq = 0) (farFresh : farInfo.rxSeq = 0)
    (unmarked : farInfo.rxWindowBitmap = 0) (farBound : farInfo.txSeq ≤ maxSeq)
    (directions : farInfo.txKey ≠ farInfo.rxKey)
    (nearActions : List SessionAction) (near : Session)
    (nearReached : Machine.run (next P) (.new false nearInfo) nearActions = some near)
    (converses : Machine.Along (next P) Converses (.new false nearInfo) nearActions)
    (farActions : List SessionAction) (far : Session)
    (farReached : Machine.run (next P) (.new false farInfo) farActions = some far)
    (keeps : Machine.Along (next P) KeepsKeys (.new false farInfo) farActions)
    (ideal : P.Unforgeable (near.sent ++ far.sent)) :
    ∃ picks : List Nat, picks.Nodup ∧
      List.Forall₂ (fun message pick =>
        ∃ payload, near.admittedPayloads[pick]? = some payload ∧ IsTail payload message ∧
          (payload.length ≤ usmpMaxDataLen → message = payload)) far.received picks := by
  have nearBound : nearInfo.txSeq ≤ maxSeq := by
    rw [nearFresh]
    exact Nat.zero_le _
  have nearUnturned := unturned_of_run (.new nearBound) nearReached
    (Machine.along_mono (fun _ _ => Converses.keepsKeys) converses)
  have farUnturned := unturned_of_run (.new farBound) farReached keeps
  have bound : ∀ sent ∈ near.sent ++ far.sent, sent.seq ≤ maxSeq := by
    intro sent member
    rcases List.mem_append.mp member with isNear | isFar
    · exact (nearUnturned.logged sent isNear).1
    · exact (farUnturned.logged sent isFar).1
  have types : ∀ sent ∈ near.sent ++ far.sent, sent.type ≠ .rekey := by
    intro sent member
    rcases List.mem_append.mp member with isNear | isFar
    · exact nearUnturned.types sent isNear
    · exact farUnturned.types sent isFar
  have farEpochs := epochs_of_run (.new farBound) farReached keeps ideal bound types
  have otherKeys : ∀ sent ∈ far.sent, sent.txKey ≠ farInfo.rxKey := by
    intro sent isFar same
    have key := (farUnturned.logged sent isFar).2
    rw [farEpochs, Session.new, List.map_singleton, List.mem_singleton] at key
    exact directions (key.symm.trans same)
  have composing := Machine.run_invariant
    (Composing P { txKey := nearInfo.rxKey, rxKey := nearInfo.txKey, rxSeq := nearInfo.txSeq }
      (nearInfo.txKey, nearInfo.rxKey))
    (by
      intro session action after composing converses stepped
      rcases progress_of_next stepped with ⟨base, fate, effects, progress, _, rfl⟩
      exact composing.progress progress converses ideal bound types)
    (.new false nearInfo) converses nearReached
  have numbered : near.sent.map SentFrame.seq = List.range near.sent.length := by
    have seqs := (View.replay_numbered
      (fun sent member => (composing.speaking.talking.types sent member).1)
      composing.speaking.told).1
    rw [seqs, List.range_eq_range', nearFresh]
  rcases Windowed.salvaging_of_run farFresh unmarked farBound farReached keeps ideal bound types
    numbered otherKeys with ⟨accepted, lasts, salvaging⟩
  refine ⟨lasts.map fun last => messagesIn (near.sent.take last), ?_, ?_⟩
  · -- different ends are of different messages
    apply salvaging.nodup.map_on
    intro first isFirst second isSecond same
    rcases salvaging.isData isFirst with ⟨frame, isFrame, isData⟩
    rcases salvaging.isData isSecond with ⟨frame', isFrame', isData'⟩
    rcases Nat.lt_trichotomy first second with before | equal | after
    · exact absurd same (Nat.ne_of_lt (messagesIn_lt isFrame isData before))
    · exact equal
    · exact absurd same.symm (Nat.ne_of_lt (messagesIn_lt isFrame' isData' after))
  · rw [List.forall₂_map_right_iff]
    apply salvaging.returned.imp
    intro message last ends
    rcases ends with ⟨first, ends⟩
    rcases composing.reads.ends first last message ends with ⟨payload, isPayload, tail⟩
    rcases mirror_messages near with ⟨more, admitted⟩
    refine ⟨payload, ?_, tail, tail.whole⟩
    rw [← admitted, List.getElem?_append_left (List.getElem?_eq_some_iff.mp isPayload).1]
    exact isPayload

/-- A message of two fragments and one of one. -/
def longThenShort : List SessionAction :=
  [.call 0 (.send (List.replicate 500 1)) 0, .acquire 0, .wrote 0 none 0, .wrote 0 none 0,
    .call 1 (.send [7]) 0, .acquire 1, .wrote 1 none 0]

/-- The three frames of it. -/
def longThenShortFrames : List SentFrame :=
  [encryptedFrame samplePrimitives (sampleInfo 3 4) 0 (.send (List.replicate 500 1) 0),
    encryptedFrame samplePrimitives (sampleInfo 3 4 1) 0 (.send (List.replicate 500 1) 452),
    encryptedFrame samplePrimitives (sampleInfo 3 4 2) 1 (.send [7] 0)]

/-- The attacker drops the first of them, and delivers the last twice and first. -/
def longThenShortHeard : List SessionAction :=
  ([2, 1, 2].zipIdx.flatMap fun (place, task) =>
    (longThenShortFrames[place]?.toList.flatMap fun sent =>
      [.call task .recv 0, .read task (.ok (sentFrame sent.type sent.payload sent.seq)) 0]))

theorem recv_leaves_tails_longThenShort :
    ∃ near far,
      Machine.run (next (tablePrimitives longThenShortFrames)) (.new false (sampleInfo 3 4))
          longThenShort = some near ∧
        Machine.run (next (tablePrimitives longThenShortFrames)) (.new false (sampleInfo 4 3))
          longThenShortHeard = some far ∧
        far.received = [[7], List.replicate 48 1] ∧
        ∃ picks : List Nat, picks.Nodup ∧
          List.Forall₂ (fun message pick =>
            ∃ payload, near.admittedPayloads[pick]? = some payload ∧ IsTail payload message ∧
              (payload.length ≤ usmpMaxDataLen → message = payload)) far.received picks := by
  rcases Machine.exists_run (next (tablePrimitives longThenShortFrames))
    (.new false (sampleInfo 3 4)) longThenShort (fun near => near.sent = longThenShortFrames)
    (by decide +kernel) with ⟨near, nearReached, isSent⟩
  rcases Machine.exists_run (next (tablePrimitives longThenShortFrames))
    (.new false (sampleInfo 4 3)) longThenShortHeard
    (fun far => far.sent = [] ∧ far.received = [[7], List.replicate 48 1])
    (by decide +kernel) with ⟨far, farReached, nothingSent, received⟩
  refine ⟨near, far, nearReached, farReached, received, ?_⟩
  apply recv_leaves_tails (tablePrimitives longThenShortFrames) (sampleInfo 3 4) (sampleInfo 4 3)
    rfl rfl rfl (by decide) (by decide) longThenShort near nearReached (by decide +kernel)
    longThenShortHeard far farReached (by decide +kernel)
  rw [isSent, nothingSent, List.append_nil]
  exact tablePrimitives_unforgeable _

end Session

end Usmp
