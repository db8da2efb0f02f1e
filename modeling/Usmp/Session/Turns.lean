import Usmp.Session.Fragments
import Usmp.Session.Listener
import Mathlib.Data.List.Chain

/-!
# One turn with the send lock

Whatever calls are made at once, fail or are cancelled, the frames of a session come in turns,
one for each time that the lock is taken.  A turn sends a beginning of what its call has to say,
nothing comes between its frames, and a `send` that returns has said all of it.  Within a turn the
numbers follow each other, except where `recv` accepts a REKEY of the peer.
-/

namespace Usmp

/-- What a frame says, apart from its place in the log. -/
def SentFrame.content (sent : SentFrame) : PacketType × Bytes := (sent.type, sent.plaintext)

/-- The number of fragments of a message; an empty message has one. -/
def fragmentCount (data : Bytes) : Nat :=
  max 1 ((data.length + (usmpMaxDataLen - 1)) / usmpMaxDataLen)

namespace Locked

/-- The first fragments of a message. -/
def fragments (data : Bytes) (count : Nat) : List (PacketType × Bytes) :=
  (List.range count).map fun turn => (Locked.send data (usmpMaxDataLen * turn)).frame

/-- Everything that the call has to say. -/
def script : Locked → List (PacketType × Bytes)
  | .send data _ => fragments data (fragmentCount data)
  | .ping => [Locked.ping.frame]
  | .rekey salt => [(Locked.rekey salt).frame]
  | .bye => [Locked.bye.frame]
  | .pong locals => [(Locked.pong locals).frame]

/-- What the call has said with its current frame. -/
def soFar : Locked → List (PacketType × Bytes)
  | .send data offset => fragments data (offset / usmpMaxDataLen + 1)
  | locked => locked.script

theorem script_of_op {first second : Locked} (same : first.op = second.op) :
    first.script = second.script := by
  cases first <;> cases second <;> cases same <;> rfl

theorem fragments_prefix (data : Bytes) {count more : Nat} (le : count ≤ more) :
    fragments data count <+: fragments data more := by
  apply List.IsPrefix.map
  rw [← Nat.add_sub_cancel' le, List.range_add]
  exact List.prefix_append _ _

/-- A holder is within its script. -/
theorem soFar_prefix {locked : Locked} (placed : locked.Placed) :
    locked.soFar <+: locked.script := by
  cases locked with
  | send data offset =>
      apply fragments_prefix
      rcases placed with ⟨_, _, inside⟩
      simp only [fragmentCount, usmpMaxDataLen, usmpMaxPayload, usmpTagLen, usmpGcmNonceLen]
      omega
  | ping | rekey salt | bye | pong locals => exact List.prefix_rfl

theorem soFar_start {locked : Locked} (start : locked.AtStart) : locked.soFar = [locked.frame] := by
  cases locked with
  | send data offset =>
      cases start
      rfl
  | ping | rekey salt | bye | pong locals => rfl

theorem soFar_next {data : Bytes} {offset : Nat} (placed : (Locked.send data offset).Placed)
    (more : offset + (chunkAt data offset).length < data.length) :
    (Locked.send data (offset + (chunkAt data offset).length)).soFar =
      (Locked.send data offset).soFar ++
        [(Locked.send data (offset + (chunkAt data offset).length)).frame] := by
  rcases placed with ⟨_, ⟨turn, rfl⟩, _⟩
  have count : usmpMaxDataLen * turn / usmpMaxDataLen = turn :=
    Nat.mul_div_cancel_left turn (by decide)
  have next : usmpMaxDataLen * turn + usmpMaxDataLen = usmpMaxDataLen * (turn + 1) := rfl
  have nextCount : usmpMaxDataLen * (turn + 1) / usmpMaxDataLen = turn + 1 :=
    Nat.mul_div_cancel_left (turn + 1) (by decide)
  rw [length_chunkAt_of_more more, next, soFar, soFar, count, nextCount, fragments,
    List.range_succ, List.map_append]
  rfl

/-- After its last fragment the holder has said everything. -/
theorem soFar_last {data : Bytes} {offset : Nat} (placed : (Locked.send data offset).Placed)
    (last : data.length ≤ offset + (chunkAt data offset).length) :
    (Locked.send data offset).soFar = (Locked.send data offset).script := by
  rcases placed with ⟨_, aligned, inside⟩
  have size := length_chunkAt data offset
  rw [soFar, script]
  congr 1
  simp only [fragmentCount, usmpMaxDataLen, usmpMaxPayload, usmpTagLen, usmpGcmNonceLen]
    at size aligned ⊢
  omega

/-- The fragments of a message, laid end to end. -/
theorem fragments_joined (data : Bytes) (count : Nat) :
    ((fragments data count).map Prod.snd).flatten = data.take (usmpMaxDataLen * count) := by
  induction count with
  | zero => rfl
  | succ count ih =>
      rw [fragments, List.range_succ, List.map_append, List.map_append, List.flatten_append,
        ← fragments, ih, Nat.mul_succ, List.take_add]
      simp [frame, chunkAt]

/-- The script of a message says the message. -/
theorem script_joined (data : Bytes) (offset : Nat) :
    ((Locked.send data offset).script.map Prod.snd).flatten = data := by
  rw [script, fragments_joined]
  apply List.take_of_length_le
  simp only [fragmentCount, usmpMaxDataLen, usmpMaxPayload, usmpTagLen, usmpGcmNonceLen]
  omega

/-- Who has said its script has said its message. -/
theorem payload_of_script {data : Bytes} {frames : List SentFrame}
    (said : frames.map SentFrame.content = (Locked.send data 0).script) :
    (frames.map SentFrame.plaintext).flatten = data := by
  rw [← script_joined data 0, ← said, List.map_map]
  rfl

end Locked

/-- The next frame of a session comes right after this one, or the numbering has restarted.
`heard` says after which frame a REKEY of the peer brought which key. -/
def SentFrame.LeadsTo (heard : SentFrame → Key → Prop) (info : SessionInfo) (sent : SentFrame) :
    Prop :=
  info.txSeq = sent.seq + 1 ∧ info.txKey = sent.txKey ∨ info.txSeq = 0 ∧ heard sent info.txKey

/-- The frames that one call sends while it holds the lock. -/
structure Tenure (heard : SentFrame → Key → Prop) (entry : Nat × Locked)
    (frames : List SentFrame) : Prop where
  task : ∀ frame ∈ frames, frame.task = entry.1
  script : frames.map SentFrame.content <+: entry.2.script
  successive : frames.IsChain fun frame next =>
    next.seq = frame.seq + 1 ∧ next.txKey = frame.txKey ∨ next.seq = 0 ∧ heard frame next.txKey

variable {heard : SentFrame → Key → Prop}

theorem Tenure.nil (entry : Nat × Locked) : Tenure heard entry [] :=
  ⟨List.forall_mem_nil _, List.nil_prefix, .nil⟩

theorem Tenure.first {P : Primitives} {info : SessionInfo} {task : Nat} {locked : Locked}
    (placed : locked.Placed) (start : locked.AtStart) :
    Tenure heard (task, locked) [encryptedFrame P info task locked] := by
  refine ⟨?_, ?_, .singleton _⟩
  · intro frame member
    rw [List.mem_singleton.mp member]
    rfl
  · have said := Locked.soFar_prefix placed
    rw [Locked.soFar_start start] at said
    exact said

namespace Session

/-- The step hands `recv` a REKEY of the peer, and `recv` accepts it. -/
def HearsRekey (P : Primitives) (session : Session) (action : SessionAction) : Prop :=
  ∃ task result now locals pending frame plaintext, action = .read task result now ∧
    session.tasks task = some (.reading locals pending) ∧
    acceptedFrame P session.reliable session.info locals now result = some (frame, plaintext) ∧
    frame.type = .rekey

/-- In the run a REKEY of the peer was accepted when this was the last frame of the log, and
brought this key. -/
def Rekeyed (P : Primitives) (start : Session) (actions : List SessionAction)
    (sent : SentFrame) (txKey : Key) : Prop :=
  ∃ earlier action later before after, actions = earlier ++ action :: later ∧
    Machine.run (next P) start earlier = some before ∧ before.next P action = some after ∧
    HearsRekey P before action ∧ before.sent.getLast? = some sent ∧ after.info.txKey = txKey

/-- The log of a session, cut into its turns with the lock. -/
structure Turns (heard : SentFrame → Key → Prop) (session : Session)
    (turns : List ((Nat × Locked) × List SentFrame)) : Prop where
  admitted : turns.map Prod.fst = session.admitted
  log : turns.flatMap Prod.snd = session.sent
  tenures : ∀ turn ∈ turns, Tenure heard turn.1 turn.2
  /-- The last turn is that of the holder. -/
  holding : ∀ task locked, session.tasks task = some (.writing locked) →
    ∃ earlier first frames, turns = earlier ++ [((task, first), frames)] ∧
      first.op = locked.op ∧ frames.map SentFrame.content = locked.soFar ∧
      (locked ≠ .bye → ∀ frame ∈ frames.getLast?, frame.LeadsTo heard session.info)
  known : ∀ outcome ∈ session.outcomes, outcome.1 ∈ session.calls.map Prod.fst
  /-- A `send` that returned has said everything in one turn. -/
  whole : ∀ task data, (task, Op.send data) ∈ session.calls →
    (task, .returned none) ∈ session.outcomes →
    ∃ turn ∈ turns, turn.1.1 = task ∧
      turn.2.map SentFrame.content = (Locked.send data 0).script ∧
      (turn.2.map SentFrame.plaintext).flatten = data

theorem Turns.new (reliable : Bool) (info : SessionInfo) (now : Rat) :
    Turns heard (Session.new reliable info now) [] := by
  constructor <;> simp [Session.new]

/-- The frame of the holder, at the end of its turn. -/
theorem encryptedFrame_leadsTo {P : Primitives} {info : SessionInfo} (task : Nat) {locked : Locked}
    (unspent : info.txSeq < maxSeq ∨ locked.frame.1 = .bye) (notBye : locked ≠ .bye) :
    (encryptedFrame P info task locked).LeadsTo heard
      { info with txSeq := min (info.txSeq + 1) maxSeq } := by
  have below : info.txSeq < maxSeq := by
    rcases unspent with below | isBye
    · exact below
    · exact absurd (Locked.frame_bye isBye) notBye
  exact .inl ⟨Nat.min_eq_left below, rfl⟩

/-- What another coroutine does to the numbering keeps the place of the holder's last frame. -/
theorem Progress.leadsTo {P : Primitives} {before base : Session} {action : SessionAction}
    {fate : Fate} {effects : Effects} (progress : Progress P before action base fate effects)
    (silent : effects.write = none) {frame : SentFrame} (leads : frame.LeadsTo heard before.info)
    (notHolder : ∀ locked, before.tasks action.task ≠ some (.writing locked))
    (hears : HearsRekey P before action → heard frame base.info.txKey) :
    frame.LeadsTo heard base.info := by
  cases progress with
  | encrypted task action locked admitted ready unspent => cases silent
  | rekeyed task salt now writing => exact absurd writing (notHolder _)
  | received task locals pending now result reading turn isTurn =>
      rcases recvTurn_keys P before.reliable before.info locals now result with
        ⟨same, _⟩ | ⟨salt, keys, _, rotated, rotations⟩
      · rw [← isTurn] at same
        rcases leads with ⟨next, sameKey⟩ | ⟨restarted, isHeard⟩
        · exact .inl ⟨same.txSeq.trans next, same.txKey.trans sameKey⟩
        · exact .inr ⟨same.txSeq.trans restarted, same.txKey.symm ▸ isHeard⟩
      · rw [← isTurn] at rotated
        refine .inr ⟨by rw [rotated]; rfl, hears ?_⟩
        have heardRekey : ∃ frame plaintext, acceptedFrame P before.reliable before.info locals now
            result = some (frame, plaintext) ∧ frame.type = .rekey := by
          cases isAccepted :
              acceptedFrame P before.reliable before.info locals now result with
          | none =>
              rw [(refused_turn isAccepted).rotations] at rotations
              cases rotations
          | some accepted =>
              rcases accepted_turn isAccepted with ⟨_, _, turn⟩
              rcases turn.rotations with ⟨_, none⟩ | ⟨isRekey, _⟩
              · rw [none] at rotations
                cases rotations
              · exact ⟨_, _, rfl, isRekey⟩
        rcases heardRekey with ⟨frame, plaintext, isAccepted, isRekey⟩
        exact ⟨task, result, now, locals, pending, frame, plaintext, rfl, reading, isAccepted,
          isRekey⟩
  | _ => exact leads

variable {P : Primitives}

theorem CallInv.same_op {session : Session} (inv : CallInv session) {task : Nat} {op other : Op}
    (isOp : (task, op) ∈ session.calls) (isOther : (task, other) ∈ session.calls) : op = other :=
  Option.some.inj ((inv.lookup isOp).symm.trans (inv.lookup isOther))

/-- A `send` returns only after its last fragment. -/
theorem Progress.returned {before base : Session} {action : SessionAction} {fate : Fate}
    {effects : Effects} (inv : CallInv before)
    (progress : Progress P before action base fate effects) {data : Bytes}
    (isSend : (action.task, Op.send data) ∈ base.calls)
    (returned : fate = .ended (.returned none)) :
    ∃ offset, before.tasks action.task = some (.writing (.send data offset)) ∧
      data.length ≤ offset + (chunkAt data offset).length := by
  -- the exception of a message leaves its call
  have raises : ∀ {locked : Locked} {exn : Exn}, locked.op = .send data →
      locked.raisedFate before.reliable exn ≠ .ended (.returned none) := by
    intro locked exn isSend impossible
    cases locked <;> cases isSend
    cases impossible
  cases progress with
  | called task op now isNew =>
      rcases List.mem_append.mp isSend with old | new
      · exact absurd (List.mem_map_of_mem (f := Prod.fst) old) isNew
      · cases List.mem_singleton.mp new
        simp only [Op.start] at returned
        split at returned <;> cases returned
  | encrypted task action locked admitted ready unspent => cases returned
  | refused task action locked admitted ready spent notBye exn =>
      rcases ready.facts inv with ⟨isTask, call, _⟩
      rw [isTask] at isSend
      exact absurd returned (raises (inv.same_op call isSend))
  | failed task locked exn now writing =>
      have call := inv.known task _ writing
      exact absurd returned (raises (inv.same_op call isSend))
  | sent task other offset now writing last =>
      have call := inv.known task _ writing
      cases inv.same_op call isSend
      exact ⟨offset, writing, last⟩
  | signalled task locked now writing kind =>
      have same := inv.same_op (inv.known task _ writing) isSend
      rcases kind with rfl | rfl <;> cases same
  | rekeyed task salt now writing => cases inv.same_op (inv.known task _ writing) isSend
  | ponged task locals now writing => cases inv.same_op (inv.known task _ writing) isSend
  | received task locals pending now result reading turn isTurn =>
      cases inv.same_op (inv.known task _ reading) isSend
  | tookHeader task locals header reading => cases returned
  | abandoned task at_ isAt unlocked => cases returned
  | interrupted task locked writing => cases returned

/-- Only a coroutine that encrypts waits for a write next. -/
theorem Progress.writes_next {before base : Session} {action : SessionAction} {fate : Fate}
    {effects : Effects} (progress : Progress P before action base fate effects)
    (silent : effects.write = none) (locked : Locked) : fate.await ≠ some (.writing locked) := by
  intro writing
  have stepped : ∀ {step : RecvStep}, step.fate.await ≠ some (.writing locked) := by
    intro step isNext
    rcases RecvStep.await_fate isNext with ⟨_, impossible⟩ | ⟨_, impossible⟩ <;> cases impossible
  have raised : ∀ {other : Locked} {exn : Exn},
      (other.raisedFate before.reliable exn).await ≠ some (.writing locked) := by
    intro other exn isNext
    rcases Locked.await_raisedFate isNext with ⟨_, _, _, impossible⟩
    cases impossible
  cases progress with
  | called task op now isNew => exact (Op.await_start writing).2.2 locked rfl
  | encrypted task action locked admitted ready unspent => cases silent
  | refused | failed => exact raised writing
  | ponged | received => exact stepped writing
  | sent | signalled | rekeyed | tookHeader | abandoned | interrupted => cases writing

variable {before base : Session} {action : SessionAction} {fate : Fate} {effects : Effects}
  {turns after : List ((Nat × Locked) × List SentFrame)}

/-- The turns after a step, once its own turn is accounted for. -/
theorem Turns.settle (divided : Turns heard before turns) (inv : CallInv before)
    (progress : Progress P before action base fate effects)
    (admitted : after.map Prod.fst = base.admitted) (log : after.flatMap Prod.snd = base.sent)
    (tenures : ∀ turn ∈ after, Tenure heard turn.1 turn.2)
    (holding : ∀ task locked, (base.settle action.task fate).tasks task = some (.writing locked) →
      ∃ earlier first frames, after = earlier ++ [((task, first), frames)] ∧
        first.op = locked.op ∧ frames.map SentFrame.content = locked.soFar ∧
        (locked ≠ .bye → ∀ frame ∈ frames.getLast?, frame.LeadsTo heard base.info))
    (kept : ∀ turn ∈ turns, ∀ data, (turn.1.1, Op.send data) ∈ before.calls →
      turn.2.map SentFrame.content = (Locked.send data 0).script → turn ∈ after) :
    Turns heard (base.settle action.task fate) after := by
  rcases progress.called_task inv with ⟨isCalled, more, calls⟩
  have outcomes : (base.settle action.task fate).outcomes =
      before.outcomes ++ fate.outcome.toList.map (Prod.mk action.task) := by
    rw [settle_outcomes, progress.frame.2]
  refine ⟨by simpa using admitted, by simpa using log, tenures, by simpa using holding, ?_, ?_⟩
  · intro outcome member
    rw [outcomes] at member
    simp only [settle_frame]
    rcases List.mem_append.mp member with old | new
    · rw [calls, List.map_append]
      exact List.mem_append_left _ (divided.known outcome old)
    · rcases List.mem_map.mp new with ⟨_, _, rfl⟩
      exact isCalled
  · intro task data isSend returned
    simp only [settle_frame] at isSend
    rw [outcomes] at returned
    have sound : ∀ {task data}, (task, Op.send data) ∈ base.calls →
        task ∈ before.calls.map Prod.fst → (task, Op.send data) ∈ before.calls := by
      intro task data isSend isOld
      rcases List.mem_map.mp isOld with ⟨call, isCall, rfl⟩
      have later := (callInv_progress inv progress).same_op
        (by simpa only [settle_frame] using isSend)
        (by simpa only [settle_frame, calls] using List.mem_append_left more isCall)
      rw [later]
      exact isCall
    rcases List.mem_append.mp returned with old | new
    · have isOld := sound isSend (divided.known _ old)
      rcases divided.whole task data isOld old with ⟨turn, isTurn, rfl, said, joined⟩
      exact ⟨turn, kept turn isTurn data isOld said, rfl, said, joined⟩
    · rcases List.mem_map.mp new with ⟨outcome, isOutcome, same⟩
      cases same
      have isFate : fate = .ended (.returned none) := by
        cases fate with
        | suspended at_ => cases isOutcome
        | ended other =>
            cases Option.mem_toList.mp isOutcome
            rfl
      rcases progress.returned inv isSend isFate with ⟨offset, writing, last⟩
      rcases divided.holding _ _ writing with ⟨earlier, first, frames, isTurns, _, said, _⟩
      have isCall := inv.known _ _ writing
      have isTurn : ((action.task, first), frames) ∈ turns := by
        rw [isTurns]
        exact List.mem_append_right _ List.mem_cons_self
      rw [Locked.soFar_last (inv.placed _ _ writing) last] at said
      exact ⟨_, kept _ isTurn data isCall said, rfl, said, Locked.payload_of_script said⟩

/-- A step without a frame leaves the turns as they are. -/
theorem Turns.silent (divided : Turns heard before turns) (inv : CallInv before)
    (progress : Progress P before action base fate effects) (silent : effects.write = none)
    (admitted : base.admitted = before.admitted)
    (hears : ∀ frame, before.sent.getLast? = some frame → HearsRekey P before action →
      heard frame base.info.txKey) : Turns heard (base.settle action.task fate) turns := by
  apply divided.settle inv progress (divided.admitted.trans admitted.symm) ?_ divided.tenures ?_
    (fun turn isTurn _ _ _ => isTurn)
  · rw [progress.log, silent]
    simpa using divided.log
  · intro task locked writing
    by_cases same : task = action.task
    · subst same
      rw [settle_tasks, Function.update_self] at writing
      exact absurd writing (progress.writes_next silent locked)
    · rw [settle_tasks, Function.update_of_ne same, progress.frame.1] at writing
      rcases divided.holding task locked writing with
        ⟨earlier, first, frames, isTurns, sameOp, said, leads⟩
      refine ⟨earlier, first, frames, isTurns, sameOp, said, fun notBye frame isLast => ?_⟩
      have isEnd : before.sent.getLast? = some frame := by
        rw [← divided.log, isTurns, List.flatMap_append, List.flatMap_singleton,
          List.getLast?_append, Option.mem_def.mp isLast]
        rfl
      exact progress.leadsTo silent (leads notBye frame isLast)
        (fun other isOther => same (inv.holder_unique isOther writing)) (hears frame isEnd)

/-- The lock is taken. -/
theorem Turns.taken (divided : Turns heard before turns) (inv : CallInv before)
    (progress : Progress P before action base fate effects) {task : Nat} {locked : Locked}
    {frames : List SentFrame} (free : before.lock = none)
    (admitted : base.admitted = before.admitted ++ [(task, locked)])
    (log : base.sent = before.sent ++ frames) (tenure : Tenure heard (task, locked) frames)
    (isTask : action.task = task)
    (begun : ∀ other, fate.await = some (.writing other) → other = locked ∧
      frames.map SentFrame.content = locked.soFar ∧
      (locked ≠ .bye → ∀ frame ∈ frames.getLast?, frame.LeadsTo heard base.info)) :
    Turns heard (base.settle action.task fate) (turns ++ [((task, locked), frames)]) := by
  subst isTask
  apply divided.settle inv progress
  · rw [List.map_append, divided.admitted, admitted]
    rfl
  · rw [List.flatMap_append, divided.log, log]
    simp
  · intro turn isTurn
    rcases List.mem_append.mp isTurn with old | new
    · exact divided.tenures turn old
    · rw [List.mem_singleton.mp new]
      exact tenure
  · intro other writing isWriting
    by_cases same : other = action.task
    · subst same
      rw [settle_tasks, Function.update_self] at isWriting
      rcases begun writing isWriting with ⟨rfl, said, leads⟩
      exact ⟨turns, writing, frames, rfl, rfl, said, leads⟩
    · rw [settle_tasks, Function.update_of_ne same, progress.frame.1] at isWriting
      exact absurd isWriting (inv.not_writing free other writing)
  · intro turn isTurn data isCall said
    exact List.mem_append_left _ isTurn

/-- The holder goes on with the next fragment of its message. -/
theorem Turns.continued (divided : Turns heard before turns) (inv : CallInv before)
    {task offset : Nat} {data : Bytes} (writing :
    before.tasks task = some (.writing (.send data offset)))
    (more : offset + (chunkAt data offset).length < data.length)
    (progress : Progress P before action base
      (.suspended (.writing (.send data (offset + (chunkAt data offset).length)))) effects)
    (isTask : action.task = task) (admitted : base.admitted = before.admitted)
    (log : base.sent = before.sent ++ [encryptedFrame P before.info task
      (.send data (offset + (chunkAt data offset).length))])
    (info : base.info = { before.info with txSeq := min (before.info.txSeq + 1) maxSeq })
    (unspent : before.info.txSeq < maxSeq) :
    ∃ after, Turns heard (base.settle action.task
      (.suspended (.writing (.send data (offset + (chunkAt data offset).length))))) after := by
  subst isTask
  rcases divided.holding _ _ writing with ⟨earlier, first, frames, rfl, sameOp, said, leads⟩
  have placed := inv.placed _ _ writing
  have scripts : first.script = (Locked.send data 0).script := Locked.script_of_op sameOp
  have tenure := divided.tenures _ (List.mem_append_right _ List.mem_cons_self)
  generalize isFrame : encryptedFrame P before.info action.task
    (.send data (offset + (chunkAt data offset).length)) = frame at log
  have content : (frames ++ [frame]).map SentFrame.content =
      (Locked.send data (offset + (chunkAt data offset).length)).soFar := by
    rw [List.map_append, said, Locked.soFar_next placed more, ← isFrame]
    rfl
  have next : (Locked.send data (offset + (chunkAt data offset).length)).soFar <+:
      (Locked.send data 0).script := Locked.soFar_prefix (placed.next more)
  refine ⟨earlier ++ [((action.task, first), frames ++ [frame])], ?_⟩
  apply divided.settle inv progress
  · rw [admitted, ← divided.admitted, List.map_append, List.map_append]
    rfl
  · rw [log, ← divided.log, List.flatMap_append, List.flatMap_append, List.append_assoc]
    simp
  · intro turn isTurn
    rcases List.mem_append.mp isTurn with old | new
    · exact divided.tenures turn (List.mem_append_left _ old)
    · rw [List.mem_singleton.mp new]
      refine ⟨?_, ?_, ?_⟩
      · intro sent member
        rcases List.mem_append.mp member with old | new
        · exact tenure.task sent old
        · rw [List.mem_singleton.mp new, ← isFrame]
          rfl
      · rw [content, scripts]
        exact next
      · apply tenure.successive.append (.singleton _)
        intro last isLast sent isSent
        cases Option.mem_some.mp isSent
        rw [← isFrame]
        exact leads (by simp) last isLast
  · intro other locked isWriting
    by_cases same : other = action.task
    · subst same
      rw [settle_tasks, Function.update_self] at isWriting
      cases isWriting
      refine ⟨earlier, first, frames ++ [frame], rfl, sameOp, content, ?_⟩
      intro notBye sent isLast
      rw [List.getLast?_concat] at isLast
      cases Option.mem_some.mp isLast
      rw [← isFrame, info]
      exact encryptedFrame_leadsTo _ (.inl unspent) notBye
    · rw [settle_tasks, Function.update_of_ne same, progress.frame.1] at isWriting
      exact absurd (inv.holder_unique writing isWriting) same
  · intro turn isTurn other isCall whole
    rcases List.mem_append.mp isTurn with old | new
    · exact List.mem_append_left _ old
    · -- the holder has not said everything yet
      exfalso
      rw [List.mem_singleton.mp new] at isCall whole
      cases inv.same_op isCall (inv.known _ _ writing)
      have longer := next.length_le
      rw [Locked.soFar_next placed more, ← said, whole, List.length_append,
        List.length_singleton] at longer
      omega

theorem Turns.progress (divided : Turns heard before turns) (inv : CallInv before)
    (progress : Progress P before action base fate effects)
    (hears : ∀ frame, before.sent.getLast? = some frame → HearsRekey P before action →
      heard frame base.info.txKey) :
    ∃ after, Turns heard (base.settle action.task fate) after := by
  have step := progress
  cases progress with
  | encrypted task action locked admitted ready unspent =>
      cases ready with
      | admitted locked free waiting =>
          have placed := inv.placed _ _ waiting
          refine ⟨_, divided.taken inv step free rfl rfl (.first placed.1 placed.2) rfl ?_⟩
          intro other isOther
          cases isOther
          refine ⟨rfl, (Locked.soFar_start placed.2).symm, ?_⟩
          intro notBye frame isLast
          cases Option.mem_some.mp isLast
          exact encryptedFrame_leadsTo task unspent notBye
      | nextFragment data offset now writing more =>
          have below : before.info.txSeq < maxSeq := by
            rcases unspent with below | isBye
            · exact below
            · cases Locked.frame_bye isBye
          exact divided.continued inv writing more step rfl rfl rfl rfl below
  | refused task action locked admitted ready spent notBye exn =>
      cases ready with
      | admitted locked free waiting =>
          refine ⟨_, divided.taken inv step free rfl (List.append_nil _).symm (.nil _) rfl ?_⟩
          intro other isOther
          exact absurd isOther (step.writes_next rfl other)
      | nextFragment data offset now writing more => 
          exact ⟨turns, divided.silent inv step rfl rfl hears⟩
  | _ => exact ⟨turns, divided.silent inv step rfl rfl hears⟩

/-! ## Every `send` has one turn -/

/-- A `send` starts to wait for the lock only when it is called. -/
theorem Progress.waits_next (progress : Progress P before action base fate effects) {data : Bytes}
    {offset : Nat} (waits : fate.await = some (.lockWait (.send data offset))) :
    action.task ∉ before.calls.map Prod.fst := by
  have stepped : ∀ {step : RecvStep}, step.fate.await ≠ some (.lockWait (.send data offset)) := by
    intro step isNext
    rcases RecvStep.await_fate isNext with ⟨_, impossible⟩ | ⟨_, impossible⟩ <;> cases impossible
  have raised : ∀ {other : Locked} {exn : Exn},
      (other.raisedFate before.reliable exn).await ≠ some (.lockWait (.send data offset)) := by
    intro other exn isNext
    rcases Locked.await_raisedFate isNext with ⟨_, _, _, impossible⟩
    cases impossible
  cases progress with
  | called task op now isNew => exact isNew
  | refused | failed => exact absurd waits raised
  | ponged | received => exact absurd waits stepped
  | encrypted | sent | signalled | rekeyed | tookHeader | abandoned | interrupted => cases waits

/-- The lock admits a call of `send` at most once. -/
structure Once (session : Session) : Prop where
  nodup : (session.admittedSends.map Prod.fst).Nodup
  called : ∀ task ∈ session.admittedSends.map Prod.fst, task ∈ session.calls.map Prod.fst
  waiting : ∀ task data offset, session.tasks task = some (.lockWait (.send data offset)) →
    task ∉ session.admittedSends.map Prod.fst

theorem Once.new (reliable : Bool) (info : SessionInfo) (now : Rat) :
    Once (Session.new reliable info now) := by
  constructor <;> simp [Session.new, admittedSends]

/-- The step admits the call that it resumes, or none. -/
theorem Progress.admitted (progress : Progress P before action base fate effects) :
    base.admitted = before.admitted ∨
      ∃ locked, before.tasks action.task = some (.lockWait locked) ∧
        base.admitted = before.admitted ++ [(action.task, locked)] := by
  cases progress with
  | encrypted task action locked admitted ready unspent =>
      cases ready with
      | admitted locked free waiting => exact .inr ⟨locked, waiting, rfl⟩
      | nextFragment data offset now writing more => exact .inl rfl
  | refused task action locked admitted ready spent notBye exn =>
      cases ready with
      | admitted locked free waiting => exact .inr ⟨locked, waiting, rfl⟩
      | nextFragment data offset now writing more => exact .inl rfl
  | _ => exact .inl rfl

theorem Once.progress (once : Once before) (inv : CallInv before)
    (progress : Progress P before action base fate effects) :
    Once (base.settle action.task fate) := by
  rcases progress.called_task inv with ⟨isCalled, more, calls⟩
  have known : ∀ task ∈ before.calls.map Prod.fst, task ∈ base.calls.map Prod.fst := by
    intro task member
    rw [calls, List.map_append]
    exact List.mem_append_left _ member
  -- who waits now has waited before, or is a new call
  have waited : ∀ task data offset,
      (base.settle action.task fate).tasks task = some (.lockWait (.send data offset)) →
      task ≠ action.task ∧ task ∉ before.admittedSends.map Prod.fst ∨
        task = action.task ∧ task ∉ before.calls.map Prod.fst := by
    intro task data offset waits
    by_cases same : task = action.task
    · subst same
      rw [settle_tasks, Function.update_self] at waits
      exact .inr ⟨rfl, progress.waits_next waits⟩
    · rw [settle_tasks, Function.update_of_ne same, progress.frame.1] at waits
      exact .inl ⟨same, once.waiting task data offset waits⟩
  have sends : (base.settle action.task fate).admittedSends =
      before.admittedSends ∨ ∃ data offset,
        before.tasks action.task = some (.lockWait (.send data offset)) ∧
        (base.settle action.task fate).admittedSends =
          before.admittedSends ++ [(action.task, data)] := by
    simp only [admittedSends, settle_frame]
    rcases progress.admitted with same | ⟨locked, waiting, grown⟩
    · exact .inl (by rw [same])
    · rw [grown, List.filterMap_append]
      cases locked with
      | send data offset => exact .inr ⟨data, offset, waiting, rfl⟩
      | ping | rekey salt | bye | pong locals => exact .inl (List.append_nil _)
  rcases sends with same | ⟨data, offset, waiting, grown⟩
  · refine ⟨by rw [same]; exact once.nodup, ?_, ?_⟩
    · intro task member
      rw [same] at member
      simpa only [settle_frame] using known task (once.called task member)
    · intro task data offset waits member
      rw [same] at member
      rcases waited task data offset waits with ⟨_, isNew⟩ | ⟨_, isNew⟩
      · exact isNew member
      · exact isNew (once.called task member)
  · have isNew := once.waiting _ data offset waiting
    have isOld := List.mem_map_of_mem (f := Prod.fst) (inv.known _ _ waiting)
    refine ⟨?_, ?_, ?_⟩
    · rw [grown, List.map_append, List.map_singleton]
      exact List.nodup_append.mpr ⟨once.nodup, List.nodup_singleton _, by
        intro task member other isOther same
        rw [List.mem_singleton.mp isOther] at same
        rw [same] at member
        exact isNew member⟩
    · intro task member
      rw [grown, List.map_append] at member
      simp only [settle_frame]
      rcases List.mem_append.mp member with old | new
      · exact known task (once.called task old)
      · rw [List.mem_singleton.mp new]
        exact isCalled
    · intro task data offset waits member
      rw [grown, List.map_append] at member
      rcases waited task data offset waits with ⟨other, notAdmitted⟩ | ⟨rfl, notCalled⟩
      · rcases List.mem_append.mp member with old | new
        · exact notAdmitted old
        · exact other (List.mem_singleton.mp new)
      · exact notCalled isOld

/-- In every run the log consists of one turn for each time that the lock was taken, and within a
turn the numbering restarts only where `recv` accepted a REKEY. -/
theorem sent_in_turns (P : Primitives) (reliable : Bool) (info : SessionInfo) (now : Rat)
    (actions : List SessionAction) (final : Session)
    (reached : Machine.run (next P) (new reliable info now) actions = some final) :
    (∃ turns, Turns (Rekeyed P (new reliable info now) actions) final turns) ∧ Once final := by
  have all := Machine.run_invariant_at
    (fun session => CallInv session ∧
      (∃ turns, Turns (Rekeyed P (new reliable info now) actions) session turns) ∧ Once session)
    ?_ ⟨.new reliable info now, ⟨[], .new reliable info now⟩, .new reliable info now⟩ reached
  · exact all.2
  · intro earlier action later session next isRun here holds stepped
    rcases holds with ⟨inv, ⟨turns, divided⟩, once⟩
    have isNext := stepped
    rcases Option.map_eq_some_iff.mp stepped with ⟨result, performed, rfl⟩
    rcases progress_of_step performed with ⟨base, fate, progress, settled⟩
    rw [settled] at isNext ⊢
    refine ⟨callInv_progress inv progress, divided.progress inv progress ?_,
      once.progress inv progress⟩
    intro frame isLast hears
    exact ⟨earlier, action, later, session, _, isRun, here, isNext, hears, isLast,
      by simp only [settle_frame]⟩

/-- Three calls at once: a message of two fragments, one that fails, and one that is cancelled
before its last fragment. -/
def crowdedRun : List SessionAction :=
  [.call 0 (.send (List.replicate 500 1)) 0, .call 1 (.send [7]) 0,
    .call 2 (.send (List.replicate 1000 2)) 0, .acquire 0, .call 3 .ping 0, .wrote 0 none 0,
    .wrote 0 none 0, .acquire 2, .wrote 2 none 0, .cancel 2, .acquire 1,
    .wrote 1 (some ⟨.osError, "not acknowledged"⟩) 0, .acquire 3]

theorem sent_in_turns_crowdedRun :
    ∃ final, Machine.run (next samplePrimitives) (new false (sampleInfo 3 4) 0) crowdedRun =
        some final ∧
      final.sent.map SentFrame.task = [0, 0, 2, 2, 1, 3] ∧
      (∃ turns, Turns (Rekeyed samplePrimitives (new false (sampleInfo 3 4) 0) crowdedRun) final
        turns) ∧ Once final := by
  rcases Machine.exists_run (next samplePrimitives) (new false (sampleInfo 3 4) 0) crowdedRun
    (fun final => final.sent.map SentFrame.task = [0, 0, 2, 2, 1, 3]) (by decide +kernel) with
    ⟨final, reached, tasks⟩
  exact ⟨final, reached, tasks,
    sent_in_turns samplePrimitives false (sampleInfo 3 4) 0 crowdedRun final reached⟩

end Session

end Usmp
