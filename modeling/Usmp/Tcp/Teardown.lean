import Usmp.Tcp.Farewell
import Usmp.Tcp.Flow

/-!
# The end of a session

Only the first call of `bye` does anything, and however it ends, it closes the transport.  A closed
transport goes on taking frames until its buffer is empty: only when it was closed with nothing in
its buffer is the BYE the last of them.
-/

namespace Usmp

theorem Locked.op_bye {locked : Locked} (isBye : locked.op = .bye) : locked = .bye := by
  cases locked <;> first | rfl | cases isBye

theorem Locked.frame_ne_bye {locked : Locked} (notBye : locked ≠ .bye) :
    locked.frame.1 ≠ .bye := by
  cases locked with
  | bye => exact absurd rfl notBye
  | send data offset =>
      simp only [Locked.frame]
      split <;> simp
  | ping | rekey salt | pong locals => simp [Locked.frame]

namespace Session

variable {P : Primitives}

/-- How many BYE frames were encrypted. -/
def byes (session : Session) : Nat := session.sent.countP fun frame => frame.type = .bye

/-- No coroutine of `bye` is alive. -/
def NoBye (session : Session) : Prop :=
  ∀ task at_, session.tasks task = some at_ → at_.op ≠ .bye

/-- What a step means for the end of the session. -/
inductive ByeMove (before base : Session) (task : Nat) (fate : Fate) (effects : Effects) :
    Prop where
  /-- The first call of `bye`. -/
  | begins (wasOpen : before.closed = false) (closed : base.closed = true)
      (waits : fate = .suspended (.lockWait .bye)) (noClose : effects.calls.contains .close = false)
      (noWrite : effects.write = none)
  /-- It takes the lock. -/
  | encrypts (frame : SentFrame) (waiting : before.tasks task = some (.lockWait .bye))
      (writes : fate = .suspended (.writing .bye)) (closed : base.closed = before.closed)
      (noClose : effects.calls.contains .close = false) (isBye : frame.type = .bye)
      (write : effects.write = some frame)
  /-- It is over, one way or another. -/
  | ends (at_ : Task) (isAt : before.tasks task = some at_) (isBye : at_.op = .bye)
      (isOver : fate.await = none) (closes : effects.calls.contains .close = true)
      (closed : base.closed = before.closed) (noWrite : effects.write = none)
  /-- Any other coroutine. -/
  | other (notBefore : ∀ at_, before.tasks task = some at_ → at_.op ≠ .bye)
      (notAfter : ∀ at_, fate.await = some at_ → at_.op ≠ .bye)
      (noClose : effects.calls.contains .close = false) (closed : base.closed = before.closed)
      (noBye : ∀ frame ∈ effects.write, frame.type ≠ .bye)
      (holds : effects.write.isSome → before.lock = none ∨ before.lock = some task)

theorem byeMove_of_progress {before base : Session} {action : SessionAction} {fate : Fate}
    {effects : Effects} (inv : CallInv before)
    (progress : Progress P before action base fate effects) :
    ByeMove before base action.task fate effects := by
  have recvs : ∀ {step : RecvStep} {at_ : Task}, step.fate.await = some at_ → at_.op ≠ .bye := by
    intro step at_ isAt
    rcases RecvStep.await_fate isAt with ⟨_, rfl⟩ | ⟨_, rfl⟩ <;> simp [Locked.op]
  have raises : ∀ {locked : Locked} {reliable : Bool} {exn : Exn} {at_ : Task},
      (locked.raisedFate reliable exn).await = some at_ → at_.op ≠ .bye := by
    intro locked reliable exn at_ isAt
    rcases Locked.await_raisedFate isAt with ⟨_, _, _, rfl⟩
    simp
  have only : ∀ {task : Nat} {at_ : Task}, before.tasks task = some at_ → at_.op ≠ .bye →
      ∀ other, before.tasks task = some other → other.op ≠ .bye := by
    intro task at_ isAt notBye other isOther
    rw [isAt] at isOther
    cases isOther
    exact notBye
  cases progress with
  | called task op now isNew =>
      have idle := inv.none_of_new isNew
      have nothing : ∀ at_, before.tasks task = some at_ → at_.op ≠ .bye := by
        intro at_ isAt
        rw [idle] at isAt
        cases isAt
      by_cases isBye : op = .bye
      · subst isBye
        cases closed : before.closed with
        | false => exact .begins closed (by simp) (by simp [Op.start]) rfl rfl
        | true =>
            refine .other nothing ?_ rfl (by simp [closed]) (by simp) (by simp)
            simp [Op.start, Fate.await]
      · refine .other nothing ?_ rfl ?_ (by simp) (by simp)
        · intro at_ isAt
          rw [(Op.await_start isAt).1]
          exact isBye
        · cases op <;> first | exact absurd rfl isBye | simp
  | encrypted task action locked admitted ready unspent =>
      rcases ready.was with ⟨isTask, was, wasAt, sameOp, _⟩
      rw [isTask]
      by_cases isBye : locked = .bye
      · subst isBye
        cases ready with
        | admitted locked free waiting =>
            exact .encrypts _ waiting rfl rfl rfl rfl rfl
      · refine .other (only wasAt fun same => isBye (Locked.op_bye (sameOp.symm.trans same)))
          ?_ rfl rfl ?_ ?_
        · intro at_ isAt
          cases isAt
          exact fun same => isBye (Locked.op_bye same)
        · simp [encryptedFrame, Locked.frame_ne_bye isBye]
        · intro _
          cases ready with
          | admitted locked free waiting => exact .inl free
          | nextFragment data offset now writing more =>
              exact .inr ((inv.holder task).mpr ⟨_, writing⟩)
  | refused task action locked admitted ready spent notBye exn =>
      rcases ready.was with ⟨isTask, was, wasAt, sameOp, _⟩
      rw [isTask]
      refine .other (only wasAt fun same => ?_) (fun at_ => raises) rfl rfl (by simp) (by simp)
      have isBye := Locked.op_bye (sameOp.symm.trans same)
      exact notBye (by rw [isBye]; rfl)
  | failed task locked exn now writing =>
      by_cases isBye : locked = .bye
      · subst isBye
        refine .ends _ writing rfl ?_ rfl rfl rfl
        simp only [Locked.raisedFate]
        split <;> rfl
      · refine .other (only writing fun same => isBye (Locked.op_bye same)) (fun at_ => raises) ?_
          rfl (by simp) (by simp)
        cases locked <;> first | exact absurd rfl isBye | rfl
  | sent task data offset now writing last =>
      exact .other (only writing (by simp [Locked.op])) (by simp [Fate.await]) rfl rfl (by simp)
        (by simp)
  | signalled task locked now writing kind =>
      rcases kind with rfl | rfl
      · exact .other (only writing (by simp [Locked.op])) (by simp [Fate.await]) rfl rfl (by simp)
          (by simp)
      · exact .ends _ writing rfl rfl rfl rfl rfl
  | rekeyed task salt now writing =>
      exact .other (only writing (by simp [Locked.op])) (by simp [Fate.await]) rfl rfl (by simp)
        (by simp)
  | ponged task locals now writing =>
      exact .other (only writing (by simp [Locked.op])) (fun at_ => recvs) rfl rfl (by simp)
        (by simp)
  | received task locals pending now result reading turn isTurn =>
      refine .other (only reading (by simp)) (fun at_ => recvs) ?_ rfl (by simp) (by simp)
      rw [isTurn]
      exact TcpPeer.close_not_mem_recvTurn ..
  | tookHeader task locals header reading =>
      exact .other (only reading (by simp)) (by simp [Fate.await]) rfl rfl (by simp) (by simp)
  | abandoned task at_ isAt unlocked =>
      by_cases isBye : at_ = .lockWait .bye
      · subst isBye
        exact .ends _ isAt rfl rfl rfl rfl rfl
      · refine .other (only isAt fun same => ?_) (by simp [Fate.await]) (by simp [isBye]) rfl
          (by simp) (by simp)
        cases at_ with
        | lockWait locked => exact isBye (by rw [Locked.op_bye same])
        | writing locked => exact unlocked locked rfl
        | reading locals pending => cases same
  | interrupted task locked writing =>
      by_cases isBye : locked = .bye
      · subst isBye
        exact .ends _ writing rfl rfl rfl rfl rfl
      · refine .other (only writing fun same => isBye (Locked.op_bye same))
          (by simp [Fate.await]) ?_ rfl (by simp) (by simp)
        cases locked <;> first | exact absurd rfl isBye | rfl

/-- Where the session is on its way to the end.  `hungUp` says that the transport was closed. -/
inductive Hangup (session : Session) : Bool → Prop where
  | inUse (isOpen : session.closed = false) (none : session.NoBye)
      (noBye : ∀ frame ∈ session.sent, frame.type ≠ .bye) : Hangup session false
  /-- `bye` waits for the lock. -/
  | waiting (task : Nat) (closed : session.closed = true)
      (waits : session.tasks task = some (.lockWait .bye))
      (only : ∀ other at_, session.tasks other = some at_ → at_.op = .bye → other = task)
      (noBye : ∀ frame ∈ session.sent, frame.type ≠ .bye) : Hangup session false
  /-- The BYE is being written. -/
  | leaving (task : Nat) (closed : session.closed = true)
      (writes : session.tasks task = some (.writing .bye))
      (only : ∀ other at_, session.tasks other = some at_ → at_.op = .bye → other = task)
      (noBye : ∀ frame ∈ session.sent.dropLast, frame.type ≠ .bye) : Hangup session false
  | hungUp (closed : session.closed = true) (none : session.NoBye) (once : session.byes ≤ 1) :
      Hangup session true

theorem Hangup.closed_iff {session : Session} {hungUp : Bool} (hangup : Hangup session hungUp) :
    hungUp = true ↔ session.closed = true ∧ session.NoBye := by
  cases hangup with
  | inUse isOpen none noBye => simp [isOpen]
  | waiting task closed waits only noBye =>
      simp only [Bool.false_eq_true, false_iff, not_and]
      exact fun _ none => none task _ waits rfl
  | leaving task closed writes only noBye =>
      simp only [Bool.false_eq_true, false_iff, not_and]
      exact fun _ none => none task _ writes rfl
  | hungUp closed none once => exact ⟨fun _ => ⟨closed, none⟩, fun _ => rfl⟩

/-- Until the transport is closed, a BYE is the last frame that was encrypted. -/
theorem Hangup.lastBye {session : Session} (hangup : Hangup session false) :
    ∀ frame ∈ session.sent.dropLast, frame.type ≠ .bye := by
  cases hangup with
  | inUse isOpen none noBye =>
      exact fun frame member => noBye frame (List.dropLast_subset _ member)
  | waiting task closed waits only noBye =>
      exact fun frame member => noBye frame (List.dropLast_subset _ member)
  | leaving task closed writes only noBye => exact noBye

theorem byes_le_one {session : Session}
    (lastBye : ∀ frame ∈ session.sent.dropLast, frame.type ≠ .bye) : session.byes ≤ 1 := by
  unfold byes
  rcases List.eq_nil_or_concat session.sent with empty | ⟨earlier, last, isLast⟩
  · simp [empty]
  · rw [List.concat_eq_append] at isLast
    rw [isLast, List.dropLast_concat] at lastBye
    have none : earlier.countP (fun frame => frame.type = .bye) = 0 := by
      simpa [List.countP_eq_zero] using lastBye
    have one := List.countP_le_length (p := fun frame : SentFrame => frame.type = .bye)
        (l := [last])
    rw [isLast, List.countP_append, none, Nat.zero_add]
    exact one

theorem Hangup.once {session : Session} {hungUp : Bool} (hangup : Hangup session hungUp) :
    session.byes ≤ 1 := by
  cases hungUp with
  | false => exact byes_le_one hangup.lastBye
  | true =>
      cases hangup with
      | hungUp closed none once => exact once

theorem settle_task {session : Session} {task other : Nat} {fate : Fate} {at_ : Task}
    (isAt : (session.settle task fate).tasks other = some at_) :
    other = task ∧ fate.await = some at_ ∨ other ≠ task ∧ session.tasks other = some at_ := by
  rw [settle_tasks] at isAt
  by_cases same : other = task
  · subst same
    exact .inl ⟨rfl, by simpa using isAt⟩
  · exact .inr ⟨same, by rwa [Function.update_of_ne same] at isAt⟩

theorem Hangup.progress {before base : Session} {action : SessionAction} {fate : Fate}
    {effects : Effects} {hungUp : Bool} (hangup : Hangup before hungUp) (inv : CallInv before)
    (progress : Progress P before action base fate effects) :
    Hangup (base.settle action.task fate) (hungUp || effects.calls.contains .close) := by
  have log : (base.settle action.task fate).sent = before.sent ++ effects.write.toList := by
    simpa using progress.log
  have tasks := progress.frame.1
  have alive : ∀ {other at_}, (base.settle action.task fate).tasks other = some at_ →
      other = action.task ∧ fate.await = some at_ ∨
        other ≠ action.task ∧ before.tasks other = some at_ := by
    intro other at_ isAt
    rw [← tasks]
    exact settle_task isAt
  cases byeMove_of_progress inv progress with
  | begins wasOpen closed waits noClose noWrite =>
      cases hangup with
      | waiting task wasClosed | leaving task wasClosed | hungUp wasClosed =>
          rw [wasOpen] at wasClosed
          cases wasClosed
      | inUse isOpen none noBye =>
          have same : (base.settle action.task fate).sent = before.sent := by
            rw [log, noWrite, Option.toList_none, List.append_nil]
          rw [noClose, Bool.or_false]
          refine .waiting action.task (by simpa using closed) (by simp [waits, Fate.await]) ?_
            (by rwa [same])
          intro other at_ isAt isBye
          rcases alive isAt with ⟨same, _⟩ | ⟨_, isAt⟩
          · exact same
          · exact absurd isBye (none other at_ isAt)
  | encrypts frame waiting writes closed noClose isBye write =>
      cases hangup with
      | inUse isOpen none noBye => exact absurd rfl (none _ _ waiting)
      | hungUp wasClosed none => exact absurd rfl (none _ _ waiting)
      | leaving task wasClosed writing only noBye =>
          cases only _ _ waiting rfl
          rw [waiting] at writing
          cases writing
      | waiting task wasClosed waits only noBye =>
          rw [noClose, Bool.or_false]
          refine .leaving action.task (by simpa using closed.trans wasClosed)
            (by simp [writes, Fate.await]) ?_ ?_
          · intro other at_ isAt isBye
            rcases alive isAt with ⟨same, _⟩ | ⟨_, isAt⟩
            · exact same
            · rw [only other at_ isAt isBye, only _ _ waiting rfl]
          · rw [log, write, Option.toList_some, List.dropLast_concat]
            exact noBye
  | ends at_ isAt isBye isOver closes closed noWrite =>
      have same : (base.settle action.task fate).sent = before.sent := by
        rw [log, noWrite, Option.toList_none, List.append_nil]
      have ended : ∀ {task : Nat}, before.closed = true →
          (∀ other at_, before.tasks other = some at_ → at_.op = .bye → other = task) →
          (∀ frame ∈ before.sent.dropLast, frame.type ≠ .bye) →
          Hangup (base.settle action.task fate) (false || effects.calls.contains .close) := by
        intro task wasClosed only noBye
        rw [closes, Bool.or_true]
        refine .hungUp (by simpa using closed.trans wasClosed) ?_ (byes_le_one (by rwa [same]))
        intro other at_' isAt' isBye'
        rcases alive isAt' with ⟨_, isAfter⟩ | ⟨differs, isBefore⟩
        · rw [isOver] at isAfter
          cases isAfter
        · exact differs ((only _ _ isBefore isBye').trans (only _ _ isAt isBye).symm)
      cases hangup with
      | inUse isOpen none noBye => exact absurd isBye (none _ _ isAt)
      | hungUp wasClosed none => exact absurd isBye (none _ _ isAt)
      | waiting task wasClosed waits only noBye =>
          exact ended wasClosed only fun frame member =>
            noBye frame (List.dropLast_subset _ member)
      | leaving task wasClosed writing only noBye => exact ended wasClosed only noBye
  | other notBefore notAfter noClose closed noBye holds =>
      have others : ∀ {other at_}, (base.settle action.task fate).tasks other = some at_ →
          at_.op = .bye → before.tasks other = some at_ := by
        intro other at_ isAt isBye
        rcases alive isAt with ⟨_, isAfter⟩ | ⟨_, isBefore⟩
        · exact absurd isBye (notAfter at_ isAfter)
        · exact isBefore
      have kept : ∀ {task at_}, before.tasks task = some at_ → at_.op = .bye →
          (base.settle action.task fate).tasks task = some at_ := by
        intro task at_ isAt isBye
        have differs : task ≠ action.task := by
          rintro rfl
          exact notBefore at_ isAt isBye
        rw [settle_tasks, Function.update_of_ne differs, tasks]
        exact isAt
      have sameClosed : (base.settle action.task fate).closed = before.closed := by
        simpa using closed
      have noneAfter : before.NoBye → (base.settle action.task fate).NoBye :=
        fun none task at_ isAt isBye => none task at_ (others isAt isBye) isBye
      have noByeAfter : (∀ frame ∈ before.sent, frame.type ≠ .bye) →
          ∀ frame ∈ (base.settle action.task fate).sent, frame.type ≠ .bye := by
        intro old frame member
        rw [log] at member
        rcases List.mem_append.mp member with isOld | isNew
        · exact old frame isOld
        · exact noBye frame (Option.mem_toList.mp isNew)
      rw [noClose, Bool.or_false]
      cases hangup with
      | inUse isOpen none wasNoBye =>
          exact .inUse (sameClosed.trans isOpen) (noneAfter none) (noByeAfter wasNoBye)
      | waiting task wasClosed waits only wasNoBye =>
          exact .waiting task (sameClosed.trans wasClosed) (kept waits rfl)
            (fun other at_ isAt isBye => only other at_ (others isAt isBye) isBye)
            (noByeAfter wasNoBye)
      | leaving task wasClosed writing only wasNoBye =>
          -- the lock is not theirs
          have noWrite : effects.write = none := by
            rw [← Option.not_isSome_iff_eq_none]
            intro isSome
            have held := (inv.holder task).mpr ⟨_, writing⟩
            rcases holds isSome with free | same
            · rw [free] at held
              cases held
            · rw [held] at same
              cases same
              exact notBefore _ writing rfl
          have same : (base.settle action.task fate).sent = before.sent := by
            rw [log, noWrite, Option.toList_none, List.append_nil]
          exact .leaving task (sameClosed.trans wasClosed) (kept writing rfl)
            (fun other at_ isAt isBye => only other at_ (others isAt isBye) isBye) (by rwa [same])
      | hungUp wasClosed none once =>
          refine .hungUp (sameClosed.trans wasClosed) (noneAfter none) ?_
          have noMore : effects.write.toList.countP (fun frame => frame.type = .bye) = 0 := by
            simpa [List.countP_eq_zero] using noBye
          rw [byes, log, List.countP_append, noMore, Nat.add_zero]
          exact once

/-- A step that closes the transport writes nothing. -/
theorem write_of_close {before base : Session} {action : SessionAction} {fate : Fate}
    {effects : Effects} (inv : CallInv before)
    (progress : Progress P before action base fate effects)
    (closes : effects.calls.contains .close = true) : effects.write = none := by
  cases byeMove_of_progress inv progress with
  | begins wasOpen closed waits noClose noWrite => exact noWrite
  | encrypts frame waiting writes closed noClose => rw [noClose] at closes; cases closes
  | ends at_ isAt isBye isOver closesNow closed noWrite => exact noWrite
  | other notBefore notAfter noClose => rw [noClose] at closes; cases closes

/-- `_closed` is set by the first call of `bye`. -/
theorem Progress.closed_iff {before base : Session} {action : SessionAction} {fate : Fate}
    {effects : Effects} (progress : Progress P before action base fate effects)
    (called : before.closed = true ↔ ∃ call ∈ before.calls, call.2 = .bye) :
    base.closed = true ↔ ∃ call ∈ base.calls, call.2 = .bye := by
  cases progress with
  | called task op now isNew => simp [called, or_and_right, exists_or]
  | _ => exact called

end Session

namespace TcpPeer

variable {P : Primitives}

/-- A step that closes the transport finds its buffer empty. -/
def ClosesEmpty (P : Primitives) (peer : TcpPeer) (action : TcpAction) : Prop :=
  ∀ next ∈ peer.step P action, peer.closed = false → next.closed = true → next.unsent = 0

instance (peer : TcpPeer) (action : TcpAction) : Decidable (ClosesEmpty P peer action) :=
  inferInstanceAs (Decidable (∀ _ ∈ _, _ → _ → _))

/-- What the transport has given away it does not hold again. -/
theorem takes_of_less {peer : TcpPeer} {held : Nat} (less : held ≤ peer.held)
    (takes : ({ peer with held } : TcpPeer).takes = true) : peer.takes = true := by
  simp only [TcpPeer.takes, Bool.and_eq_true, Bool.or_eq_true, decide_eq_true_eq] at takes ⊢
  refine ⟨takes.1, takes.2.imp_right fun some => Nat.lt_of_lt_of_le some ?_⟩
  simp only [unsent]
  omega

theorem takes_of_lost {peer : TcpPeer}
    (takes : ({ peer with lost := true } : TcpPeer).takes = true) : peer.takes = true := by
  cases takes

/-- The end of the session and what is on the wire. -/
structure Leaving (peer : TcpPeer) (written : List SentFrame) : Prop where
  calls : peer.session.CallInv
  bound : peer.session.info.txSeq ≤ maxSeq
  called : peer.session.closed = true ↔ ∃ call ∈ peer.session.calls, call.2 = .bye
  hangup : peer.session.Hangup peer.closed
  begins : written <+: peer.session.sent
  all : peer.takes = true → written = peer.session.sent
  outgoing : peer.outgoing = written.flatMap SentFrame.bytes

/-- The transport was closed with an empty buffer, if at all. -/
structure ClosedEmpty (peer : TcpPeer) (written : List SentFrame) : Prop where
  done : peer.closed = true → peer.takes = false
  lastBye : ∀ frame ∈ written.dropLast, frame.type ≠ .bye

theorem ClosedEmpty.isOpen {peer : TcpPeer} {written : List SentFrame}
    (empty : ClosedEmpty peer written) (takes : peer.takes = true) : peer.closed = false := by
  rw [Bool.eq_false_iff]
  intro closed
  rw [empty.done closed] at takes
  cases takes

theorem ClosedEmpty.idle {before after : TcpPeer} {written : List SentFrame}
    (empty : ClosedEmpty before written) (closed : after.closed = before.closed)
    (takes : after.takes = true → before.takes = true) : ClosedEmpty after written := by
  refine ⟨fun isClosed => ?_, empty.lastBye⟩
  rw [closed] at isClosed
  rw [Bool.eq_false_iff]
  exact fun takesAfter => Bool.eq_false_iff.mp (empty.done isClosed) (takes takesAfter)

theorem Leaving.lastBye {peer : TcpPeer} {written : List SentFrame}
    (leaving : Leaving peer written) (isOpen : peer.closed = false) :
    ∀ frame ∈ peer.session.sent.dropLast, frame.type ≠ .bye := by
  have hangup := leaving.hangup
  rw [isOpen] at hangup
  exact hangup.lastBye

/-- A step of the transport alone. -/
theorem Leaving.idle {before after : TcpPeer} {written : List SentFrame}
    (leaving : Leaving before written) (session : after.session = before.session)
    (closed : after.closed = before.closed) (outgoing : after.outgoing = before.outgoing)
    (takes : after.takes = true → before.takes = true) : Leaving after written := by
  constructor
  · rw [session]
    exact leaving.calls
  · rw [session]
    exact leaving.bound
  · rw [session]
    exact leaving.called
  · rw [session, closed]
    exact leaving.hangup
  · rw [session]
    exact leaving.begins
  · intro takesAfter
    rw [session]
    exact leaving.all (takes takesAfter)
  · rw [outgoing]
    exact leaving.outgoing

/-- A step that resumes a coroutine: what it writes is taken, or nothing is taken any more. -/
theorem Leaving.acted {before after : TcpPeer} {action : SessionAction} {base : Session}
    {fate : Fate} {effects : Effects} {written : List SentFrame} (leaving : Leaving before written)
    (moved : Moved P before after action base fate effects) :
    Leaving after (written ++ if before.takes then effects.write.toList else []) := by
  have log : after.session.sent = before.session.sent ++ effects.write.toList := by
    rw [moved.session]
    simpa using moved.progress.log
  constructor
  · rw [moved.session]
    exact Session.callInv_progress leaving.calls moved.progress
  · rw [moved.session]
    simpa using moved.progress.identity.2.2.2 leaving.bound
  · rw [moved.session]
    simpa using moved.progress.closed_iff leaving.called
  · rw [moved.session, moved.closed]
    exact leaving.hangup.progress leaving.calls moved.progress
  · rw [log]
    cases takes : before.takes with
    | true => exact ⟨[], by rw [List.append_nil, if_pos rfl, leaving.all takes]⟩
    | false =>
        rw [if_neg (by simp), List.append_nil]
        exact leaving.begins.trans (List.prefix_append _ _)
  · intro takesAfter
    cases takes : before.takes with
    | true => rw [if_pos rfl, log, leaving.all takes]
    | false =>
        rw [moved.done takes] at takesAfter
        cases takesAfter
  · rw [moved.written, leaving.outgoing, List.flatMap_append]
    split <;> rfl

/-- A transport that is closed with an empty buffer takes nothing after the BYE. -/
theorem ClosedEmpty.acted {before after : TcpPeer} {action : SessionAction} {base : Session}
    {fate : Fate} {effects : Effects} {written : List SentFrame}
    (empty : ClosedEmpty before written) (leaving : Leaving before written)
    (moved : Moved P before after action base fate effects)
    (closes : before.closed = false → after.closed = true → after.unsent = 0) :
    ClosedEmpty after (written ++ if before.takes then effects.write.toList else []) := by
  cases takes : before.takes with
  | false =>
      rw [if_neg (by simp), List.append_nil]
      exact ⟨fun _ => moved.done takes, empty.lastBye⟩
  | true =>
      have wasOpen := empty.isOpen takes
      rw [if_pos rfl]
      constructor
      · intro closed
        simp [TcpPeer.takes, closed, closes wasOpen closed]
      · cases closed : after.closed with
        | false =>
            have next := leaving.acted moved
            have connected : before.lost = false := by
              simpa using (Bool.and_eq_true_iff.mp takes).1
            have isLog := next.all (by simp [TcpPeer.takes, closed, moved.lost, connected])
            rw [takes, if_pos rfl] at isLog
            rw [isLog]
            exact next.lastBye closed
        | true =>
            have closesNow : effects.calls.contains .close = true := by
              rw [moved.closed, wasOpen, Bool.false_or] at closed
              exact closed
            rw [Session.write_of_close leaving.calls moved.progress closesNow,
              Option.toList_none, List.append_nil, leaving.all takes]
            exact leaving.lastBye wasOpen

theorem Leaving.step (sized : P.SizedAead) {before after : TcpPeer} {action : TcpAction}
    {written : List SentFrame} (leaving : Leaving before written)
    (stepped : before.step P action = some after) :
    ∃ more, Leaving after (written ++ more) ∧
      (ClosedEmpty before written → ClosesEmpty P before action →
        ClosedEmpty after (written ++ more)) := by
  have idles : ∀ {after : TcpPeer}, after.session = before.session →
      after.closed = before.closed → after.outgoing = before.outgoing →
      (after.takes = true → before.takes = true) →
      ∃ more, Leaving after (written ++ more) ∧
        (ClosedEmpty before written → ClosesEmpty P before action →
          ClosedEmpty after (written ++ more)) := by
    intro after session closed outgoing takes
    refine ⟨[], ?_⟩
    rw [List.append_nil]
    exact ⟨leaving.idle session closed outgoing takes, fun empty _ => empty.idle closed takes⟩
  rcases step_cases sized leaving.bound stepped with
    ⟨held, less, rfl⟩ | ⟨data, rfl, rfl⟩ | ⟨rfl, rfl⟩ | ⟨rfl, rfl⟩ |
      ⟨resumption, base, fate, effects, _, moved⟩
  · exact idles rfl rfl rfl (takes_of_less less)
  · exact idles rfl rfl rfl id
  · exact idles rfl rfl rfl id
  · exact idles rfl rfl rfl takes_of_lost
  · exact ⟨_, leaving.acted moved, fun empty closes =>
      empty.acted leaving moved (closes after stepped)⟩

/-- Whatever is called, cancelled or fails: the transport is closed exactly when `bye` was called
and is over, and at most one BYE is encrypted.  What the transport took are the session's frames
in the order in which they were encrypted, all of them while it takes any; and none of them follows
the BYE, if the transport's buffer was empty when it was closed. -/
theorem bye_hangs_up (P : Primitives) (sized : P.SizedAead) (info : SessionInfo)
    (bound : info.txSeq ≤ maxSeq) (actions : List TcpAction) (final : TcpPeer)
    (reached : Machine.run (step P) { session := .new true info } actions = some final) :
    (final.closed = true ↔
        (∃ call ∈ final.session.calls, call.2 = .bye) ∧ final.session.NoBye) ∧
      final.session.byes ≤ 1 ∧
      ∃ written, written <+: final.session.sent ∧
        final.outgoing = written.flatMap SentFrame.bytes ∧
        (final.takes = true → written = final.session.sent) ∧
        (Machine.Along (step P) (ClosesEmpty P) { session := .new true info } actions →
          ∀ frame ∈ written.dropLast, frame.type ≠ .bye) := by
  have start : Leaving { session := .new true info } [] := by
    refine ⟨.new true info 0, bound, by simp [Session.new], ?_, List.prefix_rfl, fun _ => rfl, rfl⟩
    exact .inUse rfl (fun task at_ isAt => by cases isAt) (by simp [Session.new])
  have runs : ∃ written, Leaving final written ∧
      (Machine.Along (step P) (ClosesEmpty P) { session := .new true info } actions →
        ClosedEmpty final written) := by
    by_cases along : Machine.Along (step P) (ClosesEmpty P) { session := .new true info } actions
    · have holds := Machine.run_invariant (fun peer => ∃ written, Leaving peer written ∧
          ClosedEmpty peer written) (fun peer action next known closes stepped => by
            rcases known with ⟨written, leaving, empty⟩
            rcases leaving.step sized stepped with ⟨more, leaving, kept⟩
            exact ⟨written ++ more, leaving, kept empty closes⟩)
        ⟨[], start, by simp, by simp⟩ along reached
      rcases holds with ⟨written, leaving, empty⟩
      exact ⟨written, leaving, fun _ => empty⟩
    · have holds := Machine.run_invariant' (fun peer => ∃ written, Leaving peer written)
        (fun peer action next known stepped => by
          rcases known with ⟨written, leaving⟩
          rcases leaving.step sized stepped with ⟨more, leaving, _⟩
          exact ⟨written ++ more, leaving⟩)
        ⟨[], start⟩ reached
      rcases holds with ⟨written, leaving⟩
      exact ⟨written, leaving, fun holds => absurd holds along⟩
  rcases runs with ⟨written, leaving, empty⟩
  refine ⟨?_, leaving.hangup.once, written, leaving.begins, leaving.outgoing, leaving.all,
    fun along => (empty along).lastBye⟩
  rw [leaving.hangup.closed_iff, leaving.called]

/-- `bye` waits behind a message and its write fails, while a PING and a second `bye` are called;
the transport's buffer is empty by then. -/
def byeBehindByte : List TcpAction :=
  [.call 0 (.send [7]) 0, .acquire 0, .call 1 .bye 0, .call 2 .ping 0, .call 3 .bye 0,
    .wrote 0 none 0, .acquire 1, .flush 100, .wrote 1 (some ⟨.osError, "broken pipe"⟩) 0,
    .acquire 2]

theorem bye_hangs_up_byeBehindByte :
    ∃ final,
      Machine.run (step samplePrimitives) { session := .new true (sampleInfo 3 4) } byeBehindByte =
          some final ∧
        (final.session.sent.map SentFrame.type = [.data, .bye, .ping] ∧
          final.outgoing = (final.session.sent.take 2).flatMap SentFrame.bytes) ∧
        final.closed = true ∧ final.session.NoBye := by
  rcases Machine.exists_run (step samplePrimitives) { session := .new true (sampleInfo 3 4) }
    byeBehindByte
    (fun final => (final.session.sent.map SentFrame.type = [.data, .bye, .ping] ∧
      final.outgoing = (final.session.sent.take 2).flatMap SentFrame.bytes) ∧ final.closed = true)
    (by decide +kernel) with ⟨final, reached, sent, closed⟩
  have closes := (bye_hangs_up samplePrimitives samplePrimitives_sized (sampleInfo 3 4) (by decide)
    byeBehindByte final reached).1.mp closed
  exact ⟨final, reached, sent, closed, closes.2⟩

-- with its bytes still in the buffer, the PING follows the BYE
example : (Machine.run (step samplePrimitives) { session := .new true (sampleInfo 3 4) }
    [.call 0 .bye 0, .acquire 0, .call 1 .ping 0, .wrote 0 none 0, .acquire 1]).any
    (fun final => final.closed ∧ final.session.sent.map SentFrame.type = [.bye, .ping] ∧
      final.outgoing = final.session.sent.flatMap SentFrame.bytes) = true := by
  decide +kernel

end TcpPeer

end Usmp
