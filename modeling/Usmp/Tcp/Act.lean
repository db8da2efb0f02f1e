import Usmp.Session.Fragments
import Usmp.Tcp.Flow

/-!
# The steps of one end

What an undisturbed step of one end does to both directions of its connection.  It
writes a frame, performs the rotation it announced, reads a frame, or none of these.
-/

namespace Usmp

namespace Session

/-- The salt of a rotation that the session has announced and not yet performed. -/
def rekeying (session : Session) : Option (FixedBytes 32) :=
  match session.holder with
  | some (.rekey salt) => some salt
  | _ => none

/-- Whether the session has sent a part of a message and not its end. -/
def midMessage (session : Session) : Bool :=
  session.holder.any Locked.midMessage

/-- The header that `recv` has taken of a frame whose payload is missing. -/
def takenHeader (session : Session) : Option Bytes :=
  session.calls.findSome? fun call =>
    match session.tasks call.1 with
    | some (.reading _ pending) => pending
    | _ => none

theorem rekeying_some {session : Session} {salt : FixedBytes 32} :
    session.rekeying = some salt ↔ session.holder = some (.rekey salt) := by
  unfold rekeying
  split <;> simp_all

theorem rekeying_of_holder {session : Session} {locked : Locked}
    (held : session.holder = some locked) (notRekey : ∀ salt, locked ≠ .rekey salt) :
    session.rekeying = none := by
  cases locked <;> simp_all [rekeying]

theorem rekeying_of_free {session : Session} (free : session.holder = none) :
    session.rekeying = none := by
  simp [rekeying, free]

theorem Receiver.takenHeader {session : Session} {view : View} {header : Option Bytes}
    (receiver : Receiver session view header) (inv : CallInv session) :
    session.takenHeader = header := by
  cases isHeader : header with
  | none =>
      rw [Session.takenHeader, List.findSome?_eq_none_iff]
      intro call member
      split
      · rename_i locals pending reading
        rw [receiver.taken call.1 locals pending reading, isHeader]
      · rfl
  | some bytes =>
      have reads : ∃ task locals pending, session.tasks task = some (.reading locals pending) := by
        by_contra none
        simp only [not_exists] at none
        rw [receiver.untaken none] at isHeader
        cases isHeader
      obtain ⟨task, locals, pending, reading⟩ := reads
      have isPending := receiver.taken task locals pending reading
      have found : ((task, Op.recv) ∈ session.calls) := inv.known task _ reading
      have only : ∀ call ∈ session.calls,
          (match session.tasks call.1 with
            | some (.reading _ pending) => pending
            | _ => none) = none ∨
          (match session.tasks call.1 with
            | some (.reading _ pending) => pending
            | _ => none) = some bytes := by
        intro call member
        split
        · rename_i locals' pending' reading'
          rw [receiver.taken call.1 locals' pending' reading', isHeader]
          exact .inr rfl
        · exact .inl rfl
      rw [Session.takenHeader]
      cases result : session.calls.findSome? _ with
      | none =>
          rw [List.findSome?_eq_none_iff] at result
          have absent := result _ found
          simp [reading, isPending, isHeader] at absent
      | some other =>
          obtain ⟨call, member, isOther⟩ := List.exists_of_findSome?_eq_some result
          rcases only call member with none | some
          · rw [none] at isOther
            cases isOther
          · rw [some] at isOther
            exact isOther.symm

/-! ## The mirror of a session that announces nothing -/

variable {P : Primitives}

theorem mirror_keys {session : Session} (quiet : session.rekeying = none) :
    (session.mirror P).txKey = session.info.rxKey ∧
      (session.mirror P).rxKey = session.info.txKey ∧
      (session.mirror P).rxSeq = session.info.txSeq := by
  unfold mirror
  cases held : session.holder with
  | none => exact ⟨rfl, rfl, rfl⟩
  | some locked =>
      cases locked with
      | rekey salt => simp [rekeying, held] at quiet
      | send data offset =>
          simp only [mirrorOf]
          split <;> exact ⟨rfl, rfl, rfl⟩
      | ping | bye | pong locals => exact ⟨rfl, rfl, rfl⟩

theorem Results.completed_prefix {session : Session} (results : Results session) :
    session.completedSends <+: (session.mirror P).messages := by
  rw [results.completed]
  unfold mirror
  cases held : session.holder with
  | none => exact List.prefix_rfl
  | some locked =>
      cases locked with
      | send data offset =>
          simp only [Option.any_some, Locked.payload?, Option.isSome_some, if_true, mirrorOf]
          split
          · exact List.prefix_rfl
          · exact List.dropLast_prefix _
      | ping | bye | rekey salt | pong locals => exact List.prefix_rfl

theorem mirror_whole {session : Session} (quiet : session.rekeying = none)
    (whole : session.midMessage = false) :
    session.mirror P = mirrorOf P session.info session.admittedPayloads none := by
  unfold mirror
  cases held : session.holder with
  | none => rfl
  | some locked =>
      refine mirrorOf_settled ?_ ?_
      · simpa [midMessage, held] using whole
      · rintro salt rfl
        simp [rekeying, held] at quiet

theorem mirror_rekeying {session : Session} {salt : FixedBytes 32}
    (announced : session.rekeying = some salt) :
    session.mirror P =
      { txKey := (initiatorKeys P session.info salt).2
        rxKey := (initiatorKeys P session.info salt).1
        rxSeq := 0
        messages := session.admittedPayloads } := by
  rw [mirror, rekeying_some.mp announced]
  rfl

/-- The mirror has a part of a message exactly in the middle of one. -/
theorem mirror_fragments {session : Session} :
    (session.mirror P).fragments = 0 ↔ session.midMessage = false := by
  unfold mirror midMessage
  cases held : session.holder with
  | none => simp [mirrorOf]
  | some locked =>
      cases locked with
      | send data offset =>
          by_cases more : offset + (chunkAt data offset).length < data.length
          · rw [mirrorOf_more more]
            simp [Locked.midMessage, more]
          · rw [mirrorOf_last more]
            simp [Locked.midMessage, more]
      | ping | bye | pong locals | rekey salt => simp [mirrorOf, Locked.midMessage]

end Session

namespace TcpPeer

/-- Whether the action performs the rotation that the peer announced. -/
def rotates (peer : TcpPeer) : TcpAction → Bool
  | .wrote task none _ =>
      match peer.session.tasks task with
      | some (.writing (.rekey _)) => true
      | _ => false
  | _ => false

/-- What an undisturbed step does.  `incoming` of a constructor says what becomes of the
stream towards this end. -/
inductive Act (P : Primitives) (sessionId : FixedBytes usmpSessionIdLen) (suite : CipherSuite)
    (before after : TcpPeer) (action : TcpAction) : Prop where
  | idle (sound : Sound sessionId suite after)
      (epochs : after.session.epochs = before.session.epochs)
      (keys : SameKeys before.session.info after.session.info)
      (mirror : after.session.mirror P = before.session.mirror P)
      (rekeying : after.session.rekeying = before.session.rekeying)
      (whole : after.session.midMessage = before.session.midMessage)
      (payloads : after.session.admittedPayloads = before.session.admittedPayloads)
      (outgoing : after.outgoing = before.outgoing)
      (incoming : ∀ far view header pending,
        Flow P sessionId suite far before view header pending →
        ∃ header', Flow P sessionId suite far after view header' pending)
  | wrote (sound : Sound sessionId suite after) (task : Nat) (locked : Locked)
      (sending : before.aboutToSend action = some locked)
      (quiet : before.session.rekeying = none)
      (epochs : after.session.epochs = before.session.epochs)
      (info : after.session.info =
        { before.session.info with txSeq := before.session.info.txSeq + 1 })
      (holder : after.session.holder = some locked)
      (accepted : (before.session.mirror P).accept P sessionId
        (encryptedFrame P before.session.info task locked) = some (after.session.mirror P))
      (outgoing : after.outgoing = before.outgoing ++
        [encryptedFrame P before.session.info task locked].flatMap SentFrame.bytes)
      (genuine : (encryptedFrame P before.session.info task locked).Genuine P sessionId suite)
      (isPlain : locked.Plain)
      (incoming : ∀ far view header pending,
        Flow P sessionId suite far before view header pending →
        ∃ header', Flow P sessionId suite far after view header' pending)
  | rotated (sound : Sound sessionId suite after) (salt : FixedBytes 32)
      (rotates : before.rotates action = true)
      (announced : before.session.rekeying = some salt)
      (epochs : after.session.epochs =
        before.session.epochs ++ [initiatorKeys P before.session.info salt])
      (info : after.session.info =
        before.session.info.rotated (initiatorKeys P before.session.info salt))
      (free : after.session.holder = none)
      (payloads : after.session.admittedPayloads = before.session.admittedPayloads)
      (outgoing : after.outgoing = before.outgoing)
      (incoming : ∀ far view header pending, view.fragments = 0 →
        Flow P sessionId suite far before view header pending →
        Flow P sessionId suite far after
          { view with
            txKey := (initiatorKeys P before.session.info salt).1
            rxKey := (initiatorKeys P before.session.info salt).2
            rxSeq := 0 }
          header pending)
  | read (task : Nat) (result : Except Exn USMPFrame) (now : Rat) (base : Session) (fate : Fate)
      (effects : Effects) (isResume : action = .resume task now)
      (moved : Moved P before after (.read task result now) base fate effects)
      (sound : Turns (.read task result now) fate → Sound sessionId suite after)
      (holder : after.session.holder = before.session.holder)
      (payloads : after.session.admittedPayloads = before.session.admittedPayloads)
      (outgoing : after.outgoing = before.outgoing)

variable {P : Primitives} {sessionId : FixedBytes usmpSessionIdLen} {suite : CipherSuite}
  {before after : TcpPeer} {action : TcpAction}

/-- A step that resumes no coroutine that holds the lock keeps the holder. -/
theorem Moved.holder {resumption : SessionAction} {base : Session} {fate : Fate}
    {effects : Effects} (calls : before.session.CallInv)
    (moved : Moved P before after resumption base fate effects)
    (lock : base.lock = before.session.lock)
    (idle : ∀ locked, before.session.tasks resumption.task ≠ some (.writing locked)) :
    after.session.holder = before.session.holder := by
  rw [moved.session]
  exact calls.holder_settle_other moved.progress.frame.1 lock idle

/-- A read performs at most one rotation, and only if it gets a REKEY. -/
theorem Moved.epochs_of_read {task : Nat} {result : Except Exn USMPFrame} {now : Rat}
    {base : Session} {fate : Fate} {effects : Effects}
    (moved : Moved P before after (.read task result now) base fate effects) :
    after.session.epochs.length = before.session.epochs.length ∨
      after.session.epochs.length = before.session.epochs.length + 1 ∧
        before.readsNext (.resume task now) = some .rekey := by
  rw [moved.session]
  cases moved.progress with
  | encrypted task action locked admitted ready unspent => cases ready
  | refused task action locked admitted ready spent notBye exn => cases ready
  | received task locals pending now result reading turn isTurn =>
      cases isAccepted : acceptedFrame P before.session.reliable before.session.info locals now
          result with
      | none =>
          have refused := refused_turn isAccepted
          rw [← isTurn] at refused
          simp [refused.rotations]
      | some opened =>
          rcases opened with ⟨frame, plaintext⟩
          rcases accepted_turn isAccepted with ⟨marked, moreCalls, accepted⟩
          rw [← isTurn] at accepted
          rcases accepted.rotations with ⟨_, unrotated⟩ | ⟨isRekey, keys, rotated⟩
          · simp [unrotated]
          · right
            refine ⟨by simp [rotated], ?_⟩
            have isResult := result_of_openFrame (acceptedFrame_opened isAccepted).1
            subst isResult
            have took := moved.took
            generalize after.buffer = left at took
            cases took with
            | frame task result now locals' pending' left reading' read =>
                simp [readsNext, reading', read, isRekey]
            | nothing _ notRead => exact absurd rfl (notRead task _ now)

/-- Reading a frame that announces no rotation leaves the keys and the mirror alone. -/
theorem Moved.read_sameKeys {task : Nat} {result : Except Exn USMPFrame} {now : Rat}
    {base : Session} {fate : Fate} {effects : Effects}
    (moved : Moved P before after (.read task result now) base fate effects)
    (epochs : base.epochs = before.session.epochs) :
    SameKeys before.session.info after.session.info := by
  rw [moved.session]
  cases moved.progress with
  | encrypted task action locked admitted ready unspent => cases ready
  | refused task action locked admitted ready spent notBye exn => cases ready
  | received task locals pending now result reading turn isTurn =>
      rcases recvTurn_keys P before.session.reliable before.session.info locals now result with
        ⟨same, _⟩ | ⟨salt, keys, _, _, rotations⟩
      · simpa [isTurn] using same
      · simp [isTurn, rotations] at epochs

theorem act_of_step (sized : P.SizedAead) (sound : Sound sessionId suite before)
    (undisturbed : before.Undisturbed action)
    (unspent : ∀ locked, before.aboutToSend action = some locked →
      before.session.info.txSeq < maxSeq)
    (stepped : before.step P action = some after) :
    Act P sessionId suite before after action := by
  rcases step_cases sized sound.bound stepped with
    ⟨held, _, rfl⟩ | ⟨data, rfl, _⟩ | ⟨rfl, _⟩ | ⟨rfl, _⟩ |
      ⟨resumption, base, fate, effects, resumes, moved⟩
  · refine .idle (sound.congr rfl rfl rfl rfl) rfl (.refl _) rfl rfl rfl rfl rfl ?_
    intro far view header pending flow
    exact ⟨header, flow.receiver, flow.taken, flow.bytes, flow.genuine⟩
  · exact undisturbed.elim
  · exact undisturbed.elim
  · exact undisturbed.elim
  have completes := completes_of_undisturbed undisturbed unspent resumes
  have soundAfter := sound.moved undisturbed unspent resumes moved
  have noTurn : (∀ task result now, resumption ≠ .read task result now) →
      Turns resumption fate :=
    fun notRead task result now isRead => absurd isRead (notRead task result now)
  have noBye : ∀ task at_, before.session.tasks task = some at_ → at_.op ≠ .bye :=
    fun task at_ isAt => (sound.plain task at_ isAt).not_bye
  have outgoing := moved.outgoing sound.isOpen sound.connected
  have mirrored := Session.mirror_progress sound.calls moved.progress noBye completes
  rw [← moved.session, sound.sessionId] at mirrored
  have incoming : base.epochs = before.session.epochs →
      (∀ task result now, resumption ≠ .read task result now) →
      ∀ far view header pending, Flow P sessionId suite far before view header pending →
        ∃ header', Flow P sessionId suite far after view header' pending :=
    fun epochs notRead far view header pending flow =>
      flow.progress sound undisturbed resumes moved epochs notRead
  have epochsAfter : after.session.epochs = base.epochs := by
    rw [moved.session]
    simp
  have infoAfter : after.session.info = base.info := by
    rw [moved.session]
    simp
  have payloadsAfter : base.admitted = before.session.admitted →
      after.session.admittedPayloads = before.session.admittedPayloads := by
    intro same
    rw [moved.session]
    simp [Session.admittedPayloads, same]
  -- a step that neither writes, rotates nor reads
  have quietStep : effects.write = none → base.epochs = before.session.epochs →
      base.info = before.session.info → base.admitted = before.session.admitted →
      (∀ task result now, resumption ≠ .read task result now) →
      after.session.holder = before.session.holder →
      Act P sessionId suite before after action := by
    intro noWrite epochs info admitted notRead holder
    rcases mirrored (fun task result now isRead => absurd isRead (notRead task result now)) with
      ⟨_, _, isWrite, _⟩ | ⟨_, mirror⟩
    · rw [noWrite] at isWrite
      cases isWrite
    refine .idle (soundAfter (noTurn notRead)) (epochsAfter.trans epochs) ?_ mirror ?_ ?_
      (payloadsAfter admitted) ?_
      (incoming epochs notRead)
    · rw [infoAfter, info]
      exact .refl _
    · rw [Session.rekeying, Session.rekeying, holder]
    · rw [Session.midMessage, Session.midMessage, holder]
    · simpa [noWrite] using outgoing
  cases progress : moved.progress with
  | called task op now isNew =>
      refine quietStep rfl rfl rfl rfl (by simp) (moved.holder sound.calls rfl fun locked => ?_)
      simp [SessionAction.task, sound.calls.none_of_new isNew]
  | encrypted task resumption locked admitted ready notSpent =>
      obtain ⟨isTask, was, wasAt, sameOp, notReading⟩ := ready.was
      have notRead : ∀ task result now, resumption ≠ .read task result now := by
        rintro _ _ _ rfl
        cases ready
      have below := completes.unspent task locked admitted ready
      have genuine := encryptedFrame_genuine P task locked sound.bound
      rw [sound.sessionId, sound.suite] at genuine
      rcases mirrored (fun task result now isRead => absurd isRead (notRead task result now)) with
        ⟨_, _, isWrite, accepted⟩ | ⟨noWrite, _⟩
      · rw [← Option.some.inj isWrite] at accepted
        refine .wrote (soundAfter (noTurn notRead)) task locked
          (aboutToSend_of_encrypting resumes ready) ?_ epochsAfter ?_ ?_
          accepted (by simpa using outgoing) genuine ?_ (incoming rfl notRead)
        · cases ready with
          | admitted locked free waiting =>
              exact Session.rekeying_of_free (Session.holder_of_free free)
          | nextFragment data offset now writing more =>
              exact Session.rekeying_of_holder (sound.calls.holder_eq writing) (by simp)
        · have next : min (before.session.info.txSeq + 1) maxSeq =
              before.session.info.txSeq + 1 := by omega
          rw [infoAfter, next]
        · rw [moved.session, isTask]
          exact Session.holder_settle_self rfl
        · cases ready with
          | admitted locked free waiting => exact sound.plain task _ waiting
          | nextFragment data offset now writing more => trivial
      · cases noWrite
  | refused task resumption locked admitted ready spent notBye exn =>
      exact absurd (completes.unspent task locked admitted ready) (Nat.not_lt.mpr spent)
  | failed task locked exn now writing => exact absurd rfl (completes.noFailure task exn now)
  | sent task data offset now writing last =>
      have held := sound.calls.holder_eq writing
      have free : after.session.holder = none := by
        rw [moved.session]
        exact Session.holder_of_free (by simp)
      rcases mirrored (by simp) with ⟨_, _, isWrite, _⟩ | ⟨_, mirror⟩
      · cases isWrite
      refine .idle (soundAfter (noTurn (by simp))) epochsAfter ?_ mirror ?_ ?_ (payloadsAfter rfl)
        (by simpa using outgoing)
        (incoming rfl (by simp))
      · rw [infoAfter]
        exact .refl _
      · rw [Session.rekeying_of_free free, Session.rekeying_of_holder held (by simp)]
      · simp [Session.midMessage, free, held, Locked.midMessage, last]
  | signalled task locked now writing kind =>
      have isPlain := sound.plain task _ writing
      rcases kind with rfl | rfl <;> exact isPlain.elim
  | rekeyed task salt now writing =>
      have isRotation : before.rotates action = true := by
        cases resumes
        simp [rotates, writing]
      refine .rotated (soundAfter (noTurn (by simp))) salt isRotation
        (Session.rekeying_some.mpr (sound.calls.holder_eq writing)) epochsAfter infoAfter ?_
        (payloadsAfter rfl) (by simpa using outgoing) ?_
      · rw [moved.session]
        exact Session.holder_of_free (by simp)
      · intro far view header pending between flow
        have receiver := flow.receiver.rekeyed between moved.progress.frame.1
          moved.progress.frame.2 rfl writing
        have took := moved.took
        generalize isLeft : after.buffer = left at took
        cases took with
        | nothing _ _ _ =>
            refine flow.keep ?_ flow.taken (by rw [isLeft])
            rw [moved.session]
            exact receiver
  | ponged task locals now writing => exact (sound.plain task _ writing).elim
  | received task locals pending now result reading turn isTurn =>
      cases resumes
      refine .read task result now _ _ _ rfl moved soundAfter ?_ (payloadsAfter rfl)
        (by simpa using outgoing)
      exact moved.holder sound.calls rfl (by simp [SessionAction.task, reading])
  | tookHeader task locals header reading =>
      refine quietStep rfl rfl rfl rfl (by simp) (moved.holder sound.calls rfl fun locked => ?_)
      simp [SessionAction.task, reading]
  | abandoned task at_ isAt unlocked => exact absurd rfl (completes.noCancel task)
  | interrupted task locked writing => exact absurd rfl (completes.noCancel task)

end TcpPeer

end Usmp
