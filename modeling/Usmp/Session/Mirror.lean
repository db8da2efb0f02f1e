import Usmp.Session.Receiver

/-!
# What a session has told its peer

`mirror session` is the view of a receiver that has taken every frame the session
sent.  It is read off the sender's own state, so replaying the frames in flight
on the receiver's view must end there.  A step of the sender that encrypts takes
the mirror along, and every other step that keeps the keys leaves it alone.
-/

namespace Usmp

/-- Chunks laid end to end. -/
theorem take_append_chunkAt (data : Bytes) (offset : Nat) :
    data.take offset ++ chunkAt data offset =
      data.take (offset + (chunkAt data offset).length) := by
  rw [List.take_add, chunkAt, List.length_take, ← List.take_eq_take_min]

/-- Whether the holder has sent a part of a message and not its end. -/
def Locked.midMessage : Locked → Bool
  | .send data offset => offset + (chunkAt data offset).length < data.length
  | _ => false

/-- The mirror of a session with these parameters, whose lock admitted these
messages, and whose holder has sent its current frame. -/
def mirrorOf (P : Primitives) (info : SessionInfo) (payloads : List Bytes) :
    Option Locked → View
  | some (.rekey salt) =>
      { txKey := (initiatorKeys P info salt).2
        rxKey := (initiatorKeys P info salt).1
        rxSeq := 0
        messages := payloads }
  | some (.send data offset) =>
      if offset + (chunkAt data offset).length < data.length then
        { txKey := info.rxKey
          rxKey := info.txKey
          rxSeq := info.txSeq
          assembled := data.take (offset + (chunkAt data offset).length)
          fragments := offset / usmpMaxDataLen + 1
          messages := payloads.dropLast }
      else
        { txKey := info.rxKey, rxKey := info.txKey, rxSeq := info.txSeq, messages := payloads }
  | _ => { txKey := info.rxKey, rxKey := info.txKey, rxSeq := info.txSeq, messages := payloads }

variable {P : Primitives}

/-- A holder that is neither in the middle of a message nor of a rotation looks like
no holder. -/
theorem mirrorOf_settled {info : SessionInfo} {payloads : List Bytes} {locked : Locked}
    (whole : locked.midMessage = false) (notRekey : ∀ salt, locked ≠ .rekey salt) :
    mirrorOf P info payloads (some locked) = mirrorOf P info payloads none := by
  cases locked with
  | send data offset =>
      simp only [Locked.midMessage, decide_eq_false_iff_not] at whole
      simp [mirrorOf, whole]
  | rekey salt => exact absurd rfl (notRekey salt)
  | ping | bye | pong locals => rfl

theorem mirrorOf_more {info : SessionInfo} {payloads : List Bytes} {data : Bytes} {offset : Nat}
    (more : offset + (chunkAt data offset).length < data.length) :
    mirrorOf P info payloads (some (.send data offset)) =
      { txKey := info.rxKey
        rxKey := info.txKey
        rxSeq := info.txSeq
        assembled := data.take (offset + (chunkAt data offset).length)
        fragments := offset / usmpMaxDataLen + 1
        messages := payloads.dropLast } := by
  rw [mirrorOf, if_pos more]

theorem mirrorOf_last {info : SessionInfo} {payloads : List Bytes} {data : Bytes} {offset : Nat}
    (last : ¬ offset + (chunkAt data offset).length < data.length) :
    mirrorOf P info payloads (some (.send data offset)) =
      { txKey := info.rxKey, rxKey := info.txKey, rxSeq := info.txSeq, messages := payloads } := by
  rw [mirrorOf, if_neg last]

/-- A view at the start of the chunk takes it in: either it is the last one and
completes the message, or it is one more fragment. -/
theorem accept_chunk {info : SessionInfo} {payloads : List Bytes} {task offset : Nat}
    {data : Bytes} (placed : (Locked.send data offset).Placed) (unspent : info.txSeq < maxSeq) :
    ({ txKey := info.rxKey
       rxKey := info.txKey
       rxSeq := info.txSeq
       assembled := data.take offset
       fragments := offset / usmpMaxDataLen
       messages := payloads } : View).accept P info.sessionId
        (encryptedFrame P info task (.send data offset)) =
      some (mirrorOf P { info with txSeq := info.txSeq + 1 } (payloads ++ [data])
        (some (.send data offset))) := by
  obtain ⟨fits, ⟨turn, rfl⟩, _⟩ := placed
  rw [View.accept_some]
  refine ⟨⟨rfl, rfl, unspent⟩, ?_⟩
  have chunkLength := length_chunkAt data (usmpMaxDataLen * turn)
  have ratio : usmpMaxDataLen * turn / usmpMaxDataLen = turn :=
    Nat.mul_div_cancel_left turn (by decide)
  by_cases more : usmpMaxDataLen * turn + (chunkAt data (usmpMaxDataLen * turn)).length <
      data.length
  · have room : turn + 1 < usmpMaxFrames := by
      simp only [usmpMaxDataLen, usmpMaxPayload, usmpTagLen, usmpGcmNonceLen, usmpMaxFrames]
        at more fits chunkLength ⊢
      omega
    have type : (encryptedFrame P info task (.send data (usmpMaxDataLen * turn))).type =
        .dataFrag := by
      simp only [encryptedFrame, Locked.frame, if_pos more]
    rw [type, mirrorOf_more more, ratio]
    simp only [View.absorb, if_pos room, List.dropLast_concat, encryptedFrame, Locked.frame,
      take_append_chunkAt]
  · have type : (encryptedFrame P info task (.send data (usmpMaxDataLen * turn))).type =
        .data := by
      simp only [encryptedFrame, Locked.frame, if_neg more]
    have whole : data.take (usmpMaxDataLen * turn) ++ chunkAt data (usmpMaxDataLen * turn) =
        data := by
      rw [take_append_chunkAt, List.take_of_length_le (by omega)]
    rw [type, mirrorOf_last more]
    simp only [View.absorb, encryptedFrame, Locked.frame, whole]

/-- The first frame of a holder. -/
theorem accept_first {info : SessionInfo} {payloads : List Bytes} {task : Nat} {locked : Locked}
    (placed : locked.Placed) (start : locked.AtStart) (notBye : locked ≠ .bye)
    (unspent : info.txSeq < maxSeq) :
    (mirrorOf P info payloads none).accept P info.sessionId (encryptedFrame P info task locked) =
      some (mirrorOf P { info with txSeq := info.txSeq + 1 }
        (payloads ++ locked.payload?.toList) (some locked)) := by
  have signal : ∀ {type : PacketType} {plaintext : Bytes},
      locked.frame = (type, plaintext) → type = .ping ∨ type = .pong →
      (mirrorOf P info payloads none).accept P info.sessionId
          (encryptedFrame P info task locked) =
        some { txKey := info.rxKey, rxKey := info.txKey, rxSeq := info.txSeq + 1,
               messages := payloads } := by
    intro type plaintext frame kind
    rw [View.accept_some]
    refine ⟨⟨rfl, rfl, unspent⟩, ?_⟩
    rcases kind with rfl | rfl <;> simp [encryptedFrame, frame, View.absorb, mirrorOf]
  cases locked with
  | send data offset =>
      cases start
      exact accept_chunk placed unspent
  | ping => simpa [Locked.payload?, mirrorOf] using signal rfl (.inl rfl)
  | pong locals => simpa [Locked.payload?, mirrorOf] using signal rfl (.inr rfl)
  | rekey salt =>
      rw [View.accept_some]
      refine ⟨⟨rfl, rfl, unspent⟩, ?_⟩
      have length := salt.2
      simp [View.absorb, encryptedFrame, Locked.frame, mirrorOf, Locked.payload?, length,
        deriveRekeyKeys_mirrored, initiatorKeys]
  | bye => exact absurd rfl notBye

/-- A further fragment of the message that the lock admitted last. -/
theorem accept_nextChunk {info : SessionInfo} {payloads : List Bytes} {task offset : Nat}
    {data : Bytes} (placed : (Locked.send data offset).Placed)
    (more : offset + (chunkAt data offset).length < data.length)
    (unspent : info.txSeq < maxSeq) :
    (mirrorOf P info (payloads ++ [data]) (some (.send data offset))).accept P info.sessionId
        (encryptedFrame P info task (.send data (offset + (chunkAt data offset).length))) =
      some (mirrorOf P { info with txSeq := info.txSeq + 1 } (payloads ++ [data])
        (some (.send data (offset + (chunkAt data offset).length)))) := by
  have ratio : (offset + (chunkAt data offset).length) / usmpMaxDataLen =
      offset / usmpMaxDataLen + 1 := by
    rw [length_chunkAt_of_more more, Nat.add_div_right _ (by decide)]
  rw [mirrorOf_more more, List.dropLast_concat, ← ratio]
  exact accept_chunk (placed.next more) unspent

/-- The receive position has no part in the mirror. -/
theorem mirrorOf_congr {before after : SessionInfo} (same : SameKeys before after)
    (payloads : List Bytes) (holder : Option Locked) :
    mirrorOf P after payloads holder = mirrorOf P before payloads holder := by
  have keys : ∀ salt, initiatorKeys P after salt = initiatorKeys P before salt := by
    intro salt
    simp only [initiatorKeys, same.txKey, same.rxKey, same.sessionId]
  cases holder with
  | none => simp only [mirrorOf, same.txKey, same.rxKey, same.txSeq]
  | some locked => cases locked <;> simp only [mirrorOf, keys, same.txKey, same.rxKey, same.txSeq]

namespace Session

/-- What the coroutine that holds the lock is sending. -/
def holder (session : Session) : Option Locked :=
  match session.lock.bind session.tasks with
  | some (.writing locked) => some locked
  | _ => none

/-- The messages in the order in which the lock admitted their calls. -/
def admittedPayloads (session : Session) : List Bytes :=
  session.admitted.filterMap fun entry => entry.2.payload?

def mirror (P : Primitives) (session : Session) : View :=
  mirrorOf P session.info session.admittedPayloads session.holder

theorem holder_of_free {session : Session} (free : session.lock = none) :
    session.holder = none := by
  simp [holder, free]

theorem CallInv.holder_eq {session : Session} (inv : CallInv session) {task : Nat}
    {locked : Locked} (writing : session.tasks task = some (.writing locked)) :
    session.holder = some locked := by
  have held := (inv.holder task).mpr ⟨locked, writing⟩
  simp [Session.holder, held, writing]

theorem holder_settle_self {base : Session} {task : Nat} {locked : Locked}
    (held : base.lock = some task) :
    (base.settle task (.suspended (.writing locked))).holder = some locked := by
  simp [holder, held, Fate.await]

/-- A coroutine that does not hold the lock moves. -/
theorem CallInv.holder_settle_other {before base : Session} {task : Nat} {fate : Fate}
    (inv : CallInv before) (tasks : base.tasks = before.tasks) (lock : base.lock = before.lock)
    (idle : ∀ locked, before.tasks task ≠ some (.writing locked)) :
    (base.settle task fate).holder = before.holder := by
  cases held : before.lock with
  | none =>
      rw [holder_of_free held]
      exact holder_of_free (by simp [lock, held])
  | some other =>
      have distinct : other ≠ task := by
        rintro rfl
        obtain ⟨locked, writing⟩ := (inv.holder other).mp held
        exact idle locked writing
      simp [Session.holder, lock, held, distinct, tasks]

theorem mirror_congr {before after : Session} (keys : SameKeys before.info after.info)
    (admitted : after.admitted = before.admitted) (sameHolder : after.holder = before.holder) :
    after.mirror P = before.mirror P := by
  rw [mirror, mirror, sameHolder, admittedPayloads, admitted]
  exact mirrorOf_congr keys _ _

/-- The messages of the mirror are those that were sent to their end. -/
theorem mirror_messages (session : Session) :
    (session.mirror P).messages <+: session.admittedPayloads := by
  unfold mirror
  cases held : session.holder with
  | none => exact List.prefix_rfl
  | some locked =>
      cases locked with
      | send data offset =>
          simp only [mirrorOf]
          split
          · exact List.dropLast_prefix _
          · exact List.prefix_rfl
      | ping | bye | rekey salt | pong locals => exact List.prefix_rfl

/-- The end of a locked part that is neither inside a message nor a rotation. -/
theorem CallInv.mirror_finished {before after : Session} {task : Nat} {locked : Locked}
    (inv : CallInv before) (writing : before.tasks task = some (.writing locked))
    (free : after.lock = none) (info : after.info = before.info)
    (admitted : after.admitted = before.admitted) (whole : locked.midMessage = false)
    (notRekey : ∀ salt, locked ≠ .rekey salt) : after.mirror P = before.mirror P := by
  rw [mirror, mirror, inv.holder_eq writing, mirrorOf_settled whole notRekey,
    holder_of_free free, admittedPayloads, info, admitted]
  rfl

/-- The lock admitted last the message that its holder is sending. -/
theorem CallInv.payloads_of_writing {session : Session} (inv : CallInv session) {task : Nat}
    {data : Bytes} {offset : Nat}
    (writing : session.tasks task = some (.writing (.send data offset))) :
    ∃ earlier, session.admittedPayloads = earlier ++ [data] := by
  obtain ⟨earlier, first, split, sameOp⟩ := inv.current task _ writing
  have payload : first.payload? = some data := Locked.payload?_of_op sameOp
  refine ⟨earlier.filterMap fun entry => entry.2.payload?, ?_⟩
  rw [admittedPayloads, split, List.filterMap_append]
  simp [payload]

/-- A step that cuts no locked part short. -/
structure Completes (session : Session) (action : SessionAction) : Prop where
  noFailure : ∀ task exn now, action ≠ .wrote task (some exn) now
  noCancel : ∀ task, action ≠ .cancel task
  unspent : ∀ task locked admitted, Encrypting session task action locked admitted →
    session.info.txSeq < maxSeq

/-- A completed step of the sender: the frame it encrypts takes the mirror along, and
without one the mirror stays, unless the peer's REKEY changed the keys. -/
theorem mirror_progress {before base : Session} {action : SessionAction} {fate : Fate}
    {effects : Effects} (inv : CallInv before)
    (progress : Progress P before action base fate effects)
    (noBye : ∀ task at_, before.tasks task = some at_ → at_.op ≠ .bye)
    (completes : Completes before action)
    (ownKeys : ∀ task result now, action = .read task result now → base.epochs = before.epochs) :
    (∃ task locked, effects.write = some (encryptedFrame P before.info task locked) ∧
        (before.mirror P).accept P before.info.sessionId
            (encryptedFrame P before.info task locked) =
          some ((base.settle action.task fate).mirror P)) ∨
      effects.write = none ∧ (base.settle action.task fate).mirror P = before.mirror P := by
  cases progress with
  | called task op now isNew =>
      refine .inr ⟨rfl, mirror_congr (by simpa using .refl _) (by simp) ?_⟩
      exact inv.holder_settle_other rfl rfl
        (fun locked => by simp [SessionAction.task, inv.none_of_new isNew])
  | encrypted task action locked admitted ready unspent =>
      obtain ⟨isTask, call, placed, _, _⟩ := ready.facts inv
      have notBye : locked ≠ .bye := by
        rintro rfl
        obtain ⟨_, was, wasAt, sameOp, _⟩ := ready.was
        exact noBye task was wasAt sameOp
      have below := completes.unspent task locked admitted ready
      have next : min (before.info.txSeq + 1) maxSeq = before.info.txSeq + 1 := by omega
      refine .inl ⟨task, locked, rfl, ?_⟩
      rw [isTask, mirror, mirror, holder_settle_self rfl]
      simp only [settle_frame, next]
      cases ready with
      | admitted locked free waiting =>
          have start := (inv.placed task _ waiting).2
          rw [holder_of_free free, accept_first placed start notBye below]
          simp [admittedPayloads, List.filterMap_append, List.filterMap_cons]
          cases locked.payload? <;> rfl
      | nextFragment data offset now writing more =>
          obtain ⟨earlier, payloads⟩ := inv.payloads_of_writing writing
          have samePayloads : ∀ fate, ((({ before with
              info := { before.info with txSeq := before.info.txSeq + 1 }
              lock := some task
              sent := before.sent ++ [encryptedFrame P before.info task
                (.send data (offset + (chunkAt data offset).length))] } : Session).settle task
              fate).admittedPayloads) = earlier ++ [data] := by
            intro fate
            rw [← payloads]
            simp [admittedPayloads]
          rw [inv.holder_eq writing, payloads, samePayloads]
          exact accept_nextChunk (inv.placed task _ writing) more below
  | refused task action locked admitted ready spent notBye exn =>
      exact absurd (completes.unspent task locked admitted ready) (Nat.not_lt.mpr spent)
  | failed task locked exn now writing => exact absurd rfl (completes.noFailure task exn now)
  | sent task data offset now writing last =>
      refine .inr ⟨rfl, inv.mirror_finished writing (by simp) (by simp) (by simp) ?_ (by simp)⟩
      simpa [Locked.midMessage] using last
  | signalled task locked now writing kind =>
      refine .inr ⟨rfl, inv.mirror_finished writing (by simp) (by simp) (by simp) ?_ ?_⟩
      · rcases kind with rfl | rfl <;> rfl
      · rcases kind with rfl | rfl <;> simp
  | rekeyed task salt now writing =>
      refine .inr ⟨rfl, ?_⟩
      rw [mirror, mirror, inv.holder_eq writing, holder_of_free (by simp)]
      simp [mirrorOf, SessionInfo.rotated, admittedPayloads]
  | ponged task locals now writing =>
      exact .inr ⟨rfl, inv.mirror_finished writing (by simp) (by simp) (by simp) rfl (by simp)⟩
  | received task locals pending now result reading turn isTurn =>
      have epochs := ownKeys task result now rfl
      refine .inr ⟨rfl, mirror_congr ?_ (by simp) ?_⟩
      · rcases recvTurn_keys P before.reliable before.info locals now result with
          ⟨same, _⟩ | ⟨salt, keys, _, _, rotations⟩
        · simpa [isTurn] using same
        · simp [isTurn, rotations] at epochs
      · exact inv.holder_settle_other rfl rfl (by simp [SessionAction.task, reading])
  | tookHeader task locals header reading =>
      exact .inr ⟨rfl, mirror_congr (by simpa using .refl _) (by simp)
        (inv.holder_settle_other rfl rfl (by simp [SessionAction.task, reading]))⟩
  | abandoned task at_ isAt unlocked => exact absurd rfl (completes.noCancel task)
  | interrupted task locked writing => exact absurd rfl (completes.noCancel task)

end Session

end Usmp
