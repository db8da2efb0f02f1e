import Usmp.Session.Listener

/-!
# Two sessions that talk through an attacker

Both sessions send and listen, and neither rotates its keys.  As long as no message is cut
between two of its fragments, what a session encrypts still replays to its mirror, whatever it
is made to read.
-/

namespace Usmp

/-- A message, a PING, or a `recv`. -/
def Op.Talks : Op → Prop
  | .send _ | .ping | .recv => True
  | .rekey _ | .bye => False

/-- A locked part of such a call. -/
theorem Op.Talks.locked {locked : Locked} (talks : locked.op.Talks) :
    (∀ salt, locked ≠ .rekey salt) ∧ locked.frame.1 ≠ .rekey ∧ locked.frame.1 ≠ .bye := by
  cases locked with
  | send data offset =>
      refine ⟨by simp, ?_⟩
      simp only [Locked.frame]
      split <;> simp
  | ping | pong locals => simp [Locked.frame]
  | rekey salt | bye => exact talks.elim

namespace View

variable {P : Primitives} {sessionId : FixedBytes usmpSessionIdLen} {view next final : View}

theorem accept_seq {sent : SentFrame} (notRekey : sent.type ≠ .rekey)
    (accepted : view.accept P sessionId sent = some next) :
    sent.seq = view.rxSeq ∧ next.rxSeq = view.rxSeq + 1 := by
  rcases accept_some.mp accepted with ⟨⟨_, seq, _⟩, absorbed⟩
  refine ⟨seq, ?_⟩
  unfold absorb at absorbed
  repeat' split at absorbed
  all_goals first
    | exact absurd ‹_› notRekey
    | cases absorbed <;> rfl

/-- Without rotations a log that replays is numbered from the start. -/
theorem replay_numbered {frames : List SentFrame} (types : ∀ sent ∈ frames, sent.type ≠ .rekey)
    (replayed : view.replay P sessionId frames = some final) :
    frames.map SentFrame.seq = List.range' view.rxSeq frames.length ∧
      final.rxSeq = view.rxSeq + frames.length := by
  induction frames generalizing view with
  | nil =>
      cases replayed
      exact ⟨rfl, rfl⟩
  | cons sent rest ih =>
      rcases Machine.run_cons_some.mp replayed with ⟨next, accepted, later⟩
      rcases accept_seq (types sent List.mem_cons_self) accepted with ⟨seq, nextSeq⟩
      rcases ih (fun other member => types other (List.mem_cons_of_mem _ member)) later with
        ⟨seqs, final⟩
      rw [nextSeq] at seqs final
      refine ⟨?_, ?_⟩
      · rw [List.map_cons, seqs, seq, List.length_cons, List.range'_succ]
      · rw [final, List.length_cons]
        omega

end View

namespace Session

/-- Messages, PINGs and one `recv` at a time.  Calls may fail and be cancelled, only not between
two fragments of a message, and no sequence is spent. -/
def Converses (session : Session) : SessionAction → Prop
  | .call _ (.send _) _ | .call _ .ping _ => True
  | .call _ .recv _ => session.receiving = false
  | .call _ (.rekey _) _ | .call _ .bye _ => False
  | .acquire _ => session.info.txSeq < maxSeq
  | .wrote _ failure _ =>
      session.holder.any Locked.midMessage → failure = none ∧ session.info.txSeq < maxSeq
  | .cancel task => session.holder.any Locked.midMessage → session.lock ≠ some task
  | .read _ _ _ | .readHeader _ _ => True

instance (session : Session) : (action : SessionAction) → Decidable (session.Converses action)
  | .call _ (.send _) _ | .call _ .ping _ | .read _ _ _ | .readHeader _ _ => isTrue trivial
  | .call _ .recv _ => inferInstanceAs (Decidable (session.receiving = false))
  | .call _ (.rekey _) _ | .call _ .bye _ => isFalse id
  | .acquire _ => inferInstanceAs (Decidable (session.info.txSeq < maxSeq))
  | .wrote _ failure _ => inferInstanceAs (Decidable (session.holder.any Locked.midMessage →
      failure = none ∧ session.info.txSeq < maxSeq))
  | .cancel task => inferInstanceAs (Decidable (session.holder.any Locked.midMessage →
      session.lock ≠ some task))

variable {P : Primitives}

theorem Converses.talks {session : Session} {task : Nat} {op : Op} {now : Rat}
    (converses : session.Converses (.call task op now)) : op.Talks := by
  cases op with
  | send data | ping | recv => trivial
  | rekey salt | bye => exact converses

/-- What a session without rotations has called and sent. -/
structure Talking (session : Session) : Prop where
  calls : CallInv session
  kinds : ∀ call ∈ session.calls, call.2.Talks
  types : ∀ frame ∈ session.sent, frame.type ≠ .rekey ∧ frame.type ≠ .bye
  nonces : ∀ frame ∈ session.sent, frame.nonce = packNonce frame.seq session.info.sessionId

theorem Talking.progress {before base : Session} {action : SessionAction} {fate : Fate}
    {effects : Effects} (talking : Talking before)
    (progress : Progress P before action base fate effects)
    (converses : before.Converses action) : Talking (base.settle action.task fate) := by
  refine ⟨callInv_progress talking.calls progress, ?_, ?_, ?_⟩
  · intro call member
    simp only [settle_frame] at member
    cases progress with
    | called task op now isNew =>
        rcases List.mem_append.mp member with old | new
        · exact talking.kinds call old
        · cases List.mem_singleton.mp new
          exact converses.talks
    | _ => exact talking.kinds call member
  · intro frame member
    simp only [settle_frame] at member
    rw [progress.log] at member
    rcases List.mem_append.mp member with old | new
    · exact talking.types frame old
    · cases progress with
      | encrypted task action locked admitted ready unspent =>
          cases List.mem_singleton.mp new
          rcases ready.facts talking.calls with ⟨_, call, _⟩
          exact (talking.kinds _ call).locked.2
      | _ => cases new
  · intro frame member
    rcases progress.identity with ⟨sessionId, _⟩
    simp only [settle_frame] at member ⊢
    rw [sessionId]
    rw [progress.log] at member
    rcases List.mem_append.mp member with old | new
    · exact talking.nonces frame old
    · cases progress with
      | encrypted task action locked admitted ready unspent =>
          cases List.mem_singleton.mp new
          rfl
      | _ => cases new

/-- The locked part that a coroutine holds the lock for. -/
theorem Talking.writing {session : Session} (talking : Talking session) {task : Nat}
    {locked : Locked} (writing : session.tasks task = some (.writing locked)) :
    ∀ salt, locked ≠ .rekey salt :=
  (talking.kinds _ (talking.calls.known task _ writing)).locked.1

/-- The frame that a step encrypts takes the mirror along, also when calls fail or are cancelled
between messages. -/
theorem Talking.mirror {before base : Session} {action : SessionAction} {fate : Fate}
    {effects : Effects} (talking : Talking before)
    (progress : Progress P before action base fate effects) (converses : before.Converses action)
    (sameEpochs : base.epochs = before.epochs) :
    (∃ task locked, effects.write = some (encryptedFrame P before.info task locked) ∧
        (before.mirror P).accept P before.info.sessionId
            (encryptedFrame P before.info task locked) =
          some ((base.settle action.task fate).mirror P)) ∨
      effects.write = none ∧ (base.settle action.task fate).mirror P = before.mirror P := by
  have inv := talking.calls
  by_cases cut : (∃ task exn now, action = .wrote task (some exn) now) ∨
      ∃ task, action = .cancel task
  · right
    rcases cut with ⟨task, exn, now, rfl⟩ | ⟨task, rfl⟩
    · cases progress with
      | encrypted _ _ locked admitted ready unspent => cases ready
      | refused _ _ locked admitted ready spent notBye exn => cases ready
      | failed _ locked _ _ writing =>
          refine ⟨rfl, inv.mirror_finished writing (by simp) (by simp) (by simp) ?_
            (talking.writing writing)⟩
          cases middle : locked.midMessage with
          | false => rfl
          | true =>
              have failed := converses (by rw [inv.holder_eq writing, Option.any_some, middle])
              cases failed.1
    · cases progress with
      | encrypted _ _ locked admitted ready unspent => cases ready
      | refused _ _ locked admitted ready spent notBye exn => cases ready
      | abandoned _ at_ isAt unlocked =>
          refine ⟨rfl, mirror_congr (by simpa using .refl _) (by simp) ?_⟩
          refine inv.holder_settle_other rfl rfl ?_
          intro locked writing
          cases isAt.symm.trans writing
          exact unlocked locked rfl
      | interrupted _ locked writing =>
          refine ⟨rfl, inv.mirror_finished writing (by simp) (by simp) (by simp) ?_
            (talking.writing writing)⟩
          cases middle : locked.midMessage with
          | false => rfl
          | true =>
              have held := (inv.holder task).mpr ⟨locked, writing⟩
              exact absurd held
                (converses (by rw [inv.holder_eq writing, Option.any_some, middle]))
  · rw [not_or] at cut
    apply mirror_progress inv progress
    · intro task at_ isAt isBye
      have talks := talking.kinds _ (inv.known task at_ isAt)
      rw [isBye] at talks
      exact talks
    · refine ⟨?_, ?_, ?_⟩
      · rintro task exn now rfl
        exact cut.1 ⟨task, exn, now, rfl⟩
      · rintro task rfl
        exact cut.2 ⟨task, rfl⟩
      · intro task locked admitted ready
        cases ready with
        | admitted locked free waiting => exact converses
        | nextFragment data offset now writing more =>
            refine (converses ?_).2
            rw [inv.holder_eq writing]
            simpa [Locked.midMessage] using more
    · intro task result now isRead
      exact sameEpochs

/-! ## Under an ideal AEAD -/

/-- A turn rotates the keys only for a REKEY frame that opened. -/
theorem rekey_of_rotations {reliable : Bool} {info : SessionInfo} {locals : RecvLocals} {now : Rat}
    {result : Except Exn USMPFrame}
    (rotates : (recvTurn P reliable info locals now result).rotations ≠ []) :
    ∃ frame plaintext, openFrame P reliable info result = .ok (some (frame, plaintext)) ∧
      frame.type = .rekey ∧ frame.seq ≤ maxSeq := by
  unfold recvTurn at rotates
  split at rotates
  · split at rotates <;> exact absurd rfl rotates
  · exact absurd rfl rotates
  rename_i frame plaintext opened
  have accepts : ∀ {after calls}, acceptSeq reliable info frame.seq = .ok (after, calls) →
      frame.seq < maxSeq ∧ RecvTurn.rotations ⟨after, calls, true, .next locals⟩ = [] := by
    intro after calls accepted
    rcases acceptSeq_ok accepted with ⟨below, ⟨_, _, _, rfl⟩ | ⟨_, _, rfl⟩⟩ <;> exact ⟨below, rfl⟩
  split at rotates
  · exact absurd rfl rotates
  rename_i after calls accepted
  rcases accepts accepted with ⟨below, none⟩
  split at rotates
  · exact absurd none rotates
  · rename_i handled
    rcases handleFrame_ok handled with ⟨_, _, rfl⟩ | ⟨keys, isRekey, _⟩
    · rw [List.append_nil] at rotates
      exact absurd none rotates
    · exact ⟨frame, plaintext, opened, isRekey, Nat.le_of_lt below⟩

/-- Nothing that opens rotates the keys of a session in a world without REKEY frames. -/
theorem Progress.keepsEpochs {before base : Session} {action : SessionAction} {fate : Fate}
    {effects : Effects} {log : List SentFrame}
    (progress : Progress P before action base fate effects)
    (noRekey : ∀ task salt, before.tasks task ≠ some (.writing (.rekey salt)))
    (ideal : P.Unforgeable log) (bound : ∀ sent ∈ log, sent.seq ≤ maxSeq)
    (types : ∀ sent ∈ log, sent.type ≠ .rekey) : base.epochs = before.epochs := by
  cases progress with
  | rekeyed task salt now writing => exact absurd writing (noRekey task salt)
  | received task locals pending now result reading turn isTurn =>
      by_cases rotates : turn.rotations = []
      · simp [rotates]
      · rw [isTurn] at rotates
        rcases rekey_of_rotations rotates with ⟨frame, plaintext, opened, isRekey, inRange⟩
        rcases openFrame_logged ideal bound opened inRange with
          ⟨_, sent, member, _, type, _⟩
        exact absurd (type.trans isRekey) (types sent member)
  | _ => rfl

/-- Without new keys the keys stay. -/
theorem Progress.sameKeys {before base : Session} {action : SessionAction} {fate : Fate}
    {effects : Effects} (progress : Progress P before action base fate effects)
    (epochs : base.epochs = before.epochs) : base.info.rxKey = before.info.rxKey := by
  cases progress with
  | rekeyed task salt now writing => simp at epochs
  | received task locals pending now result reading turn isTurn =>
      rcases recvTurn_keys P before.reliable before.info locals now result with
        ⟨same, _⟩ | ⟨salt, keys, _, _, rotations⟩
      · rw [← isTurn] at same
        exact same.rxKey
      · rw [← isTurn] at rotations
        simp [rotations] at epochs
  | called | encrypted | refused | failed | sent | signalled | ponged | tookHeader | abandoned
  | interrupted => rfl

theorem Talking.epochs {before base : Session} {action : SessionAction} {fate : Fate}
    {effects : Effects} {log : List SentFrame} (talking : Talking before)
    (progress : Progress P before action base fate effects) (ideal : P.Unforgeable log)
    (bound : ∀ sent ∈ log, sent.seq ≤ maxSeq) (types : ∀ sent ∈ log, sent.type ≠ .rekey) :
    base.epochs = before.epochs :=
  progress.keepsEpochs (fun _ salt writing => talking.writing writing salt rfl) ideal bound types

/-! ## Runs without a rotation -/

/-- Anything but a call of `rekey`. -/
def KeepsKeys (_ : Session) : SessionAction → Prop
  | .call _ (.rekey _) _ => False
  | _ => True

instance (session : Session) : (action : SessionAction) → Decidable (session.KeepsKeys action)
  | .call _ (.rekey _) _ => isFalse id
  | .call _ .recv _ | .call _ (.send _) _ | .call _ .ping _ | .call _ .bye _ | .acquire _
  | .wrote _ _ _ | .read _ _ _ | .readHeader _ _ | .cancel _ => isTrue trivial

theorem KeepsKeys.notRekey {session : Session} {action : SessionAction}
    (keeps : session.KeepsKeys action) (task : Nat) (salt : FixedBytes 32) (now : Rat) :
    action ≠ .call task (.rekey salt) now := by
  rintro rfl
  exact keeps

theorem Converses.keepsKeys {session : Session} {action : SessionAction}
    (converses : session.Converses action) : session.KeepsKeys action := by
  unfold KeepsKeys
  split
  · exact converses
  · trivial

/-- A session that has called no `rekey`, and so sent no REKEY. -/
structure Unturned (sessionId : FixedBytes usmpSessionIdLen) (session : Session) : Prop where
  calls : CallInv session
  sessionId : session.info.sessionId = sessionId
  noRekey : ∀ call ∈ session.calls, ∀ salt, call.2 ≠ .rekey salt
  types : ∀ frame ∈ session.sent, frame.type ≠ .rekey
  bound : session.info.txSeq ≤ maxSeq
  logged : ∀ frame ∈ session.sent,
    frame.seq ≤ maxSeq ∧ frame.txKey ∈ session.epochs.map Prod.fst
  current : session.info.txKey ∈ session.epochs.map Prod.fst

theorem Unturned.new {reliable : Bool} {info : SessionInfo} {now : Rat}
    (bound : info.txSeq ≤ maxSeq) : Unturned info.sessionId (.new reliable info now) := by
  refine ⟨.new reliable info now, rfl, ?_, ?_, bound, ?_, ?_⟩ <;> simp [Session.new]

theorem Unturned.progress {sessionId : FixedBytes usmpSessionIdLen} {before base : Session}
    {action : SessionAction} {fate : Fate} {effects : Effects}
    (unturned : Unturned sessionId before)
    (progress : Progress P before action base fate effects) (keeps : before.KeepsKeys action) :
    Unturned sessionId (base.settle action.task fate) := by
  rcases progress.identity with ⟨sameId, _, _, bound⟩
  rcases progress.logged unturned.bound unturned.logged unturned.current with ⟨logged, current⟩
  refine ⟨callInv_progress unturned.calls progress, by simpa using sameId.trans unturned.sessionId,
    ?_, ?_, by simpa using bound unturned.bound, by simpa using logged, by simpa using current⟩
  · intro call member salt
    simp only [settle_frame] at member
    cases progress with
    | called task op now isNew =>
        rcases List.mem_append.mp member with old | new
        · exact unturned.noRekey call old salt
        · cases List.mem_singleton.mp new
          rintro rfl
          exact keeps.notRekey task salt now rfl
    | _ => exact unturned.noRekey call member salt
  · intro frame member
    simp only [settle_frame] at member
    rw [progress.log] at member
    rcases List.mem_append.mp member with old | new
    · exact unturned.types frame old
    · cases progress with
      | encrypted task action locked admitted ready unspent =>
          cases List.mem_singleton.mp new
          rcases ready.facts unturned.calls with ⟨_, call, _⟩
          have noRekey := unturned.noRekey _ call
          cases locked with
          | rekey salt => exact absurd rfl (noRekey salt)
          | send data offset =>
              simp only [encryptedFrame, Locked.frame]
              split <;> simp
          | ping | bye | pong locals => simp [encryptedFrame, Locked.frame]
      | _ => cases new

/-- In a world without REKEY frames a session that calls no `rekey` keeps its keys. -/
theorem Unturned.epochs {sessionId : FixedBytes usmpSessionIdLen} {before base : Session}
    {action : SessionAction} {fate : Fate} {effects : Effects} {log : List SentFrame}
    (unturned : Unturned sessionId before)
    (progress : Progress P before action base fate effects) (ideal : P.Unforgeable log)
    (bound : ∀ sent ∈ log, sent.seq ≤ maxSeq) (types : ∀ sent ∈ log, sent.type ≠ .rekey) :
    base.epochs = before.epochs :=
  progress.keepsEpochs
    (fun task salt writing => unturned.noRekey _ (unturned.calls.known task _ writing) salt rfl)
    ideal bound types

/-- A step of the session, and what it does. -/
theorem progress_of_next {before after : Session} {action : SessionAction}
    (stepped : before.next P action = some after) :
    ∃ base fate effects, Progress P before action base fate effects ∧
      before.step P action = some (after, effects) ∧ after = base.settle action.task fate := by
  rcases Option.map_eq_some_iff.mp stepped with ⟨⟨reached, effects⟩, performed, rfl⟩
  rcases progress_of_step performed with ⟨base, fate, progress, settled⟩
  exact ⟨base, fate, effects, progress, performed, settled⟩

theorem unturned_of_run {sessionId : FixedBytes usmpSessionIdLen} {before final : Session}
    {actions : List SessionAction} (unturned : Unturned sessionId before)
    (reached : Machine.run (next P) before actions = some final)
    (keeps : Machine.Along (next P) KeepsKeys before actions) : Unturned sessionId final := by
  apply Machine.run_invariant (Unturned sessionId) ?_ unturned keeps reached
  intro state action after unturned keeps stepped
  rcases progress_of_next stepped with ⟨base, fate, effects, progress, _, rfl⟩
  exact unturned.progress progress keeps

theorem epochs_of_run {sessionId : FixedBytes usmpSessionIdLen} {before final : Session}
    {actions : List SessionAction} {log : List SentFrame} (unturned : Unturned sessionId before)
    (reached : Machine.run (next P) before actions = some final)
    (keeps : Machine.Along (next P) KeepsKeys before actions) (ideal : P.Unforgeable log)
    (bound : ∀ sent ∈ log, sent.seq ≤ maxSeq) (types : ∀ sent ∈ log, sent.type ≠ .rekey) :
    final.epochs = before.epochs := by
  have both := Machine.run_invariant
    (fun session => Unturned sessionId session ∧ session.epochs = before.epochs)
    (by
      intro state action after both keeps stepped
      rcases progress_of_next stepped with ⟨base, fate, effects, progress, _, rfl⟩
      refine ⟨both.1.progress progress keeps, ?_⟩
      simp only [settle_frame]
      exact (both.1.epochs progress ideal bound types).trans both.2)
    ⟨unturned, rfl⟩ keeps reached
  exact both.2

/-! ## What a session says -/

/-- The log of a session without rotations replays from `start` to its mirror. -/
structure Speaking (P : Primitives) (start : View) (keys : Key × Key) (session : Session) :
    Prop where
  talking : Talking session
  epochs : session.epochs = [keys]
  told : start.replay P session.info.sessionId session.sent = some (session.mirror P)

theorem Speaking.new (info : SessionInfo) :
    Speaking P { txKey := info.rxKey, rxKey := info.txKey, rxSeq := info.txSeq }
      (info.txKey, info.rxKey) (.new true info) :=
  ⟨⟨.new true info 0, by simp [Session.new], by simp [Session.new], by simp [Session.new]⟩, rfl,
    rfl⟩

theorem Speaking.progress {start : View} {keys : Key × Key} {before base : Session}
    {action : SessionAction} {fate : Fate} {effects : Effects} {log : List SentFrame}
    (speaking : Speaking P start keys before)
    (progress : Progress P before action base fate effects) (converses : before.Converses action)
    (ideal : P.Unforgeable log) (bound : ∀ sent ∈ log, sent.seq ≤ maxSeq)
    (types : ∀ sent ∈ log, sent.type ≠ .rekey) :
    Speaking P start keys (base.settle action.task fate) := by
  have epochs := speaking.talking.epochs progress ideal bound types
  have mirrored := speaking.talking.mirror progress converses epochs
  rcases progress.identity with ⟨sessionId, _⟩
  refine ⟨speaking.talking.progress progress converses, ?_, ?_⟩
  · simp [epochs, speaking.epochs]
  · simp only [settle_frame]
    rw [progress.log, sessionId]
    rcases mirrored with ⟨task, locked, isWrite, accepted⟩ | ⟨noWrite, same⟩
    · rw [isWrite]
      exact Machine.run_append_some.mpr
        ⟨_, speaking.told, Machine.run_cons_some.mpr ⟨_, accepted, rfl⟩⟩
    · rw [noWrite, same]
      simpa using speaking.told

/-! ## What a session has said by the time it rests -/

/-- The session with its coroutines gone. -/
def atRest (session : Session) : Session :=
  { session with calls := [], tasks := fun _ => none, lock := none }

theorem callInv_atRest (session : Session) : CallInv session.atRest := by
  constructor <;> simp [atRest]

/-- A session that holds no lock tells what it told with its coroutines gone. -/
theorem Speaking.tells {start : View} {keys : Key × Key} {session : Session}
    (speaking : Speaking P start keys session) (free : session.lock = none) :
    Tells P start session.atRest := by
  refine ⟨callInv_atRest session, by simp [atRest], ?_⟩
  have same : session.atRest.mirror P = session.mirror P := by
    rw [Session.mirror, Session.mirror, holder_of_free free, holder_of_free rfl]
    rfl
  rw [same]
  exact speaking.told

/-- Without rotations a log that replays is numbered from the start, under one key. -/
theorem Speaking.numbered {start : View} {keys : Key × Key} {session : Session}
    (speaking : Speaking P start keys session) (free : session.lock = none) :
    session.sent.map SentFrame.seq = List.range' start.rxSeq session.sent.length ∧
      session.info.txSeq = start.rxSeq + session.sent.length := by
  rcases View.replay_numbered (fun sent member => (speaking.talking.types sent member).1)
    speaking.told with ⟨seqs, next⟩
  rw [Session.mirror, holder_of_free free] at next
  exact ⟨seqs, next⟩

/-- No nonce was used twice by the time the session rests. -/
theorem Speaking.nonces {start : View} {keys : Key × Key} {session : Session}
    (speaking : Speaking P start keys session) (free : session.lock = none)
    (bound : session.info.txSeq ≤ maxSeq)
    (current : session.info.txKey ∈ session.epochs.map Prod.fst)
    (sentBound : ∀ frame ∈ session.sent, frame.seq ≤ maxSeq)
    (sentKeys : ∀ frame ∈ session.sent, frame.txKey ∈ session.epochs.map Prod.fst) :
    NonceInv session.atRest := by
  rcases speaking.numbered free with ⟨seqs, next⟩
  refine ⟨⟨?_, ?_, ?_, ?_⟩, bound, sentBound, speaking.talking.nonces, sentKeys, ?_, ?_, ?_⟩
  · intro task waits
    cases waits
  · intro frame member isBye
    exact absurd isBye (speaking.talking.types frame member).2
  · intro task other waits
    cases waits
  · intro frame member isBye task waits
    cases waits
  · exact current
  · intro frame member _
    have inRange : frame.seq ∈ session.sent.map SentFrame.seq := List.mem_map_of_mem member
    rw [seqs, List.mem_range'_1] at inRange
    left
    rw [atRest, next]
    exact inRange.2
  · have distinct : (session.sent.map SentFrame.seq).Nodup := by
      rw [seqs]
      exact List.nodup_range'
    refine (List.Nodup.of_map _ distinct).map_on ?_
    intro first isFirst second isSecond same
    have sameNonce := (Prod.mk.inj same).2
    rw [speaking.talking.nonces first isFirst, speaking.talking.nonces second isSecond] at sameNonce
    exact List.inj_on_of_nodup_map distinct isFirst isSecond
      (packNonce_inj (sentBound first isFirst) (sentBound second isSecond) sameNonce)

end Session

end Usmp
