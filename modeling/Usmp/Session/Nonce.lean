import Usmp.Session.Machine
import Usmp.Sample

/-!
# No nonce is used twice

`encrypt` runs with the session's current key and a nonce built from the current
sequence.  The sequence is burned in the same uninterrupted stretch of code, so
whatever happens at the awaits, a frame of the current key has a sequence below
`tx_seq`.  The one exception is BYE, which a spent sequence still carries; the
flag that `bye` sets at its start lets at most one BYE through.
-/

namespace Usmp

/-- Every pair of keys differs from all keys of the pairs before it. -/
def FreshKeys (epochs : List (Key × Key)) : Prop :=
  epochs.Pairwise fun earlier later =>
    later.1 ≠ earlier.1 ∧ later.1 ≠ earlier.2 ∧ later.2 ≠ earlier.1 ∧ later.2 ≠ earlier.2

instance (epochs : List (Key × Key)) : Decidable (FreshKeys epochs) :=
  inferInstanceAs (Decidable (List.Pairwise _ epochs))

namespace Session

/-- A call of `bye` that waits for the send lock. -/
def WaitsForBye (session : Session) (task : Nat) : Prop :=
  session.tasks task = some (.lockWait .bye)

/-- What a step can do to the sending side of a session. -/
inductive TxStep (P : Primitives) (before after : Session) : Prop where
  | quiet
      (sent : after.sent = before.sent)
      (epochs : after.epochs = before.epochs)
      (keys : SameKeys before.info after.info)
      (closed : after.closed = before.closed)
      (waits : ∀ task, after.WaitsForBye task → before.WaitsForBye task)
  /-- The first call of `bye`. -/
  | closing (caller : Nat)
      (sent : after.sent = before.sent)
      (epochs : after.epochs = before.epochs)
      (keys : SameKeys before.info after.info)
      (wasOpen : before.closed = false)
      (closed : after.closed = true)
      (waits : ∀ task, after.WaitsForBye task → task = caller ∨ before.WaitsForBye task)
  /-- One call of `encrypt`. -/
  | encrypted (caller : Nat) (locked : Locked)
      (guard : before.info.txSeq < maxSeq ∨ locked.frame.1 = .bye)
      (sent : after.sent = before.sent ++ [encryptedFrame P before.info caller locked])
      (epochs : after.epochs = before.epochs)
      (info : after.info =
        { before.info with txSeq := min (before.info.txSeq + 1) maxSeq })
      (closed : after.closed = before.closed)
      (isBye : locked.frame.1 = .bye → before.WaitsForBye caller)
      (waits : ∀ task, after.WaitsForBye task → task ≠ caller ∧ before.WaitsForBye task)
  | rotated (keys : Key × Key) (isInitiator : Bool) (salt : Bytes)
      (derived : keys = deriveRekeyKeys P isInitiator before.info.txKey before.info.rxKey
        before.info.sessionId salt)
      (sent : after.sent = before.sent)
      (epochs : after.epochs = before.epochs ++ [keys])
      (info : after.info = before.info.rotated keys)
      (closed : after.closed = before.closed)
      (waits : ∀ task, after.WaitsForBye task → before.WaitsForBye task)

theorem Locked.frame_bye {locked : Locked} (isBye : locked.frame.1 = .bye) : locked = .bye := by
  cases locked <;> simp [Locked.frame] at isBye ⊢
  split at isBye <;> simp at isBye

theorem Left.waits {before after : Session} {task : Nat} (left : Left before after task)
    {other : Nat} (waits : after.WaitsForBye other) :
    other ≠ task ∧ before.WaitsForBye other := by
  have distinct : other ≠ task := by
    rintro rfl
    rcases left.self with idle | ⟨locals, reading⟩
    · simp [WaitsForBye, idle] at waits
    · simp [WaitsForBye, reading] at waits
  refine ⟨distinct, ?_⟩
  rw [WaitsForBye, ← left.others other distinct]
  exact waits

theorem Left.quiet {P : Primitives} {before after : Session} {task : Nat}
    (left : Left before after task) : TxStep P before after :=
  .quiet left.sent left.epochs (left.info ▸ .refl _) left.closed
    fun _ waits => (left.waits waits).2

theorem txStep_emit (P : Primitives) {session : Session} {task : Nat} {locked : Locked}
    (admitted : List (Nat × Locked))
    (isBye : locked = .bye → session.WaitsForBye task) :
    TxStep P session (({ session with admitted } : Session).emit P task locked).1 := by
  rcases emit_cases P { session with admitted } task locked with
    ⟨_, _, exn, raised⟩ | ⟨guard, emitted⟩
  · rw [raised]
    have left := left_raiseLocked { session with admitted } task locked exn
    refine .quiet left.sent left.epochs ?_ left.closed fun _ waits => (left.waits waits).2
    rw [left.info]
    exact .refl _
  · rw [emitted]
    refine .encrypted task locked guard rfl rfl rfl rfl
      (fun frameBye => isBye (Locked.frame_bye frameBye)) ?_
    intro other waits
    by_cases same : other = task
    · subst same
      simp [WaitsForBye, park] at waits
    · exact ⟨same, by simpa [WaitsForBye, park, same] using waits⟩

theorem txStep_begin (P : Primitives) (session : Session) (task : Nat) (now : Rat) (op : Op)
    (calls : List (Nat × Op)) :
    TxStep P session (({ session with calls } : Session).begin task now op) := by
  have parked : ∀ at_, at_ ≠ .lockWait .bye →
      TxStep P session (({ session with calls } : Session).park task at_) := by
    intro at_ notBye
    refine .quiet rfl rfl (.refl _) rfl fun other waits => ?_
    by_cases same : other = task
    · subst same
      simp [WaitsForBye, park, notBye] at waits
    · simpa [WaitsForBye, park, same] using waits
  have finished : ∀ outcome,
      TxStep P session (({ session with calls } : Session).finish task outcome) := by
    intro outcome
    refine .quiet rfl rfl (.refl _) rfl fun other waits => ?_
    by_cases same : other = task
    · subst same
      simp [WaitsForBye, finish] at waits
    · simpa [WaitsForBye, finish, same] using waits
  cases op with
  | send data =>
      simp only [begin]
      split
      · exact finished _
      · exact parked _ (by simp)
  | ping => exact parked _ (by simp)
  | rekey salt => exact parked _ (by simp)
  | recv => exact parked _ (by simp)
  | bye =>
      simp only [begin]
      split
      · exact finished _
      · rename_i isOpen
        refine .closing task rfl rfl (.refl _) (by simpa using isOpen) rfl fun other waits => ?_
        by_cases same : other = task
        · exact .inl same
        · exact .inr (by simpa [WaitsForBye, park, same] using waits)

theorem txStep_wroteFrame (P : Primitives) {session : Session} {task : Nat} {locked : Locked}
    (now : Rat) : TxStep P session (session.wroteFrame P task now locked).1 := by
  cases locked with
  | send data offset =>
      simp only [wroteFrame]
      split
      · exact txStep_emit P session.admitted (by simp)
      · exact (left_finish ..).quiet
  | ping => exact (left_finish ..).quiet
  | bye => exact (left_finish ..).quiet
  | pong locals => exact (left_resumeRecv _ _ (pongSent_ne_pong _ _ _)).quiet
  | rekey salt =>
      have left := left_finish (session.rotate (initiatorKeys P session.info salt)) task
        (.returned none)
      exact .rotated _ true salt.1 rfl left.sent left.epochs left.info left.closed
        fun _ waits => (left.waits waits).2

theorem txStep_readFrame (P : Primitives) (session : Session) (task : Nat)
    (locals : RecvLocals) (now : Rat) (result : Except Exn USMPFrame) :
    TxStep P session (session.readFrame P task locals now result).1 := by
  have waits : ∀ other, (session.readFrame P task locals now result).1.WaitsForBye other →
      session.WaitsForBye other := by
    intro other waits
    by_cases same : other = task
    · subst same
      rw [WaitsForBye, readFrame] at waits
      rcases resumeRecv_tasks_self _ other _ with idle | ⟨_, reading⟩ | ⟨_, ponging⟩
      · rw [idle] at waits; cases waits
      · rw [reading] at waits; cases waits
      · rw [ponging] at waits; cases waits
    · rw [WaitsForBye, readFrame, resumeRecv_tasks_of_ne _ _ same] at waits
      exact waits
  rcases recvTurn_keys P session.reliable session.info locals now result with
    ⟨same, none_⟩ | ⟨salt, keys, derived, info, some_⟩
  · exact .quiet (by simp [readFrame]) (by simp [readFrame, none_])
      (by simpa [readFrame] using same) (by simp [readFrame]) waits
  · exact .rotated keys false salt derived (by simp [readFrame]) (by simp [readFrame, some_])
      (by simpa [readFrame] using info) (by simp [readFrame]) waits

/-- The inversion lemma for the sending side: every step of the machine is one of
the four kinds. -/
theorem txStep_of_step {P : Primitives} {session : Session} {action : SessionAction}
    {result : Session × Effects} (stepped : session.step P action = some result) :
    TxStep P session result.1 := by
  cases action with
  | call task op now =>
      simp only [step] at stepped
      split at stepped <;> cases stepped
      exact txStep_begin P session task now op _
  | acquire task =>
      simp only [step] at stepped
      split at stepped <;> cases stepped
      rename_i waiting
      exact txStep_emit P _ (by rintro rfl; exact waiting)
  | wrote task failure now =>
      simp only [step] at stepped
      split at stepped
      · split at stepped
        · cases stepped
          exact (left_raiseLocked ..).quiet
        · cases stepped
          exact txStep_wroteFrame P now
      · cases stepped
  | read task result now =>
      simp only [step] at stepped
      split at stepped <;> cases stepped
      exact txStep_readFrame ..
  | readHeader task header =>
      simp only [step] at stepped
      split at stepped <;> cases stepped
      refine .quiet rfl rfl (.refl _) rfl fun other waits => ?_
      by_cases same : other = task
      · subst same
        simp [WaitsForBye, park] at waits
      · simpa [WaitsForBye, park, same] using waits
  | cancel task =>
      simp only [step] at stepped
      split at stepped
      · rename_i at_ _
        cases stepped
        have finished : TxStep P session (session.finish task .cancelled) := by
          refine .quiet rfl rfl (.refl _) rfl fun other waits => ?_
          by_cases same : other = task
          · subst same
            simp [WaitsForBye, finish] at waits
          · simpa [WaitsForBye, finish, same] using waits
        cases at_ with
        | lockWait locked => cases locked <;> exact finished
        | writing locked => cases locked <;> exact (left_finish ..).quiet
        | reading locals pending => exact finished
      · cases stepped

/-! ## The invariant -/

/-- At most one BYE: none while the session is open, and none waiting once one
was encrypted. -/
structure OneBye (session : Session) : Prop where
  waiting_closed : ∀ task, session.WaitsForBye task → session.closed = true
  sent_closed : ∀ frame ∈ session.sent, frame.type = .bye → session.closed = true
  unique : ∀ task other, session.WaitsForBye task → session.WaitsForBye other → task = other
  exclusive : ∀ frame ∈ session.sent, frame.type = .bye → ∀ task, ¬ session.WaitsForBye task

/-- Frames of the current key have burned sequences, and no pair repeats. -/
structure NonceInv (session : Session) : Prop where
  oneBye : OneBye session
  bound : session.info.txSeq ≤ maxSeq
  sent_bound : ∀ frame ∈ session.sent, frame.seq ≤ maxSeq
  nonce : ∀ frame ∈ session.sent, frame.nonce = packNonce frame.seq session.info.sessionId
  key_known : ∀ frame ∈ session.sent, frame.txKey ∈ session.epochs.map Prod.fst
  current_known : session.info.txKey ∈ session.epochs.map Prod.fst
  burned : ∀ frame ∈ session.sent, frame.txKey = session.info.txKey →
    frame.seq < session.info.txSeq ∨ (frame.type = .bye ∧ session.info.txSeq = maxSeq)
  nodup : (session.sent.map fun frame => (frame.txKey, frame.nonce)).Nodup

theorem oneBye_step {P : Primitives} {before after : Session} (inv : OneBye before)
    (stepped : TxStep P before after) : OneBye after := by
  cases stepped with
  | quiet sent epochs keys closed waits | rotated keys _ _ _ sent epochs info closed waits =>
      constructor
      · intro task waiting
        rw [closed]
        exact inv.waiting_closed task (waits task waiting)
      · rw [sent, closed]
        exact inv.sent_closed
      · intro task other waiting waiting'
        exact inv.unique task other (waits task waiting) (waits other waiting')
      · rw [sent]
        intro frame member isBye task waiting
        exact inv.exclusive frame member isBye task (waits task waiting)
  | closing caller sent epochs keys wasOpen closed waits =>
      have noWait : ∀ task, ¬ before.WaitsForBye task := by
        intro task waiting
        exact absurd (inv.waiting_closed task waiting) (by simp [wasOpen])
      have noBye : ∀ frame ∈ before.sent, frame.type ≠ .bye := by
        intro frame member isBye
        exact absurd (inv.sent_closed frame member isBye) (by simp [wasOpen])
      have isCaller : ∀ task, after.WaitsForBye task → task = caller := fun task waiting =>
        (waits task waiting).resolve_right (noWait task)
      constructor
      · exact fun _ _ => closed
      · exact fun _ _ _ => closed
      · intro task other waiting waiting'
        rw [isCaller task waiting, isCaller other waiting']
      · rw [sent]
        intro frame member isBye
        exact absurd isBye (noBye frame member)
  | encrypted caller locked guard sent epochs info closed isBye waits =>
      constructor
      · intro task waiting
        rw [closed]
        exact inv.waiting_closed task (waits task waiting).2
      · rw [sent, closed]
        intro frame member frameBye
        rcases List.mem_append.mp member with old | new
        · exact inv.sent_closed frame old frameBye
        · rw [List.mem_singleton.mp new] at frameBye
          exact inv.waiting_closed caller (isBye frameBye)
      · intro task other waiting waiting'
        exact inv.unique task other (waits task waiting).2 (waits other waiting').2
      · rw [sent]
        intro frame member frameBye task waiting
        obtain ⟨distinct, waiting⟩ := waits task waiting
        rcases List.mem_append.mp member with old | new
        · exact inv.exclusive frame old frameBye task waiting
        · rw [List.mem_singleton.mp new] at frameBye
          exact distinct (inv.unique task caller waiting (isBye frameBye))

theorem nonceInv_step {P : Primitives} {before after : Session} (inv : NonceInv before)
    (stepped : TxStep P before after) (fresh : FreshKeys after.epochs) : NonceInv after := by
  have oneBye := oneBye_step inv.oneBye stepped
  cases stepped with
  | quiet sent epochs keys closed waits | closing _ sent epochs keys _ closed waits =>
      refine ⟨oneBye, ?_, ?_, ?_, ?_, ?_, ?_, ?_⟩
      · rw [keys.txSeq]
        exact inv.bound
      · rw [sent]
        exact inv.sent_bound
      · rw [sent, keys.sessionId]
        exact inv.nonce
      · rw [sent, epochs]
        exact inv.key_known
      · rw [keys.txKey, epochs]
        exact inv.current_known
      · rw [sent, keys.txKey, keys.txSeq]
        exact inv.burned
      · rw [sent]
        exact inv.nodup
  | rotated keys _ _ _ sent epochs info closed waits =>
      rw [epochs] at fresh
      have isNew : keys.1 ∉ before.epochs.map Prod.fst := by
        intro member
        obtain ⟨earlier, earlierMem, equal⟩ := List.mem_map.mp member
        exact ((List.pairwise_append.mp fresh).2.2 earlier earlierMem keys (by simp)).1 equal.symm
      refine ⟨oneBye, ?_, ?_, ?_, ?_, ?_, ?_, ?_⟩
      · rw [info]
        exact Nat.zero_le _
      · rw [sent]
        exact inv.sent_bound
      · rw [sent, info]
        exact inv.nonce
      · rw [sent, epochs]
        intro frame member
        rw [List.map_append]
        exact List.mem_append_left _ (inv.key_known frame member)
      · rw [info, epochs]
        simp [SessionInfo.rotated]
      · rw [sent, info]
        intro frame member sameKey
        have known := inv.key_known frame member
        rw [sameKey] at known
        exact absurd known isNew
      · rw [sent]
        exact inv.nodup
  | encrypted caller locked guard sent epochs info closed isBye waits =>
      have newBurned : before.info.txSeq < min (before.info.txSeq + 1) maxSeq ∨
          (locked.frame.1 = .bye ∧ min (before.info.txSeq + 1) maxSeq = maxSeq) := by
        rcases guard with below | frameBye
        · omega
        · have := inv.bound
          by_cases below : before.info.txSeq < maxSeq
          · omega
          · exact .inr ⟨frameBye, by omega⟩
      -- a repeated pair would be a burned sequence, or a second BYE
      have isNew : (before.info.txKey, packNonce before.info.txSeq before.info.sessionId) ∉
          before.sent.map fun frame => (frame.txKey, frame.nonce) := by
        intro member
        obtain ⟨frame, frameMem, equal⟩ := List.mem_map.mp member
        obtain ⟨sameKey, sameNonce⟩ := Prod.mk.inj equal
        rw [inv.nonce frame frameMem] at sameNonce
        have sameSeq := packNonce_inj (inv.sent_bound frame frameMem) inv.bound sameNonce
        rcases inv.burned frame frameMem sameKey with below | ⟨frameBye, spent⟩
        · omega
        · have second := guard.resolve_left (by omega)
          exact inv.oneBye.exclusive frame frameMem frameBye caller (isBye second)
      have forall_sent : ∀ {property : SentFrame → Prop},
          (∀ frame ∈ before.sent, property frame) →
          property (encryptedFrame P before.info caller locked) →
          ∀ frame ∈ after.sent, property frame := by
        intro property old new frame member
        rw [sent] at member
        rcases List.mem_append.mp member with member | member
        · exact old frame member
        · rw [List.mem_singleton.mp member]
          exact new
      refine ⟨oneBye, ?_, ?_, ?_, ?_, ?_, ?_, ?_⟩
      · rw [info]
        exact Nat.min_le_right _ _
      · exact forall_sent inv.sent_bound inv.bound
      · rw [info]
        exact forall_sent inv.nonce rfl
      · rw [epochs]
        exact forall_sent inv.key_known inv.current_known
      · rw [info, epochs]
        exact inv.current_known
      · rw [info]
        refine forall_sent ?_ fun _ => newBurned
        intro frame member sameKey
        have := inv.bound
        rcases inv.burned frame member sameKey with below | ⟨frameBye, spent⟩
        · left
          simp only
          omega
        · right
          refine ⟨frameBye, ?_⟩
          simp only
          omega
      · rw [sent, List.map_append]
        exact List.nodup_append.mpr ⟨inv.nodup, by simp, by
          intro pair member other otherMem equal
          rw [List.map_singleton, List.mem_singleton] at otherMem
          rw [equal, otherMem] at member
          exact isNew member⟩

theorem nonceInv_of_run {P : Primitives} {reliable : Bool} {info : SessionInfo}
    (startBound : info.txSeq ≤ maxSeq) {actions : List SessionAction} {final : Session}
    (reached : Machine.run (next P) (new reliable info) actions = some final)
    (fresh : FreshKeys final.epochs) : NonceInv final := by
  have initially : FreshKeys (new reliable info).epochs → NonceInv (new reliable info) := by
    intro _
    constructor <;> try simp [new, startBound]
    constructor <;> simp [WaitsForBye]
  refine Machine.run_invariant'
    (fun session => FreshKeys session.epochs → NonceInv session) ?_ initially reached fresh
  intro before action after inv stepped fresh
  obtain ⟨result, performed, rfl⟩ := Option.map_eq_some_iff.mp stepped
  have kind := txStep_of_step performed
  have freshBefore : FreshKeys before.epochs := by
    cases kind with
    | quiet _ epochs | closing _ _ epochs | encrypted _ _ _ _ epochs => rwa [epochs] at fresh
    | rotated keys _ _ _ _ epochs =>
        rw [epochs] at fresh
        exact (List.pairwise_append.mp fresh).1
  exact nonceInv_step (inv freshBefore) kind fresh

/-- In every run of a session, no two calls of `encrypt` use the same key and
nonce. -/
theorem nonce_unique (P : Primitives) (reliable : Bool) (info : SessionInfo)
    (startBound : info.txSeq ≤ maxSeq) (actions : List SessionAction) (final : Session)
    (reached : Machine.run (next P) (new reliable info) actions = some final)
    (fresh : FreshKeys final.epochs) :
    (final.sent.map fun frame => (frame.txKey, frame.nonce)).Nodup :=
  (nonceInv_of_run startBound reached fresh).nodup

/-- A run near the end of the sequence: a failed send is repeated, the keys are
rotated, a fragmented send is cancelled, and two calls of `bye` follow. -/
def troubledRun : List SessionAction :=
  [.call 0 (.send [7]) 0, .acquire 0, .wrote 0 (some ⟨.osError, "not acknowledged"⟩) 0,
    .call 1 (.send [7]) 0, .acquire 1, .wrote 1 none 0,
    .call 2 (.rekey ⟨List.replicate 32 5, length_sampleSalt⟩) 0, .acquire 2, .wrote 2 none 0,
    .call 3 (.send (List.replicate 500 9)) 0, .acquire 3, .wrote 3 none 0, .cancel 3,
    .call 4 .bye 0, .call 5 .bye 0, .acquire 4, .wrote 4 none 0, .call 6 .ping 0, .acquire 6]

theorem nonce_unique_troubledRun :
    ∃ final,
      Machine.run (next samplePrimitives) (new false (sampleInfo 3 4 (maxSeq - 3))) troubledRun =
          some final ∧
        final.sent.length = 7 ∧
        (final.sent.map fun frame => (frame.txKey, frame.nonce)).Nodup := by
  obtain ⟨final, reached, count, fresh⟩ := Machine.exists_run
    (next samplePrimitives) (new false (sampleInfo 3 4 (maxSeq - 3))) troubledRun
    (fun final => final.sent.length = 7 ∧ FreshKeys final.epochs)
    (by decide +kernel)
  exact ⟨final, reached, count,
    nonce_unique samplePrimitives false _ (by decide) troubledRun final reached fresh⟩

end Session

end Usmp
