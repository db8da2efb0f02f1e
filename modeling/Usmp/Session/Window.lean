import Usmp.Lib.SlidingWindow
import Usmp.Sample
import Usmp.Session.Steps

/-!
# The replay window over UDP

`rx_seq` and `rx_window_bitmap` are the sliding window of the sequences that `recv`
accepted since the keys in use were installed.  A REKEY of either side starts a new key
epoch and with it an empty window.
-/

namespace Usmp

/-- The sequence of the frame that one result of `read_frame` makes `recv` accept: the frame
passed the window and `decrypt`, and its sequence was in range. -/
def acceptedSeq (P : Primitives) (reliable : Bool) (info : SessionInfo)
    (result : Except Exn USMPFrame) : Option Nat :=
  match openFrame P reliable info result with
  | .ok (some (frame, _)) =>
      match acceptSeq reliable info frame.seq with
      | .ok _ => some frame.seq
      | .error _ => none
  | .ok none | .error _ => none

/-! ## The code's window is a sliding window -/

theorem replayDrops_eq (info : SessionInfo) (seq : Nat) :
    replayDrops info seq = SlidingWindow.drops 64 info.rxSeq info.rxWindowBitmap seq := by
  unfold replayDrops SlidingWindow.drops
  have tooOld : (seq : Int) ≤ (info.rxSeq : Int) - 64 ↔ seq + 64 ≤ info.rxSeq := by omega
  simp only [tooOld]
  split
  · rfl
  split
  · rw [Nat.one_shiftLeft, Nat.and_two_pow]
    cases info.rxWindowBitmap.testBit (info.rxSeq - seq) with
    | false => simp
    | true => simp
  · rfl

theorem markReceived_eq (info : SessionInfo) (seq : Nat) :
    ((markReceived info seq).rxSeq, (markReceived info seq).rxWindowBitmap) =
      SlidingWindow.mark 64 info.rxSeq info.rxWindowBitmap seq := by
  have mask : 0xFFFFFFFFFFFFFFFF = 2 ^ 64 - 1 := rfl
  unfold markReceived SlidingWindow.mark
  split
  · simp only [mask, Nat.and_two_pow_sub_one_eq_mod]
  · rfl

/-- The session's window says which sequences were accepted. -/
def SessionInfo.Window (info : SessionInfo) (accepted : List Nat) : Prop :=
  SlidingWindow.Represents 64 info.rxSeq info.rxWindowBitmap accepted

theorem SessionInfo.Window.rotated (info : SessionInfo) (keys : Key × Key) :
    (info.rotated keys).Window [] :=
  .empty 64

theorem SessionInfo.Window.burned {info : SessionInfo} {accepted : List Nat}
    (window : info.Window accepted) (txSeq : Nat) :
    ({ info with txSeq } : SessionInfo).Window accepted :=
  window

theorem SessionInfo.Window.received {info : SessionInfo} {accepted : List Nat}
    (window : info.Window accepted) {seq : Nat} (passes : replayDrops info seq = false) :
    (markReceived info seq).Window (seq :: accepted) ∧ seq ∉ accepted := by
  rw [replayDrops_eq, window.drops_eq_false_iff] at passes
  have marked := window.mark (by decide) passes.2
  rw [← markReceived_eq] at marked
  exact ⟨marked, passes.1⟩

/-- Over UDP what is opened has passed the window. -/
theorem passes_of_openFrame {P : Primitives} {info : SessionInfo} {result : Except Exn USMPFrame}
    {frame : USMPFrame} {plaintext : Bytes}
    (opened : openFrame P false info result = .ok (some (frame, plaintext))) :
    replayDrops info frame.seq = false := by
  unfold openFrame at opened
  split at opened
  · cases opened
  rename_i received
  split at opened
  · cases opened
  rename_i passes
  split at opened <;> cases opened
  simpa using passes

theorem passes_of_acceptedSeq {P : Primitives} {info : SessionInfo}
    {result : Except Exn USMPFrame} {seq : Nat}
    (isAccepted : acceptedSeq P false info result = some seq) :
    replayDrops info seq = false := by
  unfold acceptedSeq at isAccepted
  split at isAccepted
  · rename_i frame plaintext opened
    split at isAccepted <;> cases isAccepted
    exact passes_of_openFrame opened
  · cases isAccepted
  · cases isAccepted

/-- An authentic frame whose sequence is in range is accepted if it passes the window. -/
theorem acceptedSeq_authentic {P : Primitives} {info : SessionInfo} {frame : USMPFrame}
    {plaintext : Bytes}
    (authentic : decrypt P info.rxKey (packNonce frame.seq info.sessionId) frame.seq
      frame.type.toNat frame.version frame.magic frame.length frame.payload info.cipherSuite =
        .ok plaintext)
    (inRange : frame.seq < maxSeq) :
    acceptedSeq P false info (.ok frame) = some frame.seq ↔
      replayDrops info frame.seq = false := by
  have below : ¬ frame.seq ≥ maxSeq := Nat.not_le.mpr inRange
  cases drops : replayDrops info frame.seq with
  | true => simp [acceptedSeq, openFrame, drops]
  | false => simp [acceptedSeq, openFrame, drops, authentic, acceptSeq, below]

/-! ## A turn of the loop -/

/-- A frame that is not accepted is not processed. -/
theorem recvTurn_unaccepted {P : Primitives} {reliable : Bool} {info : SessionInfo}
    (locals : RecvLocals) (now : Rat) {result : Except Exn USMPFrame}
    (unaccepted : acceptedSeq P reliable info result = none) :
    (recvTurn P reliable info locals now result).info = info ∧
      (recvTurn P reliable info locals now result).calls = [] := by
  unfold acceptedSeq at unaccepted
  unfold recvTurn
  split
  · split <;> exact ⟨rfl, rfl⟩
  · exact ⟨rfl, rfl⟩
  rename_i frame plaintext opened
  rw [opened] at unaccepted
  split
  · exact ⟨rfl, rfl⟩
  · rename_i after calls accepts
    simp only [accepts] at unaccepted
    cases unaccepted

/-- An accepted frame marks its sequence, or is a REKEY that installs new keys. -/
theorem recvTurn_accepted {P : Primitives} {info : SessionInfo} (locals : RecvLocals) (now : Rat)
    {result : Except Exn USMPFrame} {seq : Nat}
    (isAccepted : acceptedSeq P false info result = some seq) :
    ((recvTurn P false info locals now result).info = markReceived info seq ∧
        (recvTurn P false info locals now result).rotations = []) ∨
      ∃ keys, (recvTurn P false info locals now result).info =
          (markReceived info seq).rotated keys ∧
        (recvTurn P false info locals now result).rotations = [keys] := by
  unfold acceptedSeq at isAccepted
  unfold recvTurn
  split at isAccepted <;> try cases isAccepted
  rename_i frame plaintext opened
  split at isAccepted <;> cases isAccepted
  rename_i marked accepts
  have confirmed := acceptSeq_ok accepts
  simp only [Bool.false_eq_true, false_and, false_or, true_and] at confirmed
  rcases marked with ⟨after, calls⟩
  rcases confirmed with ⟨_, rfl, rfl⟩
  simp only [opened, accepts]
  split
  · exact .inl ⟨rfl, rfl⟩
  · rename_i handled
    rcases handleFrame_ok handled with ⟨_, rfl, rfl⟩ | ⟨keys, _, _, _, _, rfl, rfl, _⟩
    · exact .inl ⟨rfl, rfl⟩
    · exact .inr ⟨keys, rfl, rfl⟩

/-! ## Every run -/

/-- A session with the sequences accepted in the current key epoch, newest first. -/
structure Windowed where
  session : Session
  accepted : List Nat := []

namespace Windowed

/-- The sequence of the frame that a step of the session accepts. -/
def accepts (P : Primitives) (session : Session) : SessionAction → Option Nat
  | .read task result _ =>
      match session.tasks task with
      | some (.reading _ _) => acceptedSeq P session.reliable session.info result
      | _ => none
  | _ => none

/-- Step the session.  New keys start a new epoch, in which nothing was accepted. -/
def next (P : Primitives) (windowed : Windowed) (action : SessionAction) : Option Windowed :=
  (windowed.session.next P action).map fun session =>
    { session
      accepted :=
        if session.epochs.length = windowed.session.epochs.length then
          (accepts P windowed.session action).toList ++ windowed.accepted
        else
          [] }

/-- What holds of every reachable session over UDP. -/
structure Inv (windowed : Windowed) : Prop where
  unreliable : windowed.session.reliable = false
  window : windowed.session.info.Window windowed.accepted
  nodup : windowed.accepted.Nodup

theorem Inv.next {P : Primitives} {before after : Windowed} {action : SessionAction}
    (inv : Inv before) (stepped : before.next P action = some after) : Inv after := by
  rcases Option.map_eq_some_iff.mp stepped with ⟨session, moved, rfl⟩
  rcases Option.map_eq_some_iff.mp moved with ⟨⟨session, effects⟩, performed, rfl⟩
  have unreliable := (Session.step_reliable performed).trans inv.unreliable
  rcases Session.progress_of_step performed with ⟨base, fate, progress, rfl⟩
  dsimp only at unreliable progress ⊢
  have window := inv.window
  have kept : ∀ {session : Session}, session.reliable = false →
      session.info.Window before.accepted → Inv ⟨session, before.accepted⟩ :=
    fun unreliable window => ⟨unreliable, window, inv.nodup⟩
  cases progress with
  | rekeyed task salt now writing =>
      refine ⟨unreliable, ?_, ?_⟩
      · simpa using SessionInfo.Window.rotated before.session.info _
      · simp
  | received task locals pending now result reading turn isTurn =>
      rw [inv.unreliable] at isTurn
      subst isTurn
      have reads : accepts P before.session (.read task result now) =
          acceptedSeq P false before.session.info result := by
        rw [accepts, reading, inv.unreliable]
      cases isAccepted : acceptedSeq P false before.session.info result with
      | none =>
          have unchanged := recvTurn_unaccepted locals now isAccepted
          rw [isAccepted] at reads
          refine ⟨unreliable, ?_, ?_⟩
          · simpa [reads, RecvTurn.rotations, unchanged] using window
          · simpa [reads, RecvTurn.rotations, unchanged] using inv.nodup
      | some seq =>
          have marked := window.received (passes_of_acceptedSeq isAccepted)
          rw [isAccepted] at reads
          rcases recvTurn_accepted locals now isAccepted with ⟨info, none⟩ | ⟨keys, info, one⟩
          · refine ⟨unreliable, ?_, ?_⟩
            · simpa [reads, info, none] using marked.1
            · simpa [reads, none] using ⟨marked.2, inv.nodup⟩
          · refine ⟨unreliable, ?_, ?_⟩
            · simpa [info, one] using SessionInfo.Window.rotated _ keys
            · simp [one]
  | encrypted task action locked admitted ready unspent =>
      have silent : accepts P before.session action = none := by
        cases ready <;> rfl
      simpa [silent] using kept unreliable (by simpa using window.burned _)
  | refused task action locked admitted ready spent notBye exn =>
      have silent : accepts P before.session action = none := by
        cases ready <;> rfl
      simpa [silent] using kept unreliable (by simpa using window)
  | called | failed | sent | signalled | ponged | tookHeader | abandoned | interrupted =>
      simpa [accepts] using kept unreliable (by simpa using window)

/-- A frame passes the replay check exactly if its sequence is new in its key epoch and lies
less than 64 below the largest accepted one, and the bitmap marks what was accepted. -/
theorem replay_window_exact (P : Primitives) (info : SessionInfo) (start : info.rxSeq = 0)
    (unmarked : info.rxWindowBitmap = 0) (actions : List SessionAction) (final : Windowed)
    (reached : Machine.run (next P) { session := .new false info } actions = some final) :
    (∀ frame plaintext,
        decrypt P final.session.info.rxKey (packNonce frame.seq final.session.info.sessionId)
            frame.seq frame.type.toNat frame.version frame.magic frame.length frame.payload
            final.session.info.cipherSuite = .ok plaintext →
        frame.seq < maxSeq →
        (acceptedSeq P false final.session.info (.ok frame) = some frame.seq ↔
          frame.seq ∉ final.accepted ∧
            (frame.seq : Int) > SlidingWindow.largest final.accepted - 64)) ∧
      (∀ seq, replayDrops final.session.info seq = false ↔
        seq ∉ final.accepted ∧ (seq : Int) > SlidingWindow.largest final.accepted - 64) ∧
      final.accepted.Nodup ∧
      final.session.info.rxSeq = SlidingWindow.largest final.accepted ∧
      final.session.info.rxWindowBitmap < 2 ^ 64 ∧
      ∀ i, i < 64 → (final.session.info.rxWindowBitmap.testBit i = true ↔
        i ≤ final.session.info.rxSeq ∧ final.session.info.rxSeq - i ∈ final.accepted) := by
  have initially : Inv { session := .new false info } := by
    refine ⟨rfl, ?_, List.nodup_nil⟩
    change SlidingWindow.Represents 64 info.rxSeq info.rxWindowBitmap []
    rw [start, unmarked]
    exact .empty 64
  have inv := Machine.run_invariant' Inv (fun _ _ _ => Inv.next) initially reached
  have exactly : ∀ seq, replayDrops final.session.info seq = false ↔
      seq ∉ final.accepted ∧ (seq : Int) > SlidingWindow.largest final.accepted - 64 := by
    intro seq
    rw [replayDrops_eq, inv.window.drops_eq_false_iff, inv.window.isTop]
    apply and_congr_right
    intro _
    omega
  refine ⟨?_, exactly, inv.nodup, inv.window.isTop, inv.window.bound, inv.window.bit⟩
  intro frame plaintext authentic inRange
  rw [← exactly]
  exact acceptedSeq_authentic authentic inRange

/-- Messages of the other side that carry these sequences, each with a `recv` that waits. -/
def messages (seqs : List Nat) : List SessionAction :=
  seqs.zipIdx.flatMap fun (seq, task) =>
    let sent := encryptedFrame samplePrimitives (sampleInfo 3 4 seq) task (.send [7] 0)
    [.call task .recv 0, .read task (.ok (sentFrame sent.type sent.payload seq)) 0]

/-- After a jump by 70 the window reaches down to 7, and what was accepted is dropped. -/
theorem replay_window_exact_sampleMessages :
    ∃ final,
      Machine.run (next samplePrimitives) { session := .new false (sampleInfo 4 3) }
          (messages [0, 70, 7, 6, 70]) = some final ∧
        final.accepted = [7, 70, 0] ∧ final.session.info.rxWindowBitmap = 2 ^ 63 + 1 ∧
        replayDrops final.session.info 8 = false := by
  rcases Machine.exists_run (next samplePrimitives) { session := .new false (sampleInfo 4 3) }
    (messages [0, 70, 7, 6, 70])
    (fun final => final.accepted = [7, 70, 0] ∧
      final.session.info.rxWindowBitmap = 2 ^ 63 + 1) (by decide +kernel) with
    ⟨final, reached, accepted, bitmap⟩
  refine ⟨final, reached, accepted, bitmap, ?_⟩
  have exact_ := replay_window_exact samplePrimitives (sampleInfo 4 3) rfl rfl
    (messages [0, 70, 7, 6, 70]) final reached
  rw [exact_.2.1, accepted]
  decide

end Windowed

end Usmp
