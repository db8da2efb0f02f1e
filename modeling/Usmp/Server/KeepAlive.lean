import Mathlib.Data.List.Perm.Subperm
import Usmp.Server.Watchdog
import Usmp.Session.Exceptions
import Usmp.Session.Ideal

/-!
# Keeping a dead session alive

Only a frame that the peer encrypted counts as activity, and over UDP it counts once.  An
attacker who has recorded or withheld datagrams of a peer that is gone can put off the end of its
session by one patience of the watchdog for every frame, and no longer.
-/

namespace Usmp

namespace Session

variable {P : Primitives}

/-- What a step authenticates is a frame that opened. -/
theorem authenticates_opened {session : Session} {action : SessionAction}
    (authentic : session.authenticates P action = true) :
    ∃ task result now locals pending frame plaintext, action = .read task result now ∧
      session.tasks task = some (.reading locals pending) ∧
      openFrame P session.reliable session.info result = .ok (some (frame, plaintext)) := by
  cases action with
  | read task result now =>
      simp only [authenticates] at authentic
      split at authentic
      · rename_i locals pending reading
        unfold recvTurn at authentic
        split at authentic
        · split at authentic <;> cases authentic
        · cases authentic
        rename_i frame plaintext opened
        exact ⟨task, result, now, locals, pending, frame, plaintext, rfl, reading, opened⟩
      · cases authentic
  | call | acquire | wrote | readHeader | cancel => cases authentic

end Session

namespace Watched

variable {P : Primitives} {config : WatchdogConfig} {start delay callback : Rat}

/-- No rotation by this side, and frames whose sequence fits its field. -/
def Receives (watched : Watched) : WatchedAction → Prop
  | .session (.read _ (.ok frame) _) => frame.seq ≤ maxSeq
  | .session action => watched.windowed.session.KeepsKeys action
  | .tick _ | .wake | .reported | .cancel => True

instance (watched : Watched) : (action : WatchedAction) → Decidable (watched.Receives action)
  | .session (.read _ (.ok frame) _) => inferInstanceAs (Decidable (frame.seq ≤ maxSeq))
  | .session (.read _ (.error _) _) | .session (.acquire _) | .session (.wrote _ _ _)
  | .session (.readHeader _ _) | .session (.cancel _) => isTrue trivial
  | .session (.call task op now) =>
      inferInstanceAs (Decidable (watched.windowed.session.KeepsKeys (.call task op now)))
  | .tick _ | .wake | .reported | .cancel => isTrue trivial

theorem Receives.keepsKeys {watched : Watched} {action : SessionAction}
    (receives : watched.Receives (.session action)) :
    watched.windowed.session.KeepsKeys action := by
  cases action with
  | read task result now => trivial
  | call | acquire | wrote | readHeader | cancel => exact receives

/-- The actions that are not the session's leave it alone, and do not bring a watchdog back. -/
theorem step_other {before after : Watched} {action : WatchedAction}
    (other : ∀ resumption, action ≠ .session resumption)
    (stepped : before.step P config action = some after) :
    after.windowed = before.windowed ∧ after.heard = before.heard ∧
      (after.watchdog ≠ .cancelled → after.closed = none →
        before.watchdog ≠ .cancelled ∧ before.closed = none) := by
  cases action with
  | session action => exact absurd rfl (other action)
  | tick now =>
      simp only [step] at stepped
      split at stepped <;> cases stepped
      exact ⟨rfl, rfl, fun there isOpen => ⟨there, isOpen⟩⟩
  | wake =>
      simp only [step] at stepped
      split at stepped <;> try cases stepped
      rename_i sleeping
      split at stepped <;> cases stepped
      unfold check
      dsimp only
      have there : before.watchdog ≠ .cancelled := by
        rw [sleeping]
        simp
      split
      · split
        · exact ⟨rfl, rfl, fun _ isOpen => ⟨there, isOpen⟩⟩
        · exact ⟨rfl, rfl, fun _ isOpen => by cases isOpen⟩
      · exact ⟨rfl, rfl, fun _ isOpen => ⟨there, isOpen⟩⟩
  | reported =>
      simp only [step] at stepped
      split at stepped <;> cases stepped
      exact ⟨rfl, rfl, fun _ isOpen => by cases isOpen⟩
  | cancel =>
      simp only [step] at stepped
      split at stepped <;> cases stepped <;>
        exact ⟨rfl, rfl, fun there => absurd rfl there⟩

theorem unturned_step {sessionId : FixedBytes usmpSessionIdLen} {before after : Watched}
    {action : WatchedAction} (unturned : before.windowed.session.Unturned sessionId)
    (receives : before.Receives action) (stepped : before.step P config action = some after) :
    after.windowed.session.Unturned sessionId := by
  by_cases isSession : ∃ resumption, action = .session resumption
  · rcases isSession with ⟨resumption, rfl⟩
    rcases step_session stepped with ⟨windowed, moved, isAfter⟩
    have same : after.windowed = windowed := by
      rcases isAfter with ⟨_, _, rfl⟩ | ⟨_, _, rfl⟩ <;> rfl
    rcases Option.map_eq_some_iff.mp moved with ⟨session, onSession, rfl⟩
    rcases Session.progress_of_next onSession with ⟨base, fate, effects, progress, _, rfl⟩
    rw [same]
    exact unturned.progress progress receives.keepsKeys
  · rw [(step_other (fun resumption isAction => isSession ⟨resumption, isAction⟩) stepped).1]
    exact unturned

/-! ## The invariant -/

/-- What the peer has encrypted, what this side has, and that nothing else opens. -/
structure Sealed (P : Primitives) (info : SessionInfo) (log own : List SentFrame) : Prop where
  ideal : P.Unforgeable (log ++ own)
  types : ∀ sent ∈ log ++ own, sent.type ≠ .rekey
  bound : ∀ sent ∈ log ++ own, sent.seq ≤ maxSeq
  unspent : ∀ sent ∈ log, sent.seq < maxSeq
  own : ∀ sent ∈ own, sent.txKey ≠ info.rxKey

variable {info : SessionInfo} {log own : List SentFrame}

/-- What opens under the key of the peer is a frame of the peer. -/
theorem Sealed.logged (sealing : Sealed P info log own) {current : SessionInfo}
    {result : Except Exn USMPFrame} {frame : USMPFrame} {plaintext : Bytes}
    (rxKey : current.rxKey = info.rxKey)
    (opened : openFrame P false current result = .ok (some (frame, plaintext)))
    (inRange : frame.seq ≤ maxSeq) : frame.seq ∈ log.map SentFrame.seq ∧ frame.seq < maxSeq := by
  rcases openFrame_logged sealing.ideal sealing.bound opened inRange with
    ⟨_, sent, member, key, _, seq, _⟩
  rcases List.mem_append.mp member with isLogged | isOwn
  · rw [← seq]
    exact ⟨List.mem_map_of_mem isLogged, sealing.unspent sent isLogged⟩
  · exact absurd (key.trans rxKey) (sealing.own sent isOwn)

/-- A session that has accepted every frame of the peer at most once, with its watchdog. -/
structure KeptAlive (info : SessionInfo) (log : List SentFrame) (start patience : Rat)
    (watched : Watched) : Prop where
  unturned : watched.windowed.session.Unturned info.sessionId
  epochs : watched.windowed.session.epochs = [(info.txKey, info.rxKey)]
  rxKey : watched.windowed.session.info.rxKey = info.rxKey
  window : watched.windowed.Inv
  known : ∀ seq ∈ watched.windowed.accepted, seq ∈ log.map SentFrame.seq
  counted : watched.heard.length ≤ watched.windowed.accepted.length
  lasting : watched.watchdog ≠ .cancelled → watched.closed = none →
    watched.windowed.session.lastRecv ≤ start + watched.heard.length * patience

theorem KeptAlive.new {patience : Rat} (unread : info.rxSeq = 0)
    (unmarked : info.rxWindowBitmap = 0) (bound : info.txSeq ≤ maxSeq) :
    KeptAlive info log start patience (.new config false info start) := by
  refine ⟨.new bound, rfl, rfl, ⟨rfl, ?_, List.nodup_nil⟩, by simp [Watched.new], le_refl _, ?_⟩
  · change SlidingWindow.Represents 64 info.rxSeq info.rxWindowBitmap []
    rw [unread, unmarked]
    exact .empty 64
  · intro _ _
    simp [Watched.new, Session.new]

/-- The frames that a session step accepts and authenticates are the same one, and it is the
peer's. -/
theorem KeptAlive.accepts {patience : Rat} {watched : Watched} {action : SessionAction}
    (keptAlive : KeptAlive info log start patience watched) (sealing : Sealed P info log own)
    (receives : watched.Receives (.session action)) :
    (∀ seq, Windowed.accepts P watched.windowed.session action = some seq →
        seq ∈ log.map SentFrame.seq) ∧
      (watched.windowed.session.authenticates P action = true →
        (Windowed.accepts P watched.windowed.session action).isSome = true) := by
  have unreliable := keptAlive.window.unreliable
  constructor
  · intro seq isAccepted
    cases action with
    | read task result now =>
        simp only [Windowed.accepts] at isAccepted
        split at isAccepted
        · rw [unreliable] at isAccepted
          unfold acceptedSeq at isAccepted
          split at isAccepted <;> try cases isAccepted
          rename_i frame plaintext opened
          split at isAccepted <;> cases isAccepted
          cases result_of_openFrame opened
          exact (sealing.logged keptAlive.rxKey opened receives).1
        · cases isAccepted
    | call | acquire | wrote | readHeader | cancel => cases isAccepted
  · intro authentic
    rcases Session.authenticates_opened authentic with
      ⟨task, result, now, locals, pending, frame, plaintext, rfl, reading, opened⟩
    cases result_of_openFrame opened
    rw [unreliable] at opened
    have below := (sealing.logged keptAlive.rxKey opened receives).2
    have inRange : ¬ frame.seq ≥ maxSeq := Nat.not_le.mpr below
    simp [Windowed.accepts, reading, unreliable, acceptedSeq, opened, acceptSeq, inRange]

theorem KeptAlive.step {before after : Watched} {action : WatchedAction}
    (keptAlive : KeptAlive info log start (patience config delay callback) before)
    (timely : Timely config start delay callback before) (called : 0 ≤ callback)
    (sealing : Sealed P info log own) (receives : before.Receives action)
    (stepped : before.step P config action = some after) :
    KeptAlive info log start (patience config delay callback) after := by
  by_cases isSession : ∃ resumption, action = .session resumption
  case neg =>
    rcases step_other (fun resumption isAction => isSession ⟨resumption, isAction⟩) stepped with
      ⟨windowed, heard, alive⟩
    refine ⟨?_, ?_, ?_, ?_, ?_, ?_, ?_⟩
    all_goals rw [windowed]
    · exact keptAlive.unturned
    · exact keptAlive.epochs
    · exact keptAlive.rxKey
    · exact keptAlive.window
    · exact keptAlive.known
    · rw [heard]
      exact keptAlive.counted
    · rw [heard]
      intro there isOpen
      exact keptAlive.lasting (alive there isOpen).1 (alive there isOpen).2
  rcases isSession with ⟨resumption, rfl⟩
  have unturned := unturned_step keptAlive.unturned receives stepped
  rcases keptAlive.accepts sealing receives with ⟨isLogged, isCounted⟩
  rcases step_session stepped with ⟨windowed, moved, isAfter⟩
  have window := keptAlive.window.next moved
  have isWindowed : after.windowed = windowed := by
    rcases isAfter with ⟨_, _, rfl⟩ | ⟨_, _, rfl⟩ <;> rfl
  rw [isWindowed] at unturned
  rcases Option.map_eq_some_iff.mp moved with ⟨session, onSession, isNext⟩
  rcases Session.progress_of_next onSession with ⟨base, fate, effects, progress, _, isSettled⟩
  have sameEpochs := keptAlive.unturned.epochs progress sealing.ideal sealing.bound sealing.types
  have isSession : windowed.session = session := by rw [← isNext]
  have epochs : windowed.session.epochs = before.windowed.session.epochs := by
    rw [isSession, isSettled, ← sameEpochs]
    simp
  have rxKey : windowed.session.info.rxKey = before.windowed.session.info.rxKey := by
    rw [isSession, isSettled, ← progress.sameKeys sameEpochs]
    simp
  have accepted : windowed.accepted =
      (Windowed.accepts P before.windowed.session resumption).toList ++
        before.windowed.accepted := by
    rw [← isNext]
    dsimp only
    rw [if_pos (by rw [← isSession, epochs])]
  have known : ∀ seq ∈ windowed.accepted, seq ∈ log.map SentFrame.seq := by
    intro seq member
    rw [accepted] at member
    rcases List.mem_append.mp member with new | old
    · exact isLogged seq (by simpa using new)
    · exact keptAlive.known seq old
  rcases isAfter with ⟨authentic, isNow, rfl⟩ | ⟨_, same, rfl⟩
  · refine ⟨unturned, epochs.trans keptAlive.epochs, rxKey.trans keptAlive.rxKey, window, known,
      ?_, ?_⟩
    · rcases Option.isSome_iff_exists.mp (isCounted authentic) with ⟨seq, isSeq⟩
      rw [accepted, isSeq]
      simpa using keptAlive.counted
    · -- one more frame, one more patience
      intro there isOpen
      have lasting := keptAlive.lasting there isOpen
      have watching := timely.watching called there isOpen
      rw [isNow, List.length_cons]
      push_cast
      linarith
  · refine ⟨unturned, epochs.trans keptAlive.epochs, rxKey.trans keptAlive.rxKey, window, known,
      ?_, ?_⟩
    · rw [accepted]
      exact keptAlive.counted.trans (by simp)
    · rw [same]
      exact keptAlive.lasting

/-! ## Every run -/

theorem unturned_of_run {before final : Watched} {sessionId : FixedBytes usmpSessionIdLen}
    {actions : List WatchedAction} (unturned : before.windowed.session.Unturned sessionId)
    (reached : Machine.run (step P config) before actions = some final)
    (receives : Machine.Along (step P config) Receives before actions) :
    final.windowed.session.Unturned sessionId :=
  Machine.run_invariant (fun watched : Watched => watched.windowed.session.Unturned sessionId)
    (fun _ _ _ unturned receives stepped => unturned_step unturned receives stepped)
    unturned receives reached

theorem epochs_of_run {before final : Watched} {sessionId : FixedBytes usmpSessionIdLen}
    {actions : List WatchedAction} {all : List SentFrame}
    (unturned : before.windowed.session.Unturned sessionId)
    (reached : Machine.run (step P config) before actions = some final)
    (receives : Machine.Along (step P config) Receives before actions)
    (ideal : P.Unforgeable all) (bound : ∀ sent ∈ all, sent.seq ≤ maxSeq)
    (types : ∀ sent ∈ all, sent.type ≠ .rekey) :
    final.windowed.session.epochs = before.windowed.session.epochs := by
  have both := Machine.run_invariant
    (fun watched : Watched => watched.windowed.session.Unturned sessionId ∧
      watched.windowed.session.epochs = before.windowed.session.epochs)
    (by
      intro state action after both receives stepped
      refine ⟨unturned_step both.1 receives stepped, ?_⟩
      by_cases isSession : ∃ resumption, action = .session resumption
      · rcases isSession with ⟨resumption, rfl⟩
        rcases step_session stepped with ⟨windowed, moved, isAfter⟩
        have same : after.windowed = windowed := by
          rcases isAfter with ⟨_, _, rfl⟩ | ⟨_, _, rfl⟩ <;> rfl
        rcases Option.map_eq_some_iff.mp moved with ⟨session, onSession, rfl⟩
        rcases Session.progress_of_next onSession with ⟨base, fate, effects, progress, _, rfl⟩
        rw [same, ← both.2, ← both.1.epochs progress ideal bound types]
        simp
      · rw [(step_other (fun resumption isAction => isSession ⟨resumption, isAction⟩) stepped).1]
        exact both.2)
    ⟨unturned, rfl⟩ receives reached
  exact both.2

/-- Whatever datagrams reach a UDP session, the frames that count as activity are at most those
that the peer has encrypted, and the session is closed after one patience of the watchdog more
than there are frames. -/
theorem dead_session_closed (P : Primitives) (config : WatchdogConfig) (info : SessionInfo)
    (start delay callback : Rat) (timeout : 0 ≤ config.sessionTimeout) (delayed : 0 ≤ delay)
    (called : 0 ≤ callback) (unread : info.rxSeq = 0) (unmarked : info.rxWindowBitmap = 0)
    (bound : info.txSeq ≤ maxSeq) (directions : info.txKey ≠ info.rxKey)
    (actions : List WatchedAction) (final : Watched)
    (reached : Machine.run (step P config) (.new config false info start) actions = some final)
    (prompt : Machine.Along (step P config) (Prompt delay callback)
      (.new config false info start) actions)
    (receives : Machine.Along (step P config) Receives (.new config false info start) actions)
    (log : List SentFrame) (ideal : P.Unforgeable (log ++ final.windowed.session.sent))
    (frames : ∀ sent ∈ log, sent.type ≠ .rekey ∧ sent.seq < maxSeq) :
    final.heard.length ≤ log.length ∧
      (final.watchdog ≠ .cancelled → final.closed = none →
        final.now ≤ start + (log.length + 1) * patience config delay callback) := by
  have unturned : final.windowed.session.Unturned info.sessionId :=
    unturned_of_run (.new bound) reached receives
  have types : ∀ sent ∈ log ++ final.windowed.session.sent, sent.type ≠ .rekey := by
    intro sent member
    rcases List.mem_append.mp member with isLogged | isOwn
    · exact (frames sent isLogged).1
    · exact unturned.types sent isOwn
  have inRange : ∀ sent ∈ log ++ final.windowed.session.sent, sent.seq ≤ maxSeq := by
    intro sent member
    rcases List.mem_append.mp member with isLogged | isOwn
    · exact Nat.le_of_lt (frames sent isLogged).2
    · exact (unturned.logged sent isOwn).1
  have epochs := epochs_of_run (.new bound) reached receives ideal inRange types
  have sealing : Sealed P info log final.windowed.session.sent := by
    refine ⟨ideal, types, inRange, fun sent isLogged => (frames sent isLogged).2, ?_⟩
    intro sent isOwn same
    have known := (unturned.logged sent isOwn).2
    rw [epochs, Watched.new, Session.new, List.map_singleton, List.mem_singleton] at known
    exact directions (known.symm.trans same)
  have both := Machine.run_invariant
    (fun watched => Timely config start delay callback watched ∧
      KeptAlive info log start (patience config delay callback) watched)
    (fun _ _ _ both conditions stepped =>
      ⟨both.1.step timeout delayed called conditions.1 stepped,
        both.2.step both.1 called sealing conditions.2 stepped⟩)
    ⟨.new timeout delayed false info, .new unread unmarked bound⟩
    (Machine.along_and prompt receives) reached
  rcases both with ⟨timely, keptAlive⟩
  have distinct : final.windowed.accepted.length ≤ log.length := by
    rw [← List.length_map SentFrame.seq]
    exact (List.subperm_of_subset keptAlive.window.nodup keptAlive.known).length_le
  have few := keptAlive.counted.trans distinct
  refine ⟨few, fun there isOpen => ?_⟩
  have lasting := keptAlive.lasting there isOpen
  have watching := timely.watching called there isOpen
  have nonneg : 0 ≤ patience config delay callback := by
    unfold patience
    linarith
  have fewer : (final.heard.length : Rat) * patience config delay callback ≤
      log.length * patience config delay callback :=
    mul_le_mul_of_nonneg_right (by exact_mod_cast few) nonneg
  linarith

/-- The only frame of a peer that is gone. -/
def lastFrame : SentFrame :=
  encryptedFrame samplePrimitives (sampleInfo 3 4) 0 (.send [7] 0)

/-- The attacker delivers it late, and replays it. -/
def lateAndReplayed : List WatchedAction :=
  [.session (.call 0 .recv 0), .tick 30, .wake, .tick 59,
    .session (.read 0 (.ok (sentFrame .data lastFrame.payload 0)) 59), .session (.call 1 .recv 59),
    .tick 60, .wake, .tick 90, .session (.read 1 (.ok (sentFrame .data lastFrame.payload 0)) 90),
    .wake, .tick 100]

theorem dead_session_closed_lateAndReplayed :
    ∃ final,
      Machine.run (step (tablePrimitives [lastFrame]) ⟨60, false⟩)
          (.new ⟨60, false⟩ false (sampleInfo 4 3) 0) lateAndReplayed = some final ∧
        final.heard = [59] ∧ final.closed = none ∧
        final.now ≤ 0 + ((1 : Rat) + 1) * patience ⟨60, false⟩ 1 0 := by
  rcases Machine.exists_run (step (tablePrimitives [lastFrame]) ⟨60, false⟩)
    (.new ⟨60, false⟩ false (sampleInfo 4 3) 0) lateAndReplayed
    (fun final => final.heard = [59] ∧ final.closed = none ∧ final.watchdog ≠ .cancelled ∧
      final.windowed.session.sent = []) (by decide +kernel) with
    ⟨final, reached, heard, isOpen, there, nothingSent⟩
  refine ⟨final, reached, heard, isOpen, ?_⟩
  have closes := (dead_session_closed (tablePrimitives [lastFrame]) ⟨60, false⟩ (sampleInfo 4 3) 0
    1 0 (by decide +kernel) (by decide +kernel) (by decide +kernel) rfl rfl (by decide) (by decide)
    lateAndReplayed final reached (by decide +kernel) (by decide +kernel) [lastFrame]
    (by rw [nothingSent]; exact tablePrimitives_unforgeable _) (by decide +kernel)).2 there isOpen
  simpa using closes

end Watched

end Usmp
