import Usmp.Session.Farewell
import Usmp.Tcp.Dialogue

/-!
# Truncation over TCP

An attacker who controls the connection can stop it at any point, but the peer's BYE is beyond
it: a `recv` that reports the BYE comes after every message that was sent before.
-/

namespace Usmp

/-- `read_frame` has no `ConnectionClosedError` of its own. -/
theorem readFrame_error_cls {verifyCrc : Bool} {pending : Option Bytes} {buffer left : Bytes}
    {exn : Exn}
    (failed : readFrame verifyCrc pending buffer = (.finished (.error exn), left)) :
    exn.cls ≠ .connectionClosedError := by
  have decoding : ∀ {data : Bytes}, decodeFrame data verifyCrc = .error exn →
      exn.cls ≠ .connectionClosedError := by
    intro data failed
    simp only [decodeFrame] at failed
    repeat' split at failed
    all_goals cases failed
    all_goals simp
  have payload : ∀ {header rest : Bytes} {length : Nat},
      readFramePayload verifyCrc header length rest = (.finished (.error exn), left) →
      exn.cls ≠ .connectionClosedError := by
    intro header rest length failed
    simp only [readFramePayload] at failed
    split at failed
    · cases failed
    · exact decoding (ReadProgress.finished.inj (Prod.mk.inj failed).1)
  unfold readFrame at failed
  split at failed
  · exact payload failed
  split at failed
  · cases failed
  dsimp only at failed
  split at failed
  · rename_i rejected
    cases failed
    simp only [readFrameLength] at rejected
    repeat' split at rejected
    all_goals cases rejected
    all_goals simp
  · exact payload failed

namespace TcpPeer

variable {P : Primitives}

/-- A step of a peer is a step of its session, or none; what `recv` reads from the stream raises
no `ConnectionClosedError`. -/
theorem step_session (sized : P.SizedAead) {before after : TcpPeer} {action : TcpAction}
    (bound : before.session.info.txSeq ≤ maxSeq) (stepped : before.step P action = some after) :
    after.session = before.session ∧ (∀ resumption, ¬ Resumes action resumption) ∨
      after.session = before.session ∧ (∃ task now, action = .resume task now) ∨
      ∃ resumption, Resumes action resumption ∧
        before.session.next P resumption = some after.session ∧
        ∀ task exn now, resumption = .read task (.error exn) now →
          exn.cls ≠ .connectionClosedError := by
  have performed : ∀ {resumption : SessionAction} {result : Session × Effects} (left : Bytes),
      before.session.step P resumption = some result →
      before.session.next P resumption =
        some (({ before with buffer := left } : TcpPeer).perform result).session := by
    intro resumption result left onSession
    rw [(perform_frame sized bound onSession left).1, Session.next, onSession, Option.map_some]
  cases action with
  | call task op now =>
      rcases Option.map_eq_some_iff.mp stepped with ⟨result, onSession, rfl⟩
      exact .inr (.inr ⟨_, .call task op now, performed before.buffer onSession, by simp⟩)
  | acquire task =>
      rcases Option.map_eq_some_iff.mp stepped with ⟨result, onSession, rfl⟩
      exact .inr (.inr ⟨_, .acquire task, performed before.buffer onSession, by simp⟩)
  | wrote task failure now =>
      rcases Option.map_eq_some_iff.mp stepped with ⟨result, onSession, rfl⟩
      exact .inr (.inr ⟨_, .wrote task failure now, performed before.buffer onSession, by simp⟩)
  | cancel task =>
      rcases Option.map_eq_some_iff.mp stepped with ⟨result, onSession, rfl⟩
      exact .inr (.inr ⟨_, .cancel task, performed before.buffer onSession, by simp⟩)
  | resume task now =>
      simp only [step, resumeRead] at stepped
      split at stepped
      case h_2 => cases stepped
      rename_i locals pending isReading
      split at stepped
      · rename_i result rest finished
        rcases Option.map_eq_some_iff.mp stepped with ⟨_, onSession, rfl⟩
        refine .inr (.inr ⟨_, .read task result now, performed rest onSession, ?_⟩)
        intro other exn at_ isRead
        cases isRead
        exact readFrame_error_cls finished
      · rename_i header rest suspended
        split at stepped
        · rcases Option.map_eq_some_iff.mp stepped with ⟨_, onSession, rfl⟩
          refine .inr (.inr ⟨_, .read task _ now, performed [] onSession, ?_⟩)
          intro other exn at_ isRead
          cases isRead
          simp
        split at stepped
        · cases stepped
          exact .inr (.inl ⟨rfl, task, now, rfl⟩)
        · rename_i taken
          rcases Option.map_eq_some_iff.mp stepped with ⟨result, onSession, rfl⟩
          exact .inr (.inr ⟨_, .readHeader task taken now, performed rest onSession, by simp⟩)
  | receive data =>
      simp only [step] at stepped
      split at stepped <;> cases stepped
      exact .inl ⟨rfl, fun resumption resumes => by cases resumes⟩
  | receiveEof | flush count | lose =>
      cases stepped
      exact .inl ⟨rfl, fun resumption resumes => by cases resumes⟩

/-- A run of a peer is a run of its session. -/
theorem session_run (sized : P.SizedAead) {condition : TcpPeer → TcpAction → Prop}
    {condition' : Session → SessionAction → Prop}
    (maps : ∀ peer action resumption, condition peer action → Resumes action resumption →
      (∀ task exn now, resumption = .read task (.error exn) now →
        exn.cls ≠ .connectionClosedError) → condition' peer.session resumption)
    {before final : TcpPeer} {actions : List TcpAction}
    (bound : before.session.info.txSeq ≤ maxSeq)
    (reached : Machine.run (step P) before actions = some final)
    (along : Machine.Along (step P) condition before actions) :
    ∃ resumptions, Machine.run (Session.next P) before.session resumptions = some final.session ∧
      Machine.Along (Session.next P) condition' before.session resumptions := by
  induction actions generalizing before with
  | nil =>
      cases reached
      exact ⟨[], rfl, trivial⟩
  | cons action rest ih =>
      rcases Machine.run_cons_some.mp reached with ⟨next, stepped, reached⟩
      rcases step_session sized bound stepped with
        ⟨same, _⟩ | ⟨same, _⟩ | ⟨resumption, resumes, moved, own⟩
      · rcases ih (same ▸ bound) reached (along.2 next stepped) with ⟨resumptions, run, along'⟩
        rw [same] at run along'
        exact ⟨resumptions, run, along'⟩
      · rcases ih (same ▸ bound) reached (along.2 next stepped) with ⟨resumptions, run, along'⟩
        rw [same] at run along'
        exact ⟨resumptions, run, along'⟩
      · have boundNext : next.session.info.txSeq ≤ maxSeq := by
          rcases Session.progress_of_next moved with ⟨base, fate, effects, progress, _, same⟩
          rw [same, (Session.settle_frame base resumption.task fate).2.1]
          exact progress.identity.2.2.2 bound
        rcases ih boundNext reached (along.2 next stepped) with ⟨resumptions, run, along'⟩
        refine ⟨resumption :: resumptions, Machine.run_cons_some.mpr ⟨_, moved, run⟩,
          maps _ _ _ along.1 resumes own, ?_⟩
        intro other isOther
        rw [moved] at isOther
        cases isOther
        exact along'

/-! ## Conditions on the two ends -/

/-- Calls of `recv` one after the other, beside anything but `rekey`; the bytes are the
attacker's, and a write raises no `ConnectionClosedError`. -/
def Attends (peer : TcpPeer) : TcpAction → Prop
  | .call _ (.rekey _) _ => False
  | .call _ .recv _ => peer.session.receiving = false
  | .wrote _ (some exn) _ => exn.cls ≠ .connectionClosedError
  | _ => True

instance (peer : TcpPeer) : (action : TcpAction) → Decidable (peer.Attends action)
  | .call _ (.rekey _) _ => isFalse id
  | .call _ .recv _ => inferInstanceAs (Decidable (peer.session.receiving = false))
  | .wrote _ (some exn) _ => inferInstanceAs (Decidable (exn.cls ≠ .connectionClosedError))
  | .call _ (.send _) _ | .call _ .ping _ | .call _ .bye _ | .acquire _ | .wrote _ none _
  | .resume _ _ | .cancel _ | .receive _ | .receiveEof | .flush _ | .lose => isTrue trivial

/-- Anything but a call of `rekey`. -/
def KeepsKeys (_ : TcpPeer) : TcpAction → Prop
  | .call _ (.rekey _) _ => False
  | _ => True

instance (peer : TcpPeer) : (action : TcpAction) → Decidable (peer.KeepsKeys action)
  | .call _ (.rekey _) _ => isFalse id
  | .call _ .recv _ | .call _ (.send _) _ | .call _ .ping _ | .call _ .bye _ | .acquire _
  | .wrote _ _ _ | .resume _ _ | .cancel _ | .receive _ | .receiveEof | .flush _ | .lose =>
      isTrue trivial

theorem Attends.resumption {peer : TcpPeer} {action : TcpAction} {resumption : SessionAction}
    (attends : peer.Attends action) (resumes : Resumes action resumption)
    (own : ∀ task exn now, resumption = .read task (.error exn) now →
      exn.cls ≠ .connectionClosedError) : peer.session.Attends resumption := by
  cases resumes with
  | call task op now =>
      cases op with
      | recv | rekey salt => exact attends
      | send data | ping | bye => trivial
  | wrote task failure now =>
      cases failure with
      | some exn => exact attends
      | none => trivial
  | read task result now =>
      cases result with
      | error exn => exact own task exn now rfl
      | ok frame => trivial
  | acquire | readHeader | cancel => trivial

theorem KeepsKeys.resumption {peer : TcpPeer} {action : TcpAction} {resumption : SessionAction}
    (keeps : peer.KeepsKeys action) (resumes : Resumes action resumption) :
    peer.session.KeepsKeys resumption := by
  cases resumes with
  | call task op now =>
      cases op with
      | rekey salt => exact keeps
      | send data | ping | bye | recv => trivial
  | acquire | wrote | read | readHeader | cancel => trivial

/-- A peer whose session calls `bye`, which takes the lock at once. -/
theorem session_run_bye (sized : P.SizedAead) {before final : TcpPeer} {task : Nat} {now : Rat}
    {rest : List TcpAction} (bound : before.session.info.txSeq ≤ maxSeq)
    (reached : Machine.run (step P) before (.call task .bye now :: .acquire task :: rest) =
      some final)
    (keeps : Machine.Along (step P) KeepsKeys before
      (.call task .bye now :: .acquire task :: rest)) :
    ∃ resumptions,
      Machine.run (Session.next P) before.session
          (.call task .bye now :: .acquire task :: resumptions) = some final.session ∧
        Machine.Along (Session.next P) Session.KeepsKeys before.session
          (.call task .bye now :: .acquire task :: resumptions) := by
  rcases Machine.run_cons_some.mp reached with ⟨called, begun, afterCall⟩
  rcases Machine.run_cons_some.mp afterCall with ⟨left, admitted, afterBye⟩
  have onSession : ∀ {peer next : TcpPeer} {action : TcpAction} {resumption : SessionAction},
      peer.session.info.txSeq ≤ maxSeq → Resumes action resumption →
      (∀ other, Resumes action other → other = resumption) →
      peer.step P action = some next →
      peer.session.next P resumption = some next.session ∧
        next.session.info.txSeq ≤ maxSeq := by
    intro peer next action resumption bound resumes only stepped
    rcases step_session sized bound stepped with
      ⟨_, none⟩ | ⟨_, _, _, rfl⟩ | ⟨other, isOther, moved, _⟩
    · exact absurd resumes (none resumption)
    · exact absurd ((only _ (.read _ (.error ⟨.osError, ""⟩) _)).trans
        (only _ (.readHeader _ [] _)).symm) (by simp)
    · rw [only other isOther] at moved
      rcases Session.progress_of_next moved with ⟨base, fate, effects, progress, _, same⟩
      refine ⟨moved, ?_⟩
      rw [same, (Session.settle_frame base resumption.task fate).2.1]
      exact progress.identity.2.2.2 bound
  rcases onSession bound (.call task .bye now) (fun other resumes => by cases resumes; rfl) begun
    with ⟨begun', boundCalled⟩
  rcases onSession boundCalled (.acquire task) (fun other resumes => by cases resumes; rfl) admitted
    with ⟨admitted', boundLeft⟩
  rcases session_run sized (fun _ _ _ keeps resumes _ => KeepsKeys.resumption keeps resumes)
    boundLeft afterBye ((keeps.2 called begun).2 left admitted) with ⟨resumptions, run, along⟩
  refine ⟨resumptions, ?_, trivial, ?_⟩
  · exact Machine.run_cons_some.mpr ⟨_, begun', Machine.run_cons_some.mpr ⟨_, admitted', run⟩⟩
  · intro next isNext
    rw [begun'] at isNext
    cases isNext
    refine ⟨trivial, ?_⟩
    intro next isNext
    rw [admitted'] at isNext
    cases isNext
    exact along

/-! ## The theorem -/

/-- Whatever bytes reach `far`, what its `recv` calls return before the first of them fails begins
what `near` sent before its `bye`; and if that first failure is the peer's BYE, nothing is
missing. -/
theorem truncation_noticed (P : Primitives) (sized : P.SizedAead) (nearInfo farInfo : SessionInfo)
    (mirrored : Mirrored nearInfo farInfo) (nearBound : nearInfo.txSeq ≤ maxSeq)
    (farBound : farInfo.txSeq ≤ maxSeq) (directions : nearInfo.txKey ≠ nearInfo.rxKey)
    (atRest : TcpPeer) (conversed : Conversed P nearInfo atRest) (task : Nat) (now : Rat)
    (rest : List TcpAction) (near : TcpPeer)
    (leaves : Machine.run (step P) atRest (.call task .bye now :: .acquire task :: rest) =
      some near)
    (keeps : Machine.Along (step P) KeepsKeys atRest
      (.call task .bye now :: .acquire task :: rest))
    (actions : List TcpAction) (far : TcpPeer)
    (reached : Machine.run (step P) { session := .new true farInfo } actions = some far)
    (attends : Machine.Along (step P) Attends { session := .new true farInfo } actions)
    (ideal : P.Unforgeable (near.session.sent ++ far.session.sent)) :
    far.session.receivedIntact <+: atRest.session.admittedPayloads ∧
      (far.session.firstFailure = some (.raised remoteSentBye) →
        far.session.receivedIntact = atRest.session.admittedPayloads) := by
  have restBound := (conversed.talker sized nearBound).listening.bound
  rcases conversed with ⟨talking, rests, converses, free⟩
  rcases session_run sized (fun _ _ _ converses resumes _ => Converses.resumption converses resumes)
    nearBound rests converses with ⟨talked, rests, converses⟩
  rcases session_run_bye sized restBound leaves keeps with ⟨others, leaves, keeps⟩
  rcases session_run sized (fun _ _ _ => Attends.resumption) farBound reached attends with
    ⟨heard, reached, attends⟩
  -- neither side sends a REKEY, so both keep their keys
  have restUnturned := Session.unturned_of_run (.new nearBound) rests
    (Machine.along_mono (fun _ _ => Session.Converses.keepsKeys) converses)
  have nearUnturned := Session.unturned_of_run restUnturned leaves keeps
  have farUnturned := Session.unturned_of_run (.new farBound) reached
    (Machine.along_mono (fun _ _ => Session.Attends.keepsKeys) attends)
  have bound : ∀ sent ∈ near.session.sent ++ far.session.sent, sent.seq ≤ maxSeq := by
    intro sent member
    rcases List.mem_append.mp member with isNear | isFar
    · exact (nearUnturned.logged sent isNear).1
    · exact (farUnturned.logged sent isFar).1
  have types : ∀ sent ∈ near.session.sent ++ far.session.sent, sent.type ≠ .rekey := by
    intro sent member
    rcases List.mem_append.mp member with isNear | isFar
    · exact nearUnturned.types sent isNear
    · exact farUnturned.types sent isFar
  have restEpochs := Session.epochs_of_run (.new nearBound) rests
    (Machine.along_mono (fun _ _ => Session.Converses.keepsKeys) converses) ideal bound types
  have nearEpochs := (Session.epochs_of_run restUnturned leaves keeps ideal bound types).trans
    restEpochs
  have farEpochs := Session.epochs_of_run (.new farBound) reached
    (Machine.along_mono (fun _ _ => Session.Attends.keepsKeys) attends) ideal bound types
  rcases Session.departed_of_run nearBound rests converses free leaves nearEpochs ideal bound types
    with ⟨goodbye, later, isSent, departed⟩
  have sameLog : atRest.session.atRest.sent ++ goodbye :: later = near.session.sent := isSent.symm
  have sameId : atRest.session.info.sessionId = farInfo.sessionId :=
    restUnturned.sessionId.trans mirrored.sessionId.symm
  have otherKeys : ∀ sent ∈ far.session.sent,
      ∀ other ∈ atRest.session.atRest.sent ++ goodbye :: later, sent.txKey ≠ other.txKey := by
    intro sent isFar other isNear same
    rw [sameLog] at isNear
    have farKey := (farUnturned.logged sent isFar).2
    have nearKey := (nearUnturned.logged other isNear).2
    rw [farEpochs, Session.new, List.map_singleton, List.mem_singleton] at farKey
    rw [nearEpochs, Session.new, List.map_singleton, List.mem_singleton] at nearKey
    exact directions (nearKey.symm.trans (same.symm.trans (farKey.trans mirrored.txKey)))
  have start : Session.Parting P
      { txKey := nearInfo.rxKey, rxKey := nearInfo.txKey, rxSeq := nearInfo.txSeq }
      atRest.session.atRest (.new true farInfo) := by
    refine ⟨?_, List.nil_prefix, fun _ => ⟨_, none, 0, ⟨.new true farInfo 0, ?_⟩⟩,
      fun impossible => by cases impossible⟩
    · rw [show atRest.session.atRest.info.sessionId = farInfo.sessionId from sameId]
      exact .new farBound
    · rw [mirrored.txKey, mirrored.rxKey, mirrored.rxSeq]
      rfl
  have parting : Session.Parting P
      { txKey := nearInfo.rxKey, rxKey := nearInfo.txKey, rxSeq := nearInfo.txSeq }
      atRest.session.atRest far.session := by
    apply Machine.run_invariant (Session.Parting P _ atRest.session.atRest) ?_ start attends reached
    intro state action after parting attends stepped
    rcases Session.progress_of_next stepped with ⟨base, fate, effects, progress, performed, rfl⟩
    apply parting.progress departed ?_ ?_ otherKeys progress attends performed
    · rw [sameLog]
      exact ideal
    · exact fun sent isFar => (farUnturned.logged sent isFar).1
  exact ⟨parting.begins, parting.complete⟩

/-- One end sends a byte and hangs up. -/
def byteThenBye : List TcpAction :=
  [.call 0 (.send [7]) 0, .acquire 0, .wrote 0 none 0]

/-- The two frames of it. -/
def byteThenByeFrames : List SentFrame :=
  [oneByteFrame, encryptedFrame samplePrimitives (sampleInfo 3 4 1) 1 .bye]

/-- The other end reads both frames, in pieces. -/
def byteThenByeHeard : List TcpAction :=
  [.call 0 .recv 0, .receive ((byteThenByeFrames.flatMap SentFrame.bytes).take 30), .resume 0 0,
    .receive ((byteThenByeFrames.flatMap SentFrame.bytes).drop 30), .resume 0 0, .call 1 .recv 0,
    .resume 1 0]

theorem truncation_noticed_byteThenBye :
    ∃ atRest near far,
      Machine.run (step (tablePrimitives byteThenByeFrames))
          { session := .new true (sampleInfo 3 4) } byteThenBye = some atRest ∧
        Machine.run (step (tablePrimitives byteThenByeFrames)) atRest
          [.call 1 .bye 0, .acquire 1, .wrote 1 none 0] = some near ∧
        Machine.run (step (tablePrimitives byteThenByeFrames))
          { session := .new true (sampleInfo 4 3) } byteThenByeHeard = some far ∧
        far.session.firstFailure = some (.raised remoteSentBye) ∧
        far.session.receivedIntact = atRest.session.admittedPayloads := by
  rcases Machine.exists_run (step (tablePrimitives byteThenByeFrames))
    { session := .new true (sampleInfo 3 4) } byteThenBye
    (fun atRest => atRest.session.lock = none ∧
      Machine.Along (step (tablePrimitives byteThenByeFrames)) KeepsKeys atRest
        [.call 1 .bye 0, .acquire 1, .wrote 1 none 0] ∧
      ((Machine.run (step (tablePrimitives byteThenByeFrames)) atRest
        [.call 1 .bye 0, .acquire 1, .wrote 1 none 0]).any
          fun near => near.session.sent = byteThenByeFrames) = true)
    (by decide +kernel) with ⟨atRest, rests, free, keeps, leaves⟩
  cases left : Machine.run (step (tablePrimitives byteThenByeFrames)) atRest
      [.call 1 .bye 0, .acquire 1, .wrote 1 none 0] with
  | none =>
      rw [left] at leaves
      cases leaves
  | some near =>
      rw [left, Option.any_some, decide_eq_true_eq] at leaves
      rcases Machine.exists_run (step (tablePrimitives byteThenByeFrames))
        { session := .new true (sampleInfo 4 3) } byteThenByeHeard
        (fun far => far.session.sent = [] ∧
          far.session.firstFailure = some (.raised remoteSentBye)) (by decide +kernel) with
        ⟨far, reached, nothingSent, hungUp⟩
      refine ⟨atRest, near, far, rests, left, reached, hungUp, ?_⟩
      apply (truncation_noticed (tablePrimitives byteThenByeFrames) (tablePrimitives_sized _)
        (sampleInfo 3 4) (sampleInfo 4 3) ⟨rfl, rfl, rfl, rfl, rfl, rfl⟩ (by decide) (by decide)
        (by decide) atRest ⟨byteThenBye, rests, by decide +kernel, free⟩ 1 0 [.wrote 1 none 0] near
        left keeps byteThenByeHeard far reached (by decide +kernel) ?_).2 hungUp
      rw [leaves, nothingSent]
      exact tablePrimitives_unforgeable _

end TcpPeer

end Usmp
