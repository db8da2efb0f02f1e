import Usmp.Session.Dialogue
import Usmp.Tcp.Channel

/-!
# A conversation over TCP with an attacker in between

The attacker chooses the bytes that reach either end.  Under an ideal AEAD, what each end
returns before its first failure begins what the other end sent.
-/

namespace Usmp

namespace TcpPeer

/-- Messages, PINGs and one `recv` at a time on this end; what it reads is the attacker's. -/
def Converses (peer : TcpPeer) : TcpAction → Prop
  | .call task op now => peer.session.Converses (.call task op now)
  | .acquire task => peer.session.Converses (.acquire task)
  | .wrote task failure now => peer.session.Converses (.wrote task failure now)
  | .cancel task => peer.session.Converses (.cancel task)
  | .resume _ _ | .receive _ | .receiveEof | .flush _ | .lose => True

instance (peer : TcpPeer) : (action : TcpAction) → Decidable (peer.Converses action)
  | .call task op now => inferInstanceAs (Decidable (peer.session.Converses (.call task op now)))
  | .acquire task => inferInstanceAs (Decidable (peer.session.Converses (.acquire task)))
  | .wrote task failure now =>
      inferInstanceAs (Decidable (peer.session.Converses (.wrote task failure now)))
  | .cancel task => inferInstanceAs (Decidable (peer.session.Converses (.cancel task)))
  | .resume _ _ | .receive _ | .receiveEof | .flush _ | .lose => isTrue trivial

variable {P : Primitives}

theorem Converses.resumption {peer : TcpPeer} {action : TcpAction} {resumption : SessionAction}
    (converses : peer.Converses action) (resumes : Resumes action resumption) :
    peer.session.Converses resumption := by
  cases resumes with
  | call | acquire | wrote | cancel => exact converses
  | read | readHeader => trivial

theorem Converses.attacked {peer : TcpPeer} {action : TcpAction}
    (converses : peer.Converses action) : peer.Attacked action := by
  cases action with
  | call task op now =>
      cases op with
      | recv => exact converses
      | rekey salt => exact converses
      | send data | ping | bye => trivial
  | acquire | wrote | resume | cancel | receive | receiveEof | flush | lose => trivial

/-- A conversation that has come to rest: no call of this end is in the middle of a write. -/
def Conversed (P : Primitives) (info : SessionInfo) (final : TcpPeer) : Prop :=
  ∃ actions, Machine.run (step P) { session := .new true info } actions = some final ∧
    Machine.Along (step P) Converses { session := .new true info } actions ∧
    final.session.lock = none

/-- What one end of a conversation has called and sent, whatever it has read. -/
structure Talker (info : SessionInfo) (peer : TcpPeer) : Prop where
  listening : Session.Listening info.sessionId peer.session
  talking : Session.Talking peer.session

theorem Talker.new (info : SessionInfo) (bound : info.txSeq ≤ maxSeq) :
    Talker info { session := .new true info } := by
  refine ⟨⟨.new true info 0, rfl, rfl, bound, ?_, ?_, ?_, ?_⟩, ⟨.new true info 0, ?_, ?_, ?_⟩⟩ <;>
    simp [Session.new]

theorem Talker.step (sized : P.SizedAead) {info : SessionInfo} {before after : TcpPeer}
    {action : TcpAction} (talker : Talker info before) (converses : before.Converses action)
    (stepped : before.step P action = some after) : Talker info after := by
  refine ⟨listening_step sized talker.listening converses.attacked stepped, ?_⟩
  rcases step_cases sized talker.listening.bound stepped with
    ⟨held, _, rfl⟩ | ⟨data, _, rfl⟩ | ⟨_, rfl⟩ | ⟨_, rfl⟩ |
      ⟨resumption, base, fate, effects, resumes, moved⟩
  · exact talker.talking
  · exact talker.talking
  · exact talker.talking
  · exact talker.talking
  · rw [moved.session]
    exact talker.talking.progress moved.progress (converses.resumption resumes)

theorem speaking_step (sized : P.SizedAead) {start : View} {keys : Key × Key}
    {log : List SentFrame} (ideal : P.Unforgeable log) (logBound : ∀ sent ∈ log, sent.seq ≤ maxSeq)
    (types : ∀ sent ∈ log, sent.type ≠ .rekey) {before after : TcpPeer} {action : TcpAction}
    (bound : before.session.info.txSeq ≤ maxSeq)
    (speaking : Session.Speaking P start keys before.session) (converses : before.Converses action)
    (stepped : before.step P action = some after) :
    Session.Speaking P start keys after.session := by
  rcases step_cases sized bound stepped with
    ⟨held, _, rfl⟩ | ⟨data, _, rfl⟩ | ⟨_, rfl⟩ | ⟨_, rfl⟩ |
      ⟨resumption, base, fate, effects, resumes, moved⟩
  · exact speaking
  · exact speaking
  · exact speaking
  · exact speaking
  · rw [moved.session]
    exact speaking.progress moved.progress (converses.resumption resumes) ideal logBound types

theorem Conversed.talker (sized : P.SizedAead) {info : SessionInfo} {peer : TcpPeer}
    (conversed : Conversed P info peer) (bound : info.txSeq ≤ maxSeq) : Talker info peer := by
  rcases conversed with ⟨actions, reached, converses, _⟩
  exact Machine.run_invariant (Talker info)
    (fun _ _ _ talker converses stepped => talker.step sized converses stepped)
    (.new info bound) converses reached

/-- In a world without REKEY frames an end keeps its keys, and its log replays to its mirror. -/
theorem Conversed.speaking (sized : P.SizedAead) {info : SessionInfo} {peer : TcpPeer}
    {log : List SentFrame} (conversed : Conversed P info peer) (bound : info.txSeq ≤ maxSeq)
    (ideal : P.Unforgeable log) (logBound : ∀ sent ∈ log, sent.seq ≤ maxSeq)
    (types : ∀ sent ∈ log, sent.type ≠ .rekey) :
    Session.Speaking P { txKey := info.rxKey, rxKey := info.txKey, rxSeq := info.txSeq }
      (info.txKey, info.rxKey) peer.session := by
  rcases conversed with ⟨actions, reached, converses, _⟩
  have both := Machine.run_invariant
    (fun peer : TcpPeer => Talker info peer ∧
      Session.Speaking P { txKey := info.rxKey, rxKey := info.txKey, rxSeq := info.txSeq }
        (info.txKey, info.rxKey) peer.session)
    (fun _ _ _ both converses stepped => ⟨both.1.step sized converses stepped,
      speaking_step sized ideal logBound types both.1.listening.bound both.2 converses stepped⟩)
    ⟨.new info bound, .new info⟩ converses reached
  exact both.2

/-- What `far` returns intact begins what `near` sent. -/
theorem Conversed.intact (sized : P.SizedAead) {nearInfo farInfo : SessionInfo}
    (mirrored : Mirrored nearInfo farInfo) (nearBound : nearInfo.txSeq ≤ maxSeq)
    (farBound : farInfo.txSeq ≤ maxSeq) (directions : nearInfo.txKey ≠ nearInfo.rxKey)
    {near far : TcpPeer} (nearConversed : Conversed P nearInfo near)
    (farConversed : Conversed P farInfo far)
    (ideal : P.Unforgeable (near.session.sent ++ far.session.sent)) :
    far.session.receivedIntact <+: near.session.admittedPayloads := by
  have nearTalker := nearConversed.talker sized nearBound
  have farTalker := farConversed.talker sized farBound
  have logBound : ∀ sent ∈ near.session.sent ++ far.session.sent, sent.seq ≤ maxSeq := by
    intro sent member
    rcases List.mem_append.mp member with own | other
    · exact (nearTalker.listening.logged sent own).1
    · exact (farTalker.listening.logged sent other).1
  have types : ∀ sent ∈ near.session.sent ++ far.session.sent, sent.type ≠ .rekey := by
    intro sent member
    rcases List.mem_append.mp member with own | other
    · exact (nearTalker.talking.types sent own).1
    · exact (farTalker.talking.types sent other).1
  have nearSpeaking := nearConversed.speaking sized nearBound ideal logBound types
  have farSpeaking := farConversed.speaking sized farBound ideal logBound types
  rcases nearConversed with ⟨_, _, _, free⟩
  have tells := nearSpeaking.tells free
  have nonces := nearSpeaking.nonces free nearTalker.listening.bound nearTalker.listening.current
    (fun frame member => (nearTalker.listening.logged frame member).1)
    (fun frame member => (nearTalker.listening.logged frame member).2)
  have sameId : near.session.atRest.info.sessionId = farInfo.sessionId :=
    nearTalker.listening.sessionId.trans mirrored.sessionId.symm
  have otherKeys : ∀ frame ∈ far.session.sent,
      frame.txKey ∉ near.session.atRest.epochs.map Prod.fst := by
    intro frame member inEpochs
    have own := (farTalker.listening.logged frame member).2
    rw [farSpeaking.epochs, List.map_singleton, List.mem_singleton] at own
    have known : frame.txKey ∈ near.session.epochs.map Prod.fst := inEpochs
    rw [nearSpeaking.epochs, List.map_singleton, List.mem_singleton] at known
    exact directions (known.symm.trans (own.trans mirrored.txKey))
  rcases farConversed with ⟨actions, reached, converses, _⟩
  have start : Session.Secure P
      { txKey := nearInfo.rxKey, rxKey := nearInfo.txKey, rxSeq := nearInfo.txSeq }
      near.session.atRest (.new true farInfo) := by
    refine ⟨?_, List.nil_prefix, fun _ => ⟨_, none, 0, ⟨.new true farInfo 0, ?_⟩⟩⟩
    · rw [sameId]
      exact (Talker.new farInfo farBound).listening
    · rw [mirrored.txKey, mirrored.rxKey, mirrored.rxSeq]
      rfl
  have secure := Machine.run_invariant
    (fun receiver : TcpPeer => Session.Secure P
      { txKey := nearInfo.rxKey, rxKey := nearInfo.txKey, rxSeq := nearInfo.txSeq }
      near.session.atRest receiver.session)
    (fun _ _ _ secure converses stepped => secure_step sized tells nonces
      (Session.holder_of_free rfl) ideal
      (fun frame member => (farTalker.listening.logged frame member).1) otherKeys secure
      converses.attacked stepped)
    start converses reached
  exact secure.begins

end TcpPeer

end Usmp
