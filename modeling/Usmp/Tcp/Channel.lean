import Usmp.Session.Listener
import Usmp.Tcp.Link

/-!
# The secure channel

An attacker chooses the bytes that reach one end of a TCP connection.  Under an ideal
AEAD, what this end returns before its first failure begins what the other end sent.
-/

namespace Usmp

namespace TcpPeer

/-- Calls of `recv` one after the other, beside anything but `rekey`; the bytes are the
attacker's. -/
def Attacked (peer : TcpPeer) : TcpAction → Prop
  | .call _ (.rekey _) _ => False
  | .call _ .recv _ => peer.session.receiving = false
  | _ => True

instance (peer : TcpPeer) : (action : TcpAction) → Decidable (peer.Attacked action)
  | .call _ (.rekey _) _ => isFalse id
  | .call _ .recv _ => inferInstanceAs (Decidable (peer.session.receiving = false))
  | .call _ (.send _) _ | .call _ .ping _ | .call _ .bye _ | .acquire _ | .wrote _ _ _
  | .resume _ _ | .cancel _ | .receive _ | .receiveEof | .flush _ | .lose => isTrue trivial

variable {P : Primitives}

theorem Attacked.resumption {peer : TcpPeer} {action : TcpAction} {resumption : SessionAction}
    (attacked : peer.Attacked action) (resumes : Resumes action resumption) :
    (∀ task salt now, resumption ≠ .call task (.rekey salt) now) ∧
      ∀ task now, resumption = .call task .recv now → peer.session.receiving = false := by
  constructor
  · rintro task salt now rfl
    cases resumes
    exact attacked
  · rintro task now rfl
    cases resumes
    exact attacked

theorem listening_step (sized : P.SizedAead) {sessionId : FixedBytes usmpSessionIdLen}
    {before after : TcpPeer} {action : TcpAction}
    (listening : Session.Listening sessionId before.session) (attacked : before.Attacked action)
    (stepped : before.step P action = some after) : Session.Listening sessionId after.session := by
  rcases step_cases sized listening.bound stepped with
    ⟨held, _, rfl⟩ | ⟨data, _, rfl⟩ | ⟨_, rfl⟩ | ⟨_, rfl⟩ |
      ⟨resumption, base, fate, effects, resumes, moved⟩
  · exact listening
  · exact listening
  · exact listening
  · exact listening
  · rw [moved.session]
    exact listening.progress moved.progress (attacked.resumption resumes).1

theorem secure_step (sized : P.SizedAead) {start : View} {teller : Session}
    {log : List SentFrame} (tells : Session.Tells P start teller)
    (nonces : Session.NonceInv teller) (quiet : teller.holder = none)
    (ideal : P.Unforgeable (teller.sent ++ log)) (logBound : ∀ sent ∈ log, sent.seq ≤ maxSeq)
    (directions : ∀ sent ∈ log, sent.txKey ∉ teller.epochs.map Prod.fst)
    {before after : TcpPeer} {action : TcpAction}
    (secure : Session.Secure P start teller before.session) (attacked : before.Attacked action)
    (stepped : before.step P action = some after) :
    Session.Secure P start teller after.session := by
  rcases step_cases sized secure.listening.bound stepped with
    ⟨held, _, rfl⟩ | ⟨data, _, rfl⟩ | ⟨_, rfl⟩ | ⟨_, rfl⟩ |
      ⟨resumption, base, fate, effects, resumes, moved⟩
  · exact secure
  · exact secure
  · exact secure
  · exact secure
  · rw [moved.session]
    obtain ⟨notRekey, single⟩ := attacked.resumption resumes
    exact secure.progress tells nonces quiet ideal logBound directions moved.progress notRekey
      single

/-- Whatever bytes an attacker presents, the messages that `recv` returns before it first
fails are a prefix of those that the peer sent. -/
theorem received_begins_sent (P : Primitives) (sized : P.SizedAead)
    (peerInfo info : SessionInfo) (mirrored : Mirrored peerInfo info)
    (peerBound : peerInfo.txSeq ≤ maxSeq) (bound : info.txSeq ≤ maxSeq)
    (sending : List SessionAction) (peer : Session)
    (sent : Machine.run (Session.next P) (.new true peerInfo) sending = some peer)
    (carried : Machine.Along (Session.next P) Session.CarriesThrough (.new true peerInfo) sending)
    (returned : ∀ call ∈ peer.calls, peer.tasks call.1 = none)
    (actions : List TcpAction) (final : TcpPeer)
    (reached : Machine.run (step P) { session := .new true info } actions = some final)
    (attacked : Machine.Along (step P) Attacked { session := .new true info } actions)
    (ideal : P.Unforgeable (peer.sent ++ final.session.sent)) (fresh : FreshKeys peer.epochs)
    (directions : ∀ keys ∈ peer.epochs, ∀ own ∈ final.session.epochs, own.1 ≠ keys.1) :
    final.session.receivedIntact <+: peer.admittedPayloads := by
  have tells := Session.tells_of_run sent carried
  have nonces := Session.nonceInv_of_run peerBound sent fresh
  have quiet : peer.holder = none := by
    refine Session.holder_of_free (Option.eq_none_iff_forall_ne_some.mpr fun task held => ?_)
    obtain ⟨locked, writing⟩ := (tells.calls.holder task).mp held
    have ended := returned _ (tells.calls.known task _ writing)
    rw [writing] at ended
    cases ended
  have sameId : peer.info.sessionId = info.sessionId :=
    (Session.sessionId_of_run sent).trans mirrored.sessionId.symm
  have initially : Session.Listening info.sessionId (.new true info) :=
    ⟨.new true info 0, rfl, rfl, bound, by simp [Session.new], by simp [Session.new],
      by simp [Session.new], by simp [Session.new]⟩
  have listening := Machine.run_invariant
    (fun peer : TcpPeer => Session.Listening info.sessionId peer.session)
    (fun _ _ _ listening attacked stepped => listening_step sized listening attacked stepped)
    initially attacked reached
  have otherKeys : ∀ frame ∈ final.session.sent, frame.txKey ∉ peer.epochs.map Prod.fst := by
    intro frame member inEpochs
    obtain ⟨keys, isKeys, same⟩ := List.mem_map.mp inEpochs
    obtain ⟨own, isOwn, sameOwn⟩ := List.mem_map.mp (listening.logged frame member).2
    exact directions keys isKeys own isOwn (sameOwn.trans same.symm)
  have start : Session.Secure P
      { txKey := peerInfo.rxKey, rxKey := peerInfo.txKey, rxSeq := peerInfo.txSeq } peer
      (.new true info) := by
    refine ⟨by rw [sameId]; exact initially, List.nil_prefix, fun _ =>
      ⟨_, none, 0, ⟨.new true info 0, ?_⟩⟩⟩
    rw [mirrored.txKey, mirrored.rxKey, mirrored.rxSeq]
    rfl
  have secure := Machine.run_invariant
    (fun receiver : TcpPeer => Session.Secure P
      { txKey := peerInfo.rxKey, rxKey := peerInfo.txKey, rxSeq := peerInfo.txSeq } peer
      receiver.session)
    (fun _ _ _ secure attacked stepped => secure_step sized tells nonces quiet ideal
      (fun frame member => (listening.logged frame member).1) otherKeys secure attacked stepped)
    start attacked reached
  exact secure.begins

/-- The peer sends one byte. -/
def oneByteSent : List SessionAction :=
  [.call 0 (.send [7]) 0, .acquire 0, .wrote 0 none 0]

/-- What the one byte is encrypted to. -/
def oneByteFrame : SentFrame :=
  encryptedFrame samplePrimitives (sampleInfo 3 4) 0 (.send [7] 0)

/-- The attacker presents the peer's only frame twice. -/
def replayedFrame : List TcpAction :=
  [.receive oneByteFrame.bytes, .receive oneByteFrame.bytes, .call 0 .recv 0, .resume 0 0,
    .call 1 .recv 0, .resume 1 0]

theorem received_begins_sent_replayedFrame :
    ∃ peer final,
      Machine.run (Session.next (tablePrimitives [oneByteFrame])) (.new true (sampleInfo 3 4))
          oneByteSent = some peer ∧
        Machine.run (step (tablePrimitives [oneByteFrame]))
            { session := .new true (sampleInfo 4 3) } replayedFrame = some final ∧
        final.session.outcomes.length = 2 ∧ final.session.receivedIntact = [[7]] ∧
        final.session.receivedIntact <+: peer.admittedPayloads := by
  obtain ⟨peer, sent, log, returned, epochs⟩ := Machine.exists_run
    (Session.next (tablePrimitives [oneByteFrame])) (.new true (sampleInfo 3 4)) oneByteSent
    (fun peer => peer.sent = [oneByteFrame] ∧ (∀ call ∈ peer.calls, peer.tasks call.1 = none) ∧
      peer.epochs = [(sampleKey 3, sampleKey 4)])
    (by decide +kernel)
  obtain ⟨final, reached, outcomes, intact, nothingSent, own⟩ := Machine.exists_run
    (step (tablePrimitives [oneByteFrame])) { session := .new true (sampleInfo 4 3) }
    replayedFrame
    (fun final => final.session.outcomes.length = 2 ∧ final.session.receivedIntact = [[7]] ∧
      final.session.sent = [] ∧ final.session.epochs = [(sampleKey 4, sampleKey 3)])
    (by decide +kernel)
  refine ⟨peer, final, sent, reached, outcomes, intact, ?_⟩
  refine received_begins_sent (tablePrimitives [oneByteFrame]) (tablePrimitives_sized _)
    (sampleInfo 3 4) (sampleInfo 4 3) ⟨rfl, rfl, rfl, rfl, rfl, rfl⟩ (by decide) (by decide)
    oneByteSent peer sent (by decide +kernel) returned replayedFrame final reached
    (by decide +kernel) ?_ ?_ ?_
  · rw [log, nothingSent]
    exact tablePrimitives_unforgeable _
  · rw [epochs]
    decide
  · rw [epochs, own]
    decide

end TcpPeer

end Usmp
