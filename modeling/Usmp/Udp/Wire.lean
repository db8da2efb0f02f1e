import Usmp.Session.Teller
import Usmp.Udp.Noise
import Usmp.Udp.Link

/-!
# What a UDP end puts on the wire

A step of an end transmits one frame at most: the first copy of a frame that its session has just
encrypted, or another copy of the frame that waits for its UTACK.  This holds of every run,
whatever calls the application makes, fails to make or cancels.
-/

namespace Usmp

open UDPStream

namespace UdpPeer

/-- The write in progress is that of the coroutine with the lock. -/
structure Holding (peer : UdpPeer) : Prop where
  calls : peer.session.CallInv
  held : ∀ arq, peer.arq = some arq → peer.session.lock = some arq.task

/-- What a step does to the writes of an end and to what it transmits. -/
inductive Wire (before : UdpPeer) : UdpAction → UdpPeer → Prop where
  /-- The first copy of a frame. -/
  | began (action : UdpAction) (after : UdpPeer) (sent : SentFrame)
      (starts : (∃ task, action = .acquire task) ∨ ∃ now, action = .acked now)
      (ended : before.arqAfter action = none)
      (arq : after.arq = some { task := sent.task, data := sent.bytes, attempt := 0 })
      (outbox : after.outbox = before.outbox ++ [sent.bytes])
      (log : after.session.sent = before.session.sent ++ [sent])
      (lock : after.session.lock = some sent.task) (frame : IsFrame sent.bytes) :
      Wire before action after
  /-- Another copy. -/
  | copied (now : Rat) (arq : Arq) (after : UdpPeer) (inFlight : before.arq = some arq)
      (early : arq.attempt + 1 < maxAttempts)
      (isAfter : after = { before with
        arq := some { arq with attempt := arq.attempt + 1 }
        outbox := before.outbox ++ [arq.data] }) :
      Wire before (.timeout now) after
  /-- Datagrams are answered. -/
  | fed (data : Bytes) (after : UdpPeer) (replies : List Bytes) (arq : after.arq = before.arq)
      (outbox : after.outbox = before.outbox ++ replies) (session : after.session = before.session)
      (utacks : ∀ reply ∈ replies, isUtack reply = true) : Wire before (.feed data) after
  /-- Nothing is transmitted, though a frame may have been encrypted. -/
  | quiet (action : UdpAction) (after : UdpPeer) (arq : after.arq = before.arqAfter action)
      (outbox : after.outbox = before.outbox)
      (log : ∃ more, after.session.sent = before.session.sent ++ more)
      (lock : after.arq ≠ none → after.session.lock = before.session.lock)
      (gaveUp : ∀ now, action = .timeout now → ∀ arq, before.arq = some arq →
        maxAttempts ≤ arq.attempt + 1) : Wire before action after

section Wire

variable {P : Primitives} {before after at_ : UdpPeer} {action : UdpAction}
  {result : Session × Effects}

/-- A performed step transmits the frame it asks for, or nothing. -/
theorem perform_cases (at_ : UdpPeer) (result : Session × Effects) :
    (∃ sent, result.2.write = some sent ∧ (at_.perform result).session = result.1 ∧
        (at_.perform result).arq =
          some { task := sent.task, data := sent.bytes, attempt := 0 } ∧
        (at_.perform result).outbox = at_.outbox ++ [sent.bytes] ∧ IsFrame sent.bytes) ∨
      (at_.perform result).arq = at_.arq ∧ (at_.perform result).outbox = at_.outbox ∧
        (at_.perform result).session.sent = result.1.sent ∧
        (result.2.write = none → (at_.perform result).session = result.1) := by
  have applied := applyStep_frame at_ result
  unfold perform
  split
  · exact .inr ⟨applied.2.1, applied.2.2.1, congrArg Session.sent applied.1, fun _ => applied.1⟩
  rename_i sent write
  rcases startWrite_cases (at_.applyStep result) sent with
    ⟨exn, failed⟩ | ⟨encoded, stream, wrote, started⟩
  · right
    rw [failed, failWrite]
    split
    · rename_i locked writing
      have again := applyStep_frame (at_.applyStep result)
        ((at_.applyStep result).session.raiseLocked sent.task locked exn)
      refine ⟨again.2.1.trans applied.2.1, again.2.2.1.trans applied.2.2.1, ?_, ?_⟩
      · rw [again.1, (Session.left_raiseLocked _ _ _ _).sent, applied.1]
      · intro none
        rw [none] at write
        cases write
    · exact ⟨applied.2.1, applied.2.2.1, congrArg Session.sent applied.1, fun _ => applied.1⟩
  · left
    rw [started]
    exact ⟨sent, write, applied.1, rfl, congrArg (· ++ [sent.bytes]) applied.2.2.1,
      (isFrame_of_encodeFrame encoded).1⟩

theorem buildUtack_utack (P : Primitives) (stream : UDPStream) (data : Bytes) :
    isUtack (stream.buildUtack P (typeOf data) (seqOf data)) = true := by
  have typeBound : typeOf data < 256 := fieldAt_lt data 3 1
  have seqBound : seqOf data ≤ maxSeq := Nat.le_of_lt_succ (fieldAt_lt data 4 4)
  have bare := isUtack_utackHeader (typeOf data) (seqOf data) [] typeBound seqBound
  rw [List.append_nil] at bare
  unfold buildUtack
  dsimp only
  split
  · split
    · exact (isUtack_utackHeader _ _ _ typeBound seqBound).1
    · exact bare.1
  · exact bare.1

theorem feedPacket_utacks (P : Primitives) (stream : UDPStream) (data : Bytes) :
    ∀ reply ∈ (stream.feedPacket P data).2, isUtack reply = true := by
  have fed := feedPacket_cases P stream data
  generalize stream.feedPacket P data = result at fed ⊢
  cases fed with
  | closed | noAck | ack | garbage | full =>
      intro reply member
      cases member
  | old | buffered =>
      intro reply member
      cases List.mem_singleton.mp member
      exact buildUtack_utack P stream data

/-- Only a coroutine that was admitted, or that goes on with its message, asks for a write, and
it has the lock. -/
theorem write_encrypts {resumption : SessionAction} {session : Session} {sent : SentFrame}
    (onSession : session.step P resumption = some result) (asked : result.2.write = some sent) :
    ((∃ task, resumption = .acquire task ∧ session.lock = none) ∨
        ∃ task now, resumption = .wrote task none now) ∧
      result.1.lock = some sent.task := by
  rcases Session.progress_of_step onSession with ⟨base, fate, progress, settled⟩
  rcases result with ⟨after, effects⟩
  dsimp only at asked progress settled
  rw [settled, (Session.settle_frame _ _ _).2.2.2.1]
  cases progress with
  | encrypted task action locked admitted ready unspent =>
      cases asked
      refine ⟨?_, rfl⟩
      cases ready with
      | admitted locked free waiting => exact .inl ⟨task, rfl, free⟩
      | nextFragment data offset now writing more => exact .inr ⟨task, now, rfl⟩
  | called | refused | failed | sent | signalled | rekeyed | ponged | received | tookHeader
  | abandoned | interrupted => cases asked

/-- A coroutine that neither has the lock nor asks for it leaves the lock alone. -/
theorem lock_kept {resumption : SessionAction} {session : Session} (calls : session.CallInv)
    (onSession : session.step P resumption = some result)
    (notAcquire : ∀ task, resumption ≠ .acquire task)
    (notWrote : ∀ task failure now, resumption ≠ .wrote task failure now)
    (notHeld : ∀ task, resumption = .cancel task → session.lock ≠ some task) :
    result.1.lock = session.lock := by
  rcases Session.progress_of_step onSession with ⟨base, fate, progress, settled⟩
  rcases result with ⟨after, effects⟩
  dsimp only at progress settled
  rw [settled, (Session.settle_frame _ _ _).2.2.2.1]
  have notReady : ∀ {task : Nat} {locked : Locked} {admitted : List (Nat × Locked)},
      ¬ session.Encrypting task resumption locked admitted := by
    intro task locked admitted ready
    cases ready with
    | admitted locked free waiting => exact notAcquire task rfl
    | nextFragment data offset now writing more => exact notWrote task none now rfl
  cases progress with
  | encrypted task action locked admitted ready unspent => exact absurd ready notReady
  | refused task action locked admitted ready spent notBye exn => exact absurd ready notReady
  | failed task locked exn now writing => exact absurd rfl (notWrote task (some exn) now)
  | sent task data offset now writing last => exact absurd rfl (notWrote task none now)
  | signalled task locked now writing kind => exact absurd rfl (notWrote task none now)
  | rekeyed task salt now writing => exact absurd rfl (notWrote task none now)
  | ponged task locals now writing => exact absurd rfl (notWrote task none now)
  | interrupted task locked writing =>
      exact absurd ((calls.holder task).mpr ⟨locked, writing⟩) (notHeld task rfl)
  | called | received | tookHeader | abandoned => rfl

/-- A session step that the end performs with its write settled as `arqAfter` says. -/
theorem wire_perform {resumption : SessionAction}
    (onSession : before.session.step P resumption = some result)
    (arq : at_.arq = before.arqAfter action) (outbox : at_.outbox = before.outbox)
    (starts : ∀ sent, result.2.write = some sent →
      ((∃ task, action = .acquire task) ∨ ∃ now, action = .acked now) ∧
        before.arqAfter action = none)
    (kept : before.arqAfter action ≠ none → result.1.lock = before.session.lock)
    (gaveUp : ∀ now, action = .timeout now → ∀ arq, before.arq = some arq →
      maxAttempts ≤ arq.attempt + 1) :
    Wire before action (at_.perform result) := by
  rcases Session.progress_of_step onSession with ⟨base, fate, progress, settled⟩
  have log : result.1.sent = before.session.sent ++ result.2.write.toList := by
    rw [settled, (Session.settle_frame _ _ _).2.2.2.2.2.2.1]
    exact progress.log
  rcases perform_cases at_ result with
    ⟨sent, write, session, newArq, newOutbox, frame⟩ | ⟨sameArq, sameOutbox, sameLog, silent⟩
  · refine .began action _ sent (starts sent write).1 (starts sent write).2 newArq ?_ ?_ ?_ frame
    · rw [newOutbox, outbox]
    · rw [session, log, write]
      rfl
    · rw [session]
      exact (write_encrypts onSession write).2
  · refine .quiet action _ (sameArq.trans arq) (sameOutbox.trans outbox) ?_ ?_ gaveUp
    · rw [sameLog, log]
      exact ⟨_, rfl⟩
    · intro inFlight
      rw [sameArq, arq] at inFlight
      have silence : result.2.write = none := by
        cases write : result.2.write with
        | none => rfl
        | some sent => exact absurd (starts sent write).2 inFlight
      rw [silent silence]
      exact kept inFlight

/-- The lock is free only when no write is in progress. -/
theorem Holding.arqAfter_acquire (holding : before.Holding) {task : Nat}
    (stepped : before.step P (.acquire task) = some after) :
    before.arqAfter (.acquire task) = none := by
  rcases Option.map_eq_some_iff.mp stepped with ⟨result, onSession, _⟩
  have free : before.session.lock = none := by
    simp only [Session.step] at onSession
    split at onSession
    · assumption
    · cases onSession
  cases inFlight : before.arq with
  | none => exact inFlight
  | some arq =>
      rw [holding.held arq inFlight] at free
      cases free

theorem Holding.wire (holding : before.Holding) (stepped : before.step P action = some after) :
    Wire before action after := by
  -- a coroutine that does not write
  have still : ∀ {resumption : SessionAction} {result : Session × Effects},
      before.session.step P resumption = some result →
      (∀ task, resumption ≠ .acquire task) →
      (∀ task failure now, resumption ≠ .wrote task failure now) →
      (∀ task, resumption = .cancel task → action = .cancel task) →
      (∀ now, action ≠ .timeout now) → ∀ at_ : UdpPeer,
      at_.arq = before.arqAfter action → at_.outbox = before.outbox →
      Wire before action (at_.perform result) := by
    intro resumption result onSession notAcquire notWrote cancels notTimeout at_ arq outbox
    refine wire_perform onSession arq outbox ?_ ?_ ?_
    · intro sent asked
      rcases (write_encrypts onSession asked).1 with ⟨_, impossible, _⟩ | ⟨_, _, impossible⟩
      · exact absurd impossible (notAcquire _)
      · exact absurd impossible (notWrote _ _ _)
    · intro inFlight
      apply lock_kept holding.calls onSession notAcquire notWrote
      intro task isCancel held
      apply inFlight
      rw [cancels task isCancel]
      exact if_pos held
    · intro now isTimeout
      exact absurd isTimeout (notTimeout now)
  cases action with
  | call task op now =>
      rcases Option.map_eq_some_iff.mp stepped with ⟨result, onSession, rfl⟩
      exact still onSession (by simp) (by simp) (by simp) (by simp) _ rfl rfl
  | cancel task =>
      rcases Option.map_eq_some_iff.mp stepped with ⟨result, onSession, rfl⟩
      exact still onSession (by simp) (by simp) (by simp) (by simp) _ rfl rfl
  | acquire task =>
      have none := holding.arqAfter_acquire stepped
      rcases Option.map_eq_some_iff.mp stepped with ⟨result, onSession, rfl⟩
      refine wire_perform onSession rfl rfl ?_ (fun some => absurd none some) (by simp)
      intro sent _
      exact ⟨.inl ⟨task, rfl⟩, none⟩
  | acked now =>
      unfold step at stepped
      dsimp only at stepped
      split at stepped
      · cases stepped
      split at stepped
      case isFalse => cases stepped
      rcases Option.map_eq_some_iff.mp stepped with ⟨result, onSession, rfl⟩
      exact wire_perform onSession rfl rfl (fun _ _ => ⟨.inr ⟨now, rfl⟩, rfl⟩)
        (fun some => absurd rfl some) (by simp)
  | timeout now =>
      unfold step at stepped
      dsimp only at stepped
      split at stepped
      · cases stepped
      rename_i arq inFlight
      split at stepped
      · rename_i early
        cases stepped
        exact .copied now arq _ inFlight early rfl
      rename_i late
      rcases Option.map_eq_some_iff.mp stepped with ⟨result, onSession, rfl⟩
      refine wire_perform onSession rfl rfl ?_ (fun some => absurd rfl some) ?_
      · intro sent asked
        rcases (write_encrypts onSession asked).1 with ⟨_, impossible, _⟩ | ⟨_, _, impossible⟩
        · cases impossible
        · cases impossible
      · intro _ _ other isArq
        cases inFlight.symm.trans isArq
        exact Nat.not_lt.mp late
  | resume task now =>
      unfold step resumeRead at stepped
      dsimp only at stepped
      split at stepped
      case h_2 => cases stepped
      split at stepped
      · rcases Option.map_eq_some_iff.mp stepped with ⟨result, onSession, rfl⟩
        exact still onSession (by simp) (by simp) (by simp) (by simp) _ rfl rfl
      split at stepped
      · rcases Option.map_eq_some_iff.mp stepped with ⟨result, onSession, rfl⟩
        exact still onSession (by simp) (by simp) (by simp) (by simp) _ rfl rfl
      split at stepped
      · cases stepped
        exact .quiet _ _ rfl rfl ⟨[], (List.append_nil _).symm⟩ (fun _ => rfl) (by simp)
      · rcases Option.map_eq_some_iff.mp stepped with ⟨result, onSession, rfl⟩
        exact still onSession (by simp) (by simp) (by simp) (by simp) _ rfl rfl
  | feed data =>
      cases stepped
      exact .fed data _ _ rfl rfl rfl (feedPacket_utacks P before.stream data)

theorem Holding.next (holding : before.Holding) (stepped : before.step P action = some after) :
    after.Holding := by
  constructor
  · rcases session_run_of_step stepped with ⟨actions, reached⟩
    refine Machine.run_invariant' Session.CallInv ?_ holding.calls reached
    intro session action next calls stepped
    rcases Option.map_eq_some_iff.mp stepped with ⟨result, onSession, rfl⟩
    rcases Session.progress_of_step onSession with ⟨base, fate, progress, settled⟩
    rw [settled]
    exact Session.callInv_progress calls progress
  · intro arq isArq
    cases holding.wire stepped with
    | began _ _ sent starts ended newArq outbox log lock frame =>
        cases newArq.symm.trans isArq
        exact lock
    | copied now old _ inFlight early isAfter =>
        subst isAfter
        cases isArq
        exact holding.held old inFlight
    | fed data _ replies sameArq outbox session utacks =>
        rw [session]
        exact holding.held arq (sameArq.symm.trans isArq)
    | quiet _ _ settled outbox log lock gaveUp =>
        have some : after.arq ≠ none := by simp [isArq]
        rw [lock some]
        rw [settled] at isArq
        rcases before.arqAfter_eq action with none | same
        · rw [none] at isArq
          cases isArq
        · exact holding.held arq (same.symm.trans isArq)

theorem Holding.established (info : SessionInfo) (stream : UDPStream) :
    (established info stream).Holding := by
  refine ⟨.new false info 0, ?_⟩
  intro arq impossible
  cases impossible

end Wire

end UdpPeer

end Usmp
