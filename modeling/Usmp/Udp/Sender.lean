import Usmp.Udp.Link

/-!
# The sender of messages over UDP

A sender that waits for each UTACK is at most one frame ahead of what its receiver buffered.
`Logs` says that its log replays to what it admitted, and `Waits` relates the write in progress
to the number of frames that the receiver has come to.
-/

namespace Usmp

open UDPStream

namespace UdpPeer

/-- The steps of the end that sends: its calls of `send` fit the limits, no write fails or is
cut short, and no sequence is spent. -/
def Sends (peer other : UdpPeer) : UdpAction → Prop
  | .call _ (.send data) _ => data.length ≤ usmpMaxDataLen * usmpMaxFrames
  | .call _ .recv _ | .resume _ _ => True
  | .call _ .ping _ | .call _ (.rekey _) _ | .call _ .bye _ => False
  | .acquire _ => peer.session.info.txSeq < maxSeq
  | .acked _ => peer.session.holder.any Locked.midMessage → peer.session.info.txSeq < maxSeq
  | .timeout _ => ∀ arq ∈ peer.arq, arq.attempt + 1 < maxAttempts
  | .cancel task => ∀ at_ ∈ peer.session.tasks task, at_.op = .recv
  | .feed data => data ∈ other.outbox

instance (peer other : UdpPeer) : (action : UdpAction) → Decidable (peer.Sends other action)
  | .call _ (.send data) _ =>
      inferInstanceAs (Decidable (data.length ≤ usmpMaxDataLen * usmpMaxFrames))
  | .call _ .recv _ | .resume _ _ => isTrue trivial
  | .call _ .ping _ | .call _ (.rekey _) _ | .call _ .bye _ => isFalse id
  | .acquire _ => inferInstanceAs (Decidable (peer.session.info.txSeq < maxSeq))
  | .acked _ => inferInstanceAs (Decidable
      (peer.session.holder.any Locked.midMessage → peer.session.info.txSeq < maxSeq))
  | .timeout _ => inferInstanceAs (Decidable (∀ arq ∈ peer.arq, arq.attempt + 1 < maxAttempts))
  | .cancel task => inferInstanceAs (Decidable (∀ at_ ∈ peer.session.tasks task, at_.op = .recv))
  | .feed data => inferInstanceAs (Decidable (data ∈ other.outbox))

theorem Sends.exchanges {peer other : UdpPeer} {action : UdpAction}
    (sends : Sends peer other action) : Exchanges other action := by
  cases action with
  | call task op now => cases op <;> trivial
  | feed data => exact sends
  | acquire | acked | timeout | resume | cancel => trivial

/-! ## The sender's log -/

section Sender

variable {P : Primitives} {start : SessionInfo} {peer other next : UdpPeer} {action : UdpAction}
  {sessionAction : SessionAction} {base : Session} {fate : Fate} {effects : Effects}
  {queue : List SentFrame}

/-- No step but the end of a `recv` cuts anything short. -/
theorem Sends.completes (calls : peer.session.CallInv) (sends : Sends peer other action)
    (performs : peer.sessionAction action = some sessionAction)
    (notRead : sessionAction.reads = false) (notCancel : ∀ task, action ≠ .cancel task) :
    peer.session.Completes sessionAction := by
  cases action with
  | call task op now =>
      cases performs
      refine ⟨by simp, by simp, ?_⟩
      intro other locked admitted ready
      cases ready
  | acquire task =>
      cases performs
      exact ⟨by simp, by simp, fun _ _ _ _ => sends⟩
  | acked now =>
      rcases Option.map_eq_some_iff.mp performs with ⟨arq, inFlight, rfl⟩
      refine ⟨by simp, by simp, ?_⟩
      intro task locked admitted ready
      cases ready with
      | nextFragment data offset now writing more =>
          apply sends
          rw [calls.holder_eq writing]
          simpa [Locked.midMessage] using more
  | timeout now =>
      simp only [UdpPeer.sessionAction] at performs
      split at performs
      · rename_i arq inFlight
        rw [if_pos (sends arq inFlight)] at performs
        cases performs
      · cases performs
  | resume task now =>
      simp only [UdpPeer.sessionAction] at performs
      repeat' split at performs
      all_goals try cases performs
      all_goals try cases notRead
      rcases Option.map_eq_some_iff.mp performs with ⟨header, _, rfl⟩
      cases notRead
  | cancel task => exact absurd rfl (notCancel task)
  | feed data => cases performs

/-- A step of the sender takes its mirror along. -/
theorem Sends.mirrored (talks : Talks P start peer) (sends : Sends peer other action)
    (performs : peer.sessionAction action = some sessionAction)
    (notRead : sessionAction.reads = false)
    (progress : Session.Progress P peer.session sessionAction base fate effects) :
    (∃ task locked, effects.write = some (encryptedFrame P peer.session.info task locked) ∧
        (peer.session.mirror P).accept P peer.session.info.sessionId
            (encryptedFrame P peer.session.info task locked) =
          some ((base.settle sessionAction.task fate).mirror P)) ∨
      effects.write = none ∧
        (base.settle sessionAction.task fate).mirror P = peer.session.mirror P := by
  by_cases cancels : ∃ task, action = .cancel task
  · rcases cancels with ⟨task, rfl⟩
    cases performs
    cases progress with
    | encrypted task action locked admitted ready unspent => cases ready
    | refused task action locked admitted ready spent notBye exn => cases ready
    | abandoned task at_ isAt unlocked =>
        refine .inr ⟨rfl, ?_⟩
        apply Session.mirror_congr
        · simpa using SameKeys.refl _
        · simp
        · apply talks.calls.holder_settle_other rfl rfl
          intro locked writing
          rw [SessionAction.task, isAt] at writing
          exact unlocked locked (Option.some.inj writing)
    | interrupted task locked writing =>
        rcases talks.writing writing with ⟨data, offset, rfl⟩
        cases sends _ writing
  · have notBye : ∀ task at_, peer.session.tasks task = some at_ → at_.op ≠ .bye := by
      intro task at_ isAt isBye
      have plain := talks.tasks task at_ isAt
      cases at_ with
      | reading locals pending => cases isBye
      | lockWait locked | writing locked =>
          cases locked with
          | send data offset => cases isBye
          | ping | rekey salt | bye | pong locals => exact plain.elim
    have completes := sends.completes talks.calls performs notRead
      (fun task isCancel => cancels ⟨task, isCancel⟩)
    apply Session.mirror_progress talks.calls progress notBye completes
    rintro task result now rfl
    cases notRead

/-- Every call of the sender is admitted once. -/
theorem Sends.admission (talks : Talks P start peer) (sends : Sends peer other action)
    (performs : peer.sessionAction action = some sessionAction)
    (notRead : sessionAction.reads = false)
    (progress : Session.Progress P peer.session sessionAction base fate effects)
    (admission : peer.session.Admission) :
    (base.settle sessionAction.task fate).Admission := by
  by_cases cancels : ∃ task, action = .cancel task
  · rcases cancels with ⟨task, rfl⟩
    cases performs
    cases progress with
    | encrypted task action locked admitted ready unspent => cases ready
    | refused task action locked admitted ready spent notBye exn => cases ready
    | abandoned task at_ isAt unlocked =>
        apply admission.settle rfl rfl rfl _ _ talks.calls
        · intro locked waiting
          rw [SessionAction.task, isAt] at waiting
          cases waiting
          have isRecv := sends _ isAt
          have plain := talks.tasks task _ isAt
          cases locked with
          | send data offset => cases isRecv
          | ping | rekey salt | bye | pong locals => exact plain.elim
        · intro locked waiting
          cases waiting
    | interrupted task locked writing =>
        rcases talks.writing writing with ⟨data, offset, rfl⟩
        cases sends _ writing
  · have completes := sends.completes talks.calls performs notRead
      (fun task isCancel => cancels ⟨task, isCancel⟩)
    apply admission.progress talks.calls progress completes
    rintro task data now rfl
    have isCall := call_of_performs performs
    subst isCall
    exact sends

/-- The log of the sender replays to its mirror, and its frames are numbered. -/
structure Logs (P : Primitives) (view : View) (sender : UdpPeer) : Prop where
  told : view.replay P sender.session.info.sessionId sender.session.sent =
    some (sender.session.mirror P)
  numbered : ∀ (i : Nat) (sent : SentFrame), sender.session.sent[i]? = some sent → sent.seq = i
  txSeq : sender.session.info.txSeq = sender.session.sent.length
  admission : sender.session.Admission
  idle : sender.session.lock = none → sender.arq = none

/-- The write in progress of a sender whose receiver has come to this many of its frames. -/
structure Waits (sender : UdpPeer) (reached : Nat) : Prop where
  le : reached ≤ sender.session.sent.length
  ahead : sender.session.sent.length ≤ reached + 1
  idle : sender.arq = none → sender.session.sent.length = reached
  acked : ∀ arq, sender.arq = some arq → sender.stream.ackReceived = true →
    sender.session.sent.length = reached
  pending : ∀ arq, sender.arq = some arq → ∃ last,
    sender.session.sent.length = last + 1 ∧ sender.stream.pendingSendSeq = some last

/-- A session step of the sender, and the write that it asks for. -/
theorem Logs.progress {view : View} (logs : Logs P view peer) (talks : Talks P start peer)
    (sends : Sends peer other action) (performs : peer.sessionAction action = some sessionAction)
    (notRead : sessionAction.reads = false)
    (progress : Session.Progress P peer.session sessionAction base fate effects)
    (after : UdpPeer) (session : after.session = base.settle sessionAction.task fate)
    (idle : after.session.lock = none → after.arq = none) :
    Logs P view after ∧
      ((effects.write = none ∧ after.session.sent = peer.session.sent) ∨
        ∃ sent, effects.write = some sent ∧ sent.seq = peer.session.sent.length ∧
          after.session.sent = peer.session.sent ++ [sent]) := by
  have frame := Session.settle_frame base sessionAction.task fate
  have sameId : after.session.info.sessionId = peer.session.info.sessionId := by
    rw [session, frame.2.1, progress.identity.1]
  have log : after.session.sent = peer.session.sent ++ effects.write.toList := by
    rw [session, frame.2.2.2.2.2.2.1, progress.log]
  have admission := sends.admission talks performs notRead progress logs.admission
  rw [← session] at admission
  rcases sends.mirrored talks performs notRead progress with
    ⟨task, locked, isWrite, accepted⟩ | ⟨noWrite, same⟩
  · have below : peer.session.info.txSeq < maxSeq := (View.accept_some.mp accepted).1.2.2
    have seq : (encryptedFrame P peer.session.info task locked).seq = peer.session.sent.length :=
      logs.txSeq
    rw [isWrite] at log
    rw [← session] at accepted
    refine ⟨⟨?_, ?_, ?_, admission, idle⟩, .inr ⟨_, isWrite, seq, log⟩⟩
    · rw [sameId, log]
      exact Machine.run_append_some.mpr
        ⟨_, logs.told, Machine.run_cons_some.mpr ⟨_, accepted, rfl⟩⟩
    · intro i sent isAt
      rw [log, List.getElem?_append] at isAt
      split at isAt
      · exact logs.numbered i sent isAt
      · rename_i long
        cases found : i - peer.session.sent.length with
        | zero =>
            rw [found] at isAt
            cases isAt
            omega
        | succ more =>
            rw [found] at isAt
            cases isAt
    · have length : after.session.sent.length = peer.session.sent.length + 1 := by
        rw [log, List.length_append]
        rfl
      have next : base.info.txSeq = peer.session.info.txSeq + 1 := by
        cases progress with
        | encrypted => exact Nat.min_eq_left below
        | _ => cases isWrite
      rw [length, session, frame.2.1, next, logs.txSeq]
  · rw [noWrite] at log
    rw [← session] at same
    have sameLog : after.session.sent = peer.session.sent := log.trans (List.append_nil _)
    refine ⟨⟨?_, ?_, ?_, admission, idle⟩, .inl ⟨noWrite, sameLog⟩⟩
    · rw [sameId, sameLog, same]
      exact logs.told
    · rw [sameLog]
      exact logs.numbered
    · have next : base.info.txSeq = peer.session.info.txSeq := by
        cases progress with
        | encrypted => cases noWrite
        | received => cases notRead
        | rekeyed task salt now writing =>
            rcases talks.writing writing with ⟨data, offset, isSend⟩
            cases isSend
        | _ => rfl
      rw [sameLog, session, frame.2.1, next, logs.txSeq]

theorem arqAfter_of_none (none : peer.arq = none) (action : UdpAction) :
    peer.arqAfter action = .none := by
  rcases peer.arqAfter_eq action with isNone | same
  · exact isNone
  · exact same.trans none

/-- A write that ended is not in progress. -/
theorem arqAfter_wrote {task : Nat} {failure : Option Exn} {now : Rat}
    (performs : peer.sessionAction action = some (.wrote task failure now)) :
    peer.arqAfter action = none := by
  cases action with
  | acked | timeout => rfl
  | call | acquire | cancel | feed => cases performs
  | resume task' now' =>
      simp only [UdpPeer.sessionAction] at performs
      repeat' split at performs
      all_goals try cases performs
      rcases Option.map_eq_some_iff.mp performs with ⟨header, _, impossible⟩
      cases impossible

/-- A coroutine that encrypts leaves no earlier write in progress. -/
theorem arqAfter_encrypting (idle : peer.session.lock = none → peer.arq = none) {task : Nat}
    {locked : Locked} {admitted : List (Nat × Locked)}
    (performs : peer.sessionAction action = some sessionAction)
    (ready : Session.Encrypting peer.session task sessionAction locked admitted) :
    peer.arqAfter action = none := by
  cases ready with
  | admitted locked free waiting => exact arqAfter_of_none (idle free) action
  | nextFragment data offset now writing more => exact arqAfter_wrote performs

/-- Without the lock no write is in progress. -/
theorem idle_settle (talks : Talks P start peer)
    (idle : peer.session.lock = none → peer.arq = none)
    (performs : peer.sessionAction action = some sessionAction)
    (notRead : sessionAction.reads = false)
    (progress : Session.Progress P peer.session sessionAction base fate effects)
    (free : (base.settle sessionAction.task fate).lock = none) :
    peer.arqAfter action = none := by
  rw [(Session.settle_frame base sessionAction.task fate).2.2.2.1] at free
  cases progress with
  | called task op now isNew => exact arqAfter_of_none (idle free) action
  | encrypted => cases free
  | refused task action' locked admitted ready spent notBye exn =>
      exact arqAfter_encrypting idle performs ready
  | failed | sent | signalled | rekeyed | ponged => exact arqAfter_wrote performs
  | received | tookHeader => cases notRead
  | abandoned task at_ isAt unlocked => exact arqAfter_of_none (idle free) action
  | interrupted task locked writing =>
      cases action with
      | cancel task' =>
          cases performs
          exact if_pos ((talks.calls.holder task).mpr ⟨locked, writing⟩)
      | call | acquire | feed => cases performs
      | acked now =>
          rcases Option.map_eq_some_iff.mp performs with ⟨arq, _, impossible⟩
          cases impossible
      | timeout now => rfl
      | resume task' now =>
          simp only [UdpPeer.sessionAction] at performs
          repeat' split at performs
          all_goals try cases performs
          rcases Option.map_eq_some_iff.mp performs with ⟨header, _, impossible⟩
          cases impossible

/-- A write of the sender ends when its frame was acknowledged. -/
theorem Waits.ended {reached : Nat} (waits : Waits peer reached) (talks : Talks P start peer)
    (sends : Sends peer other action) (performs : peer.sessionAction action = some sessionAction)
    (acked : ∀ now, action = .acked now → peer.stream.ackReceived = true)
    (none : peer.arqAfter action = none) : peer.session.sent.length = reached := by
  cases action with
  | call | acquire | resume | feed => exact waits.idle none
  | acked now =>
      rcases Option.map_eq_some_iff.mp performs with ⟨arq, inFlight, _⟩
      exact waits.acked arq inFlight (acked now rfl)
  | timeout now =>
      simp only [UdpPeer.sessionAction] at performs
      split at performs
      · rename_i arq inFlight
        rw [if_pos (sends arq inFlight)] at performs
        cases performs
      · cases performs
  | cancel task =>
      by_cases held : peer.session.lock = some task
      · rcases (talks.calls.holder task).mp held with ⟨locked, writing⟩
        rcases talks.writing writing with ⟨data, offset, rfl⟩
        cases sends _ writing
      · apply waits.idle
        rwa [arqAfter, if_neg held] at none

/-- A step of the sender that leaves its log and its write alone. -/
theorem Waits.same {reached : Nat} (waits : Waits peer reached)
    (log : next.session.sent = peer.session.sent) (arq : next.arq = peer.arq)
    (pending : next.stream.pendingSendSeq = peer.stream.pendingSendSeq)
    (acked : next.stream.ackReceived = true → peer.stream.ackReceived = true ∨
      ∃ seq, peer.stream.pendingSendSeq = some seq ∧ seq < reached) : Waits next reached := by
  refine ⟨log ▸ waits.le, log ▸ waits.ahead, ?_, ?_, ?_⟩
  · rw [arq, log]
    exact waits.idle
  · intro found inFlight isAcked
    rw [arq] at inFlight
    rw [log]
    rcases acked isAcked with before | ⟨seq, isSeq, below⟩
    · exact waits.acked found inFlight before
    · rcases waits.pending found inFlight with ⟨last, length, isLast⟩
      rw [isLast] at isSeq
      cases isSeq
      have bound := waits.le
      omega
  · rw [arq, log, pending]
    exact waits.pending

/-- What a `recv` of the sender reads does not matter for what it sends. -/
theorem Logs.took (sized : P.SizedAead) (correct : P.CorrectAead) {view : View}
    (logs : Logs P view peer) (talks : Talks P start peer) {start' : SessionInfo}
    (mirrored : Mirrored start' start) {sent : SentFrame} (message : sent.Message P start')
    {task : Nat} {locals : RecvLocals} (now : Rat) (rest : List SentFrame)
    (reading : peer.session.tasks task = some (.reading locals none)) :
    Logs P view (peer.taking P task locals now sent rest) ∧
      ∀ reached, Waits peer reached → Waits (peer.taking P task locals now sent rest) reached := by
  have settled : ∀ (session : Session) (fate : Fate) (stream : UDPStream),
      session.tasks = peer.session.tasks → session.lock = peer.session.lock →
      SameKeys peer.session.info session.info → session.sent = peer.session.sent →
      session.admitted = peer.session.admitted → session.calls = peer.session.calls →
      (∀ at_, fate.await = some at_ → at_.Messaging) →
      stream.pendingSendSeq = peer.stream.pendingSendSeq →
      stream.ackReceived = peer.stream.ackReceived →
      Logs P view { peer with session := session.settle task fate, stream } ∧
        ∀ reached, Waits peer reached →
          Waits { peer with session := session.settle task fate, stream } reached := by
    intro session fate stream tasks lock same log admitted calls plain pending acked
    have frame := Session.settle_frame session task fate
    have sameLog : (session.settle task fate).sent = peer.session.sent := by
      rw [frame.2.2.2.2.2.2.1, log]
    have sameMirror : (session.settle task fate).mirror P = peer.session.mirror P := by
      apply Session.mirror_congr
      · rw [frame.2.1]
        exact same
      · rw [frame.2.2.2.2.2.1, admitted]
      · apply talks.calls.holder_settle_other tasks lock
        intro locked writing
        rw [reading] at writing
        cases writing
    refine ⟨⟨?_, ?_, ?_, ?_, ?_⟩, ?_⟩
    · rw [sameLog, frame.2.1, same.sessionId, sameMirror]
      exact logs.told
    · rw [sameLog]
      exact logs.numbered
    · rw [sameLog, frame.2.1, same.txSeq]
      exact logs.txSeq
    · apply logs.admission.settle calls admitted tasks
      · intro locked waiting
        rw [reading] at waiting
        cases waiting
      · intro locked waiting
        rw [Session.payloadOf, talks.calls.lookup (talks.calls.known task _ reading)]
        rfl
      · exact talks.calls
    · rw [frame.2.2.2.1, lock]
      exact logs.idle
    · intro reached waits
      exact waits.same sameLog rfl pending (fun isAcked => .inl (acked ▸ isAcked))
  rw [taking_message sized correct talks mirrored message]
  split
  · refine settled peer.session _ _ rfl rfl (.refl _) rfl rfl rfl ?_ rfl rfl
    intro at_ goesOn
    cases goesOn
    trivial
  · have confirmed : ∀ stream : UDPStream,
        (stream.confirmAuthenticated sent.seq).pendingSendSeq = stream.pendingSendSeq ∧
          (stream.confirmAuthenticated sent.seq).ackReceived = stream.ackReceived := by
      intro stream
      unfold UDPStream.confirmAuthenticated
      split <;> exact ⟨rfl, rfl⟩
    exact settled _ _ _ rfl rfl (sameKeys_markReceived _ _) rfl rfl rfl
      (fun _ goesOn => joined_plain goesOn) (confirmed _).1 (confirmed _).2

/-- A step of the sender: it logs at most one frame more, and only when its receiver has come to
all the frames before. -/
theorem Logs.step (sized : P.SizedAead) (correct : P.CorrectAead) {view : View}
    (logs : Logs P view peer) {reached : Nat} (waits : Waits peer reached)
    (talks : Talks P start peer) {start' : SessionInfo} (mirrored : Mirrored start' start)
    (otherTalks : Talks P start' other) (hears : Hears peer other.session.sent queue)
    (utacks : ∀ data ∈ other.outbox, isUtack data = true → fieldAt data 3 4 < reached)
    (sends : Sends peer other action) (move : Move P peer queue action next) :
    Logs P view next ∧ Waits next reached := by
  cases move with
  | quiet action sessionAction base fate performs acked notRead progress =>
      have stepped := logs.progress talks sends performs notRead progress
        { peer with
          session := base.settle sessionAction.task fate
          arq := peer.arqAfter action } rfl
        (idle_settle talks logs.idle performs notRead progress)
      rcases stepped with ⟨logged, ⟨_, same⟩ | ⟨sent, isWrite, _⟩⟩
      · refine ⟨logged, same ▸ waits.le, same ▸ waits.ahead, ?_, ?_, ?_⟩
        · intro none
          rw [same]
          exact waits.ended talks sends performs acked none
        · intro arq inFlight isAcked
          rw [same]
          rcases peer.arqAfter_eq action with isNone | isSame
          · rw [isNone] at inFlight
            cases inFlight
          · exact waits.acked arq (isSame ▸ inFlight) isAcked
        · intro arq inFlight
          rw [same]
          rcases peer.arqAfter_eq action with isNone | isSame
          · rw [isNone] at inFlight
            cases inFlight
          · exact waits.pending arq (isSame ▸ inFlight)
      · cases isWrite
  | wrote action sessionAction base fate sent performs acked progress =>
      have ready : peer.arqAfter action = none ∧ sessionAction.reads = false ∧
          (base.settle sessionAction.task fate).lock ≠ none := by
        cases progress with
        | encrypted task action' locked admitted ready unspent =>
            refine ⟨arqAfter_encrypting logs.idle performs ready, ?_, by simp⟩
            cases ready <;> rfl
      have stepped := logs.progress talks sends performs ready.2.1 progress
        (({ peer with
            session := base.settle sessionAction.task fate
            arq := peer.arqAfter action } : UdpPeer).sending sent) rfl
        (fun free => absurd free ready.2.2)
      have all := waits.ended talks sends performs acked ready.1
      rcases stepped with ⟨logged, ⟨noWrite, _⟩ | ⟨one, isWrite, seq, more⟩⟩
      · cases noWrite
      · cases isWrite
        have length : (base.settle sessionAction.task fate).sent.length =
            peer.session.sent.length + 1 := by
          rw [show (base.settle sessionAction.task fate).sent = _ from more, List.length_append]
          rfl
        refine ⟨logged, ?_, ?_, ?_, ?_, ?_⟩
        · exact Nat.le_trans waits.le (Nat.le_trans (Nat.le_succ _) (Nat.le_of_eq length.symm))
        · exact Nat.le_of_eq (length.trans (congrArg Nat.succ all))
        · intro none
          cases none
        · intro arq inFlight isAcked
          cases isAcked
        · intro arq inFlight
          exact ⟨peer.session.sent.length, length, congrArg some seq⟩
  | again now arq inFlight early =>
      refine ⟨⟨logs.told, logs.numbered, logs.txSeq, logs.admission, ?_⟩,
        waits.le, waits.ahead, ?_, ?_, ?_⟩
      · intro free
        rw [logs.idle free] at inFlight
        cases inFlight
      · intro none
        cases none
      · intro found isFound isAcked
        exact waits.acked arq inFlight isAcked
      · intro found isFound
        exact waits.pending arq inFlight
  | waits task now => exact ⟨logs, waits⟩
  | took task now locals sent rest reading isFront =>
      have message := otherTalks.log sent (hears.inLog sent (by simp [isFront]))
      have stepped := logs.took sized correct talks mirrored message now rest reading
      exact ⟨stepped.1, stepped.2 reached waits⟩
  | fed data =>
      have fed := fedBy sized talks otherTalks.log (otherTalks.outbox data sends)
      generalize peer.feed P data = after at fed
      have unlogged : ∀ (stream : UDPStream) (outbox : List Bytes)
          (arrived : List (Option Key × Bytes)),
          Logs P view { peer with stream, outbox, arrived } := fun _ _ _ =>
        ⟨logs.told, logs.numbered, logs.txSeq, logs.admission, logs.idle⟩
      cases fed with
      | utack isAck acked named =>
          refine ⟨unlogged _ _ _, waits.same rfl rfl rfl ?_⟩
          intro isAcked
          rcases named with same | isSeq
          · exact .inl (same ▸ isAcked)
          · exact .inr ⟨_, isSeq, utacks data sends isAck⟩
      | stale sent isSent isData old =>
          exact ⟨unlogged _ _ _, waits.same rfl rfl rfl .inl⟩
      | full sent isSent isData noRoom => exact ⟨logs, waits⟩
      | buffered sent isSent isData room arrived =>
          exact ⟨unlogged _ _ _, waits.same rfl rfl rfl .inl⟩

end Sender

end UdpPeer

end Usmp
