import Usmp.Session.Window
import Usmp.Udp.Sender
import Mathlib.Data.Fintype.EquivFin

/-!
# Exactly once over a lossy network

The receiver has taken in some frames of the sender's log and, with what is in its buffer, will
have come to some more.  `Expects` relates these two numbers to the buffer, the window and the
UTACKs on their way, and the invariant of a run ties them to the write that the sender waits
for.
-/

namespace Usmp

open LittleEndian UDPStream

/-- Going through these sequences, the receiver of the first number comes to expect the last.
Every sequence is the expected one or an earlier one. -/
inductive Feeds : Nat → List Nat → Nat → Prop where
  | done (expected : Nat) : Feeds expected [] expected
  | again {expected seq last : Nat} {rest : List Nat} (old : seq < expected)
      (feeds : Feeds expected rest last) : Feeds expected (seq :: rest) last
  | next {expected last : Nat} {rest : List Nat} (feeds : Feeds (expected + 1) rest last) :
      Feeds expected (expected :: rest) last

namespace Feeds

variable {expected last seq : Nat} {seqs : List Nat}

theorem le (feeds : Feeds expected seqs last) : expected ≤ last := by
  induction feeds with
  | done expected => exact Nat.le_refl expected
  | again old feeds ih => exact ih
  | next feeds ih => exact Nat.le_of_succ_le ih

theorem append_again (feeds : Feeds expected seqs last) (old : seq < last) :
    Feeds expected (seqs ++ [seq]) last := by
  induction feeds with
  | done expected => exact .again old (.done expected)
  | again older feeds ih => exact .again older (ih old)
  | next feeds ih => exact .next (ih old)

theorem append_next (feeds : Feeds expected seqs last) :
    Feeds expected (seqs ++ [last]) (last + 1) := by
  induction feeds with
  | done expected => exact .next (.done (expected + 1))
  | again old feeds ih => exact .again old ih
  | next feeds ih => exact .next ih

end Feeds

/-! ## Reading a message of the view -/

namespace View

/-- The reassembly of a frame of a message that the view takes in. -/
theorem reassemble_absorb {P : Primitives} {sessionId : FixedBytes usmpSessionIdLen}
    {view next : View} {locals : RecvLocals} {frame : USMPFrame} {plaintext : Bytes}
    (shown : view.ShownBy locals) (seq : frame.seq = view.rxSeq) (isData : frame.type.IsData)
    (absorbed : view.absorb P sessionId plaintext frame.type = some next) :
    ∃ step, reassemble locals frame plaintext = .ok step ∧ Turned view next frame.type step := by
  have expected : ¬ (locals.frameCount > 0 ∧ frame.seq ≠ locals.expectedFragSeq) := by
    intro both
    apply both.2
    rw [seq, shown.expected (shown.fragments ▸ both.1)]
  rcases isData with type | type
  · rw [type] at absorbed
    cases absorbed
    refine ⟨.returned (view.assembled ++ plaintext), ?_, .returned _ rfl rfl⟩
    simp [reassemble, type, expected, shown.assembled]
  · rw [type] at absorbed
    simp only [absorb] at absorbed
    split at absorbed <;> cases absorbed
    rename_i room
    have below : ¬ usmpMaxFrames ≤ locals.frameCount + 1 := by
      rw [shown.fragments]
      exact Nat.not_le.mpr room
    refine ⟨.next { locals with
      expectedFragSeq :=
        if locals.frameCount > 0 then locals.expectedFragSeq + 1 else frame.seq + 1
      assembledPayload := locals.assembledPayload ++ plaintext
      frameCount := locals.frameCount + 1 }, ?_, .next _ ⟨?_, ?_, ?_⟩ rfl⟩
    · simp [reassemble, type, expected, below]
    · simp [shown.assembled]
    · simp [shown.fragments]
    · intro _
      simp only [seq]
      split
      · rename_i some
        rw [shown.expected (shown.fragments ▸ some)]
      · rfl

end View

namespace UdpPeer

/-- The steps of the end that receives: one `recv` at a time, which is not cut short. -/
def Receives (peer other : UdpPeer) : UdpAction → Prop
  | .call _ .recv _ => peer.session.receiving = false
  | .call _ (.send _) _ | .resume _ _ | .acquire _ | .acked _ | .timeout _ => True
  | .call _ .ping _ | .call _ (.rekey _) _ | .call _ .bye _ => False
  | .cancel task => ∀ at_ ∈ peer.session.tasks task, at_.op ≠ .recv
  | .feed data => data ∈ other.outbox

instance (peer other : UdpPeer) : (action : UdpAction) → Decidable (peer.Receives other action)
  | .call _ .recv _ => inferInstanceAs (Decidable (peer.session.receiving = false))
  | .call _ (.send _) _ | .resume _ _ | .acquire _ | .acked _ | .timeout _ => isTrue trivial
  | .call _ .ping _ | .call _ (.rekey _) _ | .call _ .bye _ => isFalse id
  | .cancel task => inferInstanceAs (Decidable (∀ at_ ∈ peer.session.tasks task, at_.op ≠ .recv))
  | .feed data => inferInstanceAs (Decidable (data ∈ other.outbox))

theorem Receives.exchanges {peer other : UdpPeer} {action : UdpAction}
    (receives : Receives peer other action) : Exchanges other action := by
  cases action with
  | call task op now => cases op <;> trivial
  | feed data => exact receives
  | acquire | acked | timeout | resume | cancel => trivial

end UdpPeer

/-! ## Calls of `recv` that do not raise -/

namespace Session

/-- No call of `recv` raised. -/
structure Unraised (session : Session) : Prop where
  known : ∀ outcome ∈ session.outcomes, outcome.1 ∈ session.calls.map Prod.fst
  noFault : ¬ session.RecvRaised

/-- A coroutine that is no `recv`, or does not raise, moves. -/
theorem Unraised.settle {before base : Session} {task : Nat} {fate : Fate} {new : List (Nat × Op)}
    (unraised : Unraised before) (calls : base.calls = before.calls ++ new)
    (isNew : ∀ call ∈ new, call.1 ∉ before.calls.map Prod.fst)
    (outcomes : base.outcomes = before.outcomes) (called : task ∈ base.calls.map Prod.fst)
    (noRaise : ∀ exn, fate = .ended (.raised exn) → (task, Op.recv) ∉ base.calls) :
    Unraised (base.settle task fate) := by
  have frame := settle_frame base task fate
  have older : ∀ other, other ∈ before.calls.map Prod.fst → other ∈ base.calls.map Prod.fst := by
    intro other member
    rw [calls, List.map_append]
    exact List.mem_append_left _ member
  constructor
  · intro outcome member
    rw [settle_outcomes, outcomes] at member
    rw [frame.2.2.2.2.1]
    rcases List.mem_append.mp member with old | isOwn
    · exact older _ (unraised.known outcome old)
    · rcases List.mem_map.mp isOwn with ⟨_, _, rfl⟩
      exact called
  · intro raised
    rcases recvRaised_settle raised with ⟨other, exn, isRecv, member⟩ | ⟨exn, isFate, isRecv⟩
    · rw [outcomes] at member
      rw [calls] at isRecv
      rcases List.mem_append.mp isRecv with old | isOwn
      · exact unraised.noFault ⟨other, exn, old, member⟩
      · exact isNew _ isOwn (unraised.known _ member)
    · exact noRaise exn isFate isRecv

end Session

/-! ## The receiver -/

namespace UdpPeer

section Receiver

variable {P : Primitives} {start : SessionInfo} {peer other next : UdpPeer} {action : UdpAction}
  {sessionAction : SessionAction} {base : Session} {fate : Fate} {effects : Effects}
  {log queue : List SentFrame} {view : View} {sessionId : FixedBytes usmpSessionIdLen}

/-- The receiver has taken in the first `expected` frames of the log and will have come to
`reached` when it has gone through its buffer. -/
structure Expects (P : Primitives) (view : View) (sessionId : FixedBytes usmpSessionIdLen)
    (log : List SentFrame) (peer : UdpPeer) (queue : List SentFrame) (expected reached : Nat) :
    Prop where
  seen : ∃ now, view.replay P sessionId (log.take expected) = some now ∧
    (peer.session.expecting expected).Receiver now none
  window : peer.session.info.Window (List.range expected).reverse
  hears : Hears peer log queue
  feeds : Feeds expected (queue.map SentFrame.seq) reached
  lastRxSeq : peer.stream.lastRxSeq < expected
  utacks : ∀ data ∈ peer.outbox, isUtack data = true → fieldAt data 3 4 < reached
  unraised : peer.session.Unraised

/-- A coroutine that goes on without reading is no `recv`. -/
theorem Receives.isOther (talks : Talks P start peer) (receives : Receives peer other action)
    (performs : peer.sessionAction action = some sessionAction)
    (notRead : sessionAction.reads = false)
    (progress : Session.Progress P peer.session sessionAction base fate effects) (at_ : Task)
    (isAt : peer.session.tasks sessionAction.task = some at_) : at_.op ≠ .recv := by
  intro isRecv
  have plain := talks.tasks _ at_ isAt
  rcases plain.reading isRecv with ⟨locals, rfl⟩
  cases progress with
  | called task op now isNew =>
      rw [SessionAction.task, talks.calls.none_of_new isNew] at isAt
      cases isAt
  | encrypted task action' locked admitted ready unspent =>
      rcases ready.was with ⟨isTask, was, wasAt, _, notReading⟩
      rw [isTask, wasAt] at isAt
      cases isAt
      exact notReading locals none rfl
  | refused task action' locked admitted ready spent notBye exn =>
      rcases ready.was with ⟨isTask, was, wasAt, _, notReading⟩
      rw [isTask, wasAt] at isAt
      cases isAt
      exact notReading locals none rfl
  | failed task locked exn now writing | sent task data offset now writing last
  | signalled task locked now writing kind | rekeyed task salt now writing
  | ponged task locals' now writing | interrupted task locked writing =>
      rw [SessionAction.task, writing] at isAt
      cases isAt
  | received | tookHeader => cases notRead
  | abandoned task at_ isAt' unlocked =>
      cases action with
      | cancel task' =>
          cases performs
          exact receives _ isAt rfl
      | call | acquire | feed => cases performs
      | acked now =>
          rcases Option.map_eq_some_iff.mp performs with ⟨arq, _, impossible⟩
          cases impossible
      | timeout now =>
          simp only [UdpPeer.sessionAction] at performs
          repeat' split at performs
          all_goals cases performs
      | resume task' now =>
          simp only [UdpPeer.sessionAction] at performs
          repeat' split at performs
          all_goals try cases performs
          rcases Option.map_eq_some_iff.mp performs with ⟨header, _, impossible⟩
          cases impossible

/-- A step of the receiver that reads nothing. -/
theorem Expects.own {expected reached : Nat}
    (expects : Expects P view sessionId log peer queue expected reached)
    (talks : Talks P start peer) (receives : Receives peer other action)
    (performs : peer.sessionAction action = some sessionAction)
    (notRead : sessionAction.reads = false)
    (progress : Session.Progress P peer.session sessionAction base fate effects)
    {after : UdpPeer} (session : after.session = base.settle sessionAction.task fate)
    (buffer : after.stream.readBuffer = peer.stream.readBuffer)
    (lastRxSeq : after.stream.lastRxSeq = peer.stream.lastRxSeq)
    (utacks : ∀ data ∈ after.outbox, isUtack data = true → data ∈ peer.outbox) :
    Expects P view sessionId log after queue expected reached := by
  rcases expects.seen with ⟨now, replayed, receiver⟩
  have sameInfo := (talks.progress receives.exchanges performs notRead progress).1
  have isOther := receives.isOther talks performs notRead progress
  rcases progress.frame with ⟨tasks, outcomes⟩
  have info : after.session.info = { peer.session.info with txSeq := base.info.txSeq } := by
    rw [session, (Session.settle_frame _ _ _).2.1, sameInfo]
  have matched : now.Matches (base.expecting expected).info := by
    have matched := receiver.matched
    rw [Session.expecting, sameInfo]
    exact ⟨matched.txKey, matched.rxKey, matched.rxSeq⟩
  refine ⟨⟨now, replayed, ?_⟩, ?_, ⟨expects.hears.inLog, buffer.trans expects.hears.buffer⟩,
    expects.feeds, lastRxSeq ▸ expects.lastRxSeq, ?_, ?_⟩
  · rw [session, Session.expecting_settle]
    by_cases isCall : ∃ task time, sessionAction = .call task .recv time
    · rcases isCall with ⟨task, time, rfl⟩
      have called := call_of_performs performs
      subst called
      have none : ∀ other at_, peer.session.tasks other = some at_ → at_.op ≠ .recv := by
        intro other at_ isAt isRecv
        have some := talks.calls.receiving_iff.mpr ⟨other, at_, isAt, isRecv⟩
        rw [show peer.session.receiving = false from receives] at some
        cases some
      cases progress with
      | called task op now isNew => exact receiver.called rfl rfl matched none
      | encrypted task action' locked admitted ready unspent => cases ready
      | refused task action' locked admitted ready spent notBye exn => cases ready
    · have stays := progress.other (fun task time called => isCall ⟨task, time, called⟩) isOther
      exact receiver.settle_other tasks outcomes matched rfl rfl rfl (fun _ => rfl) isOther
        stays.1 stays.2
  · rw [info]
    exact expects.window
  · intro data member isAck
    exact expects.utacks data (utacks data member isAck) isAck
  · rw [session]
    by_cases isCall : ∃ task op time, sessionAction = .call task op time
    · rcases isCall with ⟨task, op, time, rfl⟩
      cases progress with
      | called task op now isNew =>
          apply expects.unraised.settle rfl
          · intro call member
            rw [List.mem_singleton.mp member]
            exact isNew
          · rfl
          · simp [SessionAction.task]
          · intro exn isFate isRecv
            rcases List.mem_append.mp isRecv with old | new
            · exact isNew (List.mem_map_of_mem old)
            · cases List.mem_singleton.mp new
              cases isFate
      | encrypted task action' locked admitted ready unspent => cases ready
      | refused task action' locked admitted ready spent notBye exn => cases ready
    · have calls : base.calls = peer.session.calls := by
        cases progress with
        | called task op now isNew => exact absurd ⟨task, op, now, rfl⟩ isCall
        | _ => rfl
      have exists_ : ∃ at_, peer.session.tasks sessionAction.task = some at_ := by
        cases progress with
        | called task op now isNew => exact absurd ⟨task, op, now, rfl⟩ isCall
        | encrypted task action' locked admitted ready unspent =>
            rcases ready.was with ⟨isTask, was, wasAt, _⟩
            exact ⟨was, isTask ▸ wasAt⟩
        | refused task action' locked admitted ready spent notBye exn =>
            rcases ready.was with ⟨isTask, was, wasAt, _⟩
            exact ⟨was, isTask ▸ wasAt⟩
        | failed task locked exn now writing | sent task data offset now writing last
        | signalled task locked now writing kind | rekeyed task salt now writing
        | ponged task locals' now writing | interrupted task locked writing =>
            exact ⟨_, writing⟩
        | received | tookHeader => cases notRead
        | abandoned task at_ isAt unlocked => exact ⟨_, isAt⟩
      rcases exists_ with ⟨at_, isAt⟩
      have known := talks.calls.known _ at_ isAt
      apply expects.unraised.settle (calls.trans (List.append_nil _).symm) (by simp) outcomes
      · rw [calls]
        exact List.mem_map_of_mem known
      · intro exn isFate isRecv
        rw [calls] at isRecv
        have same := (talks.calls.lookup isRecv).symm.trans (talks.calls.lookup known)
        exact isOther at_ isAt (Option.some.inj same).symm

theorem absorb_rxSeq {plaintext : Bytes} {type : PacketType} {after : View}
    (isData : type.IsData) (absorbed : view.absorb P sessionId plaintext type = some after) :
    after.rxSeq = view.rxSeq + 1 := by
  rcases isData with rfl | rfl
  · cases absorbed
    rfl
  · simp only [View.absorb] at absorbed
    split at absorbed <;> cases absorbed
    rfl

/-- What the view makes of the next frame of a log that replays. -/
theorem replay_next {now last : View} {expected : Nat} {sent : SentFrame}
    (told : view.replay P sessionId log = some last)
    (replayed : view.replay P sessionId (log.take expected) = some now)
    (isNext : log[expected]? = some sent) :
    ∃ after, now.accept P sessionId sent = some after ∧
      view.replay P sessionId (log.take (expected + 1)) = some after := by
  have split : log = log.take (expected + 1) ++ log.drop (expected + 1) :=
    (List.take_append_drop _ _).symm
  rw [split] at told
  have taken : log.take (expected + 1) = log.take expected ++ [sent] := by
    rw [List.take_add_one, isNext]
    rfl
  rcases Machine.run_append_some.mp told with ⟨after, isAfter, _⟩
  refine ⟨after, ?_, isAfter⟩
  have steps : Machine.run (View.accept P sessionId) view (log.take expected ++ [sent]) =
      some after := taken ▸ isAfter
  rcases Machine.run_append_some.mp steps with ⟨middle, isMiddle, rest⟩
  cases replayed.symm.trans isMiddle
  rcases Machine.run_cons_some.mp rest with ⟨final, accepted, isFinal⟩
  cases isFinal
  exact accepted

/-- The window drops exactly the frames that were taken in. -/
theorem replayDrops_iff {info : SessionInfo} {expected seq : Nat}
    (window : info.Window (List.range expected).reverse) (next : seq ≤ expected) :
    replayDrops info seq = true ↔ seq < expected := by
  have top : info.rxSeq ≤ expected := by
    rw [window.isTop]
    apply SlidingWindow.largest_le
    intro number member
    exact Nat.le_of_lt (List.mem_range.mp (List.mem_reverse.mp member))
  have passes := SlidingWindow.Represents.drops_eq_false_iff window seq
  rw [← replayDrops_eq] at passes
  constructor
  · intro drops
    apply Nat.lt_of_le_of_ne next
    intro same
    have new : seq ∉ (List.range expected).reverse ∧ info.rxSeq < seq + 64 := by
      constructor
      · intro member
        have below := List.mem_range.mp (List.mem_reverse.mp member)
        omega
      · omega
    rw [passes.mpr new] at drops
    cases drops
  · intro below
    apply Bool.eq_true_of_not_eq_false
    intro isNew
    exact (passes.mp isNew).1 (List.mem_reverse.mpr (List.mem_range.mpr below))

theorem confirmAuthenticated_buffer (stream : UDPStream) (seq : Nat) :
    (stream.confirmAuthenticated seq).readBuffer = stream.readBuffer := by
  unfold UDPStream.confirmAuthenticated
  split <;> rfl

theorem confirmAuthenticated_last {stream : UDPStream} {seq : Nat} (last : stream.lastRxSeq < seq) :
    (stream.confirmAuthenticated seq).lastRxSeq < (seq + 1 : Nat) := by
  have older : (seq : Int) < (seq + 1 : Nat) := Int.ofNat_lt.mpr (Nat.lt_succ_self _)
  rw [UDPStream.confirmAuthenticated, if_pos last]
  exact older

/-- The receiver takes the front of its buffer. -/
theorem Expects.took (sized : P.SizedAead) (correct : P.CorrectAead) {expected reached : Nat}
    (expects : Expects P view other.session.info.sessionId other.session.sent peer queue expected
      reached)
    (talks : Talks P start peer) {start' : SessionInfo} (mirrored : Mirrored start' start)
    (otherTalks : Talks P start' other) (logs : Logs P view other) {task : Nat} (now : Rat)
    {locals : RecvLocals} {sent : SentFrame} {rest : List SentFrame}
    (reading : peer.session.tasks task = some (.reading locals none))
    (isFront : queue = sent :: rest) :
    ∃ expected', Expects P view other.session.info.sessionId other.session.sent
      (peer.taking P task locals now sent rest) rest expected' reached := by
  rcases expects.seen with ⟨seen, replayed, receiver⟩
  have isSent := expects.hears.inLog sent (by rw [isFront]; exact List.mem_cons_self)
  have message := otherTalks.log sent isSent
  have inLog : ∀ one ∈ rest, one ∈ other.session.sent := by
    intro one isOne
    exact expects.hears.inLog one (by rw [isFront]; exact List.mem_cons_of_mem _ isOne)
  have isAt : other.session.sent[sent.seq]? = some sent := by
    rcases List.mem_iff_getElem?.mp isSent with ⟨i, isAt⟩
    rw [logs.numbered i sent isAt]
    exact isAt
  have known := talks.calls.known task _ reading
  have called : ∀ (session : Session) (fate : Fate), session.calls = peer.session.calls →
      session.outcomes = peer.session.outcomes → (∀ exn, fate ≠ .ended (.raised exn)) →
      (session.settle task fate).Unraised := by
    intro session fate calls outcomes noRaise
    apply expects.unraised.settle (calls.trans (List.append_nil _).symm) (by simp) outcomes
    · rw [calls]
      exact List.mem_map_of_mem known
    · intro exn isFate
      exact absurd isFate (noRaise exn)
  have feeds := expects.feeds
  rw [isFront, List.map_cons] at feeds
  rw [taking_message sized correct talks mirrored message]
  cases feeds with
  | again old feeds =>
      -- the window drops a copy of an earlier frame
      have drops := (replayDrops_iff expects.window (Nat.le_of_lt old)).mpr old
      rw [if_pos drops]
      refine ⟨expected, ⟨seen, replayed, ?_⟩, ?_, ⟨inLog, rfl⟩, feeds, expects.lastRxSeq,
        expects.utacks,
        called peer.session (.suspended (.reading locals none)) rfl rfl ?_⟩
      · rw [Session.expecting_settle]
        have turned : View.Turned seen seen sent.type (.next locals) :=
          .next locals (receiver.shown task _ locals reading rfl) rfl
        exact receiver.read reading rfl rfl receiver.matched receiver.tidy turned
      · rw [(Session.settle_frame _ _ _).2.1]
        exact expects.window
      · intro exn isRaised
        cases isRaised
  | next feeds =>
      have fresh : ¬ replayDrops peer.session.info sent.seq = true := fun drops =>
        Nat.lt_irrefl _ ((replayDrops_iff expects.window (Nat.le_refl _)).mp drops)
      rw [if_neg fresh]
      have rxSeq : seen.rxSeq = sent.seq := receiver.matched.rxSeq.symm
      rcases replay_next logs.told replayed isAt with ⟨after, accepted, isAfter⟩
      have absorbed := (View.accept_some.mp accepted).2
      have notRekey : sent.type ≠ .rekey := by
        intro isRekey
        rcases message.isData with isData | isFrag
        · rw [isData] at isRekey
          cases isRekey
        · rw [isFrag] at isRekey
          cases isRekey
      have keys := View.accept_keys notRekey accepted
      have assembled : ∃ step, reassemble locals
          (sentFrame sent.type sent.payload sent.seq) sent.plaintext = .ok step ∧
            View.Turned seen after sent.type step :=
        View.reassemble_absorb (receiver.shown task _ locals reading rfl) rxSeq.symm
          message.isData absorbed
      rcases assembled with ⟨step, isStep, turned⟩
      have isJoined : joined locals sent = step := by
        rw [joined, isStep]
      have noRaise : ∀ exn, step.fate ≠ .ended (.raised exn) := by
        intro exn isRaised
        cases turned with
        | next | pong => cases isRaised
        | returned payload => cases isRaised
        | raised exn' fragments messages isPong =>
            rcases message.isData with isData | isFrag
            · rw [show sent.type = .pong from isPong] at isData
              cases isData
            · rw [show sent.type = .pong from isPong] at isFrag
              cases isFrag
      rw [isJoined]
      refine ⟨sent.seq + 1, ⟨after, isAfter, ?_⟩, ?_, ⟨inLog, ?_⟩, feeds, ?_, expects.utacks,
        called _ _ rfl rfl noRaise⟩
      · rw [Session.expecting_settle]
        have same := sameKeys_markReceived peer.session.info sent.seq
        refine receiver.read reading rfl rfl ⟨?_, ?_, ?_⟩ (receiver.tidy.accept accepted) turned
        · rw [keys.1, ← receiver.matched.txKey]
          exact same.txKey
        · rw [keys.2, ← receiver.matched.rxKey]
          exact same.rxKey
        · rw [absorb_rxSeq message.isData absorbed, rxSeq]
          rfl
      · rw [(Session.settle_frame _ _ _).2.1]
        have marked := (expects.window.received (Bool.eq_false_iff.mpr fresh)).1
        rw [List.range_succ, List.reverse_append]
        exact marked
      · exact confirmAuthenticated_buffer _ sent.seq
      · exact confirmAuthenticated_last expects.lastRxSeq

/-- A receiver whose buffer, window and replies did not change. -/
theorem Expects.same {expected reached : Nat}
    (expects : Expects P view sessionId log peer queue expected reached) {after : UdpPeer}
    (session : after.session = peer.session)
    (buffer : after.stream.readBuffer = peer.stream.readBuffer)
    (lastRxSeq : after.stream.lastRxSeq = peer.stream.lastRxSeq)
    (utacks : ∀ data ∈ after.outbox, isUtack data = true →
      data ∈ peer.outbox ∨ fieldAt data 3 4 < reached) :
    Expects P view sessionId log after queue expected reached := by
  refine ⟨session ▸ expects.seen, session ▸ expects.window,
    ⟨expects.hears.inLog, buffer.trans expects.hears.buffer⟩, expects.feeds,
    lastRxSeq ▸ expects.lastRxSeq, ?_, session ▸ expects.unraised⟩
  intro data member isAck
  rcases utacks data member isAck with old | below
  · exact expects.utacks data old isAck
  · exact below

/-- The sender may be one frame ahead, and the receiver has now come to that frame too. -/
theorem Waits.reach {reached : Nat} (waits : Waits other reached)
    (more : reached < other.session.sent.length) : Waits other (reached + 1) := by
  refine ⟨more, Nat.le_trans waits.ahead (Nat.le_succ _), ?_, ?_, waits.pending⟩
  · intro none
    exact absurd (waits.idle none) (Nat.ne_of_gt more)
  · intro arq inFlight isAcked
    exact absurd (waits.acked arq inFlight isAcked) (Nat.ne_of_gt more)

/-- A datagram of the sender reaches the receiver.  The receiver answers only frames that it has
come to, and the frame it comes to next is the one that the sender waits for. -/
theorem Expects.fed {expected reached : Nat}
    (expects : Expects P view sessionId other.session.sent peer queue expected reached)
    {start' : SessionInfo} (otherTalks : Talks P start' other) (logs : Logs P view other)
    (waits : Waits other reached) {data : Bytes}
    (fed : FedBy P peer other.session.sent data next) :
    ∃ queue' reached', Waits other reached' ∧
      Expects P view sessionId other.session.sent next queue' expected reached' := by
  have seqBelow : ∀ sent ∈ other.session.sent, sent.seq < other.session.sent.length := by
    intro sent isSent
    rcases List.mem_iff_getElem?.mp isSent with ⟨i, isAt⟩
    rw [logs.numbered i sent isAt]
    exact (List.getElem?_eq_some_iff.mp isAt).1
  have answers : ∀ sent ∈ other.session.sent, ∀ bound, sent.seq < bound →
      ∀ reply ∈ peer.outbox ++ [peer.stream.buildUtack P sent.type.toNat sent.seq],
        reply ∈ peer.outbox ∨ fieldAt reply 3 4 < bound := by
    intro sent isSent bound below reply member
    rcases List.mem_append.mp member with old | new
    · exact .inl old
    · right
      rw [List.mem_singleton.mp new,
        (buildUtack_isUtack P peer.stream (otherTalks.log sent isSent)).2]
      exact below
  cases fed with
  | utack isAck acked named =>
      exact ⟨queue, reached, waits, expects.same rfl rfl rfl (fun _ member _ => .inl member)⟩
  | stale sent isSent isData old =>
      have below : sent.seq < reached := by
        have last := expects.lastRxSeq
        have le := expects.feeds.le
        simp only [isStale, Bool.and_eq_true, decide_eq_true_eq] at old
        omega
      exact ⟨queue, reached, waits, expects.same rfl rfl rfl
        (fun reply member _ => answers sent isSent reached below reply member)⟩
  | full sent isSent isData noRoom => exact ⟨queue, reached, waits, expects⟩
  | buffered sent isSent isData room arrived =>
      have hears : ∀ one ∈ queue ++ [sent], one ∈ other.session.sent := by
        intro one isOne
        rcases List.mem_append.mp isOne with old | new
        · exact expects.hears.inLog one old
        · rw [List.mem_singleton.mp new]
          exact isSent
      have buffer : peer.stream.readBuffer ++ sent.bytes = bytesOf (queue ++ [sent]) := by
        simp [expects.hears.buffer, bytesOf]
      have buffered : ∀ reached', reached ≤ reached' → sent.seq < reached' →
          Feeds expected ((queue ++ [sent]).map SentFrame.seq) reached' →
          Expects P view sessionId other.session.sent
            { peer with
              stream := { peer.stream with readBuffer := peer.stream.readBuffer ++ sent.bytes }
              outbox := peer.outbox ++ [peer.stream.buildUtack P sent.type.toNat sent.seq]
              arrived } (queue ++ [sent]) expected reached' := by
        intro reached' le below feeds
        refine ⟨expects.seen, expects.window, ⟨hears, buffer⟩, feeds, expects.lastRxSeq, ?_,
          expects.unraised⟩
        intro reply member isAck
        rcases answers sent isSent reached' below reply member with old | named
        · exact Nat.lt_of_lt_of_le (expects.utacks reply old isAck) le
        · exact named
      have ahead : sent.seq ≤ reached :=
        Nat.le_of_lt_succ (Nat.lt_of_lt_of_le (seqBelow sent isSent) waits.ahead)
      rcases Nat.lt_or_eq_of_le ahead with below | isNext
      · refine ⟨queue ++ [sent], reached, waits, buffered reached (Nat.le_refl _) below ?_⟩
        rw [List.map_append]
        exact expects.feeds.append_again below
      · refine ⟨queue ++ [sent], reached + 1, waits.reach (isNext ▸ seqBelow sent isSent),
          buffered (reached + 1) (Nat.le_succ _) (Nat.lt_succ_of_le ahead) ?_⟩
        rw [List.map_append, List.map_singleton, isNext]
        exact expects.feeds.append_next

/-- A step of the receiver. -/
theorem Expects.step (sized : P.SizedAead) (correct : P.CorrectAead) {expected reached : Nat}
    (expects : Expects P view other.session.info.sessionId other.session.sent peer queue expected
      reached)
    (talks : Talks P start peer) {start' : SessionInfo} (mirrored : Mirrored start' start)
    (otherTalks : Talks P start' other) (logs : Logs P view other) (waits : Waits other reached)
    (receives : Receives peer other action) (move : Move P peer queue action next) :
    ∃ queue' expected' reached', Waits other reached' ∧
      Expects P view other.session.info.sessionId other.session.sent next queue' expected'
        reached' := by
  cases move with
  | quiet action sessionAction base fate performs acked notRead progress =>
      exact ⟨queue, expected, reached, waits,
        expects.own talks receives performs notRead progress rfl rfl rfl (fun _ member _ => member)⟩
  | wrote action sessionAction base fate sent performs acked progress =>
      have notRead : sessionAction.reads = false := by
        cases progress with
        | encrypted task action' locked admitted ready unspent => cases ready <;> rfl
      have message := talks.sent_message progress
      refine ⟨queue, expected, reached, waits,
        expects.own talks receives performs notRead progress rfl rfl rfl ?_⟩
      intro data member isAck
      rcases List.mem_append.mp member with old | new
      · exact old
      · rw [List.mem_singleton.mp new, (isFrame_of_genuine sized message.genuine).1.notUtack]
          at isAck
        cases isAck
  | again now arq inFlight early =>
      rcases talks.arq arq inFlight with ⟨sent, isSent, isData⟩
      refine ⟨queue, expected, reached, waits, expects.same rfl rfl rfl ?_⟩
      intro data member isAck
      rcases List.mem_append.mp member with old | new
      · exact .inl old
      · rw [List.mem_singleton.mp new, isData,
          (isFrame_of_genuine sized (talks.log sent isSent).genuine).1.notUtack] at isAck
        cases isAck
  | waits task now => exact ⟨queue, expected, reached, waits, expects⟩
  | took task now locals sent rest reading isFront =>
      rcases expects.took sized correct talks mirrored otherTalks logs now reading isFront with
        ⟨expected', taken⟩
      exact ⟨rest, expected', reached, waits, taken⟩
  | fed data =>
      have fed := fedBy sized talks otherTalks.log (otherTalks.outbox data receives)
      rcases expects.fed otherTalks logs waits fed with ⟨queue', reached', waits', after⟩
      exact ⟨queue', expected, reached', waits', after⟩

/-- The sender logs more. -/
theorem Expects.more {expected reached : Nat}
    (expects : Expects P view sessionId log peer queue expected reached)
    (le : reached ≤ log.length) (more : List SentFrame) :
    Expects P view sessionId (log ++ more) peer queue expected reached := by
  have taken : (log ++ more).take expected = log.take expected :=
    List.take_append_of_le_length (Nat.le_trans expects.feeds.le le)
  refine ⟨taken.symm ▸ expects.seen, expects.window, ⟨?_, expects.hears.buffer⟩, expects.feeds,
    expects.lastRxSeq, expects.utacks, expects.unraised⟩
  intro sent isSent
  exact List.mem_append_left _ (expects.hears.inLog sent isSent)

end Receiver

/-! ## The two ends -/

/-- The invariant of a run in which one end sends messages and the other receives them. -/
structure Follows (P : Primitives) (nearStart farStart : SessionInfo) (view : View)
    (near far : UdpPeer) : Prop where
  mirrored : Mirrored nearStart farStart
  nearTalks : Talks P nearStart near
  farTalks : Talks P farStart far
  heard : ∃ queue, Hears near far.session.sent queue
  logs : Logs P view near
  ahead : ∃ queue expected reached, Waits near reached ∧
    Expects P view near.session.info.sessionId near.session.sent far queue expected reached

section Follows

variable {P : Primitives} {nearStart farStart : SessionInfo} {view : View} {near far next : UdpPeer}
  {action : UdpAction}

/-- The sender acts. -/
theorem Follows.sends (sized : P.SizedAead) (correct : P.CorrectAead)
    (follows : Follows P nearStart farStart view near far) (sends : Sends near far action)
    (stepped : near.step P action = some next) : Follows P nearStart farStart view next far := by
  rcases follows.heard with ⟨heard, hears⟩
  rcases follows.ahead with ⟨queue, expected, reached, waits, expects⟩
  have move := follows.nearTalks.move sized hears follows.farTalks.log stepped
  have talks := follows.nearTalks.step sized correct follows.mirrored.symm follows.farTalks hears
    sends.exchanges move
  have logged := follows.logs.step sized correct waits follows.nearTalks
    follows.mirrored.symm follows.farTalks hears expects.utacks sends move
  rcases move.logged with ⟨more, log⟩
  refine ⟨follows.mirrored, talks, follows.farTalks,
    hears.step sized follows.nearTalks follows.farTalks sends.exchanges move, logged.1,
    queue, expected, reached, logged.2, ?_⟩
  have sameId := talks.keyed.sessionId.trans follows.nearTalks.keyed.sessionId.symm
  rw [log, sameId]
  exact expects.more waits.le more

/-- The receiver acts. -/
theorem Follows.receives (sized : P.SizedAead) (correct : P.CorrectAead)
    (follows : Follows P nearStart farStart view near far) (receives : Receives far near action)
    (stepped : far.step P action = some next) : Follows P nearStart farStart view near next := by
  rcases follows.heard with ⟨heard, hears⟩
  rcases follows.ahead with ⟨queue, expected, reached, waits, expects⟩
  have move := follows.farTalks.move sized expects.hears follows.nearTalks.log stepped
  have talks := follows.farTalks.step sized correct follows.mirrored follows.nearTalks expects.hears
    receives.exchanges move
  rcases move.logged with ⟨more, log⟩
  refine ⟨follows.mirrored, follows.nearTalks, talks, ⟨heard, ?_, hears.buffer⟩, follows.logs,
    expects.step sized correct follows.farTalks follows.mirrored follows.nearTalks
      follows.logs waits receives move⟩
  intro sent isSent
  rw [log]
  exact List.mem_append_left _ (hears.inLog sent isSent)

/-- A receiver with nothing in its buffer. -/
theorem queue_eq_nil (sized : P.SizedAead) {log queue : List SentFrame}
    (messages : ∀ sent ∈ log, sent.Message P nearStart) (hears : Hears far log queue)
    (noBuffer : far.stream.readBuffer = []) : queue = [] := by
  cases queue with
  | nil => rfl
  | cons sent rest =>
      have long := bytes_pos sized (messages sent (hears.inLog sent List.mem_cons_self))
      have none : sent.bytes ++ bytesOf rest = [] := hears.buffer.symm.trans noBuffer
      rw [(List.append_eq_nil_iff.mp none).1] at long
      cases long

/-- What the receiver has of the messages. -/
theorem Follows.received (sized : P.SizedAead)
    (follows : Follows P nearStart farStart view near far) :
    ¬ far.session.RecvRaised ∧ far.session.received <+: near.session.admittedPayloads ∧
      (far.stream.readBuffer = [] → (∀ task, near.session.tasks task = none) →
        far.session.received = near.session.admittedPayloads) := by
  rcases follows.ahead with ⟨queue, expected, reached, waits, expects⟩
  rcases expects.seen with ⟨now, replayed, receiver⟩
  have messages : far.session.received = now.messages := receiver.messages
  refine ⟨expects.unraised.noFault, ?_, ?_⟩
  · have logged := follows.logs.told
    rw [← List.take_append_drop expected near.session.sent] at logged
    rcases Machine.run_append_some.mp logged with ⟨middle, isMiddle, rest⟩
    cases replayed.symm.trans isMiddle
    rw [messages]
    exact (View.replay_messages rest).trans near.session.mirror_messages
  · intro noBuffer returned
    have noQueue := queue_eq_nil sized follows.nearTalks.log expects.hears noBuffer
    have feeds := expects.feeds
    rw [noQueue] at feeds
    have same : expected = reached := by
      cases feeds
      rfl
    have free : near.session.lock = none := by
      apply Option.eq_none_iff_forall_ne_some.mpr
      intro task held
      rcases (follows.nearTalks.calls.holder task).mp held with ⟨locked, writing⟩
      rw [returned task] at writing
      cases writing
    have all : near.session.sent.length = expected :=
      same ▸ waits.idle (follows.logs.idle free)
    rw [← all, List.take_length, follows.logs.told] at replayed
    cases replayed
    rw [messages, Session.mirror, Session.holder_of_free free]
    rfl

/-- A datagram that does not fit the buffer leaves the receiver as it was. -/
theorem Follows.refused (sized : P.SizedAead)
    (follows : Follows P nearStart farStart view near far) {data : Bytes}
    (isSent : data ∈ near.outbox) (notUtack : isUtack data = false)
    (new : far.stream.isStale (seqOf data) = false)
    (noRoom : far.stream.readBuffer.length + data.length > maxReadBuffer) :
    far.feed P data = far := by
  have fed := fedBy sized follows.farTalks follows.nearTalks.log
    (follows.nearTalks.outbox data isSent)
  generalize far.feed P data = after at fed
  cases fed with
  | utack isAck acked named =>
      rw [notUtack] at isAck
      cases isAck
  | stale sent inLog isData old =>
      subst isData
      have message := follows.nearTalks.log sent inLog
      rw [(isFrame_of_genuine sized message.genuine).2.2, old] at new
      cases new
  | full sent isSent isData noRoom => rfl
  | buffered sent isSent isData room arrived => exact absurd noRoom (Nat.not_lt.mpr room)

/-! ## The receiver goes on alone -/

/-- A `recv` reads the first frame of the buffer. -/
theorem Follows.resume (sized : P.SizedAead)
    (follows : Follows P nearStart farStart view near far)
    (some : far.stream.readBuffer ≠ []) (receiving : far.session.receiving = true) :
    ∃ task next, far.step P (.resume task 0) = .some next ∧
      next.stream.readBuffer.length < far.stream.readBuffer.length := by
  rcases follows.ahead with ⟨queue, expected, reached, waits, expects⟩
  rcases follows.farTalks.calls.receiving_iff.mp receiving with ⟨task, at_, isAt, isRecv⟩
  rcases (follows.farTalks.tasks task at_ isAt).reading isRecv with ⟨locals, rfl⟩
  cases queue with
  | nil => exact absurd expects.hears.buffer some
  | cons sent rest =>
      have message := follows.nearTalks.log sent
        (expects.hears.inLog sent List.mem_cons_self)
      have buffer := expects.hears.buffer
      refine ⟨task, _, resume_front sized isAt message 0 buffer, ?_⟩
      have taken : (far.taking P task locals 0 sent rest).stream.readBuffer = bytesOf rest :=
        (applyStep_frame _ _).2.2.2.2
      have long := bytes_pos sized message
      rw [taken, buffer, bytesOf, bytesOf, List.map_cons, List.flatten_cons, List.length_append]
      exact Nat.lt_add_of_pos_left long

/-- A `recv` can be called. -/
theorem call_recv (P : Primitives) (peer : UdpPeer) :
    ∃ task next, peer.step P (.call task .recv 0) = some next ∧
      next.stream.readBuffer = peer.stream.readBuffer ∧
      (next.session.CallInv → next.session.receiving = true) := by
  rcases Infinite.exists_notMem_finset (peer.session.calls.map Prod.fst).toFinset with
    ⟨task, isNew⟩
  rw [List.mem_toFinset] at isNew
  have stepped : peer.session.step P (.call task .recv 0) =
      some (({ peer.session with calls := peer.session.calls ++ [(task, .recv)] } :
        Session).begin task 0 .recv, {}) := by
    simp only [Session.step, if_neg isNew]
  refine ⟨task, _, congrArg (Option.map peer.perform) stepped, rfl, ?_⟩
  intro calls
  apply calls.receiving_iff.mpr
  refine ⟨task, .reading { ctrlWindowStart := 0 } none, ?_, rfl⟩
  simp [perform, applyStep, Session.begin]

end Follows

end UdpPeer

/-! ## Runs -/

/-- The parameters of a session that has sent and received nothing. -/
structure SessionInfo.Fresh (info : SessionInfo) : Prop where
  txSeq : info.txSeq = 0
  rxSeq : info.rxSeq = 0
  rxWindowBitmap : info.rxWindowBitmap = 0

/-- Two ends on a network that may hand over any datagram that the other end ever sent, in any
order and any number of times. -/
structure UdpLink where
  client : UdpPeer
  server : UdpPeer

namespace UdpLink

def peer (link : UdpLink) : Side → UdpPeer
  | .client => link.client
  | .server => link.server

def withPeer (link : UdpLink) (side : Side) (peer : UdpPeer) : UdpLink :=
  match side with
  | .client => { link with client := peer }
  | .server => { link with server := peer }

@[simp] theorem peer_withPeer (link : UdpLink) (side : Side) (peer : UdpPeer) :
    (link.withPeer side peer).peer side = peer := by
  cases side <;> rfl

@[simp] theorem peer_withPeer_other (link : UdpLink) (side : Side) (peer : UdpPeer) :
    (link.withPeer side peer).peer side.other = link.peer side.other := by
  cases side <;> rfl

@[simp] theorem peer_withPeer_of_other (link : UdpLink) (side : Side) (peer : UdpPeer) :
    (link.withPeer side.other peer).peer side = link.peer side := by
  cases side <;> rfl

def step (P : Primitives) (link : UdpLink) (action : Side × UdpAction) : Option UdpLink :=
  ((link.peer action.1).step P action.2).map (link.withPeer action.1)

/-- Two ends whose handshake is over. -/
def new (clientInfo serverInfo : SessionInfo) (clientStream serverStream : UDPStream) : UdpLink :=
  { client := .established clientInfo clientStream
    server := .established serverInfo serverStream }

/-- The condition along a run: `sender` sends and the other end receives. -/
def Lossy (sender : Side) (link : UdpLink) (action : Side × UdpAction) : Prop :=
  if action.1 = sender then (link.peer action.1).Sends (link.peer action.1.other) action.2
  else (link.peer action.1).Receives (link.peer action.1.other) action.2

instance (sender : Side) (link : UdpLink) (action : Side × UdpAction) :
    Decidable (link.Lossy sender action) :=
  inferInstanceAs (Decidable
    (if action.1 = sender then (link.peer action.1).Sends (link.peer action.1.other) action.2
    else (link.peer action.1).Receives (link.peer action.1.other) action.2))

variable {P : Primitives} {sender : Side}

open UdpPeer

theorem follows_step (sized : P.SizedAead) (correct : P.CorrectAead)
    {nearStart farStart : SessionInfo} {view : View} {link next : UdpLink}
    {action : Side × UdpAction}
    (follows : Follows P nearStart farStart view (link.peer sender) (link.peer sender.other))
    (lossy : link.Lossy sender action) (stepped : link.step P action = some next) :
    Follows P nearStart farStart view (next.peer sender) (next.peer sender.other) := by
  rcases action with ⟨side, action⟩
  rcases Option.map_eq_some_iff.mp stepped with ⟨after, acted, rfl⟩
  by_cases same : side = sender
  · subst same
    rw [Lossy, if_pos rfl] at lossy
    rw [peer_withPeer, peer_withPeer_other]
    exact follows.sends sized correct lossy acted
  · rw [Lossy, if_neg same] at lossy
    have isOther : side = sender.other := by
      cases side <;> cases sender <;> first | rfl | exact absurd rfl same
    subst isOther
    rw [Side.other_other] at lossy
    rw [peer_withPeer_of_other, peer_withPeer]
    exact follows.receives sized correct lossy acted

/-- The receiver can go on, without the sender, until its buffer is empty. -/
def Drains (P : Primitives) (sender : Side) (link : UdpLink) : Prop :=
  ∃ actions last, Machine.run (step P) link actions = some last ∧
    Machine.Along (step P) (Lossy sender) link actions ∧
    last.peer sender = link.peer sender ∧
    (last.peer sender.other).stream.readBuffer = []

/-- A step of the receiver before it goes on. -/
theorem Drains.cons {link : UdpLink} {action : UdpAction} {far : UdpPeer}
    (receives : (link.peer sender.other).Receives (link.peer sender) action)
    (acted : (link.peer sender.other).step P action = some far)
    (drains : (link.withPeer sender.other far).Drains P sender) : link.Drains P sender := by
  rcases drains with ⟨actions, last, reached, along, same, empty⟩
  have stepped : link.step P (sender.other, action) = some (link.withPeer sender.other far) := by
    rw [step, acted]
    rfl
  have otherSide : sender.other ≠ sender := by
    cases sender <;> simp [Side.other]
  have lossy : link.Lossy sender (sender.other, action) := by
    rw [Lossy, if_neg otherSide, Side.other_other]
    exact receives
  refine ⟨(sender.other, action) :: actions, last, Machine.run_cons_some.mpr ⟨_, stepped, reached⟩,
    ⟨lossy, ?_⟩, same.trans (peer_withPeer_of_other link sender far), empty⟩
  intro other isOther
  cases stepped.symm.trans isOther
  exact along

theorem drains_of_follows (sized : P.SizedAead) (correct : P.CorrectAead)
    {nearStart farStart : SessionInfo} {view : View} (left : Nat) {link : UdpLink}
    (follows : Follows P nearStart farStart view (link.peer sender) (link.peer sender.other))
    (bound : (link.peer sender.other).stream.readBuffer.length ≤ left) :
    link.Drains P sender := by
  induction left generalizing link with
  | zero =>
      exact ⟨[], link, rfl, trivial, rfl, List.length_eq_zero_iff.mp (Nat.le_zero.mp bound)⟩
  | succ left ih =>
      by_cases empty : (link.peer sender.other).stream.readBuffer = []
      · exact ⟨[], link, rfl, trivial, rfl, empty⟩
      -- with a `recv` in progress the next frame is read
      have onward : ∀ {link : UdpLink},
          Follows P nearStart farStart view (link.peer sender) (link.peer sender.other) →
          (link.peer sender.other).stream.readBuffer ≠ [] →
          (link.peer sender.other).stream.readBuffer.length ≤ left + 1 →
          (link.peer sender.other).session.receiving = true → link.Drains P sender := by
        intro link follows some bound receiving
        rcases follows.resume sized some receiving with ⟨task, far, acted, less⟩
        have allowed : (link.peer sender.other).Receives (link.peer sender) (.resume task 0) :=
          trivial
        have next := follows.receives sized correct allowed acted
        apply Drains.cons allowed acted
        apply ih
        · rw [peer_withPeer_of_other, peer_withPeer]
          exact next
        · rw [peer_withPeer]
          exact Nat.le_of_lt_succ (Nat.lt_of_lt_of_le less bound)
      cases receiving : (link.peer sender.other).session.receiving with
      | true => exact onward follows empty bound receiving
      | false =>
          rcases call_recv P (link.peer sender.other) with ⟨task, far, acted, same, nowReceiving⟩
          have allowed : (link.peer sender.other).Receives (link.peer sender)
              (.call task .recv 0) := receiving
          have next := follows.receives sized correct allowed acted
          apply Drains.cons allowed acted
          apply onward
          · rw [peer_withPeer_of_other, peer_withPeer]
            exact next
          · rw [peer_withPeer, same]
            exact empty
          · rw [peer_withPeer, same]
            exact bound
          · rw [peer_withPeer]
            exact nowReceiving next.farTalks.calls

theorem follows_new (sender : Side) {clientInfo serverInfo : SessionInfo}
    (mirrored : Mirrored clientInfo serverInfo) (clientFresh : clientInfo.Fresh)
    (serverFresh : serverInfo.Fresh) (clientStream serverStream : UDPStream) :
    ∃ nearStart farStart view, Follows P nearStart farStart view
      ((new clientInfo serverInfo clientStream serverStream).peer sender)
      ((new clientInfo serverInfo clientStream serverStream).peer sender.other) := by
  have follows : ∀ {near far : SessionInfo} (nearStream farStream : UDPStream),
      Mirrored near far → near.Fresh → far.Fresh →
      Follows P near far ((Session.new false near).mirror P) (.established near nearStream)
        (.established far farStream) := by
    intro near far nearStream farStream mirrored nearFresh farFresh
    have talks : ∀ (info : SessionInfo) (stream : UDPStream), info.Fresh →
        Talks P info (.established info stream) := by
      intro info stream fresh
      refine ⟨rfl, rfl, .new false info 0, by simp [established, Session.new],
        ⟨rfl, rfl, rfl, rfl⟩, ?_, by simp [established, Session.new], by simp [established],
        by simp [established]⟩
      rw [show (established info stream).session.info = info from rfl, fresh.txSeq]
      exact Nat.zero_le maxSeq
    refine ⟨mirrored, talks near nearStream nearFresh, talks far farStream farFresh,
      ⟨[], by simp, rfl⟩, ⟨rfl, by simp [established, Session.new], nearFresh.txSeq,
        .new false near 0, fun _ => rfl⟩, [], 0, 0, ?_, ?_⟩
    · refine ⟨Nat.le_refl 0, Nat.zero_le 1, fun _ => rfl, ?_, ?_⟩
      · intro arq inFlight
        cases inFlight
      · intro arq inFlight
        cases inFlight
    · refine ⟨⟨_, rfl, ?_⟩, ?_, ⟨by simp, rfl⟩, .done 0, ?_, by simp [established], ?_⟩
      · have mirror : (Session.new false near).mirror P =
            { txKey := near.rxKey, rxKey := near.txKey, rxSeq := near.txSeq } := rfl
        rw [mirror, ← mirrored.txKey, ← mirrored.rxKey, nearFresh.txSeq]
        exact Session.Receiver.new false { far with rxSeq := 0 } 0
      · show SlidingWindow.Represents 64 far.rxSeq far.rxWindowBitmap []
        rw [farFresh.rxSeq, farFresh.rxWindowBitmap]
        exact .empty 64
      · exact Int.negSucc_lt_zero 0
      · exact ⟨by simp [established, Session.new], by simp [established, Session.new,
          Session.RecvRaised]⟩
  cases sender with
  | client => exact ⟨_, _, _, follows _ _ mirrored clientFresh serverFresh⟩
  | server => exact ⟨_, _, _, follows _ _ mirrored.symm serverFresh clientFresh⟩

/-- What the receiver has of the sender's messages. -/
structure UdpDelivery (P : Primitives) (sender : Side) (link : UdpLink) : Prop where
  noRaise : ¬ (link.peer sender.other).session.RecvRaised
  /-- Whole messages, in the order in which the lock admitted them. -/
  inOrder : (link.peer sender.other).session.received <+:
    (link.peer sender).session.admittedPayloads
  /-- With every call returned and every frame consumed, all messages are there, once each. -/
  complete : (link.peer sender.other).stream.readBuffer = [] →
    (∀ task, (link.peer sender).session.tasks task = none) →
      (link.peer sender.other).session.received = (link.peer sender).session.admittedPayloads ∧
      (link.peer sender.other).session.received.Perm
        ((link.peer sender).session.calls.filterMap fun call => call.2.payload?)
  /-- The receiver can go on, alone, until every frame is consumed. -/
  drains : link.Drains P sender
  /-- A frame that does not fit the buffer is not acknowledged, as if it were lost. -/
  refused : ∀ data ∈ (link.peer sender).outbox, isUtack data = false →
    (link.peer sender.other).stream.isStale (seqOf data) = false →
    (link.peer sender.other).stream.readBuffer.length + data.length > maxReadBuffer →
      (link.peer sender.other).feed P data = link.peer sender.other

theorem udp_delivery (P : Primitives) (sized : P.SizedAead) (correct : P.CorrectAead)
    (sender : Side) (clientInfo serverInfo : SessionInfo)
    (mirrored : Mirrored clientInfo serverInfo) (clientFresh : clientInfo.Fresh)
    (serverFresh : serverInfo.Fresh) (clientStream serverStream : UDPStream)
    (actions : List (Side × UdpAction)) (final : UdpLink)
    (reached : Machine.run (step P) (new clientInfo serverInfo clientStream serverStream) actions =
      some final)
    (lossy : Machine.Along (step P) (Lossy sender)
      (new clientInfo serverInfo clientStream serverStream) actions) :
    UdpDelivery P sender final := by
  rcases follows_new (P := P) sender mirrored clientFresh serverFresh clientStream serverStream
    with ⟨nearStart, farStart, view, start⟩
  have follows := Machine.run_invariant
    (fun link => Follows P nearStart farStart view (link.peer sender) (link.peer sender.other))
    (fun _ _ _ follows lossy stepped => follows_step sized correct follows lossy stepped)
    start lossy reached
  rcases follows.received sized with ⟨noRaise, inOrder, all⟩
  refine ⟨noRaise, inOrder, ?_, drains_of_follows sized correct _ follows (Nat.le_refl _), ?_⟩
  · intro empty returned
    rw [all empty returned]
    exact ⟨rfl, follows.logs.admission.perm follows.nearTalks.calls (by simp [returned])⟩
  · intro data isSent notUtack new noRoom
    exact follows.refused sized isSent notUtack new noRoom

/-- The client sends to the server. -/
def sampleStart : UdpLink :=
  new (sampleInfo 3 4) (sampleInfo 4 3) { isServer := false } { isServer := true }

/-- A frame of the client with a whole message. -/
def sampleFrame (seq : Nat) (data : Bytes) : Bytes :=
  (encryptedFrame samplePrimitives (sampleInfo 3 4 seq) 0 (.send data 0)).bytes

/-- The server's UTACK for a frame with a whole message. -/
def sampleReply (seq : Nat) : Bytes :=
  sampleStart.server.stream.buildUtack samplePrimitives PacketType.data.toNat seq

/-- Two messages.  The first copy and the first UTACK of the first one are lost, and late copies
arrive with the second one. -/
def messagesWithLoss : List (Side × UdpAction) :=
  [(.client, .call 0 (.send [9, 9]) 0), (.client, .acquire 0), (.client, .timeout 0),
    (.server, .feed (sampleFrame 0 [9, 9])), (.server, .call 0 .recv 0), (.client, .timeout 0),
    (.server, .feed (sampleFrame 0 [9, 9])), (.server, .resume 0 0),
    (.client, .feed (sampleReply 0)), (.client, .acked 0), (.client, .call 1 (.send []) 0),
    (.client, .acquire 1), (.server, .feed (sampleFrame 0 [9, 9])),
    (.server, .feed (sampleFrame 1 [])), (.client, .feed (sampleReply 0)),
    (.server, .feed (sampleFrame 1 [])), (.client, .feed (sampleReply 1)), (.client, .acked 0),
    (.server, .call 1 .recv 0), (.server, .resume 1 0), (.server, .resume 1 0),
    (.server, .resume 1 0)]

theorem udp_delivery_messagesWithLoss :
    ∃ final,
      Machine.run (step samplePrimitives) sampleStart messagesWithLoss = some final ∧
        final.server.session.received = [[9, 9], []] ∧
        UdpDelivery samplePrimitives .client final := by
  rcases Machine.exists_run (step samplePrimitives) sampleStart messagesWithLoss
    (fun final => final.server.session.received = [[9, 9], []]) (by decide +kernel) with
    ⟨final, reached, received⟩
  refine ⟨final, reached, received, ?_⟩
  exact udp_delivery samplePrimitives samplePrimitives_sized samplePrimitives_correct .client
    (sampleInfo 3 4) (sampleInfo 4 3) ⟨rfl, rfl, rfl, rfl, rfl, rfl⟩ ⟨rfl, rfl, rfl⟩
    ⟨rfl, rfl, rfl⟩ _ _ messagesWithLoss final reached (by decide +kernel)

end UdpLink

end Usmp
