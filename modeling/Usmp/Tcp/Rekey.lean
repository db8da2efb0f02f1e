import Usmp.Tcp.Act
import Usmp.Sample
import Mathlib.Tactic.MkIffOfInductiveProp

/-!
# Rotating the keys of a live connection

`rekey` announces a rotation under the old keys and performs it when its write
returned; the peer performs it when its `recv` gets to the announcement.  In between
the two ends have different keys in both directions.  This module has the condition
under which that does no harm, and what holds of every run that meets it.
-/

namespace Usmp

def Locked.isRekey : Locked → Bool
  | .rekey _ => true
  | _ => false

theorem Locked.frame_rekey {locked : Locked} : locked.frame.1 = .rekey ↔ locked.isRekey = true := by
  cases locked with
  | send data offset =>
      simp only [frame, isRekey, Bool.false_eq_true, iff_false]
      split <;> simp
  | ping | rekey salt | bye | pong locals => simp [frame, isRekey]

theorem Session.isSome_rekeying_of_holder {session : Session} {locked : Locked}
    (held : session.holder = some locked) :
    session.rekeying.isSome = locked.isRekey := by
  cases locked <;> simp [rekeying, held, Locked.isRekey]

namespace TcpPeer

/-- Nothing that `near` wrote is still on its way to `far`. -/
def Arrived (near far : TcpPeer) : Prop :=
  near.outgoing = [] ∧ far.buffer = [] ∧ far.session.takenHeader = none

instance (near far : TcpPeer) : Decidable (Arrived near far) :=
  inferInstanceAs (Decidable (_ ∧ _ ∧ _))

/-- The condition on a step of `near` that the two directions need to stay together. -/
structure InStep (near far : TcpPeer) (action : TcpAction) : Prop where
  undisturbed : near.Undisturbed action
  unspent : (near.aboutToSend action).isSome → near.session.info.txSeq < maxSeq
  /-- It sends nothing under keys that the other end has given up. -/
  caughtUp : (near.aboutToSend action).isSome →
    far.session.epochs.length ≤ near.session.epochs.length
  /-- Two rotations do not cross. -/
  alone : (near.aboutToSend action).any Locked.isRekey → far.session.rekeying = none
  /-- The first of the two ends to change its keys does so when nothing is on its way
  from the end that did not ask for it, nor half sent. -/
  rotatesFirst : near.rotates action = true →
    far.session.epochs.length ≤ near.session.epochs.length →
    Arrived far near ∧ far.session.midMessage = false
  readsFirst : near.readsNext action = some .rekey →
    far.session.epochs.length ≤ near.session.epochs.length →
    Arrived near far ∧ near.session.midMessage = false
  /-- An end whose rotation the other has performed reads after performing it too. -/
  waits : near.session.rekeying.isSome →
    near.session.epochs.length < far.session.epochs.length → near.readsNext action = none

/-- The condition on a step of `near` under which a rotation disturbs nothing. -/
@[mk_iff]
structure InTurn (near far : TcpPeer) (action : TcpAction) : Prop where
  undisturbed : near.Undisturbed action
  unspent : (near.aboutToSend action).isSome → near.session.info.txSeq < maxSeq
  caughtUp : (near.aboutToSend action).isSome →
    far.session.epochs.length ≤ near.session.epochs.length
  alone : (near.aboutToSend action).any Locked.isRekey → far.session.rekeying = none
  /-- The end that asked for a rotation performs it when nothing is on its way from the other
  end, nor half sent. -/
  settled : near.rotates action = true → Arrived far near ∧ far.session.midMessage = false
  /-- The other end reads of the rotation after it was performed. -/
  readsLater : near.readsNext action = some .rekey →
    near.session.epochs.length < far.session.epochs.length

instance (near far : TcpPeer) (action : TcpAction) : Decidable (near.InTurn far action) :=
  decidable_of_iff' _ (inTurn_iff near far action)

/-- The other end has not performed a rotation that this end has announced and not performed. -/
def NotAhead (near far : TcpPeer) : Prop :=
  near.session.rekeying.isSome → far.session.epochs.length ≤ near.session.epochs.length

theorem InTurn.inStep {near far : TcpPeer} {action : TcpAction} (inTurn : near.InTurn far action)
    (notAhead : NotAhead near far) : near.InStep far action := by
  refine ⟨inTurn.undisturbed, inTurn.unspent, inTurn.caughtUp, inTurn.alone,
    fun rotates _ => inTurn.settled rotates, ?_, ?_⟩
  · intro reads first
    exact absurd (inTurn.readsLater reads) (Nat.not_lt.mpr first)
  · intro announced behind
    exact absurd (notAhead announced) (Nat.not_le.mpr behind)

end TcpPeer

namespace TcpLink

/-- The condition along a run: every end acts in turn. -/
def InTurn (link : TcpLink) : LinkAction → Prop
  | .act side action => (link.peer side).InTurn (link.peer side.other) action
  | .transfer _ _ | .hangUp _ => True

instance (link : TcpLink) : (action : LinkAction) → Decidable (link.InTurn action)
  | .act side action =>
      inferInstanceAs (Decidable ((link.peer side).InTurn (link.peer side.other) action))
  | .transfer _ _ | .hangUp _ => isTrue trivial

end TcpLink

/-! ## The invariant -/

/-- The number of rotations that frames announce. -/
def rotationsIn (frames : List SentFrame) : Nat :=
  frames.countP fun sent => sent.type = .rekey

theorem rotationsIn_nil : rotationsIn [] = 0 := rfl

theorem rotationsIn_append (left right : List SentFrame) :
    rotationsIn (left ++ right) = rotationsIn left + rotationsIn right :=
  List.countP_append

theorem rotationsIn_cons (sent : SentFrame) (rest : List SentFrame) :
    rotationsIn (sent :: rest) = rotationsIn rest + if sent.type = .rekey then 1 else 0 := by
  simp [rotationsIn, List.countP_cons]

theorem rotationsIn_eq_zero {frames : List SentFrame} :
    rotationsIn frames = 0 ↔ ∀ sent ∈ frames, sent.type ≠ .rekey := by
  simp [rotationsIn, List.countP_eq_zero]

/-- A view between messages, spelled out. -/
theorem View.eq_of_between {view : View} (tidy : view.Tidy) (between : view.fragments = 0)
    (payloads : List Bytes) (messages : view.messages = payloads) :
    view = { txKey := view.txKey, rxKey := view.rxKey, rxSeq := view.rxSeq,
             messages := payloads } := by
  obtain ⟨txKey, rxKey, rxSeq, assembled, fragments, messages'⟩ := view
  cases between
  cases messages
  cases tidy rfl
  rfl

namespace TcpLink

variable {P : Primitives} {sessionId : FixedBytes usmpSessionIdLen} {suite : CipherSuite}

/-- How the view `back` that the leader has of the follower's frames stands to the
follower, while the leader may be rotating the keys. -/
inductive Answered (P : Primitives) (sessionId : FixedBytes usmpSessionIdLen)
    (leader follower : Session) (back : View) (pending : List SentFrame) : Prop where
  /-- Both ends have performed the same rotations. -/
  | even (epochs : leader.epochs.length = follower.epochs.length)
      (replayed : back.replay P sessionId pending = some (follower.mirror P))
  /-- The follower has performed the rotation that the leader is about to perform. -/
  | ahead (salt : FixedBytes 32) (announced : leader.rekeying = some salt)
      (epochs : leader.epochs.length + 1 = follower.epochs.length)
      (between : back.fragments = 0)
      (replayed : ({ back with
          txKey := (initiatorKeys P leader.info salt).1
          rxKey := (initiatorKeys P leader.info salt).2
          rxSeq := 0 } : View).replay P sessionId pending = some (follower.mirror P))
  /-- The leader has performed rotations whose announcements are on their way. -/
  | behind (epochs : follower.epochs.length < leader.epochs.length) (nothing : pending = [])
      (between : back.fragments = 0) (start : back.rxSeq = 0)
      (messages : back.messages = follower.admittedPayloads)
      (whole : follower.midMessage = false)

/-- The two directions while `leader` may rotate the keys. -/
structure Leads (P : Primitives) (sessionId : FixedBytes usmpSessionIdLen)
    (suite : CipherSuite) (leader follower : TcpPeer) (view : View) (header : Option Bytes)
    (pending : List SentFrame) (back : View) (backHeader : Option Bytes)
    (backPending : List SentFrame) : Prop where
  leaderSound : TcpPeer.Sound sessionId suite leader
  followerSound : TcpPeer.Sound sessionId suite follower
  flow : Flow P sessionId suite leader follower view header pending
  replayed : view.replay P sessionId pending = some (leader.session.mirror P)
  counted : leader.session.epochs.length + (if leader.session.rekeying.isSome then 1 else 0) =
    follower.session.epochs.length + rotationsIn pending
  announced : leader.session.rekeying.isSome → pending = [] ∨
    ∃ earlier last base, pending = earlier ++ [last] ∧ last.type = .rekey ∧
      view.replay P sessionId earlier = some base ∧
      base.txKey = leader.session.info.rxKey ∧ base.rxKey = leader.session.info.txKey
  backFlow : Flow P sessionId suite follower leader back backHeader backPending
  answered : Answered P sessionId leader.session follower.session back backPending
  quiet : follower.session.rekeying = none
  noRekey : rotationsIn backPending = 0

/-- One of the ends leads. -/
def Led (P : Primitives) (sessionId : FixedBytes usmpSessionIdLen) (suite : CipherSuite)
    (leader follower : TcpPeer) : Prop :=
  ∃ view header pending back backHeader backPending,
    Leads P sessionId suite leader follower view header pending back backHeader backPending

variable {leader leader' follower follower' : TcpPeer} {view back : View}
  {header backHeader : Option Bytes} {pending backPending : List SentFrame}

/-- When every rotation is over, the ends can change places. -/
theorem Leads.swap
    (leads : Leads P sessionId suite leader follower view header pending back backHeader
      backPending)
    (settled : leader.session.rekeying = none)
    (even : leader.session.epochs.length ≤ follower.session.epochs.length) :
    Leads P sessionId suite follower leader back backHeader backPending view header pending := by
  have counted := leads.counted
  simp only [settled, Option.isSome_none, Bool.false_eq_true, if_false] at counted
  cases leads.answered with
  | even epochs replayed =>
      exact ⟨leads.followerSound, leads.leaderSound, leads.backFlow, replayed,
        by simp [leads.quiet, leads.noRekey, epochs], by simp [leads.quiet], leads.flow,
        .even epochs.symm leads.replayed, settled, by omega⟩
  | ahead salt announced =>
      rw [settled] at announced
      cases announced
  | behind epochs => omega

/-- The leader's own step without a read: what it does to the frames on their way back. -/
theorem Answered.congr (answered : Answered P sessionId leader.session follower.session back
      backPending)
    (epochs : leader'.session.epochs.length = leader.session.epochs.length)
    (keys : SameKeys leader.session.info leader'.session.info)
    (rekeying : leader'.session.rekeying = leader.session.rekeying) :
    Answered P sessionId leader'.session follower.session back backPending := by
  cases answered with
  | even even replayed => exact .even (epochs.trans even) replayed
  | ahead salt announced isAhead between replayed =>
      refine .ahead salt (rekeying.trans announced) (by rw [epochs, isAhead]) between ?_
      have sameKeys : initiatorKeys P leader'.session.info salt =
          initiatorKeys P leader.session.info salt := by
        simp only [initiatorKeys, keys.txKey, keys.rxKey, keys.sessionId]
      rwa [sameKeys]
  | behind isBehind nothing between start messages whole =>
      exact .behind (by rwa [epochs]) nothing between start messages whole

/-- A step of the end that leads. -/
theorem Leads.leaderStep (sized : P.SizedAead) (correct : P.CorrectAead)
    {action : TcpAction}
    (leads : Leads P sessionId suite leader follower view header pending back backHeader
      backPending)
    (inStep : leader.InStep follower action)
    (act : TcpPeer.Act P sessionId suite leader leader' action) :
    Led P sessionId suite leader' follower := by
  cases act with
  | idle sound epochs keys mirror rekeying whole payloads outgoing incoming =>
      obtain ⟨backHeader', backFlow⟩ := incoming _ _ _ _ leads.backFlow
      have flow := leads.flow.still outgoing
      exact ⟨view, header, pending, back, backHeader', backPending, sound, leads.followerSound,
        flow, by rw [mirror, leads.replayed], by rw [epochs, rekeying, leads.counted],
        by simpa only [rekeying, keys.txKey, keys.rxKey] using leads.announced, backFlow,
        leads.answered.congr (by rw [epochs]) keys rekeying, leads.quiet, leads.noRekey⟩
  | wrote sound task locked sending quiet epochs info holder accepted outgoing genuine isPlain
      incoming =>
      obtain ⟨backHeader', backFlow⟩ := incoming _ _ _ _ leads.backFlow
      have flow := leads.flow.append outgoing (by simpa using ⟨genuine, isPlain.frame⟩)
      have replayed : view.replay P sessionId
          (pending ++ [encryptedFrame P leader.session.info task locked]) =
            some (leader'.session.mirror P) :=
        Machine.run_append_some.mpr
          ⟨_, leads.replayed, Machine.run_cons_some.mpr ⟨_, accepted, rfl⟩⟩
      have isRekey := Session.isSome_rekeying_of_holder holder
      have type : (encryptedFrame P leader.session.info task locked).type = .rekey ↔
          locked.isRekey = true := Locked.frame_rekey
      refine ⟨view, header, _, back, backHeader', backPending, sound, leads.followerSound, flow,
        replayed, ?_, ?_, backFlow, ?_, leads.quiet, leads.noRekey⟩
      · have counted := leads.counted
        simp only [quiet, Option.isSome_none, Bool.false_eq_true, if_false] at counted
        rw [epochs, isRekey, rotationsIn_append, rotationsIn_cons]
        simp only [type, rotationsIn_nil]
        omega
      · intro some
        rw [isRekey] at some
        obtain ⟨txKey, rxKey, _⟩ := Session.mirror_keys (P := P) quiet
        rw [info]
        exact .inr ⟨pending, _, _, rfl, type.mpr some, leads.replayed, txKey, rxKey⟩
      · cases leads.answered with
        | even even replayed => exact .even (by rw [epochs, even]) replayed
        | ahead salt announced =>
            rw [quiet] at announced
            cases announced
        | behind isBehind nothing between start messages whole =>
            exact .behind (by rwa [epochs]) nothing between start messages whole
  | rotated sound salt rotates announced epochs info free payloads outgoing incoming =>
      have flow := leads.flow.still outgoing
      have mirror : leader'.session.mirror P = leader.session.mirror P := by
        rw [Session.mirror_rekeying announced, Session.mirror, free, info, payloads]
        rfl
      have quiet := Session.rekeying_of_free free
      have counted := leads.counted
      simp only [announced, Option.isSome_some, if_true] at counted
      have first : leader.session.epochs.length = follower.session.epochs.length →
          backPending = [] ∧ follower.session.midMessage = false := by
        intro even
        obtain ⟨⟨noOutgoing, noBuffer, noHeader⟩, whole⟩ := inStep.rotatesFirst rotates (by omega)
        rw [leads.backFlow.receiver.takenHeader leads.leaderSound.calls] at noHeader
        exact ⟨leads.backFlow.pending_eq_nil.mpr ⟨noHeader, noBuffer, noOutgoing⟩, whole⟩
      have lengths : leader'.session.epochs.length = leader.session.epochs.length + 1 := by
        simp [epochs]
      have between : back.fragments = 0 := by
        cases leads.answered with
        | even even replayed =>
            obtain ⟨rfl, whole⟩ := first even
            cases replayed
            exact Session.mirror_fragments.mpr whole
        | ahead _ _ _ between => exact between
        | behind _ _ between => exact between
      refine ⟨view, header, pending, _, backHeader, backPending, sound, leads.followerSound, flow,
        by rw [mirror, leads.replayed], ?_, by simp [quiet],
        incoming _ _ _ _ between leads.backFlow, ?_, leads.quiet, leads.noRekey⟩
      · simp only [quiet, lengths, Option.isSome_none, Bool.false_eq_true, if_false]
        omega
      · cases leads.answered with
        | even even replayed =>
            obtain ⟨rfl, whole⟩ := first even
            cases replayed
            refine .behind (by omega) rfl between rfl ?_ whole
            rw [Session.mirror_whole leads.quiet whole]
            rfl
        | ahead salt' announced' isAhead between replayed =>
            rw [announced] at announced'
            cases announced'
            exact .even (by omega) replayed
        | behind isBehind nothing between start messages whole =>
            exact .behind (by omega) nothing between rfl messages whole
  | read task result now base fate effects isResume moved sound holder payloads outgoing =>
      obtain ⟨sent, rest, locals, isPending, reading, finished, isResult, _⟩ :=
        leads.backFlow.next sized leads.leaderSound moved
      have reads : leader.readsNext action = some sent.type := by
        simp [isResume, TcpPeer.readsNext, reading, finished, isResult, sentFrame]
      cases leads.answered with
      | even even replayed =>
          obtain ⟨sent, rest, next, rfl, _, accepted, restReplayed, backFlow, _, epochs, turns⟩ :=
            leads.backFlow.read sized correct leads.leaderSound moved replayed
          have noRekey := rotationsIn_eq_zero.mp leads.noRekey
          have notRekey := noRekey sent List.mem_cons_self
          rw [if_neg notRekey, List.append_nil] at epochs
          have keys := moved.read_sameKeys epochs
          have sameEpochs : leader'.session.epochs = leader.session.epochs := by
            rw [moved.session]
            simpa using epochs
          have mirror : leader'.session.mirror P = leader.session.mirror P := by
            rw [Session.mirror, Session.mirror, holder, payloads]
            exact mirrorOf_congr keys _ _
          have rekeying : leader'.session.rekeying = leader.session.rekeying := by
            rw [Session.rekeying, Session.rekeying, holder]
          have flow := leads.flow.still outgoing
          refine ⟨view, header, pending, next, none, rest, sound turns, leads.followerSound, flow,
            by rw [mirror, leads.replayed], by rw [sameEpochs, rekeying, leads.counted],
            by simpa only [rekeying, keys.txKey, keys.rxKey] using leads.announced, backFlow,
            .even (by rw [sameEpochs, even]) restReplayed, leads.quiet, ?_⟩
          exact rotationsIn_eq_zero.mpr fun other member =>
            noRekey other (List.mem_cons_of_mem _ member)
      | ahead salt announced isAhead =>
          rw [inStep.waits (by simp [announced]) (by omega)] at reads
          cases reads
      | behind isBehind nothing =>
          rw [nothing] at isPending
          cases isPending

/-- The part of the leader's announcement that is still on its way after one frame. -/
theorem Leads.announced_rest {sent : SentFrame} {rest : List SentFrame} {next : View}
    (leads : Leads P sessionId suite leader follower view header (sent :: rest) back backHeader
      backPending)
    (accepted : view.accept P sessionId sent = some next)
    (isSome : leader.session.rekeying.isSome) :
    (rest = [] ∧ sent.type = .rekey) ∨
      ∃ earlier last base, rest = earlier ++ [last] ∧ last.type = .rekey ∧
        next.replay P sessionId earlier = some base ∧
        base.txKey = leader.session.info.rxKey ∧ base.rxKey = leader.session.info.txKey := by
  rcases leads.announced isSome with empty | ⟨earlier, last, base, split, isRekey, replayed, keys⟩
  · cases empty
  · cases earlier with
    | nil =>
        cases split
        exact .inl ⟨rfl, isRekey⟩
    | cons first earlier =>
        cases split
        obtain ⟨next', accepted', restReplayed⟩ := Machine.run_cons_some.mp replayed
        rw [accepted] at accepted'
        cases accepted'
        exact .inr ⟨earlier, last, base, rfl, isRekey, restReplayed, keys⟩

/-- The follower reads the announcement of a rotation. -/
theorem Leads.readRekey {sent : SentFrame} {rest : List SentFrame} {next : View}
    {keys : Key × Key}
    (leads : Leads P sessionId suite leader follower view header (sent :: rest) back backHeader
      backPending)
    (isRekey : sent.type = .rekey) (accepted : view.accept P sessionId sent = some next)
    (replayed : next.replay P sessionId rest = some (leader.session.mirror P))
    (first : leader.session.epochs.length ≤ follower.session.epochs.length →
      backPending = [] ∧ follower.session.midMessage = false)
    (sound : TcpPeer.Sound sessionId suite follower')
    (flow : Flow P sessionId suite leader follower' next none rest)
    (epochs : follower'.session.epochs = follower.session.epochs ++ [keys])
    (txSeq : follower'.session.info.txSeq = 0)
    (holder : follower'.session.holder = follower.session.holder)
    (payloads : follower'.session.admittedPayloads = follower.session.admittedPayloads)
    (outgoing : follower'.outgoing = follower.outgoing) :
    Led P sessionId suite leader follower' := by
  have quiet : follower'.session.rekeying = none := by
    rw [Session.rekeying, holder]
    exact leads.quiet
  have lengths : follower'.session.epochs.length = follower.session.epochs.length + 1 := by
    simp [epochs]
  have backFlow := leads.backFlow.still outgoing
  have counted := leads.counted
  rw [rotationsIn_cons, if_pos isRekey] at counted
  have whole : follower.session.midMessage = false := by
    cases leads.answered with
    | even even => exact (first (by omega)).2
    | ahead salt announced isAhead =>
        simp only [announced, Option.isSome_some, if_true] at counted
        omega
    | behind _ _ _ _ _ whole => exact whole
  have mirror : follower'.session.mirror P =
      { txKey := next.rxKey, rxKey := next.txKey, rxSeq := 0,
        messages := follower.session.admittedPayloads } := by
    have whole' : follower'.session.midMessage = false := by
      rw [Session.midMessage, holder]
      exact whole
    rw [Session.mirror_whole quiet whole', payloads]
    simp only [mirrorOf, flow.receiver.matched.txKey, flow.receiver.matched.rxKey, txSeq]
  refine ⟨next, none, rest, back, backHeader, backPending, leads.leaderSound, sound, flow,
    replayed, by omega, fun some => ?_, backFlow, ?_, quiet, leads.noRekey⟩
  · rcases leads.announced_rest accepted some with ⟨rfl, _⟩ | later
    · exact .inl rfl
    · exact .inr later
  cases leads.answered with
  | even even backReplayed =>
      -- the leader is still writing the announcement that was just read
      obtain ⟨salt, announced⟩ : ∃ salt, leader.session.rekeying = some salt := by
        rw [← Option.isSome_iff_exists]
        by_contra none
        simp only [none, if_false] at counted
        omega
      simp only [announced, Option.isSome_some, if_true] at counted
      obtain ⟨rfl, _⟩ := first (by omega)
      have isLast : rest = [] := by
        rcases leads.announced_rest accepted (by simp [announced]) with
          ⟨isLast, _⟩ | ⟨earlier, last, _, rfl, lastRekey, _⟩
        · exact isLast
        · rw [rotationsIn_append, rotationsIn_cons, if_pos lastRekey] at counted
          omega
      subst isLast
      cases backReplayed
      have between : (follower.session.mirror P).fragments = 0 :=
        Session.mirror_fragments.mpr whole
      refine .ahead salt announced (by omega) between ?_
      have isNext : next = leader.session.mirror P := Option.some.inj replayed
      rw [View.replay, Machine.run_nil, mirror, isNext, Session.mirror_rekeying announced,
        Session.mirror_whole leads.quiet whole]
      rfl
  | ahead salt announced isAhead =>
      simp only [announced, Option.isSome_some, if_true] at counted
      omega
  | behind isBehind nothing between start messages _ =>
      subst nothing
      by_cases last : follower.session.epochs.length + 1 = leader.session.epochs.length
      · refine .even (by omega) ?_
        have keys : next.txKey = leader.session.info.rxKey ∧
            next.rxKey = leader.session.info.txKey := by
          cases announced : leader.session.rekeying with
          | none =>
              simp only [announced, Option.isSome_none, Bool.false_eq_true, if_false] at counted
              have same := View.replay_keys (rotationsIn_eq_zero.mp (by omega)) replayed
              obtain ⟨txKey, rxKey, _⟩ := Session.mirror_keys (P := P) announced
              exact ⟨same.1.symm.trans txKey, same.2.symm.trans rxKey⟩
          | some salt =>
              simp only [announced, Option.isSome_some, if_true] at counted
              rcases leads.announced_rest accepted (by simp [announced]) with
                ⟨rfl, _⟩ | ⟨earlier, lastSent, base, rfl, lastRekey, baseReplayed, txKey, rxKey⟩
              · rw [rotationsIn_nil] at counted
                omega
              · rw [rotationsIn_append, rotationsIn_cons, if_pos lastRekey, rotationsIn_nil]
                  at counted
                have same := View.replay_keys (rotationsIn_eq_zero.mp (by omega)) baseReplayed
                exact ⟨same.1.symm.trans txKey, same.2.symm.trans rxKey⟩
        have matched := leads.backFlow.receiver.matched
        rw [View.replay, Machine.run_nil, mirror,
          View.eq_of_between leads.backFlow.receiver.tidy between _ messages, start,
          ← matched.txKey, ← matched.rxKey, keys.1, keys.2]
      · exact .behind (by omega) rfl between start (by rw [messages, payloads])
          (by rw [Session.midMessage, holder]; exact whole)

/-- A step of the end that follows, which announces no rotation. -/
theorem Leads.followerStep (sized : P.SizedAead) (correct : P.CorrectAead)
    {action : TcpAction}
    (leads : Leads P sessionId suite leader follower view header pending back backHeader
      backPending)
    (inStep : follower.InStep leader action)
    (act : TcpPeer.Act P sessionId suite follower follower' action)
    (notRekey : (follower.aboutToSend action).any Locked.isRekey = false) :
    Led P sessionId suite leader follower' := by
  cases act with
  | idle sound epochs keys mirror rekeying whole payloads outgoing incoming =>
      obtain ⟨header', flow⟩ := incoming _ _ _ _ leads.flow
      have backFlow := leads.backFlow.still outgoing
      refine ⟨view, header', pending, back, backHeader, backPending, leads.leaderSound, sound,
        flow, leads.replayed, by rw [epochs, leads.counted], leads.announced, backFlow, ?_,
        by rw [rekeying, leads.quiet], leads.noRekey⟩
      cases leads.answered with
      | even even replayed => exact .even (by rw [epochs, even]) (by rw [mirror, replayed])
      | ahead salt announced isAhead between replayed =>
          exact .ahead salt announced (by rw [epochs, isAhead]) between (by rw [mirror, replayed])
      | behind isBehind nothing between start messages isWhole =>
          exact .behind (by rwa [epochs]) nothing between start (by rw [messages, payloads])
            (by rw [whole, isWhole])
  | wrote sound task locked sending quiet epochs info holder accepted outgoing genuine isPlain
      incoming =>
      obtain ⟨header', flow⟩ := incoming _ _ _ _ leads.flow
      have backFlow := leads.backFlow.append outgoing (by simpa using ⟨genuine, isPlain.frame⟩)
      have replayed : ∀ {start : View},
          start.replay P sessionId backPending = some (follower.session.mirror P) →
          start.replay P sessionId
            (backPending ++ [encryptedFrame P follower.session.info task locked]) =
              some (follower'.session.mirror P) :=
        fun replayed => Machine.run_append_some.mpr
          ⟨_, replayed, Machine.run_cons_some.mpr ⟨_, accepted, rfl⟩⟩
      have caughtUp := inStep.caughtUp (by simp [sending])
      rw [sending, Option.any_some] at notRekey
      have type : (encryptedFrame P follower.session.info task locked).type ≠ .rekey := by
        intro isRekey
        rw [Locked.frame_rekey.mp isRekey] at notRekey
        cases notRekey
      refine ⟨view, header', pending, back, backHeader, _, leads.leaderSound, sound, flow,
        leads.replayed, by rw [epochs, leads.counted], leads.announced, backFlow, ?_, ?_, ?_⟩
      · cases leads.answered with
        | even even back => exact .even (by rw [epochs, even]) (replayed back)
        | ahead salt announced isAhead between back =>
            exact .ahead salt announced (by rw [epochs, isAhead]) between (replayed back)
        | behind isBehind => omega
      · have isSome := Session.isSome_rekeying_of_holder holder
        rw [notRekey] at isSome
        simpa using isSome
      · rw [rotationsIn_append, rotationsIn_cons, if_neg type, leads.noRekey]
        rfl
  | rotated sound salt rotates announced =>
      rw [leads.quiet] at announced
      cases announced
  | read task result now base fate effects isResume moved sound holder payloads outgoing =>
      obtain ⟨sent, rest, next, rfl, reads, accepted, restReplayed, flow, txSeq, epochs, turns⟩ :=
        leads.flow.read sized correct leads.followerSound moved leads.replayed
      rw [← isResume] at reads
      have epochsAfter : follower'.session.epochs = base.epochs := by
        rw [moved.session]
        simp
      by_cases isRekey : sent.type = .rekey
      · rw [if_pos isRekey] at epochs txSeq
        refine leads.readRekey isRekey accepted restReplayed ?_ (sound turns) flow
          (epochsAfter.trans epochs) ?_ holder payloads outgoing
        · intro first
          rw [isRekey] at reads
          obtain ⟨⟨noOutgoing, noBuffer, noHeader⟩, whole⟩ := inStep.readsFirst reads first
          rw [leads.backFlow.receiver.takenHeader leads.leaderSound.calls] at noHeader
          exact ⟨leads.backFlow.pending_eq_nil.mpr ⟨noHeader, noBuffer, noOutgoing⟩, whole⟩
        · rw [moved.session]
          simpa using txSeq
      · rw [if_neg isRekey, List.append_nil] at epochs
        have keys := moved.read_sameKeys epochs
        have mirror : follower'.session.mirror P = follower.session.mirror P := by
          rw [Session.mirror, Session.mirror, holder, payloads]
          exact mirrorOf_congr keys _ _
        have backFlow := leads.backFlow.still outgoing
        have counted := leads.counted
        rw [rotationsIn_cons, if_neg isRekey] at counted
        refine ⟨next, none, rest, back, backHeader, backPending, leads.leaderSound, sound turns,
          flow, restReplayed, by rw [epochsAfter, epochs]; exact counted, fun some => ?_,
          backFlow, ?_, ?_, leads.noRekey⟩
        · rcases leads.announced_rest accepted some with ⟨_, impossible⟩ | later
          · exact absurd impossible isRekey
          · exact .inr later
        · cases leads.answered with
          | even even replayed =>
              exact .even (by rw [epochsAfter, epochs, even]) (by rw [mirror, replayed])
          | ahead salt announced isAhead between replayed =>
              exact .ahead salt announced (by rw [epochsAfter, epochs, isAhead]) between
                (by rw [mirror, replayed])
          | behind isBehind nothing between start messages isWhole =>
              exact .behind (by rwa [epochsAfter, epochs]) nothing between start
                (by rw [messages, payloads]) (by rw [Session.midMessage, holder]; exact isWhole)
        · rw [Session.rekeying, holder]
          exact leads.quiet

/-! ## Runs -/

/-- What one end has of the messages of the other. -/
structure Delivered (near far : TcpPeer) : Prop where
  noRaise : ¬ far.session.RecvRaised
  inOrder : far.session.received <+: near.session.admittedPayloads
  complete : TcpPeer.Arrived near far → near.session.completedSends <+: far.session.received

/-- Every completed message is returned once and in order, no `recv` raises, and the ends
mirror each other whenever nothing is on its way. -/
structure FullDuplex (link : TcpLink) : Prop where
  delivered : ∀ side, Delivered (link.peer side) (link.peer side.other)
  mirrored : (∀ side, TcpPeer.Arrived (link.peer side) (link.peer side.other)) →
    Mirrored link.client.session.info link.server.session.info

/-- A flow on which the sender's mirror is known delivers. -/
theorem delivered_of_flow {near far : TcpPeer} (start : View)
    (nearSound : TcpPeer.Sound sessionId suite near) (farSound : TcpPeer.Sound sessionId suite far)
    (flow : Flow P sessionId suite near far view header pending)
    (replayed : start.replay P sessionId pending = some (near.session.mirror P))
    (messages : start.messages = view.messages) : Delivered near far := by
  refine ⟨farSound.results.noFault, ?_, ?_⟩
  · rw [flow.receiver.messages, ← messages]
    exact (View.replay_messages replayed).trans (Session.mirror_messages _)
  · rintro ⟨noOutgoing, noBuffer, noHeader⟩
    rw [flow.receiver.takenHeader farSound.calls] at noHeader
    rw [flow.pending_eq_nil.mpr ⟨noHeader, noBuffer, noOutgoing⟩] at replayed
    cases replayed
    rw [flow.receiver.messages, ← messages]
    exact nearSound.results.completed_prefix

theorem Leads.delivered
    (leads : Leads P sessionId suite leader follower view header pending back backHeader
      backPending) :
    Delivered leader follower ∧ Delivered follower leader := by
  have onward : Delivered leader follower :=
    delivered_of_flow view leads.leaderSound leads.followerSound leads.flow leads.replayed rfl
  refine ⟨onward, ?_⟩
  cases leads.answered with
  | even even replayed =>
      exact delivered_of_flow back leads.followerSound leads.leaderSound leads.backFlow replayed rfl
  | ahead salt announced isAhead between replayed =>
      exact delivered_of_flow _ leads.followerSound leads.leaderSound leads.backFlow replayed rfl
  | behind isBehind nothing between start messages whole =>
      refine ⟨leads.leaderSound.results.noFault, ?_, fun _ => ?_⟩
      · simp [leads.backFlow.receiver.messages, messages]
      · rw [leads.backFlow.receiver.messages, messages]
        exact (leads.followerSound.results.completed_prefix (P := P)).trans
          (Session.mirror_messages _)

/-- When all that the leader wrote has arrived and the follower is not ahead, no rotation is
going on: its announcement would be on its way. -/
theorem Leads.settled
    (leads : Leads P sessionId suite leader follower view header pending back backHeader
      backPending)
    (arrived : TcpPeer.Arrived leader follower) (notAhead : TcpPeer.NotAhead leader follower) :
    leader.session.rekeying = none := by
  obtain ⟨noOutgoing, noBuffer, noHeader⟩ := arrived
  rw [leads.flow.receiver.takenHeader leads.followerSound.calls] at noHeader
  obtain rfl := leads.flow.pending_eq_nil.mpr ⟨noHeader, noBuffer, noOutgoing⟩
  have counted := leads.counted
  cases announced : leader.session.rekeying with
  | none => rfl
  | some salt =>
      have bound := notAhead (by simp [announced])
      simp only [announced, Option.isSome_some, if_true, rotationsIn_nil] at counted
      omega

theorem Leads.mirrored
    (leads : Leads P sessionId suite leader follower view header pending back backHeader
      backPending)
    (arrived : TcpPeer.Arrived leader follower) (backArrived : TcpPeer.Arrived follower leader)
    (settled : leader.session.rekeying = none) :
    Mirrored leader.session.info follower.session.info := by
  obtain ⟨noOutgoing, noBuffer, noHeader⟩ := arrived
  rw [leads.flow.receiver.takenHeader leads.followerSound.calls] at noHeader
  obtain rfl := leads.flow.pending_eq_nil.mpr ⟨noHeader, noBuffer, noOutgoing⟩
  obtain ⟨noOutgoing, noBuffer, noHeader⟩ := backArrived
  rw [leads.backFlow.receiver.takenHeader leads.leaderSound.calls] at noHeader
  obtain rfl := leads.backFlow.pending_eq_nil.mpr ⟨noHeader, noBuffer, noOutgoing⟩
  have counted := leads.counted
  simp only [settled, Option.isSome_none, Bool.false_eq_true, if_false, rotationsIn_nil] at counted
  have forward := leads.replayed
  cases forward
  have toFollower := leads.flow.receiver.matched
  have toLeader := leads.backFlow.receiver.matched
  obtain ⟨txKey, rxKey, rxSeq⟩ := Session.mirror_keys (P := P) settled
  obtain ⟨_, _, backSeq⟩ := Session.mirror_keys (P := P) leads.quiet
  cases leads.answered with
  | even even replayed =>
      cases replayed
      exact ⟨leads.followerSound.sessionId.trans leads.leaderSound.sessionId.symm,
        leads.followerSound.suite.trans leads.leaderSound.suite.symm,
        toFollower.txKey.trans txKey, toFollower.rxKey.trans rxKey,
        (toLeader.rxSeq.trans backSeq).symm, toFollower.rxSeq.trans rxSeq⟩
  | ahead salt announced =>
      rw [settled] at announced
      cases announced
  | behind isBehind => omega

/-- One of the ends leads. -/
def Coordinated (P : Primitives) (sessionId : FixedBytes usmpSessionIdLen) (suite : CipherSuite)
    (link : TcpLink) : Prop :=
  ∃ side, Led P sessionId suite (link.peer side) (link.peer side.other)

theorem Coordinated.fullDuplex {link : TcpLink}
    (coordinated : Coordinated P sessionId suite link)
    (notAhead : ∀ side, TcpPeer.NotAhead (link.peer side) (link.peer side.other)) :
    FullDuplex link := by
  obtain ⟨leading, _, _, _, _, _, _, leads⟩ := coordinated
  obtain ⟨forth, back⟩ := leads.delivered
  constructor
  · intro side
    cases leading <;> cases side <;> assumption
  · intro arrived
    have mirrored := leads.mirrored (arrived leading) (by simpa using arrived leading.other)
      (leads.settled (arrived leading) (notAhead leading))
    cases leading with
    | client => exact mirrored
    | server => exact mirrored.symm

/-- Bytes of the leader get to the follower. -/
theorem Leads.transfer
    (leads : Leads P sessionId suite leader follower view header pending back backHeader
      backPending) (count : Nat) :
    Led P sessionId suite { leader with outgoing := leader.outgoing.drop count }
      { follower with buffer := follower.buffer ++ leader.outgoing.take count } := by
  have backFlow := leads.backFlow
  exact ⟨view, header, pending, back, backHeader, backPending,
    leads.leaderSound.congr rfl rfl rfl rfl, leads.followerSound.congr rfl rfl rfl rfl,
    leads.flow.transfer count, leads.replayed, leads.counted, leads.announced,
    ⟨backFlow.receiver, backFlow.taken, backFlow.bytes, backFlow.genuine⟩, leads.answered,
    leads.quiet, leads.noRekey⟩

/-- Bytes of the follower get to the leader. -/
theorem Leads.transferBack
    (leads : Leads P sessionId suite leader follower view header pending back backHeader
      backPending) (count : Nat) :
    Led P sessionId suite
      { leader with buffer := leader.buffer ++ follower.outgoing.take count }
      { follower with outgoing := follower.outgoing.drop count } := by
  have flow := leads.flow
  exact ⟨view, header, pending, back, backHeader, backPending,
    leads.leaderSound.congr rfl rfl rfl rfl, leads.followerSound.congr rfl rfl rfl rfl,
    ⟨flow.receiver, flow.taken, flow.bytes, flow.genuine⟩, leads.replayed, leads.counted,
    leads.announced, leads.backFlow.transfer count, leads.answered, leads.quiet, leads.noRekey⟩

/-- What an action of one end is on the link. -/
theorem step_act {link next : TcpLink} {side : Side} {action : TcpAction}
    (stepped : link.step P (.act side action) = some next) :
    ∃ after, (link.peer side).step P action = some after ∧ next = link.withPeer side after := by
  cases action with
  | receive data | receiveEof => cases stepped
  | flush count | lose =>
      cases stepped
      exact ⟨_, rfl, rfl⟩
  | call | acquire | wrote | resume | cancel =>
      obtain ⟨after, acted, rfl⟩ := Option.map_eq_some_iff.mp stepped
      exact ⟨after, acted, rfl⟩

/-- Bytes get to the other end, or its end of the stream; that end changes nothing else. -/
theorem step_passive {link next : TcpLink} {action : LinkAction}
    (passive : ∀ side own, action ≠ .act side own) (stepped : link.step P action = some next)
    (side : Side) : (next.peer side).session = (link.peer side).session := by
  cases action with
  | act side own => exact absurd rfl (passive side own)
  | transfer target count =>
      obtain ⟨peer, fed, rfl⟩ := Option.map_eq_some_iff.mp stepped
      simp only [TcpPeer.step] at fed
      split at fed <;> cases fed
      cases target <;> cases side <;> rfl
  | hangUp target =>
      simp only [TcpLink.step] at stepped
      split at stepped
      · obtain ⟨peer, fed, rfl⟩ := Option.map_eq_some_iff.mp stepped
        cases fed
        cases target <;> cases side <;> rfl
      · cases stepped

theorem Coordinated.step (sized : P.SizedAead) (correct : P.CorrectAead) {link next : TcpLink}
    {action : LinkAction} (coordinated : Coordinated P sessionId suite link)
    (inStep : ∀ side own, action = .act side own →
      (link.peer side).InStep (link.peer side.other) own)
    (stepped : link.step P action = some next) : Coordinated P sessionId suite next := by
  obtain ⟨leading, view, header, pending, back, backHeader, backPending, leads⟩ := coordinated
  cases action with
  | act side action =>
      obtain ⟨after, acted, rfl⟩ := step_act stepped
      have isStep := inStep side action rfl
      have act : TcpPeer.Sound sessionId suite (link.peer side) →
          TcpPeer.Act P sessionId suite (link.peer side) after action :=
        fun sound => TcpPeer.act_of_step sized sound isStep.undisturbed
          (fun locked sending => isStep.unspent (by simp [sending])) acted
      by_cases isLeader : side = leading
      · subst isLeader
        have led := leads.leaderStep sized correct isStep (act leads.leaderSound)
        exact ⟨side, by cases side <;> exact led⟩
      · obtain rfl : side = leading.other := by
          cases side <;> cases leading <;> first | rfl | exact absurd rfl isLeader
        rw [Side.other_other] at isStep
        by_cases announces :
            (((link.peer leading.other).aboutToSend action).any Locked.isRekey) = true
        · have settled := isStep.alone announces
          have even := isStep.caughtUp (by
            cases sending : (link.peer leading.other).aboutToSend action <;> simp_all)
          have led := (leads.swap settled even).leaderStep sized correct isStep
            (act leads.followerSound)
          exact ⟨leading.other, by cases leading <;> exact led⟩
        · have led := leads.followerStep sized correct isStep (act leads.followerSound)
            (by simpa using announces)
          exact ⟨leading, by cases leading <;> exact led⟩
  | transfer target count =>
      obtain ⟨peer, fed, rfl⟩ := Option.map_eq_some_iff.mp stepped
      simp only [TcpPeer.step] at fed
      split at fed <;> cases fed
      refine ⟨leading, ?_⟩
      cases target <;> cases leading
      · exact leads.transferBack count
      · exact leads.transfer count
      · exact leads.transfer count
      · exact leads.transferBack count
  | hangUp target =>
      simp only [TcpLink.step] at stepped
      split at stepped
      · rename_i hungUp
        have isOpen : (link.peer target.other).closed = false := by
          cases target <;> cases leading <;>
            first | exact leads.leaderSound.isOpen | exact leads.followerSound.isOpen
        rw [isOpen] at hungUp
        cases hungUp.1
      · cases stepped

/-- Both ends act, and one of them leads. -/
theorem Coordinated.sound {link : TcpLink} (coordinated : Coordinated P sessionId suite link)
    (side : Side) : TcpPeer.Sound sessionId suite (link.peer side) ∧
      ((link.peer side).session.rekeying = none ∨
        (link.peer side.other).session.rekeying = none) := by
  obtain ⟨leading, _, _, _, _, _, _, leads⟩ := coordinated
  have quiet := leads.quiet
  cases leading <;> cases side
  · exact ⟨leads.leaderSound, .inr quiet⟩
  · exact ⟨leads.followerSound, .inl quiet⟩
  · exact ⟨leads.followerSound, .inl quiet⟩
  · exact ⟨leads.leaderSound, .inr quiet⟩

/-- A step in turn lets neither end get ahead of an announced rotation of the other. -/
theorem notAhead_of_inTurn {near near' far : TcpPeer} {action : TcpAction}
    (inTurn : near.InTurn far action) (act : TcpPeer.Act P sessionId suite near near' action)
    (quiet : near.session.rekeying = none ∨ far.session.rekeying = none)
    (forth : TcpPeer.NotAhead near far) (back : TcpPeer.NotAhead far near) :
    TcpPeer.NotAhead near' far ∧ TcpPeer.NotAhead far near' := by
  unfold TcpPeer.NotAhead at forth back ⊢
  cases act with
  | idle sound epochs keys mirror rekeying =>
      rw [rekeying, epochs]
      exact ⟨forth, back⟩
  | wrote sound task locked sending quiet epochs info holder =>
      rw [epochs, Session.isSome_rekeying_of_holder holder]
      exact ⟨fun _ => inTurn.caughtUp (by simp [sending]), back⟩
  | rotated sound salt rotates announced epochs info free =>
      rw [announced] at quiet
      rw [Session.rekeying_of_free free, quiet.resolve_left (by simp)]
      exact ⟨nofun, nofun⟩
  | read task result now base fate effects isResume moved sound holder =>
      have rekeying : near'.session.rekeying = near.session.rekeying := by
        rw [Session.rekeying, Session.rekeying, holder]
      rw [rekeying]
      rcases moved.epochs_of_read with same | ⟨grown, reads⟩
      · rw [same]
        exact ⟨forth, back⟩
      · rw [← isResume] at reads
        have later := inTurn.readsLater reads
        rw [grown]
        exact ⟨fun announced => Nat.le_succ_of_le (forth announced), fun _ => later⟩

theorem notAhead_step (sized : P.SizedAead) {link next : TcpLink} {action : LinkAction}
    (coordinated : Coordinated P sessionId suite link)
    (notAhead : ∀ side, TcpPeer.NotAhead (link.peer side) (link.peer side.other))
    (inTurn : link.InTurn action) (stepped : link.step P action = some next) (side : Side) :
    TcpPeer.NotAhead (next.peer side) (next.peer side.other) := by
  by_cases passive : ∀ actor own, action ≠ .act actor own
  · unfold TcpPeer.NotAhead
    rw [step_passive passive stepped, step_passive passive stepped]
    exact notAhead side
  · simp only [not_forall, not_not] at passive
    obtain ⟨actor, own, rfl⟩ := passive
    obtain ⟨after, acted, rfl⟩ := step_act stepped
    have isTurn : (link.peer actor).InTurn (link.peer actor.other) own := inTurn
    obtain ⟨sound, quiet⟩ := coordinated.sound actor
    have act : TcpPeer.Act P sessionId suite (link.peer actor) after own :=
      TcpPeer.act_of_step sized sound isTurn.undisturbed
        (fun locked sending => isTurn.unspent (by simp [sending])) acted
    have back := notAhead actor.other
    rw [Side.other_other] at back
    obtain ⟨forth, back⟩ := notAhead_of_inTurn isTurn act quiet (notAhead actor) back
    cases actor <;> cases side <;> assumption

theorem coordinated_new {clientInfo serverInfo : SessionInfo}
    (mirrored : Mirrored clientInfo serverInfo) (clientBound : clientInfo.txSeq ≤ maxSeq)
    (serverBound : serverInfo.txSeq ≤ maxSeq) :
    Coordinated P clientInfo.sessionId clientInfo.cipherSuite (new clientInfo serverInfo) := by
  have quiet : ∀ info, (Session.new true info).rekeying = none := fun _ => rfl
  refine ⟨.client,
    { txKey := serverInfo.txKey, rxKey := serverInfo.rxKey, rxSeq := serverInfo.rxSeq }, none, [],
    { txKey := clientInfo.txKey, rxKey := clientInfo.rxKey, rxSeq := clientInfo.rxSeq }, none, [],
    ?_⟩
  refine ⟨.new rfl rfl clientBound, .new mirrored.sessionId mirrored.cipherSuite serverBound,
    ⟨.new true serverInfo 0, by simp, rfl, by simp⟩, ?_, rfl, by simp [new, peer, quiet],
    ⟨.new true clientInfo 0, by simp, rfl, by simp⟩, .even rfl ?_, rfl, rfl⟩
  · simp [View.replay, new, peer, Session.mirror, Session.holder, Session.new, mirrorOf,
      Session.admittedPayloads, mirrored.txKey, mirrored.rxKey, mirrored.rxSeq]
  · simp [View.replay, new, peer, Side.other, Session.mirror, Session.holder, Session.new,
      mirrorOf, Session.admittedPayloads, mirrored.txKey, mirrored.rxKey, mirrored.txSeq]

/-- In every run whose steps are in turn, rotations disturb nothing. -/
theorem fullDuplex_of_inTurn (P : Primitives) (sized : P.SizedAead) (correct : P.CorrectAead)
    (clientInfo serverInfo : SessionInfo) (mirrored : Mirrored clientInfo serverInfo)
    (clientBound : clientInfo.txSeq ≤ maxSeq) (serverBound : serverInfo.txSeq ≤ maxSeq)
    (actions : List LinkAction) (final : TcpLink)
    (reached : Machine.run (step P) (new clientInfo serverInfo) actions = some final)
    (inTurn : Machine.Along (step P) InTurn (new clientInfo serverInfo) actions) :
    FullDuplex final := by
  have start : ∀ side, TcpPeer.NotAhead ((new clientInfo serverInfo).peer side)
      ((new clientInfo serverInfo).peer side.other) := by
    intro side announced
    cases side <;> cases announced
  have holds := Machine.run_invariant
    (fun link => Coordinated P clientInfo.sessionId clientInfo.cipherSuite link ∧
      ∀ side, TcpPeer.NotAhead (link.peer side) (link.peer side.other))
    (fun link action next holds inTurn stepped => ?_)
    ⟨coordinated_new mirrored clientBound serverBound, start⟩ inTurn reached
  · exact holds.1.fullDuplex holds.2
  · refine ⟨holds.1.step sized correct ?_ stepped,
      notAhead_step sized holds.1 holds.2 inTurn stepped⟩
    rintro side own rfl
    have isTurn : (link.peer side).InTurn (link.peer side.other) own := inTurn
    exact isTurn.inStep (holds.2 side)

/-! ## A rotation in turn, and one that crosses a message -/

/-- The client announces a rotation, and the server answers it before it sends. -/
def rekeyThenMessage : List LinkAction :=
  [.act .client (.call 0 (.rekey ⟨List.replicate 32 5, length_sampleSalt⟩) 0),
    .act .client (.acquire 0),
    .transfer .server 100, .act .server (.call 0 .recv 0), .act .client (.wrote 0 none 0),
    .act .server (.resume 0 0), .act .server (.call 1 (.send [7]) 0),
    .act .server (.acquire 1), .act .server (.wrote 1 none 0), .transfer .client 100,
    .act .client (.call 1 .recv 0), .act .client (.resume 1 0)]

theorem fullDuplex_rekeyThenMessage :
    ∃ final,
      Machine.run (step samplePrimitives) (new (sampleInfo 3 4) (sampleInfo 4 3))
          rekeyThenMessage = some final ∧
        final.client.session.received = [[7]] ∧ FullDuplex final := by
  obtain ⟨final, reached, received⟩ := Machine.exists_run (step samplePrimitives)
    (new (sampleInfo 3 4) (sampleInfo 4 3)) rekeyThenMessage
    (fun final => final.client.session.received = [[7]]) (by decide +kernel)
  refine ⟨final, reached, received, ?_⟩
  exact fullDuplex_of_inTurn samplePrimitives samplePrimitives_sized samplePrimitives_correct
    (sampleInfo 3 4) (sampleInfo 4 3) ⟨rfl, rfl, rfl, rfl, rfl, rfl⟩ (by decide) (by decide)
    rekeyThenMessage final reached (by decide +kernel)

/-- The server's message is on its way when the client rotates the keys. -/
def rekeyAcrossMessage : List LinkAction :=
  [.act .server (.call 0 (.send [7]) 0), .act .server (.acquire 0),
    .act .server (.wrote 0 none 0),
    .act .client (.call 0 (.rekey ⟨List.replicate 32 5, length_sampleSalt⟩) 0),
    .act .client (.acquire 0), .act .client (.wrote 0 none 0), .transfer .client 100,
    .act .client (.call 1 .recv 0), .act .client (.resume 1 0)]

/-- Its `send` returned, it is lost, and the `recv` that gets to it raises. -/
theorem not_fullDuplex_rekeyAcrossMessage :
    ∃ final,
      Machine.run (step samplePrimitives) (new (sampleInfo 3 4) (sampleInfo 4 3))
          rekeyAcrossMessage = some final ∧
        Machine.Along (step samplePrimitives) Undisturbed (new (sampleInfo 3 4) (sampleInfo 4 3))
          rekeyAcrossMessage ∧
        final.server.session.completedSends = [[7]] ∧ final.client.session.received = [] ∧
        ¬ FullDuplex final := by
  obtain ⟨final, reached, completed, received, isRecv, raised⟩ := Machine.exists_run
    (step samplePrimitives) (new (sampleInfo 3 4) (sampleInfo 4 3)) rekeyAcrossMessage
    (fun final => final.server.session.completedSends = [[7]] ∧
      final.client.session.received = [] ∧ (1, Op.recv) ∈ final.client.session.calls ∧
      (1, .raised ⟨.cryptoError, "Authentication tag verification failed"⟩) ∈
        final.client.session.outcomes) (by decide +kernel)
  refine ⟨final, reached, by decide +kernel, completed, received, fun fullDuplex => ?_⟩
  exact (fullDuplex.delivered .server).noRaise ⟨1, _, isRecv, raised⟩

end TcpLink

end Usmp
