import Usmp.Session.Listener
import Usmp.Session.Results
import Usmp.Udp.Filter
import Usmp.Udp.RecvMoves
import Mathlib.Tactic.Linarith

/-!
# What ends a `recv` over UDP

The peer may send any datagrams, and with the keys any authentic frames.  Apart from its
timeout, which cancels it, a `recv` ends with an exception only for the causes of `EndCause`
and for nine control frames within a second.
-/

namespace Usmp

/-- The reading of `time.monotonic` that an action comes with. -/
def UdpAction.now? : UdpAction → Option Rat
  | .call _ _ now | .acked now | .timeout now | .resume _ now => some now
  | .acquire _ | .cancel _ | .feed _ => none

/-- A step of the end, or its stream is closed from outside: by the listener, or because the
socket failed. -/
inductive LiveAction where
  | udp (action : UdpAction)
  | close

/-- An end of a connection, the last reading of its clock, and the times at which each `recv`
counted its control frames, newest first. -/
structure Live where
  peer : UdpPeer
  clock : Rat
  controls : Nat → List Rat := fun _ => []

namespace Live

open UdpPeer

/-- Note the time of a control frame that a `recv` counted. -/
def addControl (controls : Nat → List Rat) : Option (Nat × Rat) → Nat → List Rat
  | some (task, now) => Function.update controls task (now :: controls task)
  | none => controls

/-- The clock never goes backwards. -/
def next (P : Primitives) (live : Live) : LiveAction → Option Live
  | .udp action =>
      if ∀ now ∈ action.now?, live.clock ≤ now then
        (live.peer.step P action).map fun peer =>
          { peer
            clock := action.now?.getD live.clock
            controls := addControl live.controls (counts P live.peer action) }
      else
        none
  | .close => some { live with peer := { live.peer with stream := live.peer.stream.close } }

/-- The control frames that a `recv` counts fall into its window. -/
structure Counted (times : List Rat) (clock : Rat) (locals : RecvLocals) : Prop where
  began : locals.ctrlWindowStart ≤ clock
  many : locals.ctrlCount ≤ times.length
  inside : ∀ time ∈ times.take locals.ctrlCount,
    locals.ctrlWindowStart ≤ time ∧ time ≤ locals.ctrlWindowStart + 1

/-- What holds of every reachable end. -/
structure Inv (live : Live) : Prop where
  unreliable : live.peer.session.reliable = false
  calls : live.peer.session.CallInv
  counted : ∀ task at_ locals, live.peer.session.tasks task = some at_ →
    at_.locals? = some locals → Counted (live.controls task) live.clock locals

theorem Counted.later {times : List Rat} {clock later : Rat} {locals : RecvLocals}
    (counted : Counted times clock locals) (after : clock ≤ later) : Counted times later locals :=
  ⟨counted.began.trans after, counted.many, counted.inside⟩

/-- The next control frame of a window, or the first of a new one. -/
theorem Counted.count {times : List Rat} {clock now : Rat} {locals after : RecvLocals}
    (counted : Counted times clock locals) (later : clock ≤ now)
    (next : countControl locals now = .ok after) : Counted (now :: times) now after := by
  rcases countControl_ok next with ⟨isOpen, rfl⟩ | rfl
  · have began := counted.began.trans later
    refine ⟨began, Nat.succ_le_succ counted.many, ?_⟩
    intro time member
    rcases List.mem_cons.mp member with rfl | member
    · unfold RecvLocals.windowOpen at isOpen
      exact ⟨began, by linarith⟩
    · exact counted.inside time member
  · refine ⟨le_refl now, Nat.succ_le_succ (Nat.zero_le _), ?_⟩
    intro time member
    rcases List.mem_cons.mp member with rfl | member
    · exact ⟨le_refl _, by linarith⟩
    · cases member

/-- More than eight control frames within one second. -/
def Crowded (P : Primitives) (live : Live) (task : Nat) (action : UdpAction) : Prop :=
  ∃ now start, counts P live.peer action = some (task, now) ∧
    8 ≤ (live.controls task).length ∧
    ∀ time ∈ now :: (live.controls task).take 8, start ≤ time ∧ time ≤ start + 1

theorem Counted.crowded {P : Primitives} {live : Live} {task : Nat} {action : UdpAction}
    {now : Rat} {locals : RecvLocals}
    (counted : Counted (live.controls task) live.clock locals)
    (isCounted : counts P live.peer action = some (task, now)) (later : live.clock ≤ now)
    (tooMany : countControl locals now = .error tooManyControls) :
    Crowded P live task action := by
  rcases countControl_error tooMany with ⟨_, many, isOpen⟩
  refine ⟨now, locals.ctrlWindowStart, isCounted, many.trans counted.many, ?_⟩
  intro time member
  rcases List.mem_cons.mp member with rfl | member
  · unfold RecvLocals.windowOpen at isOpen
    exact ⟨counted.began.trans later, by linarith⟩
  · exact counted.inside time (List.take_subset_take_left _ many member)

/-- The `recv` that counts is the one that the action resumes, at the action's time. -/
theorem resumed_of_counts {P : Primitives} {peer : UdpPeer} {action : UdpAction} {task : Nat}
    {now : Rat} (isCounted : counts P peer action = some (task, now)) :
    peer.resumed action = some task ∧ action.now? = some now := by
  cases action with
  | resume other time =>
      simp only [counts] at isCounted
      repeat' split at isCounted
      all_goals cases isCounted
      exact ⟨rfl, rfl⟩
  | acked time =>
      simp only [counts] at isCounted
      split at isCounted <;> try cases isCounted
      rename_i arq inFlight
      split at isCounted <;> cases isCounted
      exact ⟨by rw [resumed, inFlight]; rfl, rfl⟩
  | call other op time | acquire other | timeout time | cancel other | feed data => cases isCounted

/-- The coroutines of an end, and its kind, after a step. -/
theorem session_invariants {P : Primitives} {peer after : UdpPeer} {action : UdpAction}
    (unreliable : peer.session.reliable = false) (calls : peer.session.CallInv)
    (stepped : peer.step P action = some after) :
    after.session.reliable = false ∧ after.session.CallInv := by
  rcases session_run_of_step stepped with ⟨actions, reached⟩
  refine Machine.run_invariant'
    (fun session : Session => session.reliable = false ∧ session.CallInv) ?_
    ⟨unreliable, calls⟩ reached
  intro before action after both stepped
  rcases Option.map_eq_some_iff.mp stepped with ⟨result, onSession, rfl⟩
  refine ⟨(Session.step_reliable onSession).trans both.1, ?_⟩
  rcases Session.progress_of_step onSession with ⟨base, fate, progress, isResult⟩
  rw [isResult]
  exact Session.callInv_progress both.2 progress

/-- Only a call brings a coroutine into being. -/
theorem call_of_new {P : Primitives} {peer after : UdpPeer} {action : UdpAction} {task : Nat}
    (isNone : peer.session.tasks task = none) (stepped : peer.step P action = some after)
    (resumed : peer.resumed action = some task) (changed : after.session ≠ peer.session) :
    ∃ op now, action = .call task op now := by
  have refused : ∀ {at_ : UdpPeer} {sessionAction : SessionAction},
      (peer.session.step P sessionAction).map at_.perform = some after →
      peer.session.step P sessionAction = none → False := by
    intro at_ sessionAction moved isRefused
    rw [isRefused] at moved
    cases moved
  cases action with
  | call other op now =>
      cases resumed
      exact ⟨op, now, rfl⟩
  | acquire other =>
      cases resumed
      refine (refused stepped ?_).elim
      simp [Session.step, isNone]
  | acked now =>
      rcases Option.map_eq_some_iff.mp resumed with ⟨arq, inFlight, rfl⟩
      simp only [UdpPeer.step, inFlight] at stepped
      split at stepped <;> try cases stepped
      refine (refused stepped ?_).elim
      simp [Session.step, isNone]
  | timeout now =>
      rcases Option.map_eq_some_iff.mp resumed with ⟨arq, inFlight, rfl⟩
      simp only [UdpPeer.step, inFlight] at stepped
      split at stepped
      · cases stepped
        exact absurd rfl changed
      · refine (refused stepped ?_).elim
        simp [Session.step, isNone]
  | resume other now =>
      cases resumed
      simp [UdpPeer.step, resumeRead, isNone] at stepped
  | cancel other =>
      cases resumed
      refine (refused stepped ?_).elim
      simp [Session.step, isNone]
  | feed data => cases resumed

/-- A new `recv` has counted nothing. -/
theorem locals_of_new {P : Primitives} {peer after : UdpPeer} {task : Nat} {op : Op} {now : Rat}
    {at_ : Task} {locals : RecvLocals} (stepped : peer.step P (.call task op now) = some after)
    (isAt : after.session.tasks task = some at_) (isLocals : at_.locals? = some locals) :
    locals = { ctrlWindowStart := now } := by
  rcases Option.map_eq_some_iff.mp stepped with ⟨result, onSession, rfl⟩
  simp only [Session.step] at onSession
  split at onSession <;> cases onSession
  rw [(performed peer _).of_silent rfl, Session.begin_eq] at isAt
  simp only [Session.settle_tasks, Function.update_self] at isAt
  cases op with
  | recv =>
      cases isAt
      exact (Option.some.inj isLocals).symm
  | send data =>
      simp only [Op.start] at isAt
      split at isAt <;> cases isAt
      cases isLocals
  | bye =>
      simp only [Op.start] at isAt
      split at isAt <;> cases isAt
      cases isLocals
  | ping | rekey salt =>
      cases isAt
      cases isLocals

/-- A coroutine belongs to the same call after a step as before it. -/
theorem op_of_call {P : Primitives} {peer after : UdpPeer} {action : UdpAction} {task : Nat}
    {at_ : Task} {op : Op} (unreliable : peer.session.reliable = false)
    (calls : peer.session.CallInv) (stepped : peer.step P action = some after)
    (was : peer.session.tasks task = some at_) (call : (task, op) ∈ after.session.calls) :
    at_.op = op := by
  have kept := session_invariants unreliable calls stepped
  have grown : ∃ more, after.session.calls = peer.session.calls ++ more := by
    rcases session_run_of_step stepped with ⟨actions, reached⟩
    refine (Machine.run_invariant' (fun session : Session => session.CallInv ∧
      ∃ more, session.calls = peer.session.calls ++ more) ?_ ⟨calls, [], by simp⟩ reached).2
    rintro first action second ⟨calls, more, isMore⟩ stepped
    rcases Option.map_eq_some_iff.mp stepped with ⟨result, onSession, rfl⟩
    rcases Session.progress_of_step onSession with ⟨base, fate, progress, isResult⟩
    rcases (progress.called_task calls).2 with ⟨added, isAdded⟩
    rw [isResult]
    refine ⟨Session.callInv_progress calls progress, more ++ added, ?_⟩
    rw [(Session.settle_frame base action.task fate).2.2.2.2.1, isAdded, isMore, List.append_assoc]
  rcases grown with ⟨more, isMore⟩
  have callBefore : (task, at_.op) ∈ after.session.calls := by
    rw [isMore]
    exact List.mem_append_left _ (calls.known task at_ was)
  exact Option.some.inj ((kept.2.lookup callBefore).symm.trans (kept.2.lookup call))

theorem addControl_of_ne (controls : Nat → List Rat) {counted : Option (Nat × Rat)} {task : Nat}
    (uncounted : ∀ now, counted ≠ some (task, now)) :
    addControl controls counted task = controls task := by
  cases counted with
  | none => rfl
  | some count =>
      apply Function.update_of_ne
      intro same
      exact uncounted count.2 (by rw [same])

theorem Inv.next {P : Primitives} {before after : Live} {action : LiveAction} (inv : Inv before)
    (stepped : before.next P action = some after) : Inv after := by
  cases action with
  | close =>
      cases stepped
      exact ⟨inv.unreliable, inv.calls, inv.counted⟩
  | udp action =>
      simp only [Live.next] at stepped
      split at stepped
      case isFalse => cases stepped
      rename_i forwards
      rcases Option.map_eq_some_iff.mp stepped with ⟨peer, moved, rfl⟩
      have kept := session_invariants inv.unreliable inv.calls moved
      have clock : before.clock ≤ action.now?.getD before.clock := by
        cases now : action.now? with
        | none => exact le_refl _
        | some now' => exact forwards now' now
      refine ⟨kept.1, kept.2, ?_⟩
      intro task at_ locals isAt isLocals
      by_cases resumed : before.peer.resumed action = some task
      case neg =>
        have same := (step_others moved resumed).1
        dsimp only at isAt ⊢
        rw [same] at isAt
        rw [addControl_of_ne _ fun now isCounted => resumed (resumed_of_counts isCounted).1]
        exact (inv.counted task at_ locals isAt isLocals).later clock
      cases was : before.peer.session.tasks task with
      | none =>
          have changed : peer.session ≠ before.peer.session := by
            intro same
            rw [same, was] at isAt
            cases isAt
          rcases call_of_new was moved resumed changed with ⟨op, now, rfl⟩
          cases locals_of_new moved isAt isLocals
          exact ⟨le_refl now, Nat.zero_le _, by simp⟩
      | some old =>
          have isRecv : old.op = .recv := by
            rw [← Task.op_of_locals? isLocals]
            exact op_of_call inv.unreliable inv.calls moved was (kept.2.known task at_ isAt)
          rcases Task.locals?_of_recv isRecv with ⟨oldLocals, isOld⟩
          have counted := inv.counted task old oldLocals was isOld
          rcases moves_of_step inv.unreliable inv.calls was isOld resumed moved with
            ⟨fate, move, fated, _⟩
          dsimp only at isAt ⊢
          rw [fated] at isAt
          cases move with
          | kept at' locals' isLocals' count window uncounted =>
              cases isAt
              rw [isLocals'] at isLocals
              cases isLocals
              rw [uncounted]
              refine ⟨?_, ?_, ?_⟩
              · rw [window]
                exact counted.began.trans clock
              · rw [count]
                exact counted.many
              · rw [count, window]
                exact counted.inside
          | counted now locals' isCounted counts =>
              cases isAt
              cases isLocals
              have isNow := (resumed_of_counts isCounted).2
              rw [isCounted, isNow]
              simp only [addControl, Function.update_self, Option.getD_some]
              exact counted.count (forwards now isNow) counts
          | crowded now isCounted tooMany => cases isAt
          | finished outcome notRaised => cases isAt
          | raised exn cause => cases isAt

/-- A call that has no coroutine cannot be a `recv` that raises. -/
theorem raised_of_new {P : Primitives} {peer after : UdpPeer} {action : UdpAction} {task : Nat}
    {exn : Exn} (callsAfter : after.session.CallInv) (stepped : peer.step P action = some after)
    (was : peer.session.tasks task = none) (isRecv : (task, Op.recv) ∈ after.session.calls)
    (resumed : peer.resumed action = some task)
    (raised : (task, .raised exn) ∈ after.session.outcomes) :
    (task, .raised exn) ∈ peer.session.outcomes := by
  by_cases same : after.session = peer.session
  · rwa [same] at raised
  rcases call_of_new was stepped resumed same with ⟨op, now, rfl⟩
  rcases Option.map_eq_some_iff.mp stepped with ⟨result, onSession, rfl⟩
  simp only [Session.step] at onSession
  split at onSession <;> cases onSession
  rw [(performed peer _).of_silent rfl, Session.begin_eq] at raised isRecv callsAfter
  have isOp : op = .recv := by
    have called : (task, op) ∈ (({ peer.session with
        calls := peer.session.calls ++ [(task, op)]
        closed := peer.session.closed || op == .bye } : Session).settle task
          (op.start peer.session.closed now)).calls := by simp
    exact Option.some.inj ((callsAfter.lookup called).symm.trans (callsAfter.lookup isRecv))
  subst isOp
  simpa [Op.start, Fate.outcome] using raised

theorem Inv.raised {P : Primitives} {before : Live} {action : UdpAction} {peer : UdpPeer}
    {task : Nat} {exn : Exn} (inv : Inv before)
    (forwards : ∀ now ∈ action.now?, before.clock ≤ now)
    (stepped : before.peer.step P action = some peer)
    (isRecv : (task, Op.recv) ∈ peer.session.calls)
    (raised : (task, .raised exn) ∈ peer.session.outcomes)
    (isNew : (task, .raised exn) ∉ before.peer.session.outcomes) :
    EndCause P before.peer task action exn ∨
      exn = tooManyControls ∧ Crowded P before task action := by
  have kept := session_invariants inv.unreliable inv.calls stepped
  by_cases resumed : before.peer.resumed action = some task
  case neg => exact absurd ((step_others stepped resumed).2 _ raised) isNew
  cases was : before.peer.session.tasks task with
  | none => exact absurd (raised_of_new kept.2 stepped was isRecv resumed raised) isNew
  | some at_ =>
      have sameOp := op_of_call inv.unreliable inv.calls stepped was isRecv
      rcases Task.locals?_of_recv sameOp with ⟨locals, isLocals⟩
      have counted := inv.counted task at_ locals was isLocals
      rcases moves_of_step inv.unreliable inv.calls was isLocals resumed stepped with
        ⟨fate, move, _, outcomes⟩
      have ended := (outcomes _ raised).resolve_left isNew
      cases move with
      | kept at' after isLocals' count window uncounted => cases ended
      | counted now after isCounted next => cases ended
      | crowded now isCounted tooMany =>
          cases ended
          have later := forwards now (resumed_of_counts isCounted).2
          exact .inr ⟨rfl, counted.crowded isCounted later tooMany⟩
      | finished outcome notRaised =>
          cases ended
          exact absurd rfl (notRaised exn)
      | raised exn' cause =>
          cases ended
          exact .inl cause

/-- Over UDP a `recv` raises only for a BYE, a spent sequence, too many control frames, a
closed stream or a PONG that nobody acknowledged, and a violation that it drops leaves it
without a partial message. -/
theorem recv_ends (P : Primitives) (info : SessionInfo) (stream : UDPStream) (clock : Rat)
    (actions : List LiveAction) (before : Live)
    (reached : Machine.run (next P) { peer := { session := .new false info, stream }, clock }
      actions = some before)
    (action : UdpAction) (after : Live) (stepped : before.next P (.udp action) = some after) :
    (∀ task exn, (task, Op.recv) ∈ after.peer.session.calls →
        (task, .raised exn) ∈ after.peer.session.outcomes →
        (task, .raised exn) ∉ before.peer.session.outcomes →
        EndCause P before.peer task action exn ∨
          exn = tooManyControls ∧ Crowded P before task action) ∧
      ∀ task exn, Violates P before.peer task action exn → Cleared after.peer.session task := by
  have initially : Inv { peer := { session := .new false info, stream }, clock } :=
    ⟨rfl, .new false info 0, fun task at_ locals isAt => by cases isAt⟩
  have inv := Machine.run_invariant' Inv (fun _ _ _ => Inv.next) initially reached
  simp only [Live.next] at stepped
  split at stepped
  case isFalse => cases stepped
  rename_i forwards
  rcases Option.map_eq_some_iff.mp stepped with ⟨peer, moved, rfl⟩
  constructor
  · intro task exn isRecv raised isNew
    exact inv.raised forwards moved isRecv raised isNew
  · intro task exn violates
    exact cleared_of_violates inv.unreliable violates moved

/-- A PONG of the other side. -/
def pongFrame (seq : Nat) : SentFrame :=
  encryptedFrame samplePrimitives (sampleInfo 3 4 seq) 0 (.pong { ctrlWindowStart := 0 })

/-- A `recv`, eight PONGs at once, and a ninth that waits in the buffer. -/
def ninePongs : List LiveAction :=
  .udp (.call 0 .recv 0) ::
    (List.range 8).flatMap (fun seq => [.udp (.feed (pongFrame seq).bytes), .udp (.resume 0 0)]) ++
      [.udp (.feed (pongFrame 8).bytes)]

theorem recv_ends_ninePongs :
    ∃ before after,
      Machine.run (next samplePrimitives)
          { peer := samplePeer (sampleInfo 4 3) true, clock := 0 } ninePongs = some before ∧
        before.next samplePrimitives (.udp (.resume 0 1)) = some after ∧
        Crowded samplePrimitives before 0 (.resume 0 1) := by
  rcases Machine.exists_run (next samplePrimitives)
    { peer := samplePeer (sampleInfo 4 3) true, clock := 0 } ninePongs
    (fun before => ((0, .raised tooManyControls) ∉ before.peer.session.outcomes) ∧
      (before.next samplePrimitives (.udp (.resume 0 1))).any fun after =>
        (0, Op.recv) ∈ after.peer.session.calls ∧
          (0, .raised tooManyControls) ∈ after.peer.session.outcomes)
    (by decide +kernel) with ⟨before, reached, isNew, raises⟩
  rcases Option.any_eq_true _ _ |>.mp raises with ⟨after, stepped, both⟩
  have both := of_decide_eq_true both
  refine ⟨before, after, reached, stepped, ?_⟩
  have ends := recv_ends samplePrimitives (sampleInfo 4 3) _ 0 ninePongs before reached _ after
    stepped
  rcases ends.1 0 tooManyControls both.1 both.2 isNew with cause | crowded
  · generalize isExn : tooManyControls = exn at cause
    cases cause <;> exact absurd isExn (by decide)
  · exact crowded.2

end Live

end Usmp
