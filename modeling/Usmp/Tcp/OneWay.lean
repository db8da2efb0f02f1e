import Usmp.Tcp.Rekey
import Mathlib.Data.Fintype.EquivFin

/-!
# Delivery in one direction

One end calls `send` and `rekey`, in any number and order, and the other only calls
`recv`.  Every step of such a run is in turn, so the invariant of rotations gives
delivery; and the receiver can always go on until it has consumed everything.
-/

namespace Usmp

namespace TcpPeer

/-- The steps of the end that sends: no call fails and no sequence is spent. -/
def Sends (peer : TcpPeer) : TcpAction → Prop
  | .call _ (.send data) _ => data.length ≤ usmpMaxDataLen * usmpMaxFrames
  | .call _ (.rekey _) _ => True
  | .acquire task => (peer.aboutToSend (.acquire task)).isSome →
      peer.session.info.txSeq < maxSeq
  | .wrote task failure now => failure = none ∧
      ((peer.aboutToSend (.wrote task failure now)).isSome → peer.session.info.txSeq < maxSeq)
  | .flush _ => True
  | _ => False

/-- The steps of the end that only calls `recv`. -/
def Receives (peer : TcpPeer) : TcpAction → Prop
  | .call _ .recv _ => peer.session.receiving = false
  | .resume _ _ | .flush _ => True
  | _ => False

instance (peer : TcpPeer) : (action : TcpAction) → Decidable (peer.Sends action)
  | .call _ (.send data) _ =>
      inferInstanceAs (Decidable (data.length ≤ usmpMaxDataLen * usmpMaxFrames))
  | .call _ (.rekey _) _ | .flush _ => isTrue trivial
  | .acquire task => inferInstanceAs (Decidable ((peer.aboutToSend (.acquire task)).isSome → _))
  | .wrote task failure now => inferInstanceAs (Decidable (failure = none ∧
      ((peer.aboutToSend (.wrote task failure now)).isSome → _)))
  | .call _ .ping _ | .call _ .bye _ | .call _ .recv _ | .resume _ _ | .cancel _ | .receive _
  | .receiveEof | .lose => isFalse id

instance (peer : TcpPeer) : (action : TcpAction) → Decidable (peer.Receives action)
  | .call _ .recv _ => inferInstanceAs (Decidable (peer.session.receiving = false))
  | .resume _ _ | .flush _ => isTrue trivial
  | .call _ .ping _ | .call _ .bye _ | .call _ (.send _) _ | .call _ (.rekey _) _ | .acquire _
  | .wrote _ _ _ | .cancel _ | .receive _ | .receiveEof | .lose => isFalse id

theorem Sends.undisturbed {peer : TcpPeer} {action : TcpAction} (sends : peer.Sends action) :
    peer.Undisturbed action ∧ ((peer.aboutToSend action).isSome →
      peer.session.info.txSeq < maxSeq) ∧ (∀ task now, action ≠ .call task .recv now) ∧
      (∀ task now, action ≠ .resume task now) ∧
      ∀ task data now, action = .call task (.send data) now →
        data.length ≤ usmpMaxDataLen * usmpMaxFrames := by
  cases action with
  | call task op now =>
      cases op with
      | send data =>
          refine ⟨trivial, by simp [aboutToSend], by simp, by simp, ?_⟩
          rintro _ _ _ ⟨⟩
          exact sends
      | rekey salt => exact ⟨trivial, by simp [aboutToSend], by simp, by simp, by simp⟩
      | ping | bye | recv => exact sends.elim
  | acquire task => exact ⟨trivial, sends, by simp, by simp, by simp⟩
  | wrote task failure now => exact ⟨sends.1, sends.2, by simp, by simp, by simp⟩
  | flush count => exact ⟨trivial, by simp [aboutToSend], by simp, by simp, by simp⟩
  | resume | cancel | receive | receiveEof | lose => exact sends.elim

theorem Receives.undisturbed {peer : TcpPeer} {action : TcpAction}
    (receives : peer.Receives action) :
    peer.Undisturbed action ∧ peer.aboutToSend action = none ∧ peer.rotates action = false ∧
      ((∃ task now, action = .call task .recv now) ∨ (∃ task now, action = .resume task now) ∨
        ∃ count, action = .flush count) := by
  cases action with
  | call task op now =>
      cases op with
      | recv => exact ⟨receives, rfl, rfl, .inl ⟨task, now, rfl⟩⟩
      | send data | rekey salt | ping | bye => exact receives.elim
  | resume task now => exact ⟨trivial, rfl, rfl, .inr (.inl ⟨task, now, rfl⟩)⟩
  | flush count => exact ⟨trivial, rfl, rfl, .inr (.inr ⟨count, rfl⟩)⟩
  | acquire | wrote | cancel | receive | receiveEof | lose => exact receives.elim

/-- An end that is about to send is not rotating. -/
theorem rekeying_of_aboutToSend {peer : TcpPeer} {action : TcpAction}
    (calls : peer.session.CallInv) (sending : (peer.aboutToSend action).isSome) :
    peer.session.rekeying = none := by
  unfold aboutToSend at sending
  split at sending
  · split at sending
    · rename_i free _
      exact Session.rekeying_of_free (Session.holder_of_free free)
    · cases sending
  · split at sending
    · rename_i writing
      exact Session.rekeying_of_holder (calls.holder_eq writing) (by simp)
    · cases sending
  · cases sending

end TcpPeer

namespace TcpLink

/-- The condition along a run: `sender` sends and the other end receives. -/
def OneWay (sender : Side) (link : TcpLink) : LinkAction → Prop
  | .act side action =>
      if side = sender then (link.peer side).Sends action else (link.peer side).Receives action
  | .transfer _ _ | .hangUp _ => True

instance (sender : Side) (link : TcpLink) :
    (action : LinkAction) → Decidable (link.OneWay sender action)
  | .act side action => inferInstanceAs (Decidable
      (if side = sender then (link.peer side).Sends action else (link.peer side).Receives action))
  | .transfer _ _ | .hangUp _ => isTrue trivial

variable {P : Primitives} {sessionId : FixedBytes usmpSessionIdLen} {suite : CipherSuite}
  {near near' far far' : TcpPeer}

/-- The invariant of such a run. -/
structure Downstream (P : Primitives) (sessionId : FixedBytes usmpSessionIdLen)
    (suite : CipherSuite) (near far : TcpPeer) : Prop where
  led : Led P sessionId suite near far
  admission : near.session.Admission
  /-- The sender reads nothing and the receiver writes nothing. -/
  sending : ∀ task at_, near.session.tasks task = some at_ → at_.op ≠ .recv
  noInput : near.buffer = []
  reading : ∀ task at_, far.session.tasks task = some at_ → at_.op = .recv
  noOutput : far.outgoing = []

theorem Downstream.takenHeader (downstream : Downstream P sessionId suite near far) :
    near.session.takenHeader = none := by
  rw [Session.takenHeader, List.findSome?_eq_none_iff]
  intro call member
  split
  · rename_i locals pending isReading
    exact absurd rfl (downstream.sending _ _ isReading)
  · rfl

/-- Nothing comes back from the receiver. -/
theorem Downstream.silent (downstream : Downstream P sessionId suite near far) :
    TcpPeer.Arrived far near :=
  ⟨downstream.noOutput, downstream.noInput, downstream.takenHeader⟩

theorem Downstream.free (downstream : Downstream P sessionId suite near far) :
    far.session.holder = none := by
  obtain ⟨_, _, _, _, _, _, leads⟩ := downstream.led
  cases held : far.session.lock with
  | none => exact Session.holder_of_free held
  | some task =>
      obtain ⟨locked, writing⟩ := (leads.followerSound.calls.holder task).mp held
      have isRecv := downstream.reading task _ writing
      obtain ⟨_, _, isReading⟩ := (leads.followerSound.plain task _ writing).reading_of_recv isRecv
      cases isReading

theorem Downstream.sends (sized : P.SizedAead) (correct : P.CorrectAead) {action : TcpAction}
    (downstream : Downstream P sessionId suite near far) (sends : near.Sends action)
    (stepped : near.step P action = some near') : Downstream P sessionId suite near' far := by
  obtain ⟨undisturbed, unspent, notRecv, notResume, fits⟩ := sends.undisturbed
  obtain ⟨view, header, pending, back, backHeader, backPending, leads⟩ := downstream.led
  have sound := leads.leaderSound
  have noReads : near.readsNext action = none := by
    cases action with
    | resume task now => exact absurd rfl (notResume task now)
    | _ => rfl
  have inStep : near.InStep far action := by
    refine ⟨undisturbed, unspent, fun sending => ?_, fun _ => leads.quiet, fun _ _ => ?_,
      fun reads => ?_, fun _ _ => noReads⟩
    · have counted := leads.counted
      rw [TcpPeer.rekeying_of_aboutToSend sound.calls sending] at counted
      simp only [Option.isSome_none, Bool.false_eq_true, if_false] at counted
      omega
    · exact ⟨downstream.silent, by rw [Session.midMessage, downstream.free]; rfl⟩
    · rw [noReads] at reads
      cases reads
  have led := leads.leaderStep sized correct inStep
    (TcpPeer.act_of_step sized sound undisturbed
      (fun locked sending => unspent (by simp [sending])) stepped)
  rcases TcpPeer.step_cases sized sound.bound stepped with
    ⟨held, _, rfl⟩ | ⟨data, rfl, _⟩ | ⟨rfl, _⟩ | ⟨rfl, _⟩ |
      ⟨resumption, base, fate, effects, resumes, moved⟩
  · exact ⟨led, downstream.admission, downstream.sending, downstream.noInput, downstream.reading,
      downstream.noOutput⟩
  · exact undisturbed.elim
  · exact undisturbed.elim
  · exact undisturbed.elim
  have completes := TcpPeer.completes_of_undisturbed undisturbed
    (fun locked sending => unspent (by simp [sending])) resumes
  have notCall : ∀ task now, resumption ≠ .call task .recv now := by
    rintro task now rfl
    cases resumes
    exact notRecv task now rfl
  refine ⟨led, ?_, ?_, ?_, downstream.reading, downstream.noOutput⟩
  · rw [moved.session]
    refine downstream.admission.progress sound.calls moved.progress completes ?_
    rintro task data now rfl
    cases resumes
    exact fits task data now rfl
  · have others := (moved.progress.other notCall (downstream.sending _)).1
    intro task at_ isAt
    rw [moved.session, Session.settle_tasks] at isAt
    by_cases same : task = resumption.task
    · subst same
      exact others at_ (by simpa using isAt)
    · rw [Function.update_of_ne same, moved.progress.frame.1] at isAt
      exact downstream.sending task at_ isAt
  · have took := moved.took
    generalize near'.buffer = left at took
    cases took with
    | frame task result now locals pending left isReading =>
        exact absurd rfl (downstream.sending _ _ isReading)
    | cutOff => rfl
    | header task taken left locals isReading =>
        exact absurd rfl (downstream.sending _ _ isReading)
    | nothing => exact downstream.noInput

theorem Downstream.receives (sized : P.SizedAead) (correct : P.CorrectAead) {action : TcpAction}
    (downstream : Downstream P sessionId suite near far) (receives : far.Receives action)
    (stepped : far.step P action = some far') : Downstream P sessionId suite near far' := by
  obtain ⟨undisturbed, notSending, noRotation, isKind⟩ := receives.undisturbed
  obtain ⟨view, header, pending, back, backHeader, backPending, leads⟩ := downstream.led
  have sound := leads.followerSound
  have inStep : far.InStep near action := by
    refine ⟨undisturbed, by simp [notSending], by simp [notSending], by simp [notSending],
      by simp [noRotation], fun _ _ => ?_, by simp [leads.quiet]⟩
    exact ⟨downstream.silent, by rw [Session.midMessage, downstream.free]; rfl⟩
  have led := leads.followerStep sized correct inStep
    (TcpPeer.act_of_step sized sound undisturbed (by simp [notSending]) stepped)
    (by simp [notSending])
  rcases TcpPeer.step_cases sized sound.bound stepped with
    ⟨held, _, rfl⟩ | ⟨data, rfl, _⟩ | ⟨rfl, _⟩ | ⟨rfl, _⟩ |
      ⟨resumption, base, fate, effects, resumes, moved⟩
  · exact ⟨led, downstream.admission, downstream.sending, downstream.noInput, downstream.reading,
      downstream.noOutput⟩
  · exact undisturbed.elim
  · exact undisturbed.elim
  · exact undisturbed.elim
  have isReading : ∀ {task : Nat} {at_ : Task}, far.session.tasks task = some at_ →
      ∃ locals pending, at_ = .reading locals pending :=
    fun isAt => (sound.plain _ _ isAt).reading_of_recv (downstream.reading _ _ isAt)
  have goesOn : effects.write = none ∧ ∀ at_, fate.await = some at_ → at_.op = .recv := by
    cases moved.progress with
    | called task op now isNew =>
        refine ⟨rfl, fun at_ isAt => ?_⟩
        cases resumes
        rcases isKind with ⟨_, _, isCall⟩ | ⟨_, _, isResume⟩ | ⟨_, isFlush⟩
        · cases isCall
          cases isAt
          rfl
        · cases isResume
        · cases isFlush
    | encrypted task action locked admitted ready unspent =>
        obtain ⟨_, was, wasAt, _, notReading⟩ := ready.was
        obtain ⟨_, _, rfl⟩ := isReading wasAt
        exact absurd rfl (notReading _ _)
    | refused task action locked admitted ready spent notBye exn =>
        obtain ⟨_, was, wasAt, _, notReading⟩ := ready.was
        obtain ⟨_, _, rfl⟩ := isReading wasAt
        exact absurd rfl (notReading _ _)
    | received task locals pending now result reading turn isTurn =>
        refine ⟨rfl, fun at_ isAt => ?_⟩
        rcases RecvStep.await_fate isAt with ⟨next, rfl⟩ | ⟨next, rfl⟩ <;> rfl
    | tookHeader =>
        refine ⟨rfl, fun at_ isAt => ?_⟩
        cases isAt
        rfl
    | failed task locked exn now writing | sent task data offset now writing
    | signalled task locked now writing | rekeyed task salt now writing
    | ponged task locals now writing | interrupted task locked writing =>
        obtain ⟨_, _, impossible⟩ := isReading writing
        cases impossible
    | abandoned =>
        cases resumes
        exact undisturbed.elim
  refine ⟨led, downstream.admission, downstream.sending, downstream.noInput, ?_, ?_⟩
  · intro task at_ isAt
    rw [moved.session, Session.settle_tasks] at isAt
    by_cases same : task = resumption.task
    · subst same
      exact goesOn.2 at_ (by simpa using isAt)
    · rw [Function.update_of_ne same, moved.progress.frame.1] at isAt
      exact downstream.reading task at_ isAt
  · rw [moved.outgoing sound.isOpen sound.connected, goesOn.1, downstream.noOutput]
    rfl

/-! ## Consuming everything -/

/-- The number of bytes that have arrived and are not consumed. -/
def unread (far : TcpPeer) : Nat :=
  (far.session.takenHeader.getD []).length + far.buffer.length

theorem unread_of_flow {view : View} {header : Option Bytes} {pending : List SentFrame}
    (flow : Flow P sessionId suite near far view header pending) (calls : far.session.CallInv)
    (allArrived : near.outgoing = []) :
    unread far = (pending.flatMap SentFrame.bytes).length := by
  rw [unread, flow.receiver.takenHeader calls, ← flow.bytes, allArrived]
  simp

theorem Downstream.arrived (downstream : Downstream P sessionId suite near far)
    (allArrived : near.outgoing = []) (noneLeft : unread far = 0) : TcpPeer.Arrived near far := by
  obtain ⟨view, header, pending, _, _, _, leads⟩ := downstream.led
  rw [unread_of_flow leads.flow leads.followerSound.calls allArrived] at noneLeft
  have empty : pending = [] := by
    cases pending with
    | nil => rfl
    | cons sent rest =>
        rw [List.flatMap_cons, List.length_append] at noneLeft
        exact absurd (List.length_eq_zero_iff.mp (by omega)) sent.bytes_ne_nil
  obtain ⟨noHeader, noBuffer, _⟩ := leads.flow.pending_eq_nil.mp empty
  refine ⟨allArrived, noBuffer, ?_⟩
  rw [leads.flow.receiver.takenHeader leads.followerSound.calls, noHeader]

/-- A `recv` in progress gets the next frame. -/
theorem Downstream.resume (sized : P.SizedAead) (correct : P.CorrectAead)
    (downstream : Downstream P sessionId suite near far) (allArrived : near.outgoing = [])
    (someLeft : 0 < unread far) (receiving : far.session.receiving = true) :
    ∃ task far', far.step P (.resume task 0) = some far' ∧ unread far' < unread far := by
  obtain ⟨view, header, pending, _, _, _, leads⟩ := downstream.led
  have sound := leads.followerSound
  obtain ⟨task, at_, isAt, isRecv⟩ := sound.calls.receiving_iff.mp receiving
  obtain ⟨locals, pendingHeader, rfl⟩ := (sound.plain task at_ isAt).reading_of_recv isRecv
  obtain rfl := leads.flow.receiver.taken task locals pendingHeader isAt
  have before := unread_of_flow leads.flow sound.calls allArrived
  cases pending with
  | nil =>
      rw [before] at someLeft
      cases someLeft
  | cons sent rest =>
      have genuine := (leads.flow.genuine sent List.mem_cons_self).1
      have stream := leads.flow.bytes
      rw [List.flatMap_cons] at stream
      rcases readFrame_frameBytes true sent.type genuine.seq (genuine.fits sized) leads.flow.taken
          stream with ⟨left, finished, _⟩ | ⟨waits, _⟩
      · have stepped : far.session.step P
            (.read task (.ok (sentFrame sent.type sent.payload sent.seq)) 0) =
              some (far.session.readFrame P task locals 0
                (.ok (sentFrame sent.type sent.payload sent.seq))) := by
          simp [Session.step, isAt]
        have performed : far.step P (.resume task 0) =
            some (({ far with buffer := left } : TcpPeer).perform (far.session.readFrame P task
              locals 0 (.ok (sentFrame sent.type sent.payload sent.seq)))) := by
          simp [TcpPeer.step, TcpPeer.resumeRead, isAt, finished, stepped]
        obtain ⟨base, fate, moved⟩ := TcpPeer.moved_perform sized sound.bound stepped
          (.frame task _ 0 locals pendingHeader left isAt finished)
        obtain ⟨_, _, _, split, _, _, _, flow, _⟩ :=
          leads.flow.read sized correct sound moved leads.replayed
        cases split
        have calls := Session.callInv_progress sound.calls moved.progress
        rw [← moved.session] at calls
        refine ⟨task, _, performed, ?_⟩
        rw [before, unread_of_flow flow calls allArrived, List.flatMap_cons, List.length_append]
        have nonempty := List.length_pos_of_ne_nil sent.bytes_ne_nil
        omega
      · exact absurd allArrived waits

/-- A new `recv` can always be called when none is in progress. -/
theorem Downstream.call (sized : P.SizedAead)
    (downstream : Downstream P sessionId suite near far) (allArrived : near.outgoing = [])
    (notReceiving : far.session.receiving = false) :
    ∃ task far', far.step P (.call task .recv 0) = some far' ∧ unread far' = unread far ∧
      far'.session.receiving = true := by
  obtain ⟨view, header, pending, _, _, _, leads⟩ := downstream.led
  have sound := leads.followerSound
  obtain ⟨task, isNew⟩ := Infinite.exists_notMem_finset (far.session.calls.map Prod.fst).toFinset
  rw [List.mem_toFinset] at isNew
  have stepped : far.session.step P (.call task .recv 0) =
      some (({ far.session with calls := far.session.calls ++ [(task, .recv)] } :
        Session).begin task 0 .recv, {}) := by
    simp only [Session.step, if_neg isNew]
  have performed := congrArg (Option.map far.perform) stepped
  obtain ⟨base, fate, moved⟩ := TcpPeer.moved_perform sized sound.bound stepped
    (.nothing _ (by simp) (by simp))
  have epochs : base.epochs = far.session.epochs := by
    cases moved.progress with
    | called => rfl
    | refused task action locked admitted ready spent notBye exn => cases ready
  have undisturbed : far.Undisturbed (.call task .recv 0) := notReceiving
  obtain ⟨header', flow⟩ := leads.flow.progress sound undisturbed (.call task .recv 0) moved
    epochs (by simp)
  have calls := Session.callInv_progress sound.calls moved.progress
  rw [← moved.session] at calls
  refine ⟨task, _, performed, ?_, ?_⟩
  · rw [unread_of_flow leads.flow sound.calls allArrived]
    exact unread_of_flow flow calls allArrived
  · refine calls.receiving_iff.mpr ⟨task, .reading { ctrlWindowStart := 0 } none, ?_, rfl⟩
    simp [TcpPeer.perform, TcpPeer.applyStep, Session.begin]

/-! ## Runs -/

theorem downstream_step (sized : P.SizedAead) (correct : P.CorrectAead) {sender : Side}
    {link next : TcpLink} {action : LinkAction}
    (downstream : Downstream P sessionId suite (link.peer sender) (link.peer sender.other))
    (oneWay : link.OneWay sender action) (stepped : link.step P action = some next) :
    Downstream P sessionId suite (next.peer sender) (next.peer sender.other) := by
  cases action with
  | act side action =>
      obtain ⟨after, acted, rfl⟩ := step_act stepped
      by_cases isSender : side = sender
      · subst isSender
        simp only [OneWay, if_true] at oneWay
        have kept := downstream.sends sized correct oneWay acted
        cases side <;> exact kept
      · obtain rfl : side = sender.other := by
          cases side <;> cases sender <;> first | rfl | exact absurd rfl isSender
        simp only [OneWay, if_neg isSender] at oneWay
        have kept := downstream.receives sized correct oneWay acted
        cases sender <;> exact kept
  | transfer target count =>
      obtain ⟨peer, fed, rfl⟩ := Option.map_eq_some_iff.mp stepped
      simp only [TcpPeer.step] at fed
      split at fed <;> cases fed
      obtain ⟨_, _, _, _, _, _, leads⟩ := downstream.led
      have silent := downstream.noOutput
      have unread := downstream.noInput
      have forth : ∀ count, Downstream P sessionId suite
          { link.peer sender with outgoing := (link.peer sender).outgoing.drop count }
          { link.peer sender.other with
            buffer := (link.peer sender.other).buffer ++
              (link.peer sender).outgoing.take count } :=
        fun count => ⟨leads.transfer count, downstream.admission, downstream.sending,
          downstream.noInput, downstream.reading, downstream.noOutput⟩
      have back : ∀ count, Downstream P sessionId suite
          { link.peer sender with
            buffer := (link.peer sender).buffer ++
              (link.peer sender.other).outgoing.take count }
          { link.peer sender.other with
            outgoing := (link.peer sender.other).outgoing.drop count } :=
        fun count => ⟨leads.transferBack count, downstream.admission, downstream.sending,
          by simp [silent, unread], downstream.reading, by simp [silent]⟩
      cases target <;> cases sender
      · exact back count
      · exact forth count
      · exact forth count
      · exact back count
  | hangUp target =>
      simp only [TcpLink.step] at stepped
      split at stepped
      · rename_i hungUp
        obtain ⟨_, _, _, _, _, _, leads⟩ := downstream.led
        have isOpen : (link.peer target.other).closed = false := by
          cases target <;> cases sender <;>
            first | exact leads.leaderSound.isOpen | exact leads.followerSound.isOpen
        rw [isOpen] at hungUp
        cases hungUp.1
      · cases stepped

theorem downstream_new (sender : Side) {clientInfo serverInfo : SessionInfo}
    (mirrored : Mirrored clientInfo serverInfo) (clientBound : clientInfo.txSeq ≤ maxSeq)
    (serverBound : serverInfo.txSeq ≤ maxSeq) :
    Downstream P clientInfo.sessionId clientInfo.cipherSuite
      ((new clientInfo serverInfo).peer sender)
      ((new clientInfo serverInfo).peer sender.other) := by
  have admission : ∀ side, ((new clientInfo serverInfo).peer side).session.Admission := by
    intro side
    cases side <;> exact .new ..
  refine ⟨?_, admission sender, ?_, ?_, ?_, ?_⟩
  · obtain ⟨side, led⟩ := coordinated_new (P := P) mirrored clientBound serverBound
    by_cases same : side = sender
    · subst same
      exact led
    · obtain rfl : side = sender.other := by
        cases side <;> cases sender <;> first | rfl | exact absurd rfl same
      obtain ⟨_, _, _, _, _, _, leads⟩ := led
      rw [Side.other_other] at leads
      have swapped := leads.swap (by cases sender <;> rfl) (by cases sender <;> exact Nat.le_refl _)
      exact ⟨_, _, _, _, _, _, swapped⟩
  · intro task at_ isAt
    cases sender <;> cases isAt
  · cases sender <;> rfl
  · intro task at_ isAt
    cases sender <;> cases isAt
  · cases sender <;> rfl

/-- The receiver can go on until it has consumed everything, on its own. -/
theorem Downstream.drain (sized : P.SizedAead) (correct : P.CorrectAead) (sender : Side)
    (left : Nat) {link : TcpLink}
    (downstream : Downstream P sessionId suite (link.peer sender) (link.peer sender.other))
    (allArrived : (link.peer sender).outgoing = [])
    (bound : unread (link.peer sender.other) ≤ left) :
    ∃ actions last, Machine.run (step P) link actions = some last ∧
      Machine.Along (step P) (OneWay sender) link actions ∧
      last.peer sender = link.peer sender ∧
      TcpPeer.Arrived (last.peer sender) (last.peer sender.other) := by
  induction left generalizing link with
  | zero =>
      exact ⟨[], link, rfl, trivial, rfl, downstream.arrived allArrived (by omega)⟩
  | succ left ih =>
      by_cases noneLeft : unread (link.peer sender.other) = 0
      · exact ⟨[], link, rfl, trivial, rfl, downstream.arrived allArrived noneLeft⟩
      have someLeft : 0 < unread (link.peer sender.other) := by omega
      have otherSide : sender.other ≠ sender := by
        cases sender <;> simp [Side.other]
      -- with a `recv` in progress the next frame is read
      have onward : ∀ {link : TcpLink},
          Downstream P sessionId suite (link.peer sender) (link.peer sender.other) →
          (link.peer sender).outgoing = [] → 0 < unread (link.peer sender.other) →
          unread (link.peer sender.other) ≤ left + 1 →
          (link.peer sender.other).session.receiving = true →
          ∃ actions last, Machine.run (step P) link actions = some last ∧
            Machine.Along (step P) (OneWay sender) link actions ∧
            last.peer sender = link.peer sender ∧
            TcpPeer.Arrived (last.peer sender) (last.peer sender.other) := by
        intro link downstream allArrived someLeft bound receiving
        obtain ⟨task, far', resumed, less⟩ :=
          downstream.resume sized correct allArrived someLeft receiving
        have stepped : link.step P (.act sender.other (.resume task 0)) =
            some (link.withPeer sender.other far') := by
          simp [step, resumed]
        have allowed : link.OneWay sender (.act sender.other (.resume task 0)) := by
          rw [OneWay, if_neg otherSide]
          trivial
        have next := downstream_step sized correct downstream allowed stepped
        obtain ⟨actions, last, reached, along, same, arrived⟩ :=
          ih next (by simpa using allArrived) (by simp; omega)
        refine ⟨_ :: actions, last, Machine.run_cons_some.mpr ⟨_, stepped, reached⟩,
          ⟨allowed, ?_⟩, by simpa using same, arrived⟩
        intro other isOther
        rw [stepped] at isOther
        cases isOther
        exact along
      cases receiving : (link.peer sender.other).session.receiving with
      | true => exact onward downstream allArrived someLeft bound receiving
      | false =>
          obtain ⟨task, far', called, sameUnread, nowReceiving⟩ :=
            downstream.call sized allArrived receiving
          have stepped : link.step P (.act sender.other (.call task .recv 0)) =
              some (link.withPeer sender.other far') := by
            simp [step, called]
          have allowed : link.OneWay sender (.act sender.other (.call task .recv 0)) := by
            rw [OneWay, if_neg otherSide]
            exact receiving
          have next := downstream_step sized correct downstream allowed stepped
          obtain ⟨actions, last, reached, along, same, arrived⟩ :=
            onward next (by simpa using allArrived) (by simp; omega) (by simp; omega)
              (by simpa using nowReceiving)
          refine ⟨_ :: actions, last, Machine.run_cons_some.mpr ⟨_, stepped, reached⟩,
            ⟨allowed, ?_⟩, by simpa using same, arrived⟩
          intro other isOther
          rw [stepped] at isOther
          cases isOther
          exact along

/-- Everything that was written can arrive at once. -/
theorem transferAll (P : Primitives) (sender : Side) (link : TcpLink)
    (noEof : (link.peer sender.other).eof = false) :
    ∃ next, link.step P
        (.transfer sender.other (link.peer sender).outgoing.length) = some next ∧
      (next.peer sender).session = (link.peer sender).session ∧
      (next.peer sender).outgoing = [] := by
  cases sender <;>
    simp_all [step, TcpPeer.step, peer, withPeer, Side.other]

/-- What `far` has of `near` in a run in one direction. -/
structure TcpDelivery (P : Primitives) (sender : Side) (link : TcpLink) : Prop where
  noRaise : ¬ (link.peer sender.other).session.RecvRaised
  /-- Whole messages, in the order in which the lock admitted them. -/
  inOrder : (link.peer sender.other).session.received <+:
    (link.peer sender).session.admittedPayloads
  /-- With every frame consumed the receive position mirrors the sender's. -/
  keys : TcpPeer.Arrived (link.peer sender) (link.peer sender.other) →
    (link.peer sender).session.rekeying = none →
      (link.peer sender.other).session.info.rxKey = (link.peer sender).session.info.txKey ∧
      (link.peer sender.other).session.info.rxSeq = (link.peer sender).session.info.txSeq ∧
      (link.peer sender.other).session.info.txKey = (link.peer sender).session.info.rxKey
  /-- With every call returned and every frame consumed, all messages are there. -/
  complete : TcpPeer.Arrived (link.peer sender) (link.peer sender.other) →
    (∀ task, (link.peer sender).session.tasks task = none) →
      (link.peer sender.other).session.received = (link.peer sender).session.admittedPayloads ∧
      (link.peer sender.other).session.received.Perm
        ((link.peer sender).session.calls.filterMap fun call => call.2.payload?)
  /-- The receiver can go on, alone, until every frame is consumed. -/
  drains : ∃ actions last, Machine.run (step P) link actions = some last ∧
    Machine.Along (step P) (OneWay sender) link actions ∧
    (last.peer sender).session = (link.peer sender).session ∧
    TcpPeer.Arrived (last.peer sender) (last.peer sender.other)

theorem tcp_delivery (P : Primitives) (sized : P.SizedAead) (correct : P.CorrectAead)
    (sender : Side) (clientInfo serverInfo : SessionInfo)
    (mirrored : Mirrored clientInfo serverInfo) (clientBound : clientInfo.txSeq ≤ maxSeq)
    (serverBound : serverInfo.txSeq ≤ maxSeq) (actions : List LinkAction) (final : TcpLink)
    (reached : Machine.run (step P) (new clientInfo serverInfo) actions = some final)
    (oneWay : Machine.Along (step P) (OneWay sender) (new clientInfo serverInfo) actions) :
    TcpDelivery P sender final := by
  have downstream := Machine.run_invariant
    (fun link => Downstream P clientInfo.sessionId clientInfo.cipherSuite (link.peer sender)
      (link.peer sender.other))
    (fun _ _ _ downstream oneWay stepped => downstream_step sized correct downstream oneWay stepped)
    (downstream_new sender mirrored clientBound serverBound) oneWay reached
  obtain ⟨view, header, pending, back, backHeader, backPending, leads⟩ := downstream.led
  have delivered := leads.delivered.1
  have consumed : TcpPeer.Arrived (final.peer sender) (final.peer sender.other) →
      view = (final.peer sender).session.mirror P := by
    rintro ⟨noOutgoing, noBuffer, noHeader⟩
    rw [leads.flow.receiver.takenHeader leads.followerSound.calls] at noHeader
    have replayed := leads.replayed
    rw [leads.flow.pending_eq_nil.mpr ⟨noHeader, noBuffer, noOutgoing⟩] at replayed
    exact Option.some.inj replayed
  refine ⟨delivered.noRaise, delivered.inOrder, fun arrived quiet => ?_,
    fun arrived returned => ?_, ?_⟩
  · obtain ⟨txKey, rxKey, rxSeq⟩ := Session.mirror_keys (P := P) quiet
    have matched := leads.flow.receiver.matched
    rw [consumed arrived] at matched
    exact ⟨matched.rxKey.trans rxKey, matched.rxSeq.trans rxSeq, matched.txKey.trans txKey⟩
  · have free : (final.peer sender).session.holder = none := by
      unfold Session.holder
      cases (final.peer sender).session.lock <;> simp [returned]
    have all : (final.peer sender.other).session.received =
        (final.peer sender).session.admittedPayloads := by
      rw [leads.flow.receiver.messages, consumed arrived, Session.mirror, free]
      rfl
    rw [all]
    exact ⟨rfl, downstream.admission.perm leads.leaderSound.calls (by simp [returned])⟩
  · obtain ⟨next, stepped, session, outgoing⟩ :=
      transferAll P sender final leads.followerSound.noEof
    have allowed : final.OneWay sender
        (.transfer sender.other (final.peer sender).outgoing.length) := trivial
    obtain ⟨actions, last, reached, along, same, arrived⟩ :=
      (downstream_step sized correct downstream allowed stepped).drain sized correct sender _
        outgoing (Nat.le_refl _)
    refine ⟨_ :: actions, last, Machine.run_cons_some.mpr ⟨_, stepped, reached⟩,
      ⟨allowed, ?_⟩, by rw [same, session], arrived⟩
    intro other isOther
    rw [stepped] at isOther
    cases isOther
    exact along

/-- Two messages around a rotation of the keys. -/
def messagesAroundRekey : List LinkAction :=
  [.act .client (.call 0 (.send [9, 9]) 0),
    .act .client (.call 1 (.rekey ⟨List.replicate 32 5, length_sampleSalt⟩) 0),
    .act .client (.call 2 (.send []) 0), .act .client (.acquire 0),
    .act .client (.wrote 0 none 0), .act .client (.acquire 1), .act .client (.wrote 1 none 0),
    .act .client (.acquire 2), .act .client (.wrote 2 none 0), .transfer .server 200,
    .act .server (.call 0 .recv 0), .act .server (.resume 0 0), .act .server (.call 1 .recv 0),
    .act .server (.resume 1 0), .act .server (.resume 1 0)]

theorem tcp_delivery_messagesAroundRekey :
    ∃ final,
      Machine.run (step samplePrimitives) (new (sampleInfo 3 4) (sampleInfo 4 3))
          messagesAroundRekey = some final ∧
        final.server.session.received = [[9, 9], []] ∧
        TcpDelivery samplePrimitives .client final := by
  obtain ⟨final, reached, received⟩ := Machine.exists_run (step samplePrimitives)
    (new (sampleInfo 3 4) (sampleInfo 4 3)) messagesAroundRekey
    (fun final => final.server.session.received = [[9, 9], []])
    (by decide +kernel)
  refine ⟨final, reached, received, ?_⟩
  exact tcp_delivery samplePrimitives samplePrimitives_sized samplePrimitives_correct .client
    (sampleInfo 3 4) (sampleInfo 4 3) ⟨rfl, rfl, rfl, rfl, rfl, rfl⟩ (by decide) (by decide)
    messagesAroundRekey final reached (by decide +kernel)

end TcpLink

end Usmp
