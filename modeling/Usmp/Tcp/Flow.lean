import Usmp.Tcp.Link

/-!
# Frames in flight

`Flow near far view header pending` relates the bytes between two ends to frames:
`pending` is what `near` sent and `far` has not consumed, `view` is what `far` made
of everything before it, and `header` is the part that its `recv` has taken of the
next frame.
-/

namespace Usmp

/-- A holder that sends messages or rotates the keys. -/
def Locked.Plain : Locked → Prop
  | .send _ _ | .rekey _ => True
  | .ping | .bye | .pong _ => False

def Task.Plain : Task → Prop
  | .lockWait locked | .writing locked => locked.Plain
  | .reading _ _ => True

def PacketType.Plain (type : PacketType) : Prop :=
  type = .data ∨ type = .dataFrag ∨ type = .rekey

theorem Locked.Plain.frame {locked : Locked} (plain : locked.Plain) : locked.frame.1.Plain := by
  cases locked with
  | send data offset =>
      simp only [Locked.frame]
      split
      · exact .inr (.inl rfl)
      · exact .inl rfl
  | rekey salt => exact .inr (.inr rfl)
  | ping | bye | pong locals => exact plain.elim

theorem Task.Plain.reading_of_recv {at_ : Task} (plain : at_.Plain) (isRecv : at_.op = .recv) :
    ∃ locals pending, at_ = .reading locals pending := by
  cases at_ with
  | reading locals pending => exact ⟨locals, pending, rfl⟩
  | lockWait locked | writing locked =>
      cases locked with
      | pong locals => exact plain.elim
      | send data offset | ping | rekey salt | bye => cases isRecv

theorem Task.Plain.not_bye {at_ : Task} (plain : at_.Plain) : at_.op ≠ .bye := by
  intro isBye
  cases at_ with
  | reading locals pending => cases isBye
  | lockWait locked | writing locked =>
      cases locked with
      | bye => exact plain.elim
      | send data offset | ping | rekey salt | pong locals => cases isBye

namespace TcpPeer

variable {P : Primitives} {sessionId : FixedBytes usmpSessionIdLen} {suite : CipherSuite}

/-- What holds of each end throughout an undisturbed run. -/
structure Sound (sessionId : FixedBytes usmpSessionIdLen) (suite : CipherSuite)
    (peer : TcpPeer) : Prop where
  calls : peer.session.CallInv
  reliable : peer.session.reliable = true
  sessionId : peer.session.info.sessionId = sessionId
  suite : peer.session.info.cipherSuite = suite
  bound : peer.session.info.txSeq ≤ maxSeq
  isOpen : peer.closed = false
  connected : peer.lost = false
  noEof : peer.eof = false
  plain : ∀ task at_, peer.session.tasks task = some at_ → at_.Plain
  results : peer.session.Results

theorem Sound.new {info : SessionInfo} (sameId : info.sessionId = sessionId)
    (sameSuite : info.cipherSuite = suite) (bound : info.txSeq ≤ maxSeq) :
    Sound sessionId suite { session := .new true info } :=
  ⟨.new true info 0, rfl, sameId, sameSuite, bound, rfl, rfl, rfl, fun _ _ isAt => (by cases isAt),
    .new true info 0⟩

/-- The streams have no part in it. -/
theorem Sound.congr {before after : TcpPeer} (sound : Sound sessionId suite before)
    (session : after.session = before.session) (closed : after.closed = before.closed)
    (lost : after.lost = before.lost) (eof : after.eof = before.eof) :
    Sound sessionId suite after := by
  obtain ⟨calls, reliable, sameId, sameSuite, bound, isOpen, connected, noEof, plain, results⟩ :=
    sound
  rw [← session] at calls reliable sameId sameSuite bound plain results
  exact ⟨calls, reliable, sameId, sameSuite, bound, closed.trans isOpen, lost.trans connected,
    eof.trans noEof, plain, results⟩

theorem close_not_mem_recvTurn (reliable : Bool) (info : SessionInfo) (locals : RecvLocals)
    (now : Rat) (result : Except Exn USMPFrame) :
    (recvTurn P reliable info locals now result).calls.contains .close = false := by
  unfold recvTurn
  split
  · split <;> rfl
  · rfl
  split
  · rfl
  rename_i calls accepted
  have noClose : calls.contains .close = false := by
    obtain ⟨_, ⟨_, _, _, rfl⟩ | ⟨_, _, rfl⟩⟩ := acceptSeq_ok accepted <;> rfl
  split
  · exact noClose
  · rename_i handled
    obtain ⟨_, _, rfl⟩ | ⟨keys, _, _, _, _, _, rfl, _⟩ := handleFrame_ok handled
    · simpa using noClose
    · simpa using noClose

/-- Without BYE nothing closes the transport. -/
theorem close_not_mem {before base : Session} {action : SessionAction} {fate : Fate}
    {effects : Effects} (progress : before.Progress P action base fate effects)
    (plain : ∀ task at_, before.tasks task = some at_ → at_.Plain) :
    effects.calls.contains .close = false := by
  have noBye : ∀ {task : Nat} {locked : Locked}, before.tasks task = some (.writing locked) →
      locked.closing.contains .close = false := by
    intro task locked writing
    have isPlain := plain task _ writing
    cases locked <;> first | rfl | exact isPlain.elim
  cases progress with
  | failed task locked exn now writing => exact noBye writing
  | signalled task locked now writing kind => exact noBye writing
  | interrupted task locked writing => exact noBye writing
  | received task locals pending now result reading turn isTurn =>
      rw [isTurn]
      exact close_not_mem_recvTurn ..
  | abandoned task at_ isAt unlocked =>
      have isPlain := plain task at_ isAt
      have notBye : at_ ≠ .lockWait .bye := by
        rintro rfl
        exact isPlain.elim
      simp [notBye]
  | called | encrypted | refused | sent | rekeyed | ponged | tookHeader => rfl

/-- An undisturbed step with sequence left cuts no locked part short. -/
theorem completes_of_undisturbed {before : TcpPeer} {action : TcpAction}
    {resumption : SessionAction}
    (undisturbed : before.Undisturbed action)
    (unspent : ∀ locked, before.aboutToSend action = some locked →
      before.session.info.txSeq < maxSeq)
    (resumes : Resumes action resumption) : before.session.Completes resumption := by
  refine ⟨?_, ?_, ?_⟩
  · rintro task exn now rfl
    cases resumes
    cases undisturbed
  · rintro task rfl
    cases resumes
    exact undisturbed
  · intro task locked admitted ready
    exact unspent locked (aboutToSend_of_encrypting resumes ready)

/-- A step of `recv` ends as `Turned` says. -/
def Turns (resumption : SessionAction) (fate : Fate) : Prop :=
  ∀ task result now, resumption = .read task result now →
    ∃ step view next type, fate = step.fate ∧ View.Turned view next type step ∧ type.Plain

/-- Among messages and rotations a turn neither answers nor raises. -/
theorem turned_plain {view next : View} {type : PacketType} {step : RecvStep}
    (turned : View.Turned view next type step) (isPlain : type.Plain) :
    (∃ locals, step = .next locals) ∨ ∃ payload, step = .returned payload := by
  cases turned with
  | next locals => exact .inl ⟨locals, rfl⟩
  | returned payload => exact .inr ⟨payload, rfl⟩
  | pong locals shown messages isPing => rcases isPlain with rfl | rfl | rfl <;> cases isPing
  | raised exn fragments messages isPong => rcases isPlain with rfl | rfl | rfl <;> cases isPong

theorem Sound.moved {before after : TcpPeer} {action : TcpAction} {resumption : SessionAction}
    {base : Session} {fate : Fate} {effects : Effects} (sound : Sound sessionId suite before)
    (undisturbed : before.Undisturbed action)
    (unspent : ∀ locked, before.aboutToSend action = some locked →
      before.session.info.txSeq < maxSeq)
    (resumes : Resumes action resumption)
    (moved : Moved P before after resumption base fate effects)
    (turns : Turns resumption fate) : Sound sessionId suite after := by
  obtain ⟨sameId, sameSuite, sameReliable, bound⟩ := moved.progress.identity
  have completes := completes_of_undisturbed undisturbed unspent resumes
  have fated : (∀ at_, fate.await = some at_ → at_.Plain) ∧
      ∀ exn at_, fate = .ended (.raised exn) →
        before.session.tasks resumption.task = some at_ → at_.op ≠ .recv := by
    have other : ∀ {outcome : Outcome} {at_ : Task},
        before.session.tasks resumption.task = some at_ → at_.op ≠ .recv →
        (∀ at_, (Fate.ended outcome).await = some at_ → at_.Plain) ∧
          ∀ exn at_, Fate.ended outcome = .ended (.raised exn) →
            before.session.tasks resumption.task = some at_ → at_.op ≠ .recv := by
      intro outcome at_ isAt notRecv
      refine ⟨fun _ impossible => (by cases impossible), fun exn at_' _ isAt' => ?_⟩
      rw [isAt] at isAt'
      cases isAt'
      exact notRecv
    cases moved.progress with
    | called task op now isNew =>
        refine ⟨fun at_ isAt => ?_, fun exn at_ _ isAt => ?_⟩
        · cases resumes
          cases op with
          | send data =>
              simp only [Op.start] at isAt
              split at isAt <;> cases isAt
              trivial
          | rekey salt | recv =>
              cases isAt
              trivial
          | ping | bye => exact undisturbed.elim
        · rw [SessionAction.task, sound.calls.none_of_new isNew] at isAt
          cases isAt
    | encrypted task action locked admitted ready notSpent =>
        refine ⟨fun at_ isAt => ?_, fun exn at_ impossible => (by cases impossible)⟩
        cases isAt
        cases ready with
        | admitted locked free waiting =>
            have isPlain := sound.plain task _ waiting
            exact isPlain
        | nextFragment => trivial
    | refused task action locked admitted ready spent notBye exn =>
        exact absurd (completes.unspent task locked admitted ready) (Nat.not_lt.mpr spent)
    | failed task locked exn now writing => exact absurd rfl (completes.noFailure task exn now)
    | sent task data offset now writing last => exact other writing (by simp [Locked.op])
    | signalled task locked now writing kind =>
        have isPlain := sound.plain task _ writing
        rcases kind with rfl | rfl <;> exact isPlain.elim
    | rekeyed task salt now writing => exact other writing (by simp [Locked.op])
    | ponged task locals now writing => exact (sound.plain task _ writing).elim
    | received task locals pending now result reading turn isTurn =>
        obtain ⟨step, view, next, type, isStep, turned, isPlain⟩ := turns task result now rfl
        rw [isStep]
        rcases turned_plain turned isPlain with ⟨locals, rfl⟩ | ⟨payload, rfl⟩
        · refine ⟨fun at_ isAt => ?_, fun exn at_ impossible => (by cases impossible)⟩
          cases isAt
          trivial
        · exact ⟨fun _ impossible => (by cases impossible),
            fun exn at_ impossible => (by cases impossible)⟩
    | tookHeader =>
        refine ⟨fun at_ isAt => ?_, fun exn at_ impossible => (by cases impossible)⟩
        cases isAt
        trivial
    | abandoned task at_ isAt unlocked => exact absurd rfl (completes.noCancel task)
    | interrupted task locked writing => exact absurd rfl (completes.noCancel task)
  refine ⟨?_, ?_, ?_, ?_, ?_, ?_, ?_, ?_, ?_, ?_⟩
  · rw [moved.session]
    exact Session.callInv_progress sound.calls moved.progress
  · rw [moved.session]
    simpa using sameReliable.trans sound.reliable
  · rw [moved.session]
    simpa using sameId.trans sound.sessionId
  · rw [moved.session]
    simpa using sameSuite.trans sound.suite
  · rw [moved.session]
    simpa using bound sound.bound
  · rw [moved.closed, sound.isOpen, close_not_mem moved.progress sound.plain]
    rfl
  · rw [moved.lost, sound.connected]
  · rw [moved.eof, sound.noEof]
  · intro task at_ isAt
    rw [moved.session, Session.settle_tasks] at isAt
    by_cases same : task = resumption.task
    · subst same
      exact fated.1 at_ (by simpa using isAt)
    · rw [Function.update_of_ne same, moved.progress.frame.1] at isAt
      exact sound.plain task at_ isAt
  · rw [moved.session]
    exact sound.results.progress sound.calls moved.progress completes fated.2

end TcpPeer

/-! ## One direction of a connection -/

/-- `pending` is on its way from `near` to `far`, whose `recv` has taken `header` of it
and which has made `view` of everything before it. -/
structure Flow (P : Primitives) (sessionId : FixedBytes usmpSessionIdLen) (suite : CipherSuite)
    (near far : TcpPeer) (view : View) (header : Option Bytes) (pending : List SentFrame) :
    Prop where
  receiver : far.session.Receiver view header
  taken : ∀ bytes, header = some bytes → bytes.length = usmpHeaderSize
  bytes : header.getD [] ++ far.buffer ++ near.outgoing = pending.flatMap SentFrame.bytes
  genuine : ∀ sent ∈ pending, sent.Genuine P sessionId suite ∧ sent.type.Plain

namespace Flow

variable {P : Primitives} {sessionId : FixedBytes usmpSessionIdLen} {suite : CipherSuite}
  {near near' far far' : TcpPeer} {view : View} {header : Option Bytes}
  {pending : List SentFrame}

/-- The sender writes. -/
theorem append (flow : Flow P sessionId suite near far view header pending)
    {more : List SentFrame}
    (outgoing : near'.outgoing = near.outgoing ++ more.flatMap SentFrame.bytes)
    (genuine : ∀ sent ∈ more, sent.Genuine P sessionId suite ∧ sent.type.Plain) :
    Flow P sessionId suite near' far view header (pending ++ more) := by
  refine ⟨flow.receiver, flow.taken, ?_, ?_⟩
  · rw [outgoing, ← List.append_assoc, flow.bytes, List.flatMap_append]
  · intro sent member
    rcases List.mem_append.mp member with old | new
    · exact flow.genuine sent old
    · exact genuine sent new

/-- The sender does something else. -/
theorem still (flow : Flow P sessionId suite near far view header pending)
    (outgoing : near'.outgoing = near.outgoing) :
    Flow P sessionId suite near' far view header pending :=
  ⟨flow.receiver, flow.taken, by rw [outgoing, flow.bytes], flow.genuine⟩

/-- Bytes get from one end to the other. -/
theorem transfer (flow : Flow P sessionId suite near far view header pending) (count : Nat) :
    Flow P sessionId suite { near with outgoing := near.outgoing.drop count }
      { far with buffer := far.buffer ++ near.outgoing.take count } view header pending := by
  refine ⟨flow.receiver, flow.taken, ?_, flow.genuine⟩
  rw [← flow.bytes]
  simp

/-- The receiver does something that leaves the stream where it was. -/
theorem keep (flow : Flow P sessionId suite near far view header pending) {next : View}
    {header' : Option Bytes} (receiver : far'.session.Receiver next header')
    (taken : ∀ bytes, header' = some bytes → bytes.length = usmpHeaderSize)
    (kept : header'.getD [] ++ far'.buffer = header.getD [] ++ far.buffer) :
    Flow P sessionId suite near far' next header' pending :=
  ⟨receiver, taken, by rw [kept, flow.bytes], flow.genuine⟩

/-- Nothing is on its way exactly when neither stream holds a byte. -/
theorem pending_eq_nil (flow : Flow P sessionId suite near far view header pending) :
    pending = [] ↔ header = none ∧ far.buffer = [] ∧ near.outgoing = [] := by
  have bytes := flow.bytes
  constructor
  · rintro rfl
    simp only [List.flatMap_nil, List.append_eq_nil_iff] at bytes
    refine ⟨?_, bytes.1.2, bytes.2⟩
    cases isHeader : header with
    | none => rfl
    | some taken =>
        have size := flow.taken taken isHeader
        rw [isHeader] at bytes
        simp_all [usmpHeaderSize]
  · rintro ⟨rfl, noBuffer, noOutgoing⟩
    rw [noBuffer, noOutgoing] at bytes
    cases pending with
    | nil => rfl
    | cons sent rest =>
        have empty : sent.bytes = [] := by
          simp only [Option.getD_none, List.append_nil, List.flatMap_cons] at bytes
          exact (List.append_eq_nil_iff.mp bytes.symm).1
        exact absurd empty (SentFrame.bytes_ne_nil _)

/-- A step of the receiver other than reading a frame. -/
theorem progress (flow : Flow P sessionId suite near far view header pending)
    (sound : TcpPeer.Sound sessionId suite far) {action : TcpAction}
    {resumption : SessionAction} {base : Session} {fate : Fate} {effects : Effects}
    (undisturbed : far.Undisturbed action) (resumes : TcpPeer.Resumes action resumption)
    (moved : TcpPeer.Moved P far far' resumption base fate effects)
    (epochs : base.epochs = far.session.epochs)
    (notRead : ∀ task result now, resumption ≠ .read task result now) :
    ∃ header', Flow P sessionId suite near far' view header' pending := by
  have single : ∀ task now, resumption = .call task .recv now →
      far.session.receiving = false := by
    rintro task now rfl
    cases resumes
    exact undisturbed
  have goesOn : ∀ at_, far.session.tasks resumption.task = some at_ → at_.op = .recv →
      ∃ next, fate.await = some next := by
    intro at_ isAt isRecv
    obtain ⟨locals, pending, rfl⟩ :=
      (sound.plain resumption.task at_ isAt).reading_of_recv isRecv
    cases moved.progress with
    | called task op now isNew =>
        rw [SessionAction.task, sound.calls.none_of_new isNew] at isAt
        cases isAt
    | encrypted task action locked admitted ready unspent => exact ⟨_, rfl⟩
    | refused task action locked admitted ready spent notBye exn =>
        obtain ⟨isTask, was, wasAt, _, notReading⟩ := ready.was
        rw [isTask, wasAt] at isAt
        exact absurd (Option.some.inj isAt) (notReading _ _)
    | failed task locked exn now writing =>
        cases resumes
        cases undisturbed
    | sent task data offset now writing last =>
        rw [SessionAction.task, writing] at isAt
        cases isAt
    | signalled task locked now writing kind =>
        rw [SessionAction.task, writing] at isAt
        cases isAt
    | rekeyed task salt now writing =>
        rw [SessionAction.task, writing] at isAt
        cases isAt
    | ponged task locals now writing =>
        rw [SessionAction.task, writing] at isAt
        cases isAt
    | received task locals pending now result reading turn isTurn =>
        exact absurd rfl (notRead task result now)
    | tookHeader => exact ⟨_, rfl⟩
    | abandoned | interrupted =>
        cases resumes
        exact undisturbed.elim
  have receiver := Session.Receiver.progress sound.calls sound.reliable flow.receiver
    moved.progress epochs notRead single goesOn
  rw [← moved.session] at receiver
  have took := moved.took
  generalize isLeft : far'.buffer = left at took
  have sameHeader : (∀ task taken, resumption ≠ .readHeader task taken) →
      Session.headerAfter header resumption = header := by
    intro notHeader
    cases resumption with
    | readHeader task taken => exact absurd rfl (notHeader task taken)
    | _ => rfl
  cases took with
  | frame task result now => exact absurd rfl (notRead task result now)
  | cutOff task now exn => exact absurd rfl (notRead task _ now)
  | header task taken left locals reading readHeader =>
      obtain ⟨isBuffer, size⟩ := readFrame_takes_header readHeader
      obtain rfl := flow.receiver.taken task locals none reading
      refine ⟨some taken, flow.keep receiver ?_ ?_⟩
      · rintro bytes ⟨⟩
        exact size
      · rw [isLeft]
        exact isBuffer
  | nothing action _ notHeader =>
      rw [sameHeader notHeader] at receiver
      exact ⟨header, flow.keep receiver flow.taken (by rw [isLeft])⟩

/-- What a reading `recv` gets is the next frame of the stream. -/
theorem next (sized : P.SizedAead)
    (flow : Flow P sessionId suite near far view header pending)
    (sound : TcpPeer.Sound sessionId suite far) {task : Nat} {result : Except Exn USMPFrame}
    {now : Rat} {base : Session} {fate : Fate} {effects : Effects}
    (moved : TcpPeer.Moved P far far' (.read task result now) base fate effects) :
    ∃ sent rest locals, pending = sent :: rest ∧
      far.session.tasks task = some (.reading locals header) ∧
      readFrame true header far.buffer = (.finished result, far'.buffer) ∧
      result = .ok (sentFrame sent.type sent.payload sent.seq) ∧
      far'.buffer ++ near.outgoing = rest.flatMap SentFrame.bytes := by
  obtain ⟨locals, pendingHeader, left, reading, finished, isLeft⟩ :
      ∃ locals pendingHeader left,
        far.session.tasks task = some (.reading locals pendingHeader) ∧
        readFrame true pendingHeader far.buffer = (.finished result, left) ∧
        left = far'.buffer := by
    have took := moved.took
    generalize isLeft : far'.buffer = left at took
    cases took with
    | frame task result now locals pending left reading read =>
        exact ⟨locals, pending, left, reading, read, rfl⟩
    | cutOff task now exn ended =>
        rw [sound.noEof] at ended
        cases ended
    | nothing action notRead notHeader => exact absurd rfl (notRead task result now)
  obtain rfl := flow.receiver.taken task locals pendingHeader reading
  cases pending with
  | nil =>
      obtain ⟨rfl, noBuffer, _⟩ := flow.pending_eq_nil.mp rfl
      rw [noBuffer, readFrame_nil] at finished
      cases finished
  | cons sent rest =>
      have genuine := (flow.genuine sent List.mem_cons_self).1
      have stream := flow.bytes
      rw [List.flatMap_cons] at stream
      rcases readFrame_frameBytes true sent.type genuine.seq (genuine.fits sized) flow.taken
        stream with
        ⟨left', whole, remaining⟩ | ⟨_, header', left', suspended, _⟩
      · rw [finished] at whole
        cases whole
        exact ⟨sent, rest, locals, rfl, reading, by rw [finished, isLeft], rfl,
          by rw [← isLeft, remaining]⟩
      · rw [finished] at suspended
        cases suspended

/-- Reading takes the next frame off the stream. -/
theorem read (sized : P.SizedAead) (correct : P.CorrectAead)
    (flow : Flow P sessionId suite near far view header pending)
    (sound : TcpPeer.Sound sessionId suite far) {task : Nat}
    {result : Except Exn USMPFrame} {now : Rat} {base : Session} {fate : Fate}
    {effects : Effects} {final : View}
    (moved : TcpPeer.Moved P far far' (.read task result now) base fate effects)
    (replayed : view.replay P sessionId pending = some final) :
    ∃ sent rest next, pending = sent :: rest ∧
      far.readsNext (.resume task now) = some sent.type ∧
      view.accept P sessionId sent = some next ∧
      next.replay P sessionId rest = some final ∧
      Flow P sessionId suite near far' next none rest ∧
      base.info.txSeq = (if sent.type = .rekey then 0 else far.session.info.txSeq) ∧
      base.epochs = far.session.epochs ++
        (if sent.type = .rekey then [(next.txKey, next.rxKey)] else []) ∧
      TcpPeer.Turns (.read task result now) fate := by
  obtain ⟨sent, rest, locals, rfl, reading, finished, rfl, remaining⟩ := flow.next sized sound moved
  obtain ⟨genuine, isPlain⟩ := flow.genuine sent List.mem_cons_self
  obtain ⟨next, accepted, restReplayed⟩ := Machine.run_cons_some.mp replayed
  refine ⟨sent, rest, next, rfl, ?_, accepted, restReplayed, ?_⟩
  · simp [TcpPeer.readsNext, reading, finished, sentFrame]
  cases moved.progress with
  | encrypted task action locked admitted ready unspent => cases ready
  | refused task action locked admitted ready spent notBye exn => cases ready
  | received task locals' pending now result reading' turn isTurn =>
      rw [reading] at reading'
      cases reading'
      have sameKey : far.session.info.rxKey = sent.txKey := by
        rw [flow.receiver.matched.rxKey, (View.accept_some.mp accepted).1.1]
      have opened := genuine.openFrame sized correct sameKey sound.sessionId sound.suite
      have turned := View.recvTurn_accept now flow.receiver.tidy flow.receiver.matched
        (flow.receiver.shown task _ locals reading rfl) opened rfl rfl
        (by rwa [sound.sessionId])
      rw [← sound.reliable, ← isTurn] at turned
      obtain ⟨matched, _, _, txSeq, rotations, isTurned⟩ := turned
      refine ⟨⟨?_, by simp, by simpa using remaining, ?_⟩, txSeq, by rw [rotations], ?_⟩
      · rw [moved.session]
        exact flow.receiver.read reading rfl rfl matched (flow.receiver.tidy.accept accepted)
          isTurned
      · exact fun other member => flow.genuine other (List.mem_cons_of_mem _ member)
      · rintro _ _ _ ⟨⟩
        exact ⟨_, view, next, sent.type, rfl, isTurned, isPlain⟩

end Flow

end Usmp
