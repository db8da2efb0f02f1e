import Usmp.Session.Teller
import Usmp.Tcp.Link
import Usmp.Udp.Noise

/-!
# Ends that exchange messages

This module is about UDP ends that only call `send` and `recv`, whose network hands over what
the other end sent: what a step of such an end can do, and what holds of it by itself.
-/

namespace Usmp

open LittleEndian UDPStream

/-- The types of the frames that carry a message. -/
def PacketType.IsData (type : PacketType) : Prop := type = .data ∨ type = .dataFrag

/-- A coroutine of `send`, or one of `recv` that reads. -/
def Task.Messaging : Task → Prop
  | .lockWait (.send _ _) | .writing (.send _ _) | .reading _ none => True
  | _ => False

/-- A `recv` of such an end reads. -/
theorem Task.Messaging.reading {at_ : Task} (plain : at_.Messaging) (isRecv : at_.op = .recv) :
    ∃ locals, at_ = .reading locals none := by
  cases at_ with
  | reading locals pending =>
      cases pending with
      | none => exact ⟨locals, rfl⟩
      | some header => exact plain.elim
  | lockWait locked | writing locked =>
      cases locked with
      | send data offset => cases isRecv
      | ping | rekey salt | bye | pong locals => exact plain.elim

/-- A frame of a message, sent under these session parameters. -/
structure SentFrame.Message (P : Primitives) (start : SessionInfo) (sent : SentFrame) : Prop where
  genuine : sent.Genuine P start.sessionId start.cipherSuite
  txKey : sent.txKey = start.txKey
  isData : sent.type.IsData
  below : sent.seq < maxSeq

/-- The bytes of these frames, one after the other. -/
def bytesOf (queue : List SentFrame) : Bytes := (queue.map SentFrame.bytes).flatten

/-- Session parameters that differ in their sequences only. -/
structure Keyed (start info : SessionInfo) : Prop where
  sessionId : info.sessionId = start.sessionId
  suite : info.cipherSuite = start.cipherSuite
  txKey : info.txKey = start.txKey
  rxKey : info.rxKey = start.rxKey

theorem Keyed.same {start before after : SessionInfo} (keyed : Keyed start before)
    (same : SameKeys before after) : Keyed start after :=
  ⟨same.sessionId.trans keyed.sessionId, same.cipherSuite.trans keyed.suite,
    same.txKey.trans keyed.txKey, same.rxKey.trans keyed.rxKey⟩

/-- The session reads something. -/
def SessionAction.reads : SessionAction → Bool
  | .read _ _ _ | .readHeader _ _ => true
  | .call _ _ _ | .acquire _ | .wrote _ _ _ | .cancel _ => false

namespace UdpPeer

/-- An end whose handshake is over.  What the handshake left in the rest of the stream does
not matter. -/
def established (info : SessionInfo) (stream : UDPStream) : UdpPeer :=
  { session := .new false info
    stream := { stream with
      readBuffer := []
      lastRxSeq := -1
      closed := false
      txKey := some info.txKey
      rxKey := some info.rxKey } }

/-- The write in progress after an action, before the session asks for another. -/
def arqAfter (peer : UdpPeer) : UdpAction → Option Arq
  | .acked _ | .timeout _ => none
  | .cancel task => if peer.session.lock = some task then none else peer.arq
  | .call _ _ _ | .acquire _ | .resume _ _ | .feed _ => peer.arq

/-- The first transmission of a frame. -/
def sending (peer : UdpPeer) (sent : SentFrame) : UdpPeer :=
  { peer with
    stream := { peer.stream with
      pendingSendData := none
      pendingSendType := some sent.type.toNat
      pendingSendSeq := some sent.seq
      ackReceived := false }
    arq := some { task := sent.task, data := sent.bytes, attempt := 0 }
    outbox := peer.outbox ++ [sent.bytes] }

/-- A `recv` takes the front of the buffer. -/
def taking (P : Primitives) (peer : UdpPeer) (task : Nat) (locals : RecvLocals) (now : Rat)
    (sent : SentFrame) (rest : List SentFrame) : UdpPeer :=
  let turn := recvTurn P peer.session.reliable peer.session.info locals now
    (.ok (sentFrame sent.type sent.payload sent.seq))
  ({ peer with stream := { peer.stream with readBuffer := bytesOf rest } } : UdpPeer).applyStep
    (({ peer.session with
        info := turn.info
        lastRecv := if turn.authenticated then now else peer.session.lastRecv
        epochs := peer.session.epochs ++ turn.rotations } : Session).settle task turn.step.fate,
      { calls := turn.calls })

/-- What a step of an end does that exchanges messages and has these frames in its buffer. -/
inductive Move (P : Primitives) (peer : UdpPeer) (queue : List SentFrame) :
    UdpAction → UdpPeer → Prop where
  /-- A coroutine goes on without reading or writing. -/
  | quiet (action : UdpAction) (sessionAction : SessionAction) (base : Session) (fate : Fate)
      (performs : peer.sessionAction action = some sessionAction)
      (acked : ∀ now, action = .acked now → peer.stream.ackReceived = true)
      (notRead : sessionAction.reads = false)
      (progress : Session.Progress P peer.session sessionAction base fate {}) :
      Move P peer queue action
        { peer with
          session := base.settle sessionAction.task fate
          arq := peer.arqAfter action }
  | wrote (action : UdpAction) (sessionAction : SessionAction) (base : Session) (fate : Fate)
      (sent : SentFrame) (performs : peer.sessionAction action = some sessionAction)
      (acked : ∀ now, action = .acked now → peer.stream.ackReceived = true)
      (progress : Session.Progress P peer.session sessionAction base fate { write := some sent }) :
      Move P peer queue action
        (({ peer with
            session := base.settle sessionAction.task fate
            arq := peer.arqAfter action } : UdpPeer).sending sent)
  | again (now : Rat) (arq : Arq) (inFlight : peer.arq = some arq)
      (early : arq.attempt + 1 < maxAttempts) :
      Move P peer queue (.timeout now)
        { peer with
          arq := some { arq with attempt := arq.attempt + 1 }
          outbox := peer.outbox ++ [arq.data] }
  | waits (task : Nat) (now : Rat) : Move P peer queue (.resume task now) peer
  | took (task : Nat) (now : Rat) (locals : RecvLocals) (sent : SentFrame)
      (rest : List SentFrame) (reading : peer.session.tasks task = some (.reading locals none))
      (isFront : queue = sent :: rest) :
      Move P peer queue (.resume task now) (peer.taking P task locals now sent rest)
  | fed (data : Bytes) : Move P peer queue (.feed data) (peer.feed P data)

/-- What holds of an end that exchanges messages and began with these session parameters. -/
structure Talks (P : Primitives) (start : SessionInfo) (peer : UdpPeer) : Prop where
  isOpen : peer.stream.closed = false
  unreliable : peer.session.reliable = false
  calls : peer.session.CallInv
  tasks : ∀ task at_, peer.session.tasks task = some at_ → at_.Messaging
  keyed : Keyed start peer.session.info
  bound : peer.session.info.txSeq ≤ maxSeq
  log : ∀ sent ∈ peer.session.sent, sent.Message P start
  outbox : ∀ data ∈ peer.outbox, isUtack data = false →
    ∃ sent ∈ peer.session.sent, data = sent.bytes
  arq : ∀ arq, peer.arq = some arq → ∃ sent ∈ peer.session.sent, arq.data = sent.bytes

/-- The buffer holds these frames, which the other end logged. -/
structure Hears (peer : UdpPeer) (log queue : List SentFrame) : Prop where
  inLog : ∀ sent ∈ queue, sent ∈ log
  buffer : peer.stream.readBuffer = bytesOf queue

/-- The calls are `send` and `recv`, and the network hands over what the other end sent. -/
def Exchanges (other : UdpPeer) : UdpAction → Prop
  | .call _ (.send _) _ | .call _ .recv _ => True
  | .call _ .ping _ | .call _ (.rekey _) _ | .call _ .bye _ => False
  | .feed data => data ∈ other.outbox
  | .acquire _ | .acked _ | .timeout _ | .resume _ _ | .cancel _ => True

/-! ## What a step does -/

section Steps

variable {P : Primitives} {start : SessionInfo} {peer other next : UdpPeer} {action : UdpAction}
  {sessionAction : SessionAction} {base : Session} {fate : Fate} {effects : Effects}
  {log queue : List SentFrame}

theorem isFrame_of_genuine (sized : P.SizedAead) {sessionId : FixedBytes usmpSessionIdLen}
    {suite : CipherSuite} {sent : SentFrame} (genuine : sent.Genuine P sessionId suite) :
    IsFrame sent.bytes ∧ typeOf sent.bytes = sent.type.toNat ∧ seqOf sent.bytes = sent.seq := by
  rcases isFrame_frameBytes sent.type genuine.seq (genuine.fits sized) with
    ⟨frame, isType, isSeq, _⟩
  exact ⟨frame, isType, isSeq⟩

theorem bytes_pos (sized : P.SizedAead) {sent : SentFrame} (message : sent.Message P start) :
    0 < sent.bytes.length := by
  rw [(isFrame_of_genuine sized message.genuine).1.size]
  exact Nat.lt_of_lt_of_le (by decide) (Nat.le_add_right usmpHeaderSize _)

theorem startWrite_open (isOpen : peer.stream.closed = false) {sent : SentFrame}
    (sized : P.SizedAead) (message : sent.Message P start) :
    peer.startWrite sent = peer.sending sent := by
  rcases isFrame_of_genuine sized message.genuine with ⟨frame, isType, isSeq⟩
  have long : sent.bytes.length ≥ 8 := by
    rw [frame.size]
    simp only [usmpHeaderSize]
    omega
  have typeField : fieldAt sent.bytes 3 1 = sent.type.toNat := isType
  have seqField : fieldAt sent.bytes 4 4 = sent.seq := isSeq
  have notClosed : ¬ peer.stream.closed = true := by
    rw [isOpen]
    exact Bool.false_ne_true
  have wrote : peer.stream.write sent.bytes = .ok { peer.stream with
      pendingSendData := some sent.bytes
      pendingSendType := some sent.type.toNat
      pendingSendSeq := some sent.seq } := by
    rw [UDPStream.write, if_neg notClosed, if_pos long, if_pos long, typeField, seqField]
  simp only [startWrite, message.genuine.encode sized, wrote, startDrain, sending]

/-- A `recv` that reads gets the first frame of the buffer. -/
theorem resume_front (sized : P.SizedAead) {task : Nat} {locals : RecvLocals}
    (reading : peer.session.tasks task = some (.reading locals none)) {sent : SentFrame}
    (message : sent.Message P start) (now : Rat) {rest : List SentFrame}
    (buffer : peer.stream.readBuffer = bytesOf (sent :: rest)) :
    peer.step P (.resume task now) = some (peer.taking P task locals now sent rest) := by
  have frame := (isFrame_of_genuine sized message.genuine).1
  have decoded : decodeFrame sent.bytes true =
      .ok (sentFrame sent.type sent.payload sent.seq) := by
    have decoded := decodeFrame_frameBytes sent.type sent.payload [] true
      message.genuine.seq (message.genuine.fits sized)
    rwa [List.append_nil] at decoded
  simp only [step, resumeRead, reading]
  rw [buffer, bytesOf, List.map_cons, List.flatten_cons, readFrame_datagram true frame, decoded]
  simp only [Session.step, reading, Session.readFrame, Session.resumeRecv_eq]
  rfl

namespace Talks

/-- Only coroutines of `send` take part in the lock. -/
theorem writing (talks : Talks P start peer) {task : Nat} {locked : Locked}
    (isAt : peer.session.tasks task = some (.writing locked)) :
    ∃ data offset, locked = .send data offset := by
  have plain := talks.tasks task _ isAt
  cases locked with
  | send data offset => exact ⟨data, offset, rfl⟩
  | ping | rekey salt | bye | pong locals => exact plain.elim

theorem encrypting (talks : Talks P start peer) {task : Nat} {locked : Locked}
    {admitted : List (Nat × Locked)}
    (ready : Session.Encrypting peer.session task sessionAction locked admitted) :
    ∃ data offset, locked = .send data offset := by
  cases ready with
  | admitted locked free waiting =>
      have plain := talks.tasks task _ waiting
      cases locked with
      | send data offset => exact ⟨data, offset, rfl⟩
      | ping | rekey salt | bye | pong locals => exact plain.elim
  | nextFragment data offset now writing more => exact ⟨data, _, rfl⟩

theorem sent_message (talks : Talks P start peer) {sent : SentFrame}
    (progress : Session.Progress P peer.session sessionAction base fate
      { write := some sent }) : sent.Message P start := by
  cases progress with
  | encrypted task action locked admitted ready unspent =>
      rcases talks.encrypting ready with ⟨data, offset, rfl⟩
      have isData : (encryptedFrame P peer.session.info task (.send data offset)).type.IsData := by
        simp only [encryptedFrame, Locked.frame, PacketType.IsData]
        split
        · exact .inr rfl
        · exact .inl rfl
      refine ⟨?_, talks.keyed.txKey, isData, ?_⟩
      · rw [← talks.keyed.sessionId, ← talks.keyed.suite]
        exact encryptedFrame_genuine P task _ talks.bound
      · rcases unspent with below | isBye
        · exact below
        · have isType : (encryptedFrame P peer.session.info task (.send data offset)).type = .bye :=
            isBye
          rw [isType] at isData
          rcases isData with isData | isFrag
          · cases isData
          · cases isFrag

/-- A step that reads nothing asks the transport for a write at most. -/
theorem quiet_or_write (talks : Talks P start peer)
    (notRead : sessionAction.reads = false)
    (progress : Session.Progress P peer.session sessionAction base fate effects) :
    effects = {} ∨ ∃ sent, effects = { write := some sent } := by
  cases progress with
  | called | refused | sent => exact .inl rfl
  | tookHeader => cases notRead
  | encrypted task action locked admitted ready unspent => exact .inr ⟨_, rfl⟩
  | failed task locked exn now isAt =>
      rcases talks.writing isAt with ⟨data, offset, rfl⟩
      exact .inl rfl
  | signalled task locked now isAt kind =>
      rcases talks.writing isAt with ⟨data, offset, rfl⟩
      rcases kind with isPing | isBye
      · cases isPing
      · cases isBye
  | rekeyed task salt now isAt =>
      rcases talks.writing isAt with ⟨data, offset, isSend⟩
      cases isSend
  | ponged task locals now isAt =>
      rcases talks.writing isAt with ⟨data, offset, isSend⟩
      cases isSend
  | received task locals pending now result reading turn isTurn =>
      cases notRead
  | abandoned task at_ isAt unlocked =>
      left
      have notBye : at_ ≠ .lockWait .bye := by
        intro isBye
        subst isBye
        exact talks.tasks task _ isAt
      rw [if_neg notBye]
  | interrupted task locked isAt =>
      rcases talks.writing isAt with ⟨data, offset, rfl⟩
      exact .inl rfl

/-- The session step of an action that reads nothing. -/
theorem moved (talks : Talks P start peer) (sized : P.SizedAead) (action : UdpAction)
    {result : Session × Effects} (performs : peer.sessionAction action = some sessionAction)
    (acked : ∀ now, action = .acked now → peer.stream.ackReceived = true)
    (notRead : sessionAction.reads = false)
    (onSession : peer.session.step P sessionAction = some result) :
    Move P peer queue action
      (({ peer with arq := peer.arqAfter action } : UdpPeer).perform result) := by
  rcases Session.progress_of_step onSession with ⟨base, fate, progress, isResult⟩
  rcases result with ⟨after, effects⟩
  dsimp only at progress isResult
  subst isResult
  rcases talks.quiet_or_write notRead progress with rfl | ⟨sent, rfl⟩
  · exact .quiet action sessionAction base fate performs acked notRead progress
  · have opened : ({ peer with
        session := base.settle sessionAction.task fate
        arq := peer.arqAfter action } : UdpPeer).stream.closed = false := talks.isOpen
    have started := startWrite_open opened sized (talks.sent_message progress)
    have isMove : Move P peer queue action _ :=
      .wrote action sessionAction base fate sent performs acked progress
    rw [← started] at isMove
    exact isMove

/-- Every step of such an end is a move. -/
theorem move (talks : Talks P start peer) (sized : P.SizedAead) {start' : SessionInfo}
    (hears : Hears peer log queue) (messages : ∀ sent ∈ log, sent.Message P start')
    (stepped : peer.step P action = some next) : Move P peer queue action next := by
  cases action with
  | call task op now =>
      rcases Option.map_eq_some_iff.mp stepped with ⟨result, onSession, rfl⟩
      exact talks.moved sized (.call task op now) rfl (by simp) rfl onSession
  | acquire task =>
      rcases Option.map_eq_some_iff.mp stepped with ⟨result, onSession, rfl⟩
      exact talks.moved sized (.acquire task) rfl (by simp) rfl onSession
  | cancel task =>
      rcases Option.map_eq_some_iff.mp stepped with ⟨result, onSession, rfl⟩
      exact talks.moved sized (.cancel task) rfl (by simp) rfl onSession
  | acked now =>
      simp only [step] at stepped
      split at stepped <;> try cases stepped
      rename_i arq inFlight
      split at stepped <;> try cases stepped
      rename_i isAcked
      rcases Option.map_eq_some_iff.mp stepped with ⟨result, onSession, rfl⟩
      exact talks.moved sized (.acked now) (by rw [sessionAction, inFlight]; rfl)
        (fun _ _ => isAcked) rfl onSession
  | timeout now =>
      simp only [step] at stepped
      split at stepped <;> try cases stepped
      rename_i arq inFlight
      split at stepped
      · rename_i early
        cases stepped
        exact .again now arq inFlight early
      · rename_i last
        rcases Option.map_eq_some_iff.mp stepped with ⟨result, onSession, rfl⟩
        exact talks.moved sized (.timeout now) (by simp [sessionAction, inFlight, last])
          (by simp) rfl onSession
  | resume task now =>
      simp only [step, resumeRead] at stepped
      split at stepped <;> try cases stepped
      rename_i locals pending reading
      have plain := talks.tasks task _ reading
      cases pending with
      | some header => exact plain.elim
      | none =>
          rw [hears.buffer] at stepped
          cases isQueue : queue with
          | nil =>
              rw [isQueue] at stepped
              simp only [bytesOf, List.map_nil, List.flatten_nil, readFrame_nil,
                talks.isOpen] at stepped
              cases stepped
              exact .waits task now
              | cons sent rest =>
              have message := messages sent (hears.inLog sent (by simp [isQueue]))
              have taken := resume_front sized reading message now
                (hears.buffer.trans (congrArg bytesOf isQueue))
              simp only [step, resumeRead, reading, hears.buffer] at taken
              rw [taken] at stepped
              cases stepped
              exact .took task now locals sent rest reading rfl
  | feed data =>
      cases stepped
      exact .fed data

end Talks

/-- The log only grows. -/
theorem Move.logged (move : Move P peer queue action next) :
    ∃ more, next.session.sent = peer.session.sent ++ more := by
  have settled : ∀ (session : Session) (task : Nat) (fate : Fate),
      (session.settle task fate).sent = session.sent := fun session task fate =>
    (Session.settle_frame session task fate).2.2.2.2.2.2.1
  cases move with
  | quiet action sessionAction base fate performs acked notRead progress =>
      exact ⟨_, (settled base _ fate).trans progress.log⟩
  | wrote action sessionAction base fate sent performs acked progress =>
      exact ⟨_, (settled base _ fate).trans progress.log⟩
  | took task now locals sent rest reading isFront =>
      refine ⟨[], ?_⟩
      rw [taking, (applyStep_frame _ _).1, settled, List.append_nil]
  | again | waits | fed => exact ⟨[], (List.append_nil _).symm⟩

/-! ## What a frame that was read does -/

/-- Where the loop goes with an authentic frame of a message. -/
def joined (locals : RecvLocals) (sent : SentFrame) : RecvStep :=
  match reassemble locals (sentFrame sent.type sent.payload sent.seq) sent.plaintext with
  | .ok step => step
  | .error exn => onViolation false locals exn

theorem reassemble_ne_pong {locals after : RecvLocals} {frame : USMPFrame} {plaintext : Bytes} :
    reassemble locals frame plaintext ≠ .ok (.pong after) := by
  intro isPong
  simp only [reassemble] at isPong
  split at isPong
  · cases isPong
  split at isPong
  · cases isPong
  split at isPong <;> cases isPong

theorem joined_plain {locals : RecvLocals} {sent : SentFrame} {at_ : Task}
    (goesOn : (joined locals sent).fate.await = some at_) : at_.Messaging := by
  rcases RecvStep.await_fate goesOn with ⟨after, rfl⟩ | ⟨after, rfl⟩
  · trivial
  · unfold joined at goesOn
    split at goesOn
    · rename_i step isStep
      cases step with
      | pong other => exact absurd isStep reassemble_ne_pong
      | next other | returned payload | raised exn => cases goesOn
    · unfold onViolation at goesOn
      split at goesOn <;> cases goesOn

theorem openFrame_udp (P : Primitives) (info : SessionInfo) (frame : USMPFrame) :
    openFrame P false info (.ok frame) =
      if replayDrops info frame.seq = true then .ok none
      else openFrame P true info (.ok frame) := by
  simp only [openFrame, Bool.not_false, Bool.true_and, Bool.not_true, Bool.false_and]
  rfl

theorem handleFrame_data (P : Primitives) (info : SessionInfo) (locals : RecvLocals) (now : Rat)
    {frame : USMPFrame} (plaintext : Bytes) (isData : frame.type.IsData) :
    handleFrame P info locals now frame plaintext =
      match reassemble locals frame plaintext with
      | .error exn => .error exn
      | .ok step => .ok (info, [], step) := by
  cases result : reassemble locals frame plaintext with
  | error exn => rcases isData with isData | isFrag <;> simp [handleFrame, *]
  | ok step => rcases isData with isData | isFrag <;> simp [handleFrame, *]

/-- What the loop makes of a frame of a message of the other end. -/
theorem recvTurn_message (sized : P.SizedAead) (correct : P.CorrectAead) {info : SessionInfo}
    {sent : SentFrame} (message : sent.Message P start)
    (sessionId : info.sessionId = start.sessionId) (suite : info.cipherSuite = start.cipherSuite)
    (rxKey : info.rxKey = start.txKey) (locals : RecvLocals) (now : Rat) :
    recvTurn P false info locals now (.ok (sentFrame sent.type sent.payload sent.seq)) =
      if replayDrops info sent.seq = true then ⟨info, [], false, .next locals⟩
      else ⟨markReceived info sent.seq, [.confirmAuthenticated sent.seq], true,
        joined locals sent⟩ := by
  have opened := message.genuine.openFrame sized correct (rxKey.trans message.txKey.symm)
    sessionId suite
  have inRange : ¬ sent.seq ≥ maxSeq := Nat.not_le.mpr message.below
  have isSeq : (sentFrame sent.type sent.payload sent.seq).seq = sent.seq := rfl
  have handled : handleFrame P (markReceived info sent.seq) locals now
      (sentFrame sent.type sent.payload sent.seq) sent.plaintext = _ :=
    handleFrame_data P (markReceived info sent.seq) locals now sent.plaintext message.isData
  have accepted : acceptSeq false info sent.seq =
      .ok (markReceived info sent.seq, [.confirmAuthenticated sent.seq]) := by
    rw [acceptSeq, if_neg inRange]
    rfl
  rw [recvTurn, openFrame_udp, isSeq]
  by_cases drops : replayDrops info sent.seq = true
  · rw [if_pos drops, if_pos drops]
  · rw [if_neg drops, if_neg drops, opened]
    dsimp only
    rw [isSeq, accepted]
    dsimp only
    rw [handled, joined]
    cases reassemble locals (sentFrame sent.type sent.payload sent.seq) sent.plaintext with
    | error exn => rfl
    | ok step => rfl

/-- Taking a frame of a message from the buffer. -/
theorem taking_message (sized : P.SizedAead) (correct : P.CorrectAead) {start' : SessionInfo}
    (talks : Talks P start peer) (mirrored : Mirrored start' start) {sent : SentFrame}
    (message : sent.Message P start') (task : Nat) (locals : RecvLocals) (now : Rat)
    (rest : List SentFrame) :
    peer.taking P task locals now sent rest =
      if replayDrops peer.session.info sent.seq = true then
        { peer with
          session := peer.session.settle task (.suspended (.reading locals none))
          stream := { peer.stream with readBuffer := bytesOf rest } }
      else
        { peer with
          session := ({ peer.session with
            info := markReceived peer.session.info sent.seq
            lastRecv := now } : Session).settle task (joined locals sent).fate
          stream := ({ peer.stream with readBuffer := bytesOf rest } :
            UDPStream).confirmAuthenticated sent.seq } := by
  have turn := recvTurn_message sized correct message
    (talks.keyed.sessionId.trans mirrored.sessionId)
    (talks.keyed.suite.trans mirrored.cipherSuite) (talks.keyed.rxKey.trans mirrored.rxKey)
    locals now
  rw [taking, talks.unreliable, turn]
  split
  · simp [RecvTurn.rotations, applyStep, RecvStep.fate]
  · simp [RecvTurn.rotations, applyStep, applyCall]

/-! ## What a step keeps -/

theorem arqAfter_eq (peer : UdpPeer) (action : UdpAction) :
    peer.arqAfter action = none ∨ peer.arqAfter action = peer.arq := by
  cases action with
  | acked | timeout => exact .inl rfl
  | cancel task =>
      by_cases holds : peer.session.lock = some task
      · exact .inl (if_pos holds)
      · exact .inr (if_neg holds)
  | call | acquire | resume | feed => exact .inr rfl

/-- A call of the session is the call of the action. -/
theorem call_of_performs {task : Nat} {op : Op} {now : Rat}
    (performs : peer.sessionAction action = some (.call task op now)) :
    action = .call task op now := by
  cases action with
  | call task' op' now' =>
      cases performs
      rfl
  | acquire | cancel | feed => cases performs
  | acked now' =>
      rcases Option.map_eq_some_iff.mp performs with ⟨arq, _, impossible⟩
      cases impossible
  | timeout now' =>
      simp only [sessionAction] at performs
      split at performs
      · split at performs <;> cases performs
      · cases performs
  | resume task' now' =>
      simp only [sessionAction] at performs
      split at performs
      · split at performs
        · cases performs
        · split at performs
          · cases performs
          · rcases Option.map_eq_some_iff.mp performs with ⟨header, _, impossible⟩
            cases impossible
      · cases performs

/-- A step that reads nothing leaves the receiving side alone. -/
theorem Talks.progress (talks : Talks P start peer) (exchanges : Exchanges other action)
    (performs : peer.sessionAction action = some sessionAction)
    (notRead : sessionAction.reads = false)
    (progress : Session.Progress P peer.session sessionAction base fate effects) :
    base.info = { peer.session.info with txSeq := base.info.txSeq } ∧
      base.info.txSeq ≤ maxSeq ∧ base.reliable = peer.session.reliable ∧
      ∀ at_, fate.await = some at_ → at_.Messaging := by
  have identity := progress.identity
  refine ⟨?_, identity.2.2.2 talks.bound, identity.2.2.1, ?_⟩
  · cases progress with
    | received task locals pending now result reading turn isTurn =>
        cases notRead
    | rekeyed task salt now isAt =>
        rcases talks.writing isAt with ⟨data, offset, isSend⟩
        cases isSend
    | called | encrypted | refused | failed | sent | signalled | ponged | tookHeader | abandoned
    | interrupted => rfl
  · intro at_ goesOn
    cases progress with
    | called task op now isNew =>
        have isCall := call_of_performs performs
        subst isCall
        cases op with
        | send data =>
            simp only [Op.start] at goesOn
            split at goesOn <;> cases goesOn
            trivial
        | recv =>
            cases goesOn
            trivial
        | ping | rekey salt | bye => exact exchanges.elim
    | encrypted task action locked admitted ready unspent =>
        rcases talks.encrypting ready with ⟨data, offset, rfl⟩
        cases goesOn
        trivial
    | refused task action locked admitted ready spent notBye exn =>
        rcases talks.encrypting ready with ⟨data, offset, rfl⟩
        cases goesOn
    | failed task locked exn now isAt =>
        rcases talks.writing isAt with ⟨data, offset, rfl⟩
        cases goesOn
    | ponged task locals now isAt =>
        rcases talks.writing isAt with ⟨data, offset, isSend⟩
        cases isSend
    | received task locals pending now result reading turn isTurn =>
        cases notRead
    | tookHeader task locals header reading => cases notRead
    | sent | signalled | rekeyed | abandoned | interrupted => cases goesOn

/-- What a datagram of the other end does. -/
inductive FedBy (P : Primitives) (peer : UdpPeer) (log : List SentFrame) (data : Bytes) :
    UdpPeer → Prop where
  | utack (isAck : isUtack data = true) (acked : Bool)
      (named : acked = peer.stream.ackReceived ∨
        peer.stream.pendingSendSeq = some (fieldAt data 3 4)) :
      FedBy P peer log data { peer with stream := { peer.stream with ackReceived := acked } }
  | stale (sent : SentFrame) (isSent : sent ∈ log) (isData : data = sent.bytes)
      (old : peer.stream.isStale sent.seq = true) :
      FedBy P peer log data
        { peer with outbox := peer.outbox ++ [peer.stream.buildUtack P sent.type.toNat sent.seq] }
  | full (sent : SentFrame) (isSent : sent ∈ log) (isData : data = sent.bytes)
      (noRoom : peer.stream.readBuffer.length + data.length > maxReadBuffer) :
      FedBy P peer log data peer
  | buffered (sent : SentFrame) (isSent : sent ∈ log) (isData : data = sent.bytes)
      (room : peer.stream.readBuffer.length + data.length ≤ maxReadBuffer)
      (arrived : List (Option Key × Bytes)) :
      FedBy P peer log data
        { peer with
          stream := { peer.stream with readBuffer := peer.stream.readBuffer ++ sent.bytes }
          outbox := peer.outbox ++ [peer.stream.buildUtack P sent.type.toNat sent.seq]
          arrived }

theorem fedBy (sized : P.SizedAead) (talks : Talks P start peer) {start' : SessionInfo}
    (messages : ∀ sent ∈ log, sent.Message P start') {data : Bytes}
    (known : isUtack data = false → ∃ sent ∈ log, data = sent.bytes) :
    FedBy P peer log data (peer.feed P data) := by
  have isOpen := talks.isOpen
  have fed := feedPacket_cases P peer.stream data
  have message : IsFrame data → ∃ sent ∈ log, data = sent.bytes ∧
      typeOf data = sent.type.toNat ∧ seqOf data = sent.seq ∧
      isHandshakeType (typeOf data) = false := by
    intro frame
    rcases known frame.notUtack with ⟨sent, isSent, rfl⟩
    have isMessage := messages sent isSent
    rcases isFrame_of_genuine sized isMessage.genuine with ⟨_, isType, isSeq⟩
    refine ⟨sent, isSent, rfl, isType, isSeq, ?_⟩
    rw [isType]
    rcases isMessage.isData with isData | isFrag
    · rw [isData]
      rfl
    · rw [isFrag]
      rfl
  have noted : isHandshakeType (typeOf data) = false → peer.stream.noteType data = peer.stream := by
    intro session
    rw [noteType, session]
    rfl
  unfold feed
  generalize peer.stream.feedPacket P data = result at fed
  cases fed with
  | closed isClosed =>
      rw [isOpen] at isClosed
      cases isClosed
  | noAck isAck =>
      have same : FedBy P peer log data peer := .utack isAck _ (.inl rfl)
      simpa using same
  | ack isAck authentic isSeq isType =>
      have same : FedBy P peer log data
          { peer with stream := { peer.stream with ackReceived := true } } :=
        .utack isAck true (.inr isSeq)
      simpa using same
  | garbage notUtack notFrame =>
      rcases known notUtack with ⟨sent, isSent, rfl⟩
      exact absurd (isFrame_of_genuine sized (messages sent isSent).genuine).1 notFrame
  | old isOpen frame seen =>
      rcases message frame with ⟨sent, isSent, isData, isType, isSeq, session⟩
      rw [seenBefore, session] at seen
      rw [isSeq] at seen
      have same : FedBy P peer log data { peer with
          outbox := peer.outbox ++ [peer.stream.buildUtack P sent.type.toNat sent.seq] } :=
        .stale sent isSent isData seen
      simpa [isType, isSeq] using same
  | full isOpen frame new noRoom =>
      rcases message frame with ⟨sent, isSent, isData, isType, isSeq, session⟩
      have same : FedBy P peer log data peer := .full sent isSent isData noRoom
      simpa [noted session] using same
  | buffered isOpen frame new room =>
      rcases message frame with ⟨sent, isSent, isData, isType, isSeq, session⟩
      subst isData
      rw [noted session, isType, isSeq]
      exact .buffered sent isSent rfl room _

theorem Talks.settled (talks : Talks P start peer)
    (exchanges : Exchanges other action) (performs : peer.sessionAction action = some sessionAction)
    (notRead : sessionAction.reads = false)
    (progress : Session.Progress P peer.session sessionAction base fate effects)
    (sent : ∀ sent ∈ effects.write, sent.Message P start) (stream : UDPStream)
    (isOpen : stream.closed = false) (arq : Option Arq)
    (inFlight : arq = none ∨ arq = peer.arq ∨ ∃ sent ∈ effects.write, ∃ task,
      arq = some { task, data := sent.bytes, attempt := 0 }) :
    Talks P start
      { peer with
        session := base.settle sessionAction.task fate
        stream
        arq
        outbox := peer.outbox ++ effects.write.toList.map SentFrame.bytes } := by
  rcases talks.progress exchanges performs notRead progress with
    ⟨info, bound, reliable, plain⟩
  have frame := Session.settle_frame base sessionAction.task fate
  have log : (base.settle sessionAction.task fate).sent =
      peer.session.sent ++ effects.write.toList := by
    rw [frame.2.2.2.2.2.2.1, progress.log]
  have sameTasks := progress.frame.1
  constructor
  case isOpen => exact isOpen
  case unreliable => rw [frame.1, reliable, talks.unreliable]
  case calls => exact Session.callInv_progress talks.calls progress
  case tasks =>
    intro task at_ isAt
    by_cases same : task = sessionAction.task
    · subst same
      rw [Session.settle_tasks, Function.update_self] at isAt
      exact plain at_ isAt
    · rw [Session.settle_tasks, Function.update_of_ne same, sameTasks] at isAt
      exact talks.tasks task at_ isAt
  case keyed =>
    rw [frame.2.1, info]
    exact ⟨talks.keyed.sessionId, talks.keyed.suite, talks.keyed.txKey, talks.keyed.rxKey⟩
  case bound => rw [frame.2.1]; exact bound
  case log =>
    intro one member
    rw [log] at member
    rcases List.mem_append.mp member with old | new
    · exact talks.log one old
    · exact sent one (Option.mem_toList.mp new)
  case outbox =>
    intro data member notUtack
    rw [log]
    rcases List.mem_append.mp member with old | new
    · rcases talks.outbox data old notUtack with ⟨one, isOne, isData⟩
      exact ⟨one, List.mem_append_left _ isOne, isData⟩
    · rcases List.mem_map.mp new with ⟨one, isOne, isData⟩
      exact ⟨one, List.mem_append_right _ isOne, isData.symm⟩
  case arq =>
    intro found isFound
    rw [log]
    rcases inFlight with isNone | same | ⟨one, isOne, task, isSome⟩
    · rw [isNone] at isFound
      cases isFound
    · rcases talks.arq found (same ▸ isFound) with ⟨one, isOne, isData⟩
      exact ⟨one, List.mem_append_left _ isOne, isData⟩
    · rw [isSome] at isFound
      cases isFound
      exact ⟨one, List.mem_append_right _ (Option.mem_toList.mpr isOne), rfl⟩

theorem buildUtack_isUtack (P : Primitives) (stream : UDPStream) {start : SessionInfo}
    {sent : SentFrame} (message : sent.Message P start) :
    isUtack (stream.buildUtack P sent.type.toNat sent.seq) = true ∧
      fieldAt (stream.buildUtack P sent.type.toNat sent.seq) 3 4 = sent.seq := by
  have typeBound : sent.type.toNat < 256 := by
    cases sent.type <;> decide
  have seqBound : sent.seq ≤ maxSeq := Nat.le_of_lt message.below
  have bare := isUtack_utackHeader sent.type.toNat sent.seq [] typeBound seqBound
  rw [List.append_nil] at bare
  unfold buildUtack
  dsimp only
  split
  · rename_i rxKey _
    split
    · have full := isUtack_utackHeader sent.type.toNat sent.seq
        (utackMac P rxKey (utackHeader sent.type.toNat sent.seq)) typeBound seqBound
      exact ⟨full.1, full.2.2⟩
    · exact ⟨bare.1, bare.2.2⟩
  · exact ⟨bare.1, bare.2.2⟩

/-- The end may answer datagrams and take other streams that are open. -/
theorem Talks.restream (talks : Talks P start peer) (stream : UDPStream)
    (isOpen : stream.closed = false) (replies : List Bytes)
    (areUtacks : ∀ data ∈ replies, isUtack data = true) (arrived : List (Option Key × Bytes)) :
    Talks P start { peer with stream, outbox := peer.outbox ++ replies, arrived } := by
  refine ⟨isOpen, talks.unreliable, talks.calls, talks.tasks, talks.keyed, talks.bound, talks.log,
    ?_, talks.arq⟩
  intro data member notUtack
  rcases List.mem_append.mp member with old | new
  · exact talks.outbox data old notUtack
  · rw [areUtacks data new] at notUtack
    cases notUtack

theorem Talks.fed (talks : Talks P start peer) {start' : SessionInfo} {data : Bytes}
    (messages : ∀ sent ∈ log, sent.Message P start') (fed : FedBy P peer log data next) :
    Talks P start next := by
  have silent : ∀ stream : UDPStream, stream.closed = false →
      Talks P start { peer with stream } := by
    intro stream isOpen
    have same := talks.restream stream isOpen [] (by simp) peer.arrived
    rwa [List.append_nil] at same
  have answered : ∀ (stream : UDPStream) (arrived : List (Option Key × Bytes)) (sent : SentFrame),
      stream.closed = false → sent ∈ log → Talks P start
        { peer with
          stream
          outbox := peer.outbox ++ [peer.stream.buildUtack P sent.type.toNat sent.seq]
          arrived } := by
    intro stream arrived sent isOpen isSent
    apply talks.restream stream isOpen
    intro reply isReply
    rw [List.mem_singleton.mp isReply]
    exact (buildUtack_isUtack P peer.stream (messages sent isSent)).1
  cases fed with
  | utack isAck acked named => exact silent _ talks.isOpen
  | stale sent isSent isData isOld => exact answered _ _ sent talks.isOpen isSent
  | full sent isSent isData noRoom => exact talks
  | buffered sent isSent isData room arrived => exact answered _ _ sent talks.isOpen isSent

/-- Reading a frame of a message keeps what holds of the end. -/
theorem Talks.took (sized : P.SizedAead) (correct : P.CorrectAead) (talks : Talks P start peer)
    {start' : SessionInfo} (mirrored : Mirrored start' start) {sent : SentFrame}
    (message : sent.Message P start') {task : Nat} {locals : RecvLocals} (now : Rat)
    (rest : List SentFrame) (reading : peer.session.tasks task = some (.reading locals none)) :
    Talks P start (peer.taking P task locals now sent rest) := by
  have settled : ∀ (session : Session) (fate : Fate) (stream : UDPStream),
      session.tasks = peer.session.tasks → session.reliable = peer.session.reliable →
      SameKeys peer.session.info session.info → session.sent = peer.session.sent →
      (session.settle task fate).CallInv → (∀ at_, fate.await = some at_ → at_.Messaging) →
      stream.closed = false →
      Talks P start { peer with session := session.settle task fate, stream } := by
    intro session fate stream sameTasks reliable sameKeys log calls plain isOpen
    have frame := Session.settle_frame session task fate
    constructor
    case isOpen => exact isOpen
    case unreliable => rw [frame.1, reliable, talks.unreliable]
    case calls => exact calls
    case tasks =>
      intro other at_ isAt
      by_cases same : other = task
      · subst same
        rw [Session.settle_tasks, Function.update_self] at isAt
        exact plain at_ isAt
      · rw [Session.settle_tasks, Function.update_of_ne same, sameTasks] at isAt
        exact talks.tasks other at_ isAt
    case keyed =>
      rw [frame.2.1]
      exact talks.keyed.same sameKeys
    case bound =>
      rw [frame.2.1, sameKeys.txSeq]
      exact talks.bound
    case log =>
      rw [frame.2.2.2.2.2.2.1, log]
      exact talks.log
    case outbox =>
      rw [frame.2.2.2.2.2.2.1, log]
      exact talks.outbox
    case arq =>
      rw [frame.2.2.2.2.2.2.1, log]
      exact talks.arq
  have calls : (peer.taking P task locals now sent rest).session.CallInv := by
    rw [taking, (applyStep_frame _ _).1]
    exact Session.callInv_progress talks.calls
      (.received (P := P) task locals none now (.ok (sentFrame sent.type sent.payload sent.seq))
        reading _ rfl)
  rw [taking_message sized correct talks mirrored message] at calls ⊢
  split
  · rename_i drops
    rw [if_pos drops] at calls
    refine settled peer.session _ _ rfl rfl (.refl _) rfl calls ?_ talks.isOpen
    intro at_ goesOn
    cases goesOn
    trivial
  · rename_i drops
    rw [if_neg drops] at calls
    refine settled _ _ _ rfl rfl (sameKeys_markReceived _ _) rfl calls
      (fun _ goesOn => joined_plain goesOn) ?_
    unfold UDPStream.confirmAuthenticated
    split
    · exact talks.isOpen
    · exact talks.isOpen

/-- Every move keeps what holds of the end. -/
theorem Talks.step (sized : P.SizedAead) (correct : P.CorrectAead) (talks : Talks P start peer)
    {start' : SessionInfo} (mirrored : Mirrored start' start) (otherTalks : Talks P start' other)
    (hears : Hears peer other.session.sent queue) (exchanges : Exchanges other action)
    (move : Move P peer queue action next) : Talks P start next := by
  cases move with
  | quiet action sessionAction base fate performs acked notRead progress =>
      have settled := talks.settled exchanges performs notRead progress (by simp) peer.stream
        talks.isOpen (peer.arqAfter action)
        ((peer.arqAfter_eq action).imp_right .inl)
      simpa using settled
  | wrote action sessionAction base fate sent performs acked progress =>
      have notRead : sessionAction.reads = false := by
        cases progress with
        | encrypted task action locked admitted ready unspent => cases ready <;> rfl
      have isMessage : ∀ one ∈ ({ write := some sent } : Effects).write, one.Message P start := by
        intro one isOne
        cases isOne
        exact talks.sent_message progress
      exact talks.settled exchanges performs notRead progress isMessage
        (({ peer with
            session := base.settle sessionAction.task fate
            arq := peer.arqAfter action } : UdpPeer).sending sent).stream talks.isOpen _
        (.inr (.inr ⟨sent, rfl, sent.task, rfl⟩))
  | again now arq inFlight early =>
      rcases talks.arq arq inFlight with ⟨sent, isSent, isData⟩
      refine ⟨talks.isOpen, talks.unreliable, talks.calls, talks.tasks, talks.keyed, talks.bound,
        talks.log, ?_, ?_⟩
      · intro data member notUtack
        rcases List.mem_append.mp member with old | new
        · exact talks.outbox data old notUtack
        · exact ⟨sent, isSent, (List.mem_singleton.mp new).trans isData⟩
      · intro found isFound
        cases isFound
        exact ⟨sent, isSent, isData⟩
  | waits task now => exact talks
  | took task now locals sent rest reading isFront =>
      have message := otherTalks.log sent (hears.inLog sent (by simp [isFront]))
      exact talks.took sized correct mirrored message now rest reading
  | fed data =>
      exact talks.fed otherTalks.log
        (fedBy sized talks otherTalks.log (otherTalks.outbox data exchanges))

/-- Every move leaves frames of the other end in the buffer. -/
theorem Hears.step (sized : P.SizedAead) (talks : Talks P start peer)
    {start' : SessionInfo} (otherTalks : Talks P start' other)
    (hears : Hears peer other.session.sent queue) (exchanges : Exchanges other action)
    (move : Move P peer queue action next) :
    ∃ queue', Hears next other.session.sent queue' := by
  cases move with
  | quiet | again | waits => exact ⟨queue, hears.inLog, hears.buffer⟩
  | wrote => exact ⟨queue, hears.inLog, hears.buffer⟩
  | took task now locals sent rest reading isFront =>
      refine ⟨rest, ?_, ?_⟩
      · intro one isOne
        exact hears.inLog one (by rw [isFront]; exact List.mem_cons_of_mem _ isOne)
      · rw [taking, (applyStep_frame _ _).2.2.2.2]
  | fed data =>
      have fed := fedBy sized talks otherTalks.log (otherTalks.outbox data exchanges)
      generalize peer.feed P data = after at fed
      cases fed with
      | utack | stale | full => exact ⟨queue, hears.inLog, hears.buffer⟩
      | buffered sent isSent isData room arrived =>
          refine ⟨queue ++ [sent], ?_, ?_⟩
          · intro one isOne
            rcases List.mem_append.mp isOne with old | new
            · exact hears.inLog one old
            · rw [List.mem_singleton.mp new]
              exact isSent
          · simp [hears.buffer, bytesOf]

end Steps

end UdpPeer

end Usmp
