import Mathlib.Data.List.Sublists
import Usmp.Handshake.Order

/-!
# A server's end keeps the order
-/

namespace Usmp

/-- What the coroutine has read at a stage. -/
def ServerStage.hasRead : ServerStage → List PacketType
  | .created | .readingHello => []
  | .resolving _ _ | .writingChallenge _ | .readingHelloAck _ _ => [.hello]
  | .writingSessionOk _ => [.hello, .helloAck]
  | .returned _ | .raised _ => []

/-- The type of the frame that waits for its UTACK. -/
def ServerStage.writes : ServerStage → Option Nat
  | .writingChallenge _ => some 2
  | .writingSessionOk _ => some 4
  | .created | .readingHello | .resolving _ _ | .readingHelloAck _ _ | .returned _
  | .raised _ => none

theorem ServerStage.writes_cases {stage : ServerStage} {type : Nat}
    (writes : stage.writes = some type) : type = 2 ∨ type = 4 := by
  cases stage with
  | writingChallenge hello => exact .inl (Option.some.inj writes).symm
  | writingSessionOk locals => exact .inr (Option.some.inj writes).symm
  | created | readingHello | resolving deviceId pubC | readingHelloAck hello keys | returned info
  | raised exn => cases writes

/-- How far the client has come at a stage. -/
def ServerStage.rank : ServerStage → Nat
  | .created | .readingHello | .resolving _ _ | .writingChallenge _ | .raised _ => 0
  | .readingHelloAck _ _ | .writingSessionOk _ => 2
  | .returned _ => 3

/-- The stream of a server's end in the handshake. -/
structure ServerInput (client : HandshakeEnd ClientHandshake)
    (server : HandshakeEnd ServerHandshake) (frames : List Bytes) : Prop where
  buffered : Buffered server frames
  sent : ∀ data ∈ frames, FromClient client data
  inOrder : ((accepted server frames).filter isHandshakeType).Sublist [1, 3]
  last : ∀ type ∈ accepted server frames, isHandshakeType type = true →
    (type : Int) ≤ server.stream.lastRxType
  /-- While the client's handshake goes on, nothing else comes. -/
  early : client.run.hasEnded = false → accepted server frames ∈ [[1], [1, 3]] ∧
    server.stream.lastRxType = lastType (accepted server frames)

structure ServerActive (client : HandshakeEnd ClientHandshake)
    (server : HandshakeEnd ServerHandshake) : Prop where
  input : ∃ frames, ServerInput client server frames
  hasRead : server.handed = server.run.stage.hasRead
  writes : ∀ type, server.run.stage.writes = some type →
    server.stream.LastWrite type 0 ∧
      (server.stream.ackReceived = true → rankOf type ≤ client.stream.rank)

/-- The handshake frames that were handed to the coroutine. -/
def handshakesHanded (server : HandshakeEnd ServerHandshake) : List Nat :=
  (server.handed.map PacketType.toNat).filter isHandshakeType

structure ServerOrder (client : HandshakeEnd ClientHandshake)
    (server : HandshakeEnd ServerHandshake) : Prop where
  isServer : server.stream.isServer = true
  rank : server.run.stage.rank ≤ client.stream.rank
  arq : ∀ resend, server.arq = some resend → FromServer client resend.data
  active : server.run.hasEnded = false → ServerActive client server
  handed : (handshakesHanded server).Sublist [1, 3]

theorem ServerInput.later {client next : HandshakeEnd ClientHandshake}
    {server : HandshakeEnd ServerHandshake} {frames : List Bytes}
    (input : ServerInput client server frames) (later : Later client next) :
    ServerInput next server frames where
  buffered := input.buffered
  sent data member := (input.sent data member).later later
  inOrder := input.inOrder
  last := input.last
  early active := by
    apply input.early
    rw [Bool.eq_false_iff]
    intro hasEnded
    rw [later.hasEnded hasEnded] at active
    cases active

theorem ServerOrder.later {client next : HandshakeEnd ClientHandshake}
    {server : HandshakeEnd ServerHandshake} (order : ServerOrder client server)
    (later : Later client next) : ServerOrder next server where
  isServer := order.isServer
  rank := Nat.le_trans order.rank later.rank
  arq resend isArq := (order.arq resend isArq).later later
  active isActive := by
    have active := order.active isActive
    rcases active.input with ⟨frames, input⟩
    refine ⟨⟨frames, input.later later⟩, active.hasRead, ?_⟩
    intro type isType
    rcases active.writes type isType with ⟨last, acked⟩
    exact ⟨last, fun received => Nat.le_trans (acked received) later.rank⟩
  handed := order.handed

variable {client : HandshakeEnd ClientHandshake} {server : HandshakeEnd ServerHandshake}

/-- Only the write in progress changed. -/
theorem ServerInput.same {frames : List Bytes} (input : ServerInput client server frames)
    {after : HandshakeEnd ServerHandshake} (same : SameInput server.stream after.stream)
    (pending : after.pending = server.pending) (handed : after.handed = server.handed) :
    ServerInput client after frames := by
  have isAccepted : accepted after frames = accepted server frames := by
    rw [accepted, handed, accepted]
  refine ⟨input.buffered.same same pending, input.sent, ?_, ?_, ?_⟩
  · rw [isAccepted]
    exact input.inOrder
  · rw [isAccepted, same.lastRxType]
    exact input.last
  · rw [isAccepted, same.lastRxType]
    exact input.early

/-- What was handed over is at the front of what was accepted. -/
theorem ServerInput.handed {frames : List Bytes} (input : ServerInput client server frames) :
    (handshakesHanded server).Sublist [1, 3] := by
  refine List.Sublist.trans ?_ input.inOrder
  rw [accepted, List.filter_append]
  exact List.sublist_append_left _ _

/-! ## Feeding -/

theorem sublist_append : ∀ types ∈ [[], [1], [3], [1, 3]], ∀ type : Nat, type ∈ [1, 3] →
    (∀ other ∈ types, other < type) → (types ++ [type]).Sublist [1, 3] := by
  decide

theorem sublist_cases {types : List Nat} (sub : types.Sublist [1, 3]) :
    types ∈ [[], [1], [3], [1, 3]] := by
  have all : List.sublists [1, 3] = [[], [1], [3], [1, 3]] := by decide
  rw [← all]
  exact List.mem_sublists.mpr sub

/-- A server's stream takes no handshake frame whose type is not above the last one's. -/
theorem isDuplicateHandshake_server {stream : UDPStream} (isServer : stream.isServer = true)
    {type : Nat} (new : stream.isDuplicateHandshake type = false) :
    stream.lastRxType < type := by
  simp only [UDPStream.isDuplicateHandshake, isServer, Bool.true_and, Bool.or_eq_false_iff,
    Bool.and_eq_false_iff, decide_eq_false_iff_not, not_not] at new
  rcases new.2 with none | above
  · omega
  · omega

/-- A new stream in which the write in progress is the same. -/
theorem ServerOrder.withStream (order : ServerOrder client server) {stream : UDPStream}
    (isServer : stream.isServer = true)
    (type : stream.pendingSendType = server.stream.pendingSendType)
    (seq : stream.pendingSendSeq = server.stream.pendingSendSeq)
    (acked : ∀ type, server.run.stage.writes = some type → server.stream.LastWrite type 0 →
      stream.ackReceived = true → server.stream.ackReceived = false →
      rankOf type ≤ client.stream.rank)
    (input : server.run.hasEnded = false → ∀ frames, ServerInput client server frames →
      ∃ frames, ServerInput client { server with stream } frames) :
    ServerOrder client { server with stream } where
  isServer := isServer
  rank := order.rank
  arq := order.arq
  active isActive := by
    have active := order.active isActive
    rcases active.input with ⟨frames, before⟩
    refine ⟨input isActive frames before, active.hasRead, ?_⟩
    intro found isFound
    rcases active.writes found isFound with ⟨last, wasAcked⟩
    refine ⟨⟨type.trans last.1, seq.trans last.2⟩, ?_⟩
    intro received
    cases earlier : server.stream.ackReceived with
    | true => exact wasAcked earlier
    | false => exact acked found isFound last received earlier
  handed := order.handed

/-- A UTACK that is for the write in progress. -/
theorem ServerOrder.ack (order : ServerOrder client server) {data : Bytes}
    (sent : FromClient client data) (utack : UDPStream.isUtack data = true)
    (isType : server.stream.pendingSendType = some (fieldAt data 2 1)) :
    ServerOrder client { server with stream := { server.stream with ackReceived := true } } := by
  refine order.withStream order.isServer rfl rfl ?_ ?_
  · intro type writes last _ _
    have same : type = fieldAt data 2 1 := Option.some.inj (last.1.symm.trans isType)
    have isWritten := ServerStage.writes_cases writes
    cases sent with
    | utack isUtack short challenge sessionOk =>
        rcases isWritten with rfl | rfl
        · exact challenge same.symm
        · exact sessionOk same.symm
    | hello payload seq isFrame fits cookie =>
        have bound : seq ≤ maxSeq := by
          rcases cookie with rfl | ⟨rfl, _⟩ <;> decide
        subst isFrame
        rw [(isFrame_frameBytes .hello bound fits).1.notUtack] at utack
        cases utack
    | helloAck payload isFrame fits challenged =>
        have bound : 2 ≤ maxSeq := by decide
        subst isFrame
        rw [(isFrame_frameBytes .helloAck bound fits).1.notUtack] at utack
        cases utack
    | session isSession hasEnded =>
        rw [(isSessionDatagram_iff isSession).1] at utack
        cases utack
  · exact fun _ frames input => ⟨frames, input.same ⟨rfl, rfl, rfl, rfl⟩ rfl rfl⟩

/-- The frame that a server's stream takes for a new one. -/
theorem ServerInput.new {frames : List Bytes} (input : ServerInput client server frames)
    (isServer : server.stream.isServer = true) {data : Bytes} (sent : FromClient client data)
    (frame : IsFrame data) (new : server.stream.seenBefore data = false) :
    ((accepted server frames ++ [typeOf data]).filter isHandshakeType).Sublist [1, 3] ∧
      (∀ type ∈ accepted server frames ++ [typeOf data], isHandshakeType type = true →
        (type : Int) ≤ (server.stream.noteType data).lastRxType) ∧
      (client.run.hasEnded = false → accepted server frames ++ [typeOf data] ∈ [[1], [1, 3]] ∧
        (server.stream.noteType data).lastRxType = typeOf data) := by
  cases isHandshake : isHandshakeType (typeOf data) with
  | true =>
      rw [UDPStream.seenBefore, if_pos isHandshake] at new
      have above := isDuplicateHandshake_server isServer new
      have isType : typeOf data ∈ [1, 3] := by
        rcases sent.frame frame with ⟨types, _⟩ | ⟨isSession, _⟩
        · rcases types with is | ⟨is, _⟩ <;> simp [is]
        · rw [isSession] at isHandshake
          cases isHandshake
      rw [UDPStream.noteType, if_pos isHandshake]
      have below : ∀ other ∈ (accepted server frames).filter isHandshakeType,
          other < typeOf data := by
        intro other member
        rcases List.mem_filter.mp member with ⟨isAccepted, isOther⟩
        have := input.last other isAccepted isOther
        omega
      refine ⟨?_, ?_, ?_⟩
      · rw [List.filter_append, List.filter_cons, if_pos isHandshake, List.filter_nil]
        exact sublist_append _ (sublist_cases input.inOrder) _ isType below
      · intro type member isOther
        rcases List.mem_append.mp member with old | isNew
        · have := input.last type old isOther
          show (type : Int) ≤ typeOf data
          omega
        · rw [List.mem_singleton.mp isNew]
      · intro isActive
        rcases input.early isActive with ⟨few, last⟩
        refine ⟨?_, rfl⟩
        rw [last] at above
        simp only [List.mem_cons, List.not_mem_nil, or_false] at few isType ⊢
        rcases few with few | few <;> rw [few] at above ⊢ <;> rcases isType with is | is <;>
          rw [is] at above ⊢ <;> simp [lastType] at above ⊢
  | false =>
      have hasEnded : client.run.hasEnded = true := by
        rcases sent.frame frame with ⟨_, is, _⟩ | ⟨_, hasEnded⟩
        · rw [is] at isHandshake
          cases isHandshake
        · exact hasEnded
      rw [UDPStream.noteType, if_neg (by rw [isHandshake]; decide)]
      refine ⟨?_, ?_, ?_⟩
      · rw [List.filter_append, List.filter_cons, if_neg (by rw [isHandshake]; decide),
          List.filter_nil, List.append_nil]
        exact input.inOrder
      · intro type member isOther
        rcases List.mem_append.mp member with old | isNew
        · exact input.last type old isOther
        · rw [List.mem_singleton.mp isNew, isHandshake] at isOther
          cases isOther
      · intro isActive
        rw [hasEnded] at isActive
        cases isActive

theorem ServerInput.buffers {frames : List Bytes} (input : ServerInput client server frames)
    (isServer : server.stream.isServer = true) {data : Bytes} (sent : FromClient client data)
    (frame : IsFrame data) (new : server.stream.seenBefore data = false) :
    ServerInput client { server with
      stream := { server.stream.noteType data with
        readBuffer := server.stream.readBuffer ++ data } } (frames ++ [data]) := by
  rcases input.new isServer sent frame new with ⟨inOrder, last, early⟩
  have appended : accepted { server with
      stream := { server.stream.noteType data with
        readBuffer := server.stream.readBuffer ++ data } } (frames ++ [data]) =
      accepted server frames ++ [typeOf data] := accepted_append rfl frames data
  refine ⟨input.buffered.append frame rfl rfl, ?_, ?_, ?_, ?_⟩
  · intro other member
    rcases List.mem_append.mp member with old | isNew
    · exact input.sent other old
    · rw [List.mem_singleton.mp isNew]
      exact sent
  · rw [appended]
    exact inOrder
  · rw [appended]
    exact last
  · intro isActive
    rcases early isActive with ⟨few, isLast⟩
    rw [appended]
    refine ⟨few, isLast.trans ?_⟩
    rw [lastType, List.getLast?_concat]

/-- While the client's handshake goes on, the buffer has room for its frames. -/
theorem ServerInput.room {frames : List Bytes} (input : ServerInput client server frames)
    (isActive : client.run.hasEnded = false) {data : Bytes} (frame : IsFrame data) :
    server.stream.readBuffer.length + data.length ≤ maxReadBuffer := by
  have few : frames.length ≤ 2 := by
    have sizes := (input.early isActive).1
    simp only [List.mem_cons, List.not_mem_nil, or_false] at sizes
    have length : (accepted server frames).length = server.handed.length + frames.length := by
      simp [accepted]
    rcases sizes with is | is <;> rw [is] at length <;> simp at length <;> omega
  have bound := input.buffered.length_le
  have total := Nat.mul_le_mul_right (usmpHeaderSize + usmpMaxPayload) few
  have fits := frame.fits
  have size := frame.size
  simp only [usmpHeaderSize, usmpMaxPayload, maxReadBuffer] at *
  omega

/-- A frame that finds no room comes from a session. -/
theorem ServerInput.overflows {frames : List Bytes} (input : ServerInput client server frames)
    (isServer : server.stream.isServer = true) {data : Bytes} (sent : FromClient client data)
    (frame : IsFrame data) (new : server.stream.seenBefore data = false)
    (noRoom : server.stream.readBuffer.length + data.length > maxReadBuffer) :
    ServerInput client { server with stream := server.stream.noteType data } frames := by
  have same : SameInput server.stream { server.stream.noteType data with
      lastRxType := server.stream.lastRxType } := by
    unfold UDPStream.noteType
    split <;> exact ⟨rfl, rfl, rfl, rfl⟩
  rcases input.new isServer sent frame new with ⟨_, last, _⟩
  have buffered := input.buffered
  refine ⟨⟨buffered.pending, same.readBuffer.trans buffered.buffer, buffered.whole⟩, input.sent,
    input.inOrder, ?_, ?_⟩
  · intro type member
    exact last type (List.mem_append_left _ member)
  · intro isActive
    have := input.room isActive frame
    omega

/-- The server after a step, and what it sent. -/
structure ServerKeeps (client : HandshakeEnd ClientHandshake)
    (after : HandshakeEnd ServerHandshake) (out : List Bytes) : Prop where
  order : ServerOrder client after
  sent : ∀ data ∈ out, FromServer client data

theorem ServerOrder.fed {P : Primitives} (order : ServerOrder client server) {data : Bytes}
    (sent : FromClient client data) :
    ServerKeeps client (server.feed P data).1 (server.feed P data).2 := by
  have noted : (server.stream.noteType data).isServer = true ∧
      (server.stream.noteType data).pendingSendType = server.stream.pendingSendType ∧
      (server.stream.noteType data).pendingSendSeq = server.stream.pendingSendSeq ∧
      (server.stream.noteType data).ackReceived = server.stream.ackReceived := by
    unfold UDPStream.noteType
    split <;> exact ⟨order.isServer, rfl, rfl, rfl⟩
  have unacked : ∀ type, server.run.stage.writes = some type →
      server.stream.LastWrite type 0 → (server.stream.noteType data).ackReceived = true →
      server.stream.ackReceived = false → rankOf type ≤ client.stream.rank := by
    intro type _ _ received earlier
    rw [noted.2.2.2, earlier] at received
    cases received
  have fed := feedPacket_cases P server.stream data
  simp only [HandshakeEnd.feed]
  generalize server.stream.feedPacket P data = result at fed
  cases fed with
  | closed isClosed => exact ⟨order, List.forall_mem_nil _⟩
  | noAck utack => exact ⟨order, List.forall_mem_nil _⟩
  | ack utack authentic isSeq isType => exact ⟨order.ack sent utack isType, List.forall_mem_nil _⟩
  | garbage notUtack notFrame => exact ⟨order, List.forall_mem_nil _⟩
  | old isOpen frame seen =>
      refine ⟨order, ?_⟩
      intro reply member
      rw [List.mem_singleton.mp member]
      exact .utack (isUtack_reply P _ data).1
  | full isOpen frame new noRoom =>
      refine ⟨order.withStream noted.1 noted.2.1 noted.2.2.1 unacked ?_, List.forall_mem_nil _⟩
      exact fun _ frames input => ⟨frames, input.overflows order.isServer sent frame new noRoom⟩
  | buffered isOpen frame new room =>
      refine ⟨order.withStream noted.1 noted.2.1 noted.2.2.1 unacked ?_, ?_⟩
      · exact fun _ frames input => ⟨frames ++ [data], input.buffers order.isServer sent frame new⟩
      · intro reply member
        rw [List.mem_singleton.mp member]
        exact .utack (isUtack_reply P _ data).1

/-! ## Reading -/

/-- The outcomes of a read. -/
inductive ServerReads (run : ServerHandshake) :
    Except Exn USMPFrame → ServerHandshake × List HandshakeCall → Prop where
  | fails (result : Except Exn USMPFrame) (exn : Exn) :
      ServerReads run result (run.goto (.raised exn), [])
  | resolves (frame : USMPFrame) (isHello : frame.type = .hello)
      (reading : run.stage = .readingHello) (deviceId pubC : Bytes) :
      ServerReads run (.ok frame) (run.goto (.resolving deviceId pubC), [])
  | challenges (frame : USMPFrame) (isHello : frame.type = .hello)
      (reading : run.stage = .readingHello) (hello : ServerHello)
      (payload : Bytes) (size : payload.length = 64) :
      ServerReads run (.ok frame)
        (run.goto (.writingChallenge hello), [.writeFrame .challenge payload 0])
  | accepts (frame : USMPFrame) (isHelloAck : frame.type = .helloAck)
      (reading : ∃ hello keys, run.stage = .readingHelloAck hello keys) (locals : ServerLocals)
      (txKey rxKey : Key) (payload : Bytes) (size : payload.length = 48) :
      ServerReads run (.ok frame)
        (run.goto (.writingSessionOk locals),
          [.setSessionKeys txKey rxKey, .writeFrame .sessionOk payload 0])

/-- With a PSK, the CHALLENGE goes out, or the PSK is too short. -/
theorem challenge_cases (X : KeyExchange) (run : ServerHandshake) (deviceId pubC psk : Bytes)
    (entropy : Entropy) :
    (∃ exn, run.challenge X deviceId pubC psk entropy = (run.goto (.raised exn), [])) ∨
      ∃ hello payload, payload.length = 64 ∧ run.challenge X deviceId pubC psk entropy =
        (run.goto (.writingChallenge hello), [.writeFrame .challenge payload 0]) := by
  unfold ServerHandshake.challenge
  split
  · exact .inl ⟨_, rfl⟩
  · refine .inr ⟨_, _, ?_, rfl⟩
    rw [List.length_append, entropy.nonce.2, (X.publicKey entropy.priv).2]
    rfl

theorem server_reads {P : Primitives} {X : KeyExchange} {run : ServerHandshake}
    {result : Except Exn USMPFrame} {entropy : Entropy}
    {taken : ServerHandshake × List HandshakeCall}
    (read : run.read P X result entropy = some taken) : ServerReads run result taken := by
  unfold ServerHandshake.read at read
  cases isStage : run.stage with
  | created | resolving deviceId pubC | writingChallenge hello | writingSessionOk locals
  | returned info | raised exn =>
      rw [isStage] at read
      cases read
  | readingHello =>
      rw [isStage] at read
      cases result with
      | error exn =>
          cases read
          exact .fails _ _
      | ok frame =>
          cases read
          unfold ServerHandshake.onHello
          split
          · exact .fails _ _
          rename_i isHello
          have isHello : frame.type = .hello := not_not.mp isHello
          split
          · exact .fails _ _
          dsimp only
          split
          · rename_i psk _
            rcases challenge_cases X run (payloadSlice frame 0 usmpDeviceIdLen)
              (payloadSlice frame usmpDeviceIdLen usmpPubKeyLen) psk entropy with
              ⟨exn, failed⟩ | ⟨hello, payload, size, sent⟩
            · rw [failed]
              exact .fails _ _
            · rw [sent]
              exact .challenges frame isHello isStage hello payload size
          · exact .resolves frame isHello isStage _ _
          · exact .fails _ _
  | readingHelloAck hello keys =>
      rw [isStage] at read
      cases result with
      | error exn =>
          cases read
          exact .fails _ _
      | ok frame =>
          cases read
          unfold ServerHandshake.onHelloAck
          split
          · exact .fails _ _
          rename_i isHelloAck
          split
          · exact .fails _ _
          dsimp only
          split
          · exact .fails _ _
          · refine .accepts frame (not_not.mp isHelloAck) ⟨hello, keys, isStage⟩ _ _ _ _ ?_
            rw [List.length_append, entropy.sessionId.2, (P.hmacSha256 _ _).2]
            rfl

/-! ## What a server's end does -/

/-- A handshake that is over. -/
theorem ServerOrder.ended (isServer : server.stream.isServer = true)
    (rank : server.run.stage.rank ≤ client.stream.rank)
    (arq : ∀ resend, server.arq = some resend → FromServer client resend.data)
    (hasEnded : server.run.hasEnded = true) (handed : (handshakesHanded server).Sublist [1, 3]) :
    ServerOrder client server where
  isServer := isServer
  rank := rank
  arq := arq
  active isActive := by
    rw [hasEnded] at isActive
    cases isActive
  handed := handed

theorem server_wrote_error {P : Primitives} {X : KeyExchange} {run next : ServerHandshake}
    {exn : Exn} (wrote : run.wrote P X (some exn) = some next) : next = run.goto (.raised exn) := by
  unfold ServerHandshake.wrote at wrote
  cases isStage : run.stage with
  | writingChallenge hello | writingSessionOk locals =>
      rw [isStage] at wrote
      cases wrote
      rfl
  | created | readingHello | resolving deviceId pubC | readingHelloAck hello keys | returned info
  | raised exn =>
      rw [isStage] at wrote
      cases wrote

/-- The frame goes out, or the write raises. -/
theorem ServerOrder.writes {P : Primitives} {X : KeyExchange} {entropy : Entropy}
    {calls : List HandshakeCall} {result : HandshakeEnd ServerHandshake × List Bytes}
    (performed : HandshakeEnd.Performed (serverCoroutine P X entropy) server calls result)
    {frames : List Bytes} (input : ServerInput client server frames)
    (isServer : server.stream.isServer = true)
    (rank : server.run.stage.rank ≤ client.stream.rank)
    (arq : ∀ resend, server.arq = some resend → FromServer client resend.data)
    (hasRead : server.handed = server.run.stage.hasRead)
    {type : PacketType} {payload : Bytes}
    (only : ∀ found payload' seq, .writeFrame found payload' seq ∈ calls →
      found = type ∧ payload' = payload ∧ seq = 0)
    (isCall : .writeFrame type payload 0 ∈ calls)
    (writes : server.run.stage.writes = some type.toNat)
    (sent : FromServer client (frameBytes type payload 0)) :
    ServerKeeps client result.1 result.2 := by
  cases performed with
  | quiet stream same noWrite => exact absurd isCall (noWrite type payload 0)
  | failed stream same exn notHandshake write =>
      have raises : ((serverCoroutine P X entropy).wrote server.run (some exn)).getD server.run =
          server.run.goto (.raised exn) := by
        have stuck : ∃ next, server.run.wrote P X (some exn) = some next := by
          unfold ServerHandshake.wrote
          cases isStage : server.run.stage with
          | writingChallenge hello | writingSessionOk locals => exact ⟨_, rfl⟩
          | created | readingHello | resolving deviceId pubC | readingHelloAck hello keys
          | returned info | raised exn =>
              rw [isStage] at writes
              cases writes
        rcases stuck with ⟨next, wrote⟩
        rw [show (serverCoroutine P X entropy).wrote server.run (some exn) = some next from wrote,
          Option.getD_some]
        exact server_wrote_error wrote
      rw [raises]
      exact ⟨.ended (same.isServer.trans isServer) (Nat.zero_le _) arq rfl input.handed, nofun⟩
  | sent stream same write seqBound fits last unacked =>
      rcases only _ _ _ write with ⟨rfl, rfl, rfl⟩
      refine ⟨⟨same.isServer.trans isServer, rank, ?_, ?_, input.handed⟩, ?_⟩
      · intro resend isArq
        cases isArq
        exact sent
      · intro _
        refine ⟨⟨frames, input.same same rfl rfl⟩, hasRead, ?_⟩
        intro found isFound
        rw [writes] at isFound
        cases isFound
        refine ⟨last, ?_⟩
        intro received
        rw [unacked] at received
        cases received
      · intro data member
        rw [List.mem_singleton.mp member]
        exact sent

/-- What a read leaves in the buffer. -/
theorem ServerInput.took {data : Bytes} {rest : List Bytes}
    (input : ServerInput client server (data :: rest)) {frame : USMPFrame}
    (decoded : decodeFrame data false = .ok frame) (run : ServerHandshake) :
    ServerInput client { server.took data rest with run } rest ∧
      (server.took data rest).handed = server.handed ++ [frame.type] := by
  have taken : accepted (server.took data rest) rest = _ ∧ (server.took data rest).handed = _ :=
    accepted_took decoded rest
  rcases taken with ⟨same, handed⟩
  have buffered := input.buffered.took
  refine ⟨⟨⟨buffered.pending, buffered.buffer, buffered.whole⟩, ?_, ?_, ?_, ?_⟩, handed⟩
  · exact fun other member => input.sent other (List.mem_cons_of_mem _ member)
  · exact same ▸ input.inOrder
  · exact same ▸ input.last
  · exact same ▸ input.early

/-- Whatever was taken from the buffer, the handshake frames are handed over in order. -/
theorem ServerInput.handed_took {data : Bytes} {rest : List Bytes}
    (input : ServerInput client server (data :: rest)) :
    (handshakesHanded (server.took data rest)).Sublist [1, 3] := by
  have front : (handshakesHanded (server.took data rest)).Sublist
      ((accepted (server.took data rest) rest).filter isHandshakeType) := by
    rw [accepted, List.filter_append]
    exact List.sublist_append_left _ _
  exact (front.trans ((accepted_took_sublist data rest).filter _)).trans input.inOrder

/-- An end whose coroutine stops. -/
theorem ServerOrder.stops {P : Primitives} {X : KeyExchange} {entropy : Entropy}
    (isServer : server.stream.isServer = true)
    (arq : ∀ resend, server.arq = some resend → FromServer client resend.data)
    (handed : (handshakesHanded server).Sublist [1, 3]) (run : ServerHandshake) (exn : Exn) :
    ServerKeeps client
      (server.goOn (serverCoroutine P X entropy) (run.goto (.raised exn), [])).1
      (server.goOn (serverCoroutine P X entropy) (run.goto (.raised exn), [])).2 :=
  ⟨.ended isServer (Nat.zero_le _) arq rfl handed, nofun⟩

theorem ServerOrder.resumed {P : Primitives} {X : KeyExchange} {entropy : Entropy}
    (order : ServerOrder client server) {result : HandshakeEnd ServerHandshake × List Bytes}
    (stepped : server.resume (serverCoroutine P X entropy) = some result) :
    ServerKeeps client result.1 result.2 := by
  have reading : server.run.reading = true := by
    unfold HandshakeEnd.resume at stepped
    split at stepped
    · assumption
    · cases stepped
  have isActive : server.run.hasEnded = false := by
    unfold ServerHandshake.reading at reading
    unfold ServerHandshake.hasEnded
    cases isStage : server.run.stage <;> simp [isStage] at reading <;> rfl
  have active := order.active isActive
  rcases active.input with ⟨frames, input⟩
  rcases HandshakeEnd.resume_cases input.buffered.buffer input.buffered.whole
    input.buffered.pending stepped with ⟨_, resumed⟩
  cases resumed with
  | waits empty isOpen => exact ⟨order, nofun⟩
  | ends empty isClosed read =>
      cases server_reads read with
      | fails _ exn => exact ServerOrder.stops order.isServer order.arq order.handed _ exn
  | takes isFirst read =>
      rename_i data rest taken
      subst isFirst
      have reads := server_reads read
      generalize decoded : decodeFrame data false = result at reads
      cases reads with
      | fails _ exn =>
          have isServer : (server.took data rest).stream.isServer = true := order.isServer
          exact ServerOrder.stops isServer order.arq input.handed_took _ exn
      | resolves frame isHello isReading deviceId pubC =>
          rcases input.took decoded (server.run.goto (.resolving deviceId pubC)) with
            ⟨next, handed⟩
          have hasRead := active.hasRead
          rw [isReading] at hasRead
          rw [hasRead, isHello] at handed
          exact ⟨⟨order.isServer, Nat.zero_le _, order.arq, fun _ => ⟨⟨rest, next⟩, handed, nofun⟩,
            input.handed_took⟩, nofun⟩
      | challenges frame isHello isReading hello payload size =>
          rcases input.took decoded (server.run.goto (.writingChallenge hello)) with
            ⟨next, handed⟩
          have hasRead := active.hasRead
          rw [isReading] at hasRead
          rw [hasRead, isHello] at handed
          have performed := HandshakeEnd.goOn_cases (serverCoroutine P X entropy)
            (server.took data rest) (server.run.goto (.writingChallenge hello),
              [.writeFrame .challenge payload 0])
          refine
            ServerOrder.writes performed next order.isServer (Nat.zero_le _) order.arq handed ?_
            List.mem_cons_self rfl (.challenge payload rfl size)
          intro found payload' seq member
          cases List.mem_singleton.mp member
          exact ⟨rfl, rfl, rfl⟩
      | accepts frame isHelloAck isReading locals txKey rxKey payload size =>
          rcases input.took decoded (server.run.goto (.writingSessionOk locals)) with
            ⟨next, handed⟩
          rcases isReading with ⟨hello, keys, isReading⟩
          have hasRead := active.hasRead
          rw [isReading] at hasRead
          rw [hasRead, isHelloAck] at handed
          have rank : 2 ≤ client.stream.rank := by
            have known := order.rank
            rw [isReading] at known
            exact known
          have performed := HandshakeEnd.goOn_cases (serverCoroutine P X entropy)
            (server.took data rest) (server.run.goto (.writingSessionOk locals),
              [.setSessionKeys txKey rxKey, .writeFrame .sessionOk payload 0])
          refine ServerOrder.writes performed next order.isServer rank order.arq handed ?_
            (List.mem_cons_of_mem _ List.mem_cons_self) rfl (.sessionOk payload rfl size rank)
          intro found payload' seq member
          simp only [List.mem_cons, List.not_mem_nil, or_false, reduceCtorEq, false_or,
            HandshakeCall.writeFrame.injEq] at member
          exact member

/-- A coroutine that goes on with what its stream has. -/
theorem ServerOrder.advance (order : ServerOrder client server)
    (isActive : server.run.hasEnded = false) (run : ServerHandshake) (arq : Option Resend)
    (rank : run.stage.rank ≤ client.stream.rank)
    (hasRead : run.hasEnded = false → run.stage.hasRead = server.run.stage.hasRead)
    (writes : ∀ type, run.stage.writes = some type → server.run.stage.writes = some type)
    (fromArq : ∀ resend, arq = some resend → FromServer client resend.data) :
    ServerOrder client { server with run, arq } := by
  have active := order.active isActive
  rcases active.input with ⟨frames, input⟩
  refine ⟨order.isServer, rank, fromArq, ?_, order.handed⟩
  intro goesOn
  exact ⟨⟨frames, input.same ⟨rfl, rfl, rfl, rfl⟩ rfl rfl⟩,
    active.hasRead.trans (hasRead goesOn).symm,
    fun type isType => active.writes type (writes type isType)⟩

theorem ServerOrder.raised (order : ServerOrder client server) (exn : Exn) :
    ServerKeeps client { server with run := server.run.goto (.raised exn), arq := none } [] :=
  ⟨.ended order.isServer (Nat.zero_le _) nofun rfl order.handed, nofun⟩

theorem ServerOrder.started (order : ServerOrder client server)
    (created : server.run.stage = .created)
    (psk : PskInput) (lockedOut : Option String) :
    ServerOrder client { server with run := .start psk lockedOut } := by
  have isActive : server.run.hasEnded = false := by simp [ServerHandshake.hasEnded, created]
  cases lockedOut with
  | none =>
      refine order.advance isActive _ server.arq (Nat.zero_le _) ?_ ?_ order.arq
      · intro _
        rw [created]
        rfl
      · intro type writes
        cases writes
  | some remaining => exact .ended order.isServer (Nat.zero_le _) order.arq rfl order.handed

theorem ServerOrder.resolved {P : Primitives} {X : KeyExchange} {entropy : Entropy}
    (order : ServerOrder client server) {outcome : Except Exn (Option Bytes)}
    {taken : ServerHandshake × List HandshakeCall}
    (stepped : server.run.resolved X outcome entropy = some taken) :
    ServerKeeps client (server.goOn (serverCoroutine P X entropy) taken).1
      (server.goOn (serverCoroutine P X entropy) taken).2 := by
  have raises : ∀ exn, ServerKeeps client
      (server.goOn (serverCoroutine P X entropy) (server.run.goto (.raised exn), [])).1
      (server.goOn (serverCoroutine P X entropy) (server.run.goto (.raised exn), [])).2 :=
    ServerOrder.stops order.isServer order.arq order.handed server.run
  unfold ServerHandshake.resolved at stepped
  cases isStage : server.run.stage with
  | created | readingHello | writingChallenge hello | readingHelloAck hello keys
  | writingSessionOk locals | returned info | raised exn =>
      rw [isStage] at stepped
      cases stepped
  | resolving deviceId pubC =>
      rw [isStage] at stepped
      cases outcome with
      | error exn =>
          cases stepped
          exact raises exn
      | ok psk =>
          cases psk with
          | none =>
              cases stepped
              exact raises _
          | some psk =>
              cases stepped
              rcases challenge_cases X server.run deviceId pubC psk entropy with
                ⟨exn, failed⟩ | ⟨hello, payload, size, sent⟩
              · rw [failed]
                exact raises exn
              · rw [sent]
                have isActive : server.run.hasEnded = false := by
                  simp [ServerHandshake.hasEnded, isStage]
                have active := order.active isActive
                rcases active.input with ⟨frames, input⟩
                have hasRead := active.hasRead
                rw [isStage] at hasRead
                have performed := HandshakeEnd.goOn_cases (serverCoroutine P X entropy) server
                  (server.run.goto (.writingChallenge hello), [.writeFrame .challenge payload 0])
                have next : ServerInput client
                    { server with run := server.run.goto (.writingChallenge hello) } frames :=
                  input.same (.refl _) rfl rfl
                refine ServerOrder.writes performed next order.isServer (Nat.zero_le _) order.arq
                  hasRead ?_ List.mem_cons_self rfl (.challenge payload rfl size)
                intro found payload' seq member
                cases List.mem_singleton.mp member
                exact ⟨rfl, rfl, rfl⟩

theorem ServerOrder.acked {P : Primitives} {X : KeyExchange} {entropy : Entropy}
    (order : ServerOrder client server) {after : HandshakeEnd ServerHandshake}
    (stepped : server.acked (serverCoroutine P X entropy) = some after) :
    ServerOrder client after := by
  rcases HandshakeNet.acked_cases stepped with ⟨run, wrote, received, _, rfl⟩
  have wrote : server.run.wrote P X none = some run := wrote
  have acked : ∀ type, server.run.hasEnded = false → server.run.stage.writes = some type →
      rankOf type ≤ client.stream.rank := fun type isActive writes =>
    ((order.active isActive).writes type writes).2 received
  unfold ServerHandshake.wrote at wrote
  cases isStage : server.run.stage with
  | created | readingHello | resolving deviceId pubC | readingHelloAck hello keys | returned info
  | raised exn =>
      rw [isStage] at wrote
      cases wrote
  | writingChallenge hello =>
      have isActive : server.run.hasEnded = false := by simp [ServerHandshake.hasEnded, isStage]
      have rank := acked 2 isActive (by rw [isStage]; rfl)
      rw [isStage] at wrote
      dsimp only at wrote
      split at wrote <;> cases wrote
      · exact (order.raised _).1
      · refine order.advance isActive _ none rank ?_ ?_ (by simp)
        · intro _
          rw [isStage]
          rfl
        · intro type writes
          cases writes
  | writingSessionOk locals =>
      have isActive : server.run.hasEnded = false := by simp [ServerHandshake.hasEnded, isStage]
      have rank := acked 4 isActive (by rw [isStage]; rfl)
      rw [isStage] at wrote
      dsimp only at wrote
      split at wrote <;> cases wrote
      · exact .ended order.isServer rank (by simp) rfl order.handed
      · exact (order.raised _).1

/-- Every step that a server's end takes by itself keeps the order. -/
theorem ServerOrder.moved {P : Primitives} {X : KeyExchange} {setup : HandshakeSetup}
    (order : ServerOrder client server) {after : HandshakeEnd ServerHandshake} {out : List Bytes}
    (move : InstanceMove P X setup server after out) : ServerKeeps client after out := by
  cases move with
  | started lockedOut created => exact ⟨order.started created _ _, List.forall_mem_nil _⟩
  | resumed entropy stepped => exact order.resumed stepped
  | resolved outcome entropy stepped => exact order.resolved stepped
  | acked stepped => exact ⟨order.acked stepped, List.forall_mem_nil _⟩
  | timeout stepped =>
      rcases HandshakeNet.timeout_cases stepped with ⟨resend, isArq, rfl⟩ | ⟨run, wrote, rfl⟩
      · have sent := order.arq resend isArq
        refine ⟨⟨order.isServer, order.rank, ?_, ?_, order.handed⟩, ?_⟩
        · intro found isFound
          cases isFound
          exact sent
        · intro isActive
          have active := order.active isActive
          rcases active.input with ⟨frames, input⟩
          exact ⟨⟨frames, input.same (.refl _) rfl rfl⟩, active.hasRead, active.writes⟩
        · intro data member
          rw [List.mem_singleton.mp member]
          exact sent
      · rw [server_wrote_error wrote]
        exact order.raised _
  | aborted =>
      unfold HandshakeNet.abortServer
      split
      · exact ⟨order, List.forall_mem_nil _⟩
      · exact ⟨order, List.forall_mem_nil _⟩
      all_goals exact order.raised _
  | served info returned stream sent served session =>
      simp only [servedStream, Bool.and_eq_true, decide_eq_true_eq] at served
      have hasEnded : server.run.hasEnded = true := by simp [ServerHandshake.hasEnded, returned]
      have rank := order.rank
      rw [returned] at rank
      have noArq : ∀ resend, (server.serve stream).arq = some resend →
          FromServer client resend.data := by
        intro resend isArq
        cases isArq
      refine ⟨.ended (served.1.trans order.isServer) order.rank noArq hasEnded order.handed, ?_⟩
      intro data member
      exact .session (List.all_eq_true.mp session data member) rank
  | closed =>
      refine ⟨order.withStream order.isServer rfl rfl ?_ ?_, List.forall_mem_nil _⟩
      · intro type _ _ received earlier
        rw [UDPStream.close, earlier] at received
        cases received
      · exact fun _ frames input =>
          ⟨frames, ⟨⟨input.buffered.pending, input.buffered.buffer, input.buffered.whole⟩,
            input.sent, input.inOrder, input.last, input.early⟩⟩

end Usmp
