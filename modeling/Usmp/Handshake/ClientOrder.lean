import Usmp.Handshake.Order

/-!
# The client keeps the order
-/

namespace Usmp

/-- Only the write in progress changed. -/
theorem ClientInput.same {client after : HandshakeEnd ClientHandshake} {frames : List Bytes}
    {order session : List Nat} (input : ClientInput client frames order session)
    (same : SameInput client.stream after.stream) (pending : after.pending = client.pending)
    (handed : after.handed = client.handed) (later : Later client after) :
    ClientInput after frames order session where
  buffered := input.buffered.same same pending
  sent data member := (input.sent data member).later later
  inOrder := input.inOrder
  last := same.lastRxType.trans input.last
  isAccepted := by
    rw [accepted, handed]
    exact input.isAccepted
  inSession type member := by
    rw [UDPStream.rank, same.lastRxType]
    exact input.inSession type member

theorem ClientInput.rank {client : HandshakeEnd ClientHandshake} {frames : List Bytes}
    {order session : List Nat} (input : ClientInput client frames order session) :
    client.stream.rank = rankOf (lastType order) := by
  rw [UDPStream.rank, input.last]

/-- No frame of a session comes before SESSION_OK. -/
theorem ClientInput.session_nil {client : HandshakeEnd ClientHandshake} {frames : List Bytes}
    {order session : List Nat} (input : ClientInput client frames order session)
    (early : client.stream.rank < 3) : session = [] := by
  cases session with
  | nil => rfl
  | cons type rest =>
      have late := (input.inSession type List.mem_cons_self).2
      omega

/-- There is room for the frames of a handshake. -/
theorem ClientInput.room {client : HandshakeEnd ClientHandshake} {frames : List Bytes}
    {order session : List Nat} (input : ClientInput client frames order session)
    (early : client.stream.rank < 3) (short : order.length ≤ 2) {data : Bytes}
    (frame : IsFrame data) : client.stream.readBuffer.length + data.length ≤ maxReadBuffer := by
  have sizes := congrArg List.length input.isAccepted
  rw [input.session_nil early, accepted] at sizes
  simp only [List.length_append, List.length_map, List.append_nil] at sizes
  have bound := input.buffered.length_le
  have few : frames.length ≤ 2 := by omega
  have total := Nat.mul_le_mul_right (usmpHeaderSize + usmpMaxPayload) few
  have fits := frame.fits
  have size := frame.size
  simp only [usmpHeaderSize, usmpMaxPayload, maxReadBuffer] at *
  omega

theorem lastRxType_note {stream : UDPStream} {data : Bytes}
    (isHandshake : isHandshakeType (typeOf data) = true) :
    stream.noteType data = { stream with lastRxType := typeOf data } := by
  rw [UDPStream.noteType, if_pos isHandshake]

theorem noteType_session {stream : UDPStream} {data : Bytes}
    (isSession : isHandshakeType (typeOf data) = false) : stream.noteType data = stream := by
  rw [UDPStream.noteType, if_neg (by rw [isSession]; decide)]

/-- A new stream, in which the write in progress is the same. -/
theorem ClientOrder.withStream {client : HandshakeEnd ClientHandshake}
    (order : ClientOrder client) {stream : UDPStream} (isClient : stream.isServer = false)
    (known : stream.lastRxType ∈ [-1, 10, 2, 4])
    (type : stream.pendingSendType = client.stream.pendingSendType)
    (seq : stream.pendingSendSeq = client.stream.pendingSendSeq)
    (acked : client.stream.ackReceived = true → stream.ackReceived = true)
    (later : Later client { client with stream })
    (input : client.run.hasEnded = false → ∃ frames order session,
      ClientInput { client with stream } frames order session) :
    ClientOrder { client with stream } where
  isClient := isClient
  lastRxType := known
  arq resend isArq := (order.arq resend isArq).later later
  active active := by
    have before := order.active active
    refine ⟨input active, before.hasRead, ?_, fun reading => acked (before.acked reading)⟩
    intro lastType lastSeq isLast
    rcases before.lastWrite lastType lastSeq isLast with ⟨isType, isSeq⟩
    exact ⟨type.trans isType, seq.trans isSeq⟩
  done hasEnded := ⟨(order.done hasEnded).handed, (order.done hasEnded).exn⟩

/-- A UTACK arrives. -/
theorem ClientOrder.ack {client : HandshakeEnd ClientHandshake} (order : ClientOrder client) :
    ClientOrder { client with stream := { client.stream with ackReceived := true } } := by
  refine order.withStream order.isClient order.lastRxType rfl rfl (fun _ => rfl)
    ⟨Nat.le_refl _, id⟩ ?_
  intro active
  rcases (order.active active).input with ⟨frames, types, session, input⟩
  exact ⟨frames, types, session,
    input.same ⟨rfl, rfl, rfl, rfl⟩ rfl rfl ⟨Nat.le_refl _, id⟩⟩

/-- The stream takes in a frame. -/
theorem ClientOrder.buffers {client : HandshakeEnd ClientHandshake} (order : ClientOrder client)
    {data : Bytes} (sent : FromServer client data) (frame : IsFrame data)
    (new : client.stream.seenBefore data = false) :
    let stream := { client.stream.noteType data with
      readBuffer := client.stream.readBuffer ++ data }
    ClientOrder { client with stream } ∧ Later client { client with stream } := by
  cases isHandshake : isHandshakeType (typeOf data) with
  | true =>
      rcases sent.new frame order.isClient order.lastRxType isHandshake new with
        ⟨isType, challenged, early⟩
      rw [lastRxType_note isHandshake]
      dsimp only
      have later : Later client { client with
          stream := { client.stream with
            lastRxType := typeOf data, readBuffer := client.stream.readBuffer ++ data } } :=
        ⟨Nat.le_of_lt early, id⟩
      refine ⟨order.withStream order.isClient ?_ rfl rfl id later ?_, later⟩
      · simp only [List.mem_cons, List.not_mem_nil, or_false] at isType ⊢
        omega
      intro active
      rcases (order.active active).input with ⟨frames, types, session, input⟩
      rw [input.rank] at challenged early
      rcases clientSequences_append types input.inOrder _ isType challenged early with
        ⟨next, _, last⟩
      have notLast : client.stream.rank < 3 := by
        have bound : ∀ type : Nat, type ∈ [10, 2, 4] → rankOf type ≤ 3 := by decide
        have := bound _ isType
        rw [input.rank]
        omega
      have noSession := input.session_nil notLast
      subst noSession
      refine ⟨frames ++ [data], types ++ [typeOf data], [],
        input.buffered.append frame rfl rfl, ?_, next, last.symm, ?_, nofun⟩
      · intro other member
        rcases List.mem_append.mp member with old | isNew
        · exact (input.sent other old).later later
        · rw [List.mem_singleton.mp isNew]
          exact sent.later later
      · have isAccepted := input.isAccepted
        rw [List.append_nil] at isAccepted ⊢
        rw [← isAccepted]
        exact accepted_append rfl frames data
  | false =>
      have late : 3 ≤ client.stream.rank := by
        rcases sent.frame frame with ⟨_, is, _⟩ | ⟨_, late⟩
        · rw [is] at isHandshake
          cases isHandshake
        · exact late
      rw [noteType_session isHandshake]
      dsimp only
      have later : Later client { client with
          stream := { client.stream with readBuffer := client.stream.readBuffer ++ data } } :=
        ⟨Nat.le_refl _, id⟩
      refine ⟨order.withStream order.isClient order.lastRxType rfl rfl id later ?_, later⟩
      intro active
      rcases (order.active active).input with ⟨frames, types, session, input⟩
      refine ⟨frames ++ [data], types, session ++ [typeOf data],
        input.buffered.append frame rfl rfl, ?_, input.inOrder, input.last, ?_, ?_⟩
      · intro other member
        rcases List.mem_append.mp member with old | isNew
        · exact (input.sent other old).later later
        · rw [List.mem_singleton.mp isNew]
          exact sent.later later
      · rw [← List.append_assoc, ← input.isAccepted]
        exact accepted_append rfl frames data
      · intro type member
        rcases List.mem_append.mp member with old | isNew
        · exact input.inSession type old
        · rw [List.mem_singleton.mp isNew]
          exact ⟨isHandshake, late⟩

/-- A frame that finds no room is none of the handshake, or the handshake is over. -/
theorem ClientOrder.overflows {client : HandshakeEnd ClientHandshake} (order : ClientOrder client)
    {data : Bytes} (sent : FromServer client data) (frame : IsFrame data)
    (new : client.stream.seenBefore data = false)
    (noRoom : client.stream.readBuffer.length + data.length > maxReadBuffer) :
    ClientOrder { client with stream := client.stream.noteType data } ∧
      Later client { client with stream := client.stream.noteType data } := by
  cases isHandshake : isHandshakeType (typeOf data) with
  | true =>
      rcases sent.new frame order.isClient order.lastRxType isHandshake new with
        ⟨isType, challenged, early⟩
      rw [lastRxType_note isHandshake]
      have later : Later client { client with
          stream := { client.stream with lastRxType := typeOf data } } :=
        ⟨Nat.le_of_lt early, id⟩
      refine ⟨order.withStream order.isClient ?_ rfl rfl id later ?_, later⟩
      · simp only [List.mem_cons, List.not_mem_nil, or_false] at isType ⊢
        omega
      intro active
      rcases (order.active active).input with ⟨frames, types, session, input⟩
      have bound : ∀ type : Nat, type ∈ [10, 2, 4] → rankOf type ≤ 3 := by decide
      have notLast : client.stream.rank < 3 := by
        have := bound _ isType
        omega
      rw [input.rank] at challenged early
      have short := (clientSequences_append types input.inOrder _ isType challenged early).2.1
      have room := input.room notLast short frame
      omega
  | false =>
      rw [noteType_session isHandshake]
      exact ⟨order, .refl client⟩

/-- What the client answers, it has accepted. -/
theorem fromClient_reply (P : Primitives) {client : HandshakeEnd ClientHandshake} {data : Bytes}
    (seen : isHandshakeType (typeOf data) = true → rankOf (typeOf data) ≤ client.stream.rank)
    (stream : UDPStream) :
    FromClient client (stream.buildUtack P (typeOf data) (seqOf data)) := by
  rcases isUtack_reply P stream data with ⟨isUtack, isType, _⟩
  refine .utack isUtack (length_buildUtack _ _ _ _) ?_ ?_
  · intro challenge
    rw [isType] at challenge
    rw [challenge] at seen
    exact seen rfl
  · intro sessionOk
    rw [isType] at sessionOk
    rw [sessionOk] at seen
    exact seen rfl

/-- What the client's stream makes of a datagram. -/
theorem ClientOrder.fed {P : Primitives} {client : HandshakeEnd ClientHandshake}
    (order : ClientOrder client) {data : Bytes} (sent : FromServer client data) :
    ClientOrder (client.feed P data).1 ∧ Later client (client.feed P data).1 ∧
      ∀ reply ∈ (client.feed P data).2, FromClient (client.feed P data).1 reply := by
  have fed := feedPacket_cases P client.stream data
  simp only [HandshakeEnd.feed]
  generalize client.stream.feedPacket P data = result at fed
  cases fed with
  | closed isClosed => exact ⟨order, .refl client, List.forall_mem_nil _⟩
  | noAck utack => exact ⟨order, .refl client, List.forall_mem_nil _⟩
  | ack utack authentic isSeq isType =>
      exact ⟨order.ack, ⟨Nat.le_refl _, id⟩, List.forall_mem_nil _⟩
  | garbage notUtack notFrame => exact ⟨order, .refl client, List.forall_mem_nil _⟩
  | old isOpen frame seen =>
      refine ⟨order, .refl client, ?_⟩
      intro reply member
      rw [List.mem_singleton.mp member]
      apply fromClient_reply
      intro isHandshake
      rw [UDPStream.seenBefore, if_pos isHandshake] at seen
      rcases sent.frame frame with ⟨types, _⟩ | ⟨isSession, _⟩
      · apply (isDuplicateHandshake_client order.isClient order.lastRxType ?_).mp seen
        rcases types with ⟨is, _⟩ | ⟨is, _⟩ | ⟨is, _⟩ <;> simp [is]
      · rw [isSession] at isHandshake
        cases isHandshake
  | full isOpen frame new noRoom =>
      rcases order.overflows sent frame new noRoom with ⟨kept, later⟩
      exact ⟨kept, later, List.forall_mem_nil _⟩
  | buffered isOpen frame new room =>
      rcases order.buffers sent frame new with ⟨kept, later⟩
      refine ⟨kept, later, ?_⟩
      intro reply member
      rw [List.mem_singleton.mp member]
      apply fromClient_reply
      intro isHandshake
      rw [lastRxType_note isHandshake]
      exact Nat.le_refl _

/-! ## What the client reads -/

/-- The outcomes of a read of a frame that is in its place. -/
inductive ClientReads (run : ClientHandshake) :
    PacketType → ClientHandshake × List HandshakeCall → Prop where
  | fails (type : PacketType) (exn : Exn) (notHandshake : exn.cls ≠ .handshakeError ∨
        exn.cls = .handshakeError ∧ exn.message ∈ closedTexts)
      {calls : List HandshakeCall}
      (noWrite : ∀ type payload seq, .writeFrame type payload seq ∉ calls) :
      ClientReads run type (run.goto (.raised exn), calls)
  | retries (payload : Bytes) (size : 48 ≤ payload.length) :
      ClientReads run .helloRetry (run.goto .writingRetry, [.writeFrame .hello payload 1])
  | answers (locals : ClientLocals) (payload : Bytes) :
      ClientReads run .challenge
        (run.goto (.writingHelloAck locals), [.writeFrame .helloAck payload 2])
  | returns (info : SessionInfo) {calls : List HandshakeCall}
      (noWrite : ∀ type payload seq, .writeFrame type payload seq ∉ calls) :
      ClientReads run .sessionOk (run.goto (.returned info), calls)

theorem deriveSessionKeys_error {P : Primitives} {X : KeyExchange} {priv : PrivateKey}
    {peerPub nonce pubC pubS : Bytes} {exn : Exn}
    (failed : deriveSessionKeys P X priv peerPub nonce pubC pubS = .error exn) :
    exn.cls ≠ .handshakeError := by
  unfold deriveSessionKeys at failed
  split at failed
  · split at failed
    · cases failed
      exact nofun
    · split at failed <;> cases failed
      exact nofun
  · cases failed
    exact nofun

theorem clientReads_onChallenge (P : Primitives) (X : KeyExchange) (run : ClientHandshake)
    {frame : USMPFrame} (isType : frame.type = .challenge) (size : frame.length = 64) :
    ClientReads run frame.type (run.onChallenge P X frame) := by
  have size : frame.length = usmpNonceLen + usmpPubKeyLen := size
  unfold ClientHandshake.onChallenge
  rw [if_neg (not_not.mpr isType), if_neg (not_not.mpr size), isType]
  dsimp only
  split
  · rename_i exn failed
    exact .fails _ exn (.inl (deriveSessionKeys_error failed)) fun _ _ _ => (nomatch ·)
  · exact .answers _ _

theorem clientReads_onFirst (P : Primitives) (X : KeyExchange) (run : ClientHandshake)
    {frame : USMPFrame} (payload : frame.payload.length = frame.length)
    (isFirst : frame.type = .helloRetry ∧ frame.length = 16 ∨
      frame.type = .challenge ∧ frame.length = 64) :
    ClientReads run frame.type (run.onFirst P X frame) := by
  unfold ClientHandshake.onFirst
  rcases isFirst with ⟨isType, size⟩ | ⟨isType, size⟩
  · rw [if_pos isType, if_neg (not_not.mpr size), isType]
    refine .retries _ ?_
    rw [List.length_append, List.length_append, (X.publicKey run.priv).2, usmpPubKeyLen,
      payloadSlice, List.length_take, List.length_drop, payload, size]
    omega
  · rw [if_neg (by rw [isType]; decide)]
    exact clientReads_onChallenge P X run isType size

theorem clientReads_onSessionOk (P : Primitives) (X : KeyExchange) (run : ClientHandshake)
    (locals : ClientLocals) {frame : USMPFrame} (isType : frame.type = .sessionOk)
    (size : frame.length = 48) : ClientReads run frame.type (run.onSessionOk P X locals frame) := by
  have install : ∀ type payload seq, HandshakeCall.writeFrame type payload seq ∉
      [HandshakeCall.setSessionKeys locals.keys.1 locals.keys.2] := by
    intro type payload seq member
    cases List.mem_singleton.mp member
  have size : frame.length = usmpSessionIdLen + usmpHmacLen := size
  unfold ClientHandshake.onSessionOk
  rw [if_neg (not_not.mpr isType), if_neg (not_not.mpr size), isType]
  dsimp only
  split
  · exact .fails _ _ (.inl (by nofun)) fun _ _ _ => (nomatch ·)
  split
  · split
    · exact .returns _ install
    · exact .fails _ _ (.inl (by nofun)) install
  · exact .fails _ _ (.inl (by nofun)) install

/-- A read that the end of the stream breaks off. -/
theorem client_read_error {P : Primitives} {X : KeyExchange} {run : ClientHandshake}
    {taken : ClientHandshake × List HandshakeCall}
    (read : run.read P X (.error ⟨.incompleteReadError, "stream closed"⟩) = some taken) :
    ∃ exn, taken = (run.goto (.raised exn), []) ∧ exn.cls = .handshakeError ∧
      exn.message ∈ closedTexts := by
  unfold ClientHandshake.read at read
  cases isStage : run.stage with
  | readingChallenge | readingChallengeAgain | readingSessionOk locals =>
      rw [isStage] at read
      cases read
      exact ⟨_, rfl, rfl, by decide⟩
  | writingHello | writingRetry | writingHelloAck locals | returned info | raised exn =>
      rw [isStage] at read
      cases read

/-- The sizes of the frames in the buffer. -/
theorem FromServer.decoded {client : HandshakeEnd ClientHandshake} {data : Bytes}
    (sent : FromServer client data) (isFrame : IsFrame data) {type : PacketType}
    (isType : typeOf data = type.toNat) (isHandshake : isHandshakeType type.toNat = true) :
    ∃ frame, decodeFrame data false = .ok frame ∧ frame.type = type ∧
      frame.payload.length = frame.length ∧
      (type = .helloRetry ∧ frame.length = 16 ∨ type = .challenge ∧ frame.length = 64 ∨
        type = .sessionOk ∧ frame.length = 48) := by
  rcases sent.frame isFrame with ⟨types, _, frame, decoded⟩ | ⟨isSession, _⟩
  · rcases decodeFrame_fields decoded with ⟨frameType, _, length, payload⟩
    have same : frame.type = type := PacketType.toNat_injective (frameType.trans isType)
    refine ⟨frame, decoded, same, payload, ?_⟩
    rw [length]
    rcases types with ⟨is, size⟩ | ⟨is, size⟩ | ⟨is, size, _⟩
    · exact .inl ⟨PacketType.toNat_injective (isType.symm.trans is), size⟩
    · exact .inr (.inl ⟨PacketType.toNat_injective (isType.symm.trans is), size⟩)
    · exact .inr (.inr ⟨PacketType.toNat_injective (isType.symm.trans is), size⟩)
  · rw [isType, isHandshake] at isSession
    cases isSession

/-- While the coroutine has not read SESSION_OK, the next frame is one of the handshake. -/
theorem ClientInput.next {client : HandshakeEnd ClientHandshake} {data : Bytes}
    {rest : List Bytes} {order session : List Nat}
    (input : ClientInput client (data :: rest) order session)
    (early : .sessionOk ∉ client.handed) :
    client.handed.map PacketType.toNat ++ [typeOf data] <+: order := by
  have isAccepted := input.isAccepted
  rw [accepted, List.map_cons] at isAccepted
  have notRead : 4 ∉ client.handed.map PacketType.toNat := by
    intro member
    rcases List.mem_map.mp member with ⟨type, isHanded, isFour⟩
    have same : type = .sessionOk := PacketType.toNat_injective isFour
    exact early (same ▸ isHanded)
  have ends : session ≠ [] → 4 ∈ order := by
    intro notEmpty
    have last : ∀ order ∈ clientSequences, 3 ≤ rankOf (lastType order) → 4 ∈ order := by decide
    cases session with
    | nil => exact absurd rfl notEmpty
    | cons type more =>
        have late := (input.inSession type List.mem_cons_self).2
        rw [input.rank] at late
        exact last order input.inOrder late
  have whole : client.handed.map PacketType.toNat ++ [typeOf data] <+: order ++ session :=
    ⟨rest.map typeOf, by rw [← isAccepted, List.append_assoc]; rfl⟩
  apply List.prefix_of_prefix_length_le whole (List.prefix_append _ _)
  by_contra tooLong
  rw [List.length_append, List.length_singleton, Nat.not_le] at tooLong
  have inside : order <+: client.handed.map PacketType.toNat :=
    List.prefix_of_prefix_length_le (List.prefix_append order session)
      ⟨typeOf data :: rest.map typeOf, isAccepted⟩ (by omega)
  have noSession : session = [] := by
    by_contra notEmpty
    exact notRead (inside.subset (ends notEmpty))
  have sizes := congrArg List.length isAccepted
  rw [noSession] at sizes
  simp only [List.length_append, List.length_cons, List.length_nil] at sizes
  omega

/-- The frame after what the coroutine has read. -/
def ClientStage.expects : ClientStage → List PacketType
  | .readingChallenge => [.helloRetry, .challenge]
  | .readingChallengeAgain => [.challenge]
  | .readingSessionOk _ => [.sessionOk]
  | .writingHello | .writingRetry | .writingHelloAck _ | .returned _ | .raised _ => []

theorem ClientStage.expects_of_prefix {stage : ClientStage} {handed : List PacketType}
    (hasRead : handed ∈ stage.hasRead)
    (reading : stage.expects ≠ []) {order : List Nat} (inOrder : order ∈ clientSequences)
    {next : Nat} (isPrefix : handed.map PacketType.toNat ++ [next] <+: order) :
    ∃ type ∈ stage.expects, next = type.toNat := by
  simp only [clientSequences, List.mem_cons, List.not_mem_nil, or_false] at inOrder
  cases stage with
  | writingHello | writingRetry | writingHelloAck locals | returned info | raised exn =>
      exact absurd rfl reading
  | readingChallenge =>
      cases List.mem_singleton.mp hasRead
      rcases inOrder with rfl | rfl | rfl | rfl | rfl | rfl <;>
        simp_all [expects, PacketType.toNat]
  | readingChallengeAgain =>
      cases List.mem_singleton.mp hasRead
      rcases inOrder with rfl | rfl | rfl | rfl | rfl | rfl <;>
        simp_all [expects, PacketType.toNat]
  | readingSessionOk locals =>
      have isHanded : handed = [.challenge] ∨ handed = [.helloRetry, .challenge] := by
        simpa [ClientStage.hasRead] using hasRead
      rcases isHanded with rfl | rfl <;> rcases inOrder with rfl | rfl | rfl | rfl | rfl | rfl <;>
        simp_all [expects, PacketType.toNat]

theorem ClientStage.handed_sublist {stage : ClientStage} {handed : List PacketType}
    (hasRead : handed ∈ stage.hasRead) :
    handed.Sublist [.helloRetry, .challenge, .sessionOk] ∧ .sessionOk ∉ handed ∧
      ∀ type ∈ stage.expects,
        (handed ++ [type]).Sublist [.helloRetry, .challenge, .sessionOk] := by
  cases stage with
  | returned info | raised exn => cases hasRead
  | writingHello | readingChallenge | writingRetry | readingChallengeAgain =>
      cases List.mem_singleton.mp hasRead
      simp only [ClientStage.expects]
      decide
  | writingHelloAck locals | readingSessionOk locals =>
      have isHanded : handed = [.challenge] ∨ handed = [.helloRetry, .challenge] := by
        simpa [ClientStage.hasRead] using hasRead
      simp only [ClientStage.expects]
      rcases isHanded with rfl | rfl <;> decide

/-- A client whose handshake is over. -/
theorem ClientOrder.ended {client : HandshakeEnd ClientHandshake}
    (isClient : client.stream.isServer = false)
    (known : client.stream.lastRxType ∈ [-1, 10, 2, 4])
    (arq : ∀ resend, client.arq = some resend → FromClient client resend.data)
    (hasEnded : client.run.hasEnded = true)
    (handed : client.handed.Sublist [.helloRetry, .challenge, .sessionOk])
    (exn : ∀ exn, client.run.stage = .raised exn → exn.cls = .handshakeError →
      exn.message ∈ closedTexts) : ClientOrder client where
  isClient := isClient
  lastRxType := known
  arq := arq
  active active := by
    rw [hasEnded] at active
    cases active
  done _ := ⟨handed, exn⟩

/-- The frame that the coroutine takes, and what comes of it. -/
theorem client_reads {P : Primitives} {X : KeyExchange} {client : HandshakeEnd ClientHandshake}
    {data : Bytes} {rest : List Bytes} {order session : List Nat}
    (input : ClientInput client (data :: rest) order session)
    (hasRead : client.handed ∈ client.run.stage.hasRead) (reading : client.run.reading = true)
    {taken : ClientHandshake × List HandshakeCall}
    (read : client.run.read P X (decodeFrame data false) = some taken) :
    ∃ frame, decodeFrame data false = .ok frame ∧ frame.type ∈ client.run.stage.expects ∧
      ClientReads client.run frame.type taken := by
  have expects : client.run.stage.expects ≠ [] := by
    unfold ClientHandshake.reading at reading
    cases isStage : client.run.stage <;> simp [isStage] at reading <;>
      simp [ClientStage.expects]
  rcases ClientStage.expects_of_prefix hasRead expects input.inOrder
    (input.next (ClientStage.handed_sublist hasRead).2.1) with ⟨type, expected, isType⟩
  have isHandshake : isHandshakeType type.toNat = true := by
    cases isStage : client.run.stage with
    | writingHello | writingRetry | writingHelloAck locals | returned info | raised exn =>
        rw [isStage] at expected
        cases expected
    | readingChallenge | readingChallengeAgain | readingSessionOk locals =>
        rw [isStage] at expected
        simp only [ClientStage.expects, List.mem_cons, List.not_mem_nil, or_false] at expected
        rcases expected with rfl | rfl <;> rfl
  rcases (input.sent data List.mem_cons_self).decoded (input.buffered.whole data List.mem_cons_self)
    isType isHandshake with ⟨frame, decoded, same, payload, sizes⟩
  subst same
  refine ⟨frame, decoded, expected, ?_⟩
  rw [decoded] at read
  unfold ClientHandshake.read at read
  cases isStage : client.run.stage with
  | writingHello | writingRetry | writingHelloAck locals | returned info | raised exn =>
      rw [isStage] at expected
      cases expected
  | readingChallenge =>
      rw [isStage] at read expected
      cases read
      apply clientReads_onFirst P X client.run payload
      rcases sizes with retry | challenge | sessionOk
      · exact .inl retry
      · exact .inr challenge
      · rw [sessionOk.1] at expected
        simp [ClientStage.expects] at expected
  | readingChallengeAgain =>
      rw [isStage] at read expected
      cases read
      have isChallenge : frame.type = .challenge := by
        simpa [ClientStage.expects] using expected
      apply clientReads_onChallenge P X client.run isChallenge
      rw [isChallenge] at sizes
      simpa using sizes
  | readingSessionOk locals =>
      rw [isStage] at read expected
      cases read
      have isSessionOk : frame.type = .sessionOk := by
        simpa [ClientStage.expects] using expected
      apply clientReads_onSessionOk P X client.run locals isSessionOk
      rw [isSessionOk] at sizes
      simpa using sizes

/-! ## What the client does -/

/-- The client after a step, and what it sent. -/
structure ClientKeeps (before after : HandshakeEnd ClientHandshake) (out : List Bytes) : Prop where
  order : ClientOrder after
  later : Later before after
  sent : ∀ data ∈ out, FromClient after data

/-- An exception that a write raises ends the handshake. -/
theorem client_wrote_error {run : ClientHandshake} {exn : Exn}
    (writing : run.stage = .writingHello ∨ run.stage = .writingRetry ∨
      ∃ locals, run.stage = .writingHelloAck locals) :
    run.wrote (some exn) = some (run.goto (.raised exn)) := by
  unfold ClientHandshake.wrote
  rcases writing with isStage | isStage | ⟨locals, isStage⟩ <;> simp [isStage]

/-- The client's frame goes out, or the write raises. -/
theorem ClientOrder.writes {P : Primitives} {X : KeyExchange}
    {client middle : HandshakeEnd ClientHandshake}
    {type : PacketType} {payload : Bytes} {seq : Nat}
    {result : HandshakeEnd ClientHandshake × List Bytes}
    (performed : HandshakeEnd.Performed (clientCoroutine P X) middle
      [.writeFrame type payload seq] result)
    {rest : List Bytes} {order session : List Nat}
    (input : ClientInput middle rest order session)
    (isClient : middle.stream.isServer = false)
    (known : middle.stream.lastRxType ∈ [-1, 10, 2, 4]) (later : Later client middle)
    (arq : ∀ resend, middle.arq = some resend → FromClient middle resend.data)
    (hasRead : middle.handed ∈ middle.run.stage.hasRead)
    (writing : middle.run.stage = .writingHello ∨ middle.run.stage = .writingRetry ∨
      ∃ locals, middle.run.stage = .writingHelloAck locals)
    (isLast : middle.run.stage.lastWrite = some (type.toNat, seq))
    (sent : payload.length ≤ usmpMaxPayload → FromClient middle (frameBytes type payload seq)) :
    ClientKeeps client result.1 result.2 := by
  have active : middle.run.hasEnded = false ∧ middle.run.reading = false := by
    unfold ClientHandshake.hasEnded ClientHandshake.reading
    rcases writing with isStage | isStage | ⟨locals, isStage⟩ <;> simp [isStage]
  have sequence := (ClientStage.handed_sublist hasRead).1
  cases performed with
  | quiet stream same noWrite => exact absurd List.mem_cons_self (noWrite type payload seq)
  | failed stream same exn notHandshake write =>
      have raises : ((clientCoroutine P X).wrote middle.run (some exn)).getD middle.run =
          middle.run.goto (.raised exn) := by
        rw [show (clientCoroutine P X).wrote middle.run (some exn) = _ from
          client_wrote_error writing, Option.getD_some]
      rw [raises]
      have after : Later middle { middle with run := middle.run.goto (.raised exn), stream } := by
        refine ⟨Nat.le_of_eq ?_, fun _ => rfl⟩
        rw [UDPStream.rank, UDPStream.rank, same.lastRxType]
      refine ⟨?_, ⟨Nat.le_trans later.rank after.rank, fun _ => rfl⟩, List.forall_mem_nil _⟩
      refine .ended (same.isServer.trans isClient) (same.lastRxType ▸ known)
        (fun resend isArq => (arq resend isArq).later after) rfl sequence ?_
      intro found isExn isHandshake
      cases isExn
      exact absurd isHandshake notHandshake
  | sent stream same write seqBound fits last unacked =>
      cases List.mem_singleton.mp write
      have after : Later middle { middle with
          stream, arq := some { data := frameBytes type payload seq } } := by
        refine ⟨Nat.le_of_eq ?_, id⟩
        rw [UDPStream.rank, UDPStream.rank, same.lastRxType]
      refine ⟨⟨same.isServer.trans isClient, same.lastRxType ▸ known, ?_, ?_, ?_⟩,
        ⟨Nat.le_trans later.rank after.rank,
          fun hasEnded => after.hasEnded (later.hasEnded hasEnded)⟩, ?_⟩
      · intro resend isArq
        cases isArq
        exact (sent fits).later after
      · intro _
        refine ⟨⟨rest, order, session, input.same same rfl rfl after⟩, hasRead, ?_, ?_⟩
        · intro lastType lastSeq isWrite
          rw [isLast] at isWrite
          cases isWrite
          exact last
        · intro reading
          rw [active.2] at reading
          cases reading
      · intro hasEnded
        rw [active.1] at hasEnded
        cases hasEnded
      · intro data member
        rw [List.mem_singleton.mp member]
        exact (sent fits).later after

/-- A client that stops after what it read. -/
theorem ClientOrder.stops {P : Primitives} {X : KeyExchange}
    {client middle : HandshakeEnd ClientHandshake} {calls : List HandshakeCall}
    {result : HandshakeEnd ClientHandshake × List Bytes}
    (performed : HandshakeEnd.Performed (clientCoroutine P X) middle calls result)
    (noWrite : ∀ type payload seq, .writeFrame type payload seq ∉ calls)
    (isClient : middle.stream.isServer = false)
    (known : middle.stream.lastRxType ∈ [-1, 10, 2, 4]) (later : Later client middle)
    (arq : ∀ resend, middle.arq = some resend → FromClient middle resend.data)
    (hasEnded : middle.run.hasEnded = true)
    (handed : middle.handed.Sublist [.helloRetry, .challenge, .sessionOk])
    (exn : ∀ exn, middle.run.stage = .raised exn → exn.cls = .handshakeError →
      exn.message ∈ closedTexts) :
    ClientKeeps client result.1 result.2 := by
  cases performed with
  | failed stream same exn notHandshake write => exact absurd write (noWrite _ _ _)
  | sent stream same write seqBound fits last unacked => exact absurd write (noWrite _ _ _)
  | quiet stream same noWrite =>
      have after : Later middle { middle with stream } := by
        refine ⟨Nat.le_of_eq ?_, id⟩
        rw [UDPStream.rank, UDPStream.rank, same.lastRxType]
      exact ⟨.ended (same.isServer.trans isClient) (same.lastRxType ▸ known)
          (fun resend isArq => (arq resend isArq).later after) hasEnded handed exn,
        ⟨Nat.le_trans later.rank after.rank, fun isOver => after.hasEnded (later.hasEnded isOver)⟩,
        List.forall_mem_nil _⟩

theorem not_over_of_reading {run : ClientHandshake} (reading : run.reading = true) :
    run.hasEnded = false := by
  unfold ClientHandshake.reading at reading
  unfold ClientHandshake.hasEnded
  cases isStage : run.stage <;> simp [isStage] at reading <;> rfl

/-- The order that a read leaves. -/
theorem ClientInput.took {client : HandshakeEnd ClientHandshake} {data : Bytes}
    {rest : List Bytes} {order session : List Nat}
    (input : ClientInput client (data :: rest) order session) {frame : USMPFrame}
    (decoded : decodeFrame data false = .ok frame) (run : ClientHandshake)
    (hasEnded : client.run.hasEnded = false) :
    ClientInput { client.took data rest with run } rest order session ∧
      Later client { client.took data rest with run } := by
  have later : Later client { client.took data rest with run } := by
    refine ⟨Nat.le_refl _, ?_⟩
    intro isOver
    rw [hasEnded] at isOver
    cases isOver
  have buffered := input.buffered.took
  refine ⟨⟨⟨buffered.pending, buffered.buffer, buffered.whole⟩, ?_, input.inOrder, input.last,
    (accepted_took decoded rest).1.trans input.isAccepted, input.inSession⟩, later⟩
  exact fun other member => (input.sent other (List.mem_cons_of_mem _ member)).later later

/-- Once the coroutine has read CHALLENGE, the stream has accepted it. -/
theorem ClientInput.challenged {client : HandshakeEnd ClientHandshake} {frames : List Bytes}
    {order session : List Nat} (input : ClientInput client frames order session)
    (hasRead : .challenge ∈ client.handed) : 2 ≤ client.stream.rank := by
  have member : 2 ∈ order := by
    have isAccepted : 2 ∈ accepted client frames :=
      List.mem_append_left _ (List.mem_map.mpr ⟨.challenge, hasRead, rfl⟩)
    rw [input.isAccepted] at isAccepted
    rcases List.mem_append.mp isAccepted with inOrder | inSession
    · exact inOrder
    · have impossible := (input.inSession 2 inSession).1
      cases impossible
  have ranks : ∀ order ∈ clientSequences, 2 ∈ order → 2 ≤ rankOf (lastType order) := by decide
  rw [input.rank]
  exact ranks order input.inOrder member

theorem ClientOrder.resumed {P : Primitives} {X : KeyExchange}
    {client : HandshakeEnd ClientHandshake} (order : ClientOrder client)
    {result : HandshakeEnd ClientHandshake × List Bytes}
    (stepped : client.resume (clientCoroutine P X) = some result) :
    ClientKeeps client result.1 result.2 := by
  have reading : client.run.reading = true := by
    unfold HandshakeEnd.resume at stepped
    split at stepped
    · assumption
    · cases stepped
  have isActive := not_over_of_reading reading
  have active := order.active isActive
  rcases active.input with ⟨frames, types, session, input⟩
  rcases HandshakeEnd.resume_cases input.buffered.buffer input.buffered.whole
    input.buffered.pending stepped with ⟨_, resumed⟩
  have sequence := ClientStage.handed_sublist active.hasRead
  cases resumed with
  | waits empty isOpen => exact ⟨order, .refl client, nofun⟩
  | ends empty isClosed read =>
      rename_i taken
      rcases client_read_error read with ⟨exn, rfl, _, isClosedText⟩
      have later : Later client { client with run := client.run.goto (.raised exn) } :=
        ⟨Nat.le_refl _, fun _ => rfl⟩
      refine ClientOrder.stops (HandshakeEnd.goOn_cases _ client _) (fun _ _ _ => (nomatch ·))
        order.isClient order.lastRxType later
        (fun resend isArq => (order.arq resend isArq).later later) rfl sequence.1 ?_
      intro found isExn _
      cases isExn
      exact isClosedText
  | takes isFirst read =>
      rename_i data rest taken
      subst isFirst
      rcases client_reads input active.hasRead reading read with
        ⟨frame, decoded, expected, reads⟩
      have performed := HandshakeEnd.goOn_cases (clientCoroutine P X) (client.took data rest) taken
      have kept := fun run => input.took decoded run isActive
      have handed : (client.took data rest).handed = client.handed ++ [frame.type] :=
        (accepted_took decoded rest).2
      have arq : ∀ run resend, client.arq = some resend →
          FromClient { client.took data rest with run } resend.data := fun run resend isArq =>
        (order.arq resend isArq).later (kept run).2
      generalize frame.type = type at expected reads handed
      cases reads with
      | fails type exn calm noWrite =>
          refine ClientOrder.stops performed noWrite order.isClient order.lastRxType (kept _).2
            (arq _) rfl ?_ ?_
          · dsimp only
            rw [handed]
            exact sequence.2.2 _ expected
          · intro found isExn isHandshake
            cases isExn
            rcases calm with notHandshake | ⟨_, isClosedText⟩
            · exact absurd isHandshake notHandshake
            · exact isClosedText
      | returns info noWrite =>
          refine ClientOrder.stops performed noWrite order.isClient order.lastRxType (kept _).2
            (arq _) rfl ?_ ?_
          · dsimp only
            rw [handed]
            exact sequence.2.2 _ expected
          · intro found isExn
            cases isExn
      | retries payload size =>
          have nothing : client.handed = [] := by
            cases isStage : client.run.stage <;> rw [isStage] at expected <;>
              simp [ClientStage.expects] at expected
            have hasRead := active.hasRead
            rw [isStage] at hasRead
            exact List.mem_singleton.mp hasRead
          refine ClientOrder.writes performed (kept _).1 order.isClient order.lastRxType (kept _).2
            (arq _) ?_ (.inr (.inl rfl)) rfl
            fun fits => .hello payload 1 rfl fits (.inr ⟨rfl, size⟩)
          dsimp only
          rw [handed, nothing]
          exact List.mem_singleton.mpr rfl
      | answers locals payload =>
          have isHanded : (client.took data rest).handed ∈
              ClientStage.hasRead (.writingHelloAck locals) := by
            have before := active.hasRead
            rw [handed]
            cases isStage : client.run.stage <;> rw [isStage] at expected before <;>
              simp [ClientStage.expects] at expected <;>
              rw [List.mem_singleton.mp before] <;> simp [ClientStage.hasRead]
          refine ClientOrder.writes performed (kept _).1 order.isClient order.lastRxType (kept _).2
            (arq _) isHanded (.inr (.inr ⟨locals, rfl⟩)) rfl ?_
          intro fits
          refine .helloAck payload rfl fits ((kept _).1.challenged ?_)
          dsimp only
          rw [handed]
          simp

/-- A client that goes on with another stage and another write in progress. -/
theorem ClientOrder.advance {client : HandshakeEnd ClientHandshake} (order : ClientOrder client)
    (isActive : client.run.hasEnded = false) (run : ClientHandshake) (arq : Option Resend)
    (notOver : run.hasEnded = false) (hasRead : run.stage.hasRead = client.run.stage.hasRead)
    (lastWrite : run.stage.lastWrite = client.run.stage.lastWrite)
    (acked : run.reading = true → client.stream.ackReceived = true)
    (fromArq : ∀ resend, arq = some resend → FromClient client resend.data) :
    ClientOrder { client with run, arq } ∧ Later client { client with run, arq } := by
  have active := order.active isActive
  have later : Later client { client with run, arq } := by
    refine ⟨Nat.le_refl _, ?_⟩
    intro hasEnded
    rw [isActive] at hasEnded
    cases hasEnded
  refine ⟨⟨order.isClient, order.lastRxType,
    fun resend isArq => (fromArq resend isArq).later later, ?_, ?_⟩, later⟩
  · intro _
    rcases active.input with ⟨frames, types, session, input⟩
    exact ⟨⟨frames, types, session, input.same ⟨rfl, rfl, rfl, rfl⟩ rfl rfl later⟩,
      hasRead ▸ active.hasRead,
      fun type seq isLast => active.lastWrite type seq (lastWrite ▸ isLast),
      acked⟩
  · intro hasEnded
    rw [notOver] at hasEnded
    cases hasEnded

/-- A client whose handshake is broken off. -/
theorem ClientOrder.raised {client : HandshakeEnd ClientHandshake} (order : ClientOrder client)
    (isActive : client.run.hasEnded = false) {exn : Exn}
    (notHandshake : exn.cls ≠ .handshakeError) :
    ClientKeeps client { client with run := client.run.goto (.raised exn), arq := none } [] := by
  refine ⟨.ended order.isClient order.lastRxType nofun rfl ?_ ?_,
    ⟨Nat.le_refl _, fun _ => rfl⟩, nofun⟩
  · exact (ClientStage.handed_sublist (order.active isActive).hasRead).1
  · intro found isExn isHandshake
    cases isExn
    exact absurd isHandshake notHandshake

theorem client_wrote {run next : ClientHandshake} (wrote : run.wrote none = some next) :
    run.hasEnded = false ∧ next.hasEnded = false ∧ next.stage.hasRead = run.stage.hasRead ∧
      next.stage.lastWrite = run.stage.lastWrite := by
  unfold ClientHandshake.wrote at wrote
  unfold ClientHandshake.hasEnded
  cases isStage : run.stage with
  | writingHello | writingRetry | writingHelloAck locals =>
      rw [isStage] at wrote
      cases wrote
      exact ⟨rfl, rfl, rfl, rfl⟩
  | readingChallenge | readingChallengeAgain | readingSessionOk locals | returned info
  | raised exn =>
      rw [isStage] at wrote
      cases wrote

theorem client_write_failed {run next : ClientHandshake} {exn : Exn}
    (wrote : run.wrote (some exn) = some next) :
    run.hasEnded = false ∧ next = run.goto (.raised exn) := by
  unfold ClientHandshake.wrote at wrote
  unfold ClientHandshake.hasEnded
  cases isStage : run.stage with
  | writingHello | writingRetry | writingHelloAck locals =>
      rw [isStage] at wrote
      cases wrote
      exact ⟨rfl, rfl⟩
  | readingChallenge | readingChallengeAgain | readingSessionOk locals | returned info
  | raised exn =>
      rw [isStage] at wrote
      cases wrote

/-- Every step of the client keeps the order. -/
theorem ClientOrder.moved {P : Primitives} {X : KeyExchange}
    {client after : HandshakeEnd ClientHandshake} {out : List Bytes} (order : ClientOrder client)
    (move : ClientMove P X client after out) : ClientKeeps client after out := by
  cases move with
  | resumed stepped => exact order.resumed stepped
  | acked stepped =>
      rcases HandshakeNet.acked_cases stepped with ⟨run, wrote, received, _, rfl⟩
      rcases client_wrote wrote with ⟨isActive, notOver, hasRead, lastWrite⟩
      have next := order.advance isActive run none notOver hasRead lastWrite (fun _ => received)
        (by simp)
      exact ⟨next.1, next.2, List.forall_mem_nil _⟩
  | timeout stepped =>
      rcases HandshakeNet.timeout_cases stepped with ⟨resend, isArq, rfl⟩ | ⟨run, wrote, rfl⟩
      · have sent := order.arq resend isArq
        cases isOver : client.run.hasEnded with
        | true =>
            have done := order.done isOver
            have later : Later client
                { client with arq := some { resend with attempt := resend.attempt + 1 } } :=
              ⟨Nat.le_refl _, id⟩
            refine
              ⟨.ended order.isClient order.lastRxType ?_ isOver done.handed done.exn, later, ?_⟩
            · intro found isFound
              cases isFound
              exact sent.later later
            · intro data member
              rw [List.mem_singleton.mp member]
              exact sent.later later
        | false =>
            have active := order.active isOver
            have next := order.advance isOver client.run
              (some { resend with attempt := resend.attempt + 1 }) isOver rfl rfl active.acked ?_
            · refine ⟨next.1, next.2, ?_⟩
              intro data member
              rw [List.mem_singleton.mp member]
              exact sent.later next.2
            · intro found isFound
              cases isFound
              exact sent
      · rcases client_write_failed wrote with ⟨isActive, rfl⟩
        exact order.raised isActive (by simp)
  | aborted stepped =>
      unfold HandshakeNet.abortClient at stepped
      cases isStage : client.run.stage with
      | returned info | raised exn =>
          rw [isStage] at stepped
          cases stepped
      | writingHello | readingChallenge | writingRetry | readingChallengeAgain
      | writingHelloAck locals | readingSessionOk locals =>
          have isActive : client.run.hasEnded = false := by
            simp [ClientHandshake.hasEnded, isStage]
          rw [isStage] at stepped
          cases stepped
          exact order.raised isActive (by simp)
  | closed =>
      have later : Later client client.close := ⟨Nat.le_refl _, id⟩
      refine ⟨order.withStream order.isClient order.lastRxType rfl rfl id later ?_, later,
        List.forall_mem_nil _⟩
      intro isActive
      rcases (order.active isActive).input with ⟨frames, types, session, input⟩
      have buffered := input.buffered
      exact ⟨frames, types, session, ⟨buffered.pending, buffered.buffer, buffered.whole⟩,
        fun data member => (input.sent data member).later later, input.inOrder, input.last,
        input.isAccepted, input.inSession⟩
  | served info returned stream sent served session =>
      have hasEnded : client.run.hasEnded = true := by
        simp [ClientHandshake.hasEnded, returned]
      have done := order.done hasEnded
      simp only [servedStream, Bool.and_eq_true, decide_eq_true_eq] at served
      have later : Later client (client.serve stream) := by
        refine ⟨Nat.le_of_eq ?_, id⟩
        rw [UDPStream.rank, UDPStream.rank, HandshakeEnd.serve, served.2]
      have noArq : ∀ resend, (client.serve stream).arq = some resend →
          FromClient (client.serve stream) resend.data := by
        intro resend isArq
        cases isArq
      refine ⟨.ended (served.1.trans order.isClient) ?_ noArq hasEnded done.handed done.exn,
        later, ?_⟩
      · rw [HandshakeEnd.serve, served.2]
        exact order.lastRxType
      · intro data member
        exact .session (List.all_eq_true.mp session data member) hasEnded

/-- The client's first step. -/
theorem clientOrder_start (P : Primitives) (X : KeyExchange) (psk deviceId : Bytes)
    (priv : PrivateKey) (client : HandshakeEnd ClientHandshake)
    (stream : client.stream = { isServer := false }) (arq : client.arq = none)
    (pending : client.pending = none) (handed : client.handed = [])
    {result : HandshakeEnd ClientHandshake × List Bytes}
    (isResult : result = client.goOn (clientCoroutine P X)
      (ClientHandshake.start X psk deviceId priv)) :
    ClientOrder result.1 ∧ ∀ data ∈ result.2, FromClient result.1 data := by
  have performed := HandshakeEnd.goOn_cases (clientCoroutine P X) client
    (ClientHandshake.start X psk deviceId priv)
  rw [← isResult] at performed
  have isClient : client.stream.isServer = false := by rw [stream]
  have known : client.stream.lastRxType ∈ [-1, 10, 2, 4] := by
    rw [stream]
    decide
  have noArq : ∀ middle : HandshakeEnd ClientHandshake, ∀ resend, client.arq = some resend →
      FromClient middle resend.data := by
    intro middle resend isArq
    rw [arq] at isArq
    cases isArq
  unfold ClientHandshake.start at performed
  dsimp only at performed
  split at performed
  · have keeps := ClientOrder.stops performed (fun _ _ _ => (nomatch ·)) isClient known (.refl _)
      (noArq _) rfl (by simp [handed]) ?_
    · exact ⟨keeps.order, keeps.sent⟩
    · intro exn isExn isHandshake
      cases isExn
      cases isHandshake
  · have input : ClientInput { client with
        run := { psk, deviceId, priv, stage := .writingHello } } [] [] [] := by
      refine ⟨⟨pending, ?_, nofun⟩, nofun, by decide, ?_, ?_, nofun⟩
      · rw [stream]
        rfl
      · rw [stream]
        rfl
      · rw [accepted, handed]
        rfl
    have keeps := ClientOrder.writes performed input isClient known (.refl _) (noArq _)
      (by rw [handed]; exact List.mem_singleton.mpr rfl) (.inl rfl) rfl
      fun fits => .hello _ 0 rfl fits (.inl rfl)
    exact ⟨keeps.order, keeps.sent⟩

end Usmp
