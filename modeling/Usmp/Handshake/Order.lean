import Usmp.Handshake.NetMoves

/-!
# The order of the frames of a UDP handshake

What the client and the server have in flight to each other, and what their streams have
accepted, at each point of the handshake.  The type of the last frame that the client's
stream accepted says how far the handshake has come.
-/

namespace Usmp

/-- The place of HELLO_RETRY, CHALLENGE and SESSION_OK in the handshake. -/
def rankOf (type : Int) : Nat :=
  if type = 10 then 1 else if type = 2 then 2 else if type = 4 then 3 else 0

/-- How far the client's stream has come. -/
def UDPStream.rank (stream : UDPStream) : Nat := rankOf stream.lastRxType

/-- A later state of the client. -/
structure Later (client next : HandshakeEnd ClientHandshake) : Prop where
  rank : client.stream.rank ≤ next.stream.rank
  hasEnded : client.run.hasEnded = true → next.run.hasEnded = true

theorem Later.refl (client : HandshakeEnd ClientHandshake) : Later client client :=
  ⟨Nat.le_refl _, id⟩

/-- What the client has sent. -/
inductive FromClient (client : HandshakeEnd ClientHandshake) (data : Bytes) : Prop where
  | utack (isUtack : UDPStream.isUtack data = true) (short : data.length ≤ 15)
      (challenge : fieldAt data 2 1 = 2 → 2 ≤ client.stream.rank)
      (sessionOk : fieldAt data 2 1 = 4 → 3 ≤ client.stream.rank)
  | hello (payload : Bytes) (seq : Nat) (isFrame : data = frameBytes .hello payload seq)
      (fits : payload.length ≤ usmpMaxPayload)
      (cookie : seq = 0 ∨ seq = 1 ∧ 48 ≤ payload.length)
  | helloAck (payload : Bytes) (isFrame : data = frameBytes .helloAck payload 2)
      (fits : payload.length ≤ usmpMaxPayload) (challenged : 2 ≤ client.stream.rank)
  | session (isSession : isSessionDatagram data = true) (hasEnded : client.run.hasEnded = true)

/-- What is sent to the client. -/
inductive FromServer (client : HandshakeEnd ClientHandshake) (data : Bytes) : Prop where
  | utack (isUtack : UDPStream.isUtack data = true)
  | retry (payload : Bytes) (isFrame : data = frameBytes .helloRetry payload 0)
      (size : payload.length = 16)
  | challenge (payload : Bytes) (isFrame : data = frameBytes .challenge payload 0)
      (size : payload.length = 64)
  | sessionOk (payload : Bytes) (isFrame : data = frameBytes .sessionOk payload 0)
      (size : payload.length = 48) (challenged : 2 ≤ client.stream.rank)
  | session (isSession : isSessionDatagram data = true) (accepted : 3 ≤ client.stream.rank)

theorem FromClient.later {client next : HandshakeEnd ClientHandshake} {data : Bytes}
    (sent : FromClient client data) (later : Later client next) : FromClient next data := by
  cases sent with
  | utack isUtack short challenge sessionOk =>
      exact .utack isUtack short (fun is => Nat.le_trans (challenge is) later.rank)
        fun is => Nat.le_trans (sessionOk is) later.rank
  | hello payload seq isFrame fits cookie => exact .hello payload seq isFrame fits cookie
  | helloAck payload isFrame fits challenged =>
      exact .helloAck payload isFrame fits (Nat.le_trans challenged later.rank)
  | session isSession hasEnded => exact .session isSession (later.hasEnded hasEnded)

theorem FromServer.later {client next : HandshakeEnd ClientHandshake} {data : Bytes}
    (sent : FromServer client data) (later : Later client next) : FromServer next data := by
  cases sent with
  | utack isUtack => exact .utack isUtack
  | retry payload isFrame size => exact .retry payload isFrame size
  | challenge payload isFrame size => exact .challenge payload isFrame size
  | sessionOk payload isFrame size challenged =>
      exact .sessionOk payload isFrame size (Nat.le_trans challenged later.rank)
  | session isSession accepted => exact .session isSession (Nat.le_trans accepted later.rank)

/-- The types of the frames that a session sends. -/
theorem isSessionDatagram_iff {data : Bytes} (isSession : isSessionDatagram data = true) :
    UDPStream.isUtack data = false ∧ IsFrame data ∧
      ∃ type ∈ sessionTypes, type.toNat = typeOf data := by
  simp only [isSessionDatagram, Bool.and_eq_true, Bool.not_eq_true'] at isSession
  rcases isSession with ⟨⟨notUtack, isFrame⟩, isType⟩
  rcases List.any_eq_true.mp isType with ⟨type, member, same⟩
  exact ⟨notUtack, (isFrame_iff data).mp isFrame, type, member, of_decide_eq_true same⟩

theorem not_isHandshakeType {type : Nat} (isSession : ∃ found ∈ sessionTypes, found.toNat = type) :
    isHandshakeType type = false := by
  rcases isSession with ⟨found, member, rfl⟩
  simp only [sessionTypes, List.mem_cons, List.not_mem_nil, or_false] at member
  rcases member with rfl | rfl | rfl | rfl | rfl | rfl <;> rfl

/-- A frame to the client: one of the handshake, of its own size, or one of a session. -/
theorem FromServer.frame {client : HandshakeEnd ClientHandshake} {data : Bytes}
    (sent : FromServer client data) (isFrame : IsFrame data) :
    (typeOf data = 10 ∧ lengthOf data = 16 ∨ typeOf data = 2 ∧ lengthOf data = 64 ∨
      typeOf data = 4 ∧ lengthOf data = 48 ∧ 2 ≤ client.stream.rank) ∧
        isHandshakeType (typeOf data) = true ∧ (∃ frame, decodeFrame data false = .ok frame) ∨
      isHandshakeType (typeOf data) = false ∧ 3 ≤ client.stream.rank := by
  have decodes : ∀ {type : PacketType} {payload : Bytes}, payload.length ≤ usmpMaxPayload →
      ∃ frame, decodeFrame (frameBytes type payload 0) false = .ok frame := by
    intro type payload fits
    have decoded : decodeFrame (frameBytes type payload 0 ++ []) false = _ :=
      decodeFrame_frameBytes type payload [] false (Nat.zero_le _) fits
    rw [List.append_nil] at decoded
    exact ⟨_, decoded⟩
  cases sent with
  | utack isUtack =>
      rw [isFrame.notUtack] at isUtack
      cases isUtack
  | retry payload isFrame size =>
      subst isFrame
      have fits : payload.length ≤ usmpMaxPayload := by rw [size]; decide
      rcases isFrame_frameBytes .helloRetry (Nat.zero_le _) fits with ⟨_, isType, _, length⟩
      exact .inl ⟨.inl ⟨isType, length.trans size⟩, by rw [isType]; rfl, decodes fits⟩
  | challenge payload isFrame size =>
      subst isFrame
      have fits : payload.length ≤ usmpMaxPayload := by rw [size]; decide
      rcases isFrame_frameBytes .challenge (Nat.zero_le _) fits with ⟨_, isType, _, length⟩
      exact .inl ⟨.inr (.inl ⟨isType, length.trans size⟩), by rw [isType]; rfl, decodes fits⟩
  | sessionOk payload isFrame size challenged =>
      subst isFrame
      have fits : payload.length ≤ usmpMaxPayload := by rw [size]; decide
      rcases isFrame_frameBytes .sessionOk (Nat.zero_le _) fits with ⟨_, isType, _, length⟩
      exact .inl ⟨.inr (.inr ⟨isType, length.trans size, challenged⟩), by rw [isType]; rfl,
        decodes fits⟩
  | session isSession accepted =>
      exact .inr ⟨not_isHandshakeType (isSessionDatagram_iff isSession).2.2, accepted⟩

/-- A frame from the client. -/
theorem FromClient.frame {client : HandshakeEnd ClientHandshake} {data : Bytes}
    (sent : FromClient client data) (isFrame : IsFrame data) :
    (typeOf data = 1 ∨ typeOf data = 3 ∧ 2 ≤ client.stream.rank) ∧
        isHandshakeType (typeOf data) = true ∧ (∃ frame, decodeFrame data false = .ok frame) ∨
      isHandshakeType (typeOf data) = false ∧ client.run.hasEnded = true := by
  have decodes : ∀ {type : PacketType} {payload : Bytes} {seq : Nat}, seq ≤ maxSeq →
      payload.length ≤ usmpMaxPayload →
      ∃ frame, decodeFrame (frameBytes type payload seq) false = .ok frame := by
    intro type payload seq bound fits
    have decoded := decodeFrame_frameBytes type payload [] false bound fits
    rw [List.append_nil] at decoded
    exact ⟨_, decoded⟩
  cases sent with
  | utack isUtack =>
      rw [isFrame.notUtack] at isUtack
      cases isUtack
  | hello payload seq isFrame fits cookie =>
      subst isFrame
      have bound : seq ≤ maxSeq := by
        rcases cookie with rfl | ⟨rfl, _⟩ <;> decide
      have isType := (isFrame_frameBytes .hello bound fits).2.1
      exact .inl ⟨.inl isType, by rw [isType]; rfl, decodes bound fits⟩
  | helloAck payload isFrame fits challenged =>
      subst isFrame
      have bound : 2 ≤ maxSeq := by decide
      have isType := (isFrame_frameBytes .helloAck bound fits).2.1
      exact .inl ⟨.inr ⟨isType, challenged⟩, by rw [isType]; rfl, decodes bound fits⟩
  | session isSession hasEnded =>
      exact .inr ⟨not_isHandshakeType (isSessionDatagram_iff isSession).2.2, hasEnded⟩

/-! ## What a stream has accepted -/

/-- The read buffer holds whole datagrams, and no header has been taken from it. -/
structure Buffered {Run : Type} (side : HandshakeEnd Run) (frames : List Bytes) : Prop where
  pending : side.pending = none
  buffer : side.stream.readBuffer = frames.flatten
  whole : ∀ data ∈ frames, IsFrame data

/-- The types of the frames that a stream has accepted, in their order. -/
def accepted {Run : Type} (self : HandshakeEnd Run) (frames : List Bytes) : List Nat :=
  self.handed.map PacketType.toNat ++ frames.map typeOf

/-- `_last_rx_type` after these frames. -/
def lastType (order : List Nat) : Int :=
  match order.getLast? with
  | some type => type
  | none => -1

section

variable {Run : Type} {self : HandshakeEnd Run} {frames : List Bytes}

theorem Buffered.length_le (buffered : Buffered self frames) :
    self.stream.readBuffer.length ≤ frames.length * (usmpHeaderSize + usmpMaxPayload) := by
  rw [buffered.buffer]
  have whole := buffered.whole
  clear buffered
  induction frames with
  | nil => simp
  | cons data rest ih =>
      have frame := whole data List.mem_cons_self
      have tail := ih fun other member => whole other (List.mem_cons_of_mem _ member)
      have fits := frame.fits
      have size := frame.size
      rw [List.flatten_cons, List.length_append, List.length_cons, Nat.add_mul]
      omega

/-- Whatever does not touch the receiving side leaves the buffer alone. -/
theorem Buffered.same (buffered : Buffered self frames) {after : HandshakeEnd Run}
    (same : SameInput self.stream after.stream) (pending : after.pending = self.pending) :
    Buffered after frames :=
  ⟨pending.trans buffered.pending, same.readBuffer.trans buffered.buffer, buffered.whole⟩

theorem Buffered.append (buffered : Buffered self frames) {data : Bytes} (frame : IsFrame data)
    {after : HandshakeEnd Run}
    (readBuffer : after.stream.readBuffer = self.stream.readBuffer ++ data)
    (pending : after.pending = self.pending) : Buffered after (frames ++ [data]) := by
  refine ⟨pending.trans buffered.pending, ?_, ?_⟩
  · rw [readBuffer, buffered.buffer, List.flatten_append]
    simp
  · intro other member
    rcases List.mem_append.mp member with old | new
    · exact buffered.whole other old
    · rw [List.mem_singleton.mp new]
      exact frame

theorem Buffered.took {data : Bytes} (buffered : Buffered self (data :: frames)) :
    Buffered (self.took data frames) frames :=
  ⟨rfl, rfl, fun other member => buffered.whole other (List.mem_cons_of_mem _ member)⟩

theorem accepted_append {after : HandshakeEnd Run} (handed : after.handed = self.handed)
    (frames : List Bytes) (data : Bytes) :
    accepted after (frames ++ [data]) = accepted self frames ++ [typeOf data] := by
  simp [accepted, handed]

/-- Handing a frame over moves it from the buffer. -/
theorem accepted_took {data : Bytes} {frame : USMPFrame}
    (decoded : decodeFrame data false = .ok frame) (frames : List Bytes) :
    accepted (self.took data frames) frames = accepted self (data :: frames) ∧
      (self.took data frames).handed = self.handed ++ [frame.type] := by
  have handed : (self.took data frames).handed = self.handed ++ [frame.type] := by
    simp [HandshakeEnd.took, decoded]
  refine ⟨?_, handed⟩
  rw [accepted, handed, accepted, List.map_append, List.map_singleton,
    (decodeFrame_fields decoded).1, List.append_assoc]
  rfl

/-- A frame that cannot be decoded is dropped. -/
theorem accepted_took_sublist (data : Bytes) (frames : List Bytes) :
    (accepted (self.took data frames) frames).Sublist (accepted self (data :: frames)) := by
  cases decoded : decodeFrame data false with
  | ok frame => rw [(accepted_took decoded frames).1]
  | error exn =>
      have handed : (self.took data frames).handed = self.handed := by
        simp [HandshakeEnd.took, decoded]
      rw [accepted, handed, accepted, List.map_cons]
      exact List.Sublist.append_left (List.sublist_cons_self _ _) _

end

/-! ## The client's order -/

/-- The handshake frames that the client's stream can have accepted. -/
def clientSequences : List (List Nat) := [[], [10], [2], [10, 2], [2, 4], [10, 2, 4]]

/-- What the coroutine has read at a stage. -/
def ClientStage.hasRead : ClientStage → List (List PacketType)
  | .writingHello | .readingChallenge => [[]]
  | .writingRetry | .readingChallengeAgain => [[.helloRetry]]
  | .writingHelloAck _ | .readingSessionOk _ => [[.challenge], [.helloRetry, .challenge]]
  | .returned _ | .raised _ => []

/-- The type and the number of the last frame that the client wrote. -/
def ClientStage.lastWrite : ClientStage → Option (Nat × Nat)
  | .writingHello | .readingChallenge => some (1, 0)
  | .writingRetry | .readingChallengeAgain => some (1, 1)
  | .writingHelloAck _ | .readingSessionOk _ => some (3, 2)
  | .returned _ | .raised _ => none

/-- The texts of a HandshakeError that says that the connection was closed. -/
def closedTexts : List String :=
  ["Connection closed before CHALLENGE", "Connection closed before CHALLENGE (after retry)",
    "Connection closed by server — PSK rejected or server error"]

/-- The client's stream in the handshake: the handshake frames in their order, then those of
the session. -/
structure ClientInput (client : HandshakeEnd ClientHandshake) (frames : List Bytes)
    (order session : List Nat) : Prop where
  buffered : Buffered client frames
  sent : ∀ data ∈ frames, FromServer client data
  inOrder : order ∈ clientSequences
  last : client.stream.lastRxType = lastType order
  isAccepted : accepted client frames = order ++ session
  inSession : ∀ type ∈ session, isHandshakeType type = false ∧ 3 ≤ client.stream.rank

/-- A client whose handshake goes on. -/
structure ClientActive (client : HandshakeEnd ClientHandshake) : Prop where
  input : ∃ frames order session, ClientInput client frames order session
  hasRead : client.handed ∈ client.run.stage.hasRead
  lastWrite : ∀ type seq, client.run.stage.lastWrite = some (type, seq) →
    client.stream.LastWrite type seq
  acked : client.run.reading = true → client.stream.ackReceived = true

/-- A client whose handshake is over. -/
structure ClientDone (client : HandshakeEnd ClientHandshake) : Prop where
  handed : client.handed.Sublist [.helloRetry, .challenge, .sessionOk]
  exn : ∀ exn, client.run.stage = .raised exn → exn.cls = .handshakeError →
    exn.message ∈ closedTexts

structure ClientOrder (client : HandshakeEnd ClientHandshake) : Prop where
  isClient : client.stream.isServer = false
  lastRxType : client.stream.lastRxType ∈ [-1, 10, 2, 4]
  arq : ∀ resend, client.arq = some resend → FromClient client resend.data
  active : client.run.hasEnded = false → ClientActive client
  done : client.run.hasEnded = true → ClientDone client

/-- A frame that does not come too late follows those before it. -/
theorem clientSequences_append : ∀ order ∈ clientSequences, ∀ type : Nat, type ∈ [10, 2, 4] →
    (type = 4 → 2 ≤ rankOf (lastType order)) → rankOf (lastType order) < rankOf type →
      order ++ [type] ∈ clientSequences ∧ order.length ≤ 2 ∧ lastType (order ++ [type]) = type := by
  decide

theorem isDuplicateHandshake_client {stream : UDPStream} (isClient : stream.isServer = false)
    (known : stream.lastRxType ∈ [-1, 10, 2, 4]) {type : Nat} (isType : type ∈ [10, 2, 4]) :
    stream.isDuplicateHandshake type = true ↔ rankOf type ≤ stream.rank := by
  simp only [UDPStream.isDuplicateHandshake, UDPStream.rank, isClient, Bool.false_and,
    Bool.or_false]
  generalize stream.lastRxType = last at known
  revert type
  revert last
  decide

/-- The frame of a handshake to the client that its stream takes for a new one. -/
theorem FromServer.new {client : HandshakeEnd ClientHandshake} {data : Bytes}
    (sent : FromServer client data) (frame : IsFrame data)
    (isClient : client.stream.isServer = false)
    (known : client.stream.lastRxType ∈ [-1, 10, 2, 4])
    (isHandshake : isHandshakeType (typeOf data) = true)
    (new : client.stream.seenBefore data = false) :
    typeOf data ∈ [10, 2, 4] ∧ (typeOf data = 4 → 2 ≤ client.stream.rank) ∧
      client.stream.rank < rankOf (typeOf data) := by
  have isType : typeOf data ∈ [10, 2, 4] ∧ (typeOf data = 4 → 2 ≤ client.stream.rank) := by
    rcases sent.frame frame with ⟨types, _⟩ | ⟨isSession, _⟩
    · rcases types with ⟨retry, _⟩ | ⟨challenge, _⟩ | ⟨sessionOk, _, challenged⟩
      · simp [retry]
      · simp [challenge]
      · simp [sessionOk, challenged]
    · rw [isSession] at isHandshake
      cases isHandshake
  refine ⟨isType.1, isType.2, Nat.lt_of_not_le ?_⟩
  rw [← isDuplicateHandshake_client isClient known isType.1]
  rw [UDPStream.seenBefore, if_pos isHandshake] at new
  rw [new]
  decide

/-- A UTACK is no longer than with its MAC. -/
theorem length_buildUtack (P : Primitives) (stream : UDPStream) (type seq : Nat) :
    (stream.buildUtack P type seq).length ≤ 15 := by
  have header : (utackHeader type seq).length = 7 := by
    simp [utackHeader, utackMagic]
  unfold UDPStream.buildUtack
  dsimp only
  split
  · split
    · rename_i rxKey _ _
      rw [List.length_append, header, utackMac, List.length_take]
      exact Nat.add_le_add_left (Nat.min_le_left _ _) 7
    · omega
  · omega

theorem isUtack_buildUtack (P : Primitives) (stream : UDPStream) {type seq : Nat}
    (typeBound : type < 256) (seqBound : seq ≤ maxSeq) :
    UDPStream.isUtack (stream.buildUtack P type seq) = true ∧
      fieldAt (stream.buildUtack P type seq) 2 1 = type ∧
      fieldAt (stream.buildUtack P type seq) 3 4 = seq := by
  have plain := isUtack_utackHeader type seq [] typeBound seqBound
  rw [List.append_nil] at plain
  unfold UDPStream.buildUtack
  split
  · dsimp only
    split
    · exact isUtack_utackHeader type seq _ typeBound seqBound
    · exact plain
  · exact plain

/-- The answer to a datagram has its type and number. -/
theorem isUtack_reply (P : Primitives) (stream : UDPStream) (data : Bytes) :
    UDPStream.isUtack (stream.buildUtack P (typeOf data) (seqOf data)) = true ∧
      fieldAt (stream.buildUtack P (typeOf data) (seqOf data)) 2 1 = typeOf data ∧
      fieldAt (stream.buildUtack P (typeOf data) (seqOf data)) 3 4 = seqOf data := by
  have seqBound : seqOf data < 256 ^ 4 := fieldAt_lt data 4 4
  apply isUtack_buildUtack P stream (fieldAt_lt data 3 1)
  rw [maxSeq]
  omega

end Usmp
