import Usmp.Lib.Machine
import Usmp.Sample
import Usmp.Udp.Feed

/-!
# Acknowledged handshake packets

A stream acknowledges a handshake packet when it buffers it and again for every copy of it.
`feed_packet` notes the type before it looks at the room in the buffer, so a packet that was
refused is taken for a copy when it is sent again.
-/

namespace Usmp

open LittleEndian UDPStream

/-- The types that a peer's handshake packets have, in the order of the protocol. -/
def handshakeOrder (isServer : Bool) : List Nat := if isServer then [1, 3] else [0x0A, 2, 4]

/-- The handshake packets of a peer, by their types. -/
structure HandshakeMessages (isServer : Bool) where
  message : Nat → Bytes
  isFrame : ∀ type ∈ handshakeOrder isServer, IsFrame (message type)
  hasType : ∀ type ∈ handshakeOrder isServer, typeOf (message type) = type

/-- A stream, what was fed to it, and what it put in its read buffer. -/
structure FedStream where
  stream : UDPStream
  fed : List Bytes := []
  buffered : List Bytes := []

inductive FeedAction where
  | feed (data : Bytes)
  /-- `readexactly(count)` returns. -/
  | read (count : Nat)
  deriving DecidableEq, Repr

namespace FedStream

def feed (P : Primitives) (state : FedStream) (data : Bytes) : FedStream :=
  let stream := (state.stream.feedPacket P data).1
  { stream
    fed := state.fed ++ [data]
    buffered :=
      if stream.readBuffer = state.stream.readBuffer then state.buffered
      else state.buffered ++ [data] }

def step (P : Primitives) (state : FedStream) : FeedAction → Option FedStream
  | .feed data => some (state.feed P data)
  | .read count =>
      if state.stream.readBuffer.length < count then
        none
      else
        some { state with
          stream := { state.stream with readBuffer := state.stream.readBuffer.drop count } }

/-- A handshake frame. -/
def isHandshake (data : Bytes) : Bool := isFrame data && isHandshakeType (typeOf data)

/-- A handshake frame that the stream has not come to, and for which it has no room. -/
def refuses (state : FedStream) (data : Bytes) : Bool :=
  isHandshake data && !state.stream.isDuplicateHandshake (typeOf data) &&
    state.stream.readBuffer.length + data.length > maxReadBuffer

variable {isServer : Bool} (messages : HandshakeMessages isServer)

/-- The handshake frames are the peer's, and each comes first after the earlier ones. -/
def InOrder (state : FedStream) : FeedAction → Prop
  | .feed data =>
      isHandshake data = true → ∃ type ∈ handshakeOrder isServer, data = messages.message type ∧
        (data ∈ state.fed ∨ ∀ earlier ∈ handshakeOrder isServer,
          messages.message earlier ∈ state.fed →
            (handshakeOrder isServer).idxOf earlier < (handshakeOrder isServer).idxOf type)
  | .read _ => True

/-- A handshake frame that is answered is or was buffered, and one that is refused leaves the
stream as it was. -/
def Handled (P : Primitives) (state : FedStream) : FeedAction → Prop
  | .feed data =>
      (isHandshake data = true → (state.stream.feedPacket P data).2 ≠ [] →
        data ∈ (state.feed P data).buffered) ∧
      (state.refuses data = true → (state.stream.feedPacket P data).1 = state.stream)
  | .read _ => True

/-- No handshake frame is refused. -/
def HasRoom (state : FedStream) : FeedAction → Prop
  | .feed data => state.refuses data = false
  | .read _ => True

/-! ## What the stream has come to -/

theorem isHandshake_iff (data : Bytes) :
    isHandshake data = true ↔ IsFrame data ∧ isHandshakeType (typeOf data) = true := by
  rw [isHandshake, Bool.and_eq_true, isFrame_iff]

/-- In the order of the protocol, the packets up to the last one are duplicates. -/
theorem isDuplicate_iff {stream : UDPStream} (role : stream.isServer = isServer) {last type : Nat}
    (isLast : stream.lastRxType = last) (lastType : last ∈ handshakeOrder isServer)
    (isType : type ∈ handshakeOrder isServer) :
    stream.isDuplicateHandshake type = true ↔
      (handshakeOrder isServer).idxOf type ≤ (handshakeOrder isServer).idxOf last := by
  rw [isDuplicateHandshake, role, isLast]
  cases isServer with
  | true =>
      simp only [handshakeOrder, if_true, List.mem_cons, List.not_mem_nil, or_false]
        at lastType isType
      rcases lastType with rfl | rfl <;> rcases isType with rfl | rfl <;> decide
  | false =>
      simp only [handshakeOrder, Bool.false_eq_true, if_false, List.mem_cons, List.not_mem_nil,
        or_false] at lastType isType
      rcases lastType with rfl | rfl | rfl <;> rcases isType with rfl | rfl | rfl <;> decide

theorem isDuplicate_fresh {stream : UDPStream} (fresh : stream.lastRxType = -1) (type : Nat) :
    stream.isDuplicateHandshake type = false := by
  have notLast : (type : Int) ≠ -1 := by omega
  simp [isDuplicateHandshake, fresh, notLast]

theorem isHandshakeType_of_mem {type : Nat} (isType : type ∈ handshakeOrder isServer) :
    isHandshakeType type = true := by
  cases isServer with
  | true =>
      simp only [handshakeOrder, if_true, List.mem_cons, List.not_mem_nil, or_false] at isType
      rcases isType with rfl | rfl <;> rfl
  | false =>
      simp only [handshakeOrder, Bool.false_eq_true, if_false, List.mem_cons, List.not_mem_nil,
        or_false] at isType
      rcases isType with rfl | rfl | rfl <;> rfl

/-- The last type is that of the latest packet, and every packet that came was buffered. -/
structure Progressed (state : FedStream) : Prop where
  isOpen : state.stream.closed = false
  role : state.stream.isServer = isServer
  last : (state.stream.lastRxType = -1 ∧
      ∀ type ∈ handshakeOrder isServer, messages.message type ∉ state.fed) ∨
    ∃ last ∈ handshakeOrder isServer, state.stream.lastRxType = last ∧
      messages.message last ∈ state.fed ∧
      ∀ type ∈ handshakeOrder isServer, messages.message type ∈ state.fed →
        (handshakeOrder isServer).idxOf type ≤ (handshakeOrder isServer).idxOf last
  kept : ∀ type ∈ handshakeOrder isServer,
    messages.message type ∈ state.fed → messages.message type ∈ state.buffered

variable {messages} {P : Primitives} {state : FedStream}

/-- The stream takes for a duplicate what it was fed before. -/
theorem Progressed.duplicate_iff (progressed : Progressed messages state) {type : Nat}
    (isType : type ∈ handshakeOrder isServer)
    (ordered : messages.message type ∈ state.fed ∨ ∀ earlier ∈ handshakeOrder isServer,
      messages.message earlier ∈ state.fed →
        (handshakeOrder isServer).idxOf earlier < (handshakeOrder isServer).idxOf type) :
    state.stream.isDuplicateHandshake type = true ↔ messages.message type ∈ state.fed := by
  rcases progressed.last with ⟨fresh, nothing⟩ | ⟨last, lastType, isLast, lastFed, latest⟩
  · rw [isDuplicate_fresh fresh]
    exact iff_of_false Bool.false_ne_true (nothing type isType)
  · rw [isDuplicate_iff progressed.role isLast lastType isType]
    constructor
    · intro notLater
      rcases ordered with fed | later
      · exact fed
      · exact absurd (later last lastType lastFed) (Nat.not_lt.mpr notLater)
    · exact latest type isType

theorem noteType_frame (stream : UDPStream) (data : Bytes) :
    (stream.noteType data).closed = stream.closed ∧
      (stream.noteType data).isServer = stream.isServer := by
  unfold noteType
  split <;> exact ⟨rfl, rfl⟩

theorem feedPacket_frame (P : Primitives) (stream : UDPStream) (data : Bytes) :
    (stream.feedPacket P data).1.closed = stream.closed ∧
      (stream.feedPacket P data).1.isServer = stream.isServer ∧
      (isHandshake data = false →
        (stream.feedPacket P data).1.lastRxType = stream.lastRxType) := by
  have noted : IsFrame data → isHandshake data = false →
      (stream.noteType data).lastRxType = stream.lastRxType := by
    intro frame notHandshake
    rw [noteType, if_neg]
    intro isType
    rw [(isHandshake_iff data).mpr ⟨frame, isType⟩] at notHandshake
    cases notHandshake
  have fed := feedPacket_cases P stream data
  generalize stream.feedPacket P data = result at fed ⊢
  cases fed with
  | closed | noAck | ack | garbage | old => exact ⟨rfl, rfl, fun _ => rfl⟩
  | full isOpen frame new noRoom =>
      exact ⟨(noteType_frame stream data).1, (noteType_frame stream data).2, noted frame⟩
  | buffered isOpen frame new room =>
      exact ⟨(noteType_frame stream data).1, (noteType_frame stream data).2, noted frame⟩

theorem buffered_subset (state : FedStream) (data : Bytes) :
    ∀ other ∈ state.buffered, other ∈ (state.feed P data).buffered := by
  intro other member
  simp only [feed]
  split
  · exact member
  · exact List.mem_append_left _ member

/-- A datagram that is no handshake frame leaves the order alone. -/
theorem Progressed.feed_other (progressed : Progressed messages state) {data : Bytes}
    (notHandshake : isHandshake data = false) : Progressed messages (state.feed P data) := by
  rcases feedPacket_frame P state.stream data with ⟨isClosed, role, last⟩
  have isMessage : ∀ type ∈ handshakeOrder isServer,
      (messages.message type ∈ state.fed ++ [data] ↔ messages.message type ∈ state.fed) := by
    intro type isType
    rw [List.mem_append, List.mem_singleton, or_iff_left]
    intro same
    have isFrame := messages.isFrame type isType
    have hasType := messages.hasType type isType
    rw [same] at isFrame hasType
    rw [(isHandshake_iff data).mpr ⟨isFrame, hasType ▸ isHandshakeType_of_mem isType⟩]
      at notHandshake
    cases notHandshake
  constructor
  · exact isClosed.trans progressed.isOpen
  · exact role.trans progressed.role
  · have unchanged : (state.feed P data).stream.lastRxType = state.stream.lastRxType :=
      last notHandshake
    rw [unchanged]
    rcases progressed.last with ⟨fresh, nothing⟩ | ⟨last, lastType, isLast, lastFed, latest⟩
    · left
      refine ⟨fresh, fun type isType fed => ?_⟩
      exact nothing type isType ((isMessage type isType).mp fed)
    · right
      refine ⟨last, lastType, isLast, List.mem_append_left _ lastFed, fun type isType fed => ?_⟩
      exact latest type isType ((isMessage type isType).mp fed)
  · intro type isType fed
    apply buffered_subset
    exact progressed.kept type isType ((isMessage type isType).mp fed)

/-- A copy of a handshake frame changes nothing. -/
theorem Progressed.feed_copy (progressed : Progressed messages state) {data : Bytes}
    (fed : data ∈ state.fed) (unchanged : (state.stream.feedPacket P data).1 = state.stream) :
    Progressed messages (state.feed P data) := by
  have isMessage : ∀ type, messages.message type ∈ state.fed ++ [data] ↔
      messages.message type ∈ state.fed := by
    intro type
    rw [List.mem_append, List.mem_singleton, or_iff_left_of_imp]
    intro same
    rwa [same]
  have same : state.feed P data = { state with fed := state.fed ++ [data] } := by
    simp only [feed, unchanged, if_true]
  rw [same]
  refine ⟨progressed.isOpen, progressed.role, ?_, ?_⟩
  · simpa only [isMessage] using progressed.last
  · simpa only [isMessage] using progressed.kept

/-- A handshake frame comes for the first time, and finds room. -/
theorem Progressed.feed_new (progressed : Progressed messages state) {type : Nat}
    (isType : type ∈ handshakeOrder isServer) (notFed : messages.message type ∉ state.fed)
    (later : ∀ earlier ∈ handshakeOrder isServer, messages.message earlier ∈ state.fed →
      (handshakeOrder isServer).idxOf earlier < (handshakeOrder isServer).idxOf type)
    (room : state.stream.readBuffer.length + (messages.message type).length ≤ maxReadBuffer) :
    Progressed messages (state.feed P (messages.message type)) ∧
      messages.message type ∈ (state.feed P (messages.message type)).buffered := by
  have frame := messages.isFrame type isType
  have hasType := messages.hasType type isType
  have isHandshakeType : isHandshakeType (typeOf (messages.message type)) = true := by
    rw [hasType]
    exact isHandshakeType_of_mem isType
  have new : state.stream.seenBefore (messages.message type) = false := by
    rw [seenBefore, if_pos isHandshakeType, hasType, Bool.eq_false_iff]
    intro duplicate
    exact notFed ((progressed.duplicate_iff isType (.inr later)).mp duplicate)
  have result := feedPacket_new P progressed.isOpen frame new room
  have noted : (state.stream.noteType (messages.message type)).lastRxType = type := by
    rw [noteType, if_pos isHandshakeType, hasType]
  have grown : state.stream.readBuffer ++ messages.message type ≠ state.stream.readBuffer := by
    intro same
    have empty : messages.message type = [] := List.append_right_eq_self.mp same
    have size := frame.size
    rw [empty] at size
    cases size
  have buffered : (state.feed P (messages.message type)).buffered =
      state.buffered ++ [messages.message type] := by
    simp only [feed, result, if_neg grown]
  have stream : (state.feed P (messages.message type)).stream =
      { state.stream.noteType (messages.message type) with
        readBuffer := state.stream.readBuffer ++ messages.message type } := by
    simp only [feed, result]
  refine ⟨⟨?_, ?_, ?_, ?_⟩, ?_⟩
  · rw [stream]
    exact (noteType_frame _ _).1.trans progressed.isOpen
  · rw [stream]
    exact (noteType_frame _ _).2.trans progressed.role
  · right
    refine ⟨type, isType, ?_, List.mem_append_right _ List.mem_cons_self, ?_⟩
    · rw [stream]
      exact noted
    · intro earlier isEarlier fed
      rcases List.mem_append.mp fed with before | now
      · exact Nat.le_of_lt (later earlier isEarlier before)
      · have same : earlier = type := by
          rw [← messages.hasType earlier isEarlier, List.mem_singleton.mp now, hasType]
        subst same
        exact Nat.le_refl _
  · intro earlier isEarlier fed
    rw [buffered]
    rcases List.mem_append.mp fed with before | now
    · exact List.mem_append_left _ (progressed.kept earlier isEarlier before)
    · exact List.mem_append_right _ now
  · rw [buffered]
    exact List.mem_append_right _ List.mem_cons_self

/-- A step that refuses nothing. -/
theorem Progressed.feed (progressed : Progressed messages state) {data : Bytes}
    (ordered : InOrder messages state (.feed data)) (room : state.refuses data = false) :
    Progressed messages (state.feed P data) ∧
      (isHandshake data = true → data ∈ (state.feed P data).buffered) := by
  cases handshake : isHandshake data with
  | false => exact ⟨progressed.feed_other handshake, nofun⟩
  | true =>
      rcases ordered handshake with ⟨type, isType, rfl, ordered⟩
      have hasType := messages.hasType type isType
      by_cases fed : messages.message type ∈ state.fed
      · have duplicate := (progressed.duplicate_iff isType ordered).mpr fed
        have seen : state.stream.seenBefore (messages.message type) = true := by
          rw [seenBefore, hasType, if_pos (isHandshakeType_of_mem isType)]
          exact duplicate
        have copy := feedPacket_seen P progressed.isOpen (messages.isFrame type isType) seen
        refine ⟨progressed.feed_copy fed (by rw [copy]), fun _ => ?_⟩
        exact buffered_subset state _ _ (progressed.kept type isType fed)
      · have new : state.stream.isDuplicateHandshake type = false := by
          rw [Bool.eq_false_iff]
          intro duplicate
          exact fed ((progressed.duplicate_iff isType ordered).mp duplicate)
        have fits : state.stream.readBuffer.length + (messages.message type).length ≤
            maxReadBuffer := by
          simpa [refuses, handshake, hasType, new] using room
        rcases progressed.feed_new isType fed (ordered.resolve_left fed) fits with
          ⟨progressed, buffered⟩
        exact ⟨progressed, fun _ => buffered⟩

theorem Progressed.step (progressed : Progressed messages state) {action : FeedAction}
    {next : FedStream} (ordered : InOrder messages state action) (room : HasRoom state action)
    (stepped : state.step P action = some next) : Progressed messages next := by
  cases action with
  | feed data =>
      cases stepped
      exact (progressed.feed ordered room).1
  | read count =>
      simp only [FedStream.step] at stepped
      split at stepped <;> cases stepped
      exact ⟨progressed.isOpen, progressed.role, progressed.last, progressed.kept⟩

theorem handled_of_hasRoom (progressed : Progressed messages state) {action : FeedAction}
    (ordered : InOrder messages state action) (room : HasRoom state action) :
    Handled P state action := by
  cases action with
  | feed data =>
      refine ⟨fun handshake _ => (progressed.feed (P := P) ordered room).2 handshake, ?_⟩
      intro refused
      have room : state.refuses data = false := room
      rw [room] at refused
      cases refused
  | read count => trivial

/-- A handshake frame that is refused changes the state of duplicate detection. -/
theorem hasRoom_of_handled (isOpen : state.stream.closed = false) {action : FeedAction}
    (handled : Handled P state action) : HasRoom state action := by
  cases action with
  | feed data =>
      by_contra refused
      have refused : state.refuses data = true := by simpa [HasRoom] using refused
      have unchanged := handled.2 refused
      simp only [refuses, Bool.and_eq_true, Bool.not_eq_true', decide_eq_true_eq] at refused
      rcases refused with ⟨⟨handshake, new⟩, noRoom⟩
      rcases (isHandshake_iff data).mp handshake with ⟨frame, isType⟩
      have notSeen : state.stream.seenBefore data = false := by
        rw [seenBefore, if_pos isType]
        exact new
      rw [feedPacket_full P isOpen frame notSeen noRoom] at unchanged
      dsimp only at unchanged
      have noted : (state.stream.noteType data).lastRxType = typeOf data := by
        rw [noteType, if_pos isType]
      rw [unchanged] at noted
      rw [isDuplicateHandshake, noted] at new
      simp at new
  | read count => trivial

theorem isOpen_step {action : FeedAction} {next : FedStream}
    (isOpen : state.stream.closed = false) (stepped : state.step P action = some next) :
    next.stream.closed = false := by
  cases action with
  | feed data =>
      cases stepped
      exact (feedPacket_frame P state.stream data).1.trans isOpen
  | read count =>
      simp only [FedStream.step] at stepped
      split at stepped <;> cases stepped
      exact isOpen

/-- In every run of a fresh stream to which the peer's handshake frames come in the order of
the protocol, an acknowledged one was buffered and a refused one leaves the stream as it
was, exactly when none is refused. -/
theorem acknowledged_buffered_iff (P : Primitives) (messages : HandshakeMessages isServer)
    (stream : UDPStream) (role : stream.isServer = isServer) (isOpen : stream.closed = false)
    (fresh : stream.lastRxType = -1) (actions : List FeedAction)
    (ordered : Machine.Along (step P) (InOrder messages) { stream } actions) :
    Machine.Along (step P) (Handled P) { stream } actions ↔
      Machine.Along (step P) HasRoom { stream } actions := by
  constructor
  · intro handled
    exact Machine.along_of_invariant (fun state => state.stream.closed = false)
      (fun _ _ _ isOpen _ stepped => isOpen_step isOpen stepped)
      (fun _ _ isOpen handled => hasRoom_of_handled isOpen handled) isOpen handled
  · intro room
    have start : Progressed messages { stream } :=
      ⟨isOpen, role, .inl ⟨fresh, fun _ _ => List.not_mem_nil⟩, fun _ _ fed => nomatch fed⟩
    exact Machine.along_of_invariant (Progressed messages)
      (fun _ _ _ progressed both stepped => progressed.step both.1 both.2 stepped)
      (fun _ _ progressed both => handled_of_hasRoom progressed both.1 both.2) start
      (Machine.along_and ordered room)

/-- A frame with a payload of zeros. -/
def sampleDatagram (type seq size : Nat) : Bytes :=
  [0xCD, 0xAB, 2] ++ leBytes 1 type ++ leBytes 4 seq ++ leBytes 2 size ++ [0, 0] ++
    List.replicate size 0

/-- The handshake packets of a client. -/
def sampleMessages : HandshakeMessages true where
  message type := sampleDatagram type 1 (if type = 1 then 54 else 32)
  isFrame type isType := (isFrame_iff _).mp (by
    revert type
    decide)
  hasType := by decide

/-- A session frame comes before the HELLO_ACK, and copies of both handshake packets. -/
def sampleFeeds : List FeedAction :=
  [.feed (sampleMessages.message 1), .feed (sampleDatagram 5 0 100), .read 66,
    .feed (sampleMessages.message 3), .feed (sampleMessages.message 1),
    .feed (sampleMessages.message 3)]

instance (messages : HandshakeMessages isServer) (state : FedStream) :
    (action : FeedAction) → Decidable (InOrder messages state action)
  | .feed data =>
      inferInstanceAs (Decidable (isHandshake data = true →
        ∃ type ∈ handshakeOrder isServer, data = messages.message type ∧
          (data ∈ state.fed ∨ ∀ earlier ∈ handshakeOrder isServer,
            messages.message earlier ∈ state.fed →
              (handshakeOrder isServer).idxOf earlier < (handshakeOrder isServer).idxOf type)))
  | .read _ => inferInstanceAs (Decidable True)

instance (state : FedStream) : (action : FeedAction) → Decidable (HasRoom state action)
  | .feed data => inferInstanceAs (Decidable (state.refuses data = false))
  | .read _ => inferInstanceAs (Decidable True)

theorem acknowledged_buffered_iff_sampleFeeds :
    Machine.Along (step samplePrimitives) (Handled samplePrimitives)
      { stream := { isServer := true } } sampleFeeds :=
  (acknowledged_buffered_iff samplePrimitives sampleMessages { isServer := true } rfl rfl rfl
    sampleFeeds (by decide +kernel)).mpr (by decide +kernel)

/-- Session frames fill the buffer before the HELLO_ACK, which is sent again once a frame has
been read. -/
def sampleFullBuffer : List FeedAction :=
  [.feed (sampleMessages.message 1)] ++
    ((List.range 8).map fun seq => .feed (sampleDatagram 5 seq 480)) ++
    [.feed (sampleDatagram 5 8 60), .feed (sampleMessages.message 3), .read 66]

/-- The HELLO_ACK that was refused is acknowledged when it is sent again, and not buffered. -/
theorem acknowledged_unbuffered_sampleFullBuffer :
    ∃ state, Machine.run (step samplePrimitives) { stream := { isServer := true } }
        sampleFullBuffer = some state ∧
      Machine.Along (step samplePrimitives) (InOrder sampleMessages)
        { stream := { isServer := true } }
        (sampleFullBuffer ++ [.feed (sampleMessages.message 3)]) ∧
      (state.stream.feedPacket samplePrimitives (sampleMessages.message 3)).2 ≠ [] ∧
      sampleMessages.message 3 ∉
        (state.feed samplePrimitives (sampleMessages.message 3)).buffered := by
  rcases Machine.exists_run (step samplePrimitives) { stream := { isServer := true } }
    sampleFullBuffer
    (fun state => (state.stream.feedPacket samplePrimitives (sampleMessages.message 3)).2 ≠ [] ∧
      sampleMessages.message 3 ∉
        (state.feed samplePrimitives (sampleMessages.message 3)).buffered)
    (by decide +kernel) with ⟨state, reached, answered, notBuffered⟩
  exact ⟨state, reached, by decide +kernel, answered, notBuffered⟩

end FedStream

end Usmp
