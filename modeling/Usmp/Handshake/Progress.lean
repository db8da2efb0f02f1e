import Mathlib.Tactic.MkIffOfInductiveProp
import Usmp.Handshake.Armed
import Usmp.Handshake.Sequence

/-!
# When a handshake gets stuck

Every UTACK that stops the client's ARQ is backed: by an answer on its way, or by a connection
that has accepted the frame and answers it under its own ARQ.  Two answers may come from nobody
again: a HELLO_RETRY has no ARQ, and the connection that accepted a HELLO_ACK may have ended when
a late copy of the HELLO makes another.
-/

namespace Usmp

instance (stream : UDPStream) (type seq : Nat) : Decidable (stream.LastWrite type seq) :=
  inferInstanceAs (Decidable (_ ∧ _))

/-- An end that can do nothing until a datagram comes: no frame of its own waits for a UTACK, and
a read finds nothing. -/
def HandshakeEnd.Idle {Run : Type} (reading : Run → Bool) (self : HandshakeEnd Run) : Prop :=
  self.arq = none ∧
    (reading self.run = true → self.stream.readBuffer = [] ∧ self.stream.closed = false)

instance {Run : Type} (reading : Run → Bool) (self : HandshakeEnd Run) :
    Decidable (self.Idle reading) :=
  inferInstanceAs (Decidable (_ ∧ (_ → _)))

/-- A handshake at the server that waits for neither its task nor its PSK. -/
def ServerHandshake.waitsForFrame (run : ServerHandshake) : Bool := run.reading || run.writing

namespace HandshakeNet

variable {P : Primitives} {X : KeyExchange} {setup : HandshakeSetup}

/-- Neither the client nor the server has returned or raised, nothing is in flight between them,
and none of them can go on.  The server has not, while the client's address has had no connection
or one of its connections is in its handshake. -/
@[mk_iff]
structure Stuck (setup : HandshakeSetup) (net : HandshakeNet) : Prop where
  toServer : net.toServer = []
  toClient : net.toClient = []
  client : net.client.run.hasEnded = false ∧ net.client.Idle ClientHandshake.reading
  server : (∀ id self, ¬ net.Own setup id self) ∨
    ∃ id self, net.Own setup id self ∧ self.run.hasEnded = false
  own : ∀ id self, net.Own setup id self → self.run.hasEnded = false →
    self.run.waitsForFrame = true ∧ self.Idle ServerHandshake.reading

theorem forall_own_iff {net : HandshakeNet} {holds : HandshakeEnd ServerHandshake → Prop} :
    (∀ id self, net.Own setup id self → holds self) ↔
      ∀ id < net.instances.length, ∀ self ∈ net.instances[id]?, net.own setup id = true →
        holds self := by
  constructor
  · intro all id _ self isAt isOwn
    exact all id self ⟨isOwn, isAt⟩
  · intro all id self isOwn
    exact all id (List.getElem?_eq_some_iff.mp isOwn.2).1 self isOwn.2 isOwn.1

instance (net : HandshakeNet) (holds : HandshakeEnd ServerHandshake → Prop)
    [DecidablePred holds] : Decidable (∀ id self, net.Own setup id self → holds self) :=
  decidable_of_iff _ forall_own_iff.symm

instance (net : HandshakeNet) :
    Decidable (∃ id self, net.Own setup id self ∧ self.run.hasEnded = false) :=
  decidable_of_iff (¬ ∀ id self, net.Own setup id self → ¬ self.run.hasEnded = false) (by simp)

instance (setup : HandshakeSetup) (net : HandshakeNet) : Decidable (Stuck setup net) :=
  have : Decidable (∀ id self, ¬ net.Own setup id self) :=
    inferInstanceAs (Decidable (∀ id self, net.Own setup id self → False))
  decidable_of_iff _ (stuck_iff setup net).symm

/-- A frame of the type is on its way. -/
def FrameInFlight (type : Nat) (toClient : List Bytes) : Prop :=
  ∃ data ∈ toClient, UDPStream.isFrame data = true ∧ typeOf data = type

instance (type : Nat) (toClient : List Bytes) : Decidable (FrameInFlight type toClient) :=
  inferInstanceAs (Decidable (∃ _ ∈ _, _))

/-- The UTACK for a frame of the client is on its way, or it has come. -/
def UtackSent (net : HandshakeNet) (type seq : Nat) : Prop :=
  (∃ data ∈ net.toClient, UDPStream.isUtack data = true ∧ fieldAt data 2 1 = type ∧
    fieldAt data 3 4 = seq) ∨
    net.client.stream.ackReceived = true ∧ net.client.stream.LastWrite type seq

instance (net : HandshakeNet) (type seq : Nat) : Decidable (net.UtackSent type seq) :=
  inferInstanceAs (Decidable (_ ∨ _))

def HasConnection (setup : HandshakeSetup) (net : HandshakeNet) : Prop :=
  ∃ connection ∈ net.server.connections, connection.addr = setup.addr

instance (setup : HandshakeSetup) (net : HandshakeNet) : Decidable (HasConnection setup net) :=
  inferInstanceAs (Decidable (∃ _ ∈ _, _))

/-- A SESSION_OK is on its way, or the client's stream has accepted one. -/
def SessionOkComes (net : HandshakeNet) : Prop :=
  FrameInFlight 4 net.toClient ∨ 3 ≤ net.client.stream.rank

instance (net : HandshakeNet) : Decidable net.SessionOkComes :=
  inferInstanceAs (Decidable (_ ∨ _))

/-- A connection of the client's address is in its handshake and has accepted no HELLO_ACK. -/
def LacksHelloAck (setup : HandshakeSetup) (net : HandshakeNet) : Prop :=
  ∃ task ∈ net.server.connections.zip net.instances, task.1.addr = setup.addr ∧
    task.2.run.hasEnded = false ∧ task.2.stream.lastRxType < 3

instance (setup : HandshakeSetup) (net : HandshakeNet) : Decidable (LacksHelloAck setup net) :=
  inferInstanceAs (Decidable (∃ _ ∈ _, _))

instance (P : Primitives) (setup : HandshakeSetup) (net : HandshakeNet) (data : Bytes)
    (wall mono : Rat) : Decidable (net.Starts P setup data wall mono) :=
  inferInstanceAs (Decidable (_ ∧ _))

/-- No answer is lost that nobody would send again.  While the UTACK for the client's first HELLO
is on its way or has come, the last HELLO_RETRY in flight is not lost, unless the client's stream
has accepted a HELLO_RETRY or a CHALLENGE, or the server has a connection for the client.  While
the UTACK for the HELLO_ACK is on its way or has come, no HELLO makes another connection unless a
SESSION_OK comes, and that SESSION_OK is not lost while a connection lacks the HELLO_ACK. -/
def KeepsAnswers (P : Primitives) (setup : HandshakeSetup) (net : HandshakeNet) :
    NetAction → Prop
  | .loseToClient index =>
      (net.UtackSent 1 0 → FrameInFlight 10 net.toClient →
        FrameInFlight 10 (net.toClient.eraseIdx index) ∨ 1 ≤ net.client.stream.rank ∨
          HasConnection setup net) ∧
      (net.UtackSent 3 2 → LacksHelloAck setup net → net.SessionOkComes →
        FrameInFlight 4 (net.toClient.eraseIdx index) ∨ 3 ≤ net.client.stream.rank)
  | .deliver index wall mono =>
      (∃ data ∈ net.toServer[index]?, net.Starts P setup data wall mono) → net.UtackSent 3 2 →
        net.SessionOkComes
  | _ => True

instance (P : Primitives) (setup : HandshakeSetup) (net : HandshakeNet) :
    (action : NetAction) → Decidable (KeepsAnswers P setup net action)
  | .loseToClient _ => inferInstanceAs (Decidable (_ ∧ _))
  | .deliver _ _ _ => inferInstanceAs (Decidable (_ → _ → _))
  | .arrive _ | .duplicateToServer _ | .duplicateToClient _ | .loseToServer _
  | .stranger .. | .start _ | .begin .. | .resume .. | .resolved .. | .acked _ | .timeout _
  | .finish .. | .expire .. | .serve .. | .handlerEnds .. | .proceed _ | .cancel _
  | .clientResume | .clientAcked | .clientTimeout | .clientAbort | .clientClose
  | .clientServe .. => isTrue trivial

/-- Every connection of the client's address that is in its handshake has accepted the
HELLO_ACK. -/
def HelloAckAccepted (setup : HandshakeSetup) (net : HandshakeNet) : Prop :=
  ∀ id self, net.Own setup id self → self.run.hasEnded = false → 3 ≤ self.stream.lastRxType

/-- What backs the UTACKs that stop the client's ARQ. -/
structure Backed (setup : HandshakeSetup) (net : HandshakeNet) : Prop where
  client : Armed ClientHandshake.writing net.client
  own : ∀ id self, net.Own setup id self → Armed ServerHandshake.writing self
  hello : net.client.run.hasEnded = false → net.UtackSent 1 0 →
    FrameInFlight 10 net.toClient ∨ 1 ≤ net.client.stream.rank ∨ ∃ id self, net.Own setup id self
  helloAgain : net.client.run.hasEnded = false → net.UtackSent 1 1 →
    ∃ id self, net.Own setup id self
  helloAck : net.client.run.hasEnded = false → net.UtackSent 3 2 →
    (∃ id self, net.Own setup id self) ∧ (net.SessionOkComes ∨ HelloAckAccepted setup net)

/-! ## What one datagram brings -/

/-- A stream whose UTACK has come had it before, or was fed it. -/
theorem ackReceived_feed {Run : Type} {self : HandshakeEnd Run} {data : Bytes} {type seq : Nat}
    (received : (self.feed P data).1.stream.ackReceived = true)
    (last : (self.feed P data).1.stream.LastWrite type seq) :
    self.stream.ackReceived = true ∧ self.stream.LastWrite type seq ∨
      UDPStream.isUtack data = true ∧ fieldAt data 2 1 = type ∧ fieldAt data 3 4 = seq := by
  have fed := feedPacket_cases P self.stream data
  simp only [HandshakeEnd.feed] at received last
  generalize self.stream.feedPacket P data = result at fed received last
  have noted : (self.stream.noteType data).ackReceived = self.stream.ackReceived ∧
      (self.stream.noteType data).pendingSendType = self.stream.pendingSendType ∧
      (self.stream.noteType data).pendingSendSeq = self.stream.pendingSendSeq := by
    unfold UDPStream.noteType
    split <;> exact ⟨rfl, rfl, rfl⟩
  rcases noted with ⟨sameAck, sameType, sameSeq⟩
  cases fed with
  | closed | noAck | garbage | old => exact .inl ⟨received, last⟩
  | ack utack authentic isSeq isType =>
      exact .inr ⟨utack, Option.some.inj (isType.symm.trans last.1),
        Option.some.inj (isSeq.symm.trans last.2)⟩
  | full isOpen frame new noRoom =>
      exact .inl ⟨sameAck ▸ received, sameType ▸ last.1, sameSeq ▸ last.2⟩
  | buffered isOpen frame new room =>
      exact .inl ⟨sameAck ▸ received, sameType ▸ last.1, sameSeq ▸ last.2⟩

/-- The answer to a datagram is the UTACK of a frame. -/
theorem reply_feed {Run : Type} {self : HandshakeEnd Run} {data reply : Bytes}
    (member : reply ∈ (self.feed P data).2) :
    self.stream.closed = false ∧ IsFrame data ∧ fieldAt reply 2 1 = typeOf data ∧
      fieldAt reply 3 4 = seqOf data := by
  have fed := feedPacket_cases P self.stream data
  have utack := (isUtack_reply P self.stream data).2
  simp only [HandshakeEnd.feed] at member
  generalize self.stream.feedPacket P data = result at fed member
  cases fed with
  | closed | noAck | ack | garbage | full => cases member
  | old isOpen frame | buffered isOpen frame =>
      rw [List.mem_singleton.mp member]
      exact ⟨isOpen, frame, utack⟩

/-- A handshake frame that reaches an open stream of the client brings it on. -/
theorem rank_feed {client : HandshakeEnd ClientHandshake} (order : ClientOrder client)
    (isOpen : client.stream.closed = false) {data : Bytes}
    (isFrame : UDPStream.isFrame data = true) (member : typeOf data ∈ [10, 2, 4]) :
    rankOf (typeOf data) ≤ (client.feed P data).1.stream.rank := by
  have frame := (isFrame_iff data).mp isFrame
  have isHandshake : isHandshakeType (typeOf data) = true := by
    simp only [List.mem_cons, List.not_mem_nil, or_false] at member
    rcases member with is | is | is <;> rw [is] <;> rfl
  simp only [HandshakeEnd.feed]
  rcases feedPacket_handshake P isOpen frame isHandshake with ⟨duplicate, same⟩ | noted
  · rw [same]
    exact (isDuplicateHandshake_client order.isClient order.lastRxType member).mp duplicate
  · rw [UDPStream.rank, noted]

/-- A frame in flight that is fed to an open stream of the client is one that it has accepted. -/
theorem inFlight_feed {client : HandshakeEnd ClientHandshake} (order : ClientOrder client)
    (isOpen : client.stream.closed = false) {data : Bytes} {toClient rest : List Bytes}
    (kept : ∀ other ∈ toClient, other ∈ rest ∨ other = data) {type : Nat}
    (isType : type ∈ [10, 2, 4]) (inFlight : FrameInFlight type toClient) :
    FrameInFlight type rest ∨ rankOf type ≤ (client.feed P data).1.stream.rank := by
  rcases inFlight with ⟨other, member, isFrame, rfl⟩
  rcases kept other member with stays | rfl
  · exact .inl ⟨other, stays, isFrame, rfl⟩
  · exact .inr (rank_feed order isOpen isFrame isType)

/-! ## Every move keeps the UTACKs backed -/

theorem UtackSent.quiet {net next : HandshakeNet} {type seq : Nat}
    (sent : next.UtackSent type seq) (client : next.client = net.client)
    (toClient : next.toClient ⊆ net.toClient) : net.UtackSent type seq := by
  rcases sent with ⟨data, member, utack⟩ | received
  · exact .inl ⟨data, toClient member, utack⟩
  · rw [client] at received
    exact .inr received

theorem SessionOkComes.kept {net next : HandshakeNet} (comes : net.SessionOkComes)
    (client : next.client = net.client) (toClient : net.toClient ⊆ next.toClient) :
    next.SessionOkComes := by
  rcases comes with ⟨data, member, isSessionOk⟩ | rank
  · exact .inl ⟨data, toClient member, isSessionOk⟩
  · exact .inr (client ▸ rank)

/-- Every connection keeps its ARQ when one goes on. -/
theorem OwnExcept.armed {net next : HandshakeNet} {id : Nat}
    {after : HandshakeEnd ServerHandshake} (exceptOwn : OwnExcept setup net next id after)
    (own : ∀ id self, net.Own setup id self → Armed ServerHandshake.writing self)
    (armed : Armed ServerHandshake.writing after) :
    ∀ id self, next.Own setup id self → Armed ServerHandshake.writing self := by
  intro other self isSelf
  have known := (exceptOwn other self).mp isSelf
  split at known
  · rw [known]
    exact armed
  · exact own other self known

theorem HelloAckAccepted.same {net next : HandshakeNet} (accepted : HelloAckAccepted setup net)
    (own : SameOwn setup net next) : HelloAckAccepted setup next :=
  fun id self isOwn => accepted id self ((own id self).mp isOwn)

/-- One connection goes on. -/
theorem HelloAckAccepted.except {net next : HandshakeNet} (accepted : HelloAckAccepted setup net)
    {id : Nat} {before after : HandshakeEnd ServerHandshake} (isOwn : net.Own setup id before)
    (own : OwnExcept setup net next id after)
    (hasEnded : before.run.hasEnded = true → after.run.hasEnded = true)
    (onwards : before.stream.lastRxType ≤ after.stream.lastRxType) :
    HelloAckAccepted setup next := by
  intro other self isSelf goesOn
  have known := (own other self).mp isSelf
  split at known
  · subst known
    have before := accepted id before isOwn
      (Bool.eq_false_iff.mpr fun ended => Bool.eq_false_iff.mp goesOn (hasEnded ended))
    exact Int.le_trans before onwards
  · exact accepted other self known goesOn

theorem Backed.quiet {net next : HandshakeNet} (backed : Backed setup net)
    (client : next.client = net.client) (toClient : next.toClient ⊆ net.toClient)
    (own : SameOwn setup net next)
    (retry : net.UtackSent 1 0 → FrameInFlight 10 net.toClient →
      FrameInFlight 10 next.toClient ∨ 1 ≤ net.client.stream.rank ∨
        ∃ id self, net.Own setup id self)
    (sessionOk : net.UtackSent 3 2 → net.SessionOkComes →
      next.SessionOkComes ∨ HelloAckAccepted setup net) :
    Backed setup next := by
  have sameOwn : (∃ id self, net.Own setup id self) → ∃ id self, next.Own setup id self := by
    rintro ⟨id, self, isOwn⟩
    exact ⟨id, self, (own id self).mpr isOwn⟩
  refine ⟨client ▸ backed.client, fun id self isOwn => backed.own id self ((own id self).mp isOwn),
    ?_, ?_, ?_⟩
  · intro goesOn sent
    rw [client] at goesOn ⊢
    have sent := sent.quiet client toClient
    rcases backed.hello goesOn sent with inFlight | rank | connection
    · rcases retry sent inFlight with stays | rank | connection
      · exact .inl stays
      · exact .inr (.inl rank)
      · exact .inr (.inr (sameOwn connection))
    · exact .inr (.inl rank)
    · exact .inr (.inr (sameOwn connection))
  · intro goesOn sent
    rw [client] at goesOn
    exact sameOwn (backed.helloAgain goesOn (sent.quiet client toClient))
  · intro goesOn sent
    rw [client] at goesOn
    have sent := sent.quiet client toClient
    rcases backed.helloAck goesOn sent with ⟨connection, comes | accepted⟩
    · exact ⟨sameOwn connection, (sessionOk sent comes).imp_right fun accepted =>
        accepted.same own⟩
    · exact ⟨sameOwn connection, .inr (accepted.same own)⟩

/-- A UTACK that a move sends, or one that was sent before. -/
theorem UtackSent.sent {net next : HandshakeNet} {type seq : Nat} {out : List Bytes}
    (sent : next.UtackSent type seq) (client : next.client = net.client)
    (toClient : next.toClient = net.toClient ++ out) :
    net.UtackSent type seq ∨ ∃ data ∈ out, UDPStream.isUtack data = true ∧
      fieldAt data 2 1 = type ∧ fieldAt data 3 4 = seq := by
  rcases sent with ⟨data, member, utack⟩ | received
  · rw [toClient] at member
    rcases List.mem_append.mp member with old | new
    · exact .inl (.inl ⟨data, old, utack⟩)
    · exact .inr ⟨data, new, utack⟩
  · rw [client] at received
    exact .inl (.inr received)

theorem Backed.move {H : Hazard} {net next : HandshakeNet} (ordered : Ordered setup net)
    (backed : Backed setup net) (noLoss : ∀ data, ¬ H.loses data)
    (safe : ∀ state, H.makes state → state.UtackSent 3 2 → state.SessionOkComes)
    (move : Move P X setup H net next) : Backed setup next := by
  have onwards := (ordered.move move).2
  have own : (∃ id self, net.Own setup id self) → ∃ id self, next.Own setup id self := by
    rintro ⟨id, self, isOwn⟩
    rcases onwards.own id self isOwn with ⟨later, isLater, _⟩
    exact ⟨id, later, isLater⟩
  have wentOn : next.client.run.hasEnded = false → net.client.run.hasEnded = false := by
    intro goesOn
    rw [Bool.eq_false_iff] at goesOn ⊢
    exact fun hasEnded => goesOn (onwards.client.hasEnded hasEnded)
  cases move with
  | quiet client toServer toClient kept sameOwn =>
      have stays : ∀ {type : Nat}, FrameInFlight type net.toClient →
          FrameInFlight type next.toClient := by
        rintro type ⟨data, member, isType⟩
        exact ⟨data, (kept data member).resolve_right (noLoss data), isType⟩
      apply backed.quiet client toClient sameOwn
      · exact fun _ inFlight => .inl (stays inFlight)
      · exact fun _ comes => .inl (comes.imp stays fun rank => client ▸ rank)
  | clientFed data member isOpen client toServer toClient kept sameOwn =>
      have before : ∀ {type seq : Nat}, next.UtackSent type seq → net.UtackSent type seq := by
        intro type seq sent
        rcases sent with ⟨other, isMember, utack⟩ | ⟨received, last⟩
        · exact .inl ⟨other, toClient isMember, utack⟩
        · rw [client] at received last
          rcases ackReceived_feed received last with old | utack
          · exact .inr old
          · exact .inl ⟨data, member, utack⟩
      have brings : ∀ {type : Nat}, type ∈ [10, 2, 4] → FrameInFlight type net.toClient →
          FrameInFlight type next.toClient ∨ rankOf type ≤ next.client.stream.rank := by
        intro type isType inFlight
        rw [client]
        exact inFlight_feed ordered.client isOpen kept isType inFlight
      refine ⟨client ▸ backed.client.fed data,
        fun id self isOwn => backed.own id self ((sameOwn id self).mp isOwn), ?_, ?_, ?_⟩
      · intro goesOn sent
        rcases backed.hello (wentOn goesOn) (before sent) with inFlight | rank | connection
        · exact (brings (by decide) inFlight).imp_right .inl
        · exact .inr (.inl (Nat.le_trans rank onwards.client.rank))
        · exact .inr (.inr (own connection))
      · exact fun goesOn sent => own (backed.helloAgain (wentOn goesOn) (before sent))
      · intro goesOn sent
        rcases backed.helloAck (wentOn goesOn) (before sent) with
          ⟨connection, (inFlight | rank) | accepted⟩
        · exact ⟨own connection, .inl (brings (by decide) inFlight)⟩
        · exact ⟨own connection, .inl (.inr (Nat.le_trans rank onwards.client.rank))⟩
        · exact ⟨own connection, .inr (accepted.same sameOwn)⟩
  | client out moved toServer toClient sameOwn =>
      have before : ∀ {type seq : Nat}, next.client.run.hasEnded = false →
          next.UtackSent type seq → net.UtackSent type seq := by
        intro type seq goesOn sent
        rcases sent with ⟨data, member, utack⟩ | ⟨received, last⟩
        · rw [toClient] at member
          exact .inl ⟨data, member, utack⟩
        · exact .inr (moved.ackReceived goesOn received last)
      refine ⟨moved.armed backed.client,
        fun id self isOwn => backed.own id self ((sameOwn id self).mp isOwn), ?_, ?_, ?_⟩
      · intro goesOn sent
        rcases backed.hello (wentOn goesOn) (before goesOn sent) with inFlight | rank | connection
        · rw [toClient]
          exact .inl inFlight
        · exact .inr (.inl (Nat.le_trans rank onwards.client.rank))
        · exact .inr (.inr (own connection))
      · exact fun goesOn sent => own (backed.helloAgain (wentOn goesOn) (before goesOn sent))
      · intro goesOn sent
        rcases backed.helloAck (wentOn goesOn) (before goesOn sent) with
          ⟨connection, (inFlight | rank) | accepted⟩
        · exact ⟨own connection, .inl (.inl (toClient ▸ inFlight))⟩
        · exact ⟨own connection, .inl (.inr (Nat.le_trans rank onwards.client.rank))⟩
        · exact ⟨own connection, .inr (accepted.same sameOwn)⟩
  | acts id self after out isOwn moved client toServer toClient exceptOwn =>
      have isAfter : next.Own setup id after := (exceptOwn id after).mpr (by rw [if_pos rfl])
      rcases moved.armed (backed.own id self isOwn) with ⟨armed, noUtack⟩
      refine ⟨client ▸ backed.client, exceptOwn.armed backed.own armed,
        fun _ _ => .inr (.inr ⟨id, after, isAfter⟩), fun _ _ => ⟨id, after, isAfter⟩, ?_⟩
      intro goesOn sent
      refine ⟨⟨id, after, isAfter⟩, ?_⟩
      rcases sent.sent client toClient with old | ⟨reply, member, utack, _⟩
      · rcases (backed.helloAck (wentOn goesOn) old).2 with comes | accepted
        · exact .inl (comes.kept client (toClient ▸ List.subset_append_left _ _))
        · exact .inr (accepted.except isOwn exceptOwn (InstanceMove.hasEnded moved)
            (Int.le_of_eq (InstanceMove.lastRxType_eq moved).symm))
      · rw [noUtack reply member] at utack
        cases utack
  | serverFed id self data member isOwn others client toServer toClient exceptOwn =>
      have isAfter := (exceptOwn id _).mpr (by rw [if_pos rfl])
      have order := ordered.own id self isOwn
      refine ⟨client ▸ backed.client,
        exceptOwn.armed backed.own ((backed.own id self isOwn).fed data),
        fun _ _ => .inr (.inr ⟨id, _, isAfter⟩), fun _ _ => ⟨id, _, isAfter⟩, ?_⟩
      intro goesOn sent
      refine ⟨⟨id, _, isAfter⟩, ?_⟩
      rcases sent.sent client toClient with old | ⟨reply, isReply, utack, isType, _⟩
      · rcases (backed.helloAck (wentOn goesOn) old).2 with comes | accepted
        · exact .inl (comes.kept client (toClient ▸ List.subset_append_left _ _))
        · refine .inr (accepted.except isOwn exceptOwn ?_ (lastRxType_feed order.isServer data))
          rw [(feed_frame self data).1]
          exact fun hasEnded => hasEnded
      · -- the HELLO_ACK that is answered has come to the one connection that goes on
        rcases reply_feed isReply with ⟨isOpen, frame, sameType, _⟩
        have isAck : typeOf data = 3 := sameType.symm.trans isType
        have seen := seen_feed (P := P) order.isServer isOpen frame (.inr isAck)
        rw [isAck] at seen
        refine .inr ?_
        intro other found isFound live
        have known := (exceptOwn other found).mp isFound
        split at known
        · rw [known]
          exact seen
        · rename_i different
          rw [others other found known different] at live
          cases live
  | made id data member isHello size new free makes client toServer toClient exceptOwn =>
      have isFresh := (exceptOwn id _).mpr (by rw [if_pos rfl])
      refine ⟨client ▸ backed.client, ?_, fun _ _ => .inr (.inr ⟨id, _, isFresh⟩),
        fun _ _ => ⟨id, _, isFresh⟩, ?_⟩
      · apply exceptOwn.armed backed.own
        have fresh : Armed ServerHandshake.writing (freshInstance setup) := by
          constructor
          · exact nofun
          · exact nofun
        exact fresh.fed data
      · intro goesOn sent
        refine ⟨⟨id, _, isFresh⟩, .inl ?_⟩
        rcases sent.sent client toClient with old | ⟨reply, isReply, _, isType, _⟩
        · exact (safe net makes old).kept client (toClient ▸ List.subset_append_left _ _)
        · rcases isHello_of_routed (ordered.toServer data member) isHello (by omega) with
            ⟨_, isOne, _⟩
          have isThree := (reply_feed isReply).2.2.1.symm.trans isType
          rw [isOne] at isThree
          cases isThree
  | answered data cookie member isHello size cookieSize client toServer toClient sameOwn =>
      rcases isHello_of_routed (ordered.toServer data member) isHello (by omega) with
        ⟨frame, isOne, payload, seq, isFrame, fits, isSeq⟩
      have fitsCookie : cookie.length ≤ usmpMaxPayload := by rw [cookieSize]; decide
      rcases isFrame_frameBytes .helloRetry (Nat.zero_le maxSeq) fitsCookie with
        ⟨retryFrame, retryType, _⟩
      have retry : FrameInFlight 10 next.toClient := by
        rw [toClient]
        exact ⟨_, List.mem_append_right _ (List.mem_cons_of_mem _ List.mem_cons_self),
          (isFrame_iff _).mpr retryFrame, retryType⟩
      -- the answered HELLO has no cookie, and so it is the first
      have isZero : seqOf data = 0 := by
        have bound : seq ≤ maxSeq := by
          rcases isSeq with rfl | ⟨rfl, _⟩ <;> decide
        rcases isFrame_frameBytes .hello bound fits with ⟨_, _, sameSeq, length⟩
        rw [← isFrame] at sameSeq length
        have whole := frame.size
        rw [length, size, usmpHeaderSize] at whole
        rcases isSeq with first | ⟨_, long⟩
        · exact sameSeq.trans first
        · omega
      have before : ∀ {type seq : Nat}, ¬ (type = 1 ∧ seq = 0) →
          next.UtackSent type seq → net.UtackSent type seq := by
        intro type seq other sent
        rcases sent.sent client toClient with old | ⟨reply, isReply, utack, isType, isSeq⟩
        · exact old
        · have reply := isUtack_utackHeader (typeOf data) (seqOf data) [] (by rw [isOne]; decide)
            (by rw [isZero]; decide)
          rw [List.append_nil] at reply
          rcases List.mem_cons.mp isReply with rfl | isRetry
          · exact absurd ⟨isType.symm.trans (reply.2.1.trans isOne),
              isSeq.symm.trans (reply.2.2.trans isZero)⟩ other
          · rw [List.mem_singleton.mp isRetry, retryFrame.notUtack] at utack
            cases utack
      refine ⟨client ▸ backed.client,
        fun id self isOwn => backed.own id self ((sameOwn id self).mp isOwn),
        fun _ _ => .inl retry, ?_, ?_⟩
      · exact fun goesOn sent => own (backed.helloAgain (wentOn goesOn) (before (by decide) sent))
      · intro goesOn sent
        rcases backed.helloAck (wentOn goesOn) (before (by decide) sent) with
          ⟨connection, comes | accepted⟩
        · exact ⟨own connection, .inl (comes.kept client (toClient ▸ List.subset_append_left _ _))⟩
        · exact ⟨own connection, .inr (accepted.same sameOwn)⟩

theorem Backed.moves {H : Hazard} {net next : HandshakeNet} (ordered : Ordered setup net)
    (backed : Backed setup net) (noLoss : ∀ data, ¬ H.loses data)
    (safe : ∀ state, H.makes state → state.UtackSent 3 2 → state.SessionOkComes)
    (moves : Relation.ReflTransGen (Move P X setup H) net next) : Backed setup next := by
  induction moves with
  | refl => exact backed
  | tail earlier move ih => exact ih.move (ordered.moves earlier).1 noLoss safe move

/-! ## Steps and runs -/

theorem Linked.hasConnection_iff {net : HandshakeNet} (linked : Linked setup net) :
    HasConnection setup net ↔ ∃ id self, net.Own setup id self := by
  constructor
  · rintro ⟨connection, member, isAddr⟩
    rcases List.mem_iff_getElem?.mp member with ⟨id, isAt⟩
    have inside : id < net.instances.length := by
      rw [linked.size]
      exact (List.getElem?_eq_some_iff.mp isAt).1
    refine ⟨id, net.instances[id], ?_, List.getElem?_eq_getElem inside⟩
    rw [HandshakeNet.own, isAt]
    exact decide_eq_true isAddr
  · rintro ⟨id, self, isOwn, _⟩
    unfold HandshakeNet.own at isOwn
    split at isOwn
    · rename_i connection isAt
      exact ⟨connection, List.mem_of_getElem? isAt, of_decide_eq_true isOwn⟩
    · cases isOwn

/-- A connection of the client's address that has accepted no HELLO_ACK. -/
theorem lacksHelloAck_of_own {net : HandshakeNet} {id : Nat}
    {self : HandshakeEnd ServerHandshake} (isOwn : net.Own setup id self)
    (goesOn : self.run.hasEnded = false) (below : self.stream.lastRxType < 3) :
    LacksHelloAck setup net := by
  have isAddr := isOwn.1
  unfold HandshakeNet.own at isAddr
  split at isAddr
  · rename_i connection isAt
    have isTask : (net.server.connections.zip net.instances)[id]? = some (connection, self) :=
      List.getElem?_zip_eq_some.mpr ⟨isAt, isOwn.2⟩
    exact ⟨_, List.mem_of_getElem? isTask, of_decide_eq_true isAddr, goesOn, below⟩
  · cases isAddr

theorem Backed.step {net next : HandshakeNet} {action : NetAction} (sound : Sound setup net)
    (backed : Backed setup net) (keeps : KeepsAnswers P setup net action)
    (stepped : net.step P X setup action = some next) : Backed setup next := by
  by_cases loses : ∃ index, action = .loseToClient index
  · rcases loses with ⟨index, rfl⟩
    cases stepped
    refine backed.quiet rfl (List.eraseIdx_subset) (fun _ _ => .rfl) ?_ ?_
    · rw [← sound.linked.hasConnection_iff]
      exact keeps.1
    · intro sent comes
      by_cases lacks : LacksHelloAck setup net
      · exact .inl (keeps.2 sent lacks comes)
      · refine .inr fun id self isOwn goesOn => Int.not_lt.mp fun below => lacks ?_
        exact lacksHelloAck_of_own isOwn goesOn below
  · apply backed.moves sound.ordered ?_ ?_ (step_moves sound.linked stepped).1
    · rintro data ⟨index, isLoss, _⟩
      exact loses ⟨index, isLoss⟩
    · rintro state ⟨rfl, index, wall, mono, data, rfl, isAt, starts⟩ sent
      exact keeps ⟨data, isAt, starts⟩ sent

theorem backed_initial (P : Primitives) (X : KeyExchange) (setup : HandshakeSetup)
    (psk deviceId : Bytes) (priv : PrivateKey) (failedHandshakes : FailedHandshakes) :
    Backed setup (initial P X psk deviceId priv failedHandshakes) := by
  have client : Armed ClientHandshake.writing
        (initial P X psk deviceId priv failedHandshakes).client ∧
      (initial P X psk deviceId priv failedHandshakes).client.stream.ackReceived = false := by
    unfold initial
    dsimp only
    constructor
    · refine (Armed.goOn ?_ client_fails ?_).1
      · exact nofun
      intro isWriting
      unfold ClientHandshake.start at isWriting ⊢
      dsimp only at isWriting ⊢
      split at isWriting
      · cases isWriting
      · rename_i long
        rw [if_neg long]
        exact ⟨_, _, _, List.mem_singleton.mpr rfl⟩
    · rw [Bool.eq_false_iff]
      intro received
      cases ackReceived_perform _ _ received
  have noInstance : (initial P X psk deviceId priv failedHandshakes).instances = [] := rfl
  have inFlight : (initial P X psk deviceId priv failedHandshakes).toClient = [] := rfl
  generalize initial P X psk deviceId priv failedHandshakes = net at *
  have noUtack : ∀ {type seq : Nat}, ¬ net.UtackSent type seq := by
    intro type seq sent
    rcases sent with ⟨data, member, _⟩ | ⟨received, _⟩
    · rw [inFlight] at member
      cases member
    · rw [client.2] at received
      cases received
  refine ⟨client.1, ?_, fun _ sent => absurd sent noUtack, fun _ sent => absurd sent noUtack,
    fun _ sent => absurd sent noUtack⟩
  intro id self isOwn
  have isAt := isOwn.2
  simp [noInstance] at isAt

/-! ## The result -/

theorem Buffered.eq_nil {Run : Type} {self : HandshakeEnd Run} {frames : List Bytes}
    (buffered : Buffered self frames) (empty : self.stream.readBuffer = []) : frames = [] := by
  cases frames with
  | nil => rfl
  | cons data rest =>
      have size := (buffered.whole data List.mem_cons_self).size
      have length := congrArg List.length (buffered.buffer.symm.trans empty)
      rw [List.flatten_cons, List.length_append, size, usmpHeaderSize, List.length_nil] at length
      omega

/-- A handshake that only waits for a frame waits for the HELLO_ACK, and the client has come to
the CHALLENGE. -/
theorem Stuck.own_waits {net : HandshakeNet} (stuck : Stuck setup net) (sound : Sound setup net)
    (backed : Backed setup net) {id : Nat} {self : HandshakeEnd ServerHandshake}
    (isOwn : net.Own setup id self) (goesOn : self.run.hasEnded = false) :
    2 ≤ net.client.stream.rank ∧ self.stream.lastRxType = 1 := by
  rcases stuck.own id self isOwn goesOn with ⟨waits, noArq, finds⟩
  have order := sound.ordered.own id self isOwn
  have active := order.active goesOn
  rcases active.input with ⟨frames, input⟩
  have reading : self.run.reading = true := by
    cases isReading : self.run.reading with
    | true => rfl
    | false =>
        rw [ServerHandshake.waitsForFrame, isReading, Bool.false_or] at waits
        have armed := (backed.own id self isOwn).arq waits
        rw [noArq] at armed
        cases armed
  have none := Buffered.eq_nil input.buffered (finds reading).1
  subst none
  rcases input.early stuck.client.1 with ⟨types, last⟩
  have rank := order.rank
  have hasRead := active.hasRead
  unfold ServerHandshake.reading at reading
  cases isStage : self.run.stage with
  | created | resolving deviceId pubC | writingChallenge hello | writingSessionOk locals
  | returned info | raised exn => simp [isStage] at reading
  | readingHello =>
      rw [isStage] at hasRead
      simp [accepted, hasRead, ServerStage.hasRead] at types
  | readingHelloAck hello keys =>
      rw [isStage] at hasRead rank
      refine ⟨rank, ?_⟩
      rw [last, accepted, hasRead]
      rfl

/-- A client that waits for the SESSION_OK has accepted none, when it has nothing to read. -/
theorem rank_of_reading {client : HandshakeEnd ClientHandshake} {order session : List Nat}
    (isAccepted : accepted client [] = order ++ session)
    (rank : client.stream.rank = rankOf (lastType order))
    (notHanded : .sessionOk ∉ client.handed) : client.stream.rank < 3 := by
  rw [rank]
  by_contra above
  have isLast : lastType order = 4 := by
    unfold rankOf at above
    split at above
    · omega
    split at above
    · omega
    split at above
    · assumption
    · omega
  unfold lastType at isLast
  split at isLast
  · rename_i type isType
    have member : type ∈ accepted client [] := by
      rw [isAccepted]
      exact List.mem_append_left _ (List.mem_of_getLast? isType)
    rw [accepted, List.map_nil, List.append_nil] at member
    rcases List.mem_map.mp member with ⟨handed, isHanded, sameType⟩
    have isSessionOk : handed = .sessionOk :=
      PacketType.toNat_injective (sameType.trans (Int.ofNat_inj.mp isLast))
    exact notHanded (isSessionOk ▸ isHanded)
  · cases isLast

theorem Backed.not_stuck {net : HandshakeNet} (sound : Sound setup net)
    (backed : Backed setup net) : ¬ Stuck setup net := by
  intro stuck
  rcases stuck.client with ⟨goesOn, noArq, finds⟩
  have active := sound.ordered.client.active goesOn
  rcases active.input with ⟨frames, order, session, input⟩
  have own : (∃ id self, net.Own setup id self) → ∃ id self, net.Own setup id self ∧
      self.run.hasEnded = false ∧ 2 ≤ net.client.stream.rank ∧ self.stream.lastRxType = 1 := by
    rintro ⟨id, self, isOwn⟩
    rcases stuck.server with none | ⟨other, live, isLive, goesOn⟩
    · exact absurd isOwn (none id self)
    · exact ⟨other, live, isLive, goesOn, stuck.own_waits sound backed isLive goesOn⟩
  have noFrame : ∀ {type : Nat}, ¬ FrameInFlight type net.toClient := by
    intro type
    rw [stuck.toClient]
    exact nofun
  have reading : net.client.run.reading = true := by
    have notWriting : ¬ net.client.run.writing = true := by
      intro isWriting
      have armed := backed.client.arq isWriting
      rw [noArq] at armed
      cases armed
    unfold ClientHandshake.hasEnded at goesOn
    unfold ClientHandshake.writing at notWriting
    unfold ClientHandshake.reading
    cases isStage : net.client.run.stage <;> simp [isStage] at goesOn notWriting ⊢
  have none := Buffered.eq_nil input.buffered (finds reading).1
  subst none
  have sent : ∀ type seq, net.client.run.stage.lastWrite = some (type, seq) →
      net.UtackSent type seq :=
    fun type seq isLast => .inr ⟨active.acked reading, active.lastWrite type seq isLast⟩
  have hasRead := active.hasRead
  have isAccepted := input.isAccepted
  have rank : net.client.stream.rank = rankOf (lastType order) := congrArg rankOf input.last
  unfold ClientHandshake.reading at reading
  cases isStage : net.client.run.stage with
  | writingHello | writingRetry | writingHelloAck locals | returned info | raised exn =>
      simp [isStage] at reading
  | readingChallenge =>
      rw [isStage] at hasRead sent
      have handed : net.client.handed = [] := List.mem_singleton.mp hasRead
      simp only [accepted, handed, List.map_nil, List.append_nil] at isAccepted
      rw [(List.append_eq_nil_iff.mp isAccepted.symm).1] at rank
      rcases backed.hello goesOn (sent 1 0 rfl) with retry | above | connection
      · exact noFrame retry
      · rw [rank] at above
        exact absurd above (by decide)
      · rcases own connection with ⟨_, _, _, _, above, _⟩
        rw [rank] at above
        exact absurd above (by decide)
  | readingChallengeAgain =>
      rw [isStage] at hasRead sent
      have handed : net.client.handed = [.helloRetry] := List.mem_singleton.mp hasRead
      simp only [accepted, handed, List.map_nil, List.append_nil, List.map_cons] at isAccepted
      rcases own (backed.helloAgain goesOn (sent 1 1 rfl)) with ⟨_, _, _, _, above, _⟩
      rw [rank] at above
      rcases List.append_eq_singleton_iff.mp isAccepted.symm with ⟨none, _⟩ | ⟨one, _⟩
      · rw [none] at above
        exact absurd above (by decide)
      · rw [one] at above
        exact absurd above (by decide)
  | readingSessionOk locals =>
      rw [isStage] at hasRead sent
      have notHanded : .sessionOk ∉ net.client.handed := by
        simp only [ClientStage.hasRead, List.mem_cons, List.not_mem_nil, or_false] at hasRead
        rcases hasRead with handed | handed <;> simp [handed]
      rcases backed.helloAck goesOn (sent 3 2 rfl) with ⟨connection, (inFlight | above) | accepted⟩
      · exact noFrame inFlight
      · exact absurd above (Nat.not_le.mpr (rank_of_reading isAccepted rank notHanded))
      · rcases own connection with ⟨id, self, isOwn, live, _, last⟩
        have above := accepted id self isOwn live
        rw [last] at above
        exact absurd above (by decide)

/-- In every run over a network that loses, duplicates, delays and reorders datagrams, in which
no answer is lost that the client's ARQ no longer asks for, no state that is reached leaves the
client and the server only waiting to read with nothing left to arrive. -/
theorem handshake_not_stuck (P : Primitives) (X : KeyExchange) (setup : HandshakeSetup)
    (psk deviceId : Bytes) (priv : PrivateKey) (failedHandshakes : FailedHandshakes)
    (actions : List NetAction) (net : HandshakeNet)
    (keeps : Machine.Along (step P X setup) (KeepsAnswers P setup)
      (initial P X psk deviceId priv failedHandshakes) actions)
    (reached : Machine.run (step P X setup)
      (initial P X psk deviceId priv failedHandshakes) actions = some net) :
    ¬ Stuck setup net := by
  have holds := Machine.run_invariant (fun net => Sound setup net ∧ Backed setup net)
    (fun _ _ _ holds keeps stepped =>
      ⟨(holds.1.step stepped).1, holds.2.step holds.1 keeps stepped⟩)
    ⟨sound_initial P X setup psk deviceId priv failedHandshakes,
      backed_initial P X setup psk deviceId priv failedHandshakes⟩ keeps reached
  exact holds.2.not_stuck holds.1

/-- The listener's whole answer to the HELLO is lost, and the client sends the HELLO again. -/
def sampleLostAnswer : List NetAction :=
  [.deliver 0 0 0, .loseToClient 0, .loseToClient 0, .clientTimeout, .deliver 0 0 0]

theorem handshake_not_stuck_sampleLostAnswer :
    ∃ net, Machine.Along sampleStep (KeepsAnswers samplePrimitives sampleSetup) sampleInitial
        sampleLostAnswer ∧
      Machine.run sampleStep sampleInitial sampleLostAnswer = some net ∧
      net.UtackSent 1 0 ∧ ¬ Stuck sampleSetup net := by
  have keeps : Machine.Along sampleStep (KeepsAnswers samplePrimitives sampleSetup) sampleInitial
      sampleLostAnswer := by
    decide +kernel
  rcases Machine.exists_run sampleStep sampleInitial sampleLostAnswer
    (fun net => net.UtackSent 1 0) (by decide +kernel) with ⟨net, reached, sent⟩
  exact ⟨net, keeps, reached, sent,
    handshake_not_stuck samplePrimitives sampleKeyExchange sampleSetup samplePsk
      sampleDeviceId.1 (samplePrivate 1) {} sampleLostAnswer net keeps reached⟩

/-- The HELLO_RETRY is lost, and its UTACK is not. -/
def sampleLostRetry : List NetAction :=
  [.deliver 0 0 0, .loseToClient 1, .arrive 0, .clientAcked]

/-- Every SESSION_OK of the first connection is lost, and a late copy of the HELLO makes a
second connection, which waits for a HELLO_ACK that the client sends no more. -/
def sampleLateHello : List NetAction :=
  [.deliver 0 0 0, .arrive 0, .clientAcked, .arrive 0, .clientResume, .deliver 0 0 0,
    .duplicateToServer 0, .deliver 0 0 0, .start 0, .begin 0 0, .resume 0 (sampleEntropy 2),
    .arrive 0, .clientAcked, .arrive 0, .deliver 1 0 0, .acked 0, .clientResume, .deliver 1 0 0,
    .arrive 0, .clientAcked, .resume 0 (sampleEntropy 2)] ++
  (List.replicate 5 [NetAction.loseToClient 0, .timeout 0]).flatten ++
  [.finish 0 0, .proceed 0, .deliver 0 0 0, .arrive 0, .start 1, .begin 1 0,
    .resume 1 (sampleEntropy 3), .arrive 0, .deliver 0 0 0, .acked 1]

/-- A UTACK stops the client's ARQ, the answer behind it is lost, and nobody sends again. -/
theorem stuck_without_answers :
    (∃ net, Machine.run sampleStep sampleInitial sampleLostRetry = some net ∧
      net.client.run.stage = .readingChallenge ∧ Stuck sampleSetup net) ∧
    ∃ net, Machine.run sampleStep sampleInitial sampleLateHello = some net ∧
      Stuck sampleSetup net :=
  ⟨Machine.exists_run sampleStep sampleInitial sampleLostRetry
      (fun net => net.client.run.stage = .readingChallenge ∧ Stuck sampleSetup net)
      (by decide +kernel),
    Machine.exists_run sampleStep sampleInitial sampleLateHello (Stuck sampleSetup)
      (by decide +kernel)⟩

end HandshakeNet

end Usmp
