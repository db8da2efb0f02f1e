import Usmp.Handshake.ClientOrder
import Usmp.Handshake.NetSteps
import Usmp.Handshake.ServerOrder

/-!
# Handshake messages arrive once and in order

The order of the client and of its connections at the server holds in every state that the
network reaches.  Every stream hands each handshake message to its coroutine at most once and in
the order of the protocol, and answers every duplicate.
-/

namespace Usmp

namespace HandshakeNet

variable {P : Primitives} {X : KeyExchange} {setup : HandshakeSetup}

/-- The order of the client, of its connections, and of everything in flight. -/
structure Ordered (setup : HandshakeSetup) (net : HandshakeNet) : Prop where
  client : ClientOrder net.client
  toServer : ∀ data ∈ net.toServer, FromClient net.client data
  toClient : ∀ data ∈ net.toClient, FromServer net.client data
  own : ∀ id self, net.Own setup id self → ServerOrder net.client self

/-- A later state: the client came further, and so did each of its connections. -/
structure Onwards (setup : HandshakeSetup) (net next : HandshakeNet) : Prop where
  client : Later net.client next.client
  own : ∀ id self, net.Own setup id self → ∃ later, next.Own setup id later ∧
    self.stream.lastRxType ≤ later.stream.lastRxType

theorem Onwards.refl (setup : HandshakeSetup) (net : HandshakeNet) : Onwards setup net net :=
  ⟨.refl _, fun _ self isOwn => ⟨self, isOwn, Int.le_refl _⟩⟩

theorem Onwards.trans {first second third : HandshakeNet} (left : Onwards setup first second)
    (right : Onwards setup second third) : Onwards setup first third := by
  refine ⟨⟨Nat.le_trans left.client.rank right.client.rank,
    fun hasEnded => right.client.hasEnded (left.client.hasEnded hasEnded)⟩, ?_⟩
  intro id self isOwn
  rcases left.own id self isOwn with ⟨middle, isMiddle, first⟩
  rcases right.own id middle isMiddle with ⟨later, isLater, second⟩
  exact ⟨later, isLater, Int.le_trans first second⟩

/-! ## Connections go on -/

theorem noteType_le {stream : UDPStream} (isServer : stream.isServer = true) {data : Bytes}
    (new : stream.seenBefore data = false) :
    stream.lastRxType ≤ (stream.noteType data).lastRxType := by
  unfold UDPStream.noteType
  split
  · rename_i isHandshake
    rw [UDPStream.seenBefore, if_pos isHandshake] at new
    exact Int.le_of_lt (isDuplicateHandshake_server isServer new)
  · exact Int.le_refl _

theorem lastRxType_feed {self : HandshakeEnd ServerHandshake}
    (isServer : self.stream.isServer = true) (data : Bytes) :
    self.stream.lastRxType ≤ (self.feed P data).1.stream.lastRxType := by
  have fed := feedPacket_cases P self.stream data
  simp only [HandshakeEnd.feed]
  generalize self.stream.feedPacket P data = result at fed
  cases fed with
  | full isOpen frame new noRoom => exact noteType_le isServer new
  | buffered isOpen frame new room => exact noteType_le isServer new
  | closed | noAck | ack | garbage | old => exact Int.le_refl _

theorem InstanceMove.lastRxType_eq {out : List Bytes} {self after : HandshakeEnd ServerHandshake}
    (move : InstanceMove P X setup self after out) :
    after.stream.lastRxType = self.stream.lastRxType := by
  cases move with
  | started | closed => rfl
  | resumed entropy stepped => exact (resume_input stepped).2
  | resolved outcome entropy stepped => exact (goOn_input _ _ _).lastRxType
  | acked stepped =>
      rcases acked_cases stepped with ⟨run, _, _, _, rfl⟩
      rfl
  | timeout stepped =>
      rcases timeout_cases stepped with ⟨resend, _, rfl⟩ | ⟨run, _, rfl⟩ <;> rfl
  | aborted => exact congrArg _ (over_abortServer self).2.1
  | served info returned stream sent served session =>
      simp only [servedStream, Bool.and_eq_true, decide_eq_true_eq] at served
      exact served.2

/-- A handshake that has ended goes on no more. -/
theorem InstanceMove.hasEnded {out : List Bytes} {self after : HandshakeEnd ServerHandshake}
    (move : InstanceMove P X setup self after out) (hasEnded : self.run.hasEnded = true) :
    after.run.hasEnded = true := by
  rcases not_resumed (P := P) (X := X) (.inr hasEnded) with ⟨notReading, notWriting, notResolving⟩
  cases move with
  | started lockedOut created => simp [ServerHandshake.hasEnded, created] at hasEnded
  | resumed entropy stepped =>
      simp [HandshakeEnd.resume, serverCoroutine, notReading] at stepped
  | resolved outcome entropy stepped =>
      rw [notResolving] at stepped
      cases stepped
  | acked stepped =>
      rcases acked_cases stepped with ⟨run, wrote, _⟩
      cases (notWriting none).symm.trans wrote
  | timeout stepped =>
      rcases timeout_cases stepped with ⟨resend, _, rfl⟩ | ⟨run, wrote, rfl⟩
      · exact hasEnded
      · cases (notWriting _).symm.trans wrote
  | aborted => exact (over_abortServer self).1
  | served | closed => exact hasEnded

/-! ## New connections -/

/-- A frame is routed by its type. -/
theorem routedType_frame {data : Bytes} (frame : IsFrame data) :
    Server.routedType data = some (typeOf data) := by
  have size := frame.size
  simp only [usmpHeaderSize] at size
  rw [Server.routedType, if_neg (by rw [frame.notUtack]; decide), if_pos (by omega)]

/-- The datagrams that the listener takes for a HELLO. -/
theorem isHello_of_routed {client : HandshakeEnd ClientHandshake} {data : Bytes}
    (sent : FromClient client data) (isHello : Server.routedType data = some 1)
    (long : 15 < data.length) :
    IsFrame data ∧ typeOf data = 1 ∧ ∃ payload seq, data = frameBytes .hello payload seq ∧
      payload.length ≤ usmpMaxPayload ∧ (seq = 0 ∨ seq = 1 ∧ 48 ≤ payload.length) := by
  have routed : ∀ {type : PacketType} {payload : Bytes} {seq : Nat}, seq ≤ maxSeq →
      payload.length ≤ usmpMaxPayload → data = frameBytes type payload seq →
      type.toNat = 1 ∧ IsFrame data := by
    intro type payload seq bound fits same
    subst same
    rcases isFrame_frameBytes type bound fits with ⟨frame, isType, _⟩
    rw [routedType_frame frame] at isHello
    exact ⟨isType.symm.trans (Option.some.inj isHello), frame⟩
  cases sent with
  | utack isUtack short => omega
  | hello payload seq isFrame fits cookie =>
      have bound : seq ≤ maxSeq := by
        rcases cookie with rfl | ⟨rfl, _⟩ <;> decide
      refine ⟨(routed bound fits isFrame).2, ?_, payload, seq, isFrame, fits, cookie⟩
      rw [isFrame]
      exact (isFrame_frameBytes .hello bound fits).2.1
  | helloAck payload isFrame fits challenged =>
      have impossible := (routed (by decide) fits isFrame).1
      cases impossible
  | session isSession hasEnded =>
      rcases isSessionDatagram_iff isSession with ⟨_, frame, type, member, isType⟩
      rw [routedType_frame frame] at isHello
      have isOne : type.toNat = 1 := isType.trans (Option.some.inj isHello)
      have notSession : ∀ type ∈ sessionTypes, type.toNat ≠ 1 := by decide
      exact absurd isOne (notSession type member)

/-- A new connection has accepted the HELLO that made it. -/
theorem serverOrder_fresh (P : Primitives) (setup : HandshakeSetup)
    {client : HandshakeEnd ClientHandshake} {data : Bytes} (sent : FromClient client data)
    (frame : IsFrame data) (isHello : typeOf data = 1) :
    ServerKeeps client ((freshInstance setup).feed P data).1
      ((freshInstance setup).feed P data).2 := by
  have isHandshake : isHandshakeType (typeOf data) = true := by rw [isHello]; rfl
  have new : (freshInstance setup).stream.seenBefore data = false := by
    rw [UDPStream.seenBefore, if_pos isHandshake, isHello]
    rfl
  have room : ¬ (freshInstance setup).stream.readBuffer.length + data.length > maxReadBuffer := by
    have size := frame.size
    have fits := frame.fits
    simp only [freshInstance, List.length_nil, usmpHeaderSize, usmpMaxPayload, maxReadBuffer] at *
    omega
  have fed := feedPacket_cases P (freshInstance setup).stream data
  simp only [HandshakeEnd.feed]
  generalize (freshInstance setup).stream.feedPacket P data = result at fed
  cases fed with
  | closed isClosed => cases isClosed
  | noAck utack =>
      rw [frame.notUtack] at utack
      cases utack
  | ack utack authentic isSeq isType => cases isSeq
  | garbage notUtack notFrame => exact absurd frame notFrame
  | old isOpen frame seen =>
      rw [new] at seen
      cases seen
  | full isOpen frame new noRoom => exact absurd noRoom room
  | buffered isOpen frame new room =>
      rw [UDPStream.noteType, if_pos isHandshake]
      constructor
      · have noArq : ∀ resend, (freshInstance setup).arq = some resend →
            FromServer client resend.data := by
          intro resend isArq
          cases isArq
        refine ⟨rfl, Nat.zero_le _, noArq, ?_, by exact List.nil_sublist _⟩
        intro _
        refine ⟨⟨[data], ?_⟩, rfl, fun type writes => by cases writes⟩
        have isAccepted : accepted { freshInstance setup with
            stream := { (freshInstance setup).stream with
              lastRxType := typeOf data
              readBuffer := (freshInstance setup).stream.readBuffer ++ data } } [data] = [1] := by
          rw [accepted, List.map_singleton, isHello]
          rfl
        refine ⟨⟨rfl, (List.append_nil data).symm, ?_⟩, ?_, ?_, ?_, ?_⟩
        · intro other member
          rw [List.mem_singleton.mp member]
          exact frame
        · intro other member
          rw [List.mem_singleton.mp member]
          exact sent
        · rw [isAccepted]
          decide
        · rw [isAccepted, isHello]
          intro type member _
          rw [List.mem_singleton.mp member]
        · intro _
          rw [isAccepted, isHello]
          exact ⟨List.mem_cons_self, rfl⟩
      · intro reply member
        rw [List.mem_singleton.mp member]
        exact .utack (isUtack_reply P _ data).1

/-! ## Every step keeps the order -/

theorem Ordered.later {net next : HandshakeNet} (ordered : Ordered setup net)
    (later : Later net.client next.client) :
    (∀ data ∈ net.toServer, FromClient next.client data) ∧
      (∀ data ∈ net.toClient, FromServer next.client data) ∧
      ∀ id self, net.Own setup id self → ServerOrder next.client self :=
  ⟨fun data member => (ordered.toServer data member).later later,
    fun data member => (ordered.toClient data member).later later,
    fun id self isOwn => (ordered.own id self isOwn).later later⟩

/-- A connection of the client's address acts, or is fed. -/
theorem Ordered.oneActs {net next : HandshakeNet} (ordered : Ordered setup net) {id : Nat}
    {before after : HandshakeEnd ServerHandshake} {out : List Bytes}
    (isOwn : net.Own setup id before) (client : next.client = net.client)
    (toServer : next.toServer ⊆ net.toServer) (toClient : next.toClient = net.toClient ++ out)
    (own : OwnExcept setup net next id after) (keeps : ServerKeeps next.client after out)
    (onwards : before.stream.lastRxType ≤ after.stream.lastRxType) :
    Ordered setup next ∧ Onwards setup net next := by
  have later : Later net.client next.client := client ▸ .refl _
  rcases ordered.later later with ⟨fromClient, fromServer, servers⟩
  refine ⟨⟨client ▸ ordered.client, fun data member => fromClient data (toServer member), ?_, ?_⟩,
    later, ?_⟩
  · intro other isMember
    rw [toClient] at isMember
    rcases List.mem_append.mp isMember with old | new
    · exact fromServer other old
    · exact keeps.2 other new
  · intro other self isSelf
    have known := (own other self).mp isSelf
    split at known
    · rw [known]
      exact keeps.1
    · exact servers other self known
  · intro other self isSelf
    by_cases same : other = id
    · subst same
      have isBefore : self = before := Option.some.inj (isSelf.2.symm.trans isOwn.2)
      subst isBefore
      exact ⟨after, (own other after).mpr (by rw [if_pos rfl]), onwards⟩
    · exact ⟨self, (own other self).mpr (by rw [if_neg same]; exact isSelf), Int.le_refl _⟩

theorem Ordered.move {H : Hazard} {net next : HandshakeNet} (ordered : Ordered setup net)
    (move : Move P X setup H net next) : Ordered setup next ∧ Onwards setup net next := by
  cases move with
  | quiet client toServer toClient kept own =>
      have later : Later net.client next.client := client ▸ .refl _
      rcases ordered.later later with ⟨fromClient, fromServer, servers⟩
      refine ⟨⟨client ▸ ordered.client, fun data member => fromClient data (toServer member),
        fun data member => fromServer data (toClient member),
        fun id self isOwn => servers id self ((own id self).mp isOwn)⟩, later, ?_⟩
      exact fun id self isOwn => ⟨self, (own id self).mpr isOwn, Int.le_refl _⟩
  | clientFed data member isOpen client toServer toClient kept own =>
      rcases ordered.client.fed (P := P) (ordered.toClient data member) with
        ⟨order, later, replies⟩
      rw [← client] at order later replies
      rcases ordered.later later with ⟨fromClient, fromServer, servers⟩
      refine ⟨⟨order, ?_, fun data member => fromServer data (toClient member),
        fun id self isOwn => servers id self ((own id self).mp isOwn)⟩, later, ?_⟩
      · intro other isMember
        rw [toServer] at isMember
        rcases List.mem_append.mp isMember with old | reply
        · exact fromClient other old
        · exact replies other reply
      · exact fun id self isOwn => ⟨self, (own id self).mpr isOwn, Int.le_refl _⟩
  | client out moved toServer toClient own =>
      rcases ordered.client.moved moved with ⟨order, later, sent⟩
      rcases ordered.later later with ⟨fromClient, fromServer, servers⟩
      refine ⟨⟨order, ?_, toClient ▸ fromServer,
        fun id self isOwn => servers id self ((own id self).mp isOwn)⟩, later, ?_⟩
      · intro other isMember
        rw [toServer] at isMember
        rcases List.mem_append.mp isMember with old | new
        · exact fromClient other old
        · exact sent other new
      · exact fun id self isOwn => ⟨self, (own id self).mpr isOwn, Int.le_refl _⟩
  | acts id before after out isOwn moved client toServer toClient own =>
      have order := (client ▸ ordered.own id before isOwn : ServerOrder next.client before)
      exact ordered.oneActs isOwn client toServer toClient own (order.moved moved)
        (Int.le_of_eq (InstanceMove.lastRxType_eq moved).symm)
  | serverFed id before data member isOwn others client toServer toClient own =>
      have order := (client ▸ ordered.own id before isOwn : ServerOrder next.client before)
      exact ordered.oneActs isOwn client toServer toClient own
        (order.fed (client ▸ ordered.toServer data member)) (lastRxType_feed order.isServer data)
  | made id data member isHello size new free makes client toServer toClient own =>
      have later : Later net.client next.client := client ▸ .refl _
      rcases ordered.later later with ⟨fromClient, fromServer, servers⟩
      have sentData := fromClient data member
      rcases isHello_of_routed sentData isHello (by omega) with ⟨frame, isType, _⟩
      rcases serverOrder_fresh P setup sentData frame isType with ⟨order, sent⟩
      refine ⟨⟨client ▸ ordered.client, fun data member => fromClient data (toServer member), ?_,
        ?_⟩, later, ?_⟩
      · intro other isMember
        rw [toClient] at isMember
        rcases List.mem_append.mp isMember with old | isNew
        · exact fromServer other old
        · exact sent other isNew
      · intro other self isSelf
        have known := (own other self).mp isSelf
        split at known
        · rw [known]
          exact order
        · exact servers other self known
      · intro other self isSelf
        have different : other ≠ id := by
          rintro rfl
          exact new self isSelf
        exact ⟨self, (own other self).mpr (by rw [if_neg different]; exact isSelf), Int.le_refl _⟩
  | answered data cookie member isHello size cookieSize client toServer toClient own =>
      have later : Later net.client next.client := client ▸ .refl _
      rcases ordered.later later with ⟨fromClient, fromServer, servers⟩
      refine ⟨⟨client ▸ ordered.client, fun data member => fromClient data (toServer member), ?_,
        fun id self isOwn => servers id self ((own id self).mp isOwn)⟩, later, ?_⟩
      · intro other isMember
        rw [toClient] at isMember
        rcases List.mem_append.mp isMember with old | isNew
        · exact fromServer other old
        · rcases List.mem_cons.mp isNew with utack | retry
          · rw [utack]
            exact .utack (isUtack_reply P (freshInstance setup).stream data).1
          · rw [List.mem_singleton.mp retry]
            exact .retry cookie rfl cookieSize
      · exact fun id self isOwn => ⟨self, (own id self).mpr isOwn, Int.le_refl _⟩

/-- What holds in every state that the network reaches. -/
structure Sound (setup : HandshakeSetup) (net : HandshakeNet) : Prop where
  linked : Linked setup net
  ordered : Ordered setup net

theorem Ordered.moves {H : Hazard} {net next : HandshakeNet} (ordered : Ordered setup net)
    (moves : Relation.ReflTransGen (Move P X setup H) net next) :
    Ordered setup next ∧ Onwards setup net next := by
  induction moves with
  | refl => exact ⟨ordered, .refl setup net⟩
  | tail _ move ih =>
      rcases ih.1.move move with ⟨kept, onwards⟩
      exact ⟨kept, ih.2.trans onwards⟩

theorem Sound.step {net next : HandshakeNet} {action : NetAction} (sound : Sound setup net)
    (stepped : net.step P X setup action = some next) :
    Sound setup next ∧ Onwards setup net next := by
  rcases step_moves sound.linked stepped with ⟨moves, linked⟩
  rcases sound.ordered.moves moves with ⟨ordered, onwards⟩
  exact ⟨⟨linked, ordered⟩, onwards⟩

theorem Sound.run {net final : HandshakeNet} {actions : List NetAction} (sound : Sound setup net)
    (reached : Machine.run (HandshakeNet.step P X setup) net actions = some final) :
    Sound setup final ∧ Onwards setup net final := by
  refine Machine.run_invariant' (fun state => Sound setup state ∧ Onwards setup net state) ?_
    ⟨sound, .refl setup net⟩ reached
  intro state action next holds stepped
  rcases holds.1.step stepped with ⟨kept, onwards⟩
  exact ⟨kept, holds.2.trans onwards⟩

theorem sound_initial (P : Primitives) (X : KeyExchange) (setup : HandshakeSetup)
    (psk deviceId : Bytes) (priv : PrivateKey) (failedHandshakes : FailedHandshakes) :
    Sound setup (initial P X psk deviceId priv failedHandshakes) := by
  have start : ClientOrder (initial P X psk deviceId priv failedHandshakes).client ∧
      ∀ data ∈ (initial P X psk deviceId priv failedHandshakes).toServer,
        FromClient (initial P X psk deviceId priv failedHandshakes).client data := by
    unfold initial
    dsimp only
    exact clientOrder_start P X psk deviceId priv _ rfl rfl rfl rfl rfl
  have noInstance : (initial P X psk deviceId priv failedHandshakes).instances = [] := rfl
  have noConnection : (initial P X psk deviceId priv failedHandshakes).server.connections = [] :=
    rfl
  have inFlight : (initial P X psk deviceId priv failedHandshakes).toClient = [] := rfl
  have server : (initial P X psk deviceId priv failedHandshakes).server = .new failedHandshakes :=
    rfl
  generalize initial P X psk deviceId priv failedHandshakes = net at *
  refine ⟨⟨?_, ?_, ?_, ?_⟩, start.1, start.2, ?_, ?_⟩
  · rw [server]
    exact .new setup.config failedHandshakes
  · rw [noInstance, noConnection]
    rfl
  · intro id connection isAt
    simp [noConnection] at isAt
  · intro id connection self isAt
    simp [noConnection] at isAt
  · simp [inFlight]
  · intro id self isOwn
    have isAt := isOwn.2
    simp [noInstance] at isAt

/-! ## Duplicates -/

/-- The stream that an action feeds a datagram: the client's, or that of a connection. -/
def feeds (P : Primitives) (setup : HandshakeSetup) (net : HandshakeNet) :
    NetAction → Option (Option Nat × Bytes)
  | .arrive index => (net.toClient[index]?).map fun data => (none, data)
  | .deliver index wall mono =>
      match net.toServer[index]? with
      | none => none
      | some data =>
          match (net.server.handleUdpDatagram P setup.config data setup.addr wall mono).2 with
          | [.feed id fed] => some (some id, fed)
          | _ => none
  | _ => none

/-- The datagram was answered with a UTACK for its type and number, and no stream changed. -/
def Answered (net next : HandshakeNet) (side : Option Nat) (data : Bytes) : Prop :=
  next.client = net.client ∧ next.instances = net.instances ∧
    ∃ reply, UDPStream.isUtack reply = true ∧ fieldAt reply 2 1 = typeOf data ∧
      fieldAt reply 3 4 = seqOf data ∧
      match side with
      | none => next.toServer = net.toServer ++ [reply]
      | some _ => next.toClient = net.toClient ++ [reply]

/-- A stream that has come to the type of a handshake frame. -/
def Seen (setup : HandshakeSetup) (net : HandshakeNet) (side : Option Nat) (data : Bytes) : Prop :=
  match side with
  | none => rankOf (typeOf data) ≤ net.client.stream.rank
  | some id => ∃ self, net.Own setup id self ∧ (typeOf data : Int) ≤ self.stream.lastRxType

theorem Seen.onwards {net next : HandshakeNet} {side : Option Nat} {data : Bytes}
    (seen : Seen setup net side data) (onwards : Onwards setup net next) :
    Seen setup next side data := by
  cases side with
  | none => exact Nat.le_trans seen onwards.client.rank
  | some id =>
      rcases seen with ⟨self, isOwn, above⟩
      rcases onwards.own id self isOwn with ⟨later, isLater, more⟩
      exact ⟨later, isLater, Int.le_trans above more⟩

theorem isDuplicateHandshake_iff {stream : UDPStream} (isServer : stream.isServer = true)
    {type : Nat} (isType : type = 1 ∨ type = 3) :
    stream.isDuplicateHandshake type = true ↔ (type : Int) ≤ stream.lastRxType := by
  constructor
  · intro duplicate
    by_contra above
    simp only [UDPStream.isDuplicateHandshake, isServer, Bool.true_and, Bool.or_eq_true,
      Bool.and_eq_true, decide_eq_true_eq] at duplicate
    omega
  · intro below
    by_contra new
    have above := isDuplicateHandshake_server isServer (Bool.eq_false_iff.mpr new)
    omega

/-- The entry of the client's address in the table of handshakes has an open stream. -/
theorem Linked.entry {net : HandshakeNet} (linked : Linked setup net) {id : Nat}
    (inTable : net.server.udpHandshakes.get? setup.addr = some id) :
    ∃ self, net.Own setup id self ∧ self.stream.closed = false := by
  rcases (linked.tables.handshakeTask _ _).mp inTable with
    ⟨connection, isConnection, _, isAddr, isStage⟩
  have isOwn : net.own setup id = true := by
    rw [own, isConnection]
    exact decide_eq_true isAddr
  have inside : id < net.instances.length := by
    rw [linked.size]
    exact (List.getElem?_eq_some_iff.mp isConnection).1
  have isSelf := List.getElem?_eq_getElem inside
  refine ⟨net.instances[id], ⟨isOwn, isSelf⟩, ?_⟩
  have link := linked.stages id connection _ isConnection isSelf
  rcases isStage with created | handshaking
  · rw [created] at link
    exact link.2
  · rw [handshaking] at link
    exact link

/-- A datagram is fed to a connection of the client's address. -/
theorem afterServer_feed {net : HandshakeNet} (linked : Linked setup net) {id : Nat}
    {self : HandshakeEnd ServerHandshake} (isOwn : net.Own setup id self) (data : Bytes) :
    net.afterServer P setup (net.server, [.feed id data]) =
      { net.setInstance id (self.feed P data).1 with
        toClient := net.toClient ++ (self.feed P data).2 } := by
  have noNew : net.instances ++ List.replicate
      (net.server.connections.length - net.instances.length) (freshInstance setup) =
        net.instances := by
    rw [linked.size, Nat.sub_self, List.replicate_zero, List.append_nil]
  simp only [afterServer, noNew, List.foldl_cons, List.foldl_nil, applyEffect, isOwn.2]
  rw [send_own (by rw [own_setInstance]; exact isOwn.1)]
  rfl

/-- The listener feeds a handshake frame of the client to a connection of its own. -/
theorem deliver_feeds {net next : HandshakeNet} (sound : Sound setup net) {index : Nat}
    {wall mono : Rat} (stepped : net.step P X setup (.deliver index wall mono) = some next)
    {side : Option Nat} {data : Bytes}
    (fed : net.feeds P setup (.deliver index wall mono) = some (side, data))
    (frame : IsFrame data) (isHandshake : isHandshakeType (typeOf data) = true) :
    ∃ id, side = some id ∧ FromClient net.client data ∧
      ((∃ self, net.Own setup id self ∧ self.stream.closed = false ∧
          next.client = net.client ∧ next.instances = net.instances.set id (self.feed P data).1 ∧
          next.Own setup id (self.feed P data).1 ∧
          next.toClient = net.toClient ++ (self.feed P data).2) ∨
        (∀ self, ¬ net.Own setup id self) ∧
          next.Own setup id ((freshInstance setup).feed P data).1) := by
  simp only [feeds] at fed
  simp only [step] at stepped
  split at fed
  · cases fed
  rename_i found isAt
  rw [isAt] at stepped
  dsimp only at stepped
  have sent := sound.ordered.toServer found (List.mem_of_getElem? isAt)
  rw [serverStep_toServer] at stepped
  rcases Option.map_eq_some_iff.mp stepped with ⟨after, performed, rfl⟩
  have isAfter : net.afterServer P setup
      (net.server.handleUdpDatagram P setup.config found setup.addr wall mono) = after :=
    Option.some.inj performed
  have linked := sound.linked
  have routed := Server.handleUdpDatagram_routed P setup.config net.server found setup.addr
    wall mono
  revert fed isAfter
  generalize net.server.handleUdpDatagram P setup.config found setup.addr wall mono = result
    at routed
  intro fed isAfter
  cases routed with
  | dropped limiter => cases fed
  | answered limiter isHello free size => cases fed
  | fed id entry =>
      cases fed
      refine ⟨id, rfl, sent, .inl ?_⟩
      have inTable : net.server.udpHandshakes.get? setup.addr = some id := by
        rcases entry with inTable | ⟨_, _, isSession⟩
        · exact inTable
        · have atLeast := isSession _ (routedType_frame frame)
          rcases sent.frame frame with ⟨types, _⟩ | ⟨notHandshake, _⟩
          · omega
          · rw [isHandshake] at notHandshake
            cases notHandshake
      rcases linked.entry inTable with ⟨self, isOwn, isOpen⟩
      rw [afterServer_feed linked isOwn] at isAfter
      subst isAfter
      exact ⟨self, isOwn, isOpen, rfl, rfl,
        (ownExcept_setInstance isOwn _ id _).mpr (by rw [if_pos rfl]), rfl⟩
  | started isHello free starts =>
      cases fed
      refine ⟨net.server.connections.length, rfl, sent, .inr ⟨?_, ?_⟩⟩
      · intro self isSelf
        have inside := (List.getElem?_eq_some_iff.mp isSelf.2).1
        rw [linked.size] at inside
        exact Nat.lt_irrefl _ inside
      · rw [afterServer_allocate linked] at isAfter
        subst isAfter
        exact (own_withConnection linked rfl _).1

/-- The client is fed what has arrived. -/
theorem arrive_feeds {net next : HandshakeNet} (sound : Sound setup net) {index : Nat}
    (stepped : net.step P X setup (.arrive index) = some next) {side : Option Nat} {data : Bytes}
    (fed : net.feeds P setup (.arrive index) = some (side, data)) :
    side = none ∧ FromServer net.client data ∧ net.client.stream.closed = false ∧
      next.client = (net.client.feed P data).1 ∧ next.instances = net.instances ∧
      next.toServer = net.toServer ++ (net.client.feed P data).2 := by
  rcases Option.map_eq_some_iff.mp fed with ⟨found, isAt, same⟩
  cases same
  simp only [step, isAt] at stepped
  rcases Option.map_eq_some_iff.mp stepped with ⟨result, acted, rfl⟩
  dsimp only at acted
  split at acted <;> cases acted
  rename_i isOpen
  exact ⟨rfl, sound.ordered.toClient data (List.mem_of_getElem? isAt),
    Bool.eq_false_iff.mpr isOpen, rfl, rfl, rfl⟩

theorem handshakeType_of_server {client : HandshakeEnd ClientHandshake} {data : Bytes}
    (sent : FromServer client data) (frame : IsFrame data)
    (isHandshake : isHandshakeType (typeOf data) = true) : typeOf data ∈ [10, 2, 4] := by
  rcases sent.frame frame with ⟨types, _⟩ | ⟨isSession, _⟩
  · rcases types with ⟨is, _⟩ | ⟨is, _⟩ | ⟨is, _⟩ <;> simp [is]
  · rw [isSession] at isHandshake
    cases isHandshake

theorem handshakeType_of_client {client : HandshakeEnd ClientHandshake} {data : Bytes}
    (sent : FromClient client data) (frame : IsFrame data)
    (isHandshake : isHandshakeType (typeOf data) = true) : typeOf data = 1 ∨ typeOf data = 3 := by
  rcases sent.frame frame with ⟨types, _⟩ | ⟨isSession, _⟩
  · rcases types with is | ⟨is, _⟩
    · exact .inl is
    · exact .inr is
  · rw [isSession] at isHandshake
    cases isHandshake

/-- A server's stream that was fed a handshake frame has come to its type. -/
theorem seen_feed {self : HandshakeEnd ServerHandshake} (isServer : self.stream.isServer = true)
    (isOpen : self.stream.closed = false) {data : Bytes} (frame : IsFrame data)
    (isType : typeOf data = 1 ∨ typeOf data = 3) :
    (typeOf data : Int) ≤ (self.feed P data).1.stream.lastRxType := by
  have isHandshake : isHandshakeType (typeOf data) = true := by
    rcases isType with is | is <;> rw [is] <;> rfl
  rcases feedPacket_handshake P isOpen frame isHandshake with ⟨duplicate, same⟩ | noted
  · simp only [HandshakeEnd.feed, same]
    exact (isDuplicateHandshake_iff isServer isType).mp duplicate
  · exact Int.le_of_eq noted.symm

/-- A stream that is fed a handshake frame has come to its type. -/
theorem seen_of_feeds {net next : HandshakeNet} (sound : Sound setup net) {action : NetAction}
    (stepped : net.step P X setup action = some next) {side : Option Nat} {data : Bytes}
    (fed : net.feeds P setup action = some (side, data)) (frame : IsFrame data)
    (isHandshake : isHandshakeType (typeOf data) = true) : Seen setup next side data := by
  cases action with
  | arrive index =>
      rcases arrive_feeds sound stepped fed with ⟨rfl, sent, isOpen, client, _⟩
      have isType := handshakeType_of_server sent frame isHandshake
      have order := sound.ordered.client
      simp only [Seen, client]
      rcases feedPacket_handshake P isOpen frame isHandshake with ⟨duplicate, same⟩ | noted
      · simp only [HandshakeEnd.feed, same]
        exact (isDuplicateHandshake_client order.isClient order.lastRxType isType).mp duplicate
      · exact Nat.le_of_eq (congrArg rankOf noted.symm)
  | deliver index wall mono =>
      rcases deliver_feeds sound stepped fed frame isHandshake with
        ⟨id, rfl, sent, ⟨self, isOwn, isOpen, _, _, isNext, _⟩ | ⟨_, isNext⟩⟩
      · exact ⟨_, isNext, seen_feed (sound.ordered.own id self isOwn).isServer isOpen frame
          (handshakeType_of_client sent frame isHandshake)⟩
      · exact ⟨_, isNext, seen_feed rfl rfl frame (handshakeType_of_client sent frame isHandshake)⟩
  | _ => cases fed

/-- A stream answers what it has come to. -/
theorem answered_of_seen {net next : HandshakeNet} (sound : Sound setup net) {action : NetAction}
    (stepped : net.step P X setup action = some next) {side : Option Nat} {data : Bytes}
    (fed : net.feeds P setup action = some (side, data)) (frame : IsFrame data)
    (isHandshake : isHandshakeType (typeOf data) = true) (seen : Seen setup net side data) :
    Answered net next side data := by
  have reply := fun stream => isUtack_reply P stream data
  have seenBefore : ∀ {stream : UDPStream}, stream.isDuplicateHandshake (typeOf data) = true →
      stream.seenBefore data = true := by
    intro stream duplicate
    rw [UDPStream.seenBefore, if_pos isHandshake]
    exact duplicate
  cases action with
  | arrive index =>
      rcases arrive_feeds sound stepped fed with
        ⟨rfl, sent, isOpen, client, instances, toServer⟩
      have isType := handshakeType_of_server sent frame isHandshake
      have order := sound.ordered.client
      have duplicate :=
        (isDuplicateHandshake_client order.isClient order.lastRxType isType).mpr seen
      have answer := feedPacket_seen P isOpen frame (seenBefore duplicate)
      simp only [HandshakeEnd.feed, answer] at client toServer
      exact ⟨client, instances, _, (reply _).1, (reply _).2.1, (reply _).2.2, toServer⟩
  | deliver index wall mono =>
      rcases deliver_feeds sound stepped fed frame isHandshake with
        ⟨id, rfl, sent, ⟨self, isOwn, isOpen, client, instances, _, toClient⟩ | ⟨new, _⟩⟩
      · rcases seen with ⟨found, isFound, above⟩
        cases isOwn.2.symm.trans isFound.2
        have isType := handshakeType_of_client sent frame isHandshake
        have duplicate :=
          (isDuplicateHandshake_iff (sound.ordered.own id self isOwn).isServer isType).mpr above
        have answer := feedPacket_seen P isOpen frame (seenBefore duplicate)
        simp only [HandshakeEnd.feed, answer] at instances toClient
        refine ⟨client, ?_, _, (reply _).1, (reply _).2.1, (reply _).2.2, toClient⟩
        rcases List.getElem?_eq_some_iff.mp isOwn.2 with ⟨inside, isSelf⟩
        rw [instances, ← isSelf]
        exact List.set_getElem_self inside
      · rcases seen with ⟨found, isFound, _⟩
        exact absurd isFound (new found)
  | _ => cases fed

/-! ## The handshake messages of a run -/

/-- The handshake messages that were handed over, as messages. -/
theorem handed_sublist {self : HandshakeEnd ServerHandshake}
    (inOrder : (handshakesHanded self).Sublist [1, 3]) :
    (self.handed.filter fun type => isHandshakeType type.toNat).Sublist [.hello, .helloAck] := by
  have codes : handshakesHanded self =
      (self.handed.filter fun type => isHandshakeType type.toNat).map PacketType.toNat := by
    rw [handshakesHanded, List.filter_map]
    rfl
  have image : [1, 3] = [PacketType.hello, .helloAck].map PacketType.toNat := rfl
  rw [codes, image] at inOrder
  rcases List.sublist_map_iff.mp inOrder with ⟨types, isSublist, same⟩
  have injective : Function.Injective PacketType.toNat := fun _ _ => PacketType.toNat_injective
  rw [injective.list_map same]
  exact isSublist

/-- In every run over a network that loses, duplicates, delays and reorders datagrams, the
client's stream hands over HELLO_RETRY, CHALLENGE and SESSION_OK at most once each and in this
order, and every stream of a connection hands over HELLO and HELLO_ACK so.  A handshake frame of
a type that the stream was fed before is answered with a UTACK for its own type and number and
changes no stream.  The client's handshake fails with no HandshakeError but the one that says
that its connection was closed: no frame has an unexpected type or a bad length. -/
theorem handshake_sequence (P : Primitives) (X : KeyExchange) (setup : HandshakeSetup)
    (psk deviceId : Bytes) (priv : PrivateKey) (failedHandshakes : FailedHandshakes)
    (actions : List NetAction) (net : HandshakeNet)
    (reached : Machine.run (step P X setup)
      (initial P X psk deviceId priv failedHandshakes) actions = some net) :
    net.client.handed.Sublist [.helloRetry, .challenge, .sessionOk] ∧
      (∀ id self, net.Own setup id self →
        (self.handed.filter fun type => isHandshakeType type.toNat).Sublist [.hello, .helloAck]) ∧
      (∀ first next between later again last side data copy,
        net.step P X setup first = some next →
        Machine.run (step P X setup) next between = some later →
        later.step P X setup again = some last →
        net.feeds P setup first = some (side, data) →
        later.feeds P setup again = some (side, copy) →
        IsFrame data → IsFrame copy → isHandshakeType (typeOf data) = true →
        typeOf copy = typeOf data → Answered later last side copy) ∧
      ∀ exn, net.client.run.stage = .raised exn → exn.cls = .handshakeError →
        exn.message ∈ closedTexts := by
  have sound := ((sound_initial P X setup psk deviceId priv failedHandshakes).run reached).1
  refine ⟨?_, ?_, ?_, ?_⟩
  · cases isOver : net.client.run.hasEnded with
    | true => exact (sound.ordered.client.done isOver).handed
    | false =>
        have active := sound.ordered.client.active isOver
        exact (ClientStage.handed_sublist active.hasRead).1
  · exact fun id self isOwn => handed_sublist (sound.ordered.own id self isOwn).handed
  · intro first next between later again last side data copy stepped continued repeated fed fedAgain
      frame copyFrame isHandshake sameType
    have seen := seen_of_feeds sound stepped fed frame isHandshake
    rcases (sound.step stepped).1.run continued with ⟨soundLater, onwards⟩
    have seenLater := seen.onwards onwards
    have seenCopy : Seen setup later side copy := by
      unfold Seen at seenLater ⊢
      rw [sameType]
      exact seenLater
    exact answered_of_seen soundLater repeated fedAgain copyFrame (sameType ▸ isHandshake) seenCopy
  · intro exn raised
    have isOver : net.client.run.hasEnded = true := by simp [ClientHandshake.hasEnded, raised]
    exact (sound.ordered.client.done isOver).exn exn raised

def sampleChallenge : Bytes :=
  frameBytes .challenge (sampleNonce.1 ++ (sampleKeyExchange.publicKey (samplePrivate 2)).1) 0

/-- The CHALLENGE comes twice, before and after the client has read it. -/
theorem handshake_sequence_sampleOpening :
    ∃ net next later last,
      Machine.run sampleStep sampleInitial (sampleOpening ++ [.duplicateToClient 0]) = some net ∧
      sampleStep net (.arrive 0) = some next ∧
      Machine.run sampleStep next [.clientResume] = some later ∧
      sampleStep later (.arrive 0) = some last ∧
      net.client.handed.Sublist [.helloRetry, .challenge, .sessionOk] ∧
      Answered later last none sampleChallenge := by
  rcases Machine.exists_run sampleStep sampleInitial (sampleOpening ++ [.duplicateToClient 0])
    (fun net => net.feeds samplePrimitives sampleSetup (.arrive 0) = some (none, sampleChallenge) ∧
      ((sampleStep net (.arrive 0)).any fun next =>
        (Machine.run sampleStep next [.clientResume]).any fun later =>
          later.feeds samplePrimitives sampleSetup (.arrive 0) = some (none, sampleChallenge) ∧
            (sampleStep later (.arrive 0)).isSome) = true)
    (by decide +kernel) with ⟨net, reached, fed, evaluates⟩
  rcases (Option.any_eq_true _ _).mp evaluates with ⟨next, stepped, evaluates⟩
  rcases (Option.any_eq_true _ _).mp evaluates with ⟨later, continued, evaluates⟩
  rcases of_decide_eq_true evaluates with ⟨fedAgain, isLast⟩
  rcases Option.isSome_iff_exists.mp isLast with ⟨last, repeated⟩
  have frame : IsFrame sampleChallenge := (isFrame_iff _).mp (by decide)
  rcases handshake_sequence samplePrimitives sampleKeyExchange sampleSetup samplePsk
    sampleDeviceId.1 (samplePrivate 1) {} _ net reached with ⟨inOrder, _, duplicates, _⟩
  exact ⟨net, next, later, last, reached, stepped, continued, repeated, inOrder,
    duplicates (.arrive 0) next [.clientResume] later (.arrive 0) last none sampleChallenge
      sampleChallenge stepped continued repeated fed fedAgain frame frame (by decide) rfl⟩

end HandshakeNet

end Usmp
