import Usmp.Handshake.EndSteps
import Usmp.Handshake.Net

/-!
# What a step of the network is for the handshake of one client

Whatever the server does for others, its steps are for one client's handshake a few kinds of
moves: datagrams disappear or multiply, the client acts, a connection of the client's address
acts or is made, or the listener answers a HELLO.
-/

namespace Usmp

def ClientHandshake.hasEnded (run : ClientHandshake) : Bool :=
  match run.stage with
  | .returned _ | .raised _ => true
  | .writingHello | .readingChallenge | .writingRetry | .readingChallengeAgain
  | .writingHelloAck _ | .readingSessionOk _ => false

/-! ## Moves -/

/-- A step of one end of the server that takes nothing from the network. -/
inductive InstanceMove (P : Primitives) (X : KeyExchange) (setup : HandshakeSetup)
    (self : HandshakeEnd ServerHandshake) :
    HandshakeEnd ServerHandshake → List Bytes → Prop where
  | started (lockedOut : Option String) (created : self.run.stage = .created) :
      InstanceMove P X setup self { self with run := .start setup.psk lockedOut } []
  | resumed (entropy : Entropy) {result : HandshakeEnd ServerHandshake × List Bytes}
      (stepped : self.resume (serverCoroutine P X entropy) = some result) :
      InstanceMove P X setup self result.1 result.2
  | resolved (outcome : Except Exn (Option Bytes)) (entropy : Entropy)
      {result : ServerHandshake × List HandshakeCall}
      (stepped : self.run.resolved X outcome entropy = some result) :
      InstanceMove P X setup self (self.goOn (serverCoroutine P X entropy) result).1
        (self.goOn (serverCoroutine P X entropy) result).2
  | acked {after : HandshakeEnd ServerHandshake}
      (stepped : self.acked (serverCoroutine P X default) = some after) :
      InstanceMove P X setup self after []
  | timeout {result : HandshakeEnd ServerHandshake × List Bytes}
      (stepped : self.timeout (serverCoroutine P X default) = some result) :
      InstanceMove P X setup self result.1 result.2
  | aborted : InstanceMove P X setup self (HandshakeNet.abortServer self) []
  | served (info : SessionInfo) (returned : self.run.stage = .returned info)
      (stream : UDPStream) (sent : List Bytes) (served : servedStream self.stream stream = true)
      (session : sent.all isSessionDatagram = true) :
      InstanceMove P X setup self (self.serve stream) sent
  | closed : InstanceMove P X setup self self.close []

/-- A step of the client that takes nothing from the network. -/
inductive ClientMove (P : Primitives) (X : KeyExchange) (self : HandshakeEnd ClientHandshake) :
    HandshakeEnd ClientHandshake → List Bytes → Prop where
  | resumed {result : HandshakeEnd ClientHandshake × List Bytes}
      (stepped : self.resume (clientCoroutine P X) = some result) :
      ClientMove P X self result.1 result.2
  | acked {after : HandshakeEnd ClientHandshake}
      (stepped : self.acked (clientCoroutine P X) = some after) : ClientMove P X self after []
  | timeout {result : HandshakeEnd ClientHandshake × List Bytes}
      (stepped : self.timeout (clientCoroutine P X) = some result) :
      ClientMove P X self result.1 result.2
  | aborted {after : HandshakeEnd ClientHandshake}
      (stepped : HandshakeNet.abortClient self = some after) : ClientMove P X self after []
  | closed : ClientMove P X self self.close []
  | served (info : SessionInfo) (returned : self.run.stage = .returned info)
      (stream : UDPStream) (sent : List Bytes) (served : servedStream self.stream stream = true)
      (session : sent.all isSessionDatagram = true) :
      ClientMove P X self (self.serve stream) sent

namespace HandshakeNet

variable (P : Primitives) (X : KeyExchange) (setup : HandshakeSetup)

/-- A connection from the client's address, with its stream and handshake. -/
def Own (net : HandshakeNet) (id : Nat) (self : HandshakeEnd ServerHandshake) : Prop :=
  net.own setup id = true ∧ net.instances[id]? = some self

/-- The connections from the client's address are the same, but for one. -/
def OwnExcept (net next : HandshakeNet) (id : Nat) (after : HandshakeEnd ServerHandshake) :
    Prop :=
  ∀ other self, next.Own setup other self ↔
    if other = id then self = after else net.Own setup other self

def SameOwn (net next : HandshakeNet) : Prop :=
  ∀ id self, next.Own setup id self ↔ net.Own setup id self

/-- What a step of the network may do to the handshake: which datagrams to the client it may
lose, and in which state a HELLO may make a connection. -/
structure Hazard where
  loses : Bytes → Prop
  makes : HandshakeNet → Prop

/-- One move, of a step that may do so much. -/
inductive Move (hazard : Hazard) (net next : HandshakeNet) : Prop where
  | quiet (client : next.client = net.client) (toServer : next.toServer ⊆ net.toServer)
      (toClient : next.toClient ⊆ net.toClient)
      (kept : ∀ data ∈ net.toClient, data ∈ next.toClient ∨ hazard.loses data)
      (own : SameOwn setup net next)
  | clientFed (data : Bytes) (member : data ∈ net.toClient)
      (isOpen : net.client.stream.closed = false)
      (client : next.client = (net.client.feed P data).1)
      (toServer : next.toServer = net.toServer ++ (net.client.feed P data).2)
      (toClient : next.toClient ⊆ net.toClient)
      (kept : ∀ other ∈ net.toClient, other ∈ next.toClient ∨ other = data)
      (own : SameOwn setup net next)
  | client (out : List Bytes) (move : ClientMove P X net.client next.client out)
      (toServer : next.toServer = net.toServer ++ out) (toClient : next.toClient = net.toClient)
      (own : SameOwn setup net next)
  | acts (id : Nat) (before after : HandshakeEnd ServerHandshake) (out : List Bytes)
      (isOwn : net.Own setup id before)
      (move : InstanceMove P X setup before after out)
      (client : next.client = net.client) (toServer : next.toServer ⊆ net.toServer)
      (toClient : next.toClient = net.toClient ++ out)
      (own : OwnExcept setup net next id after)
  | serverFed (id : Nat) (before : HandshakeEnd ServerHandshake) (data : Bytes)
      (member : data ∈ net.toServer) (isOwn : net.Own setup id before)
      (others : ∀ other self, net.Own setup other self → other ≠ id → self.run.hasEnded = true)
      (client : next.client = net.client) (toServer : next.toServer ⊆ net.toServer)
      (toClient : next.toClient = net.toClient ++ (before.feed P data).2)
      (own : OwnExcept setup net next id (before.feed P data).1)
  | made (id : Nat) (data : Bytes) (member : data ∈ net.toServer)
      (isHello : Server.routedType data = some 1) (size : data.length = 66)
      (new : ∀ self, ¬ net.Own setup id self)
      (free : ∀ other self, net.Own setup other self → self.run.hasEnded = true)
      (makes : hazard.makes net) (client : next.client = net.client)
      (toServer : next.toServer ⊆ net.toServer)
      (toClient : next.toClient = net.toClient ++ ((freshInstance setup).feed P data).2)
      (own : OwnExcept setup net next id ((freshInstance setup).feed P data).1)
  | answered (data cookie : Bytes) (member : data ∈ net.toServer)
      (isHello : Server.routedType data = some 1) (size : data.length = 50)
      (cookieSize : cookie.length = 16) (client : next.client = net.client)
      (toServer : next.toServer ⊆ net.toServer)
      (toClient : next.toClient = net.toClient ++
        [utackHeader (fieldAt data 3 1) (fieldAt data 4 4), frameBytes .helloRetry cookie 0])
      (own : SameOwn setup net next)

/-! ## The link between tasks and handshakes -/

/-- What the stage of a connection task says of its handshake and its stream. -/
def StageLink (stage : Stage) (self : HandshakeEnd ServerHandshake) : Prop :=
  match stage with
  | .created => self.run.stage = .created ∧ self.stream.closed = false
  | .handshaking => self.stream.closed = false
  | .serving => ∃ info, self.run.stage = .returned info
  | .unwatching | .closing | .finished => self.run.hasEnded = true

structure Linked (net : HandshakeNet) : Prop where
  tables : Server.UdpTables setup.config net.server
  size : net.instances.length = net.server.connections.length
  unreliable : ∀ (id : Nat) (connection : Connection),
    net.server.connections[id]? = some connection → connection.isReliable = false
  stages : ∀ (id : Nat) (connection : Connection) (self : HandshakeEnd ServerHandshake),
    net.server.connections[id]? = some connection →
    net.instances[id]? = some self → StageLink connection.stage self

variable {P : Primitives} {X : KeyExchange} {setup : HandshakeSetup}

/-! ## What an end keeps -/

theorem feed_frame {Run : Type} (self : HandshakeEnd Run) (data : Bytes) :
    (self.feed P data).1.run = self.run ∧
      (self.feed P data).1.stream.closed = self.stream.closed ∧
      (self.feed P data).1.arq = self.arq ∧ (self.feed P data).1.pending = self.pending ∧
      (self.feed P data).1.handed = self.handed := by
  simp only [HandshakeEnd.feed]
  have closed : (self.stream.feedPacket P data).1.closed = self.stream.closed := by
    have outcome := feedPacket_cases P self.stream data
    generalize self.stream.feedPacket P data = result at outcome
    cases outcome with
    | full | buffered =>
        simp only [UDPStream.noteType]
        split <;> rfl
    | closed | noAck | ack | garbage | old => rfl
  exact ⟨trivial, closed, trivial, trivial, trivial⟩

theorem goOn_input {Run : Type} (C : Coroutine Run) (self : HandshakeEnd Run)
    (taken : Run × List HandshakeCall) : SameInput self.stream (self.goOn C taken).1.stream := by
  have performed := HandshakeEnd.goOn_cases C self taken
  generalize self.goOn C taken = result at performed ⊢
  cases performed with
  | quiet stream same | failed stream same | sent stream same => exact same

/-- A read takes from the buffer and leaves the rest of the receiving side alone. -/
theorem resume_input {Run : Type} {C : Coroutine Run} {self : HandshakeEnd Run}
    {result : HandshakeEnd Run × List Bytes} (stepped : self.resume C = some result) :
    result.1.stream.closed = self.stream.closed ∧
      result.1.stream.lastRxType = self.stream.lastRxType := by
  unfold HandshakeEnd.resume at stepped
  split at stepped
  · split at stepped
    · rcases Option.map_eq_some_iff.mp stepped with ⟨taken, _, rfl⟩
      exact ⟨(goOn_input C _ taken).closed, (goOn_input C _ taken).lastRxType⟩
    · split at stepped
      · rcases Option.map_eq_some_iff.mp stepped with ⟨taken, _, rfl⟩
        exact ⟨(goOn_input C _ taken).closed, (goOn_input C _ taken).lastRxType⟩
      · cases stepped
        exact ⟨rfl, rfl⟩
  · cases stepped

theorem acked_cases {Run : Type} {C : Coroutine Run} {self after : HandshakeEnd Run}
    (stepped : self.acked C = some after) :
    ∃ run, C.wrote self.run none = some run ∧ self.stream.ackReceived = true ∧
      self.arq.isSome = true ∧ after = { self with run, arq := none } := by
  unfold HandshakeEnd.acked at stepped
  split at stepped
  · cases stepped
  rename_i resend isArq
  split at stepped
  · rename_i received
    rcases Option.map_eq_some_iff.mp stepped with ⟨run, wrote, rfl⟩
    exact ⟨run, wrote, received, by rw [isArq]; rfl, rfl⟩
  · cases stepped

theorem timeout_cases {Run : Type} {C : Coroutine Run} {self : HandshakeEnd Run}
    {result : HandshakeEnd Run × List Bytes} (stepped : self.timeout C = some result) :
    (∃ resend, self.arq = some resend ∧
      result = ({ self with arq := some { resend with attempt := resend.attempt + 1 } },
        [resend.data])) ∨
    ∃ run, C.wrote self.run (some ⟨.osError, "UDP transmission failed"⟩) = some run ∧
      result = ({ self with run, arq := none }, []) := by
  unfold HandshakeEnd.timeout at stepped
  split at stepped
  · cases stepped
  rename_i resend isArq
  split at stepped
  · cases stepped
    exact .inl ⟨resend, isArq, rfl⟩
  · rcases Option.map_eq_some_iff.mp stepped with ⟨run, wrote, rfl⟩
    exact .inr ⟨run, wrote, rfl⟩

/-- A handshake that has not begun, or that is over, is not resumed. -/
theorem not_resumed {run : ServerHandshake} (idle : run.stage = .created ∨ run.hasEnded = true) :
    run.reading = false ∧ (∀ failure, run.wrote P X failure = none) ∧
      ∀ outcome entropy, run.resolved X outcome entropy = none := by
  unfold ServerHandshake.reading ServerHandshake.wrote ServerHandshake.resolved
  cases isStage : run.stage with
  | created | returned info | raised exn => simp
  | readingHello | resolving deviceId pubC | writingChallenge hello
  | readingHelloAck hello keys | writingSessionOk locals =>
      rcases idle with created | hasEnded
      · rw [isStage] at created
        cases created
      · simp [ServerHandshake.hasEnded, isStage] at hasEnded

theorem StageLink.idle {stage : Stage} {self : HandshakeEnd ServerHandshake}
    (link : StageLink stage self) :
    stage = .handshaking ∨ self.run.stage = .created ∨ self.run.hasEnded = true := by
  cases stage with
  | created => exact .inr (.inl link.1)
  | handshaking => exact .inl rfl
  | serving =>
      rcases link with ⟨info, returned⟩
      exact .inr (.inr (by simp [ServerHandshake.hasEnded, returned]))
  | unwatching | closing | finished => exact .inr (.inr link)

theorem StageLink.congr {stage : Stage} {self after : HandshakeEnd ServerHandshake}
    (link : StageLink stage self) (closed : after.stream.closed = self.stream.closed)
    (run : stage ≠ .handshaking → after.run = self.run) : StageLink stage after := by
  cases stage with
  | created => exact ⟨by rw [run (by decide)]; exact link.1, closed.trans link.2⟩
  | handshaking => exact closed.trans link
  | serving =>
      rcases link with ⟨info, returned⟩
      exact ⟨info, by rw [run (by decide)]; exact returned⟩
  | unwatching | closing | finished =>
      have same := run (by decide)
      simp only [StageLink, same]
      exact link

/-- A coroutine that is not in its handshake stays as it is. -/
theorem StageLink.stuck {stage : Stage} {self : HandshakeEnd ServerHandshake}
    (link : StageLink stage self) (other : stage ≠ .handshaking) :
    self.run.reading = false ∧ (∀ failure, self.run.wrote P X failure = none) ∧
      ∀ outcome entropy, self.run.resolved X outcome entropy = none :=
  not_resumed (link.idle.resolve_left other)

theorem StageLink.fed {stage : Stage} {self : HandshakeEnd ServerHandshake}
    (link : StageLink stage self) (data : Bytes) : StageLink stage (self.feed P data).1 :=
  link.congr (feed_frame self data).2.1 fun _ => (feed_frame self data).1

theorem StageLink.resumed {stage : Stage} {self : HandshakeEnd ServerHandshake}
    {entropy : Entropy} {result : HandshakeEnd ServerHandshake × List Bytes}
    (link : StageLink stage self)
    (stepped : self.resume (serverCoroutine P X entropy) = some result) :
    StageLink stage result.1 := by
  apply link.congr (resume_input stepped).1
  intro other
  have notReading := (link.stuck (P := P) (X := X) other).1
  simp [HandshakeEnd.resume, serverCoroutine, notReading] at stepped

theorem StageLink.resolved {stage : Stage} {self : HandshakeEnd ServerHandshake}
    {entropy : Entropy} {outcome : Except Exn (Option Bytes)}
    {result : ServerHandshake × List HandshakeCall} (link : StageLink stage self)
    (stepped : self.run.resolved X outcome entropy = some result) :
    StageLink stage (self.goOn (serverCoroutine P X entropy) result).1 := by
  apply link.congr (goOn_input _ _ _).closed
  intro other
  rw [(link.stuck (P := P) (X := X) other).2.2] at stepped
  cases stepped

theorem StageLink.acked {stage : Stage} {self after : HandshakeEnd ServerHandshake}
    (link : StageLink stage self)
    (stepped : self.acked (serverCoroutine P X default) = some after) :
    StageLink stage after := by
  rcases acked_cases stepped with ⟨run, wrote, _, _, rfl⟩
  refine link.congr rfl fun other => ?_
  cases ((link.stuck (P := P) (X := X) other).2.1 none).symm.trans wrote

theorem StageLink.timeout {stage : Stage} {self : HandshakeEnd ServerHandshake}
    {result : HandshakeEnd ServerHandshake × List Bytes} (link : StageLink stage self)
    (stepped : self.timeout (serverCoroutine P X default) = some result) :
    StageLink stage result.1 := by
  rcases timeout_cases stepped with ⟨resend, _, rfl⟩ | ⟨run, wrote, rfl⟩
  · exact link.congr rfl fun _ => rfl
  · refine link.congr rfl fun other => ?_
    cases ((link.stuck (P := P) (X := X) other).2.1 _).symm.trans wrote

theorem over_abortServer (self : HandshakeEnd ServerHandshake) :
    (abortServer self).run.hasEnded = true ∧
      (abortServer self).stream = self.stream ∧
      (self.run.hasEnded = true → abortServer self = self) := by
  unfold abortServer ServerHandshake.hasEnded
  cases isStage : self.run.stage <;>
    simp [isStage, HandshakeEnd.abort, ServerHandshake.goto]

theorem StageLink.aborted {stage : Stage} {self : HandshakeEnd ServerHandshake}
    (link : StageLink stage self) (notCreated : stage ≠ .created) :
    StageLink stage (abortServer self) := by
  rcases over_abortServer self with ⟨hasEnded, stream, same⟩
  cases stage with
  | created => exact absurd rfl notCreated
  | handshaking => exact (congrArg UDPStream.closed stream).trans link
  | serving =>
      rcases link with ⟨info, returned⟩
      rw [same (by simp [ServerHandshake.hasEnded, returned])]
      exact ⟨info, returned⟩
  | unwatching | closing | finished => exact hasEnded

end HandshakeNet

end Usmp
