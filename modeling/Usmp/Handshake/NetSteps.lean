import Mathlib.Logic.Relation
import Usmp.Handshake.NetMoves
import Usmp.Server.Tasks

/-!
# Every step of the network is a few moves
-/

namespace Usmp.HandshakeNet

variable {P : Primitives} {X : KeyExchange} {setup : HandshakeSetup}

/-! ## Changes of one instance -/

theorem own_setInstance (net : HandshakeNet) (id other : Nat)
    (after : HandshakeEnd ServerHandshake) :
    (net.setInstance id after).own setup other = net.own setup other := rfl

theorem instances_setInstance (net : HandshakeNet) (id other : Nat)
    (after : HandshakeEnd ServerHandshake) :
    (net.setInstance id after).instances[other]? =
      if id = other then if id < net.instances.length then some after else none
      else net.instances[other]? := by
  rw [setInstance, List.getElem?_set]

theorem ownExcept_setInstance {net : HandshakeNet} {id : Nat}
    {before : HandshakeEnd ServerHandshake} (isOwn : net.Own setup id before)
    (after : HandshakeEnd ServerHandshake) :
    OwnExcept setup net (net.setInstance id after) id after := by
  have inside := (List.getElem?_eq_some_iff.mp isOwn.2).1
  intro other self
  rw [Own, own_setInstance, instances_setInstance]
  by_cases same : other = id
  · subst same
    rw [if_pos rfl, if_pos inside, if_pos rfl, isOwn.1, Option.some.injEq, eq_self, true_and]
    exact eq_comm
  · rw [if_neg (Ne.symm same), if_neg same, Own]

theorem sameOwn_setInstance {net : HandshakeNet} {id : Nat} (other : net.own setup id = false)
    (after : HandshakeEnd ServerHandshake) : SameOwn setup net (net.setInstance id after) := by
  intro found self
  rw [Own, own_setInstance, instances_setInstance]
  by_cases same : found = id
  · subst same
    simp [Own, other]
  · rw [if_neg (Ne.symm same), Own]

theorem Linked.setInstance {net : HandshakeNet} (linked : Linked setup net) {id : Nat}
    {after : HandshakeEnd ServerHandshake}
    (link : ∀ connection, net.server.connections[id]? = some connection →
      StageLink connection.stage after) : Linked setup (net.setInstance id after) where
  tables := linked.tables
  size := by
    rw [HandshakeNet.setInstance, List.length_set]
    exact linked.size
  unreliable := linked.unreliable
  stages := by
    intro other connection self isAt isSelf
    by_cases same : other = id
    · subst same
      rw [instances_setInstance, if_pos rfl] at isSelf
      split at isSelf <;> cases isSelf
      exact link connection isAt
    · rw [instances_setInstance, if_neg (Ne.symm same)] at isSelf
      exact linked.stages other connection self isAt isSelf

theorem Linked.inFlight {net : HandshakeNet} (linked : Linked setup net)
    (client : HandshakeEnd ClientHandshake) (toServer toClient : List Bytes) :
    Linked setup { net with client, toServer, toClient } :=
  ⟨linked.tables, linked.size, linked.unreliable, linked.stages⟩

theorem send_own {net : HandshakeNet} {id : Nat} (isOwn : net.own setup id = true)
    (sent : List Bytes) :
    net.send setup id sent = { net with toClient := net.toClient ++ sent } := by
  rw [send, if_pos isOwn]

theorem send_other {net : HandshakeNet} {id : Nat} (other : net.own setup id = false)
    (sent : List Bytes) : net.send setup id sent = net := by
  rw [send, if_neg (by rw [other]; decide)]

theorem send_nil (net : HandshakeNet) (id : Nat) : net.send setup id [] = net := by
  simp [send]

theorem Linked.send {net : HandshakeNet} (linked : Linked setup net) (id : Nat)
    (sent : List Bytes) : Linked setup (net.send setup id sent) := by
  unfold HandshakeNet.send
  split
  · exact linked.inFlight _ _ _
  · exact linked

/-- An end of the client's address acts. -/
theorem own_moves {net : HandshakeNet} {H : Hazard} {id : Nat}
    {self after : HandshakeEnd ServerHandshake} {out : List Bytes}
    (isOwn : net.Own setup id self)
    (move : InstanceMove P X setup self after out) :
    Move P X setup H net ((net.setInstance id after).send setup id out) := by
  rw [send_own (by rw [own_setInstance]; exact isOwn.1)]
  exact .acts id self after out isOwn move rfl (List.Subset.refl _) rfl
    (ownExcept_setInstance isOwn after)

/-- An end of the client's address is fed. -/
theorem fed_moves {net : HandshakeNet} {H : Hazard} {id : Nat}
    {self : HandshakeEnd ServerHandshake} {data : Bytes} (isOwn : net.Own setup id self)
    (member : data ∈ net.toServer)
    (others : ∀ other found, net.Own setup other found → other ≠ id →
      found.run.hasEnded = true) :
    Move P X setup H net
      ((net.setInstance id (self.feed P data).1).send setup id (self.feed P data).2) := by
  rw [send_own (by rw [own_setInstance]; exact isOwn.1)]
  exact .serverFed id self data member isOwn others rfl (List.Subset.refl _) rfl
    (ownExcept_setInstance isOwn _)

/-- What an end of another address does is nothing to the client. -/
theorem other_moves {net : HandshakeNet} {H : Hazard} {id : Nat}
    (other : net.own setup id = false) (after : HandshakeEnd ServerHandshake)
    (out : List Bytes) :
    Move P X setup H net ((net.setInstance id after).send setup id out) := by
  rw [send_other (by rw [own_setInstance]; exact other)]
  exact .quiet rfl (List.Subset.refl _) (List.Subset.refl _) (fun _ => .inl)
    (sameOwn_setInstance other after)

theorem instance_moves {net : HandshakeNet} {H : Hazard} {id : Nat}
    {self after : HandshakeEnd ServerHandshake} {out : List Bytes}
    (isAt : net.instances[id]? = some self)
    (move : InstanceMove P X setup self after out) :
    Move P X setup H net ((net.setInstance id after).send setup id out) := by
  cases isOwn : net.own setup id with
  | true => exact own_moves ⟨isOwn, isAt⟩ move
  | false => exact other_moves isOwn after out

/-! ## Steps of the server -/

theorem StageLink.closable {stage : Stage} {self : HandshakeEnd ServerHandshake}
    (link : StageLink stage self) (past : stage ≠ .created ∧ stage ≠ .handshaking) :
    StageLink stage self.close := by
  cases stage with
  | created => exact absurd rfl past.1
  | handshaking => exact absurd rfl past.2
  | serving | unwatching | closing | finished => exact link

/-- The transports that a task closes are past their handshakes. -/
theorem closes_moves {H : Hazard} (effects : List ServerEffect) {net : HandshakeNet}
    (linked : Linked setup net)
    (closes : ∀ effect ∈ effects, ∃ other, effect = .close other ∧
      ∀ connection, net.server.connections[other]? = some connection →
        connection.stage ≠ .created ∧ connection.stage ≠ .handshaking) :
    Relation.ReflTransGen (Move P X setup H) net (effects.foldl (applyEffect P setup) net) ∧
      Linked setup (effects.foldl (applyEffect P setup) net) := by
  induction effects generalizing net with
  | nil => exact ⟨.refl, linked⟩
  | cons effect rest ih =>
      rcases closes effect List.mem_cons_self with ⟨other, rfl, past⟩
      rw [List.foldl_cons]
      cases isAt : net.instances[other]? with
      | none =>
          simp only [applyEffect, isAt]
          exact ih linked fun effect member => closes effect (List.mem_cons_of_mem _ member)
      | some self =>
          simp only [applyEffect, isAt]
          have move : Move P X setup H net (net.setInstance other self.close) := by
            have moved := instance_moves (H := H) isAt
              (.closed : InstanceMove P X setup self self.close [])
            rw [send_nil] at moved
            exact moved
          have next : Linked setup (net.setInstance other self.close) :=
            linked.setInstance fun connection isConnection =>
              (linked.stages other connection self isConnection isAt).closable
                (past connection isConnection)
          rcases ih next fun effect member =>
            closes effect (List.mem_cons_of_mem _ member) with ⟨moves, last⟩
          exact ⟨.head move moves, last⟩

/-- What a task's next stage needs to be true of its handshake. -/
theorem TaskStep.link {server : Server} {id : Nat} {result : Server × List ServerEffect}
    {connection : Connection} {stage : Stage}
    (stepped : Server.TaskStep server id result connection stage)
    {self : HandshakeEnd ServerHandshake} (link : StageLink connection.stage self)
    (serves : stage = .serving → ∃ info, self.run.stage = .returned info)
    (leaves : connection.stage = .handshaking → stage ≠ .serving → self.run.hasEnded = true) :
    StageLink stage self := by
  have onward := stepped.onward
  generalize isBefore : connection.stage = before at onward link leaves
  cases onward with
  | starts => exact link.2
  | serves => exact serves rfl
  | leaves left cleaning =>
      have hasEnded : self.run.hasEnded = true := by
        rcases link.idle with handshaking | created | hasEnded
        · apply leaves handshaking
          rcases cleaning with rfl | rfl | rfl <;> decide
        · cases before with
          | created => exact absurd rfl left
          | handshaking =>
              apply leaves rfl
              rcases cleaning with rfl | rfl | rfl <;> decide
          | serving =>
              rcases link with ⟨info, returned⟩
              rw [created] at returned
              cases returned
          | unwatching | closing | finished => exact link
        · exact hasEnded
      rcases cleaning with rfl | rfl | rfl <;> exact hasEnded

theorem own_modify {net : HandshakeNet} {server : Server} {id : Nat} {stage : Stage}
    (connections : server.connections =
      net.server.connections.modify id fun connection => { connection with stage })
    (other : Nat) : own setup { net with server } other = net.own setup other := by
  simp only [own, connections, List.getElem?_modify]
  cases isAt : net.server.connections[other]? with
  | none => rfl
  | some connection => by_cases same : id = other <;> simp [same]

/-- A step of a connection task. -/
theorem task_moves {H : Hazard} {net next : HandshakeNet} {action : ServerAction}
    {id : Nat} (linked : Linked setup net)
    (stepped : net.serverStep P setup action = some next) (isTask : action.task = some id)
    (serves : action.establishes = true → ∀ self, net.instances[id]? = some self →
      ∃ info, self.run.stage = .returned info)
    (leaves : ∀ connection self, net.server.connections[id]? = some connection →
      net.instances[id]? = some self → connection.stage = .handshaking → self.run.hasEnded = true) :
    Relation.ReflTransGen (Move P X setup H) net next ∧ Linked setup next := by
  rcases Option.map_eq_some_iff.mp stepped with ⟨result, performed, rfl⟩
  have unreliable := fun connection => linked.unreliable id connection
  rcases Server.taskStep_of_perform performed isTask unreliable with
    ⟨connection, stage, establishes, task⟩
  have tables : Server.UdpTables setup.config result.1 :=
    linked.tables.change (Server.change_of_step (Server.step_of_perform performed))
  have same : net.instances ++ List.replicate
      (result.1.connections.length - net.instances.length) (freshInstance setup) =
        net.instances := by
    rw [task.connections, List.length_modify, linked.size, Nat.sub_self, List.replicate_zero,
      List.append_nil]
  rw [afterServer, same]
  have isAt : ∀ {other found}, result.1.connections[other]? = some found →
      ∃ before, net.server.connections[other]? = some before ∧
        (other = id ∧ before = connection ∧ found = { connection with stage } ∨
          other ≠ id ∧ found = before) := by
    intro other found isFound
    rw [task.connections] at isFound
    by_cases isId : other = id
    · subst isId
      rw [List.getElem?_modify_eq, task.isAt] at isFound
      cases isFound
      exact ⟨connection, task.isAt, .inl ⟨rfl, rfl, rfl⟩⟩
    · rw [List.getElem?_modify_ne _ _ (Ne.symm isId)] at isFound
      exact ⟨found, isFound, .inr ⟨isId, rfl⟩⟩
  have middle : Linked setup { net with server := result.1 } := by
    refine ⟨tables, ?_, ?_, ?_⟩
    · rw [task.connections, List.length_modify]
      exact linked.size
    · intro other found isFound
      rcases isAt isFound with ⟨before, isBefore, ⟨_, rfl, rfl⟩ | ⟨_, rfl⟩⟩
      · exact linked.unreliable other before isBefore
      · exact linked.unreliable other found isBefore
    · intro other found self isFound isSelf
      rcases isAt isFound with ⟨before, isBefore, ⟨rfl, rfl, rfl⟩ | ⟨_, rfl⟩⟩
      · have link := linked.stages other before self isBefore isSelf
        refine TaskStep.link task link ?_ ?_
        · intro serving
          exact serves (establishes serving) self isSelf
        · intro handshaking _
          exact leaves before self isBefore isSelf handshaking
      · exact linked.stages other found self isBefore isSelf
  have quiet : Move P X setup H net { net with server := result.1 } := by
    refine .quiet rfl (List.Subset.refl _) (List.Subset.refl _) (fun _ => .inl) ?_
    intro other self
    rw [Own, own_modify task.connections, Own]
  have closes : ∀ effect ∈ result.2, ∃ other, effect = .close other ∧
      ∀ found, result.1.connections[other]? = some found →
        found.stage ≠ .created ∧ found.stage ≠ .handshaking := by
    intro effect member
    rcases task.closes effect member with ⟨other, rfl, own | session⟩
    · refine ⟨other, rfl, ?_⟩
      intro found isFound
      rcases isAt isFound with ⟨before, _, ⟨_, _, rfl⟩ | ⟨different, _⟩⟩
      · exact own.2
      · exact absurd own.1 different
    · refine ⟨other, rfl, ?_⟩
      rcases linked.tables.sessionTask _ _ session with ⟨holder, isHolder, _, _, serving⟩
      intro found isFound
      rcases isAt isFound with ⟨before, isBefore, ⟨rfl, rfl, rfl⟩ | ⟨_, rfl⟩⟩
      · rw [isHolder] at isBefore
        cases isBefore
        have onward := task.onward
        rw [serving] at onward
        cases onward with
        | leaves left cleaning =>
            rcases cleaning with rfl | rfl | rfl <;> exact ⟨nofun, nofun⟩
      · rw [isHolder] at isBefore
        cases isBefore
        rw [serving]
        decide
  rcases closes_moves (P := P) (X := X) (H := H) result.2 middle closes with ⟨moves, last⟩
  exact ⟨.head quiet moves, last⟩

/-- Nothing that the server does looks at what is in flight to it. -/
theorem serverStep_toServer (net : HandshakeNet) (action : ServerAction) (toServer : List Bytes) :
    { net with toServer }.serverStep P setup action =
      (net.serverStep P setup action).map fun next => { next with toServer } := by
  have effects : ∀ (list : List ServerEffect) (start : HandshakeNet),
      list.foldl (applyEffect P setup) { start with toServer } =
        { list.foldl (applyEffect P setup) start with toServer } := by
    intro list
    induction list with
    | nil => intro start; rfl
    | cons effect rest ih =>
        intro start
        have one : applyEffect P setup { start with toServer } effect =
            { applyEffect P setup start effect with toServer } := by
          cases effect with
          | sendto addr data =>
              simp only [applyEffect]
              split <;> rfl
          | feed id data =>
              simp only [applyEffect]
              split
              · rfl
              · simp only [send]
                split <;> split <;> first | rfl | contradiction
          | close id =>
              simp only [applyEffect]
              split <;> rfl
        rw [List.foldl_cons, List.foldl_cons, one, ih]
  unfold serverStep
  cases net.server.perform P setup.config action with
  | none => rfl
  | some result =>
      apply congrArg some
      exact effects result.2 { net with
        server := result.1
        instances := net.instances ++ List.replicate
          (result.1.connections.length - net.instances.length) (freshInstance setup) }

theorem getElem?_concat_ne {α : Type} (list : List α) (value : α) {index : Nat}
    (other : index ≠ list.length) : (list ++ [value])[index]? = list[index]? := by
  rcases Nat.lt_or_gt_of_ne other with inside | outside
  · exact List.getElem?_append_left inside
  · rw [List.getElem?_eq_none (by simp; omega), List.getElem?_eq_none (by omega)]

/-- A new connection and its stream, with the first datagram fed to it. -/
def withConnection (P : Primitives) (setup : HandshakeSetup) (net : HandshakeNet)
    (server : Server) (data : Bytes) : HandshakeNet :=
  let id := net.server.connections.length
  let self := freshInstance setup
  ({ net with
      server
      instances := net.instances ++ [self] }.setInstance id (self.feed P data).1).send setup id
    (self.feed P data).2

theorem afterServer_allocate {net : HandshakeNet} (linked : Linked setup net) (data : Bytes)
    (addr : Addr) : net.afterServer P setup (net.server.allocateHandshake data addr) =
      net.withConnection P setup (net.server.allocateHandshake data addr).1 data := by
  have one : (net.server.allocateHandshake data addr).1.connections.length -
      net.instances.length = 1 := by
    simp [Server.allocateHandshake, linked.size]
  have isFresh : (net.instances ++ [freshInstance setup])[net.server.connections.length]? =
      some (freshInstance setup) := by
    rw [← linked.size, List.getElem?_concat_length]
  simp only [afterServer, one, List.replicate_one]
  simp only [Server.allocateHandshake, List.foldl_cons, List.foldl_nil, applyEffect, isFresh]
  rfl

/-- The new connection of the client's address. -/
theorem own_withConnection {net : HandshakeNet} (linked : Linked setup net) {server : Server}
    (connections : server.connections =
      net.server.connections ++ [{ addr := setup.addr, isReliable := false }]) (data : Bytes) :
    (net.withConnection P setup server data).Own setup net.server.connections.length
        ((freshInstance setup).feed P data).1 ∧
      (net.withConnection P setup server data).toClient =
        net.toClient ++ ((freshInstance setup).feed P data).2 := by
  have isLast : own setup { net with server, instances := net.instances ++ [freshInstance setup] }
      net.server.connections.length = true := by
    rw [own, connections, List.getElem?_concat_length]
    exact decide_eq_true rfl
  have isFresh : (net.instances ++ [freshInstance setup])[net.server.connections.length]? =
      some (freshInstance setup) := by
    rw [← linked.size, List.getElem?_concat_length]
  unfold withConnection
  rw [send_own (by rw [own_setInstance]; exact isLast)]
  exact ⟨(ownExcept_setInstance ⟨isLast, isFresh⟩ _ _ _).mpr (by rw [if_pos rfl]), rfl⟩

/-- A connection that is not in the handshake table has ended its handshake. -/
theorem Linked.over_of_absent {net : HandshakeNet} (linked : Linked setup net) {id : Nat}
    (absent : net.server.udpHandshakes.get? setup.addr ≠ some id)
    {self : HandshakeEnd ServerHandshake} (isOwn : net.Own setup id self) :
    self.run.hasEnded = true := by
  have isAddr := isOwn.1
  unfold own at isAddr
  split at isAddr
  · rename_i connection isAt
    have link := linked.stages id connection self isAt isOwn.2
    have notInHandshake : ¬ net.server.InHandshake setup.addr id := by
      rw [← linked.tables.handshakeTask]
      exact absent
    generalize isStage : connection.stage = stage at link
    cases stage with
    | created | handshaking =>
        refine absurd ⟨connection, isAt, linked.unreliable id connection isAt,
          of_decide_eq_true isAddr, ?_⟩ notInHandshake
        simp [isStage]
    | serving =>
        rcases link with ⟨info, returned⟩
        simp [ServerHandshake.hasEnded, returned]
    | unwatching | closing | finished => exact link
  · cases isAddr

theorem connection_moves {H : Hazard} {net : HandshakeNet} (linked : Linked setup net)
    {server : Server} {addr : Addr} (tables : Server.UdpTables setup.config server)
    (connections : server.connections =
      net.server.connections ++ [{ addr, isReliable := false }])
    (free : net.server.udpHandshakes.get? addr = none) {data : Bytes}
    (member : addr = setup.addr → data ∈ net.toServer)
    (isHello : Server.routedType data = some 1) (size : data.length = 66)
    (makes : addr = setup.addr → H.makes net) :
    Move P X setup H net (net.withConnection P setup server data) ∧
      Linked setup (net.withConnection P setup server data) := by
  have isLast : server.connections[net.server.connections.length]? =
      some { addr, isReliable := false } := by
    rw [connections, List.getElem?_concat_length]
  have isFresh : (net.instances ++ [freshInstance setup])[net.server.connections.length]? =
      some (freshInstance setup) := by
    rw [← linked.size, List.getElem?_concat_length]
  have others : ∀ id, id ≠ net.server.connections.length → ∀ self,
      Own setup { net with server, instances := net.instances ++ [freshInstance setup] } id self ↔
        net.Own setup id self := by
    intro id different self
    simp only [Own, own, connections, getElem?_concat_ne _ _ different,
      getElem?_concat_ne _ _ (linked.size ▸ different)]
  have frame := feed_frame (P := P) (freshInstance setup) data
  constructor
  · unfold withConnection
    cases isOwn : own setup { net with server, instances := net.instances ++ [freshInstance setup] }
        net.server.connections.length with
    | true =>
        have source : addr = setup.addr := by
          rw [own, isLast] at isOwn
          exact of_decide_eq_true isOwn
        rw [send_own (by rw [own_setInstance]; exact isOwn)]
        refine .made net.server.connections.length data (member source) isHello size ?_ ?_
          (makes source) rfl (List.Subset.refl _) rfl ?_
        · intro self isSelf
          have inside := (List.getElem?_eq_some_iff.mp isSelf.2).1
          rw [linked.size] at inside
          exact Nat.lt_irrefl _ inside
        · intro other self isSelf
          apply linked.over_of_absent ?_ isSelf
          rw [← source, free]
          exact nofun
        · intro other self
          refine (ownExcept_setInstance ⟨isOwn, isFresh⟩ _ other self).trans ?_
          by_cases last : other = net.server.connections.length
          · rw [if_pos last, if_pos last]
          · rw [if_neg last, if_neg last]
            exact others other last self
    | false =>
        rw [send_other (by rw [own_setInstance]; exact isOwn)]
        refine .quiet rfl (List.Subset.refl _) (List.Subset.refl _) (fun _ => .inl) ?_
        intro other self
        refine (sameOwn_setInstance isOwn _ other self).trans ?_
        by_cases last : other = net.server.connections.length
        · subst last
          constructor
          · intro isSelf
            rw [isSelf.1] at isOwn
            cases isOwn
          · intro isSelf
            have inside := (List.getElem?_eq_some_iff.mp isSelf.2).1
            rw [linked.size] at inside
            exact absurd inside (Nat.lt_irrefl _)
        · exact others other last self
  · refine Linked.send (Linked.setInstance ⟨tables, ?_, ?_, ?_⟩ ?_) _ _
    · rw [connections, List.length_append, List.length_append, linked.size]
      rfl
    · intro id connection isAt
      by_cases last : id = net.server.connections.length
      · subst last
        cases isLast.symm.trans isAt
        rfl
      · rw [connections, getElem?_concat_ne _ _ last] at isAt
        exact linked.unreliable id connection isAt
    · intro id connection self isAt isSelf
      by_cases last : id = net.server.connections.length
      · subst last
        cases isLast.symm.trans isAt
        cases isFresh.symm.trans isSelf
        exact ⟨rfl, rfl⟩
      · rw [connections, getElem?_concat_ne _ _ last] at isAt
        rw [getElem?_concat_ne _ _ (linked.size ▸ last)] at isSelf
        exact linked.stages id connection self isAt isSelf
    · intro connection isAt
      cases isLast.symm.trans isAt
      exact ⟨by rw [frame.1]; rfl, frame.2.1⟩

/-- The datagram is a HELLO that starts a handshake of the client's address. -/
def Starts (P : Primitives) (setup : HandshakeSetup) (net : HandshakeNet) (data : Bytes)
    (wall mono : Rat) : Prop :=
  Server.routedType data = some 1 ∧ net.server.udpHandshakes.get? setup.addr = none ∧
    net.server.startsHandshake P setup.config data setup.addr wall mono = true

/-- The listener receives a datagram. -/
theorem datagram_moves {H : Hazard} {net : HandshakeNet} (linked : Linked setup net)
    (data : Bytes) (addr : Addr) (wall mono : Rat)
    (member : addr = setup.addr → data ∈ net.toServer)
    (makes : addr = setup.addr → net.Starts P setup data wall mono → H.makes net) :
    ∃ next, net.serverStep P setup (.datagram data addr wall mono) = some next ∧
      Relation.ReflTransGen (Move P X setup H) net next ∧ Linked setup next := by
  refine ⟨_, rfl, ?_⟩
  have tables : Server.UdpTables setup.config
      (net.server.handleUdpDatagram P setup.config data addr wall mono).1 :=
    linked.tables.change (Server.change_of_step
      (show net.server.step P setup.config (.datagram data addr wall mono) = _ from rfl))
  have routed := Server.handleUdpDatagram_routed P setup.config net.server data addr
    wall mono
  revert tables routed
  generalize net.server.handleUdpDatagram P setup.config data addr wall mono = result
  intro tables routed
  have noNew : net.instances ++ List.replicate
      (net.server.connections.length - net.instances.length) (freshInstance setup) =
        net.instances := by
    rw [linked.size, Nat.sub_self, List.replicate_zero, List.append_nil]
  have limited : ∀ limiter, Linked setup
      { net with server := { net.server with udpCookieRateLimiter := limiter } } := by
    intro limiter
    refine ⟨?_, linked.size, linked.unreliable, linked.stages⟩
    exact linked.tables.congr rfl rfl rfl (fun _ _ => .rfl) fun _ _ inSession => inSession
  cases routed with
  | fed id entry =>
      have isAddr : ∃ connection, net.server.connections[id]? = some connection ∧
          connection.addr = addr := by
        rcases entry with found | ⟨_, found, _⟩
        · rcases (linked.tables.handshakeTask _ _).mp found with ⟨connection, isAt, _, same, _⟩
          exact ⟨connection, isAt, same⟩
        · rcases linked.tables.sessionTask _ _ found with ⟨connection, isAt, _, same, _⟩
          exact ⟨connection, isAt, same⟩
      rcases isAddr with ⟨connection, isConnection, same⟩
      simp only [afterServer, noNew, List.foldl_cons, List.foldl_nil, applyEffect]
      cases isAt : net.instances[id]? with
      | none => exact ⟨.refl, linked⟩
      | some self =>
          have link : ∀ found, net.server.connections[id]? = some found →
              StageLink found.stage (self.feed P data).1 := by
            intro found isFound
            have frame := feed_frame (P := P) self data
            exact (linked.stages id found self isFound isAt).congr frame.2.1 fun _ => frame.1
          refine ⟨.single ?_, (linked.setInstance link).send _ _⟩
          cases isOwn : net.own setup id with
          | true =>
              have source : addr = setup.addr := by
                rw [own, isConnection] at isOwn
                exact same.symm.trans (of_decide_eq_true isOwn)
              apply fed_moves ⟨isOwn, isAt⟩ (member source)
              intro other found isFound different
              apply linked.over_of_absent ?_ isFound
              rw [← source]
              rcases entry with inTable | ⟨free, _⟩
              · rw [inTable]
                exact fun same => different (Option.some.inj same).symm
              · rw [free]
                exact nofun
          | false => exact other_moves isOwn _ _
  | started isHello free starts =>
      have size : data.length = 66 := by
        simp only [Server.startsHandshake, Bool.and_eq_true, decide_eq_true_eq] at starts
        exact starts.1.1
      have made := connection_moves (P := P) (X := X) (H := H) linked tables rfl free member
        isHello size fun source => makes source ⟨isHello, source ▸ free, source ▸ starts⟩
      rw [afterServer_allocate linked]
      exact ⟨.single made.1, made.2⟩
  | answered limiter isHello free size =>
      simp only [afterServer, noNew, List.foldl_cons, List.foldl_nil, applyEffect]
      split
      · rename_i source
        refine ⟨.single ?_, (limited limiter).inFlight _ _ _⟩
        refine .answered data (issueCookie P setup.config.cookieSecret addr wall)
          (member source) isHello size (length_issueCookie _ _ _ _) rfl (List.Subset.refl _) ?_
          fun _ _ => .rfl
        simp
      · exact ⟨.single (.quiet rfl (List.Subset.refl _) (List.Subset.refl _) (fun _ => .inl)
          fun _ _ => .rfl), limited limiter⟩
  | dropped limiter =>
      simp only [afterServer, noNew, List.foldl_nil]
      exact ⟨.single (.quiet rfl (List.Subset.refl _) (List.Subset.refl _) (fun _ => .inl)
        fun _ _ => .rfl), limited limiter⟩

/-! ## Steps of the network -/

/-- What an action may do to the handshake of the client: it loses a datagram to the client, or
it delivers a HELLO that makes a connection. -/
def hazard (P : Primitives) (setup : HandshakeSetup) (net : HandshakeNet) (action : NetAction) :
    Hazard where
  loses data := ∃ index, action = .loseToClient index ∧ net.toClient[index]? = some data
  makes state := state = net ∧ ∃ index wall mono data, action = .deliver index wall mono ∧
    net.toServer[index]? = some data ∧ net.Starts P setup data wall mono

theorem mem_eraseIdx_or {α : Type} {list : List α} {index : Nat} {value : α}
    (isAt : list[index]? = some value) {other : α} (member : other ∈ list) :
    other ∈ list.eraseIdx index ∨ other = value := by
  rcases List.mem_iff_getElem?.mp member with ⟨place, isPlace⟩
  by_cases same : place = index
  · subst same
    rw [isAt] at isPlace
    exact .inr (Option.some.inj isPlace).symm
  · exact .inl (List.mem_eraseIdx_iff_getElem?.mpr ⟨place, same, isPlace⟩)

theorem quiet_move {H : Hazard} (net : HandshakeNet) {toServer toClient : List Bytes}
    (toServerSubset : toServer ⊆ net.toServer) (toClientSubset : toClient ⊆ net.toClient)
    (kept : ∀ data ∈ net.toClient, data ∈ toClient ∨ H.loses data) :
    Move P X setup H net { net with toServer, toClient } :=
  .quiet rfl toServerSubset toClientSubset kept fun _ _ => .rfl

theorem instanceStep_moves {H : Hazard} {net next : HandshakeNet} {id : Nat}
    {act : HandshakeEnd ServerHandshake → Option (HandshakeEnd ServerHandshake × List Bytes)}
    (linked : Linked setup net) (stepped : net.instanceStep setup id act = some next)
    (moves : ∀ self result, net.instances[id]? = some self → act self = some result →
      InstanceMove P X setup self result.1 result.2 ∧
        ∀ connection, net.server.connections[id]? = some connection →
          StageLink connection.stage result.1) :
    Relation.ReflTransGen (Move P X setup H) net next ∧ Linked setup next := by
  unfold instanceStep at stepped
  split at stepped
  · cases stepped
  rename_i self isAt
  rcases Option.map_eq_some_iff.mp stepped with ⟨result, acted, rfl⟩
  rcases moves self result isAt acted with ⟨move, link⟩
  exact ⟨.single (instance_moves isAt move), (linked.setInstance link).send _ _⟩

/-- A coroutine, or its stream, goes on by itself. -/
theorem coroutine_moves {H : Hazard} {net next : HandshakeNet} {id : Nat}
    {act : HandshakeEnd ServerHandshake → Option (HandshakeEnd ServerHandshake × List Bytes)}
    (linked : Linked setup net) (stepped : net.instanceStep setup id act = some next)
    (moves : ∀ self result, act self = some result →
      InstanceMove P X setup self result.1 result.2 ∧
        ∀ stage, StageLink stage self → StageLink stage result.1) :
    Relation.ReflTransGen (Move P X setup H) net next ∧ Linked setup next :=
  instanceStep_moves linked stepped fun self result isAt acted =>
    ⟨(moves self result acted).1, fun connection isConnection =>
      (moves self result acted).2 _ (linked.stages id connection self isConnection isAt)⟩

theorem client_moves {H : Hazard} {net next : HandshakeNet}
    {act : HandshakeEnd ClientHandshake → Option (HandshakeEnd ClientHandshake × List Bytes)}
    (linked : Linked setup net) (stepped : net.clientStep act = some next)
    (moves : ∀ result, act net.client = some result →
      ClientMove P X net.client result.1 result.2) :
    Relation.ReflTransGen (Move P X setup H) net next ∧ Linked setup next := by
  rcases Option.map_eq_some_iff.mp stepped with ⟨result, acted, rfl⟩
  exact ⟨.single (.client result.2 (moves result acted) rfl rfl fun _ _ => .rfl),
    linked.inFlight _ _ _⟩

/-- The connection whose task moves is not one that has not started. -/
theorem stage_of_cancel {net next : HandshakeNet} {id : Nat}
    (stepped : net.serverStep P setup (.cancel id) = some next) (connection : Connection)
    (isAt : net.server.connections[id]? = some connection) : connection.stage ≠ .created := by
  rcases Option.map_eq_some_iff.mp stepped with ⟨result, performed, _⟩
  intro created
  simp [Server.perform, isAt, Server.cancelTask, created] at performed

/-- A connection whose handshake is over leaves, or serves. -/
theorem established_moves {H : Hazard} {net next : HandshakeNet} {id : Nat}
    {outcome : HandshakeOutcome} {now : Rat} (linked : Linked setup net)
    (stepped : net.serverStep P setup (.handshakeEnds id outcome now) = some next)
    (hasEnded : ∀ self, net.instances[id]? = some self → self.run.hasEnded = true)
    (returned : outcome = .established → ∀ self, net.instances[id]? = some self →
      ∃ info, self.run.stage = .returned info) :
    Relation.ReflTransGen (Move P X setup H) net next ∧ Linked setup next := by
  refine task_moves linked stepped rfl ?_ fun _ self _ isSelf _ => hasEnded self isSelf
  intro establishes
  apply returned
  cases outcome with
  | established => rfl
  | lockedOut | failed exn | timedOut => cases establishes

theorem finish_moves {H : Hazard} {net next : HandshakeNet} {id : Nat} {now : Rat}
    (linked : Linked setup net) (stepped : net.finishHandshake P setup id now = some next) :
    Relation.ReflTransGen (Move P X setup H) net next ∧ Linked setup next := by
  unfold finishHandshake at stepped
  split at stepped
  · cases stepped
  rename_i self isAt
  split at stepped
  · rename_i info returned
    refine established_moves linked stepped ?_ fun _ => ?_
    · intro found isFound
      cases isAt.symm.trans isFound
      simp [ServerHandshake.hasEnded, returned]
    · intro found isFound
      cases isAt.symm.trans isFound
      exact ⟨info, returned⟩
  · rename_i exn raised
    refine established_moves linked stepped ?_ (by simp)
    intro found isFound
    cases isAt.symm.trans isFound
    simp [ServerHandshake.hasEnded, raised]
  all_goals cases stepped

/-- A handshake is broken off, and its task goes on. -/
theorem aborted_moves {H : Hazard} {net next : HandshakeNet} {id : Nat}
    {self : HandshakeEnd ServerHandshake} {action : ServerAction} (linked : Linked setup net)
    (isAt : net.instances[id]? = some self)
    (stepped : (net.setInstance id (abortServer self)).serverStep P setup action = some next)
    (isTask : action.task = some id) (leaves : action.establishes = false)
    (begun : ∀ connection, net.server.connections[id]? = some connection →
      connection.stage ≠ .created) :
    Relation.ReflTransGen (Move P X setup H) net next ∧ Linked setup next := by
  have middle : Linked setup (net.setInstance id (abortServer self)) :=
    linked.setInstance fun connection isConnection =>
      (linked.stages id connection self isConnection isAt).aborted (begun connection isConnection)
  have move : Move P X setup H net (net.setInstance id (abortServer self)) := by
    have moved := instance_moves (H := H) isAt
      (.aborted : InstanceMove P X setup self (abortServer self) [])
    rw [send_nil] at moved
    exact moved
  have rest := task_moves (X := X) (H := H) middle stepped isTask
    (by rw [leaves]; exact nofun) ?_
  · exact ⟨.head move rest.1, rest.2⟩
  · intro connection found _ isFound _
    rw [instances_setInstance, if_pos rfl, if_pos (List.getElem?_eq_some_iff.mp isAt).1] at isFound
    cases isFound
    exact (over_abortServer self).1

theorem begin_moves {H : Hazard} {net next : HandshakeNet} {id : Nat} {mono : Rat}
    (linked : Linked setup net) (stepped : net.beginHandshake P setup id mono = some next) :
    Relation.ReflTransGen (Move P X setup H) net next ∧ Linked setup next := by
  unfold beginHandshake at stepped
  split at stepped
  · rename_i connection self isConnection isAt
    split at stepped
    · rename_i handshaking
      split at stepped
      · rename_i created
        dsimp only at stepped
        generalize lockoutRemaining net.server.failedHandshakes connection.addr.1 mono = lockedOut
          at stepped
        have link := linked.stages id connection self isConnection isAt
        have middle : Linked setup
            (net.setInstance id { self with run := .start setup.psk lockedOut }) := by
          apply linked.setInstance
          intro found isFound
          cases isConnection.symm.trans isFound
          rw [handshaking] at link ⊢
          exact link
        have move : Move P X setup H net
            (net.setInstance id { self with run := .start setup.psk lockedOut }) := by
          have moved := instance_moves (H := H) isAt
            (.started lockedOut created : InstanceMove P X setup self _ [])
          rw [send_nil] at moved
          exact moved
        split at stepped
        · rename_i isLocked
          have rest := established_moves (X := X) (H := H) middle stepped ?_ (by simp)
          · exact ⟨.head move rest.1, rest.2⟩
          · intro found isFound
            rw [instances_setInstance, if_pos rfl,
              if_pos (List.getElem?_eq_some_iff.mp isAt).1] at isFound
            cases isFound
            rcases Option.isSome_iff_exists.mp isLocked with ⟨remaining, rfl⟩
            rfl
        · cases stepped
          exact ⟨.single move, middle⟩
      · cases stepped
    · cases stepped
  · cases stepped

/-- A step of the network is a few moves of the client's handshake. -/
theorem step_moves {net next : HandshakeNet} {action : NetAction} (linked : Linked setup net)
    (stepped : net.step P X setup action = some next) :
    Relation.ReflTransGen (Move P X setup (net.hazard P setup action)) net next ∧
      Linked setup next := by
  cases action with
  | deliver index wall mono =>
      simp only [step] at stepped
      split at stepped
      · cases stepped
      rename_i data isAt
      rcases datagram_moves (P := P) (X := X) (H := net.hazard P setup (.deliver index wall mono))
        linked data setup.addr wall mono (fun _ => List.mem_of_getElem? isAt)
        (fun _ starts => ⟨rfl, index, wall, mono, data, rfl, isAt, starts⟩) with
        ⟨fed, isFed, moves, kept⟩
      have same : net.serverStep P setup (.datagram data setup.addr wall mono) = _ :=
        serverStep_toServer net _ net.toServer
      rw [isFed] at same
      have inFlight := congrArg HandshakeNet.toServer (Option.some.inj same)
      rw [serverStep_toServer, isFed] at stepped
      cases stepped
      refine ⟨moves.tail ?_, kept.inFlight _ _ _⟩
      apply quiet_move fed _ (List.Subset.refl _) fun _ => .inl
      rw [inFlight]
      exact List.eraseIdx_subset
  | arrive index =>
      simp only [step] at stepped
      split at stepped
      · cases stepped
      rename_i data isAt
      rcases Option.map_eq_some_iff.mp stepped with ⟨result, acted, rfl⟩
      dsimp only at acted
      split at acted <;> cases acted
      rename_i isOpen
      refine ⟨.single ?_, linked.inFlight _ _ _⟩
      exact .clientFed data (List.mem_of_getElem? isAt) (Bool.eq_false_iff.mpr isOpen) rfl rfl
        (List.eraseIdx_subset)
        (fun _ => mem_eraseIdx_or isAt) fun _ _ => .rfl
  | duplicateToServer index =>
      rcases Option.map_eq_some_iff.mp stepped with ⟨data, isAt, rfl⟩
      refine ⟨.single (quiet_move net ?_ (List.Subset.refl _) fun _ => .inl),
        linked.inFlight _ _ _⟩
      exact List.append_subset.mpr ⟨List.Subset.refl _, by simpa using List.mem_of_getElem? isAt⟩
  | duplicateToClient index =>
      rcases Option.map_eq_some_iff.mp stepped with ⟨data, isAt, rfl⟩
      refine ⟨.single (quiet_move net (List.Subset.refl _) ?_ fun _ member =>
        .inl (List.mem_append_left _ member)), linked.inFlight _ _ _⟩
      exact List.append_subset.mpr ⟨List.Subset.refl _, by simpa using List.mem_of_getElem? isAt⟩
  | loseToServer index =>
      cases stepped
      exact ⟨.single (quiet_move net (List.eraseIdx_subset) (List.Subset.refl _) fun _ => .inl),
        linked.inFlight _ _ _⟩
  | loseToClient index =>
      cases stepped
      refine ⟨.single (quiet_move net (List.Subset.refl _) (List.eraseIdx_subset) ?_),
        linked.inFlight _ _ _⟩
      intro data member
      rcases Nat.lt_or_ge index net.toClient.length with inside | outside
      · rcases mem_eraseIdx_or (List.getElem?_eq_getElem inside) member with kept | lost
        · exact .inl kept
        · exact .inr ⟨index, rfl, by rw [lost]; exact List.getElem?_eq_getElem inside⟩
      · rw [List.eraseIdx_of_length_le outside]
        exact .inl member
  | stranger data addr wall mono =>
      simp only [step] at stepped
      split at stepped
      · cases stepped
      rename_i elsewhere
      rcases datagram_moves (P := P) (X := X)
        (H := net.hazard P setup (.stranger data addr wall mono)) linked data addr wall mono
        (absurd · elsewhere) (absurd · elsewhere) with ⟨fed, isFed, moves, kept⟩
      cases isFed.symm.trans stepped
      exact ⟨moves, kept⟩
  | start id =>
      refine task_moves linked stepped rfl (by intro establishes; cases establishes) ?_
      intro connection self isConnection _ handshaking
      rcases Option.map_eq_some_iff.mp stepped with ⟨result, performed, _⟩
      simp [Server.perform, isConnection, handshaking] at performed
  | begin id mono => exact begin_moves linked stepped
  | resume id entropy =>
      exact coroutine_moves linked stepped fun self result resumed =>
        ⟨.resumed entropy resumed, fun stage link => link.resumed resumed⟩
  | resolved id outcome entropy =>
      refine coroutine_moves linked stepped ?_
      intro self result acted
      rcases Option.map_eq_some_iff.mp acted with ⟨taken, resolved, rfl⟩
      exact ⟨.resolved outcome entropy resolved, fun stage link => link.resolved resolved⟩
  | acked id =>
      refine coroutine_moves linked stepped ?_
      intro self result acted
      rcases Option.map_eq_some_iff.mp acted with ⟨after, acked, rfl⟩
      exact ⟨.acked acked, fun stage link => link.acked acked⟩
  | timeout id =>
      exact coroutine_moves linked stepped fun self result timedOut =>
        ⟨.timeout timedOut, fun stage link => link.timeout timedOut⟩
  | finish id now => exact finish_moves linked stepped
  | expire id now =>
      simp only [step] at stepped
      split at stepped
      · rename_i isHandshaking
        split at stepped
        · cases stepped
        rename_i self isAt
        refine aborted_moves linked isAt stepped rfl rfl ?_
        intro connection isConnection
        rw [handshaking, isConnection] at isHandshaking
        rw [of_decide_eq_true isHandshaking]
        decide
      · cases stepped
  | serve id stream sent =>
      simp only [step, serveStep] at stepped
      split at stepped
      · rename_i allowed
        rw [Bool.and_eq_true] at allowed
        refine instanceStep_moves linked stepped ?_
        intro self result isAt acted
        split at acted <;> cases acted
        rename_i served
        have isServing := allowed.1
        unfold serving at isServing
        split at isServing
        · rename_i connection isConnection
          have link := linked.stages id connection self isConnection isAt
          rw [of_decide_eq_true isServing] at link
          rcases link with ⟨info, returned⟩
          refine ⟨.served info returned stream sent served allowed.2, ?_⟩
          intro found isFound
          cases isConnection.symm.trans isFound
          rw [of_decide_eq_true isServing]
          exact ⟨info, returned⟩
        · cases isServing
      · cases stepped
  | handlerEnds id raised now =>
      refine task_moves linked stepped rfl (by intro establishes; cases establishes) ?_
      intro connection self isConnection _ handshaking
      rcases Option.map_eq_some_iff.mp stepped with ⟨result, performed, _⟩
      simp [Server.perform, isConnection, handshaking] at performed
  | proceed id =>
      refine task_moves linked stepped rfl (by intro establishes; cases establishes) ?_
      intro connection self isConnection _ handshaking
      rcases Option.map_eq_some_iff.mp stepped with ⟨result, performed, _⟩
      simp [Server.perform, isConnection, handshaking] at performed
  | cancel id =>
      simp only [step] at stepped
      split at stepped
      · cases stepped
      rename_i self isAt
      exact aborted_moves linked isAt stepped rfl rfl fun connection =>
        stage_of_cancel stepped connection
  | clientResume => exact client_moves linked stepped fun result acted => .resumed acted
  | clientAcked =>
      simp only [step] at stepped
      refine client_moves linked stepped ?_
      intro result acted
      rcases Option.map_eq_some_iff.mp acted with ⟨after, acked, rfl⟩
      exact .acked acked
  | clientTimeout => exact client_moves linked stepped fun result acted => .timeout acted
  | clientAbort =>
      simp only [step] at stepped
      refine client_moves linked stepped ?_
      intro result acted
      rcases Option.map_eq_some_iff.mp acted with ⟨after, aborted, rfl⟩
      exact .aborted aborted
  | clientClose =>
      simp only [step] at stepped
      refine client_moves linked stepped ?_
      intro result acted
      cases acted
      exact .closed
  | clientServe stream sent =>
      simp only [step, clientServeStep] at stepped
      split at stepped
      · rename_i info returned
        split at stepped <;> cases stepped
        rename_i allowed
        rw [Bool.and_eq_true] at allowed
        exact ⟨.single (.client sent (.served info returned stream sent allowed.1 allowed.2) rfl rfl
          fun _ _ => .rfl), linked.inFlight _ _ _⟩
      · cases stepped

end Usmp.HandshakeNet
