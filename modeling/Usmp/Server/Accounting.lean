import Usmp.Server.Steps
import Usmp.Sample

/-!
# The accounting of connections

The counters and tables of the server agree with its connection tasks in every reachable
state, and the limits hold.
-/

namespace Usmp

theorem getD_decrement (table : Dict String Nat) (key other : String) :
    ((decrement table key).get? other).getD 0 =
      if other = key then (table.get? key).getD 0 - 1 else (table.get? other).getD 0 := by
  unfold decrement
  by_cases same : other = key
  · subst same
    cases found : table.get? other with
    | none => simp [found]
    | some count =>
        by_cases last : count - 1 = 0 <;> simp [last, Dict.get?_erase, Dict.get?_set]
  · cases table.get? key with
    | none => simp [same]
    | some count =>
        by_cases last : count - 1 = 0 <;> simp [last, Dict.get?_erase, Dict.get?_set, same]

namespace Server

/-- The clean-up of a TCP connection. -/
theorem leave_tcp (server : Server) (id : Nat) {connection : Connection}
    (isReliable : connection.isReliable = true) (decremented watched : Bool) :
    (server.leave id connection decremented watched).1 =
      ({ server.discardTask id with
          tcpConnections := decrement server.tcpConnections connection.addr.1 }.setStage id
        (if watched then .unwatching else .closing)) := by
  cases watched <;> simp [leave, isReliable, discardTask]

/-- The clean-up of a UDP connection. -/
theorem leave_udp (server : Server) (id : Nat) {connection : Connection}
    (unreliable : connection.isReliable = false) (decremented watched : Bool) :
    (server.leave id connection decremented watched).1 =
      ({ server.discardTask id with
          udpInProgressHandshakes :=
            if decremented then server.udpInProgressHandshakes
            else decrement server.udpInProgressHandshakes connection.addr.1
          udpHandshakes :=
            if server.udpHandshakes.get? connection.addr = some id then
              server.udpHandshakes.erase connection.addr
            else server.udpHandshakes
          udpSessions :=
            if server.udpSessions.get? connection.addr = some id then
              server.udpSessions.erase connection.addr
            else server.udpSessions }.setStage id
        (if watched then .unwatching else .closing)) := by
  cases watched <;> cases decremented <;> simp [leave, unreliable, discardTask]

/-! ## UDP -/

/-- A UDP connection from the address whose handshake is not over. -/
def InHandshake (server : Server) (addr : Addr) (id : Nat) : Prop :=
  ∃ connection, server.connections[id]? = some connection ∧ connection.isReliable = false ∧
    connection.addr = addr ∧ (connection.stage = .created ∨ connection.stage = .handshaking)

/-- A UDP connection from the address whose session is being served. -/
def InSession (server : Server) (addr : Addr) (id : Nat) : Prop :=
  ∃ connection, server.connections[id]? = some connection ∧ connection.isReliable = false ∧
    connection.addr = addr ∧ connection.stage = .serving

structure UdpTables (config : ServerConfig) (server : Server) : Prop where
  counted : ∀ ip, (server.udpInProgressHandshakes.get? ip).getD 0 =
    server.udpHandshakes.count fun addr _ => addr.1 = ip
  few : ∀ ip, (server.udpInProgressHandshakes.get? ip).getD 0 ≤ 3
  handshakesBound : server.udpHandshakes.size ≤ config.maxConnections * 2
  sessionsBound : server.udpSessions.size ≤ config.maxConnections
  ipBound : ∀ ip, (server.udpSessions.count fun addr _ => addr.1 = ip) ≤
    config.maxConnectionsPerIp
  handshakeTask : ∀ addr id, server.udpHandshakes.get? addr = some id ↔ server.InHandshake addr id
  sessionTask : ∀ addr id, server.udpSessions.get? addr = some id → server.InSession addr id

variable {config : ServerConfig}

theorem UdpTables.congr {before after : Server} (tables : UdpTables config before)
    (sessions : after.udpSessions = before.udpSessions)
    (handshakes : after.udpHandshakes = before.udpHandshakes)
    (inProgress : after.udpInProgressHandshakes = before.udpInProgressHandshakes)
    (inHandshake : ∀ addr id, after.InHandshake addr id ↔ before.InHandshake addr id)
    (inSession : ∀ addr id, before.InSession addr id → after.InSession addr id) :
    UdpTables config after where
  counted ip := by rw [inProgress, handshakes]; exact tables.counted ip
  few ip := by rw [inProgress]; exact tables.few ip
  handshakesBound := by rw [handshakes]; exact tables.handshakesBound
  sessionsBound := by rw [sessions]; exact tables.sessionsBound
  ipBound ip := by rw [sessions]; exact tables.ipBound ip
  handshakeTask addr id := by rw [handshakes, inHandshake]; exact tables.handshakeTask addr id
  sessionTask addr id found := by
    rw [sessions] at found
    exact inSession addr id (tables.sessionTask addr id found)

/-- A task moves on: what the others are doing does not change. -/
theorem exists_modified {connections : List Connection} {id : Nat} {connection : Connection}
    (isAt : connections[id]? = some connection) (stage : Stage) (other : Nat)
    (property : Connection → Prop) :
    (∃ found, (connections.modify id fun connection => { connection with stage })[other]? =
        some found ∧ property found) ↔
      if other = id then property { connection with stage }
      else ∃ found, connections[other]? = some found ∧ property found := by
  by_cases same : other = id
  · subst same
    simp [isAt]
  · rw [List.getElem?_modify_ne _ _ (Ne.symm same), if_neg same]

theorem exists_appended (connections : List Connection) (connection : Connection) (id : Nat)
    (property : Connection → Prop) :
    (∃ found, (connections ++ [connection])[id]? = some found ∧ property found) ↔
      if id = connections.length then property connection
      else ∃ found, connections[id]? = some found ∧ property found := by
  by_cases last : id = connections.length
  · subst last
    simp
  · rw [if_neg last]
    by_cases old : id < connections.length
    · rw [List.getElem?_append_left old]
    · have beyond : connections.length + 1 ≤ id := by omega
      rw [List.getElem?_eq_none (by simpa using beyond), List.getElem?_eq_none (by omega)]

/-- The stages of TCP connections and the clean-up are of no account to the UDP tables. -/
theorem UdpTables.setStage {before base : Server} (tables : UdpTables config before) {id : Nat}
    {connection : Connection} (isAt : before.connections[id]? = some connection) (stage : Stage)
    (connections : base.connections = before.connections)
    (sessions : base.udpSessions = before.udpSessions)
    (handshakes : base.udpHandshakes = before.udpHandshakes)
    (inProgress : base.udpInProgressHandshakes = before.udpInProgressHandshakes)
    (sameHandshake : connection.isReliable = false →
      ((stage = .created ∨ stage = .handshaking) ↔
        (connection.stage = .created ∨ connection.stage = .handshaking)))
    (sameSession : connection.isReliable = false → connection.stage = .serving →
      stage = .serving) :
    UdpTables config (base.setStage id stage) := by
  refine tables.congr sessions handshakes inProgress ?_ ?_
  · intro addr other
    simp only [InHandshake, Server.setStage, connections, exists_modified isAt]
    by_cases same : other = id
    · subst same
      simp only [if_true, isAt, Option.some.injEq, exists_eq_left']
      constructor
      · intro ⟨unreliable, isAddr, standing⟩
        exact ⟨unreliable, isAddr, (sameHandshake unreliable).mp standing⟩
      · intro ⟨unreliable, isAddr, standing⟩
        exact ⟨unreliable, isAddr, (sameHandshake unreliable).mpr standing⟩
    · simp only [same, if_false]
  · intro addr other inSession
    simp only [InSession, Server.setStage, connections, exists_modified isAt]
    by_cases same : other = id
    · subst same
      rcases inSession with ⟨found, isFound, unreliable, isAddr, serving⟩
      rw [isAt] at isFound
      cases isFound
      rw [if_pos rfl]
      exact ⟨unreliable, isAddr, sameSession unreliable serving⟩
    · rw [if_neg same]
      exact inSession

theorem UdpTables.accepted {server : Server} (tables : UdpTables config server) (addr : Addr) :
    UdpTables config
      { server with connections := server.connections ++ [{ addr, isReliable := true }] } := by
  refine tables.congr rfl rfl rfl ?_ ?_
  · intro other id
    rw [InHandshake, exists_appended]
    by_cases last : id = server.connections.length
    · subst last
      simp [InHandshake]
    · rw [if_neg last, InHandshake]
  · intro other id inSession
    rw [InSession, exists_appended]
    by_cases last : id = server.connections.length
    · subst last
      rcases inSession with ⟨found, isFound, _⟩
      simp at isFound
    · rw [if_neg last]
      exact inSession

theorem UdpTables.allocated {server : Server} (tables : UdpTables config server) (data : Bytes)
    {addr : Addr} (free : server.udpHandshakes.get? addr = none)
    (inProgress : (server.udpInProgressHandshakes.get? addr.1).getD 0 < 3)
    (room : server.udpHandshakes.size < config.maxConnections * 2) :
    UdpTables config (server.allocateHandshake data addr).1 where
  counted ip := by
    simp only [allocateHandshake, Dict.get?_set, Dict.count_set_new free]
    have counted := tables.counted ip
    by_cases same : ip = addr.1
    · subst same
      simp [counted]
    · simp [same, Ne.symm same, counted]
  few ip := by
    simp only [allocateHandshake, Dict.get?_set]
    by_cases same : ip = addr.1
    · subst same
      rw [if_pos rfl]
      exact inProgress
    · simpa [same] using tables.few ip
  handshakesBound := by
    rw [Dict.size_eq_count] at room ⊢
    simp only [allocateHandshake, Dict.count_set_new free, if_true]
    exact room
  sessionsBound := tables.sessionsBound
  ipBound := tables.ipBound
  handshakeTask other id := by
    rw [InHandshake]
    simp only [allocateHandshake, Dict.get?_set, exists_appended]
    by_cases last : id = server.connections.length
    · subst last
      by_cases same : other = addr
      · subst same
        simp
      · -- the new task has a number that no table knows yet
        have unknown : server.udpHandshakes.get? other ≠ some server.connections.length := by
          intro found
          rcases (tables.handshakeTask _ _).mp found with ⟨connection, isAt, _⟩
          simp at isAt
        simp [same, Ne.symm same, unknown]
    · rw [if_neg last, ← InHandshake, ← tables.handshakeTask]
      by_cases same : other = addr
      · subst same
        simp [free, Ne.symm last]
      · simp [same]
  sessionTask other id found := by
    have inSession := tables.sessionTask other id found
    rw [InSession]
    simp only [allocateHandshake, exists_appended]
    by_cases last : id = server.connections.length
    · subst last
      rcases inSession with ⟨connection, isAt, _⟩
      simp at isAt
    · rw [if_neg last]
      exact inSession

theorem UdpTables.promoted {base : Server} (tables : UdpTables config base) {id : Nat}
    {connection : Connection} (isAt : base.connections[id]? = some connection)
    (handshaking : connection.stage = .handshaking) (unreliable : connection.isReliable = false)
    (room : base.udpSessions.size < config.maxConnections)
    (ipRoom : (base.udpSessions.count fun other _ => other.1 = connection.addr.1) <
      config.maxConnectionsPerIp) :
    UdpTables config
      ({ base with
        udpInProgressHandshakes := decrement base.udpInProgressHandshakes connection.addr.1
        udpSessions := base.udpSessions.set connection.addr id
        udpHandshakes := base.udpHandshakes.erase connection.addr }.setStage id .serving) := by
  have own : base.udpHandshakes.get? connection.addr = some id :=
    (tables.handshakeTask _ _).mpr ⟨connection, isAt, unreliable, rfl, .inr handshaking⟩
  constructor
  · intro ip
    have counted := tables.counted ip
    have split := Dict.count_erase own fun addr _ => decide (addr.1 = ip)
    simp only [Server.setStage, getD_decrement]
    by_cases same : ip = connection.addr.1
    · subst same
      simp only [decide_true, if_true] at split ⊢
      omega
    · simp only [Ne.symm same, decide_false, Bool.false_eq_true, if_false, same] at split ⊢
      omega
  · intro ip
    have few := tables.few ip
    simp only [Server.setStage, getD_decrement]
    split
    · rename_i same
      rw [same] at few
      omega
    · exact few
  · have bound := tables.handshakesBound
    have split := Dict.count_erase own fun _ _ => true
    rw [Dict.size_eq_count] at bound ⊢
    simp only [Server.setStage, if_true] at split ⊢
    omega
  · have grows := base.udpSessions.count_set_le connection.addr id fun _ _ => true
    rw [Dict.size_eq_count] at room ⊢
    simp only [Server.setStage, if_true] at grows ⊢
    omega
  · intro ip
    have grows := base.udpSessions.count_set_le connection.addr id fun addr _ => addr.1 = ip
    have bound := tables.ipBound ip
    simp only [Server.setStage]
    by_cases same : connection.addr.1 = ip
    · subst same
      simp only [decide_true, if_true] at grows
      omega
    · simp only [same, decide_false, Bool.false_eq_true, if_false] at grows
      omega
  · intro addr other
    simp only [InHandshake, Server.setStage, exists_modified isAt, Dict.get?_erase]
    by_cases same : other = id
    · subst same
      have notOther : addr ≠ connection.addr → base.udpHandshakes.get? addr ≠ some other := by
        intro distinct found
        rcases (tables.handshakeTask _ _).mp found with ⟨found, isFound, _, isAddr, _⟩
        rw [isAt] at isFound
        cases isFound
        exact distinct isAddr.symm
      by_cases sameAddr : addr = connection.addr <;> simp [sameAddr, notOther]
    · rw [if_neg same]
      have task := tables.handshakeTask addr other
      rw [InHandshake] at task
      rw [← task]
      by_cases sameAddr : addr = connection.addr
      · subst sameAddr
        simp [own, Ne.symm same]
      · simp [sameAddr]
  · intro addr other found
    simp only [InSession, Server.setStage, exists_modified isAt]
    simp only [Server.setStage, Dict.get?_set] at found
    by_cases same : other = id
    · subst same
      by_cases sameAddr : addr = connection.addr
      · simp [sameAddr, unreliable]
      · rw [if_neg sameAddr] at found
        rcases tables.sessionTask _ _ found with ⟨found, isFound, _, _, serving⟩
        rw [isAt] at isFound
        cases isFound
        rw [handshaking] at serving
        cases serving
    · rw [if_neg same]
      by_cases sameAddr : addr = connection.addr
      · rw [if_pos sameAddr] at found
        exact absurd (Option.some.inj found).symm same
      · rw [if_neg sameAddr] at found
        exact tables.sessionTask _ _ found

/-- A handshake that ends without a session. -/
theorem UdpTables.abandoned {base : Server} (tables : UdpTables config base) {id : Nat}
    {connection : Connection} (isAt : base.connections[id]? = some connection)
    (handshaking : connection.stage = .handshaking) (unreliable : connection.isReliable = false)
    (connTasks : List Nat) {stage : Stage} (cleaning : stage = .unwatching ∨ stage = .closing) :
    UdpTables config
      ({ base with
        connTasks
        udpInProgressHandshakes := decrement base.udpInProgressHandshakes connection.addr.1
        udpHandshakes := base.udpHandshakes.erase connection.addr }.setStage id stage) := by
  have own : base.udpHandshakes.get? connection.addr = some id :=
    (tables.handshakeTask _ _).mpr ⟨connection, isAt, unreliable, rfl, .inr handshaking⟩
  constructor
  · intro ip
    have counted := tables.counted ip
    have split := Dict.count_erase own fun addr _ => decide (addr.1 = ip)
    simp only [Server.setStage, getD_decrement]
    by_cases same : ip = connection.addr.1
    · subst same
      simp only [decide_true, if_true] at split ⊢
      omega
    · simp only [Ne.symm same, decide_false, Bool.false_eq_true, if_false, same] at split ⊢
      omega
  · intro ip
    have few := tables.few ip
    simp only [Server.setStage, getD_decrement]
    split
    · rename_i same
      rw [same] at few
      omega
    · exact few
  · have bound := tables.handshakesBound
    have split := Dict.count_erase own fun _ _ => true
    rw [Dict.size_eq_count] at bound ⊢
    simp only [Server.setStage, if_true] at split ⊢
    omega
  · exact tables.sessionsBound
  · exact tables.ipBound
  · intro addr other
    simp only [InHandshake, Server.setStage, exists_modified isAt, Dict.get?_erase]
    by_cases same : other = id
    · subst same
      have notOther : addr ≠ connection.addr → base.udpHandshakes.get? addr ≠ some other := by
        intro distinct found
        rcases (tables.handshakeTask _ _).mp found with ⟨found, isFound, _, isAddr, _⟩
        rw [isAt] at isFound
        cases isFound
        exact distinct isAddr.symm
      by_cases sameAddr : addr = connection.addr <;>
        rcases cleaning with rfl | rfl <;> simp [sameAddr, notOther]
    · rw [if_neg same]
      have task := tables.handshakeTask addr other
      rw [InHandshake] at task
      rw [← task]
      by_cases sameAddr : addr = connection.addr
      · subst sameAddr
        simp [own, Ne.symm same]
      · simp [sameAddr]
  · intro addr other found
    simp only [InSession, Server.setStage, exists_modified isAt]
    have inSession := tables.sessionTask _ _ found
    by_cases same : other = id
    · subst same
      rcases inSession with ⟨found, isFound, _, _, serving⟩
      rw [isAt] at isFound
      cases isFound
      rw [handshaking] at serving
      cases serving
    · rw [if_neg same]
      exact inSession

/-- A session that ends takes its entry with it, if the entry is still its own. -/
theorem UdpTables.disconnected {base : Server} (tables : UdpTables config base) {id : Nat}
    {connection : Connection} (isAt : base.connections[id]? = some connection)
    (serving : connection.stage = .serving) (connTasks : List Nat) {stage : Stage}
    (cleaning : stage = .unwatching ∨ stage = .closing) :
    UdpTables config
      ({ base with
        connTasks
        udpSessions :=
          if base.udpSessions.get? connection.addr = some id then
            base.udpSessions.erase connection.addr
          else base.udpSessions }.setStage id stage) := by
  have fewer : ∀ accept : Addr → Nat → Bool,
      (if base.udpSessions.get? connection.addr = some id then
        base.udpSessions.erase connection.addr else base.udpSessions).count accept ≤
      base.udpSessions.count accept := by
    intro accept
    split
    · rename_i own
      rw [← Dict.count_erase own accept]
      exact Nat.le_add_right _ _
    · exact Nat.le_refl _
  constructor
  · exact tables.counted
  · exact tables.few
  · exact tables.handshakesBound
  · have bound := tables.sessionsBound
    rw [Dict.size_eq_count] at bound ⊢
    exact (fewer _).trans bound
  · intro ip
    exact (fewer _).trans (tables.ipBound ip)
  · intro addr other
    have task := tables.handshakeTask addr other
    simp only [InHandshake, Server.setStage, exists_modified isAt] at task ⊢
    rw [task]
    by_cases same : other = id
    · subst same
      rcases cleaning with rfl | rfl <;> simp [isAt, serving]
    · simp [same]
  · intro addr other found
    simp only [InSession, Server.setStage, exists_modified isAt]
    have old : base.udpSessions.get? addr = some other ∧
        (base.udpSessions.get? connection.addr = some id → addr ≠ connection.addr) := by
      simp only [Server.setStage] at found
      split at found
      · rename_i own
        rw [Dict.get?_erase] at found
        split at found
        · cases found
        · rename_i distinct
          exact ⟨found, fun _ => distinct⟩
      · rename_i foreign
        exact ⟨found, fun own => absurd own foreign⟩
    have inSession := tables.sessionTask _ _ old.1
    by_cases same : other = id
    · subst same
      rcases inSession with ⟨found, isFound, _, isAddr, _⟩
      rw [isAt] at isFound
      cases isFound
      subst isAddr
      exact absurd rfl (old.2 old.1)
    · rw [if_neg same]
      exact inSession

theorem UdpTables.left {base : Server} (tables : UdpTables config base) {id : Nat}
    {connection : Connection} (isAt : base.connections[id]? = some connection)
    (active : connection.stage.active = true) (watched : Bool) :
    UdpTables config (base.leave id connection (connection.stage = .serving) watched).1 := by
  have cleaning : (if watched then Stage.unwatching else Stage.closing) = .unwatching ∨
      (if watched then Stage.unwatching else Stage.closing) = .closing := by
    cases watched <;> simp
  cases isReliable : connection.isReliable with
  | true =>
      rw [leave_tcp base id isReliable]
      exact tables.setStage isAt _ rfl rfl rfl rfl (by simp [isReliable]) (by simp [isReliable])
  | false =>
      rw [leave_udp base id isReliable]
      cases stage : connection.stage with
      | handshaking =>
          have foreign : base.udpSessions.get? connection.addr ≠ some id := by
            intro found
            rcases tables.sessionTask _ _ found with ⟨found, isFound, _, _, serving⟩
            rw [isAt] at isFound
            cases isFound
            rw [stage] at serving
            cases serving
          have own : base.udpHandshakes.get? connection.addr = some id :=
            (tables.handshakeTask _ _).mpr ⟨connection, isAt, isReliable, rfl, .inr stage⟩
          have abandoned := tables.abandoned isAt stage isReliable
            (base.connTasks.filter (· ≠ id)) cleaning
          simpa [foreign, own, discardTask] using abandoned
      | serving =>
          have foreign : base.udpHandshakes.get? connection.addr ≠ some id := by
            intro found
            rcases (tables.handshakeTask _ _).mp found with ⟨found, isFound, _, _, handshaking⟩
            rw [isAt] at isFound
            cases isFound
            rw [stage] at handshaking
            simp at handshaking
          have disconnected := tables.disconnected isAt stage
            (base.connTasks.filter (· ≠ id)) cleaning
          simpa [foreign, discardTask] using disconnected
      | created | unwatching | closing | finished =>
          rw [stage] at active
          cases active

theorem UdpTables.change {P : Primitives} {before after : Server} {action : ServerAction}
    (tables : UdpTables config before) (change : Change P config before action after) :
    UdpTables config after := by
  have moved : ∀ {base : Server}, SameTables before base → UdpTables config base := by
    intro base same
    refine tables.congr same.udpSessions same.udpHandshakes same.udpInProgressHandshakes ?_ ?_
    · intro addr id
      rw [InHandshake, InHandshake, same.connections]
    · intro addr id inSession
      rw [InSession, same.connections]
      exact inSession
  cases change with
  | quiet same => exact moved same
  | accepted addr => exact tables.accepted addr
  | allocated data addr wall mono isHello free starts =>
      simp only [startsHandshake, admitsHandshake, Bool.and_eq_true, Bool.not_eq_true',
        decide_eq_false_iff_not, not_le] at starts
      exact tables.allocated data free starts.2.1.2 starts.2.2
  | rejected id connection isAt created isReliable =>
      exact tables.setStage isAt _ rfl rfl rfl rfl (by simp [isReliable]) (by simp [isReliable])
  | admitted id connection isAt created isReliable room ipRoom =>
      exact tables.setStage isAt _ rfl rfl rfl rfl (by simp [isReliable]) (by simp [isReliable])
  | started id connection isAt created unreliable =>
      exact tables.setStage isAt _ rfl rfl rfl rfl (by simp [created]) (by simp [created])
  | served same id connection isAt handshaking isReliable =>
      exact tables.setStage isAt _ same.connections same.udpSessions same.udpHandshakes
        same.udpInProgressHandshakes (by simp [isReliable]) (by simp [isReliable])
  | promoted same id connection isAt handshaking unreliable room ipRoom =>
      rw [← same.udpSessions] at room ipRoom
      exact (moved same).promoted (by rw [same.connections, isAt]) handshaking unreliable room
        ipRoom
  | left same id connection watched isAt active =>
      exact (moved same).left (by rw [same.connections, isAt]) active watched
  | cleaned id connection stage isAt cleaning =>
      refine tables.setStage isAt _ rfl rfl rfl rfl (fun _ => ?_) (fun _ serving => ?_)
      · rcases cleaning with ⟨was, rfl⟩ | ⟨was, rfl⟩ <;> simp [was]
      · rcases cleaning with ⟨was, _⟩ | ⟨was, _⟩ <;> rw [serving] at was <;> cases was

theorem UdpTables.new (config : ServerConfig) (failedHandshakes : FailedHandshakes) :
    UdpTables config (.new failedHandshakes) where
  counted _ := rfl
  few _ := Nat.zero_le 3
  handshakesBound := Nat.zero_le _
  sessionsBound := Nat.zero_le _
  ipBound _ := Nat.zero_le _
  handshakeTask addr id := by simp [InHandshake, Server.new]
  sessionTask addr id found := by simp [Server.new] at found

theorem udpTables_of_run {P : Primitives} {failedHandshakes : FailedHandshakes}
    {actions : List ServerAction} {server : Server}
    (reached : Machine.run (step P config) (.new failedHandshakes) actions = some server) :
    UdpTables config server :=
  Machine.run_invariant' (UdpTables config)
    (fun _ _ _ tables stepped => tables.change (change_of_step stepped))
    (.new config failedHandshakes) reached

/-- The counters of handshakes are exact, the limits of handshakes and sessions hold, and
every stream in a table is in one table and belongs to a task that runs. -/
structure UdpAccounting (config : ServerConfig) (server : Server) : Prop where
  inProgress : ∀ ip, (server.udpInProgressHandshakes.get? ip).getD 0 =
    (server.udpHandshakes.entries.filter fun entry => entry.1.1 = ip).length
  inProgressBound : ∀ ip, (server.udpInProgressHandshakes.get? ip).getD 0 ≤ 3
  handshakesBound : server.udpHandshakes.entries.length ≤ 2 * config.maxConnections
  sessionsBound : server.udpSessions.entries.length ≤ config.maxConnections
  sessionsIpBound : ∀ ip,
    (server.udpSessions.entries.filter fun entry => entry.1.1 = ip).length ≤
      config.maxConnectionsPerIp
  oneTable : ∀ addr addr' id, server.udpHandshakes.get? addr = some id →
    server.udpSessions.get? addr' ≠ some id
  running : ∀ addr id,
    server.udpHandshakes.get? addr = some id ∨ server.udpSessions.get? addr = some id →
      ∃ connection, server.connections[id]? = some connection ∧ connection.addr = addr ∧
        connection.stage ≠ .finished

theorem udp_table_accounting (P : Primitives) (config : ServerConfig)
    (failedHandshakes : FailedHandshakes) (actions : List ServerAction) (server : Server)
    (reached : Machine.run (step P config) (.new failedHandshakes) actions = some server) :
    UdpAccounting config server := by
  have tables := udpTables_of_run reached
  constructor
  · intro ip
    exact (tables.counted ip).trans (Dict.count_eq_length_filter server.udpHandshakes
      fun addr _ => decide (addr.1 = ip))
  · exact tables.few
  · rw [Nat.mul_comm]
    exact tables.handshakesBound
  · exact tables.sessionsBound
  · intro ip
    exact (Dict.count_eq_length_filter server.udpSessions fun addr _ => decide (addr.1 = ip)) ▸
      tables.ipBound ip
  · intro addr addr' id inHandshakes inSessions
    rcases (tables.handshakeTask _ _).mp inHandshakes with ⟨connection, isAt, _, _, stage⟩
    rcases tables.sessionTask _ _ inSessions with ⟨found, isFound, _, _, serving⟩
    rw [isAt] at isFound
    cases isFound
    rw [serving] at stage
    simp at stage
  · intro addr id inTable
    rcases inTable with inHandshakes | inSessions
    · rcases (tables.handshakeTask _ _).mp inHandshakes with ⟨connection, isAt, _, isAddr, stage⟩
      refine ⟨connection, isAt, isAddr, ?_⟩
      rcases stage with stage | stage <;> simp [stage]
    · rcases tables.sessionTask _ _ inSessions with ⟨connection, isAt, _, isAddr, stage⟩
      exact ⟨connection, isAt, isAddr, by simp [stage]⟩

/-- Room for one session and two handshakes. -/
def tightConfig : ServerConfig :=
  { maxConnections := 1, maxConnectionsPerIp := 1, cookieSecret := [1, 2, 3] }

/-- A HELLO with a cookie issued at a time. -/
def cookieHello (addr : Addr) (wall : Rat) : Bytes :=
  frameBytes .hello
    (List.replicate 38 7 ++ issueCookie samplePrimitives tightConfig.cookieSecret addr wall) 1

/-- Three peers of one host: the first becomes a session, the second finds no room, the third
is cancelled in its handshake, and the session ends after a repetition of its HELLO. -/
def crowdedHost : List ServerAction :=
  [.datagram (cookieHello ("10.0.0.1", 1) 40) ("10.0.0.1", 1) 50 0,
    .datagram (cookieHello ("10.0.0.1", 2) 40) ("10.0.0.1", 2) 50 0, .start 0, .start 1,
    .handshakeEnds 0 .established 1, .handshakeEnds 1 .established 1,
    .datagram (cookieHello ("10.0.0.1", 3) 40) ("10.0.0.1", 3) 60 2, .start 2, .cancel 2,
    .datagram (cookieHello ("10.0.0.1", 1) 40) ("10.0.0.1", 1) 60 2,
    .handlerEnds 0 (some ⟨.usmpTimeoutError, "Receive timed out"⟩) 3, .proceed 0]

theorem udp_table_accounting_crowdedHost :
    ∃ server,
      Machine.run (step samplePrimitives tightConfig) (.new {}) crowdedHost = some server ∧
        server.udpHandshakes.entries = [(("10.0.0.1", 1), 3)] ∧
        server.udpInProgressHandshakes.entries = [("10.0.0.1", 1)] ∧
        UdpAccounting tightConfig server := by
  rcases Machine.exists_run (step samplePrimitives tightConfig) (.new {}) crowdedHost
    (fun server => server.udpHandshakes.entries = [(("10.0.0.1", 1), 3)] ∧
      server.udpInProgressHandshakes.entries = [("10.0.0.1", 1)])
    (by decide +kernel) with ⟨server, reached, handshakes, inProgress⟩
  exact ⟨server, reached, handshakes, inProgress,
    udp_table_accounting samplePrimitives tightConfig {} crowdedHost server reached⟩

/-! ## TCP -/

/-- An admitted TCP connection of the IP that has not run its clean-up. -/
def Counted (ip : String) (connection : Connection) : Bool :=
  connection.isReliable && decide (connection.addr.1 = ip) && connection.stage.active

structure TcpTables (config : ServerConfig) (server : Server) : Prop where
  counted : ∀ ip, (server.tcpConnections.get? ip).getD 0 = server.connections.countP (Counted ip)
  positive : ∀ ip count, server.tcpConnections.get? ip = some count → 0 < count
  ipBound : ∀ ip, (server.tcpConnections.get? ip).getD 0 ≤ config.maxConnectionsPerIp
  bound : server.tcpConnections.total (fun _ count => count) ≤ config.maxConnections
  tasks : ∀ id, id ∈ server.connTasks ↔
    ∃ connection, server.connections[id]? = some connection ∧ connection.stage.active = true

theorem countP_modify {connections : List Connection} {id : Nat} {connection : Connection}
    (isAt : connections[id]? = some connection) (stage : Stage) (accept : Connection → Bool) :
    (connections.modify id fun connection => { connection with stage }).countP accept +
        (if accept connection then 1 else 0) =
      connections.countP accept + (if accept { connection with stage } then 1 else 0) := by
  induction connections generalizing id with
  | nil => simp at isAt
  | cons first rest ih =>
      cases id with
      | zero =>
          cases isAt
          simp only [List.modify_zero_cons, List.countP_cons]
          omega
      | succ id =>
          have tail := @ih id isAt
          simp only [List.modify_succ_cons, List.countP_cons]
          omega

/-- A change of stage that neither admits a TCP connection nor cleans one up. -/
theorem TcpTables.setStage {before base : Server} (tables : TcpTables config before) {id : Nat}
    {connection : Connection} (isAt : before.connections[id]? = some connection) (stage : Stage)
    (connections : base.connections = before.connections)
    (tcpConnections : base.tcpConnections = before.tcpConnections)
    (uncounted : connection.isReliable = true → stage.active = connection.stage.active)
    (tasks : ∀ other, other ∈ base.connTasks ↔
      if other = id then stage.active = true else other ∈ before.connTasks) :
    TcpTables config (base.setStage id stage) where
  counted ip := by
    have moved := countP_modify isAt stage (Counted ip)
    have same : Counted ip { connection with stage } = Counted ip connection := by
      cases isReliable : connection.isReliable <;> simp [Counted, isReliable, uncounted]
    rw [same] at moved
    simp only [Server.setStage, tcpConnections, connections, tables.counted ip]
    omega
  positive ip count found := by
    simp only [Server.setStage, tcpConnections] at found
    exact tables.positive ip count found
  ipBound ip := by
    simp only [Server.setStage, tcpConnections]
    exact tables.ipBound ip
  bound := by
    simp only [Server.setStage, tcpConnections]
    exact tables.bound
  tasks other := by
    simp only [Server.setStage, connections, exists_modified isAt]
    rw [tasks other]
    by_cases same : other = id
    · simp [same]
    · simp [same, tables.tasks other]

theorem mem_addTask (server : Server) (id other : Nat) :
    other ∈ (server.addTask id).connTasks ↔ other = id ∨ other ∈ server.connTasks := by
  unfold addTask
  by_cases known : id ∈ server.connTasks
  · simp only [known, if_true]
    constructor
    · exact .inr
    · intro either
      rcases either with rfl | member
      · exact known
      · exact member
  · simp [known, or_comm]

theorem mem_discardTask (server : Server) (id other : Nat) :
    other ∈ (server.discardTask id).connTasks ↔ other ≠ id ∧ other ∈ server.connTasks := by
  simp [discardTask, and_comm]

theorem TcpTables.admitted {server : Server} (tables : TcpTables config server) {id : Nat}
    {connection : Connection} (isAt : server.connections[id]? = some connection)
    (created : connection.stage = .created) (isReliable : connection.isReliable = true)
    (room : server.tcpConnections.total (fun _ count => count) < config.maxConnections)
    (ipRoom : (server.tcpConnections.get? connection.addr.1).getD 0 <
      config.maxConnectionsPerIp) :
    TcpTables config
      ({ server.addTask id with
        tcpConnections := server.tcpConnections.set connection.addr.1
          ((server.tcpConnections.get? connection.addr.1).getD 0 + 1) }.setStage id
        .handshaking) where
  counted ip := by
    have moved := countP_modify isAt .handshaking (Counted ip)
    have counted := tables.counted ip
    simp only [Counted, isReliable, created, Stage.active, Bool.and_false, Bool.true_and,
      Bool.and_true, Bool.false_eq_true, if_false, decide_eq_true_eq] at moved
    simp only [Server.setStage, addTask, Dict.get?_set]
    by_cases same : ip = connection.addr.1
    · subst same
      simp only [if_true, Option.getD_some] at moved ⊢
      omega
    · simp only [Ne.symm same, same, if_false] at moved ⊢
      omega
  positive ip count found := by
    simp only [Server.setStage, Dict.get?_set] at found
    split at found
    · cases found
      exact Nat.succ_pos _
    · exact tables.positive ip count found
  ipBound ip := by
    simp only [Server.setStage, Dict.get?_set]
    split
    · exact ipRoom
    · exact tables.ipBound ip
  bound := by
    have grows := server.tcpConnections.total_set connection.addr.1
      ((server.tcpConnections.get? connection.addr.1).getD 0 + 1) fun _ count => count
    have share : server.tcpConnections.share connection.addr.1 (fun _ count => count) =
        (server.tcpConnections.get? connection.addr.1).getD 0 := by
      unfold Dict.share
      cases server.tcpConnections.get? connection.addr.1 <;> rfl
    rw [share] at grows
    simp only [Server.setStage]
    omega
  tasks other := by
    refine (mem_addTask server id other).trans ?_
    simp only [Server.setStage, addTask, exists_modified isAt]
    by_cases same : other = id
    · simp [same, Stage.active]
    · simp [same, tables.tasks other]

/-- The clean-up of an admitted TCP connection. -/
theorem TcpTables.disconnected {base : Server} (tables : TcpTables config base) {id : Nat}
    {connection : Connection} (isAt : base.connections[id]? = some connection)
    (active : connection.stage.active = true) (isReliable : connection.isReliable = true)
    {stage : Stage} (cleaning : stage = .unwatching ∨ stage = .closing) :
    TcpTables config
      ({ base.discardTask id with
        tcpConnections := decrement base.tcpConnections connection.addr.1 }.setStage id
        stage) := by
  have inactive : stage.active = false := by rcases cleaning with rfl | rfl <;> rfl
  have own := countP_modify isAt stage (Counted connection.addr.1)
  simp only [Counted, isReliable, active, inactive, decide_true, Bool.and_self, Bool.and_false,
    if_true, Bool.false_eq_true, if_false] at own
  have counted := tables.counted connection.addr.1
  constructor
  · intro ip
    simp only [Server.setStage, discardTask, getD_decrement]
    by_cases same : ip = connection.addr.1
    · subst same
      simp only [if_true]
      omega
    · have moved := countP_modify isAt stage (Counted ip)
      have others := tables.counted ip
      simp only [Counted, Ne.symm same, decide_false, Bool.and_false, Bool.false_and,
        Bool.false_eq_true, if_false] at moved
      simp only [same, if_false]
      omega
  · intro ip count found
    simp only [Server.setStage, decrement] at found
    split at found
    · exact tables.positive ip count found
    · rename_i old isOld
      split at found
      · rw [Dict.get?_erase] at found
        split at found
        · cases found
        · exact tables.positive ip count found
      · rename_i more
        rw [Dict.get?_set] at found
        split at found
        · cases found
          exact Nat.pos_of_ne_zero more
        · exact tables.positive ip count found
  · intro ip
    have bound := tables.ipBound ip
    simp only [Server.setStage, getD_decrement]
    split
    · rename_i same
      rw [same] at bound
      omega
    · exact bound
  · have bound := tables.bound
    simp only [Server.setStage, decrement]
    split
    · exact bound
    · rename_i old isOld
      split
      · have shrinks := base.tcpConnections.total_erase connection.addr.1 fun _ count => count
        omega
      · have changes := base.tcpConnections.total_set connection.addr.1 (old - 1)
          fun _ count => count
        rw [Dict.share_of_get? isOld] at changes
        omega
  · intro other
    refine (mem_discardTask base id other).trans ?_
    simp only [Server.setStage, discardTask, exists_modified isAt]
    by_cases same : other = id
    · simp [same, inactive]
    · simp [same, tables.tasks other]

theorem TcpTables.left {base : Server} (tables : TcpTables config base) {id : Nat}
    {connection : Connection} (isAt : base.connections[id]? = some connection)
    (active : connection.stage.active = true) (decremented watched : Bool) :
    TcpTables config (base.leave id connection decremented watched).1 := by
  have cleaning : (if watched then Stage.unwatching else Stage.closing) = .unwatching ∨
      (if watched then Stage.unwatching else Stage.closing) = .closing := by
    cases watched <;> simp
  cases isReliable : connection.isReliable with
  | true =>
      rw [leave_tcp base id isReliable]
      exact tables.disconnected isAt active isReliable cleaning
  | false =>
      rw [leave_udp base id isReliable]
      refine tables.setStage isAt _ rfl rfl (by simp [isReliable]) (fun other => ?_)
      refine (mem_discardTask base id other).trans ?_
      by_cases same : other = id
      · rcases cleaning with stage | stage <;> simp [same, stage, Stage.active]
      · simp [same]

theorem TcpTables.appended {server after : Server} (tables : TcpTables config server)
    {connection : Connection} (created : connection.stage = .created)
    (connections : after.connections = server.connections ++ [connection])
    (tcpConnections : after.tcpConnections = server.tcpConnections)
    (connTasks : after.connTasks = server.connTasks) : TcpTables config after where
  counted ip := by
    rw [tcpConnections, connections, tables.counted ip, List.countP_append]
    simp [Counted, created, Stage.active]
  positive ip count found := by
    rw [tcpConnections] at found
    exact tables.positive ip count found
  ipBound ip := by
    rw [tcpConnections]
    exact tables.ipBound ip
  bound := by
    rw [tcpConnections]
    exact tables.bound
  tasks id := by
    rw [connTasks, connections, exists_appended, tables.tasks id]
    by_cases last : id = server.connections.length
    · subst last
      simp [created, Stage.active]
    · simp [last]

theorem TcpTables.congr {before after : Server} (tables : TcpTables config before)
    (same : SameTables before after) : TcpTables config after where
  counted ip := by
    rw [same.tcpConnections, same.connections]
    exact tables.counted ip
  positive ip count found := by
    rw [same.tcpConnections] at found
    exact tables.positive ip count found
  ipBound ip := by
    rw [same.tcpConnections]
    exact tables.ipBound ip
  bound := by
    rw [same.tcpConnections]
    exact tables.bound
  tasks id := by
    rw [same.connTasks, same.connections]
    exact tables.tasks id

theorem TcpTables.task_iff {server : Server} (tables : TcpTables config server) {id : Nat}
    {connection : Connection} (isAt : server.connections[id]? = some connection) :
    id ∈ server.connTasks ↔ connection.stage.active = true := by
  rw [tables.tasks id, isAt]
  simp

theorem TcpTables.change {P : Primitives} {before after : Server} {action : ServerAction}
    (tables : TcpTables config before) (change : Change P config before action after) :
    TcpTables config after := by
  cases change with
  | quiet same => exact tables.congr same
  | accepted addr => exact tables.appended rfl rfl rfl rfl
  | allocated data addr => exact tables.appended rfl rfl rfl rfl
  | rejected id connection isAt created isReliable =>
      refine tables.setStage isAt _ rfl rfl (fun _ => by rw [created]; rfl) (fun other => ?_)
      rw [mem_discardTask, mem_addTask]
      by_cases same : other = id <;> simp [same, Stage.active]
  | admitted id connection isAt created isReliable room ipRoom =>
      exact tables.admitted isAt created isReliable room ipRoom
  | started id connection isAt created unreliable =>
      refine tables.setStage isAt _ rfl rfl (by simp [unreliable]) (fun other => ?_)
      rw [mem_addTask]
      by_cases same : other = id <;> simp [same, Stage.active]
  | served same id connection isAt handshaking isReliable =>
      refine tables.setStage isAt _ same.connections same.tcpConnections
        (fun _ => by rw [handshaking]; rfl) (fun other => ?_)
      rw [same.connTasks]
      by_cases isId : other = id
      · subst isId
        simp [tables.task_iff isAt, handshaking, Stage.active]
      · simp [isId]
  | promoted same id connection isAt handshaking unreliable room ipRoom =>
      refine tables.setStage isAt _ same.connections same.tcpConnections
        (fun _ => by rw [handshaking]; rfl) (fun other => ?_)
      refine (iff_of_eq (congrArg (other ∈ ·) same.connTasks)).trans ?_
      by_cases isId : other = id
      · subst isId
        simp [tables.task_iff isAt, handshaking, Stage.active]
      · simp [isId]
  | left same id connection watched isAt active =>
      exact (tables.congr same).left (by rw [same.connections, isAt]) active _ watched
  | cleaned id connection stage isAt cleaning =>
      have inactive : connection.stage.active = false ∧ stage.active = false := by
        rcases cleaning with ⟨was, rfl⟩ | ⟨was, rfl⟩ <;> simp [was, Stage.active]
      refine tables.setStage isAt _ rfl rfl (fun _ => by rw [inactive.1, inactive.2])
        (fun other => ?_)
      by_cases isId : other = id
      · subst isId
        simp [tables.task_iff isAt, inactive]
      · simp [isId]

theorem TcpTables.new (config : ServerConfig) (failedHandshakes : FailedHandshakes) :
    TcpTables config (.new failedHandshakes) where
  counted _ := rfl
  positive ip count found := by simp [Server.new] at found
  ipBound _ := Nat.zero_le _
  bound := Nat.zero_le _
  tasks id := by simp [Server.new]

theorem tcpTables_of_run {P : Primitives} {failedHandshakes : FailedHandshakes}
    {actions : List ServerAction} {server : Server}
    (reached : Machine.run (step P config) (.new failedHandshakes) actions = some server) :
    TcpTables config server :=
  Machine.run_invariant' (TcpTables config)
    (fun _ _ _ tables stepped => tables.change (change_of_step stepped))
    (.new config failedHandshakes) reached

/-- The counters of TCP connections are exact, keep both limits and hold no empty entry, and
a connection that is rejected at its start leaves no trace. -/
structure TcpAccounting (P : Primitives) (config : ServerConfig) (server : Server) : Prop where
  counted : ∀ ip, (server.tcpConnections.get? ip).getD 0 = server.connections.countP (Counted ip)
  ipBound : ∀ ip, (server.tcpConnections.get? ip).getD 0 ≤ config.maxConnectionsPerIp
  bound : (server.tcpConnections.entries.map Prod.snd).sum ≤ config.maxConnections
  positive : ∀ ip count, server.tcpConnections.get? ip = some count → 0 < count
  rejected : ∀ id after connection, server.step P config (.start id) = some after →
    after.connections[id]? = some connection → connection.stage = .finished →
    after.tcpConnections = server.tcpConnections ∧ after.connTasks = server.connTasks

theorem tcp_connection_accounting (P : Primitives) (config : ServerConfig)
    (failedHandshakes : FailedHandshakes) (actions : List ServerAction) (server : Server)
    (reached : Machine.run (step P config) (.new failedHandshakes) actions = some server) :
    TcpAccounting P config server := by
  have tables := tcpTables_of_run reached
  refine ⟨tables.counted, tables.ipBound, tables.bound, tables.positive, ?_⟩
  intro id after connection stepped isAfter finished
  rcases Option.map_eq_some_iff.mp stepped with ⟨result, performed, rfl⟩
  simp only [perform] at performed
  split at performed <;> try cases performed
  rename_i before isAt
  split at performed <;> cases performed
  rename_i created
  have unknown : id ∉ server.connTasks := by
    rw [tables.task_iff isAt, created]
    decide
  have untouched : ((server.addTask id).discardTask id).connTasks = server.connTasks := by
    simp only [discardTask, addTask, unknown, if_false, List.filter_append]
    have kept : (server.connTasks.filter fun other => decide (other ≠ id)) = server.connTasks := by
      apply List.filter_eq_self.mpr
      intro other member
      apply decide_eq_true
      intro same
      exact unknown (same ▸ member)
    rw [kept]
    simp
  have admitted : ∀ {base : Server}, base.connections = server.connections →
      (base.setStage id .handshaking).connections[id]? ≠ some connection := by
    intro base same isConnection
    simp only [setStage, same, List.getElem?_modify_eq, isAt, Option.map_eq_map,
      Option.map_some, Option.some.injEq] at isConnection
    subst isConnection
    cases finished
  unfold startTask at isAfter ⊢
  dsimp only at isAfter ⊢
  split at isAfter
  · rename_i isReliable
    split at isAfter
    · rename_i full
      simp only [isReliable, if_true, full]
      exact ⟨rfl, untouched⟩
    split at isAfter
    · rename_i room full
      simp only [isReliable, if_true, room, if_false, full]
      exact ⟨rfl, untouched⟩
    · exact absurd isAfter (admitted rfl)
  · exact absurd isAfter (admitted rfl)

/-- One connection is served, a second is rejected, and a third takes the place that the first
leaves when its handler raises. -/
def rejectedConnection : List ServerAction :=
  [.accept ("10.0.0.1", 1), .accept ("10.0.0.1", 2), .start 0, .start 1,
    .handshakeEnds 0 .established 1, .handlerEnds 0 (some ⟨.connectionResetError, ""⟩) 2,
    .accept ("10.0.0.1", 3), .start 2, .proceed 0, .cancel 0, .accept ("10.0.0.2", 4)]

theorem tcp_connection_accounting_rejectedConnection :
    ∃ server,
      Machine.run (step samplePrimitives tightConfig) (.new {}) rejectedConnection =
          some server ∧
        server.tcpConnections.entries = [("10.0.0.1", 1)] ∧ server.connTasks = [2] ∧
        TcpAccounting samplePrimitives tightConfig server := by
  rcases Machine.exists_run (step samplePrimitives tightConfig) (.new {}) rejectedConnection
    (fun server => server.tcpConnections.entries = [("10.0.0.1", 1)] ∧ server.connTasks = [2])
    (by decide +kernel) with ⟨server, reached, entries, tasks⟩
  exact ⟨server, reached, entries, tasks,
    tcp_connection_accounting samplePrimitives tightConfig {} rejectedConnection server reached⟩

end Server

end Usmp
