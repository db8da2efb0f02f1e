import Usmp.Lib.Machine
import Usmp.Server.Cookie
import Usmp.Server.Limiter
import Usmp.Udp.Stream

/-!
# The server and its connection tasks

The tables of `USMPServer`, the datagram callback of `UDPListener` and the connection
task `_on_transport_connect`, from one await to the next.  An environment brings
datagrams and TCP connections, decides how each handshake and each session handler
ends, and cancels tasks.  What a step asks of the transports is listed as effects.

A connection is known by the number of connections before it; a UDP connection's stream
by the same number.
-/

namespace Usmp

open LittleEndian

/-- The arguments of `USMPServer` that its accounting uses. -/
structure ServerConfig where
  maxConnections : Nat := 100
  maxConnectionsPerIp : Nat := 5
  cookieSecret : Bytes

/-- Where a connection task stands. -/
inductive Stage where
  /-- The task has not started. -/
  | created
  /-- `await asyncio.wait_for(self._run_handshake(transport))`. -/
  | handshaking
  /-- `await self._handler(session)`. -/
  | serving
  /-- `await watchdog_task`, in the clean-up. -/
  | unwatching
  /-- `await transport.wait_closed()`, in the clean-up. -/
  | closing
  | finished
  deriving DecidableEq, Repr

structure Connection where
  addr : Addr
  isReliable : Bool
  stage : Stage := .created
  deriving DecidableEq, Repr

structure Server where
  tcpConnections : Dict String Nat := {}
  udpSessions : Dict Addr Nat := {}
  udpHandshakes : Dict Addr Nat := {}
  udpInProgressHandshakes : Dict String Nat := {}
  udpCookieRateLimiter : CookieLimiter := {}
  failedHandshakes : FailedHandshakes := {}
  connTasks : List Nat := []
  connections : List Connection := []

/-- What a step asks of the transports. -/
inductive ServerEffect where
  | sendto (addr : Addr) (data : Bytes)
  /-- `stream.feed_packet(data)`. -/
  | feed (id : Nat) (data : Bytes)
  /-- `transport.close()`. -/
  | close (id : Nat)
  deriving DecidableEq, Repr

/-- How `_run_handshake` ends. -/
inductive HandshakeOutcome where
  | established
  /-- The lockout at the start of `server_handshake`. -/
  | lockedOut
  | failed (exn : Exn)
  /-- The timeout of `wait_for`. -/
  | timedOut

/-- `table[key] -= 1`, and the entry goes with its last unit. -/
def decrement (table : Dict String Nat) (key : String) : Dict String Nat :=
  match table.get? key with
  | none => table
  | some count => if count - 1 = 0 then table.erase key else table.set key (count - 1)

namespace Server

/-- A server that has just started.  The table of failed handshakes is the package's. -/
def new (failedHandshakes : FailedHandshakes) : Server := { failedHandshakes }

def setStage (server : Server) (id : Nat) (stage : Stage) : Server :=
  { server with
    connections := server.connections.modify id fun connection => { connection with stage } }

def discardTask (server : Server) (id : Nat) : Server :=
  { server with connTasks := server.connTasks.filter (· ≠ id) }

def addTask (server : Server) (id : Nat) : Server :=
  { server with
    connTasks := if id ∈ server.connTasks then server.connTasks else server.connTasks ++ [id] }

/-! ## The datagram callback -/

/-- The packet type that `_handle_udp_datagram` routes by. -/
def routedType (data : Bytes) : Option Nat :=
  if UDPStream.isUtack data then some (fieldAt data 2 1)
  else if data.length ≥ 12 then some (fieldAt data 3 1)
  else none

/-- The lockout and the limits that a HELLO with a valid cookie meets. -/
def admitsHandshake (config : ServerConfig) (server : Server) (ip : String) (mono : Rat) : Bool :=
  !isLockedOut server.failedHandshakes ip mono &&
    !((server.udpInProgressHandshakes.get? ip).getD 0 ≥ 3) &&
    !(server.udpHandshakes.size ≥ config.maxConnections * 2)

/-- A new stream, its table entries, its first datagram and its task. -/
def allocateHandshake (server : Server) (data : Bytes) (addr : Addr) :
    Server × List ServerEffect :=
  let inProgress := (server.udpInProgressHandshakes.get? addr.1).getD 0
  let id := server.connections.length
  ({ server with
      udpInProgressHandshakes := server.udpInProgressHandshakes.set addr.1 (inProgress + 1)
      udpHandshakes := server.udpHandshakes.set addr id
      connections := server.connections ++ [{ addr, isReliable := false }] },
    [.feed id data])

/-- A HELLO without a cookie: a UTACK and a HELLO_RETRY, and no state but the limiter's. -/
def answerHello (P : Primitives) (config : ServerConfig) (server : Server) (data : Bytes)
    (addr : Addr) (wall mono : Rat) : Server × List ServerEffect :=
  let (limiter, allowed) := allowUdpCookie server.udpCookieRateLimiter addr.1 mono
  let server := { server with udpCookieRateLimiter := limiter }
  if allowed then
    let cookie := issueCookie P config.cookieSecret addr wall
    (server, [.sendto addr (utackHeader (fieldAt data 3 1) (fieldAt data 4 4)),
      .sendto addr (frameBytes .helloRetry cookie 0)])
  else
    (server, [])

/-- Whether the datagram starts a handshake. -/
def startsHandshake (P : Primitives) (config : ServerConfig) (server : Server) (data : Bytes)
    (addr : Addr) (wall mono : Rat) : Bool :=
  data.length = 66 &&
    cookieValid P config.cookieSecret addr wall ((data.drop 50).take 16) &&
    server.admitsHandshake config addr.1 mono

/-- A datagram of a handshake type. -/
def routeHandshake (P : Primitives) (config : ServerConfig) (server : Server) (type : Nat)
    (data : Bytes) (addr : Addr) (wall mono : Rat) : Server × List ServerEffect :=
  match server.udpHandshakes.get? addr with
  | some id => (server, [.feed id data])
  | none =>
      if type ≠ 0x01 then
        (server, [])
      else if data.length = 50 then
        server.answerHello P config data addr wall mono
      else if server.startsHandshake P config data addr wall mono then
        server.allocateHandshake data addr
      else
        (server, [])

/-- `self._udp_handshakes.get(addr) or self._udp_sessions.get(addr)`. -/
def routeSession (server : Server) (data : Bytes) (addr : Addr) : Server × List ServerEffect :=
  match (server.udpHandshakes.get? addr).or (server.udpSessions.get? addr) with
  | some id => (server, [.feed id data])
  | none => (server, [])

def handleUdpDatagram (P : Primitives) (config : ServerConfig) (server : Server) (data : Bytes)
    (addr : Addr) (wall mono : Rat) : Server × List ServerEffect :=
  match routedType data with
  | some type =>
      if type < 5 then server.routeHandshake P config type data addr wall mono
      else server.routeSession data addr
  | none => server.routeSession data addr

/-! ## The connection task -/

/-- Admission: a TCP connection must fit both limits before its handshake. -/
def startTask (config : ServerConfig) (server : Server) (id : Nat) (connection : Connection) :
    Server × List ServerEffect :=
  let server := server.addTask id
  if connection.isReliable then
    let ip := connection.addr.1
    let ipCount := (server.tcpConnections.get? ip).getD 0
    if server.tcpConnections.total (fun _ count => count) ≥ config.maxConnections then
      ((server.discardTask id).setStage id .finished, [.close id])
    else if ipCount ≥ config.maxConnectionsPerIp then
      ((server.discardTask id).setStage id .finished, [.close id])
    else
      ({ server with tcpConnections := server.tcpConnections.set ip (ipCount + 1) }.setStage id
        .handshaking, [])
  else
    (server.setStage id .handshaking, [])

/-- The `finally` block up to its first await. -/
def leave (server : Server) (id : Nat) (connection : Connection)
    (handshakeDecremented watched : Bool) : Server × List ServerEffect :=
  let server := server.discardTask id
  let server :=
    if connection.isReliable then
      { server with tcpConnections := decrement server.tcpConnections connection.addr.1 }
    else
      let server :=
        if handshakeDecremented then server
        else
          { server with
            udpInProgressHandshakes :=
              decrement server.udpInProgressHandshakes connection.addr.1 }
      { server with
        udpHandshakes :=
          if server.udpHandshakes.get? connection.addr = some id then
            server.udpHandshakes.erase connection.addr
          else server.udpHandshakes
        udpSessions :=
          if server.udpSessions.get? connection.addr = some id then
            server.udpSessions.erase connection.addr
          else server.udpSessions }
  if watched then
    (server.setStage id .unwatching, [])
  else
    (server.setStage id .closing, [.close id])

/-- `record_failed_handshake(limiter_key)` in an `except` clause: what it raises itself
leaves the clause in place of the exception. -/
def recordFailure (server : Server) (ip : String) (now : Rat) (exn : Exn) : Server × Exn :=
  match recordFailedHandshake server.failedHandshakes ip now with
  | .ok failedHandshakes => ({ server with failedHandshakes }, exn)
  | .error raised => (server, raised)

/-- The `except` clauses of `server_handshake`. -/
def handshakeExcept (server : Server) (ip : String) (now : Rat) (exn : Exn) : Server × Exn :=
  if exn.caughtBy [.incompleteReadError, .connectionResetError, .connectionAbortedError,
      .eofError, .osError] then
    (server, exn)
  else if exn.caughtBy [.usmpError, .valueError, .structError] then
    server.recordFailure ip now exn
  else
    (server, exn)

/-- The `except` clauses of `_on_transport_connect`. -/
def connectExcept (server : Server) (ip : String) (now : Rat) (exn : Exn) : Server :=
  if exn.caughtBy [.handshakeError] then server
  else if exn.caughtBy [.timeoutError, .usmpTimeoutError] then
    (server.recordFailure ip now exn).1
  else server

/-- A UDP session takes its place in the tables, or finds no room. -/
def promote (config : ServerConfig) (server : Server) (id : Nat) (connection : Connection) :
    Server × List ServerEffect :=
  let addr := connection.addr
  let server :=
    { server with
      udpInProgressHandshakes := decrement server.udpInProgressHandshakes addr.1 }
  if server.udpSessions.size ≥ config.maxConnections ∨
      server.udpSessions.count (fun other _ => other.1 = addr.1) ≥ config.maxConnectionsPerIp then
    let (server, effects) := server.leave id connection true false
    (server, .close id :: effects)
  else
    let closing :=
      match server.udpSessions.get? addr with
      | some old => [.close old]
      | none => []
    ({ server with
        udpSessions := server.udpSessions.set addr id
        udpHandshakes := server.udpHandshakes.erase addr }.setStage id .serving, closing)

/-- The rest of the task after `_run_handshake` ended. -/
def handshakeEnds (config : ServerConfig) (server : Server) (id : Nat) (connection : Connection)
    (now : Rat) : HandshakeOutcome → Server × List ServerEffect
  | .established =>
      let server :=
        { server with failedHandshakes := server.failedHandshakes.erase connection.addr.1 }
      if connection.isReliable then (server.setStage id .serving, [])
      else server.promote config id connection
  | .lockedOut => server.leave id connection false false
  | .failed exn =>
      let (server, exn) := server.handshakeExcept connection.addr.1 now exn
      (server.connectExcept connection.addr.1 now exn).leave id connection false false
  | .timedOut =>
      (server.connectExcept connection.addr.1 now ⟨.timeoutError, ""⟩).leave id connection
        false false

/-- `CancelledError` at the await of a task. -/
def cancelTask (server : Server) (id : Nat) (connection : Connection) :
    Option (Server × List ServerEffect) :=
  match connection.stage with
  | .created | .finished => none
  | .handshaking => some (server.leave id connection false false)
  | .serving => some (server.leave id connection true true)
  | .unwatching => some (server.setStage id .closing, [.close id])
  | .closing => some (server.setStage id .finished, [])

end Server

/-- An event-loop step. -/
inductive ServerAction where
  | datagram (data : Bytes) (addr : Addr) (wall mono : Rat)
  /-- A new TCP connection. -/
  | accept (addr : Addr)
  | start (id : Nat)
  | handshakeEnds (id : Nat) (outcome : HandshakeOutcome) (now : Rat)
  /-- The session handler returned, or raised. -/
  | handlerEnds (id : Nat) (raised : Option Exn) (now : Rat)
  /-- An await of the clean-up is over. -/
  | proceed (id : Nat)
  | cancel (id : Nat)

namespace Server

def perform (P : Primitives) (config : ServerConfig) (server : Server) :
    ServerAction → Option (Server × List ServerEffect)
  | .datagram data addr wall mono =>
      some (server.handleUdpDatagram P config data addr wall mono)
  | .accept addr =>
      some ({ server with connections := server.connections ++ [{ addr, isReliable := true }] },
        [])
  | .start id =>
      match server.connections[id]? with
      | some connection =>
          if connection.stage = .created then some (server.startTask config id connection)
          else none
      | none => none
  | .handshakeEnds id outcome now =>
      match server.connections[id]? with
      | some connection =>
          if connection.stage = .handshaking then
            some (server.handshakeEnds config id connection now outcome)
          else none
      | none => none
  | .handlerEnds id raised now =>
      match server.connections[id]? with
      | some connection =>
          if connection.stage = .serving then
            let server :=
              match raised with
              | some exn => server.connectExcept connection.addr.1 now exn
              | none => server
            some (server.leave id connection true true)
          else none
      | none => none
  | .proceed id =>
      match server.connections[id]? with
      | some connection =>
          match connection.stage with
          | .unwatching => some (server.setStage id .closing, [.close id])
          | .closing => some (server.setStage id .finished, [])
          | .created | .handshaking | .serving | .finished => none
      | none => none
  | .cancel id =>
      match server.connections[id]? with
      | some connection => server.cancelTask id connection
      | none => none

/-- The server on its own: what it asks of the transports is not looked at. -/
def step (P : Primitives) (config : ServerConfig) (server : Server) (action : ServerAction) :
    Option Server :=
  (server.perform P config action).map Prod.fst

end Server

end Usmp
