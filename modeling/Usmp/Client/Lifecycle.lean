import Usmp.Lib.Dict
import Usmp.Session.Dialogue

/-!
# The life of a client

`USMPClient` has one transport and one session at a time.  As long as its calls of `connect` and
`disconnect` do not overlap, no transport leaks: one that is open is that of the `connect` in
progress or of the current session.
-/

namespace Usmp

/-- Where a coroutine of the client stands that is not one of its session. -/
inductive ClientTask where
  /-- `await transport_cls.connect(self._host, self._port)`. -/
  | opening
  /-- `await asyncio.wait_for(client_handshake(...))`. -/
  | handshaking
  /-- `await self._session.bye()`, a coroutine of that session. -/
  | leaving (index : Nat)
  deriving DecidableEq, Repr

/-- `USMPSession(self._transport, info)`. -/
structure ClientSession where
  session : Session
  transport : Option Nat

/-- A client.  Transports and sessions are known by the number of those before them. -/
structure Client where
  /-- `is_reliable` of the transport class. -/
  isReliable : Bool
  /-- `self._transport`. -/
  transport : Option Nat := none
  /-- `self._session`. -/
  session : Option Nat := none
  tasks : Dict Nat ClientTask := {}
  /-- The number of transports that were opened. -/
  opened : Nat := 0
  /-- Those on which `close` was called. -/
  closed : List Nat := []
  sessions : List ClientSession := []
  /-- How the calls ended that are not coroutines of a session. -/
  outcomes : List (Nat × Outcome) := []

/-- A call that the client passes on to its session. -/
inductive ClientCall where
  | send (data : Bytes)
  | recv
  | ping

def ClientCall.op : ClientCall → Op
  | .send data => .send data
  | .recv => .recv
  | .ping => .ping

inductive ClientAction where
  | connect (task : Nat)
  /-- `transport_cls.connect` returned a transport. -/
  | opened (task : Nat)
  /-- It raised. -/
  | openFails (task : Nat) (exn : Exn)
  | handshakeEnds (task : Nat) (result : Except Exn SessionInfo) (now : Rat)
  /-- A `connect` is cancelled. -/
  | cancel (task : Nat)
  | call (task : Nat) (call : ClientCall) (now : Rat)
  | disconnect (task : Nat) (now : Rat)
  /-- A coroutine of a session goes on. -/
  | resume (index : Nat) (action : SessionAction)
  /-- A transport is closed from below. -/
  | lost (transport : Nat)

/-- Whether the action is a new call. -/
def SessionAction.isCall : SessionAction → Bool
  | .call _ _ _ => true
  | .acquire _ | .wrote _ _ _ | .read _ _ _ | .readHeader _ _ | .cancel _ => false

def notConnected : Exn := ⟨.notConnectedError, "Not connected. Call connect() first."⟩

/-- What `connect` raises for an exception of the handshake. -/
def connectExcept (exn : Exn) : Exn :=
  if exn.caughtBy [.timeoutError] then ⟨.usmpTimeoutError, "Handshake timed out"⟩ else exn

namespace Client

def setTask (client : Client) (task : Nat) (at_ : ClientTask) : Client :=
  { client with tasks := client.tasks.set task at_ }

/-- How a call ended. -/
def record (client : Client) (task : Nat) (outcomes : List Outcome) : Client :=
  { client with outcomes := client.outcomes ++ outcomes.map (Prod.mk task) }

def finish (client : Client) (task : Nat) (outcomes : List Outcome) : Client :=
  { client with tasks := client.tasks.erase task }.record task outcomes

/-- `transport.close()`, if there is one. -/
def close (client : Client) (transport : Option Nat) : Client :=
  { client with closed := client.closed ++ transport.toList }

/-- The `except` clause of `connect`. -/
def abandon (client : Client) : Client :=
  { client.close client.transport with transport := none }

/-- The end of `connect`. -/
def establish (client : Client) (info : SessionInfo) (now : Rat) : Client :=
  { client with
    session := some client.sessions.length
    sessions := client.sessions ++
      [{ session := .new client.isReliable info now, transport := client.transport }] }

/-- The `finally` clause of `disconnect`. -/
def leave (client : Client) : Client :=
  { client.close client.transport with session := none, transport := none }

/-- A step of a session with what it asks of its transport. -/
def perform (client : Client) (index : Nat) (transport : Option Nat)
    (result : Session × Effects) : Client :=
  let client :=
    { client with sessions := client.sessions.set index { session := result.1, transport } }
  if result.2.calls.contains .close then client.close transport else client

/-- A coroutine of a session goes on; if it is the `bye` of a `disconnect` and ends, so does the
`disconnect`. -/
def resume (P : Primitives) (client : Client) (index : Nat) (action : SessionAction) :
    Option Client :=
  match client.sessions[index]? with
  | none => none
  | some entry =>
      match entry.session.step P action with
      | none => none
      | some result =>
          let client := client.perform index entry.transport result
          if client.tasks.get? action.task = some (.leaving index) ∧
              result.1.tasks action.task = none then
            some (client.leave.finish action.task
              (result.1.outcomes.filterMap fun outcome =>
                if outcome.1 = action.task then some outcome.2 else none))
          else
            some client

def step (P : Primitives) (client : Client) : ClientAction → Option Client
  | .connect task =>
      if client.tasks.get? task = none then some (client.setTask task .opening) else none
  | .opened task =>
      if client.tasks.get? task = some .opening then
        some ({ client with
          transport := some client.opened
          opened := client.opened + 1 }.setTask task .handshaking)
      else none
  | .openFails task exn =>
      if client.tasks.get? task = some .opening then some (client.finish task [.raised exn])
      else none
  | .handshakeEnds task result now =>
      if client.tasks.get? task = some .handshaking then
        match result with
        | .error exn => some (client.abandon.finish task [.raised (connectExcept exn)])
        | .ok info =>
            some ((client.establish info now).finish task [.returned none])
      else none
  | .cancel task =>
      match client.tasks.get? task with
      | some .opening => some (client.finish task [.cancelled])
      | some .handshaking => some (client.abandon.finish task [.cancelled])
      | some (.leaving _) | none => none
  | .call task call now =>
      match client.session with
      | none => some (client.record task [.raised notConnected])
      | some index => client.resume P index (.call task call.op now)
  | .disconnect task now =>
      if client.tasks.get? task = none then
        match client.session with
        | none => some ({ client with transport := none }.record task [.returned none])
        | some index => (client.setTask task (.leaving index)).resume P index (.call task .bye now)
      else none
  | .resume index action => if action.isCall then none else client.resume P index action
  | .lost transport => some (client.close (some transport))

/-! ## Calls that do not overlap -/

/-- A client connects only while it is not connected and does nothing else, and does not
disconnect while it connects. -/
def Exclusive (client : Client) : ClientAction → Prop
  | .connect _ => client.session = none ∧ client.tasks.entries = []
  | .disconnect _ _ =>
      ∀ entry ∈ client.tasks.entries, entry.2 ≠ .opening ∧ entry.2 ≠ .handshaking
  | .opened _ | .openFails _ _ | .handshakeEnds _ _ _ | .cancel _ | .call _ _ _ | .resume _ _
  | .lost _ => True

instance (client : Client) : (action : ClientAction) → Decidable (client.Exclusive action)
  | .connect _ => inferInstanceAs (Decidable (_ ∧ _))
  | .disconnect _ _ => inferInstanceAs (Decidable (∀ entry ∈ client.tasks.entries, _))
  | .opened _ | .openFails _ _ | .handshakeEnds _ _ _ | .cancel _ | .call _ _ _ | .resume _ _
  | .lost _ => isTrue trivial

/-- What a coroutine of `connect` or `disconnect` knows about the client. -/
inductive Stands (client : Client) (task : Nat) : ClientTask → Prop where
  | opening (noTransport : client.transport = none) (noSession : client.session = none)
      (alone : ∀ other at_, client.tasks.get? other = some at_ → other = task) :
      Stands client task .opening
  | handshaking (transport : Nat) (isTransport : client.transport = some transport)
      (noSession : client.session = none)
      (alone : ∀ other at_, client.tasks.get? other = some at_ → other = task) :
      Stands client task .handshaking
  | leaving (index : Nat) (entry : ClientSession)
      (only : ∀ other, client.session = some other → other = index)
      (isEntry : client.sessions[index]? = some entry) (closed : entry.session.closed = true) :
      Stands client task (.leaving index)

/-- Who owns the transports. -/
structure Owned (client : Client) : Prop where
  inUse : ∀ transport, transport < client.opened → transport ∉ client.closed →
    client.transport = some transport
  known : ∀ transport, client.transport = some transport → transport < client.opened
  used : ∀ index entry, client.sessions[index]? = some entry →
    ∃ transport, entry.transport = some transport ∧ transport < client.opened ∧
      (client.transport = some transport → client.session = some index)
  left : ∀ index entry, client.sessions[index]? = some entry → client.session ≠ some index →
    entry.session.closed = true
  current : ∀ index, client.session = some index →
    ∃ entry, client.sessions[index]? = some entry ∧ entry.transport = client.transport
  tasks : ∀ task at_, client.tasks.get? task = some at_ → client.Stands task at_
  owner : ∀ transport, client.transport = some transport →
    client.session.isSome ∨ ∃ task, client.tasks.get? task = some .handshaking

theorem Owned.new (isReliable : Bool) : Owned { isReliable } := by
  constructor <;> simp

/-! ### One step -/

variable {client : Client}

/-- A coroutine that ends the transport it has. -/
theorem Owned.idle (owned : Owned client) (noSession : client.session = none)
    (noHandshake : ∀ task, client.tasks.get? task ≠ some .handshaking) :
    client.transport = none := by
  cases isTransport : client.transport with
  | none => rfl
  | some transport =>
      rcases owned.owner transport isTransport with isSome | ⟨task, handshaking⟩
      · rw [noSession] at isSome
        cases isSome
      · exact absurd handshaking (noHandshake task)

/-- Fewer coroutines know no less. -/
theorem Stands.fewer {before after : Client} {task : Nat} {at_ : ClientTask}
    (stands : before.Stands task at_) (transport : after.transport = before.transport)
    (session : after.session = before.session) (sessions : after.sessions = before.sessions)
    (fewer : ∀ other at_, after.tasks.get? other = some at_ →
      before.tasks.get? other = some at_) : after.Stands task at_ := by
  cases stands with
  | opening noTransport noSession alone =>
      exact .opening (transport.trans noTransport) (session.trans noSession)
        fun other at_ isAt => alone other at_ (fewer other at_ isAt)
  | handshaking number isTransport noSession alone =>
      exact .handshaking number (transport.trans isTransport) (session.trans noSession)
        fun other at_ isAt => alone other at_ (fewer other at_ isAt)
  | leaving index entry only isEntry closed =>
      exact .leaving index entry (session ▸ only) (sessions ▸ isEntry) closed

theorem get?_finish {task other : Nat} {outcomes : List Outcome} {at_ : ClientTask}
    (isAt : (client.finish task outcomes).tasks.get? other = some at_) :
    other ≠ task ∧ client.tasks.get? other = some at_ := by
  simp only [finish, record, Dict.get?_erase] at isAt
  split at isAt
  · cases isAt
  · exact ⟨‹_›, isAt⟩

/-- A coroutine ends that opened no transport. -/
theorem Owned.finish (owned : Owned client) {task : Nat} (outcomes : List Outcome)
    (notHandshaking : client.tasks.get? task ≠ some .handshaking) :
    Owned (client.finish task outcomes) := by
  refine ⟨owned.inUse, owned.known, owned.used, owned.left, owned.current, ?_, ?_⟩
  · intro other at_ isAt
    exact (owned.tasks other at_ (get?_finish isAt).2).fewer rfl rfl rfl
      fun _ _ isAt => (get?_finish isAt).2
  · intro transport isTransport
    rcases owned.owner transport isTransport with isSome | ⟨other, handshaking⟩
    · exact .inl isSome
    · refine .inr ⟨other, ?_⟩
      simp only [Client.finish, record, Dict.get?_erase]
      rw [if_neg]
      · exact handshaking
      · rintro rfl
        exact notHandshaking handshaking

/-- A `connect` begins. -/
theorem Owned.connecting (owned : Owned client) (task : Nat) (noSession : client.session = none)
    (nothing : client.tasks.entries = []) : Owned (client.setTask task .opening) := by
  have noTask : ∀ other, client.tasks.get? other = none := by
    intro other
    rw [Dict.get?, nothing]
    rfl
  have only : ∀ other at_, (client.setTask task .opening).tasks.get? other = some at_ →
      other = task ∧ at_ = .opening := by
    intro other at_ isAt
    simp only [setTask, Dict.get?_set] at isAt
    split at isAt
    · exact ⟨‹_›, (Option.some.inj isAt).symm⟩
    · rw [noTask] at isAt
      cases isAt
  have noTransport := owned.idle noSession (by simp [noTask])
  refine ⟨owned.inUse, owned.known, owned.used, owned.left, owned.current, ?_, ?_⟩
  · intro other at_ isAt
    rcases only other at_ isAt with ⟨rfl, rfl⟩
    exact .opening noTransport noSession fun third at_ isAt => (only third at_ isAt).1
  · intro transport isTransport
    rw [setTask, noTransport] at isTransport
    cases isTransport

/-- The transport of a `connect` is there. -/
theorem Owned.opening (owned : Owned client) {task : Nat}
    (opening : client.tasks.get? task = some .opening) :
    Owned ({ client with
      transport := some client.opened
      opened := client.opened + 1 }.setTask task .handshaking) := by
  cases owned.tasks task _ opening with
  | opening noTransport noSession alone =>
      have only : ∀ other at_, (client.tasks.set task .handshaking).get? other = some at_ →
          other = task ∧ at_ = .handshaking := by
        intro other at_ isAt
        rw [Dict.get?_set] at isAt
        split at isAt
        · exact ⟨‹_›, (Option.some.inj isAt).symm⟩
        · exact absurd (alone other at_ isAt) ‹_›
      refine ⟨?_, ?_, ?_, owned.left, ?_, ?_, ?_⟩
      · intro transport isOpened isOpen
        rcases Nat.lt_succ_iff_lt_or_eq.mp isOpened with old | rfl
        · have impossible := owned.inUse transport old isOpen
          rw [noTransport] at impossible
          cases impossible
        · rfl
      · intro transport isTransport
        cases isTransport
        exact Nat.lt_succ_self _
      · intro index entry isEntry
        rcases owned.used index entry isEntry with ⟨transport, given, isOpened, _⟩
        refine ⟨transport, given, Nat.lt_succ_of_lt isOpened, ?_⟩
        intro same
        cases same
        exact absurd isOpened (Nat.lt_irrefl _)
      · intro index isSession
        rw [setTask, noSession] at isSession
        cases isSession
      · intro other at_ isAt
        rcases only other at_ isAt with ⟨rfl, rfl⟩
        exact .handshaking client.opened rfl noSession fun third at_ isAt => (only third at_ isAt).1
      · intro transport _
        exact .inr ⟨task, by simp [setTask, Dict.get?_set]⟩

/-- The handshake of a `connect` fails. -/
theorem Owned.abandon (owned : Owned client) {task : Nat} (outcomes : List Outcome)
    (handshaking : client.tasks.get? task = some .handshaking) :
    Owned (client.abandon.finish task outcomes) := by
  cases owned.tasks task _ handshaking with
  | handshaking transport isTransport noSession alone =>
      refine ⟨?_, ?_, ?_, owned.left, ?_, ?_, ?_⟩
      · intro other isOpened isOpen
        simp only [Client.finish, record, Client.abandon, close, isTransport, Option.toList_some,
          List.mem_append, List.mem_singleton, not_or] at isOpen
        have same := owned.inUse other isOpened isOpen.1
        rw [isTransport] at same
        cases same
        exact absurd rfl isOpen.2
      · intro other isOther
        cases isOther
      · intro index entry isEntry
        rcases owned.used index entry isEntry with ⟨given, isGiven, isOpened, _⟩
        exact ⟨given, isGiven, isOpened, fun same => by cases same⟩
      · intro index isSession
        have impossible := noSession.symm.trans isSession
        cases impossible
      · intro other at_ isAt
        rcases get?_finish isAt with ⟨differs, isAt⟩
        exact absurd (alone other at_ isAt) differs
      · intro other isOther
        cases isOther

/-- The handshake of a `connect` succeeds. -/
theorem Owned.establish (owned : Owned client) {task : Nat} (info : SessionInfo) (now : Rat)
    (outcomes : List Outcome) (handshaking : client.tasks.get? task = some .handshaking) :
    Owned ((client.establish info now).finish task outcomes) := by
  cases owned.tasks task _ handshaking with
  | handshaking transport isTransport noSession alone =>
      have entries : ∀ {index : Nat} {entry : ClientSession},
          (client.establish info now).sessions[index]? = some entry →
          client.sessions[index]? = some entry ∨ index = client.sessions.length ∧
            entry =
              { session := .new client.isReliable info now, transport := client.transport } := by
        intro index entry isEntry
        simp only [Client.establish] at isEntry
        rcases Nat.lt_or_ge index client.sessions.length with old | new
        · rw [List.getElem?_append_left old] at isEntry
          exact .inl isEntry
        · rw [List.getElem?_append_right new, List.getElem?_singleton] at isEntry
          split at isEntry <;> cases isEntry
          exact .inr ⟨by omega, rfl⟩
      refine ⟨owned.inUse, owned.known, ?_, ?_, ?_, ?_, ?_⟩
      · intro index entry isEntry
        rcases entries isEntry with old | ⟨rfl, rfl⟩
        · rcases owned.used index entry old with ⟨given, isGiven, isOpened, isUsed⟩
          refine ⟨given, isGiven, isOpened, ?_⟩
          intro same
          have impossible := noSession.symm.trans (isUsed same)
          cases impossible
        · exact ⟨transport, isTransport, owned.known transport isTransport, fun _ => rfl⟩
      · intro index entry isEntry notCurrent
        rcases entries isEntry with old | ⟨rfl, rfl⟩
        · apply owned.left index entry old
          rw [noSession]
          simp
        · exact absurd rfl notCurrent
      · intro index isSession
        cases isSession
        exact ⟨_, List.getElem?_concat_length, rfl⟩
      · intro other at_ isAt
        rcases get?_finish isAt with ⟨differs, isAt⟩
        exact absurd (alone other at_ isAt) differs
      · intro other _
        exact .inl rfl

/-- A call ends that was no coroutine. -/
theorem Owned.record (owned : Owned client) (task : Nat) (outcomes : List Outcome) :
    Owned (client.record task outcomes) :=
  ⟨owned.inUse, owned.known, owned.used, owned.left, owned.current,
    fun task at_ isAt => (owned.tasks task at_ isAt).fewer rfl rfl rfl fun _ _ => id, owned.owner⟩

/-- A transport is closed that is not the client's, or from below. -/
theorem Owned.close (owned : Owned client) (transport : Option Nat) :
    Owned (client.close transport) :=
  ⟨fun other isOpened isOpen => owned.inUse other isOpened fun closed =>
    isOpen (List.mem_append_left _ closed), owned.known, owned.used, owned.left, owned.current,
    fun task at_ isAt => (owned.tasks task at_ isAt).fewer rfl rfl rfl fun _ _ => id, owned.owner⟩

theorem closed_of_step {P : Primitives} {session : Session} {action : SessionAction}
    {result : Session × Effects} (stepped : session.step P action = some result)
    (closed : session.closed = true) : result.1.closed = true := by
  rcases result with ⟨after, effects⟩
  rcases Session.progress_of_step stepped with ⟨base, fate, progress, rfl⟩
  simp only [Session.settle_frame]
  cases progress with
  | called task op now isNew => simp [closed]
  | _ => exact closed

/-- A coroutine of a session goes on. -/
theorem Owned.perform (owned : Owned client) {P : Primitives} {index : Nat}
    {entry : ClientSession} {action : SessionAction} {result : Session × Effects}
    (isEntry : client.sessions[index]? = some entry)
    (stepped : entry.session.step P action = some result) :
    Owned (client.perform index entry.transport result) := by
  have stays : entry.session.closed = true → result.1.closed = true :=
    closed_of_step stepped
  have entries : ∀ {other : Nat} {after : ClientSession},
      (client.sessions.set index ⟨result.1, entry.transport⟩)[other]? = some after →
      ∃ before, client.sessions[other]? = some before ∧ after.transport = before.transport ∧
        (before.session.closed = true → after.session.closed = true) := by
    intro other after isAfter
    rw [List.getElem?_set] at isAfter
    split at isAfter
    · rename_i same
      subst same
      split at isAfter <;> cases isAfter
      exact ⟨entry, isEntry, rfl, stays⟩
    · exact ⟨after, isAfter, rfl, id⟩
  have kept : ∀ {other : Nat} {before : ClientSession}, client.sessions[other]? = some before →
      ∃ after, (client.sessions.set index ⟨result.1, entry.transport⟩)[other]? = some after ∧
        after.transport = before.transport ∧
        (before.session.closed = true → after.session.closed = true) := by
    intro other before isBefore
    rw [List.getElem?_set]
    by_cases same : index = other
    · subst same
      rw [isEntry] at isBefore
      cases isBefore
      rw [if_pos rfl, if_pos (List.getElem?_eq_some_iff.mp isEntry).1]
      exact ⟨_, rfl, rfl, stays⟩
    · rw [if_neg same]
      exact ⟨before, isBefore, rfl, id⟩
  have quiet : Owned { client with
      sessions := client.sessions.set index ⟨result.1, entry.transport⟩ } := by
    refine ⟨owned.inUse, owned.known, ?_, ?_, ?_, ?_, owned.owner⟩
    · intro other after isAfter
      rcases entries isAfter with ⟨before, isBefore, same, _⟩
      rcases owned.used other before isBefore with ⟨transport, given, rest⟩
      exact ⟨transport, same.trans given, rest⟩
    · intro other after isAfter notCurrent
      rcases entries isAfter with ⟨before, isBefore, _, closes⟩
      exact closes (owned.left other before isBefore notCurrent)
    · intro other isSession
      rcases owned.current other isSession with ⟨before, isBefore, given⟩
      rcases kept isBefore with ⟨after, isAfter, same, _⟩
      exact ⟨after, isAfter, same.trans given⟩
    · intro task at_ isAt
      cases owned.tasks task at_ isAt with
      | opening noTransport noSession alone => exact .opening noTransport noSession alone
      | handshaking transport isTransport noSession alone =>
          exact .handshaking transport isTransport noSession alone
      | leaving other before only isBefore closed =>
          rcases kept isBefore with ⟨after, isAfter, _, closes⟩
          exact .leaving other after only isAfter (closes closed)
  simp only [Client.perform]
  split
  · exact quiet.close _
  · exact quiet

/-- A `disconnect` awaits the `bye` of the current session. -/
theorem Owned.disconnecting (owned : Owned client) {task index : Nat} {entry : ClientSession}
    (isSession : client.session = some index) (isEntry : client.sessions[index]? = some entry)
    (closed : entry.session.closed = true) : Owned (client.setTask task (.leaving index)) := by
  have isAt : ∀ other at_, (client.tasks.set task (.leaving index)).get? other = some at_ →
      at_ = .leaving index ∨ client.tasks.get? other = some at_ := by
    intro other at_ isAt
    rw [Dict.get?_set] at isAt
    split at isAt
    · exact .inl (Option.some.inj isAt).symm
    · exact .inr isAt
  have connected : ∀ {other at_}, client.tasks.get? other = some at_ →
      ∃ index entry, at_ = .leaving index ∧ (∀ other, client.session = some other → other = index) ∧
        client.sessions[index]? = some entry ∧ entry.session.closed = true := by
    intro other at_ isAt
    cases owned.tasks other at_ isAt with
    | opening noTransport noSession alone =>
        rw [isSession] at noSession
        cases noSession
    | handshaking transport isTransport noSession alone =>
        rw [isSession] at noSession
        cases noSession
    | leaving index entry only isEntry closed => exact ⟨index, entry, rfl, only, isEntry, closed⟩
  refine ⟨owned.inUse, owned.known, owned.used, owned.left, owned.current, ?_, ?_⟩
  · intro other at_ set
    rcases isAt other at_ set with rfl | old
    · refine .leaving index entry ?_ isEntry closed
      intro third isThird
      exact Option.some.inj (isThird.symm.trans isSession)
    · rcases connected old with ⟨index, entry, rfl, only, isEntry, closed⟩
      exact .leaving index entry only isEntry closed
  · intro transport _
    left
    rw [setTask, isSession]
    rfl

/-- A `disconnect` ends. -/
theorem Owned.leave (owned : Owned client) {task index : Nat} (outcomes : List Outcome)
    (leaving : client.tasks.get? task = some (.leaving index)) :
    Owned (client.leave.finish task outcomes) := by
  cases owned.tasks task _ leaving with
  | leaving index entry only isEntry closed =>
      refine ⟨?_, ?_, ?_, ?_, ?_, ?_, ?_⟩
      · intro other isOpened isOpen
        simp only [Client.finish, Client.record, Client.leave, Client.close, List.mem_append,
          Option.mem_toList, not_or] at isOpen
        exact absurd (owned.inUse other isOpened isOpen.1) isOpen.2
      · intro other isOther
        cases isOther
      · intro other before isBefore
        rcases owned.used other before isBefore with ⟨transport, given, isOpened, _⟩
        exact ⟨transport, given, isOpened, fun same => by cases same⟩
      · intro other before isBefore _
        by_cases current : client.session = some other
        · cases only other current
          have same : entry = before := Option.some.inj (isEntry.symm.trans isBefore)
          rw [← same]
          exact closed
        · exact owned.left other before isBefore current
      · intro other isSession
        cases isSession
      · intro other at_ isAt
        rcases get?_finish isAt with ⟨differs, isAt⟩
        cases owned.tasks other at_ isAt with
        | opening noTransport noSession alone => exact absurd (alone task _ leaving).symm differs
        | handshaking transport isTransport noSession alone =>
            exact absurd (alone task _ leaving).symm differs
        | leaving index entry only isEntry closed =>
            exact .leaving index entry (fun _ isSession => by cases isSession) isEntry closed
      · intro other isOther
        cases isOther

theorem Owned.resume (owned : Owned client) {P : Primitives} {index : Nat}
    {action : SessionAction} {next : Client}
    (resumed : client.resume P index action = some next) : Owned next := by
  unfold Client.resume at resumed
  split at resumed
  · cases resumed
  rename_i entry isEntry
  split at resumed
  · cases resumed
  rename_i result stepped
  have performed := owned.perform isEntry stepped
  dsimp only at resumed
  split at resumed <;> cases resumed
  · rename_i ends
    exact performed.leave _ ends.1
  · exact performed

/-- A `disconnect` calls `bye` on the current session. -/
theorem Owned.disconnect (owned : Owned client) {P : Primitives} {task index : Nat} {now : Rat}
    {next : Client} (isSession : client.session = some index)
    (resumed : (client.setTask task (.leaving index)).resume P index (.call task .bye now) =
      some next) : Owned next := by
  unfold Client.resume at resumed
  split at resumed
  · cases resumed
  rename_i entry isEntry
  split at resumed
  · cases resumed
  rename_i result stepped
  have closes : result.1.closed = true := by
    rcases result with ⟨after, effects⟩
    rcases Session.progress_of_step stepped with ⟨base, fate, progress, rfl⟩
    simp only [Session.settle_frame]
    cases progress with
    | called task op now isNew => simp
    | encrypted _ _ locked admitted ready unspent => cases ready
    | refused _ _ locked admitted ready spent notBye exn => cases ready
  have performed := owned.perform isEntry stepped
  have isAfter : (client.perform index entry.transport result).sessions[index]? =
      some ⟨result.1, entry.transport⟩ := by
    simp only [Client.perform]
    split <;> exact List.getElem?_set_self (List.getElem?_eq_some_iff.mp isEntry).1
  have stillSession : (client.perform index entry.transport result).session = some index := by
    simp only [Client.perform]
    split <;> exact isSession
  have disconnecting : Owned ((client.perform index entry.transport result).setTask task
      (.leaving index)) :=
    performed.disconnecting stillSession isAfter closes
  have same : (client.perform index entry.transport result).setTask task (.leaving index) =
      (client.setTask task (.leaving index)).perform index entry.transport result := by
    simp only [Client.perform, setTask]
    split <;> rfl
  rw [same] at disconnecting
  dsimp only at resumed
  split at resumed <;> cases resumed
  · rename_i ends
    exact disconnecting.leave _ ends.1
  · exact disconnecting

theorem Owned.step (owned : Owned client) {P : Primitives} {action : ClientAction} {next : Client}
    (exclusive : client.Exclusive action) (stepped : client.step P action = some next) :
    Owned next := by
  cases action with
  | connect task =>
      simp only [Client.step] at stepped
      split at stepped <;> cases stepped
      exact owned.connecting task exclusive.1 exclusive.2
  | opened task =>
      simp only [Client.step] at stepped
      split at stepped <;> cases stepped
      exact owned.opening ‹_›
  | openFails task exn =>
      simp only [Client.step] at stepped
      split at stepped <;> cases stepped
      rename_i opening
      exact owned.finish _ (by rw [opening]; simp)
  | handshakeEnds task result now =>
      simp only [Client.step] at stepped
      split at stepped
      case isFalse => cases stepped
      rename_i handshaking
      cases result with
      | error exn =>
          cases stepped
          exact owned.abandon _ handshaking
      | ok info =>
          cases stepped
          exact owned.establish info now _ handshaking
  | cancel task =>
      simp only [Client.step] at stepped
      split at stepped <;> cases stepped
      · rename_i opening
        exact owned.finish _ (by rw [opening]; simp)
      · rename_i handshaking
        exact owned.abandon _ handshaking
  | call task call now =>
      simp only [Client.step] at stepped
      split at stepped
      · cases stepped
        exact owned.record task _
      · exact owned.resume stepped
  | disconnect task now =>
      simp only [Client.step] at stepped
      split at stepped
      case isFalse => cases stepped
      split at stepped
      · rename_i noSession
        cases stepped
        have noHandshake : ∀ task, client.tasks.get? task ≠ some .handshaking := by
          intro task isAt
          rcases Dict.split_of_get? isAt with ⟨front, back, split, _⟩
          exact (exclusive (task, .handshaking) (by rw [split]; simp)).2 rfl
        have same : ({ client with transport := none } : Client) = client := by
          rw [← owned.idle noSession noHandshake]
        rw [same]
        exact owned.record task _
      · rename_i index isSession
        exact owned.disconnect isSession stepped
  | resume index action =>
      simp only [Client.step] at stepped
      split at stepped
      · cases stepped
      · exact owned.resume stepped
  | lost transport =>
      cases stepped
      exact owned.close _

/-- As long as `connect` and `disconnect` do not overlap: a transport that is open is the client's,
and a `connect` in progress or the current session has it; and every other session that there was
has said goodbye, and its transport is closed. -/
theorem transports_owned (P : Primitives) (isReliable : Bool) (actions : List ClientAction)
    (final : Client) (reached : Machine.run (step P) { isReliable } actions = some final)
    (exclusive : Machine.Along (step P) Exclusive { isReliable } actions) :
    (∀ transport, transport < final.opened → transport ∉ final.closed →
        final.transport = some transport ∧
          ((∃ task, final.tasks.get? task = some .handshaking) ∨
            ∃ index entry, final.session = some index ∧ final.sessions[index]? = some entry ∧
              entry.transport = some transport)) ∧
      ∀ index entry, final.sessions[index]? = some entry → final.session ≠ some index →
        entry.session.closed = true ∧
          ∃ transport ∈ final.closed, entry.transport = some transport := by
  have owned := Machine.run_invariant Owned
    (fun _ _ _ owned exclusive stepped => owned.step exclusive stepped) (.new isReliable) exclusive
    reached
  constructor
  · intro transport isOpened isOpen
    have isTransport := owned.inUse transport isOpened isOpen
    refine ⟨isTransport, ?_⟩
    rcases owned.owner transport isTransport with isSome | handshaking
    · rcases Option.isSome_iff_exists.mp isSome with ⟨index, isSession⟩
      rcases owned.current index isSession with ⟨entry, isEntry, given⟩
      exact .inr ⟨index, entry, isSession, isEntry, given.trans isTransport⟩
    · exact .inl handshaking
  · intro index entry isEntry notCurrent
    rcases owned.used index entry isEntry with ⟨transport, given, isOpened, isUsed⟩
    refine ⟨owned.left index entry isEntry notCurrent, transport, ?_, given⟩
    by_contra isOpen
    exact notCurrent (isUsed (owned.inUse transport isOpened isOpen))

/-- A handshake that times out, a session that ends while a message is being written, and a
session that goes on. -/
def threeConnects : List ClientAction :=
  [.connect 0, .opened 0, .handshakeEnds 0 (.error ⟨.timeoutError, ""⟩) 0, .call 1 .ping 0,
    .connect 2, .opened 2, .handshakeEnds 2 (.ok (sampleInfo 3 4)) 0, .call 3 (.send [7]) 0,
    .resume 0 (.acquire 3), .disconnect 4 0, .resume 0 (.wrote 3 none 0), .resume 0 (.acquire 4),
    .resume 0 (.wrote 4 (some ⟨.osError, "not acknowledged"⟩) 0), .connect 5, .opened 5,
    .handshakeEnds 5 (.ok (sampleInfo 5 6)) 0]

theorem transports_owned_threeConnects :
    ∃ final, Machine.run (step samplePrimitives) { isReliable := false } threeConnects =
        some final ∧
      final.outcomes = [(0, .raised ⟨.usmpTimeoutError, "Handshake timed out"⟩),
        (1, .raised notConnected), (2, .returned none), (4, .returned none), (5, .returned none)] ∧
      final.opened = 3 ∧ final.closed = [0, 1, 1] ∧
      ∀ index entry, final.sessions[index]? = some entry → final.session ≠ some index →
        entry.session.closed = true ∧
          ∃ transport ∈ final.closed, entry.transport = some transport := by
  rcases Machine.exists_run (step samplePrimitives) { isReliable := false } threeConnects
    (fun final => final.outcomes = [(0, .raised ⟨.usmpTimeoutError, "Handshake timed out"⟩),
        (1, .raised notConnected), (2, .returned none), (4, .returned none),
        (5, .returned none)] ∧ final.opened = 3 ∧ final.closed = [0, 1, 1])
    (by decide +kernel) with ⟨final, reached, outcomes, opened, closed⟩
  exact ⟨final, reached, outcomes, opened, closed, (transports_owned samplePrimitives false
    threeConnects final reached (by decide +kernel)).2⟩

end Client

end Usmp
