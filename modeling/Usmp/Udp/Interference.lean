import Usmp.Udp.Noise

/-!
# Datagrams of others do not interfere

The run of an end among datagrams of others, and the run of the same end without them.  Both
resume the same calls in the same order; the first one also resumes a `recv` for each of the
other datagrams that came into the read buffer.
-/

namespace Usmp

open UDPStream UdpPeer

/-- A datagram in the read buffer. -/
structure Queued where
  genuine : Bool
  data : Bytes
  deriving DecidableEq, Repr

/-- An end among datagrams of others. -/
structure NoisyPeer where
  peer : UdpPeer
  /-- The datagrams that the read buffer consists of. -/
  queue : List Queued := []
  /-- The sequences of the frames accepted under the keys in use. -/
  accepted : List Nat := []

inductive NoisyAction where
  /-- What the end does without the other datagrams. -/
  | genuine (action : UdpAction)
  /-- Another datagram arrives. -/
  | junk (data : Bytes)
  /-- A `recv` reads another datagram. -/
  | drop (task : Nat) (now : Rat)

/-- The action of the end without the other datagrams. -/
def NoisyAction.genuine? : NoisyAction → Option UdpAction
  | .genuine action => some action
  | .junk _ | .drop _ _ => none

/-- The datagrams of the queue that are genuine, one after the other. -/
def genuineBytes (queue : List Queued) : Bytes :=
  ((queue.filter Queued.genuine).map Queued.data).flatten

/-- The sequence of the frame that an action makes the session accept. -/
def UdpPeer.accepts (P : Primitives) (peer : UdpPeer) (action : UdpAction) : Option Nat :=
  (peer.sessionAction action).bind (Windowed.accepts P peer.session)

namespace NoisyPeer

/-- A datagram arrives. -/
def arrive (P : Primitives) (noisy : NoisyPeer) (item : Queued) : NoisyPeer :=
  let peer := noisy.peer.feed P item.data
  { noisy with
    peer
    queue :=
      if peer.stream.readBuffer.length > noisy.peer.stream.readBuffer.length then
        noisy.queue ++ [item]
      else
        noisy.queue }

/-- The end takes a step that leaves these datagrams in its buffer. -/
def advance (P : Primitives) (noisy : NoisyPeer) (action : UdpAction) (queue : List Queued) :
    Option NoisyPeer :=
  (noisy.peer.step P action).map fun peer =>
    { peer
      queue
      accepted :=
        if peer.session.epochs.length = noisy.peer.session.epochs.length then
          (noisy.peer.accepts P action).toList ++ noisy.accepted
        else
          [] }

def step (P : Primitives) (noisy : NoisyPeer) : NoisyAction → Option NoisyPeer
  | .genuine (.feed data) => some (noisy.arrive P ⟨true, data⟩)
  | .genuine (.resume task now) =>
      match noisy.queue with
      | [] => noisy.advance P (.resume task now) []
      | ⟨true, _⟩ :: rest => noisy.advance P (.resume task now) rest
      | ⟨false, _⟩ :: _ => none
  | .genuine action => noisy.advance P action noisy.queue
  | .junk data => some (noisy.arrive P ⟨false, data⟩)
  | .drop task now =>
      match noisy.queue with
      | ⟨false, _⟩ :: rest => noisy.advance P (.resume task now) rest
      | ⟨true, _⟩ :: _ | [] => none

/-- A datagram that does not decode, whose AEAD check fails under the current `rx_key`, or
that repeats an accepted frame. -/
def rejected (P : Primitives) (noisy : NoisyPeer) (data : Bytes) : Bool :=
  let info := noisy.peer.session.info
  match decodeFrame data with
  | .error _ => true
  | .ok frame =>
      noisy.accepted.contains frame.seq ||
        match decrypt P info.rxKey (packNonce frame.seq info.sessionId) frame.seq
            frame.type.toNat frame.version frame.magic frame.length frame.payload
            info.cipherSuite with
        | .error _ => true
        | .ok _ => false

/-- The genuine datagrams are of the session and find room in the read buffer.  The others are
no authentic UTACKs, and none of them is authentic and new when it is read. -/
def OnlyNoise (P : Primitives) (noisy : NoisyPeer) : NoisyAction → Prop
  | .genuine (.feed data) =>
      isFrame data = true → isHandshakeType (typeOf data) = false ∧
        (noisy.peer.stream.seenBefore data = false →
          noisy.peer.stream.readBuffer.length + data.length ≤ maxReadBuffer)
  | .genuine _ => True
  | .junk data =>
      isUtack data = true → fieldAt data 2 1 ≥ 5 →
        noisy.peer.stream.utackAuthentic P data = false
  | .drop _ _ => ∀ item ∈ noisy.queue.head?, noisy.rejected P item.data = true

/-! ## What the end keeps -/

/-- No `recv` has taken a header without its payload. -/
def WholeReads (session : Session) : Prop :=
  ∀ task locals pending, session.tasks task = some (.reading locals pending) → pending = none

/-- The fate of a `recv` that goes on is to read a whole frame. -/
def WholeFate (fate : Fate) : Prop :=
  ∀ locals pending, fate = .suspended (.reading locals pending) → pending = none

theorem wholeFate_recvStep (step : RecvStep) : WholeFate step.fate := by
  intro locals pending isReading
  cases step <;> cases isReading
  rfl

theorem wholeFate_raised (reliable : Bool) (exn : Exn) (locked : Locked) :
    WholeFate (locked.raisedFate reliable exn) := by
  cases locked with
  | pong locals => exact wholeFate_recvStep _
  | bye =>
      intro locals pending isReading
      simp only [Locked.raisedFate] at isReading
      split at isReading <;> cases isReading
  | send data offset | ping | rekey salt =>
      intro locals pending isReading
      cases isReading

theorem wholeFate_start (closed : Bool) (now : Rat) (op : Op) :
    WholeFate (op.start closed now) := by
  intro locals pending isReading
  cases op with
  | send data | bye =>
      simp only [Op.start] at isReading
      split at isReading <;> cases isReading
  | ping | rekey salt => cases isReading
  | recv =>
      cases isReading
      rfl

theorem wholeFate_of_progress {P : Primitives} {session base : Session} {action : SessionAction}
    {fate : Fate} {effects : Effects} (progress : session.Progress P action base fate effects)
    (notHeader : ∀ task header, action ≠ .readHeader task header) : WholeFate fate := by
  cases progress with
  | called task op now => exact wholeFate_start _ now op
  | encrypted | sent | signalled | rekeyed | abandoned | interrupted =>
      intro locals pending isReading
      cases isReading
  | refused task action locked | failed task locked => exact wholeFate_raised _ _ locked
  | ponged | received => exact wholeFate_recvStep _
  | tookHeader task locals header => exact absurd rfl (notHeader task header)

theorem WholeReads.settle {session : Session} (whole : WholeReads session) (task : Nat)
    {fate : Fate} (wholeFate : WholeFate fate) : WholeReads (session.settle task fate) := by
  intro other locals pending reading
  rw [Session.settle_tasks] at reading
  by_cases same : other = task
  · subst same
    rw [Function.update_self] at reading
    cases fate with
    | suspended at_ =>
        exact wholeFate locals pending (congrArg Fate.suspended (Option.some.inj reading))
    | ended outcome => cases reading
  · rw [Function.update_of_ne same] at reading
    exact whole other locals pending reading

theorem tasks_of_progress {P : Primitives} {session base : Session} {action : SessionAction}
    {fate : Fate} {effects : Effects} (progress : session.Progress P action base fate effects) :
    base.tasks = session.tasks := by
  cases progress <;> rfl

theorem WholeReads.performed {P : Primitives} {session after : Session} {action : SessionAction}
    {result : Session × Effects} {at_ : UdpPeer} (whole : WholeReads session)
    (notHeader : ∀ task header, action ≠ .readHeader task header)
    (stepped : session.step P action = some result)
    (done : UdpPeer.Performed at_ result after) : WholeReads after := by
  rcases Session.progress_of_step stepped with ⟨base, fate, progress, isResult⟩
  have wholeBase : WholeReads base := by
    unfold WholeReads
    rw [tasks_of_progress progress]
    exact whole
  have first : WholeReads result.1 := by
    rw [isResult]
    exact wholeBase.settle _ (wholeFate_of_progress progress notHeader)
  cases done with
  | plain => exact first
  | notSent sent locked exn write writing why =>
      rw [Session.raiseLocked_eq]
      have released : WholeReads { result.1 with lock := none } := first
      exact released.settle _ (wholeFate_raised _ exn locked)

/-- Only the session's replay window and its key epoch matter. -/
theorem windowed_of_frame {before after : Session} {accepted : List Nat}
    (inv : Windowed.Inv ⟨before, accepted⟩) (reliable : after.reliable = before.reliable)
    (info : after.info = before.info) : Windowed.Inv ⟨after, accepted⟩ := by
  refine ⟨reliable.trans inv.unreliable, ?_, inv.nodup⟩
  have window := inv.window
  rw [← info] at window
  exact window

theorem windowed_performed {P : Primitives} {session after : Session} {action : SessionAction}
    {result : Session × Effects} {at_ : UdpPeer} {accepted : List Nat}
    (inv : Windowed.Inv ⟨session, accepted⟩) (stepped : session.step P action = some result)
    (done : UdpPeer.Performed at_ result after) :
    Windowed.Inv ⟨after,
      if after.epochs.length = session.epochs.length then
        (Windowed.accepts P session action).toList ++ accepted
      else []⟩ := by
  have moved : Windowed.next P ⟨session, accepted⟩ action = some ⟨result.1,
      if result.1.epochs.length = session.epochs.length then
        (Windowed.accepts P session action).toList ++ accepted
      else []⟩ := by
    simp only [Windowed.next, Session.next, stepped, Option.map_some]
  have first := inv.next moved
  cases done with
  | plain => exact first
  | notSent sent locked exn write writing why =>
      rw [Session.raiseLocked_eq]
      have frame := Session.settle_frame ({ result.1 with lock := none } : Session) sent.task
        (locked.raisedFate result.1.reliable exn)
      rw [frame.2.2.2.2.2.2.2]
      exact windowed_of_frame first frame.1 frame.2.1

theorem awaits_step {P : Primitives} {peer next : UdpPeer} {action : UdpAction}
    (awaits : peer.AwaitsSession) (stepped : peer.step P action = some next) :
    next.AwaitsSession := by
  have idle : ({ peer with arq := none } : UdpPeer).AwaitsSession := fun waits => absurd rfl waits
  cases action with
  | call task op now | acquire task =>
      rcases Option.map_eq_some_iff.mp stepped with ⟨result, onSession, rfl⟩
      exact awaits.perform onSession
  | acked now =>
      simp only [UdpPeer.step] at stepped
      split at stepped <;> try cases stepped
      split at stepped <;> try cases stepped
      rcases Option.map_eq_some_iff.mp stepped with ⟨result, onSession, rfl⟩
      exact idle.perform onSession
  | timeout now =>
      simp only [UdpPeer.step] at stepped
      split at stepped <;> try cases stepped
      rename_i arq inFlight
      split at stepped
      · cases stepped
        intro _
        exact awaits (by simp [inFlight])
      · rcases Option.map_eq_some_iff.mp stepped with ⟨result, onSession, rfl⟩
        exact idle.perform onSession
  | resume task now =>
      simp only [UdpPeer.step, resumeRead] at stepped
      have read : ∀ rest, ({ peer with stream := { peer.stream with readBuffer := rest } } :
          UdpPeer).AwaitsSession := fun rest => awaits
      split at stepped
      case h_2 => cases stepped
      split at stepped
      · rcases Option.map_eq_some_iff.mp stepped with ⟨result, onSession, rfl⟩
        exact (read _).perform onSession
      split at stepped
      · rcases Option.map_eq_some_iff.mp stepped with ⟨result, onSession, rfl⟩
        exact awaits.perform onSession
      split at stepped
      · cases stepped
        exact awaits
      · rcases Option.map_eq_some_iff.mp stepped with ⟨result, onSession, rfl⟩
        exact (read _).perform onSession
  | cancel task =>
      rcases Option.map_eq_some_iff.mp stepped with ⟨result, onSession, rfl⟩
      have kept : ({ peer with arq := if peer.session.lock = some task then none else peer.arq } :
          UdpPeer).AwaitsSession := by
        intro waits
        dsimp only at waits
        split at waits
        · exact absurd rfl waits
        · exact awaits waits
      exact kept.perform onSession
  | feed data =>
      cases stepped
      intro waits
      have unchanged := congrArg UDPStream.pendingSendType (feedPacket_core P peer.stream data)
      rcases awaits waits with ⟨type, pending, session⟩
      exact ⟨type, unchanged.trans pending, session⟩

/-! ## One read -/

/-- A `recv` reads the datagram at the front of the buffer. -/
theorem resume_datagram (P : Primitives) {peer : UdpPeer} {task : Nat} {locals : RecvLocals}
    (now : Rat) {data rest : Bytes}
    (reading : peer.session.tasks task = some (.reading locals none)) (frame : IsFrame data)
    (buffer : peer.stream.readBuffer = data ++ rest) :
    peer.sessionAction (.resume task now) = some (.read task (decodeFrame data) now) ∧
      peer.step P (.resume task now) =
        (peer.session.step P (.read task (decodeFrame data) now)).map
          ({ peer with stream := { peer.stream with readBuffer := rest } } : UdpPeer).perform := by
  have read := readFrame_datagram true frame rest
  constructor
  · simp only [sessionAction, reading, buffer, read]
  · simp only [UdpPeer.step, resumeRead, reading, buffer, read]

/-- With an empty buffer a `recv` waits, unless the stream is closed. -/
theorem resume_empty (P : Primitives) {peer : UdpPeer} {task : Nat} {locals : RecvLocals}
    (now : Rat) (reading : peer.session.tasks task = some (.reading locals none))
    (buffer : peer.stream.readBuffer = []) :
    (∀ header, peer.sessionAction (.resume task now) ≠ some (.readHeader task header)) ∧
      peer.step P (.resume task now) =
        if peer.stream.closed then
          (peer.session.step P
              (.read task (.error ⟨.incompleteReadError, "stream closed"⟩) now)).map peer.perform
        else some peer := by
  have waits : Usmp.readFrame true none [] = (.suspended none, []) := rfl
  constructor
  · intro header
    simp only [sessionAction, reading, buffer, waits]
    split <;> simp
  · simp only [UdpPeer.step, resumeRead, reading, buffer, waits]

/-- Over UDP `recv` goes on after what it rejects, as if it had not been there. -/
theorem read_rejected {P : Primitives} {noisy : NoisyPeer} {data : Bytes} {task : Nat}
    {locals : RecvLocals} (now : Rat)
    (windowed : Windowed.Inv ⟨noisy.peer.session, noisy.accepted⟩)
    (isRejected : noisy.rejected P data = true)
    (reading : noisy.peer.session.tasks task = some (.reading locals none)) :
    noisy.peer.session.step P (.read task (decodeFrame data) now) =
      some (noisy.peer.session, {}) := by
  have unopened : openFrame P false noisy.peer.session.info (decodeFrame data) = .ok none ∨
      ∃ exn, openFrame P false noisy.peer.session.info (decodeFrame data) = .error exn ∧
        exn.Malformed := by
    unfold rejected at isRejected
    cases decoded : decodeFrame data with
    | error exn => exact .inr ⟨exn, rfl, decodeFrame_error decoded⟩
    | ok frame =>
        simp only [decoded, Bool.or_eq_true, List.contains_iff_mem] at isRejected
        cases drops : replayDrops noisy.peer.session.info frame.seq with
        | true => exact .inl (by simp [openFrame, drops])
        | false =>
            right
            have window := windowed.window
            have new := drops
            rw [replayDrops_eq, window.drops_eq_false_iff] at new
            rcases isRejected with old | forged
            · exact absurd old new.1
            split at forged
            · rename_i exn failed
              exact ⟨exn, by simp [openFrame, drops, failed], decrypt_error failed⟩
            · cases forged
  have unreliable : noisy.peer.session.reliable = false := windowed.unreliable
  have turn : recvTurn P noisy.peer.session.reliable noisy.peer.session.info locals now
      (decodeFrame data) = ⟨noisy.peer.session.info, [], false, .next locals⟩ := by
    rw [unreliable]
    unfold recvTurn
    rcases unopened with dropped | ⟨exn, failed, malformed⟩
    · rw [dropped]
    · have caught : (!false && exn.caughtBy [.usmpError, .structError]) = true := malformed
      simp only [failed, caught, if_true]
  have same : Function.update noisy.peer.session.tasks task (some (.reading locals none)) =
      noisy.peer.session.tasks := by
    rw [← reading, Function.update_eq_self]
  simp only [Session.step, reading, Session.readFrame, turn, Session.resumeRecv, Session.park,
    RecvTurn.rotations, List.filterMap_nil, List.append_nil, same, Bool.false_eq_true, if_false]

/-- What holds of every end among datagrams of others. -/
structure Inv (noisy : NoisyPeer) : Prop where
  frames : ∀ item ∈ noisy.queue, IsFrame item.data
  buffer : noisy.peer.stream.readBuffer = (noisy.queue.map Queued.data).flatten
  whole : WholeReads noisy.peer.session
  awaits : noisy.peer.AwaitsSession
  windowed : Windowed.Inv ⟨noisy.peer.session, noisy.accepted⟩

/-- The datagrams left in the buffer are an end of the queue. -/
theorem Inv.advance {P : Primitives} {noisy next : NoisyPeer} {action : UdpAction}
    {queue : List Queued} (inv : Inv noisy) (stepped : noisy.advance P action queue = some next)
    (notHeader : ∀ task header, noisy.peer.sessionAction action ≠ some (.readHeader task header))
    (frames : ∀ item ∈ queue, IsFrame item.data)
    (buffer : next.peer.stream.readBuffer = (queue.map Queued.data).flatten) : Inv next := by
  rcases Option.map_eq_some_iff.mp stepped with ⟨peer, moved, rfl⟩
  have awaits := awaits_step inv.awaits moved
  rcases performed_of_step moved with ⟨idle, same⟩ | ⟨_, result, at_, performs, onSession, done⟩
  · have accepted : noisy.peer.accepts P action = none := by
      rw [UdpPeer.accepts, idle]
      rfl
    refine ⟨frames, buffer, ?_, awaits, ?_⟩
    · dsimp only
      rw [same]
      exact inv.whole
    · dsimp only
      rw [same, accepted, if_pos rfl]
      exact inv.windowed
  · refine ⟨frames, buffer, ?_, awaits, ?_⟩
    · apply inv.whole.performed _ onSession done
      intro task header isHeader
      rw [isHeader] at performs
      exact notHeader task header performs
    · dsimp only
      rw [UdpPeer.accepts, performs]
      exact windowed_performed inv.windowed onSession done

theorem Inv.arrive {P : Primitives} {noisy : NoisyPeer} (inv : Inv noisy) (item : Queued) :
    Inv (noisy.arrive P item) ∧
      ((noisy.arrive P item).queue = noisy.queue ∧
          (noisy.arrive P item).peer.stream.readBuffer = noisy.peer.stream.readBuffer ∨
        (noisy.arrive P item).queue = noisy.queue ++ [item] ∧
          (noisy.arrive P item).peer.stream.readBuffer =
            noisy.peer.stream.readBuffer ++ item.data) := by
  have fed : noisy.peer.step P (.feed item.data) = some (noisy.peer.feed P item.data) := rfl
  have awaits : (noisy.arrive P item).peer.AwaitsSession := awaits_step inv.awaits fed
  rcases feedPacket_readBuffer P noisy.peer.stream item.data with same | ⟨frame, added⟩
  · have still : (noisy.arrive P item).peer.stream.readBuffer = noisy.peer.stream.readBuffer := same
    have kept : (noisy.arrive P item).queue = noisy.queue := by
      simp [NoisyPeer.arrive, UdpPeer.feed, same]
    refine ⟨⟨?_, ?_, inv.whole, awaits, inv.windowed⟩, .inl ⟨kept, still⟩⟩
    · rw [kept]
      exact inv.frames
    · rw [kept, still]
      exact inv.buffer
  · have more : (noisy.arrive P item).peer.stream.readBuffer =
        noisy.peer.stream.readBuffer ++ item.data := added
    have queued : (noisy.arrive P item).queue = noisy.queue ++ [item] := by
      have long := frame.size
      simp [NoisyPeer.arrive, UdpPeer.feed, added, long, usmpHeaderSize]
    refine ⟨⟨?_, ?_, inv.whole, awaits, inv.windowed⟩, .inr ⟨queued, more⟩⟩
    · rw [queued]
      intro other member
      rcases List.mem_append.mp member with old | new
      · exact inv.frames other old
      · rw [List.mem_singleton.mp new]
        exact frame
    · rw [queued, more, inv.buffer]
      simp

/-! ## Both ends -/

/-- An end among datagrams of others, and the same end without them. -/
structure Related (noisy : NoisyPeer) (clean : UdpPeer) : Prop where
  inv : Inv noisy
  same : Same noisy.peer clean
  buffer : clean.stream.readBuffer = genuineBytes noisy.queue

theorem genuineBytes_append (queue : List Queued) (item : Queued) :
    genuineBytes (queue ++ [item]) =
      genuineBytes queue ++ if item.genuine then item.data else [] := by
  cases isGenuine : item.genuine <;> simp [genuineBytes, isGenuine]

theorem length_genuineBytes_le (queue : List Queued) :
    (genuineBytes queue).length ≤ (queue.map Queued.data).flatten.length := by
  induction queue with
  | nil => exact Nat.le_refl _
  | cons item rest ih =>
      have split : genuineBytes (item :: rest) =
          (if item.genuine then item.data else []) ++ genuineBytes rest := by
        cases isGenuine : item.genuine <;> simp [genuineBytes, isGenuine]
      rw [split, List.map_cons, List.flatten_cons, List.length_append, List.length_append]
      cases item.genuine with
      | true => exact Nat.add_le_add_left ih _
      | false => exact Nat.add_le_add (Nat.zero_le _) ih

/-- An action that neither reads nor feeds. -/
def Still : UdpAction → Prop
  | .feed _ | .resume _ _ => False
  | _ => True

/-- Ends that differ by other datagrams take the same steps. -/
theorem same_step {P : Primitives} {noisy clean next : UdpPeer} {action : UdpAction}
    (same : Same noisy clean) (still : Still action) (stepped : noisy.step P action = some next) :
    next.stream.readBuffer = noisy.stream.readBuffer ∧
      ∃ next', clean.step P action = some next' ∧ Same next next' ∧
        next'.stream.readBuffer = clean.stream.readBuffer := by
  have both : ∀ {noisy' clean' : UdpPeer} (sessionAction : SessionAction),
      Same noisy' clean' → noisy'.session = noisy.session →
      noisy'.stream.readBuffer = noisy.stream.readBuffer →
      clean'.stream.readBuffer = clean.stream.readBuffer →
      (noisy.session.step P sessionAction).map noisy'.perform = some next →
      next.stream.readBuffer = noisy.stream.readBuffer ∧
        ∃ next', (clean.session.step P sessionAction).map clean'.perform = some next' ∧
          Same next next' ∧ next'.stream.readBuffer = clean.stream.readBuffer := by
    intro noisy' clean' sessionAction same' isSession buffer buffer' moved
    rcases Option.map_eq_some_iff.mp moved with ⟨result, onSession, rfl⟩
    rw [readBuffer_perform]
    refine ⟨buffer, clean'.perform result, ?_, same'.perform result, ?_⟩
    · rw [same.session, onSession]
      rfl
    · rw [readBuffer_perform]
      exact buffer'
  have idle : Same { noisy with arq := none } { clean with arq := none } :=
    ⟨same.session, rfl, same.stream, fun waits => absurd rfl waits⟩
  cases action with
  | call task op now => exact both (.call task op now) same rfl rfl rfl stepped
  | acquire task => exact both (.acquire task) same rfl rfl rfl stepped
  | acked now =>
      simp only [UdpPeer.step] at stepped ⊢
      rw [same.arq]
      cases inFlight : noisy.arq with
      | none =>
          rw [inFlight] at stepped
          cases stepped
      | some arq =>
          have acked := same.acked (by simp [inFlight])
          simp only [inFlight] at stepped ⊢
          rw [acked]
          split at stepped
          · rename_i isAcked
            rw [if_pos isAcked]
            exact both (.wrote arq.task none now) idle rfl rfl rfl stepped
          · cases stepped
  | timeout now =>
      simp only [UdpPeer.step] at stepped ⊢
      rw [same.arq]
      cases inFlight : noisy.arq with
      | none =>
          rw [inFlight] at stepped
          cases stepped
      | some arq =>
          simp only [inFlight] at stepped ⊢
          split at stepped
          · rename_i again
            rw [if_pos again]
            cases stepped
            refine ⟨rfl, _, rfl, ⟨same.session, rfl, same.stream, ?_⟩, rfl⟩
            intro _
            exact same.acked (by simp [inFlight])
          · rename_i last
            rw [if_neg last]
            exact both (.wrote arq.task (some ⟨.osError, "UDP transmission failed"⟩) now) idle
              rfl rfl rfl stepped
  | cancel task =>
      have left : Same
          { noisy with arq := if noisy.session.lock = some task then none else noisy.arq }
          { clean with arq := if clean.session.lock = some task then none else clean.arq } := by
        refine ⟨same.session, ?_, same.stream, ?_⟩
        · dsimp only
          rw [same.session, same.arq]
        · intro waits
          apply same.acked
          intro isIdle
          dsimp only at waits
          rw [isIdle] at waits
          simp at waits
      exact both (.cancel task) left rfl rfl rfl stepped
  | feed data => exact still.elim
  | resume task now => exact still.elim

theorem Related.fewer {noisy : NoisyPeer} {clean : UdpPeer} (related : Related noisy clean) :
    clean.stream.readBuffer.length ≤ noisy.peer.stream.readBuffer.length := by
  rw [related.buffer, related.inv.buffer]
  exact length_genuineBytes_le noisy.queue

theorem Related.feed {P : Primitives} {noisy : NoisyPeer} {clean : UdpPeer}
    (related : Related noisy clean) {data : Bytes}
    (onlyNoise : OnlyNoise P noisy (.genuine (.feed data))) :
    Related (noisy.arrive P ⟨true, data⟩) (clean.feed P data) := by
  have admits : IsFrame data → _ := fun frame => onlyNoise ((isFrame_iff data).mpr frame)
  have fed : Same (noisy.peer.feed P data) (clean.feed P data) ∧ _ :=
    related.same.feed (fun frame => (admits frame).1) (fun frame => (admits frame).2) related.fewer
  rcases fed with ⟨same, added, noisyBuffer, cleanBuffer⟩
  have arrived := related.inv.arrive (P := P) ⟨true, data⟩
  refine ⟨arrived.1, same, ?_⟩
  have isFed : (noisy.arrive P ⟨true, data⟩).peer = noisy.peer.feed P data := rfl
  rw [cleanBuffer, related.buffer]
  rcases arrived.2 with ⟨queue, buffer⟩ | ⟨queue, buffer⟩
  · rw [isFed, noisyBuffer] at buffer
    rw [queue, List.append_cancel_left (buffer.trans (List.append_nil _).symm), List.append_nil]
  · rw [isFed, noisyBuffer] at buffer
    rw [queue, genuineBytes_append, List.append_cancel_left buffer]
    rfl

theorem Related.junk {P : Primitives} {noisy : NoisyPeer} {clean : UdpPeer}
    (related : Related noisy clean) {data : Bytes} (onlyNoise : OnlyNoise P noisy (.junk data)) :
    Related (noisy.arrive P ⟨false, data⟩) clean := by
  have arrived := related.inv.arrive (P := P) ⟨false, data⟩
  refine ⟨arrived.1, related.same.junk related.inv.awaits onlyNoise, ?_⟩
  rw [related.buffer]
  rcases arrived.2 with ⟨queue, _⟩ | ⟨queue, _⟩
  · rw [queue]
  · rw [queue, genuineBytes_append]
    exact (List.append_nil _).symm

theorem reading_of_resume {P : Primitives} {peer next : UdpPeer} {task : Nat} {now : Rat}
    (stepped : peer.step P (.resume task now) = some next) :
    ∃ locals pending, peer.session.tasks task = some (.reading locals pending) := by
  simp only [UdpPeer.step, resumeRead] at stepped
  split at stepped
  · rename_i locals pending reading
    exact ⟨locals, pending, reading⟩
  · cases stepped

/-- A `recv` that reads a genuine datagram, or finds none, does so in both ends. -/
theorem Related.resume {P : Primitives} {noisy next : NoisyPeer} {clean : UdpPeer}
    (related : Related noisy clean) {task : Nat} {now : Rat} {rest : List Queued}
    (isFirst : (noisy.queue = [] ∧ rest = []) ∨ ∃ data, noisy.queue = ⟨true, data⟩ :: rest)
    (stepped : noisy.advance P (.resume task now) rest = some next) :
    ∃ clean', clean.step P (.resume task now) = some clean' ∧ Related next clean' := by
  rcases Option.map_eq_some_iff.mp stepped with ⟨peer, moved, isNext⟩
  rcases reading_of_resume moved with ⟨locals, pending, reading⟩
  have isWhole := related.inv.whole task locals pending reading
  subst isWhole
  have reading' : clean.session.tasks task = some (.reading locals none) := by
    rw [related.same.session, reading]
  have isPeer : next.peer = peer := by rw [← isNext]
  have isQueue : next.queue = rest := by rw [← isNext]
  have sameClosed : clean.stream.closed = noisy.peer.stream.closed := by
    have both := congrArg UDPStream.closed related.same.stream
    exact both
  rcases isFirst with ⟨empty, rfl⟩ | ⟨data, first⟩
  · have buffer : noisy.peer.stream.readBuffer = [] := by rw [related.inv.buffer, empty]; rfl
    have buffer' : clean.stream.readBuffer = [] := by rw [related.buffer, empty]; rfl
    have waits := resume_empty P now reading buffer
    have waits' := resume_empty P now reading' buffer'
    rw [waits.2] at moved
    rw [waits'.2, sameClosed]
    have notHeader : ∀ other header,
        noisy.peer.sessionAction (.resume task now) ≠ some (.readHeader other header) := by
      intro other header isHeader
      have isTask := task_of_sessionAction isHeader
      cases isTask
      exact waits.1 header isHeader
    have done : ∀ {clean'}, Same peer clean' → peer.stream.readBuffer = [] →
        clean'.stream.readBuffer = [] → Related next clean' := by
      intro clean' same empty empty'
      refine ⟨related.inv.advance stepped notHeader (by simp) ?_, ?_, ?_⟩
      · rw [isPeer, empty]
        rfl
      · rw [isPeer]
        exact same
      · rw [empty', isQueue]
        rfl
    split at moved
    · rename_i isClosed
      rw [if_pos isClosed, related.same.session]
      rcases Option.map_eq_some_iff.mp moved with ⟨result, onSession, rfl⟩
      refine ⟨clean.perform result, by rw [onSession]; rfl, ?_⟩
      apply done (related.same.perform result)
      · rw [readBuffer_perform, buffer]
      · rw [readBuffer_perform, buffer']
    · rename_i isOpen
      cases moved
      rw [if_neg isOpen]
      exact ⟨clean, rfl, done related.same buffer buffer'⟩
  · have frame : IsFrame data := related.inv.frames ⟨true, data⟩ (by simp [first])
    have buffer : noisy.peer.stream.readBuffer = data ++ (rest.map Queued.data).flatten := by
      rw [related.inv.buffer, first]
      rfl
    have buffer' : clean.stream.readBuffer = data ++ genuineBytes rest := by
      rw [related.buffer, first]
      rfl
    have read := resume_datagram P now reading frame buffer
    have read' := resume_datagram P now reading' frame buffer'
    rw [read.2] at moved
    rcases Option.map_eq_some_iff.mp moved with ⟨result, onSession, isResult⟩
    rw [read'.2, related.same.session, onSession]
    refine ⟨_, rfl, ?_⟩
    have left : Same
        { noisy.peer with
          stream := { noisy.peer.stream with readBuffer := (rest.map Queued.data).flatten } }
        { clean with stream := { clean.stream with readBuffer := genuineBytes rest } } :=
      ⟨related.same.session, related.same.arq, related.same.stream, related.same.acked⟩
    refine ⟨related.inv.advance stepped ?_ ?_ ?_, ?_, ?_⟩
    · intro other header isHeader
      rw [read.1] at isHeader
      cases isHeader
    · intro item member
      exact related.inv.frames item (by rw [first]; exact List.mem_cons_of_mem _ member)
    · rw [isPeer, ← isResult, readBuffer_perform]
    · rw [isPeer, ← isResult]
      exact left.perform result
    · rw [readBuffer_perform, isQueue]

/-- A `recv` that reads another datagram does nothing else. -/
theorem Inv.drop {P : Primitives} {noisy next : NoisyPeer} (inv : Inv noisy) {task : Nat}
    {now : Rat} {data : Bytes} {rest : List Queued} (first : noisy.queue = ⟨false, data⟩ :: rest)
    (isRejected : noisy.rejected P data = true)
    (stepped : noisy.advance P (.resume task now) rest = some next) :
    Inv next ∧ next.queue = rest ∧
      next.peer =
        { noisy.peer with
          stream := { noisy.peer.stream with readBuffer := (rest.map Queued.data).flatten } } := by
  rcases Option.map_eq_some_iff.mp stepped with ⟨peer, moved, isNext⟩
  rcases reading_of_resume moved with ⟨locals, pending, reading⟩
  have isWhole := inv.whole task locals pending reading
  subst isWhole
  have frame : IsFrame data := inv.frames ⟨false, data⟩ (by simp [first])
  have buffer : noisy.peer.stream.readBuffer = data ++ (rest.map Queued.data).flatten := by
    rw [inv.buffer, first]
    rfl
  have read := resume_datagram P now reading frame buffer
  rw [read.2, read_rejected now inv.windowed isRejected reading] at moved
  cases moved
  have isPeer : next.peer =
      { noisy.peer with
        stream := { noisy.peer.stream with readBuffer := (rest.map Queued.data).flatten } } := by
    rw [← isNext]
    rfl
  refine ⟨inv.advance stepped ?_ ?_ ?_, ?_, isPeer⟩
  · intro other header isHeader
    rw [read.1] at isHeader
    cases isHeader
  · intro item member
    exact inv.frames item (by rw [first]; exact List.mem_cons_of_mem _ member)
  · rw [isPeer]
  · rw [← isNext]

theorem related_step {P : Primitives} {noisy next : NoisyPeer} {clean : UdpPeer}
    {action : NoisyAction} (related : Related noisy clean) (onlyNoise : OnlyNoise P noisy action)
    (stepped : noisy.step P action = some next) :
    ∃ clean', Machine.run (UdpPeer.step P) clean action.genuine?.toList = some clean' ∧
      Related next clean' := by
  have one : ∀ {action clean'}, clean.step P action = some clean' →
      Machine.run (UdpPeer.step P) clean (some action).toList = some clean' := by
    intro action clean' moved
    exact Machine.run_cons_some.mpr ⟨clean', moved, rfl⟩
  have still : ∀ {action}, Still action → noisy.advance P action noisy.queue = some next →
      ∃ clean', Machine.run (UdpPeer.step P) clean (some action).toList = some clean' ∧
        Related next clean' := by
    intro action isStill advanced
    rcases Option.map_eq_some_iff.mp advanced with ⟨peer, moved, isNext⟩
    rcases same_step related.same isStill moved with ⟨buffer, clean', followed, same, buffer'⟩
    have notHeader : ∀ task header,
        noisy.peer.sessionAction action ≠ some (.readHeader task header) := by
      intro task header isHeader
      cases action with
      | call | acquire | cancel => cases isHeader
      | acked now =>
          rcases Option.map_eq_some_iff.mp isHeader with ⟨arq, _, equal⟩
          cases equal
      | timeout now =>
          simp only [sessionAction] at isHeader
          repeat' split at isHeader
          all_goals cases isHeader
      | feed | resume => exact isStill
    have isPeer : next.peer = peer := by rw [← isNext]
    have isQueue : next.queue = noisy.queue := by rw [← isNext]
    refine ⟨clean', one followed, ?_, ?_, ?_⟩
    · refine related.inv.advance advanced notHeader related.inv.frames ?_
      rw [isPeer, buffer, related.inv.buffer]
    · rw [isPeer]
      exact same
    · rw [buffer', related.buffer, isQueue]
  cases action with
  | genuine action =>
      cases action with
      | feed data =>
          cases stepped
          exact ⟨_, one rfl, related.feed onlyNoise⟩
      | resume task now =>
          simp only [step] at stepped
          split at stepped
          · rename_i empty
            rcases related.resume (.inl ⟨empty, rfl⟩) stepped with ⟨clean', followed, related'⟩
            exact ⟨clean', one followed, related'⟩
          · rename_i data rest first
            rcases related.resume (.inr ⟨data, first⟩) stepped with ⟨clean', followed, related'⟩
            exact ⟨clean', one followed, related'⟩
          · cases stepped
      | call | acquire | acked | timeout | cancel => exact still trivial stepped
  | junk data =>
      cases stepped
      exact ⟨clean, rfl, related.junk onlyNoise⟩
  | drop task now =>
      simp only [step] at stepped
      split at stepped
      · rename_i data rest first
        have isRejected := onlyNoise ⟨false, data⟩ (by simp [first])
        rcases related.inv.drop first isRejected stepped with ⟨inv, queue, peer⟩
        refine ⟨clean, rfl, inv, ?_, ?_⟩
        · rw [peer]
          exact ⟨related.same.session, related.same.arq, related.same.stream, related.same.acked⟩
        · rw [related.buffer, queue, first]
          rfl
      · cases stepped
      · cases stepped

/-- What the other datagrams do is nothing to the session. -/
theorem session_kept {P : Primitives} {noisy next : NoisyPeer} {action : NoisyAction}
    (inv : Inv noisy) (onlyNoise : OnlyNoise P noisy action) (isOther : action.genuine? = none)
    (stepped : noisy.step P action = some next) : next.peer.session = noisy.peer.session := by
  cases action with
  | genuine action => cases isOther
  | junk data =>
      cases stepped
      rfl
  | drop task now =>
      simp only [step] at stepped
      split at stepped
      · rename_i data rest first
        rw [(inv.drop first (onlyNoise ⟨false, data⟩ (by simp [first])) stepped).2.2]
      · cases stepped
      · cases stepped

/-- Among any datagrams of others, an end does what it does without them: its session comes to
the same state, and no datagram of others changes anything in it. -/
theorem others_do_not_interfere (P : Primitives) (info : SessionInfo) (start : info.rxSeq = 0)
    (unmarked : info.rxWindowBitmap = 0) (stream : UDPStream) (queue : List Queued)
    (frames : ∀ item ∈ queue, IsFrame item.data)
    (buffer : stream.readBuffer = (queue.map Queued.data).flatten) (actions : List NoisyAction)
    (onlyNoise : Machine.Along (step P) (OnlyNoise P)
      { peer := { session := .new false info, stream }, queue } actions)
    (noisy : NoisyPeer)
    (reached : Machine.run (step P) { peer := { session := .new false info, stream }, queue }
      actions = some noisy) :
    (∃ clean,
        Machine.run (UdpPeer.step P)
            { session := .new false info
              stream := { stream with readBuffer := genuineBytes queue } }
            (actions.filterMap NoisyAction.genuine?) = some clean ∧
          clean.session = noisy.peer.session ∧
          clean.stream.lastRxSeq = noisy.peer.stream.lastRxSeq) ∧
      Machine.Along (step P)
        (fun before action => action.genuine? = none →
          ∀ after, before.step P action = some after → after.peer.session = before.peer.session)
        { peer := { session := .new false info, stream }, queue } actions := by
  have window : info.Window [] := by
    change SlidingWindow.Represents 64 info.rxSeq info.rxWindowBitmap []
    rw [start, unmarked]
    exact .empty 64
  have initially : Related { peer := { session := .new false info, stream }, queue }
      { session := .new false info
        stream := { stream with readBuffer := genuineBytes queue } } := by
    refine ⟨⟨frames, buffer, ?_, ?_, rfl, window, List.nodup_nil⟩, ⟨rfl, rfl, rfl, ?_⟩, rfl⟩
    · intro task locals pending reading
      cases reading
    · exact fun waits => absurd rfl waits
    · exact fun waits => absurd rfl waits
  constructor
  · rcases Machine.run_simulation NoisyAction.genuine? Related
      (fun _ _ _ _ related onlyNoise stepped => related_step related onlyNoise stepped)
      initially onlyNoise reached with ⟨clean, followed, related⟩
    have lastRxSeq := congrArg UDPStream.lastRxSeq related.same.stream
    exact ⟨clean, followed, related.same.session, lastRxSeq⟩
  · refine Machine.along_of_invariant (fun noisy => ∃ clean, Related noisy clean) ?_ ?_
      ⟨_, initially⟩ onlyNoise
    · rintro before action after ⟨clean, related⟩ onlyNoise stepped
      rcases related_step related onlyNoise stepped with ⟨clean', _, related'⟩
      exact ⟨clean', related'⟩
    · rintro before action ⟨clean, related⟩ onlyNoise isOther after stepped
      exact session_kept related.inv onlyNoise isOther stepped

/-- A message of the other side. -/
def sampleMessage (seq : Nat) (byte : UInt8) : Bytes :=
  (encryptedFrame samplePrimitives (sampleInfo 3 4 seq) 9 (.send [byte] 0)).bytes

/-- Random bytes, a forged frame, a copy, a HELLO and a forged UTACK among two messages. -/
def sampleNoise : List NoisyAction :=
  [.genuine (.call 0 .recv 0), .junk [1, 2, 3], .junk (frameBytes .data [9] 5),
    .genuine (.feed (sampleMessage 0 7)), .drop 0 0, .genuine (.resume 0 0),
    .junk (sampleMessage 0 7), .junk (frameBytes .hello [] 0), .junk (utackHeader 5 0),
    .genuine (.call 1 .recv 0), .genuine (.feed (sampleMessage 1 8)), .drop 1 0, .drop 1 0,
    .genuine (.resume 1 0)]

instance (P : Primitives) (noisy : NoisyPeer) :
    (action : NoisyAction) → Decidable (OnlyNoise P noisy action)
  | .genuine (.feed data) =>
      inferInstanceAs (Decidable (isFrame data = true → isHandshakeType (typeOf data) = false ∧
        (noisy.peer.stream.seenBefore data = false →
          noisy.peer.stream.readBuffer.length + data.length ≤ maxReadBuffer)))
  | .genuine (.call _ _ _) | .genuine (.acquire _) | .genuine (.acked _) | .genuine (.timeout _)
  | .genuine (.resume _ _) | .genuine (.cancel _) => inferInstanceAs (Decidable True)
  | .junk data =>
      inferInstanceAs (Decidable (isUtack data = true → fieldAt data 2 1 ≥ 5 →
        noisy.peer.stream.utackAuthentic P data = false))
  | .drop _ _ =>
      inferInstanceAs (Decidable (∀ item ∈ noisy.queue.head?, noisy.rejected P item.data = true))

theorem others_do_not_interfere_sampleNoise :
    ∃ clean,
      Machine.run (UdpPeer.step samplePrimitives) (samplePeer (sampleInfo 4 3) false)
          (sampleNoise.filterMap NoisyAction.genuine?) = some clean ∧
        clean.session.outcomes = [(0, .returned (some [7])), (1, .returned (some [8]))] := by
  rcases Machine.exists_run (step samplePrimitives)
    { peer := samplePeer (sampleInfo 4 3) false } sampleNoise
    (fun noisy => noisy.peer.session.outcomes =
      [(0, .returned (some [7])), (1, .returned (some [8]))]) (by decide +kernel) with
    ⟨noisy, reached, outcomes⟩
  have ignored := others_do_not_interfere samplePrimitives (sampleInfo 4 3) rfl rfl
    (samplePeer (sampleInfo 4 3) false).stream [] (by simp) rfl sampleNoise (by decide +kernel)
    noisy reached
  rcases ignored.1 with ⟨clean, followed, session, _⟩
  exact ⟨clean, followed, session ▸ outcomes⟩

end NoisyPeer

end Usmp
