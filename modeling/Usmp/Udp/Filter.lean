import Usmp.Udp.Peer
import Usmp.Sample

/-!
# The stale filter and the replay window

Two places decide by a sequence number that a frame is old: `feed_packet`, from
the highest sequence the session confirmed, and the window check of `recv`, from
`rx_seq`.  A rotation of the keys resets the second and not the first.
-/

namespace Usmp

/-- The sequences that a step reports to the stream. -/
def confirmedSeqs (calls : List TransportCall) : List Nat :=
  calls.filterMap fun
    | .confirmAuthenticated seq => some seq
    | .setSessionKeys _ _ | .close => none

/-- `_last_rx_seq` after the sequences were confirmed in turn. -/
def highestSeq (last : Int) (seqs : List Nat) : Int :=
  seqs.foldl (fun last (seq : Nat) => max last (seq : Int)) last

namespace Session

/-- What a step does to the receive position of a UDP session. -/
inductive RxStep (before after : Session) (calls : List TransportCall)
    (read : Option USMPFrame) : Prop where
  | quiet
      (rxSeq : after.info.rxSeq = before.info.rxSeq)
      (bitmap : after.info.rxWindowBitmap = before.info.rxWindowBitmap)
      (epochs : after.epochs = before.epochs)
      (confirmed : confirmedSeqs calls = [])
  | accepted (frame : USMPFrame)
      (isRead : read = some frame)
      (rxSeq : after.info.rxSeq = (markReceived before.info frame.seq).rxSeq)
      (bitmap : after.info.rxWindowBitmap = (markReceived before.info frame.seq).rxWindowBitmap)
      (epochs : after.epochs = before.epochs)
      (confirmed : confirmedSeqs calls = [frame.seq])
  | rotated (keys : Key × Key)
      (rxSeq : after.info.rxSeq = 0)
      (bitmap : after.info.rxWindowBitmap = 0)
      (epochs : after.epochs = before.epochs ++ [keys])
      (confirmed : confirmedSeqs calls = read.toList.map USMPFrame.seq)

/-- The frame that a step hands to `recv`. -/
def frameOf : SessionAction → Option USMPFrame
  | .read _ (.ok frame) _ => some frame
  | _ => none

theorem RxStep.unchanged {before after : Session} {calls : List TransportCall}
    {read : Option USMPFrame} (info : after.info = before.info)
    (epochs : after.epochs = before.epochs) (confirmed : confirmedSeqs calls = []) :
    RxStep before after calls read :=
  .quiet (by rw [info]) (by rw [info]) epochs confirmed

theorem RxStep.congr {before middle after : Session} {calls : List TransportCall}
    {read : Option USMPFrame} (kind : RxStep before middle calls read)
    (info : after.info = middle.info) (epochs : after.epochs = middle.epochs) :
    RxStep before after calls read := by
  cases kind with
  | quiet rxSeq bitmap same confirmed =>
      exact .quiet (info ▸ rxSeq) (info ▸ bitmap) (epochs.trans same) confirmed
  | accepted frame isRead rxSeq bitmap same confirmed =>
      exact .accepted frame isRead (info ▸ rxSeq) (info ▸ bitmap) (epochs.trans same) confirmed
  | rotated keys rxSeq bitmap added confirmed =>
      exact .rotated keys (info ▸ rxSeq) (info ▸ bitmap) (epochs.trans added) confirmed

@[simp] theorem confirmedSeqs_raiseLocked (session : Session) (task : Nat) (locked : Locked)
    (exn : Exn) : confirmedSeqs (session.raiseLocked task locked exn).2.calls = [] := by
  cases locked with
  | bye =>
      simp only [raiseLocked]
      split <;> rfl
  | send data offset | ping | rekey salt | pong locals => rfl

theorem rxStep_raiseLocked (session : Session) (admitted : List (Nat × Locked)) (task : Nat)
    (locked : Locked) (exn : Exn) (read : Option USMPFrame) :
    RxStep session (({ session with admitted } : Session).raiseLocked task locked exn).1
      (({ session with admitted } : Session).raiseLocked task locked exn).2.calls read := by
  have left := left_raiseLocked { session with admitted } task locked exn
  exact .unchanged left.info left.epochs (confirmedSeqs_raiseLocked ..)

theorem rxStep_emit (P : Primitives) (session : Session) (admitted : List (Nat × Locked))
    (task : Nat) (locked : Locked) (read : Option USMPFrame) :
    RxStep session (({ session with admitted } : Session).emit P task locked).1
      (({ session with admitted } : Session).emit P task locked).2.calls read := by
  obtain ⟨_, _, exn, failed⟩ | ⟨_, wrote⟩ := emit_cases P { session with admitted } task locked
  · rw [failed]
    exact rxStep_raiseLocked ..
  · rw [wrote]
    exact .quiet rfl rfl rfl rfl

/-- A `recv` over UDP takes a frame into the window exactly when it confirms it. -/
theorem rxStep_readFrame (P : Primitives) {session : Session} (task : Nat)
    (locals : RecvLocals) (now : Rat) (result : Except Exn USMPFrame)
    (unreliable : session.reliable = false) :
    RxStep session (session.readFrame P task locals now result).1
      (session.readFrame P task locals now result).2.calls
      (frameOf (.read task result now)) := by
  have turn : RxStep session
      { session with
        info := (recvTurn P false session.info locals now result).info
        epochs := session.epochs ++ (recvTurn P false session.info locals now result).rotations }
      (recvTurn P false session.info locals now result).calls
      (frameOf (.read task result now)) := by
    simp only [recvTurn]
    split
    · split <;> exact .quiet rfl rfl (by simp [RecvTurn.rotations]) rfl
    · exact .quiet rfl rfl (by simp [RecvTurn.rotations]) rfl
    rename_i frame plaintext opened
    have isRead : frameOf (.read task result now) = some frame := by
      cases result with
      | error exn => simp [openFrame] at opened
      | ok other =>
          simp only [openFrame] at opened
          split at opened
          · cases opened
          · split at opened <;> cases opened
            rfl
    split
    · exact .quiet rfl rfl (by simp [RecvTurn.rotations]) rfl
    rename_i marked calls accepted
    obtain ⟨_, ⟨impossible, _⟩ | ⟨_, rfl, rfl⟩⟩ := acceptSeq_ok accepted
    · cases impossible
    split
    · exact .accepted frame isRead rfl rfl (by simp [RecvTurn.rotations]) rfl
    · rename_i handled
      obtain ⟨_, rfl, rfl⟩ | ⟨keys, _, _, _, _, rfl, rfl, _⟩ := handleFrame_ok handled
      · exact .accepted frame isRead rfl rfl (by simp [RecvTurn.rotations]) rfl
      · exact .rotated keys rfl rfl (by simp [RecvTurn.rotations]) (by rw [isRead]; rfl)
  rw [readFrame, unreliable]
  exact turn.congr (by simp) (by simp)

theorem rxStep_of_step {P : Primitives} {session : Session} {action : SessionAction}
    {result : Session × Effects} (unreliable : session.reliable = false)
    (stepped : session.step P action = some result) :
    RxStep session result.1 result.2.calls (frameOf action) := by
  cases action with
  | call task op now =>
      simp only [step] at stepped
      split at stepped <;> cases stepped
      cases op with
      | send data =>
          simp only [begin]
          split <;> exact .quiet rfl rfl rfl rfl
      | bye =>
          simp only [begin]
          split <;> exact .quiet rfl rfl rfl rfl
      | ping | rekey salt | recv => exact .quiet rfl rfl rfl rfl
  | acquire task =>
      simp only [step] at stepped
      split at stepped <;> cases stepped
      exact rxStep_emit ..
  | wrote task failure now =>
      simp only [step] at stepped
      split at stepped <;> try cases stepped
      rename_i locked _
      split at stepped <;> cases stepped
      · exact rxStep_raiseLocked session session.admitted task locked _ _
      · cases locked with
        | send data offset =>
            simp only [wroteFrame]
            split
            · exact rxStep_emit P session session.admitted task _ _
            · exact .quiet rfl rfl rfl rfl
        | ping | bye => exact .quiet rfl rfl rfl rfl
        | rekey salt => exact .rotated _ rfl rfl rfl rfl
        | pong locals => exact .unchanged (by simp [wroteFrame]) (by simp [wroteFrame]) rfl
  | read task result now =>
      simp only [step] at stepped
      split at stepped <;> cases stepped
      exact rxStep_readFrame P task _ now result unreliable
  | readHeader task header =>
      simp only [step] at stepped
      split at stepped <;> cases stepped
      exact .quiet rfl rfl rfl rfl
  | cancel task =>
      simp only [step] at stepped
      split at stepped <;> cases stepped
      rename_i at_ _
      unfold cancelTask
      split <;> exact .quiet rfl rfl rfl rfl

end Session

namespace UdpPeer

open Session

theorem lastRxSeq_foldl_applyCall (peer : UdpPeer) (calls : List TransportCall) :
    (calls.foldl applyCall peer).stream.lastRxSeq =
      highestSeq peer.stream.lastRxSeq (confirmedSeqs calls) := by
  induction calls generalizing peer with
  | nil => rfl
  | cons call rest ih =>
      rw [List.foldl_cons, ih]
      cases call with
      | confirmAuthenticated seq =>
          simp only [confirmedSeqs, List.filterMap_cons, highestSeq, List.foldl_cons, applyCall,
            UDPStream.confirmAuthenticated]
          congr 1
          split
          · simp only
            omega
          · omega
      | setSessionKeys txKey rxKey | close => rfl

/-- What a step does to both receive positions: the session's step, and the stream's
record of the sequences it confirmed. -/
def FilterStep (before after : UdpPeer) (read : Option USMPFrame) : Prop :=
  ∃ calls, RxStep before.session after.session calls read ∧
    after.stream.lastRxSeq =
      highestSeq before.stream.lastRxSeq (confirmedSeqs calls) ∧
    after.session.reliable = before.session.reliable

theorem filterStep_applyStep {peer : UdpPeer} {result : Session × Effects}
    {read : Option USMPFrame} (kind : RxStep peer.session result.1 result.2.calls read)
    (reliable : result.1.reliable = peer.session.reliable) :
    FilterStep peer (peer.applyStep result) read :=
  ⟨result.2.calls, by simpa using kind, lastRxSeq_foldl_applyCall _ _, by simpa using reliable⟩

/-- A refused or failed write changes nothing about what was received. -/
theorem FilterStep.startWrite {before peer : UdpPeer} {read : Option USMPFrame}
    (kind : FilterStep before peer read) (sent : SentFrame) :
    FilterStep before (peer.startWrite sent) read := by
  obtain ⟨calls, session, last, reliable⟩ := kind
  obtain ⟨exn, failed⟩ | ⟨_, stream, wrote, started⟩ := startWrite_cases peer sent
  · rw [failed, failWrite]
    split
    · rename_i locked _
      have left := left_raiseLocked peer.session sent.task locked exn
      refine ⟨calls, session.congr (by simp [left.info]) (by simp [left.epochs]), ?_,
        by simp [left.reliable, reliable]⟩
      rw [← last, applyStep, lastRxSeq_foldl_applyCall, confirmedSeqs_raiseLocked]
      rfl
    · exact ⟨calls, session, last, reliable⟩
  · rw [started]
    refine ⟨calls, session, ?_, reliable⟩
    rw [← last]
    unfold UDPStream.write at wrote
    split at wrote <;> cases wrote
    rfl

theorem filterStep_perform {peer : UdpPeer} {result : Session × Effects}
    {read : Option USMPFrame} (kind : RxStep peer.session result.1 result.2.calls read)
    (reliable : result.1.reliable = peer.session.reliable) :
    FilterStep peer (peer.perform result) read := by
  unfold perform
  split
  · exact filterStep_applyStep kind reliable
  · exact (filterStep_applyStep kind reliable).startWrite _

/-- The frame that a step hands to `recv`. -/
def frameRead (peer : UdpPeer) : UdpAction → Option USMPFrame
  | .resume task _ =>
      match peer.session.tasks task with
      | some (.reading _ pending) =>
          match (readFrame true pending peer.stream.readBuffer).1 with
          | .finished (.ok frame) => some frame
          | _ => none
      | _ => none
  | _ => none

theorem lastRxSeq_feedPacket (P : Primitives) (stream : UDPStream) (data : Bytes) :
    (stream.feedPacket P data).1.lastRxSeq = stream.lastRxSeq := by
  simp only [UDPStream.feedPacket, UDPStream.feedUtack, UDPStream.bufferPacket]
  repeat' split
  all_goals rfl

theorem filterStep_of_step {P : Primitives} {peer next : UdpPeer} {action : UdpAction}
    (unreliable : peer.session.reliable = false) (stepped : peer.step P action = some next) :
    FilterStep peer next (peer.frameRead action) := by
  have performed : ∀ {at_ : UdpPeer} {sessionAction : SessionAction} {result : Session × Effects},
      at_.session = peer.session → at_.stream.lastRxSeq = peer.stream.lastRxSeq →
      peer.session.step P sessionAction = some result →
      frameOf sessionAction = peer.frameRead action →
      FilterStep peer (at_.perform result) (peer.frameRead action) := by
    intro at_ sessionAction result session last stepped read
    rw [← session] at stepped unreliable
    obtain ⟨calls, kind, moved, same⟩ :=
      filterStep_perform (rxStep_of_step unreliable stepped) (step_reliable stepped)
    exact ⟨calls, by rwa [session, read] at kind, by rw [moved, last], by rw [same, session]⟩
  cases action with
  | call task op now | acquire task | cancel task =>
      obtain ⟨result, onSession, rfl⟩ := Option.map_eq_some_iff.mp stepped
      exact performed rfl rfl onSession rfl
  | acked now =>
      simp only [step] at stepped
      split at stepped <;> try cases stepped
      split at stepped <;> try cases stepped
      obtain ⟨result, onSession, rfl⟩ := Option.map_eq_some_iff.mp stepped
      exact performed rfl rfl onSession rfl
  | timeout now =>
      simp only [step] at stepped
      split at stepped <;> try cases stepped
      split at stepped
      · cases stepped
        exact ⟨[], .unchanged rfl rfl rfl, rfl, rfl⟩
      · obtain ⟨result, onSession, rfl⟩ := Option.map_eq_some_iff.mp stepped
        exact performed rfl rfl onSession rfl
  | resume task now =>
      simp only [step, resumeRead] at stepped
      split at stepped
      case h_2 => cases stepped
      rename_i pending isReading
      split at stepped
      · rename_i result rest finished
        obtain ⟨_, onSession, rfl⟩ := Option.map_eq_some_iff.mp stepped
        refine performed rfl rfl onSession ?_
        cases result <;> simp [frameRead, isReading, finished, frameOf]
      · rename_i header rest suspended
        have noFrame : peer.frameRead (.resume task now) = none := by
          simp [frameRead, isReading, suspended]
        split at stepped
        · obtain ⟨_, onSession, rfl⟩ := Option.map_eq_some_iff.mp stepped
          exact performed rfl rfl onSession noFrame.symm
        split at stepped
        · cases stepped
          exact ⟨[], .unchanged rfl rfl rfl, rfl, rfl⟩
        · obtain ⟨_, onSession, rfl⟩ := Option.map_eq_some_iff.mp stepped
          exact performed rfl rfl onSession noFrame.symm
  | feed data =>
      cases stepped
      exact ⟨[], .unchanged rfl rfl rfl, lastRxSeq_feedPacket P peer.stream data, rfl⟩

/-! ## Agreement -/

/-- No sequence that the replay window accepts is discarded by `feed_packet`. -/
def FiltersAgree (peer : UdpPeer) : Prop :=
  ∀ seq, replayDrops peer.session.info seq = false → peer.stream.isStale seq = false

/-- The receive positions right after the handshake. -/
structure NothingReceived (peer : UdpPeer) : Prop where
  unreliable : peer.session.reliable = false
  rxSeq : peer.session.info.rxSeq = 0
  bitmap : peer.session.info.rxWindowBitmap = 0
  lastRxSeq : peer.stream.lastRxSeq = -1

/-- A step that installs new keys is taken before any sequence of 64 or more was
accepted, the REKEY's own included. -/
def RotatesEarly (P : Primitives) (peer : UdpPeer) (action : UdpAction) : Prop :=
  ∀ next, peer.step P action = some next → next.session.epochs ≠ peer.session.epochs →
    peer.stream.lastRxSeq < 64 ∧ ∀ frame, peer.frameRead action = some frame → frame.seq < 64

instance (P : Primitives) (peer : UdpPeer) (action : UdpAction) :
    Decidable (RotatesEarly P peer action) :=
  match stepped : peer.step P action with
  | none => isTrue (fun _ impossible => by rw [stepped] at impossible; cases impossible)
  | some next =>
      if kept : next.session.epochs = peer.session.epochs then
        isTrue (fun other same rotates => by
          rw [stepped] at same
          cases same
          exact absurd kept rotates)
      else
        match inferInstanceAs (Decidable (peer.stream.lastRxSeq < 64 ∧
            ∀ frame ∈ peer.frameRead action, frame.seq < 64)) with
        | isTrue early => isTrue (fun _ _ _ => early)
        | isFalse late => isFalse (fun all => late (all next stepped kept))

/-- Either nothing was received beyond the first window, or the stream's record is
`rx_seq`. -/
structure InStep (peer : UdpPeer) : Prop where
  unreliable : peer.session.reliable = false
  near : peer.stream.lastRxSeq < 64 ∨ peer.stream.lastRxSeq = peer.session.info.rxSeq
  behind : (peer.session.info.rxSeq : Int) ≤ max peer.stream.lastRxSeq 0

theorem InStep.filtersAgree {peer : UdpPeer} (inStep : InStep peer) : FiltersAgree peer := by
  intro seq accepts
  have recent : ¬ (seq : Int) ≤ (peer.session.info.rxSeq : Int) - 64 := by
    intro old
    simp [replayDrops, old] at accepts
  simp only [UDPStream.isStale, Bool.and_eq_false_iff, decide_eq_false_iff_not]
  right
  rcases inStep.near with early | same
  · omega
  · omega

theorem rxSeq_markReceived (info : SessionInfo) (seq : Nat) :
    (markReceived info seq).rxSeq = max info.rxSeq seq := by
  unfold markReceived
  split
  · simp only
    omega
  · simp only
    omega

theorem InStep.step {P : Primitives} {peer next : UdpPeer} {action : UdpAction}
    (inStep : InStep peer) (early : RotatesEarly P peer action)
    (stepped : peer.step P action = some next) : InStep next := by
  obtain ⟨calls, kind, last, reliable⟩ := filterStep_of_step inStep.unreliable stepped
  have unreliable := reliable.trans inStep.unreliable
  have near := inStep.near
  have behind := inStep.behind
  cases kind with
  | quiet rxSeq bitmap epochs confirmed =>
      rw [confirmed] at last
      simp only [highestSeq, List.foldl_nil] at last
      refine ⟨unreliable, ?_, ?_⟩ <;> rw [rxSeq, last] <;> assumption
  | accepted frame isRead rxSeq bitmap epochs confirmed =>
      rw [confirmed] at last
      simp only [highestSeq, List.foldl_cons, List.foldl_nil] at last
      rw [rxSeq_markReceived] at rxSeq
      refine ⟨unreliable, ?_, ?_⟩ <;> rw [rxSeq, last] <;> omega
  | rotated keys rxSeq bitmap epochs confirmed =>
      obtain ⟨before, ownSeq⟩ := early next stepped (by simp [epochs])
      refine ⟨unreliable, .inl ?_, ?_⟩
      · rw [last, confirmed]
        cases isRead : peer.frameRead action with
        | none => simpa [highestSeq] using before
        | some frame =>
            have := ownSeq frame isRead
            simp only [highestSeq, Option.toList_some, List.map_cons, List.map_nil,
              List.foldl_cons, List.foldl_nil]
            omega
      · rw [rxSeq]
        omega

/-- A late rotation leaves a stale filter that discards the first sequence of the
new keys. -/
theorem not_filtersAgree_of_rotates_late {P : Primitives} {peer next : UdpPeer}
    {action : UdpAction} (unreliable : peer.session.reliable = false)
    (stepped : peer.step P action = some next)
    (rotates : next.session.epochs ≠ peer.session.epochs)
    (late : ¬ (peer.stream.lastRxSeq < 64 ∧
      ∀ frame, peer.frameRead action = some frame → frame.seq < 64)) :
    ¬ FiltersAgree next := by
  obtain ⟨calls, kind, last, _⟩ := filterStep_of_step unreliable stepped
  cases kind with
  | quiet _ _ epochs _ | accepted _ _ _ _ epochs _ => exact absurd epochs rotates
  | rotated keys rxSeq bitmap epochs confirmed =>
      have high : 64 ≤ next.stream.lastRxSeq := by
        rw [last, confirmed]
        cases isRead : peer.frameRead action with
        | none =>
            simp only [isRead, reduceCtorEq, false_implies, implies_true, and_true] at late
            simpa [highestSeq] using late
        | some frame =>
            simp only [isRead, Option.some.injEq, forall_eq'] at late
            simp only [highestSeq, Option.toList_some, List.map_cons, List.map_nil,
              List.foldl_cons, List.foldl_nil]
            omega
      intro agree
      have accepts : replayDrops next.session.info 0 = false := by
        simp [replayDrops, rxSeq, bitmap]
      have discarded := agree 0 accepts
      simp only [UDPStream.isStale, Bool.and_eq_false_iff, decide_eq_false_iff_not] at discarded
      rcases discarded with never | recent
      · simp at never
        omega
      · omega

/-- In a run from an established session, the two filters agree in every state
exactly when every rotation of the keys is early. -/
theorem filtersAgree_iff_rotatesEarly (P : Primitives) (start : UdpPeer)
    (established : NothingReceived start) (actions : List UdpAction) :
    (∀ before after state, actions = before ++ after →
        Machine.run (step P) start before = some state → FiltersAgree state) ↔
      Machine.Along (step P) (RotatesEarly P) start actions := by
  constructor
  · intro agree
    by_contra late
    obtain ⟨before, action, after, peer, rfl, reached, breaks⟩ := Machine.not_along late
    simp only [RotatesEarly, not_forall] at breaks
    obtain ⟨next, stepped, rotates, broken⟩ := breaks
    have unreliable : peer.session.reliable = false :=
      Machine.run_invariant' (fun peer => peer.session.reliable = false)
        (fun _ _ _ holds stepped => by
          obtain ⟨_, _, _, reliable⟩ := filterStep_of_step holds stepped
          exact reliable.trans holds)
        established.unreliable reached
    refine not_filtersAgree_of_rotates_late unreliable stepped rotates broken ?_
    refine agree (before ++ [action]) after next (by simp) ?_
    exact Machine.run_append_some.mpr ⟨peer, reached, by simp [Machine.run, stepped]⟩
  · rintro early before after state rfl reached
    have start : InStep start := by
      refine ⟨established.unreliable, .inl ?_, ?_⟩
      · rw [established.lastRxSeq]
        decide
      · rw [established.rxSeq, established.lastRxSeq]
        decide
    have inStep : InStep state :=
      Machine.run_invariant InStep (fun _ _ _ inStep early stepped => inStep.step early stepped)
        start (Machine.along_append.mp early).1 reached
    exact inStep.filtersAgree

/-! ## A long session -/

/-- An end of an established connection that received nothing. -/
def samplePeer (info : SessionInfo) (isServer : Bool) : UdpPeer :=
  { session := .new false info
    stream := { isServer, txKey := some info.txKey, rxKey := some info.rxKey } }

theorem samplePeer_nothingReceived (txKey rxKey : UInt8) (txSeq : Nat) (isServer : Bool) :
    NothingReceived (samplePeer (sampleInfo txKey rxKey txSeq) isServer) :=
  ⟨rfl, rfl, rfl, rfl⟩

/-- One call of `recv` and the datagram that it reads. -/
def receiving (task : Nat) (sent : SentFrame) : List UdpAction :=
  [.call task .recv 0, .feed sent.bytes, .resume task 0]

def sampleSalt : FixedBytes 32 := ⟨List.replicate 32 5, length_sampleSalt⟩

/-- The messages of the other side that carry these sequences, and the REKEY that it
sends after the last of them. -/
def rekeyAfter (seqs : List Nat) : List UdpAction :=
  (seqs.flatMap fun seq =>
      receiving seq (encryptedFrame samplePrimitives (sampleInfo 3 4 seq) seq (.send [7] 0))) ++
    receiving (seqs.foldl max 0 + 1)
      (encryptedFrame samplePrimitives (sampleInfo 3 4 (seqs.foldl max 0 + 1)) 99
        (.rekey sampleSalt))

/-- The first frame of the other side after its REKEY. -/
def firstOfNewKeys : SentFrame :=
  encryptedFrame samplePrimitives
    ((sampleInfo 3 4).rotated (initiatorKeys samplePrimitives (sampleInfo 3 4) sampleSalt)) 100
    (.send [8] 0)

/-- After a message with sequence 64 and a REKEY, the first frame of the new keys is
authentic and not a replay, and the stream acknowledges it and throws it away. -/
theorem stale_after_rekey :
    ∃ final,
      Machine.run (step samplePrimitives) (samplePeer (sampleInfo 4 3) true)
        (rekeyAfter [0, 1, 64]) =
          some final ∧
        ¬ FiltersAgree final ∧
        openFrame samplePrimitives false final.session.info
            (decodeFrame firstOfNewKeys.bytes) =
          .ok (some (sentFrame .data firstOfNewKeys.payload 0, [8])) ∧
        final.stream.feedPacket samplePrimitives firstOfNewKeys.bytes =
          (final.stream, [final.stream.buildUtack samplePrimitives PacketType.data.toNat 0]) := by
  obtain ⟨final, reached, accepts, discards, authentic, acknowledged⟩ := Machine.exists_run
    (step samplePrimitives) (samplePeer (sampleInfo 4 3) true) (rekeyAfter [0, 1, 64])
    (fun final =>
      replayDrops final.session.info 0 = false ∧ final.stream.isStale 0 = true ∧
        openFrame samplePrimitives false final.session.info
            (decodeFrame firstOfNewKeys.bytes) =
          .ok (some (sentFrame .data firstOfNewKeys.payload 0, [8])) ∧
        final.stream.feedPacket samplePrimitives firstOfNewKeys.bytes =
          (final.stream, [final.stream.buildUtack samplePrimitives PacketType.data.toNat 0]))
    (by decide +kernel)
  refine ⟨final, reached, ?_, authentic, acknowledged⟩
  intro agree
  rw [agree 0 accepts] at discards
  cases discards

/-- With two messages before it, the REKEY is early and the filters agree after it. -/
theorem filtersAgree_rekeyAfter_two :
    ∃ final,
      Machine.run (step samplePrimitives) (samplePeer (sampleInfo 4 3) true) (rekeyAfter [0, 1]) =
          some final ∧
        final.session.epochs.length = 2 ∧ FiltersAgree final := by
  obtain ⟨final, reached, rotated⟩ := Machine.exists_run (step samplePrimitives)
    (samplePeer (sampleInfo 4 3) true) (rekeyAfter [0, 1])
    (fun final => final.session.epochs.length = 2) (by decide +kernel)
  have early : Machine.Along (step samplePrimitives) (RotatesEarly samplePrimitives)
      (samplePeer (sampleInfo 4 3) true) (rekeyAfter [0, 1]) := by decide +kernel
  have agree := (filtersAgree_iff_rotatesEarly samplePrimitives _
    (samplePeer_nothingReceived 4 3 0 true) (rekeyAfter [0, 1])).mpr early
  exact ⟨final, reached, rotated, agree (rekeyAfter [0, 1]) [] final (by simp) reached⟩

end UdpPeer

end Usmp
