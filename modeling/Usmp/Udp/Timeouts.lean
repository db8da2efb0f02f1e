import Usmp.Sample
import Usmp.Session.Timeouts
import Usmp.Tcp.Flow
import Usmp.Udp.Link

/-!
# Timeouts over UDP

What calls of `recv` return over UDP depends on the frames that were buffered only: not on when
the calls were made, which of them timed out between two messages, or what was sent meanwhile.
-/

namespace Usmp

/-- Without BYE nothing closes the transport. -/
theorem Session.Progress.keepsOpen {P : Primitives} {before base : Session}
    {action : SessionAction} {fate : Fate} {effects : Effects}
    (progress : before.Progress P action base fate effects)
    (noBye : ∀ task at_, before.tasks task = some at_ → at_.op ≠ .bye) :
    TransportCall.close ∉ effects.calls := by
  have nothing : ∀ {task : Nat} {locked : Locked}, before.tasks task = some (.writing locked) →
      TransportCall.close ∉ locked.closing := by
    intro task locked writing
    have notBye := noBye task _ writing
    cases locked with
    | bye => exact absurd rfl notBye
    | send data offset | ping | rekey salt | pong locals => exact List.not_mem_nil
  cases progress with
  | failed task locked exn now writing => exact nothing writing
  | signalled task locked now writing kind => exact nothing writing
  | interrupted task locked writing => exact nothing writing
  | received task locals pending now result reading turn isTurn =>
      have noClose := TcpPeer.close_not_mem_recvTurn (P := P) before.reliable before.info locals now
        result
      rw [← isTurn] at noClose
      simpa using noClose
  | abandoned task at_ isAt unlocked =>
      have notBye : at_ ≠ .lockWait .bye := by
        rintro rfl
        exact noBye task _ isAt rfl
      rw [if_neg notBye]
      exact List.not_mem_nil
  | rekeyed => simp
  | called | encrypted | refused | sent | ponged | tookHeader => exact List.not_mem_nil

namespace UdpPeer

theorem foldl_applyCall_closed (peer : UdpPeer) {calls : List TransportCall}
    (noClose : TransportCall.close ∉ calls) :
    (calls.foldl applyCall peer).stream.closed = peer.stream.closed := by
  induction calls generalizing peer with
  | nil => rfl
  | cons call rest ih =>
      have later : TransportCall.close ∉ rest := fun member =>
        noClose (List.mem_cons_of_mem _ member)
      rw [List.foldl_cons, ih (peer.applyCall call) later]
      cases call with
      | close => exact absurd List.mem_cons_self noClose
      | setSessionKeys txKey rxKey => rfl
      | confirmAuthenticated seq =>
          unfold applyCall UDPStream.confirmAuthenticated
          dsimp only
          split <;> rfl

/-- The resumption of the coroutine loses nothing. -/
def Heedful (P : Primitives) (peer : UdpPeer) (action : UdpAction) : Prop :=
  ∀ resumption ∈ peer.sessionAction action, peer.session.Heedful P resumption

instance (P : Primitives) (peer : UdpPeer) (action : UdpAction) :
    Decidable (peer.Heedful P action) :=
  inferInstanceAs (Decidable
    (∀ resumption ∈ peer.sessionAction action, peer.session.Heedful P resumption))

/-- The peer has made of the datagrams in its buffer what `Intake.take` makes of them. -/
structure Consumed (P : Primitives) (start : Intake) (peer : UdpPeer) : Prop where
  session : peer.session.Consumed P start (peer.arrived.flatMap Prod.snd) peer.stream.readBuffer
  unreliable : peer.session.reliable = false
  isOpen : peer.stream.closed = false

section Consumed

variable {P : Primitives} {start : Intake} {peer at_ after : UdpPeer} {resumption : SessionAction}
  {result : Session × Effects} {action : UdpAction} {total buffer : Bytes} {session : Session}

theorem Consumed.applyStep (consumed : session.Consumed P start total buffer)
    (unreliable : session.reliable = false) (isOpen : at_.stream.closed = false)
    (total_eq : total = at_.arrived.flatMap Prod.snd)
    (stepped : session.step P resumption = some result)
    (heedful : session.Heedful P resumption)
    (takes : session.Takes buffer resumption at_.stream.readBuffer) :
    (at_.applyStep result).Consumed P start := by
  subst total_eq
  rcases Session.progress_of_step stepped with ⟨base, fate, progress, settled⟩
  have frame := applyStep_frame at_ result
  have noBye : ∀ task at_, session.tasks task = some at_ → at_.op ≠ .bye := by
    intro task at_ isAt isBye
    have messaging := consumed.messaging _ (consumed.calls.known task at_ isAt)
    rw [isBye] at messaging
    exact messaging
  refine ⟨?_, ?_, ?_⟩
  · rw [frame.1, frame.2.2.2.1, frame.2.2.2.2, settled]
    exact consumed.progress progress heedful takes
  · rw [frame.1, settled, (Session.settle_frame _ _ _).1]
    exact progress.identity.2.2.1.trans unreliable
  · unfold UdpPeer.applyStep
    rw [foldl_applyCall_closed _ (progress.keepsOpen noBye)]
    exact isOpen

theorem Consumed.perform (consumed : session.Consumed P start total buffer)
    (unreliable : session.reliable = false) (isOpen : at_.stream.closed = false)
    (total_eq : total = at_.arrived.flatMap Prod.snd)
    (stepped : session.step P resumption = some result)
    (heedful : session.Heedful P resumption)
    (takes : session.Takes buffer resumption at_.stream.readBuffer) :
    (at_.perform result).Consumed P start := by
  have applied := Consumed.applyStep consumed unreliable isOpen total_eq stepped heedful takes
  unfold UdpPeer.perform
  split
  · exact applied
  rename_i sent write
  rcases startWrite_cases (at_.applyStep result) sent with
    ⟨exn, failed⟩ | ⟨_, stream, wrote, started⟩
  · rw [failed, failWrite]
    split
    · rename_i locked writing
      have raised : (at_.applyStep result).session.step P (.wrote sent.task (some exn) 0) =
          some ((at_.applyStep result).session.raiseLocked sent.task locked exn) := by
        rw [Session.step, writing]
      exact .applyStep applied.session applied.unreliable applied.isOpen rfl raised trivial
        (.nothing _ (by simp) (by simp))
    · exact applied
  · rw [started]
    unfold UDPStream.write at wrote
    split at wrote <;> cases wrote
    exact ⟨applied.session, applied.unreliable, applied.isOpen⟩

theorem Consumed.feed (consumed : peer.Consumed P start) (data : Bytes) :
    (peer.feed P data).Consumed P start := by
  have fed := feedPacket_cases P peer.stream data
  have isOpen := consumed.isOpen
  have same : ∀ stream : UDPStream, ∀ replies : List Bytes,
      stream.readBuffer = peer.stream.readBuffer → stream.closed = false →
      peer.stream.feedPacket P data = (stream, replies) → (peer.feed P data).Consumed P start := by
    intro stream replies sameBuffer stillOpen isFed
    unfold UdpPeer.feed
    rw [isFed]
    dsimp only
    rw [sameBuffer, if_neg (Nat.lt_irrefl _)]
    refine ⟨?_, consumed.unreliable, stillOpen⟩
    dsimp only
    rw [sameBuffer]
    exact consumed.session
  generalize isFed : peer.stream.feedPacket P data = result at fed
  cases fed with
  | closed | noAck | garbage | old => exact same _ _ rfl isOpen isFed
  | ack => exact same { peer.stream with ackReceived := true } _ rfl isOpen isFed
  | full =>
      refine same _ _ ?_ ?_ isFed
      all_goals
        unfold UDPStream.noteType
        split
      all_goals first | rfl | exact isOpen
  | buffered _ frame =>
      have grows : (peer.stream.readBuffer ++ data).length > peer.stream.readBuffer.length := by
        rw [List.length_append, frame.size]
        simp only [usmpHeaderSize]
        omega
      unfold UdpPeer.feed
      rw [isFed]
      dsimp only
      rw [if_pos grows]
      refine ⟨?_, consumed.unreliable, ?_⟩
      · rw [List.flatMap_append, List.flatMap_singleton]
        exact consumed.session.arrive data
      · unfold UDPStream.noteType
        split <;> exact isOpen

theorem Consumed.next (consumed : peer.Consumed P start) (heedful : peer.Heedful P action)
    (stepped : peer.step P action = some after) : after.Consumed P start := by
  rcases consumed with ⟨session, unreliable, isOpen⟩
  -- a resumption that does not read, performed on the end with another write in progress
  have resumes : ∀ (arq : Option Arq) (resumption : SessionAction) (result : Session × Effects),
      peer.sessionAction action = some resumption →
      peer.session.step P resumption = some result →
      (∀ task result now, resumption ≠ .read task result now) →
      (∀ task taken, resumption ≠ .readHeader task taken) →
      (({ peer with arq } : UdpPeer).perform result).Consumed P start := by
    intro arq resumption result performs onSession notRead notHeader
    exact .perform session unreliable isOpen rfl onSession (heedful resumption performs)
      (.nothing resumption notRead notHeader)
  cases action with
  | call task op now | acquire task =>
      rcases Option.map_eq_some_iff.mp stepped with ⟨result, onSession, rfl⟩
      exact resumes peer.arq _ result rfl onSession (by simp) (by simp)
  | cancel task =>
      rcases Option.map_eq_some_iff.mp stepped with ⟨result, onSession, rfl⟩
      exact resumes _ _ result rfl onSession (by simp) (by simp)
  | feed data =>
      cases stepped
      exact Consumed.feed ⟨session, unreliable, isOpen⟩ data
  | acked now =>
      unfold UdpPeer.step at stepped
      dsimp only at stepped
      split at stepped
      · cases stepped
      rename_i arq isArq
      split at stepped
      case isFalse => cases stepped
      rcases Option.map_eq_some_iff.mp stepped with ⟨result, onSession, rfl⟩
      exact resumes none _ result (by rw [sessionAction, isArq]; rfl) onSession (by simp) (by simp)
  | timeout now =>
      unfold UdpPeer.step at stepped
      dsimp only at stepped
      split at stepped
      · cases stepped
      rename_i arq isArq
      split at stepped
      · cases stepped
        exact ⟨session, unreliable, isOpen⟩
      rename_i spent
      rcases Option.map_eq_some_iff.mp stepped with ⟨result, onSession, rfl⟩
      refine resumes none _ result ?_ onSession (by simp) (by simp)
      unfold sessionAction
      rw [isArq]
      exact if_neg spent
  | resume task now =>
      unfold UdpPeer.step resumeRead at stepped
      unfold Heedful sessionAction at heedful
      dsimp only at stepped heedful
      split at stepped
      case h_2 => cases stepped
      rename_i locals pending reading
      rw [reading] at heedful
      dsimp only at heedful
      split at stepped
      · rename_i read rest finished
        rw [finished] at heedful
        rcases Option.map_eq_some_iff.mp stepped with ⟨result, onSession, rfl⟩
        exact .perform session unreliable isOpen rfl onSession (heedful _ rfl)
          (.frame task read now locals pending rest reading finished)
      rename_i header rest suspended
      rw [if_neg (by simp [isOpen])] at stepped
      split at stepped
      · cases stepped
        exact ⟨session, unreliable, isOpen⟩
      rename_i taken
      rcases Option.map_eq_some_iff.mp stepped with ⟨result, onSession, rfl⟩
      have untaken : pending = none := by
        cases pending with
        | none => rfl
        | some old => simp [Session.step, reading] at onSession
      subst untaken
      exact .perform session unreliable isOpen rfl onSession trivial
        (.header task taken rest locals reading suspended)

end Consumed

theorem udp_recv_timeouts (P : Primitives) (info : SessionInfo) (stream stream' : UDPStream)
    (actions actions' : List UdpAction) (final final' : UdpPeer)
    (reached : Machine.run (step P) (established info stream) actions = some final)
    (reached' : Machine.run (step P) (established info stream') actions' = some final')
    (heedful : Machine.Along (step P) (Heedful P) (established info stream) actions)
    (heedful' : Machine.Along (step P) (Heedful P) (established info stream') actions')
    (more : Bytes)
    (input : final'.arrived.flatMap Prod.snd = final.arrived.flatMap Prod.snd ++ more) :
    Session.SameInput final.session final'.session final.stream.readBuffer
      final'.stream.readBuffer more := by
  have start : ∀ stream, Consumed P { info := info.rxPart } (established info stream) :=
    fun stream => ⟨.new P false info, rfl, rfl⟩
  have consumed := Machine.run_invariant (Consumed P { info := info.rxPart })
    (fun _ _ _ consumed heedful stepped => consumed.next heedful stepped) (start stream) heedful
    reached
  have consumed' := Machine.run_invariant (Consumed P { info := info.rxPart })
    (fun _ _ _ consumed heedful stepped => consumed.next heedful stepped) (start stream') heedful'
    reached'
  have session := consumed'.session
  rw [input] at session
  exact consumed.session.sameInput session
    (consumed.unreliable.trans consumed'.unreliable.symm)

/-- A frame of the client with a whole message. -/
def sampleDatagram (seq : Nat) (data : Bytes) : Bytes :=
  (encryptedFrame samplePrimitives (sampleInfo 3 4 seq) 0 (.send data 0)).bytes

/-- Two calls of `recv` time out, and a message is sent twice meanwhile. -/
def recvTimesOut : List UdpAction :=
  [.call 0 .recv 0, .resume 0 0, .call 1 (.send [1]) 0, .acquire 1, .cancel 0,
    .feed (sampleDatagram 0 [9, 9]), .timeout 0, .call 2 .recv 0, .resume 2 0, .call 3 .recv 0,
    .cancel 3, .feed (sampleDatagram 1 [8]), .call 4 .recv 0, .resume 4 0]

/-- The datagrams are there before the calls. -/
def recvAfterwards : List UdpAction :=
  [.feed (sampleDatagram 0 [9, 9]), .feed (sampleDatagram 1 [8]), .call 0 .recv 0, .resume 0 0,
    .call 1 .recv 0, .resume 1 0]

theorem udp_recv_timeouts_resend :
    ∃ final final',
      Machine.run (step samplePrimitives) (established (sampleInfo 4 3) { isServer := true })
          recvTimesOut = some final ∧
        Machine.run (step samplePrimitives) (established (sampleInfo 4 3) { isServer := true })
          recvAfterwards = some final' ∧
        final'.session.received = [[9, 9], [8]] ∧
        Session.SameInput final.session final'.session final.stream.readBuffer
          final'.stream.readBuffer [] := by
  rcases Machine.exists_run (step samplePrimitives)
    (established (sampleInfo 4 3) { isServer := true }) recvTimesOut
    (fun final => final.arrived.flatMap Prod.snd =
      sampleDatagram 0 [9, 9] ++ sampleDatagram 1 [8]) (by decide +kernel) with
    ⟨final, reached, arrived⟩
  rcases Machine.exists_run (step samplePrimitives)
    (established (sampleInfo 4 3) { isServer := true }) recvAfterwards
    (fun final => final.session.received = [[9, 9], [8]] ∧ final.arrived.flatMap Prod.snd =
      sampleDatagram 0 [9, 9] ++ sampleDatagram 1 [8]) (by decide +kernel) with
    ⟨final', reached', received, arrived'⟩
  refine ⟨final, final', reached, reached', received, ?_⟩
  exact udp_recv_timeouts samplePrimitives (sampleInfo 4 3) { isServer := true }
    { isServer := true }
    recvTimesOut recvAfterwards final final' reached reached' (by decide +kernel)
    (by decide +kernel) [] (by rw [arrived, arrived', List.append_nil])

end UdpPeer

end Usmp
