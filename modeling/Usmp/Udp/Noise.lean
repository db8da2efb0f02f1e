import Usmp.Session.Exceptions
import Usmp.Session.Window
import Usmp.Udp.Feed
import Usmp.Udp.Filter
import Usmp.Udp.Steps

/-!
# Datagrams that do not interfere

A noisy end receives, among the datagrams of its peer, any others: malformed ones, frames of
the handshake, frames that are not authentic, copies of accepted frames, UTACKs that are not
authentic.  It behaves like an end that receives the peer's datagrams only.
-/

namespace Usmp

namespace UDPStream

/-- A stream without what other datagrams may change. -/
def core (stream : UDPStream) : UDPStream :=
  { stream with readBuffer := [], lastRxType := 0, ackReceived := false }

theorem core_confirmAuthenticated (stream : UDPStream) (seq : Nat) :
    (stream.confirmAuthenticated seq).core = stream.core.confirmAuthenticated seq := by
  unfold confirmAuthenticated
  by_cases higher : (seq : Int) > stream.lastRxSeq
  · rw [if_pos higher, if_pos (show (seq : Int) > stream.core.lastRxSeq from higher)]
    rfl
  · rw [if_neg higher, if_neg (show ¬ (seq : Int) > stream.core.lastRxSeq from higher)]

theorem write_core (stream : UDPStream) (data : Bytes) :
    stream.core.write data = (stream.write data).map core := by
  have sameClosed : stream.core.closed = stream.closed := rfl
  unfold write
  rw [sameClosed]
  split <;> rfl

/-- Whatever arrives, the rest of the stream stays as it is. -/
theorem feedPacket_core (P : Primitives) (stream : UDPStream) (data : Bytes) :
    (stream.feedPacket P data).1.core = stream.core := by
  have noted : (stream.noteType data).core = stream.core := by
    unfold noteType
    split <;> rfl
  have fed := feedPacket_cases P stream data
  generalize stream.feedPacket P data = result at fed ⊢
  cases fed with
  | closed | noAck | ack | garbage | old => rfl
  | full => exact noted
  | buffered => exact noted

/-- A datagram that sets the event for which `drain` waits. -/
def acknowledges (P : Primitives) (stream : UDPStream) (data : Bytes) : Bool :=
  !stream.closed && isUtack data &&
    !(fieldAt data 2 1 ≥ 5 && !stream.utackAuthentic P data) &&
    (some (fieldAt data 3 4) = stream.pendingSendSeq ∧
      some (fieldAt data 2 1) = stream.pendingSendType)

theorem feedPacket_notFrame (P : Primitives) (stream : UDPStream) {data : Bytes}
    (notFrame : ¬ IsFrame data) :
    stream.feedPacket P data =
      (if stream.acknowledges P data then { stream with ackReceived := true } else stream, []) := by
  have isGarbage : isFrame data = false := by
    rw [← isFrame_iff] at notFrame
    simpa using notFrame
  unfold feedPacket acknowledges
  split
  · rename_i isClosed
    simp [isClosed]
  rename_i isOpen
  split
  · rename_i utack
    unfold feedUtack
    dsimp only
    split
    · rename_i forged
      simp [forged]
    · rename_i genuine
      simp [isOpen, utack, genuine]
  · rename_i notUtack
    simp [isGarbage, notUtack]

end UDPStream

/-! ## Session types -/

theorem Locked.sessionType (locked : Locked) : 5 ≤ locked.frame.1.toNat := by
  cases locked with
  | send data offset =>
      simp only [Locked.frame]
      split <;> decide
  | ping | rekey salt | bye | pong locals => simp [Locked.frame, PacketType.toNat]

/-- What `encode_frame` returns, and what it has checked. -/
theorem frameBytes_of_encodeFrame {type : PacketType} {payload data : Bytes} {seq : Nat}
    (encoded : encodeFrame type payload seq = .ok data) :
    data = frameBytes type payload seq ∧ seq ≤ maxSeq ∧ payload.length ≤ usmpMaxPayload := by
  unfold encodeFrame at encoded
  split at encoded
  · cases encoded
  rename_i fits
  split at encoded
  · cases encoded
  rename_i inRange
  split at encoded <;> cases encoded
  exact ⟨rfl, Nat.not_lt.mp inRange, Nat.not_lt.mp fits⟩

theorem isFrame_of_encodeFrame {sent : SentFrame}
    (encoded : encodeFrame sent.type sent.payload sent.seq = .ok sent.bytes) :
    IsFrame sent.bytes ∧ typeOf sent.bytes = sent.type.toNat ∧ seqOf sent.bytes = sent.seq := by
  rcases frameBytes_of_encodeFrame encoded with ⟨isBytes, inRange, fits⟩
  rw [isBytes]
  have parts := isFrame_frameBytes sent.type inRange fits
  exact ⟨parts.1, parts.2.1, parts.2.2.1⟩

namespace UdpPeer

open UDPStream

/-! ## Two ends that differ by other datagrams -/

structure Same (noisy clean : UdpPeer) : Prop where
  session : clean.session = noisy.session
  arq : clean.arq = noisy.arq
  stream : clean.stream.core = noisy.stream.core
  /-- Between two writes the flag means nothing. -/
  acked : noisy.arq ≠ none → clean.stream.ackReceived = noisy.stream.ackReceived

namespace Same

variable {noisy clean : UdpPeer}

theorem applyCall (same : Same noisy clean) (call : TransportCall) :
    Same (noisy.applyCall call) (clean.applyCall call) := by
  cases call with
  | setSessionKeys txKey rxKey =>
      exact ⟨same.session, same.arq,
        congrArg (fun stream => stream.setSessionKeys txKey rxKey) same.stream, same.acked⟩
  | confirmAuthenticated seq =>
      refine ⟨same.session, same.arq, ?_, ?_⟩
      · simp only [UdpPeer.applyCall, core_confirmAuthenticated, same.stream]
      · intro waits
        have kept : ∀ stream : UDPStream,
            (stream.confirmAuthenticated seq).ackReceived = stream.ackReceived := by
          intro stream
          unfold confirmAuthenticated
          split <;> rfl
        simp only [UdpPeer.applyCall, kept]
        exact same.acked waits
  | close => exact ⟨same.session, same.arq, congrArg UDPStream.close same.stream, same.acked⟩

theorem applyStep (same : Same noisy clean) (result : Session × Effects) :
    Same (noisy.applyStep result) (clean.applyStep result) := by
  have moved : Same { noisy with session := result.1 } { clean with session := result.1 } :=
    ⟨rfl, same.arq, same.stream, same.acked⟩
  unfold UdpPeer.applyStep
  generalize ({ noisy with session := result.1 } : UdpPeer) = left at moved ⊢
  generalize ({ clean with session := result.1 } : UdpPeer) = right at moved ⊢
  induction result.2.calls generalizing left right with
  | nil => exact moved
  | cons call rest ih => exact ih _ _ (moved.applyCall call)

theorem failWrite (same : Same noisy clean) (task : Nat) (exn : Exn) :
    Same (noisy.failWrite task exn) (clean.failWrite task exn) := by
  unfold UdpPeer.failWrite
  rw [same.session]
  split
  · exact same.applyStep _
  · exact same

theorem startWrite (same : Same noisy clean) (sent : SentFrame) :
    Same (noisy.startWrite sent) (clean.startWrite sent) := by
  unfold UdpPeer.startWrite
  split
  · exact same.failWrite _ _
  rename_i data encoded
  have both : (clean.stream.write data).map core = (noisy.stream.write data).map core := by
    rw [← write_core, ← write_core, same.stream]
  cases first : noisy.stream.write data with
  | error exn =>
      cases second : clean.stream.write data with
      | error exn' =>
          rw [first, second] at both
          cases both
          exact same.failWrite _ _
      | ok stream =>
          rw [first, second] at both
          cases both
  | ok stream =>
      cases second : clean.stream.write data with
      | error exn =>
          rw [first, second] at both
          cases both
      | ok stream' =>
          rw [first, second] at both
          simp only [Except.map, Except.ok.injEq] at both
          exact ⟨same.session, rfl, congrArg startDrain both, fun _ => rfl⟩

theorem perform (same : Same noisy clean) (result : Session × Effects) :
    Same (noisy.perform result) (clean.perform result) := by
  unfold UdpPeer.perform
  split
  · exact same.applyStep result
  · exact (same.applyStep result).startWrite _

end Same

/-- Only datagrams and readers touch the read buffer. -/
theorem readBuffer_perform (peer : UdpPeer) (result : Session × Effects) :
    (peer.perform result).stream.readBuffer = peer.stream.readBuffer := by
  have applied : ∀ (peer : UdpPeer) (result : Session × Effects),
      (peer.applyStep result).stream.readBuffer = peer.stream.readBuffer :=
    fun peer result => (applyStep_frame peer result).2.2.2.2
  unfold perform
  split
  · exact applied peer result
  rename_i sent write
  rcases startWrite_cases (peer.applyStep result) sent with
    ⟨exn, failed⟩ | ⟨_, stream, wrote, started⟩
  · rw [failed, failWrite]
    split
    · rw [applied, applied]
    · exact applied peer result
  · rw [started, ← applied peer result]
    unfold UDPStream.write at wrote
    split at wrote <;> cases wrote
    rfl

/-! ## Frames in flight -/

/-- A write that waits for its UTACK has sent a frame of the session. -/
def AwaitsSession (peer : UdpPeer) : Prop :=
  peer.arq ≠ none → ∃ type, peer.stream.pendingSendType = some type ∧ 5 ≤ type

theorem pendingSendType_applyStep (peer : UdpPeer) (result : Session × Effects) :
    (peer.applyStep result).stream.pendingSendType = peer.stream.pendingSendType := by
  unfold applyStep
  have kept : ∀ (calls : List TransportCall) (peer : UdpPeer),
      (calls.foldl applyCall peer).stream.pendingSendType = peer.stream.pendingSendType := by
    intro calls
    induction calls with
    | nil => exact fun _ => rfl
    | cons call rest ih =>
        intro peer
        rw [List.foldl_cons, ih]
        cases call with
        | confirmAuthenticated seq =>
            simp only [applyCall, UDPStream.confirmAuthenticated]
            split <;> rfl
        | setSessionKeys txKey rxKey | close => rfl
  exact kept _ _

theorem AwaitsSession.applyStep {peer : UdpPeer} (awaits : peer.AwaitsSession)
    (result : Session × Effects) : (peer.applyStep result).AwaitsSession := by
  unfold AwaitsSession
  rw [(applyStep_frame peer result).2.1, pendingSendType_applyStep]
  exact awaits

theorem AwaitsSession.perform {P : Primitives} {peer : UdpPeer} {session : Session}
    {action : SessionAction} {result : Session × Effects} (awaits : peer.AwaitsSession)
    (stepped : session.step P action = some result) : (peer.perform result).AwaitsSession := by
  unfold UdpPeer.perform
  split
  · exact awaits.applyStep result
  rename_i sent write
  rcases startWrite_cases (peer.applyStep result) sent with
    ⟨exn, failed⟩ | ⟨encoded, stream, wrote, started⟩
  · rw [failed, failWrite]
    split
    · exact (awaits.applyStep result).applyStep _
    · exact awaits.applyStep result
  rcases Session.write_of_step stepped write with ⟨locked, isSent, _⟩
  have session : 5 ≤ sent.type.toNat := by
    rw [isSent]
    exact locked.sessionType
  have isType := isFrame_of_encodeFrame encoded
  rw [started]
  intro _
  refine ⟨sent.type.toNat, ?_, session⟩
  unfold UDPStream.write at wrote
  split at wrote <;> cases wrote
  have long : sent.bytes.length ≥ 8 := by
    rw [isType.1.size]
    simp only [usmpHeaderSize]
    omega
  simp only [startDrain, long, if_true]
  exact congrArg some isType.2.1

/-! ## Datagrams -/

theorem Same.feed {P : Primitives} {noisy clean : UdpPeer} (same : Same noisy clean)
    {data : Bytes} (notHandshake : IsFrame data → isHandshakeType (typeOf data) = false)
    (room : IsFrame data → noisy.stream.seenBefore data = false →
      noisy.stream.readBuffer.length + data.length ≤ maxReadBuffer)
    (fewer : clean.stream.readBuffer.length ≤ noisy.stream.readBuffer.length) :
    Same (noisy.feed P data) (clean.feed P data) ∧
      ∃ added,
        (noisy.feed P data).stream.readBuffer = noisy.stream.readBuffer ++ added ∧
          (clean.feed P data).stream.readBuffer = clean.stream.readBuffer ++ added := by
  have core : (clean.feed P data).stream.core = (noisy.feed P data).stream.core := by
    simp only [UdpPeer.feed, feedPacket_core, same.stream]
  have sameClosed : clean.stream.closed = noisy.stream.closed := by
    have both := congrArg UDPStream.closed same.stream
    exact both
  by_cases frame : IsFrame data
  · have sameSeen : clean.stream.seenBefore data = noisy.stream.seenBefore data := by
      simp only [seenBefore, notHandshake frame]
      have both := congrArg (fun stream => stream.isStale (seqOf data)) same.stream
      exact both
    cases isClosed : noisy.stream.closed with
    | true =>
        have isClosed' := sameClosed.trans isClosed
        refine ⟨⟨same.session, same.arq, core, ?_⟩, [], ?_⟩
        · simpa [UdpPeer.feed, feedPacket, isClosed, isClosed'] using same.acked
        · simp [UdpPeer.feed, feedPacket, isClosed, isClosed']
    | false =>
        have isOpen' := sameClosed.trans isClosed
        cases seen : noisy.stream.seenBefore data with
        | true =>
            have left := feedPacket_seen P isClosed frame seen
            have right := feedPacket_seen P isOpen' frame (sameSeen.trans seen)
            refine ⟨⟨same.session, same.arq, core, ?_⟩, [], ?_⟩
            · simpa [UdpPeer.feed, left, right] using same.acked
            · simp [UdpPeer.feed, left, right]
        | false =>
            have fits := room frame seen
            have left := feedPacket_new P isClosed frame seen fits
            have right := feedPacket_new P isOpen' frame (sameSeen.trans seen) (by omega)
            refine ⟨⟨same.session, same.arq, core, ?_⟩, data, ?_⟩
            · simpa [UdpPeer.feed, left, right, noteType, notHandshake frame] using same.acked
            · simp [UdpPeer.feed, left, right]
  · have left := feedPacket_notFrame P noisy.stream frame
    have right := feedPacket_notFrame P clean.stream frame
    have sameAck : clean.stream.acknowledges P data = noisy.stream.acknowledges P data := by
      have both := congrArg (fun stream => stream.acknowledges P data) same.stream
      exact both
    refine ⟨⟨same.session, same.arq, core, ?_⟩, [], ?_⟩
    · intro waits
      have acked := same.acked waits
      simp only [UdpPeer.feed, left, right, sameAck]
      split
      · rfl
      · exact acked
    · simp only [UdpPeer.feed, left, right, sameAck, List.append_nil]
      split <;> exact ⟨rfl, rfl⟩

/-- Another datagram changes nothing that matters, unless it is an authentic UTACK. -/
theorem Same.junk {P : Primitives} {noisy clean : UdpPeer} (same : Same noisy clean)
    (awaits : noisy.AwaitsSession) {data : Bytes}
    (notAck : isUtack data = true → fieldAt data 2 1 ≥ 5 →
      noisy.stream.utackAuthentic P data = false) :
    Same (noisy.feed P data) clean := by
  refine ⟨same.session, same.arq, ?_, ?_⟩
  · simp only [UdpPeer.feed, feedPacket_core, same.stream]
  intro waits
  have unchanged : (noisy.stream.feedPacket P data).1.ackReceived = noisy.stream.ackReceived := by
    have fed := feedPacket_cases P noisy.stream data
    generalize noisy.stream.feedPacket P data = result at fed ⊢
    cases fed with
    | closed | noAck | garbage | old => rfl
    | full | buffered =>
        unfold noteType
        split <;> rfl
    | ack utack authentic isSeq isType =>
        rcases awaits waits with ⟨type, pending, session⟩
        rw [pending] at isType
        cases isType
        rw [notAck utack session] at authentic
        cases authentic session
  rw [same.acked waits]
  exact unchanged.symm

end UdpPeer

end Usmp
