import Usmp.Session.Machine
import Usmp.Udp.Stream

/-!
# A session on a UDP stream

One end of a UDP connection: the session, its stream and the ARQ of the write in
progress.  An action is a resumption of one coroutine or a datagram handed over
by the event loop.  The peer records every datagram it sent and every datagram it
put in its read buffer, the latter with the key under which a UTACK for it was
authenticated.
-/

namespace Usmp

/-- The loop of `drain`: a write waiting for its UTACK. -/
structure Arq where
  task : Nat
  data : Bytes
  attempt : Nat
  deriving DecidableEq, Repr

/-- The number of transmissions that `drain` makes. -/
def maxAttempts : Nat := 5

structure UdpPeer where
  session : Session
  stream : UDPStream
  arq : Option Arq := none
  outbox : List Bytes := []
  arrived : List (Option Key × Bytes) := []

inductive UdpAction where
  | call (task : Nat) (op : Op) (now : Rat)
  | acquire (task : Nat)
  /-- The wait for the UTACK returns. -/
  | acked (now : Rat)
  /-- The wait for the UTACK times out. -/
  | timeout (now : Rat)
  /-- A `recv` coroutine goes on reading. -/
  | resume (task : Nat) (now : Rat)
  | cancel (task : Nat)
  /-- `datagram_received`. -/
  | feed (data : Bytes)

namespace UdpPeer

def applyCall (peer : UdpPeer) : TransportCall → UdpPeer
  | .setSessionKeys txKey rxKey => { peer with stream := peer.stream.setSessionKeys txKey rxKey }
  | .confirmAuthenticated seq => { peer with stream := peer.stream.confirmAuthenticated seq }
  | .close => { peer with stream := peer.stream.close }

/-- The result of a session step, and the calls it makes on the stream. -/
def applyStep (peer : UdpPeer) (result : Session × Effects) : UdpPeer :=
  result.2.calls.foldl applyCall { peer with session := result.1 }

/-- `write_frame` raised before its first transmission. -/
def failWrite (peer : UdpPeer) (task : Nat) (exn : Exn) : UdpPeer :=
  match peer.session.tasks task with
  | some (.writing locked) => peer.applyStep (peer.session.raiseLocked task locked exn)
  | _ => peer

/-- `write_frame` up to its first wait: encode, `write`, and the first transmission
of `drain`. -/
def startWrite (peer : UdpPeer) (sent : SentFrame) : UdpPeer :=
  match encodeFrame sent.type sent.payload sent.seq with
  | .error exn => peer.failWrite sent.task exn
  | .ok data =>
      match peer.stream.write data with
      | .error exn => peer.failWrite sent.task exn
      | .ok stream =>
          { peer with
            stream := stream.startDrain
            arq := some { task := sent.task, data, attempt := 0 }
            outbox := peer.outbox ++ [data] }

/-- Perform a session step with everything it asks of the stream. -/
def perform (peer : UdpPeer) (result : Session × Effects) : UdpPeer :=
  match result.2.write with
  | none => peer.applyStep result
  | some sent => (peer.applyStep result).startWrite sent

/-- `datagram_received`. -/
def feed (P : Primitives) (peer : UdpPeer) (data : Bytes) : UdpPeer :=
  let (stream, replies) := peer.stream.feedPacket P data
  { peer with
    stream
    outbox := peer.outbox ++ replies
    arrived :=
      if stream.readBuffer.length > peer.stream.readBuffer.length then
        peer.arrived ++ [(peer.stream.rxKey, data)]
      else
        peer.arrived }

/-- A `recv` coroutine reads on.  A closed stream ends a read that it cannot serve. -/
def resumeRead (P : Primitives) (peer : UdpPeer) (task : Nat) (now : Rat) :
    Option UdpPeer :=
  match peer.session.tasks task with
  | some (.reading _ pending) =>
      match readFrame true pending peer.stream.readBuffer with
      | (.finished result, rest) =>
          (peer.session.step P (.read task result now)).map
            ({ peer with stream := { peer.stream with readBuffer := rest } } : UdpPeer).perform
      | (.suspended header, rest) =>
          if peer.stream.closed then
            (peer.session.step P
                (.read task (.error ⟨.incompleteReadError, "stream closed"⟩) now)).map
              peer.perform
          else
            match header with
            | none => some peer
            | some header =>
                (peer.session.step P (.readHeader task header)).map
                  ({ peer with stream := { peer.stream with readBuffer := rest } } :
                    UdpPeer).perform
  | _ => none

def step (P : Primitives) (peer : UdpPeer) : UdpAction → Option UdpPeer
  | .call task op now => (peer.session.step P (.call task op now)).map peer.perform
  | .acquire task => (peer.session.step P (.acquire task)).map peer.perform
  | .acked now =>
      match peer.arq with
      | none => none
      | some arq =>
          if peer.stream.ackReceived then
            (peer.session.step P (.wrote arq.task none now)).map
              ({ peer with arq := none } : UdpPeer).perform
          else
            none
  | .timeout now =>
      match peer.arq with
      | none => none
      | some arq =>
          if arq.attempt + 1 < maxAttempts then
            some { peer with
              arq := some { arq with attempt := arq.attempt + 1 }
              outbox := peer.outbox ++ [arq.data] }
          else
            (peer.session.step P
                (.wrote arq.task (some ⟨.osError, "UDP transmission failed"⟩) now)).map
              ({ peer with arq := none } : UdpPeer).perform
  | .resume task now => peer.resumeRead P task now
  | .cancel task =>
      let arq := if peer.session.lock = some task then none else peer.arq
      (peer.session.step P (.cancel task)).map ({ peer with arq } : UdpPeer).perform
  | .feed data => some (peer.feed P data)

/-! ## What performing a step leaves alone -/

theorem foldl_applyCall (peer : UdpPeer) (calls : List TransportCall) :
    (calls.foldl applyCall peer).session = peer.session ∧
      (calls.foldl applyCall peer).arq = peer.arq ∧
      (calls.foldl applyCall peer).outbox = peer.outbox ∧
      (calls.foldl applyCall peer).arrived = peer.arrived ∧
      (calls.foldl applyCall peer).stream.readBuffer = peer.stream.readBuffer := by
  induction calls generalizing peer with
  | nil => exact ⟨rfl, rfl, rfl, rfl, rfl⟩
  | cons call rest ih =>
      obtain ⟨session, arq, outbox, arrived, buffer⟩ := ih (peer.applyCall call)
      rw [List.foldl_cons, session, arq, outbox, arrived, buffer]
      cases call with
      | confirmAuthenticated seq =>
          refine ⟨rfl, rfl, rfl, rfl, ?_⟩
          simp only [applyCall, UDPStream.confirmAuthenticated]
          split <;> rfl
      | setSessionKeys txKey rxKey | close => exact ⟨rfl, rfl, rfl, rfl, rfl⟩

@[simp] theorem applyStep_frame (peer : UdpPeer) (result : Session × Effects) :
    (peer.applyStep result).session = result.1 ∧
      (peer.applyStep result).arq = peer.arq ∧
      (peer.applyStep result).outbox = peer.outbox ∧
      (peer.applyStep result).arrived = peer.arrived ∧
      (peer.applyStep result).stream.readBuffer = peer.stream.readBuffer :=
  foldl_applyCall _ _

/-- A write fails at once, or its frame is sent and waits for a UTACK. -/
theorem startWrite_cases (peer : UdpPeer) (sent : SentFrame) :
    (∃ exn, peer.startWrite sent = peer.failWrite sent.task exn) ∨
      encodeFrame sent.type sent.payload sent.seq = .ok sent.bytes ∧
        ∃ stream, peer.stream.write sent.bytes = .ok stream ∧
          peer.startWrite sent =
            { peer with
              stream := stream.startDrain
              arq := some { task := sent.task, data := sent.bytes, attempt := 0 }
              outbox := peer.outbox ++ [sent.bytes] } := by
  unfold startWrite
  split
  · exact .inl ⟨_, rfl⟩
  · rename_i data encoded
    have same : data = sent.bytes := by
      have result := encoded
      unfold encodeFrame at result
      repeat' split at result
      all_goals cases result
      rfl
    subst same
    split
    · exact .inl ⟨_, rfl⟩
    · rename_i stream wrote
      exact .inr ⟨encoded, stream, wrote, rfl⟩

end UdpPeer

end Usmp
