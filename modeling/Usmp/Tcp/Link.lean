import Usmp.Tcp.Peer

/-!
# Two peers on a TCP connection

The two ends and the byte streams between them.  What one end wrote reaches the
other in order and in chunks of any size.
-/

namespace Usmp

inductive Side where
  | client
  | server
  deriving DecidableEq, Repr

def Side.other : Side → Side
  | .client => .server
  | .server => .client

@[simp] theorem Side.other_other (side : Side) : side.other.other = side := by
  cases side <;> rfl

structure TcpLink where
  client : TcpPeer
  server : TcpPeer

inductive LinkAction where
  /-- A step of one end. -/
  | act (side : Side) (action : TcpAction)
  /-- The next bytes on the way to one end arrive. -/
  | transfer (target : Side) (count : Nat)
  /-- The other end closed, and everything it wrote has arrived. -/
  | hangUp (target : Side)

namespace TcpLink

def peer (link : TcpLink) : Side → TcpPeer
  | .client => link.client
  | .server => link.server

def withPeer (link : TcpLink) (side : Side) (peer : TcpPeer) : TcpLink :=
  match side with
  | .client => { link with client := peer }
  | .server => { link with server := peer }

@[simp] theorem peer_withPeer (link : TcpLink) (side : Side) (peer : TcpPeer) :
    (link.withPeer side peer).peer side = peer := by
  cases side <;> rfl

@[simp] theorem peer_withPeer_other (link : TcpLink) (side : Side) (peer : TcpPeer) :
    (link.withPeer side peer).peer side.other = link.peer side.other := by
  cases side <;> rfl

@[simp] theorem peer_withPeer_of_other (link : TcpLink) (side : Side) (peer : TcpPeer) :
    (link.withPeer side.other peer).peer side = link.peer side := by
  cases side <;> rfl

def step (P : Primitives) (link : TcpLink) : LinkAction → Option TcpLink
  | .act _ (.receive _) | .act _ .receiveEof => none
  | .act side action => ((link.peer side).step P action).map (link.withPeer side)
  | .transfer target count =>
      let source := link.peer target.other
      ((link.peer target).step P (.receive (source.outgoing.take count))).map fun peer =>
        (link.withPeer target peer).withPeer target.other
          { source with outgoing := source.outgoing.drop count }
  | .hangUp target =>
      let source := link.peer target.other
      if source.closed ∧ source.outgoing = [] then
        ((link.peer target).step P .receiveEof).map (link.withPeer target)
      else
        none

/-- An established connection. -/
def new (clientInfo serverInfo : SessionInfo) : TcpLink :=
  { client := { session := .new true clientInfo }
    server := { session := .new true serverInfo } }

end TcpLink

/-- Parameters that agree on the session and mirror each other's keys and sequences. -/
structure Mirrored (near far : SessionInfo) : Prop where
  sessionId : far.sessionId = near.sessionId
  cipherSuite : far.cipherSuite = near.cipherSuite
  txKey : far.txKey = near.rxKey
  rxKey : far.rxKey = near.txKey
  txSeq : far.txSeq = near.rxSeq
  rxSeq : far.rxSeq = near.txSeq

theorem Mirrored.symm {near far : SessionInfo} (mirrored : Mirrored near far) :
    Mirrored far near :=
  ⟨mirrored.sessionId.symm, mirrored.cipherSuite.symm, mirrored.rxKey.symm,
    mirrored.txKey.symm, mirrored.rxSeq.symm, mirrored.txSeq.symm⟩

namespace TcpPeer

/-- What the action would encrypt. -/
def aboutToSend (peer : TcpPeer) : TcpAction → Option Locked
  | .acquire task =>
      match peer.session.lock, peer.session.tasks task with
      | none, some (.lockWait locked) => some locked
      | _, _ => none
  | .wrote task none _ =>
      match peer.session.tasks task with
      | some (.writing (.send data offset)) =>
          let next := offset + (chunkAt data offset).length
          if next < data.length then some (.send data next) else none
      | _ => none
  | _ => none

theorem aboutToSend_of_encrypting {peer : TcpPeer} {action : TcpAction}
    {resumption : SessionAction} {task : Nat} {locked : Locked} {admitted : List (Nat × Locked)}
    (resumes : Resumes action resumption)
    (ready : peer.session.Encrypting task resumption locked admitted) :
    peer.aboutToSend action = some locked := by
  cases ready with
  | admitted locked free waiting =>
      cases resumes
      simp [aboutToSend, free, waiting]
  | nextFragment data offset now writing more =>
      cases resumes
      simp [aboutToSend, writing, more]

/-- The type of the frame that a resumed `recv` gets. -/
def readsNext (peer : TcpPeer) : TcpAction → Option PacketType
  | .resume task _ =>
      match peer.session.tasks task with
      | some (.reading _ pending) =>
          match (readFrame true pending peer.buffer).1 with
          | .finished (.ok frame) => some frame.type
          | _ => none
      | _ => none
  | _ => none

/-- Only messages, rotations and one `recv` at a time, none of them cut short. -/
def Undisturbed (peer : TcpPeer) : TcpAction → Prop
  | .call _ (.send _) _ | .call _ (.rekey _) _ => True
  | .call _ .recv _ => peer.session.receiving = false
  | .call _ .ping _ | .call _ .bye _ => False
  | .acquire _ | .resume _ _ | .flush _ => True
  | .wrote _ failure _ => failure = none
  | .cancel _ | .receive _ | .receiveEof | .lose => False

instance (peer : TcpPeer) : (action : TcpAction) → Decidable (peer.Undisturbed action)
  | .call _ (.send _) _ | .call _ (.rekey _) _ | .acquire _ | .resume _ _ | .flush _ =>
      isTrue trivial
  | .call _ .recv _ => inferInstanceAs (Decidable (peer.session.receiving = false))
  | .wrote _ failure _ => inferInstanceAs (Decidable (failure = none))
  | .call _ .ping _ | .call _ .bye _ | .cancel _ | .receive _ | .receiveEof | .lose =>
      isFalse id

end TcpPeer

/-- The same of the end that acts. -/
def TcpLink.Undisturbed (link : TcpLink) : LinkAction → Prop
  | .act side action => (link.peer side).Undisturbed action
  | .transfer _ _ | .hangUp _ => True

instance (link : TcpLink) : (action : LinkAction) → Decidable (link.Undisturbed action)
  | .act side action => inferInstanceAs (Decidable ((link.peer side).Undisturbed action))
  | .transfer _ _ | .hangUp _ => isTrue trivial

end Usmp
