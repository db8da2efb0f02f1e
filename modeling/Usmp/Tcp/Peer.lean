import Usmp.Session.Results

/-!
# A session on a TCP connection

One end of a TCP connection: the session over a `TCPTransport`, whose reader and
writer are the standard library's streams.  Bytes arrive in arbitrary chunks; what
is written goes to the socket in order.  `StreamReader` serves one waiting reader,
so one call of `recv` is in progress at a time.
-/

namespace Usmp

structure TcpPeer where
  session : Session
  /-- What the `StreamReader` holds. -/
  buffer : Bytes := []
  /-- `feed_eof` was called. -/
  eof : Bool := false
  /-- `close` was called on the writer. -/
  closed : Bool := false
  /-- What was written and has not reached the other end. -/
  outgoing : Bytes := []
  /-- How much of it the transport's own buffer held when it was last written to or flushed. -/
  held : Nat := 0
  /-- The connection was lost. -/
  lost : Bool := false

inductive TcpAction where
  | call (task : Nat) (op : Op) (now : Rat)
  | acquire (task : Nat)
  /-- `drain` returned, or raised `failure`. -/
  | wrote (task : Nat) (failure : Option Exn) (now : Rat)
  /-- A `recv` coroutine goes on reading. -/
  | resume (task : Nat) (now : Rat)
  | cancel (task : Nat)
  /-- `feed_data`. -/
  | receive (data : Bytes)
  /-- `feed_eof`. -/
  | receiveEof
  /-- The socket takes bytes out of the transport's buffer. -/
  | flush (count : Nat)
  /-- The socket fails: the transport discards what is written from now on. -/
  | lose

namespace TcpPeer

/-- The result of a session step without a write. -/
def applyStep (peer : TcpPeer) (result : Session × Effects) : TcpPeer :=
  { peer with
    session := result.1
    closed := peer.closed || result.2.calls.contains .close }

/-- What is left of it in the transport's buffer: it does not hold what has arrived. -/
def unsent (peer : TcpPeer) : Nat := min peer.held peer.outgoing.length

/-- Whether the transport takes what is written: a closed one does until its buffer is empty. -/
def takes (peer : TcpPeer) : Bool := !peer.lost && (!peer.closed || 0 < peer.unsent)

/-- `write_frame` up to its `drain`. -/
def startWrite (peer : TcpPeer) (sent : SentFrame) : TcpPeer :=
  match encodeFrame sent.type sent.payload sent.seq with
  | .error exn =>
      match peer.session.tasks sent.task with
      | some (.writing locked) => peer.applyStep (peer.session.raiseLocked sent.task locked exn)
      | _ => peer
  | .ok data =>
      if peer.takes then
        { peer with
          outgoing := peer.outgoing ++ data
          held := peer.unsent + data.length }
      else peer

/-- Perform a session step with what it asks of the transport. -/
def perform (peer : TcpPeer) (result : Session × Effects) : TcpPeer :=
  match result.2.write with
  | none => peer.applyStep result
  | some sent => (peer.applyStep result).startWrite sent

/-- A `recv` coroutine reads on.  At the end of the stream `readexactly` discards what
it cannot complete. -/
def resumeRead (P : Primitives) (peer : TcpPeer) (task : Nat) (now : Rat) : Option TcpPeer :=
  match peer.session.tasks task with
  | some (.reading _ pending) =>
      match readFrame true pending peer.buffer with
      | (.finished result, rest) =>
          (peer.session.step P (.read task result now)).map
            ({ peer with buffer := rest } : TcpPeer).perform
      | (.suspended header, rest) =>
          if peer.eof then
            (peer.session.step P
                (.read task (.error ⟨.incompleteReadError, "end of stream"⟩) now)).map
              ({ peer with buffer := [] } : TcpPeer).perform
          else
            match header with
            | none => some peer
            | some header =>
                (peer.session.step P (.readHeader task header)).map
                  ({ peer with buffer := rest } : TcpPeer).perform
  | _ => none

def step (P : Primitives) (peer : TcpPeer) : TcpAction → Option TcpPeer
  | .call task op now => (peer.session.step P (.call task op now)).map peer.perform
  | .acquire task => (peer.session.step P (.acquire task)).map peer.perform
  | .wrote task failure now => (peer.session.step P (.wrote task failure now)).map peer.perform
  | .resume task now => peer.resumeRead P task now
  | .cancel task => (peer.session.step P (.cancel task)).map peer.perform
  | .receive data => if peer.eof then none else some { peer with buffer := peer.buffer ++ data }
  | .receiveEof => some { peer with eof := true }
  | .flush count => some { peer with held := peer.unsent - count }
  | .lose => some { peer with lost := true }

/-! ## What a step does -/

/-- The resumption of a coroutine that an action stands for. -/
inductive Resumes : TcpAction → SessionAction → Prop where
  | call (task : Nat) (op : Op) (now : Rat) : Resumes (.call task op now) (.call task op now)
  | acquire (task : Nat) : Resumes (.acquire task) (.acquire task)
  | wrote (task : Nat) (failure : Option Exn) (now : Rat) :
      Resumes (.wrote task failure now) (.wrote task failure now)
  | read (task : Nat) (result : Except Exn USMPFrame) (now : Rat) :
      Resumes (.resume task now) (.read task result now)
  | readHeader (task : Nat) (header : Bytes) (now : Rat) :
      Resumes (.resume task now) (.readHeader task header)
  | cancel (task : Nat) : Resumes (.cancel task) (.cancel task)

/-- What a resumption takes out of the reader's buffer. -/
inductive Took (peer : TcpPeer) : SessionAction → Bytes → Prop where
  | frame (task : Nat) (result : Except Exn USMPFrame) (now : Rat) (locals : RecvLocals)
      (pending : Option Bytes) (left : Bytes)
      (reading : peer.session.tasks task = some (.reading locals pending))
      (read : readFrame true pending peer.buffer = (.finished result, left)) :
      Took peer (.read task result now) left
  | cutOff (task : Nat) (now : Rat) (exn : Exn) (ended : peer.eof = true) :
      Took peer (.read task (.error exn) now) []
  | header (task : Nat) (taken left : Bytes) (locals : RecvLocals)
      (reading : peer.session.tasks task = some (.reading locals none))
      (read : readFrame true none peer.buffer = (.suspended (some taken), left)) :
      Took peer (.readHeader task taken) left
  | nothing (action : SessionAction) (notRead : ∀ task result now, action ≠ .read task result now)
      (notHeader : ∀ task taken, action ≠ .readHeader task taken) :
      Took peer action peer.buffer

/-- A step that resumes a coroutine. -/
structure Moved (P : Primitives) (before after : TcpPeer) (action : SessionAction)
    (base : Session) (fate : Fate) (effects : Effects) : Prop where
  progress : before.session.Progress P action base fate effects
  session : after.session = base.settle action.task fate
  took : Took before action after.buffer
  eof : after.eof = before.eof
  closed : after.closed = (before.closed || effects.calls.contains .close)
  lost : after.lost = before.lost
  written : after.outgoing = before.outgoing ++
    if before.takes then effects.write.toList.flatMap SentFrame.bytes else []
  done : before.takes = false → after.takes = false

theorem Moved.outgoing {P : Primitives} {before after : TcpPeer} {action : SessionAction}
    {base : Session} {fate : Fate} {effects : Effects}
    (moved : Moved P before after action base fate effects) (isOpen : before.closed = false)
    (connected : before.lost = false) :
    after.outgoing = before.outgoing ++ effects.write.toList.flatMap SentFrame.bytes := by
  rw [moved.written, if_pos (by simp [takes, isOpen, connected])]

theorem perform_frame {P : Primitives} (sized : P.SizedAead) {peer : TcpPeer}
    {action : SessionAction} {result : Session × Effects}
    (bound : peer.session.info.txSeq ≤ maxSeq)
    (stepped : peer.session.step P action = some result) (left : Bytes) :
    let after := ({ peer with buffer := left } : TcpPeer).perform result
    after.session = result.1 ∧ after.buffer = left ∧ after.eof = peer.eof ∧
      after.closed = (peer.closed || result.2.calls.contains .close) ∧
      after.lost = peer.lost ∧
      after.outgoing = peer.outgoing ++
        (if peer.takes then result.2.write.toList.flatMap SentFrame.bytes else []) ∧
      (peer.takes = false → after.takes = false) := by
  obtain ⟨base, fate, progress, settled⟩ := Session.progress_of_step stepped
  cases wrote : result.2.write with
  | none =>
      simp only [perform, wrote]
      refine ⟨rfl, rfl, rfl, rfl, rfl, by simp [applyStep], ?_⟩
      intro done
      simp only [takes, Bool.and_eq_false_iff, Bool.or_eq_false_iff, Bool.not_eq_false'] at done ⊢
      rcases done with lost | ⟨closed, empty⟩
      · exact .inl lost
      · exact .inr ⟨by simp [applyStep, closed], empty⟩
  | some sent =>
      -- a step that writes closes nothing
      have encoded : encodeFrame sent.type sent.payload sent.seq = .ok sent.bytes ∧
          result.2.calls.contains .close = false := by
        obtain ⟨after, effects⟩ := result
        cases progress <;> simp only [reduceCtorEq] at wrote
        cases wrote
        exact ⟨(encryptedFrame_genuine P _ _ bound).encode sized, rfl⟩
      have same : (({ peer with buffer := left } : TcpPeer).applyStep result).takes =
          peer.takes := by
        simp only [applyStep, takes, encoded.2, Bool.or_false]
        rfl
      simp only [perform, wrote, startWrite, encoded.1, same]
      cases takes : peer.takes with
      | true => simp [applyStep]
      | false =>
          refine ⟨rfl, rfl, rfl, rfl, rfl, by simp [applyStep], fun _ => ?_⟩
          rw [if_neg Bool.false_ne_true, same, takes]

/-- A session step and what it takes from the reader, performed. -/
theorem moved_perform {P : Primitives} (sized : P.SizedAead) {peer : TcpPeer}
    {resumption : SessionAction} {result : Session × Effects} {left : Bytes}
    (bound : peer.session.info.txSeq ≤ maxSeq)
    (stepped : peer.session.step P resumption = some result) (took : Took peer resumption left) :
    ∃ base fate, Moved P peer (({ peer with buffer := left } : TcpPeer).perform result) resumption
      base fate result.2 := by
  obtain ⟨session, buffer, eof, closed, lost, written, done⟩ :=
    perform_frame sized bound stepped left
  obtain ⟨base, fate, progress, settled⟩ := Session.progress_of_step stepped
  exact ⟨base, fate, progress, session.trans settled, by rwa [buffer], eof, closed, lost,
    written, done⟩

/-- A step of a peer that encrypts within the sequence space. -/
theorem step_cases {P : Primitives} (sized : P.SizedAead) {before after : TcpPeer}
    {action : TcpAction} (bound : before.session.info.txSeq ≤ maxSeq)
    (stepped : before.step P action = some after) :
    (∃ held ≤ before.held, after = { before with held }) ∨
      (∃ data, action = .receive data ∧ after = { before with buffer := before.buffer ++ data }) ∨
      (action = .receiveEof ∧ after = { before with eof := true }) ∨
      (action = .lose ∧ after = { before with lost := true }) ∨
      ∃ resumption base fate effects, Resumes action resumption ∧
        Moved P before after resumption base fate effects := by
  have moved : ∀ {resumption : SessionAction} {result : Session × Effects} {left : Bytes},
      Resumes action resumption → before.session.step P resumption = some result →
      Took before resumption left →
      ∃ resumption base fate effects, Resumes action resumption ∧
        Moved P before (({ before with buffer := left } : TcpPeer).perform result) resumption
          base fate effects := by
    intro resumption result left resumes onSession took
    obtain ⟨base, fate, moved⟩ := moved_perform sized bound onSession took
    exact ⟨resumption, base, fate, result.2, resumes, moved⟩
  cases action with
  | call task op now =>
      obtain ⟨result, onSession, rfl⟩ := Option.map_eq_some_iff.mp stepped
      refine .inr (.inr (.inr (.inr ?_)))
      exact moved (.call task op now) onSession (.nothing _ (by simp) (by simp))
  | acquire task =>
      obtain ⟨result, onSession, rfl⟩ := Option.map_eq_some_iff.mp stepped
      refine .inr (.inr (.inr (.inr ?_)))
      exact moved (.acquire task) onSession (.nothing _ (by simp) (by simp))
  | wrote task failure now =>
      obtain ⟨result, onSession, rfl⟩ := Option.map_eq_some_iff.mp stepped
      refine .inr (.inr (.inr (.inr ?_)))
      exact moved (.wrote task failure now) onSession (.nothing _ (by simp) (by simp))
  | cancel task =>
      obtain ⟨result, onSession, rfl⟩ := Option.map_eq_some_iff.mp stepped
      refine .inr (.inr (.inr (.inr ?_)))
      exact moved (.cancel task) onSession (.nothing _ (by simp) (by simp))
  | resume task now =>
      simp only [step, resumeRead] at stepped
      split at stepped
      case h_2 => cases stepped
      rename_i locals pending isReading
      split at stepped
      · rename_i result rest finished
        obtain ⟨_, onSession, rfl⟩ := Option.map_eq_some_iff.mp stepped
        refine .inr (.inr (.inr (.inr ?_)))
        exact moved (.read task result now) onSession
          (.frame task result now locals pending rest isReading finished)
      · rename_i header rest suspended
        split at stepped
        · rename_i ended
          obtain ⟨_, onSession, rfl⟩ := Option.map_eq_some_iff.mp stepped
          refine .inr (.inr (.inr (.inr ?_)))
          exact moved (.read task _ now) onSession (.cutOff task now _ ended)
        split at stepped
        · cases stepped
          exact .inl ⟨before.held, Nat.le_refl _, rfl⟩
        · rename_i taken
          obtain ⟨result, onSession, rfl⟩ := Option.map_eq_some_iff.mp stepped
          have untaken : pending = none := by
            cases pending with
            | none => rfl
            | some old => simp [Session.step, isReading] at onSession
          subst untaken
          refine .inr (.inr (.inr (.inr ?_)))
          exact moved (.readHeader task taken now) onSession
            (.header task taken rest locals isReading suspended)
  | receive data =>
      simp only [step] at stepped
      split at stepped <;> cases stepped
      exact .inr (.inl ⟨data, rfl, rfl⟩)
  | receiveEof =>
      cases stepped
      exact .inr (.inr (.inl ⟨rfl, rfl⟩))
  | lose =>
      cases stepped
      exact .inr (.inr (.inr (.inl ⟨rfl, rfl⟩)))
  | flush count =>
      cases stepped
      exact .inl ⟨_, Nat.le_trans (Nat.sub_le _ _) (Nat.min_le_left _ _), rfl⟩

end TcpPeer

end Usmp
