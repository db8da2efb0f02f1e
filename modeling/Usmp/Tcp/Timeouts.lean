import Usmp.Sample
import Usmp.Session.Timeouts
import Usmp.Tcp.Peer

/-!
# Timeouts over TCP

What calls of `recv` return over TCP depends on the bytes that arrived only: not on how they were
cut into chunks, when the calls were made, which of them timed out between two messages, or what
was sent meanwhile.
-/

namespace Usmp

/-- The bytes that an action hands to the reader. -/
def TcpAction.arrived : TcpAction → Bytes
  | .receive data => data
  | .call _ _ _ | .acquire _ | .wrote _ _ _ | .resume _ _ | .cancel _ | .receiveEof
  | .flush _ | .lose => []

namespace TcpPeer

/-- The result of `read_frame` for a `recv` that reads on. -/
def gets (peer : TcpPeer) (task : Nat) : Option (Except Exn USMPFrame) :=
  match peer.session.tasks task with
  | some (.reading _ pending) =>
      match (readFrame true pending peer.buffer).1 with
      | .finished result => some result
      | .suspended _ => none
  | _ => none

/-- The resumption of the coroutine loses nothing, and the stream does not end. -/
def Heedful (P : Primitives) (peer : TcpPeer) : TcpAction → Prop
  | .call task op now => peer.session.Heedful P (.call task op now)
  | .cancel task => peer.session.Heedful P (.cancel task)
  | .resume task now => ∀ result ∈ peer.gets task, peer.session.Heedful P (.read task result now)
  | .receiveEof | .lose => False
  | .acquire _ | .wrote _ _ _ | .receive _ | .flush _ => True

instance (P : Primitives) (peer : TcpPeer) :
    (action : TcpAction) → Decidable (peer.Heedful P action)
  | .call task op now => inferInstanceAs (Decidable (peer.session.Heedful P (.call task op now)))
  | .cancel task => inferInstanceAs (Decidable (peer.session.Heedful P (.cancel task)))
  | .resume task now => inferInstanceAs (Decidable
      (∀ result ∈ peer.gets task, peer.session.Heedful P (.read task result now)))
  | .receiveEof | .lose => isFalse not_false
  | .acquire _ | .wrote _ _ _ | .receive _ | .flush _ => isTrue trivial

/-- The peer has made of `total` what `Intake.take` makes of it. -/
structure Consumed (P : Primitives) (start : Intake) (total : Bytes) (peer : TcpPeer) : Prop where
  session : peer.session.Consumed P start total peer.buffer
  reliable : peer.session.reliable = true
  bound : peer.session.info.txSeq ≤ maxSeq
  noEof : peer.eof = false

section Consumed

variable {P : Primitives} {start : Intake} {total left : Bytes} {before after : TcpPeer}
  {action : TcpAction} {resumption : SessionAction}

/-- What the reader gives up is taken by the session. -/
theorem Took.takes (took : Took before resumption left) (noEof : before.eof = false) :
    before.session.Takes before.buffer resumption left := by
  cases took with
  | frame task result now locals pending left reading read =>
      exact .frame task result now locals pending left reading read
  | cutOff task now exn ended =>
      rw [noEof] at ended
      cases ended
  | header task taken left locals reading read => exact .header task taken left locals reading read
  | nothing _ notRead notHeader => exact .nothing _ notRead notHeader

theorem Heedful.resumes (heedful : before.Heedful P action)
    (resumes : Resumes action resumption)
    (takes : before.session.Takes before.buffer resumption left) :
    before.session.Heedful P resumption := by
  cases resumes with
  | call task op now => exact heedful
  | cancel task => exact heedful
  | acquire task | wrote task failure now | readHeader task header now => trivial
  | read task result now =>
      cases takes with
      | frame task result now locals pending left reading read =>
          have isNext : before.gets task = some result := by
            rw [gets, reading]
            dsimp only
            rw [read]
          exact heedful result isNext
      | nothing _ notRead notHeader => exact absurd rfl (notRead task result now)

theorem Consumed.next (sized : P.SizedAead) (consumed : before.Consumed P start total)
    (heedful : before.Heedful P action) (stepped : before.step P action = some after) :
    after.Consumed P start (total ++ action.arrived) := by
  rcases consumed with ⟨session, reliable, bound, noEof⟩
  rcases step_cases sized bound stepped with
    ⟨held, _, rfl⟩ | ⟨data, rfl, rfl⟩ | ⟨rfl, _⟩ | ⟨rfl, _⟩ |
      ⟨resumption, base, fate, effects, resumes, moved⟩
  · have nothing : action.arrived = [] := by
      cases action with
      | receive data =>
          rw [TcpPeer.step, noEof] at stepped
          have same := congrArg TcpPeer.buffer (Option.some.inj stepped)
          exact List.append_right_eq_self.mp same
      | call | acquire | wrote | resume | cancel | receiveEof | flush | lose => rfl
    rw [nothing, List.append_nil]
    exact ⟨session, reliable, bound, noEof⟩
  · exact ⟨session.arrive data, reliable, bound, noEof⟩
  · exact heedful.elim
  · exact heedful.elim
  · have nothing : action.arrived = [] := by
      cases resumes <;> rfl
    have takes := moved.took.takes noEof
    have identity := moved.progress.identity
    rw [nothing, List.append_nil]
    refine ⟨?_, ?_, ?_, moved.eof.trans noEof⟩
    · rw [moved.session]
      exact session.progress moved.progress (heedful.resumes resumes takes) takes
    · rw [moved.session, (Session.settle_frame _ _ _).1]
      exact identity.2.2.1.trans reliable
    · rw [moved.session, (Session.settle_frame _ _ _).2.1]
      exact identity.2.2.2 bound

/-- A run that loses nothing. -/
theorem Consumed.run (sized : P.SizedAead) {final : TcpPeer} {actions : List TcpAction}
    (consumed : before.Consumed P start total)
    (heedful : Machine.Along (step P) (Heedful P) before actions)
    (reached : Machine.run (step P) before actions = some final) :
    final.Consumed P start (total ++ actions.flatMap TcpAction.arrived) := by
  induction actions generalizing before total with
  | nil =>
      cases reached
      rw [List.flatMap_nil, List.append_nil]
      exact consumed
  | cons action rest ih =>
      rcases Machine.run_cons_some.mp reached with ⟨next, stepped, later⟩
      rw [List.flatMap_cons, ← List.append_assoc]
      exact ih (consumed.next sized heedful.1 stepped) (heedful.2 next stepped) later

end Consumed

theorem tcp_recv_timeouts (P : Primitives) (sized : P.SizedAead) (info : SessionInfo)
    (bound : info.txSeq ≤ maxSeq) (actions actions' : List TcpAction) (final final' : TcpPeer)
    (reached : Machine.run (step P) { session := .new true info } actions = some final)
    (reached' : Machine.run (step P) { session := .new true info } actions' = some final')
    (heedful : Machine.Along (step P) (Heedful P) { session := .new true info } actions)
    (heedful' : Machine.Along (step P) (Heedful P) { session := .new true info } actions')
    (more : Bytes)
    (input : actions'.flatMap TcpAction.arrived = actions.flatMap TcpAction.arrived ++ more) :
    Session.SameInput final.session final'.session final.buffer final'.buffer more := by
  have start : Consumed P { info := info.rxPart } [] { session := .new true info } :=
    ⟨.new P true info, rfl, bound, rfl⟩
  have consumed := start.run sized heedful reached
  have consumed' := start.run sized heedful' reached'
  rw [List.nil_append] at consumed consumed'
  rw [input] at consumed'
  exact consumed.session.sameInput consumed'.session
    (consumed.reliable.trans consumed'.reliable.symm)

/-- The bytes of two messages of a client. -/
def sampleMessages : Bytes :=
  (encryptedFrame samplePrimitives (sampleInfo 3 4 0) 0 (.send [9, 9] 0)).bytes ++
    (encryptedFrame samplePrimitives (sampleInfo 3 4 1) 0 (.send [8] 0)).bytes

/-- A call of `recv` times out before the first message is there, a message is sent meanwhile,
and the bytes come in three pieces. -/
def recvTimesOut : List TcpAction :=
  [.receive (sampleMessages.take 5), .call 0 .recv 0, .resume 0 0, .call 1 (.send [1]) 0,
    .acquire 1, .cancel 0, .receive ((sampleMessages.drop 5).take 40), .wrote 1 none 0,
    .call 2 .recv 0, .resume 2 0, .call 3 .recv 0, .resume 3 0,
    .receive (sampleMessages.drop 45), .resume 3 0]

/-- The bytes come at once. -/
def recvAtOnce : List TcpAction :=
  [.call 0 .recv 0, .receive sampleMessages, .resume 0 0, .call 1 .recv 0, .resume 1 0]

theorem tcp_recv_timeouts_chunks :
    ∃ final final',
      Machine.run (step samplePrimitives) { session := .new true (sampleInfo 4 3) }
          recvTimesOut = some final ∧
        Machine.run (step samplePrimitives) { session := .new true (sampleInfo 4 3) }
          recvAtOnce = some final' ∧
        final'.session.received = [[9, 9], [8]] ∧
        Session.SameInput final.session final'.session final.buffer final'.buffer [] := by
  rcases Machine.exists_run (step samplePrimitives) { session := .new true (sampleInfo 4 3) }
    recvTimesOut (fun final => final.session.received = [[9, 9], [8]]) (by decide +kernel) with
    ⟨final, reached, _⟩
  rcases Machine.exists_run (step samplePrimitives) { session := .new true (sampleInfo 4 3) }
    recvAtOnce (fun final => final.session.received = [[9, 9], [8]]) (by decide +kernel) with
    ⟨final', reached', received⟩
  refine ⟨final, final', reached, reached', received, ?_⟩
  exact tcp_recv_timeouts samplePrimitives samplePrimitives_sized (sampleInfo 4 3) (Nat.zero_le _)
    recvTimesOut recvAtOnce final final' reached reached' (by decide +kernel) (by decide +kernel)
    [] (by decide +kernel)

end TcpPeer

end Usmp
