import Usmp.Lib.Machine
import Usmp.Sample
import Usmp.Udp.Feed
import Mathlib.Logic.Function.Basic

/-!
# Frames out of datagrams

Any number of `read_frame` calls take frames from an open stream while datagrams come in.  The
stream holds whole datagrams only, so that what a call gives is what `decode_frame` gives on one
datagram, and nothing that was read moves the beginning of the next frame.
-/

namespace Usmp

/-- An open stream and the calls of `read_frame` on it.  The histories are the calls and their
cancellations, the datagrams that came into the read buffer, and what the calls gave, in the
order in which they did. -/
structure FramedStream where
  stream : UDPStream
  /-- The calls that wait: their `verify_crc`, and a header that they have taken. -/
  waiting : Nat → Option (Bool × Option Bytes) := fun _ => none
  calls : List Nat := []
  cancelled : List Nat := []
  accepted : List Bytes := []
  results : List (Nat × Bool × Except Exn USMPFrame) := []

inductive FramingAction where
  | feed (data : Bytes)
  | call (task : Nat) (verifyCrc : Bool)
  /-- `_data_event` wakes a call up. -/
  | resume (task : Nat)
  | cancel (task : Nat)
  | confirmAuthenticated (seq : Nat)
  | setSessionKeys (txKey rxKey : Key)
  | write (data : Bytes)
  | drain
  deriving DecidableEq

namespace FramedStream

/-- Run a call as far as the read buffer allows. -/
def read (framed : FramedStream) (task : Nat) (verifyCrc : Bool) (pending : Option Bytes) :
    FramedStream :=
  match readFrame verifyCrc pending framed.stream.readBuffer with
  | (.suspended pending, left) =>
      { framed with
        stream := { framed.stream with readBuffer := left }
        waiting := Function.update framed.waiting task (some (verifyCrc, pending)) }
  | (.finished result, left) =>
      { framed with
        stream := { framed.stream with readBuffer := left }
        waiting := Function.update framed.waiting task none
        results := framed.results ++ [(task, verifyCrc, result)] }

def step (P : Primitives) (framed : FramedStream) : FramingAction → Option FramedStream
  | .feed data =>
      let stream := (framed.stream.feedPacket P data).1
      some { framed with
        stream
        accepted :=
          if stream.readBuffer = framed.stream.readBuffer then framed.accepted
          else framed.accepted ++ [data] }
  | .call task verifyCrc =>
      if task ∈ framed.calls then none
      else some (({ framed with calls := framed.calls ++ [task] } : FramedStream).read task
        verifyCrc none)
  | .resume task =>
      match framed.waiting task with
      | some (verifyCrc, pending) => some (framed.read task verifyCrc pending)
      | none => none
  | .cancel task =>
      match framed.waiting task with
      | some _ =>
          some { framed with
            waiting := Function.update framed.waiting task none
            cancelled := framed.cancelled ++ [task] }
      | none => none
  | .confirmAuthenticated seq =>
      some { framed with stream := framed.stream.confirmAuthenticated seq }
  | .setSessionKeys txKey rxKey =>
      some { framed with stream := framed.stream.setSessionKeys txKey rxKey }
  | .write data =>
      match framed.stream.write data with
      | .ok stream => some { framed with stream }
      | .error _ => none
  | .drain => some { framed with stream := framed.stream.startDrain }

/-! ## The invariant -/

/-- The stream holds the accepted datagrams that no call has read. -/
structure Inv (framed : FramedStream) : Prop where
  frames : ∀ data ∈ framed.accepted, IsFrame data
  buffer : framed.stream.readBuffer = (framed.accepted.drop framed.results.length).flatten
  counted : framed.results.length ≤ framed.accepted.length
  bounded : framed.stream.readBuffer.length ≤ maxReadBuffer
  between : ∀ task verifyCrc pending, framed.waiting task = some (verifyCrc, pending) →
    pending = none
  decoded : ∀ (k : Nat) task verifyCrc result,
    framed.results[k]? = some (task, verifyCrc, result) →
      ∃ data, framed.accepted[k]? = some data ∧ result = decodeFrame data verifyCrc

theorem inv_new (stream : UDPStream) :
    Inv { stream := { stream with closed := false, readBuffer := [] } } := by
  constructor
  case between =>
    intro task verifyCrc pending waits
    cases waits
  all_goals simp

theorem feedPacket_length_readBuffer (P : Primitives) {stream : UDPStream} (data : Bytes)
    (bounded : stream.readBuffer.length ≤ maxReadBuffer) :
    (stream.feedPacket P data).1.readBuffer.length ≤ maxReadBuffer := by
  have fed := feedPacket_cases P stream data
  generalize stream.feedPacket P data = result at fed ⊢
  cases fed with
  | closed | noAck | ack | garbage | old => exact bounded
  | full =>
      unfold UDPStream.noteType
      split <;> exact bounded
  | buffered isOpen frame new room =>
      rw [List.length_append]
      exact room

theorem Inv.feed {framed : FramedStream} (inv : Inv framed) (P : Primitives) (data : Bytes) :
    Inv { framed with
      stream := (framed.stream.feedPacket P data).1
      accepted :=
        if (framed.stream.feedPacket P data).1.readBuffer = framed.stream.readBuffer then
          framed.accepted
        else framed.accepted ++ [data] } := by
  have bounded := feedPacket_length_readBuffer P data inv.bounded
  rcases feedPacket_readBuffer P framed.stream data with kept | ⟨frame, extended⟩
  · simp only [if_pos kept]
    exact ⟨inv.frames, kept.trans inv.buffer, inv.counted, bounded, inv.between, inv.decoded⟩
  · have grown : (framed.stream.feedPacket P data).1.readBuffer ≠ framed.stream.readBuffer := by
      intro same
      have size := frame.size
      have lengths := congrArg List.length (extended.symm.trans same)
      rw [List.length_append] at lengths
      simp only [usmpHeaderSize] at size
      omega
    simp only [if_neg grown]
    constructor
    case frames =>
      intro other member
      rcases List.mem_append.mp member with old | new
      · exact inv.frames other old
      · cases List.mem_singleton.mp new
        exact frame
    case buffer =>
      dsimp only
      rw [extended, inv.buffer, List.drop_append_of_le_length inv.counted, List.flatten_append,
        List.flatten_singleton]
    case counted =>
      rw [List.length_append]
      exact Nat.le_add_right_of_le inv.counted
    case bounded => exact bounded
    case between => exact inv.between
    case decoded =>
      intro k task verifyCrc result isResult
      rcases inv.decoded k task verifyCrc result isResult with ⟨other, found, isDecoded⟩
      have inside := (List.getElem?_eq_some_iff.mp found).1
      exact ⟨other, (List.getElem?_append_left inside).trans found, isDecoded⟩

/-- A call that waits for a header, or waits no more. -/
theorem Inv.between_update {framed : FramedStream} (inv : Inv framed) (task : Nat)
    {entry : Option (Bool × Option Bytes)}
    (own : ∀ verifyCrc pending, entry = some (verifyCrc, pending) → pending = none) :
    ∀ other verifyCrc pending,
      Function.update framed.waiting task entry other = some (verifyCrc, pending) →
        pending = none := by
  intro other verifyCrc pending isWaiting
  by_cases same : other = task
  · subst same
    rw [Function.update_self] at isWaiting
    exact own verifyCrc pending isWaiting
  · rw [Function.update_of_ne same] at isWaiting
    exact inv.between other verifyCrc pending isWaiting

/-- A call that takes nothing waits at the beginning of a datagram, and one that takes
something takes the next datagram as a whole. -/
theorem Inv.read {framed : FramedStream} (inv : Inv framed) (task : Nat) (verifyCrc : Bool) :
    Inv (framed.read task verifyCrc none) := by
  have queued : ∀ data ∈ framed.accepted.drop framed.results.length, IsFrame data :=
    fun data member => inv.frames data (List.mem_of_mem_drop member)
  have bounded := inv.bounded
  unfold FramedStream.read
  rw [inv.buffer] at bounded ⊢
  rcases readFrame_flatten verifyCrc queued with ⟨isEmpty, waits⟩ | ⟨data, rest, isNext, reads⟩
  · rw [waits]
    constructor
    case frames => exact inv.frames
    case buffer =>
      dsimp only
      rw [isEmpty]
      rfl
    case counted => exact inv.counted
    case bounded => exact Nat.zero_le _
    case between =>
      exact inv.between_update task fun _ _ same => by cases same; rfl
    case decoded => exact inv.decoded
  · rw [reads]
    have position : framed.accepted[framed.results.length]? = some data := by
      have head := congrArg List.head? isNext
      rw [List.head?_drop] at head
      exact head
    have inside := (List.getElem?_eq_some_iff.mp position).1
    constructor
    case frames => exact inv.frames
    case buffer =>
      dsimp only
      rw [List.length_append, List.length_singleton, ← List.drop_drop, isNext]
      rfl
    case counted =>
      rw [List.length_append]
      exact inside
    case bounded =>
      rw [isNext, List.flatten_cons, List.length_append] at bounded
      exact Nat.le_trans (Nat.le_add_left _ _) bounded
    case between =>
      exact inv.between_update task fun _ _ impossible => by cases impossible
    case decoded =>
      intro k other verifyCrc' result isResult
      by_cases old : k < framed.results.length
      · rw [List.getElem?_append_left old] at isResult
        exact inv.decoded k other verifyCrc' result isResult
      · rw [List.getElem?_append_right (Nat.not_lt.mp old)] at isResult
        have isLast : k - framed.results.length = 0 := by
          have := (List.getElem?_eq_some_iff.mp isResult).1
          rw [List.length_singleton] at this
          omega
        rw [isLast] at isResult
        cases isResult
        have isK : k = framed.results.length := by omega
        rw [isK]
        exact ⟨data, position, rfl⟩

/-- Calls on the stream that keep its read buffer. -/
theorem Inv.of_readBuffer {framed : FramedStream} (inv : Inv framed) {stream : UDPStream}
    (kept : stream.readBuffer = framed.stream.readBuffer) : Inv { framed with stream } := by
  constructor
  case buffer => exact kept.trans inv.buffer
  case bounded => exact kept ▸ inv.bounded
  case frames => exact inv.frames
  case counted => exact inv.counted
  case between => exact inv.between
  case decoded => exact inv.decoded

theorem Inv.step {P : Primitives} {framed after : FramedStream} {action : FramingAction}
    (inv : Inv framed) (stepped : framed.step P action = some after) : Inv after := by
  cases action with
  | feed data =>
      cases stepped
      exact inv.feed P data
  | call task verifyCrc =>
      simp only [FramedStream.step] at stepped
      split at stepped <;> cases stepped
      have called : Inv { framed with calls := framed.calls ++ [task] } :=
        ⟨inv.frames, inv.buffer, inv.counted, inv.bounded, inv.between, inv.decoded⟩
      exact called.read task verifyCrc
  | resume task =>
      simp only [FramedStream.step] at stepped
      split at stepped <;> cases stepped
      rename_i verifyCrc pending isWaiting
      cases inv.between task verifyCrc pending isWaiting
      exact inv.read task verifyCrc
  | cancel task =>
      simp only [FramedStream.step] at stepped
      split at stepped <;> cases stepped
      have between : ∀ other verifyCrc pending,
          Function.update framed.waiting task none other = some (verifyCrc, pending) →
            pending = none :=
        inv.between_update task fun _ _ impossible => by cases impossible
      exact ⟨inv.frames, inv.buffer, inv.counted, inv.bounded, between, inv.decoded⟩
  | confirmAuthenticated seq =>
      cases stepped
      apply inv.of_readBuffer
      unfold UDPStream.confirmAuthenticated
      split <;> rfl
  | setSessionKeys txKey rxKey =>
      cases stepped
      exact inv.of_readBuffer rfl
  | write data =>
      simp only [FramedStream.step, UDPStream.write] at stepped
      split at stepped <;> cases stepped
      rename_i written
      split at written <;> cases written
      exact inv.of_readBuffer rfl
  | drain =>
      cases stepped
      exact inv.of_readBuffer rfl

/-! ## Calls one after the other -/

/-- A call that has given a frame or an exception. -/
def completed (framed : FramedStream) (task : Nat) : Bool :=
  decide (task ∉ framed.cancelled) && (framed.waiting task).isNone

/-- A call is made only when every call before it has ended. -/
def OneAtATime (framed : FramedStream) : FramingAction → Prop
  | .call _ _ => ∀ other ∈ framed.calls, framed.waiting other = none
  | _ => True

/-- Calls one after the other, of which only the last can wait, and those that gave something. -/
inductive Turns (waiting : Nat → Option (Bool × Option Bytes)) (calls cancelled done : List Nat) :
    Prop where
  | idle (nodup : calls.Nodup) (known : cancelled ⊆ calls) (idle : ∀ task, waiting task = none)
      (inOrder : done = calls.filter fun task => decide (task ∉ cancelled)) :
      Turns waiting calls cancelled done
  | busy (earlier : List Nat) (task : Nat) (isLast : calls = earlier ++ [task])
      (nodup : calls.Nodup) (known : cancelled ⊆ earlier)
      (alone : ∀ other, other ≠ task → waiting other = none) (waits : waiting task ≠ none)
      (inOrder : done = earlier.filter fun task => decide (task ∉ cancelled)) :
      Turns waiting calls cancelled done

/-- The history of the calls on a stream. -/
abbrev TakesTurns (framed : FramedStream) : Prop :=
  Turns framed.waiting framed.calls framed.cancelled (framed.results.map Prod.fst)

theorem notMem_of_nodup {earlier : List Nat} {task : Nat} (nodup : (earlier ++ [task]).Nodup) :
    task ∉ earlier := by
  intro member
  exact (List.nodup_append.mp nodup).2.2 task member task List.mem_cons_self rfl

theorem TakesTurns.inOrder {framed : FramedStream} (turns : framed.TakesTurns) :
    framed.results.map Prod.fst = framed.calls.filter framed.completed := by
  cases turns with
  | idle nodup known idle inOrder =>
      rw [inOrder]
      apply List.filter_congr
      intro task _
      rw [completed, idle task]
      exact (Bool.and_true _).symm
  | busy earlier task isLast nodup known alone waits inOrder =>
      rw [isLast] at nodup
      have incomplete : framed.completed task = false := by
        cases isWaiting : framed.waiting task with
        | none => exact absurd isWaiting waits
        | some entry => simp [completed, isWaiting]
      have dropped : [task].filter framed.completed = [] := by
        rw [List.filter_singleton, incomplete]
        rfl
      rw [inOrder, isLast, List.filter_append, dropped, List.append_nil]
      apply List.filter_congr
      intro other member
      have distinct : other ≠ task := by
        intro same
        exact notMem_of_nodup nodup (same ▸ member)
      rw [completed, alone other distinct]
      exact (Bool.and_true _).symm

theorem TakesTurns.nodup {framed : FramedStream} (turns : framed.TakesTurns) :
    framed.calls.Nodup := by
  cases turns with
  | idle nodup => exact nodup
  | busy earlier task isLast nodup => exact nodup

/-- The last call, run as far as the read buffer allows. -/
theorem takesTurns_read {framed : FramedStream} {earlier : List Nat} {task : Nat}
    (isLast : framed.calls = earlier ++ [task]) (nodup : framed.calls.Nodup)
    (known : framed.cancelled ⊆ earlier)
    (alone : ∀ other, other ≠ task → framed.waiting other = none)
    (inOrder : framed.results.map Prod.fst =
      earlier.filter fun task => decide (task ∉ framed.cancelled))
    (verifyCrc : Bool) (pending : Option Bytes) :
    (framed.read task verifyCrc pending).TakesTurns := by
  have others : ∀ entry other, other ≠ task →
      Function.update framed.waiting task entry other = none := fun entry other distinct =>
    (Function.update_of_ne distinct _ _).trans (alone other distinct)
  unfold read
  split
  · apply Turns.busy earlier task isLast nodup known (others _) _ inOrder
    rw [Function.update_self]
    nofun
  · rename_i result left _
    have notCancelled : task ∉ framed.cancelled := by
      intro member
      rw [isLast] at nodup
      exact notMem_of_nodup nodup (known member)
    apply Turns.idle nodup
    · intro other member
      rw [isLast]
      exact List.mem_append_left _ (known member)
    · intro other
      by_cases same : other = task
      · subst same
        exact Function.update_self ..
      · exact others none other same
    · rw [isLast, List.map_append, List.filter_append, inOrder, List.filter_singleton]
      simp [notCancelled]

theorem TakesTurns.step {P : Primitives} {framed after : FramedStream} {action : FramingAction}
    (turns : framed.TakesTurns) (single : framed.OneAtATime action)
    (stepped : framed.step P action = some after) : after.TakesTurns := by
  cases action with
  | feed data =>
      cases stepped
      exact turns
  | call task verifyCrc =>
      simp only [FramedStream.step] at stepped
      split at stepped <;> cases stepped
      rename_i isNew
      have isLast : ({ framed with calls := framed.calls ++ [task] } : FramedStream).calls =
          framed.calls ++ [task] := rfl
      have nodup : (framed.calls ++ [task]).Nodup := by
        refine List.nodup_append.mpr ⟨turns.nodup, by simp, ?_⟩
        intro old member new isTask same
        cases List.mem_singleton.mp isTask
        exact isNew (same ▸ member)
      cases turns with
      | idle _ known idle inOrder =>
          exact takesTurns_read isLast nodup known (fun other _ => idle other) inOrder verifyCrc
            none
      | busy earlier last isLast _ known alone waits inOrder =>
          have ended := single last (by rw [isLast]; exact List.mem_append_right _ (by simp))
          exact absurd ended waits
  | resume task =>
      simp only [FramedStream.step] at stepped
      split at stepped <;> cases stepped
      rename_i verifyCrc pending isWaiting
      cases turns with
      | idle _ known idle inOrder =>
          rw [idle task] at isWaiting
          cases isWaiting
      | busy earlier last isLast nodup known alone waits inOrder =>
          have same : task = last := by
            by_contra distinct
            rw [alone task distinct] at isWaiting
            cases isWaiting
          subst same
          exact takesTurns_read isLast nodup known alone inOrder verifyCrc pending
  | cancel task =>
      simp only [FramedStream.step] at stepped
      split at stepped <;> cases stepped
      rename_i entry isWaiting
      cases turns with
      | idle _ known idle inOrder =>
          rw [idle task] at isWaiting
          cases isWaiting
      | busy earlier last isLast nodup known alone waits inOrder =>
          have same : task = last := by
            by_contra distinct
            rw [alone task distinct] at isWaiting
            cases isWaiting
          subst same
          apply Turns.idle nodup
          · intro other member
            rw [isLast]
            rcases List.mem_append.mp member with old | new
            · exact List.mem_append_left _ (known old)
            · exact List.mem_append_right _ new
          · intro other
            by_cases same : other = task
            · subst same
              exact Function.update_self ..
            · exact (Function.update_of_ne same _ _).trans (alone other same)
          · have dropped : [task].filter
                (fun task' => decide (task' ∉ framed.cancelled ++ [task])) = [] := by
              simp
            rw [inOrder, isLast, List.filter_append, dropped, List.append_nil]
            apply List.filter_congr
            intro other member
            have distinct : other ≠ task := by
              rw [isLast] at nodup
              intro same
              exact notMem_of_nodup nodup (same ▸ member)
            simp [distinct]
  | confirmAuthenticated seq | setSessionKeys txKey rxKey | drain =>
      cases stepped
      exact turns
  | write data =>
      simp only [FramedStream.step] at stepped
      split at stepped <;> cases stepped
      exact turns

/-! ## Framing -/

instance (framed : FramedStream) : (action : FramingAction) → Decidable (framed.OneAtATime action)
  | .call _ _ => inferInstanceAs (Decidable (∀ other ∈ framed.calls, framed.waiting other = none))
  | .feed _ | .resume _ | .cancel _ | .confirmAuthenticated _ | .setSessionKeys _ _ | .write _
  | .drain => isTrue trivial

/-- At every step the stream holds the accepted datagrams that are not read, no call waits with
a header, and what the `k`-th call gives is what `decode_frame` gives on the `k`-th accepted
datagram.  Calls one after the other give their results in their order. -/
theorem framing_synchronised (P : Primitives) (stream : UDPStream)
    (actions : List FramingAction) (final : FramedStream)
    (reached : Machine.run (step P)
      { stream := { stream with closed := false, readBuffer := [] } } actions = some final) :
    final.stream.readBuffer = (final.accepted.drop final.results.length).flatten ∧
      (∀ data ∈ final.accepted, IsFrame data) ∧
      final.stream.readBuffer.length ≤ maxReadBuffer ∧
      (∀ task verifyCrc header, final.waiting task ≠ some (verifyCrc, some header)) ∧
      (∀ (k : Nat) task verifyCrc result, final.results[k]? = some (task, verifyCrc, result) →
        ∃ data, final.accepted[k]? = some data ∧ result = decodeFrame data verifyCrc) ∧
      (Machine.Along (step P) OneAtATime
          { stream := { stream with closed := false, readBuffer := [] } } actions →
        final.results.map Prod.fst = final.calls.filter final.completed) := by
  have inv := Machine.run_invariant' Inv (fun _ _ _ inv stepped => inv.step stepped)
    (inv_new stream) reached
  refine ⟨inv.buffer, inv.frames, inv.bounded, ?_, inv.decoded, ?_⟩
  · intro task verifyCrc header isWaiting
    cases inv.between task verifyCrc (some header) isWaiting
  · intro single
    have initially : TakesTurns { stream := { stream with closed := false, readBuffer := [] } } :=
      .idle List.nodup_nil (List.nil_subset _) (fun _ => rfl) rfl
    have turns := Machine.run_invariant TakesTurns
      (fun _ _ _ turns single stepped => turns.step single stepped) initially single reached
    exact turns.inOrder

/-- A datagram with a wrong checksum. -/
def damagedFrame : Bytes := [0xCD, 0xAB, 2, 5, 7, 0, 0, 0, 1, 0, 0, 0, 0x70]

/-- A call that waits, garbage, a damaged frame, a call that is cancelled, and a frame that the
third call reads. -/
def damagedThenIntact : List FramingAction :=
  [.call 0 true, .feed [1, 2, 3], .feed damagedFrame, .resume 0, .call 1 false, .cancel 1,
    .feed (frameBytes .data [8] 9), .call 2 true]

theorem framing_synchronised_damagedThenIntact :
    ∃ final,
      Machine.run (step samplePrimitives)
          { stream :=
              { ({ isServer := true } : UDPStream) with closed := false, readBuffer := [] } }
          damagedThenIntact = some final ∧
        final.results.map Prod.fst = [0, 2] ∧ final.calls.filter final.completed = [0, 2] ∧
        ∃ data, final.accepted[1]? = some data ∧
          .ok (sentFrame .data [8] 9) = decodeFrame data true := by
  rcases Machine.exists_run (step samplePrimitives)
    { stream := { ({ isServer := true } : UDPStream) with closed := false, readBuffer := [] } }
    damagedThenIntact
    (fun final => final.results.map Prod.fst = [0, 2] ∧
      final.results[1]? = some (2, true, .ok (sentFrame .data [8] 9)))
    (by decide +kernel) with ⟨final, reached, inOrder, second⟩
  rcases framing_synchronised samplePrimitives _ damagedThenIntact final reached with
    ⟨_, _, _, _, decoded, turns⟩
  have completed := turns (by decide +kernel)
  rw [inOrder] at completed
  exact ⟨final, reached, inOrder, completed.symm, decoded 1 2 true _ second⟩

end FramedStream

end Usmp
