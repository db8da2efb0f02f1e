import Usmp.Lib.StreamReader
import Usmp.Session.Intake

/-!
# Calls of `recv` that time out between two messages

`Consumed P start total buffer session` says that the session, with `buffer` still to be read, has
made of `total` what `Intake.take` makes of it.  A call of `recv` that is cancelled while it holds
neither a header nor a fragment does not change that.
-/

namespace Usmp

open StreamReader

/-- The first result of `read_frame` on a stream. -/
def nextResult (stream : Bytes) : Option (Except Exn USMPFrame × Bytes) :=
  match readFrame true none stream with
  | (.finished result, left) => some (result, left)
  | (.suspended _, _) => none

/-- A header that `read_frame` took and found in order. -/
structure IsHeader (header : Bytes) : Prop where
  size : header.length = usmpHeaderSize
  length : readFrameLength header = .ok (fieldAt header 8 2)

theorem readFrameLength_ok {header : Bytes} {length : Nat}
    (isLength : readFrameLength header = .ok length) : length = fieldAt header 8 2 := by
  unfold readFrameLength at isLength
  dsimp only at isLength
  split at isLength
  · cases isLength
  split at isLength <;> cases isLength
  rfl

/-- With the header taken the stream is read as if it were still there. -/
theorem IsHeader.readFrame {header : Bytes} (isHeader : IsHeader header) (verifyCrc : Bool)
    (buffer : Bytes) :
    readFrame verifyCrc none (header ++ buffer) = readFrame verifyCrc (some header) buffer := by
  have long : ¬ (header ++ buffer).length < usmpHeaderSize := by
    rw [List.length_append, isHeader.size]
    exact Nat.not_lt.mpr (Nat.le_add_right _ _)
  unfold Usmp.readFrame
  dsimp only
  rw [if_neg long, ← isHeader.size, List.take_left, List.drop_left, isHeader.length]

theorem isHeader_of_readFrame {verifyCrc : Bool} {buffer taken left : Bytes}
    (read : readFrame verifyCrc none buffer = (.suspended (some taken), left)) :
    IsHeader taken := by
  refine ⟨(readFrame_takes_header read).2, ?_⟩
  unfold readFrame at read
  dsimp only at read
  split at read
  · cases read
  split at read
  · cases read
  rename_i length isLength
  unfold readFramePayload at read
  split at read
  · cases read
    rw [isLength, readFrameLength_ok isLength]
  · cases read

theorem readFramePayload_steady {verifyCrc : Bool} {header buffer left : Bytes} {length : Nat}
    {result : Except Exn USMPFrame} (more : Bytes)
    (read : readFramePayload verifyCrc header length buffer = (.finished result, left)) :
    readFramePayload verifyCrc header length (buffer ++ more) =
      (.finished result, left ++ more) := by
  unfold readFramePayload at read ⊢
  split at read
  · cases read
  rename_i enough
  have enough' := Nat.not_lt.mp enough
  cases read
  rw [if_neg (by simpa using Nat.le_add_right_of_le enough'), List.take_append_of_le_length enough',
    List.drop_append_of_le_length enough']

theorem nextResult_steady : Steady nextResult := by
  intro stream left result more read
  unfold nextResult at read ⊢
  split at read
  case h_2 => cases read
  rename_i finished
  cases read
  have whole : readFrame true none (stream ++ more) = (.finished result, left ++ more) := by
    unfold readFrame at finished ⊢
    dsimp only at finished ⊢
    split at finished
    · cases finished
    rename_i enough
    have enough' := Nat.not_lt.mp enough
    rw [if_neg (by simpa using Nat.le_add_right_of_le enough'),
      List.take_append_of_le_length enough', List.drop_append_of_le_length enough']
    split at finished
    · cases finished
      rfl
    · exact readFramePayload_steady more finished
  rw [whole]

/-! ## Steps that lose nothing -/

/-- The calls that leave the keys and the transport alone. -/
def Op.Messaging : Op → Prop
  | .send _ | .ping | .recv => True
  | .rekey _ | .bye => False

instance : (op : Op) → Decidable op.Messaging
  | .send _ | .ping | .recv => isTrue trivial
  | .rekey _ | .bye => isFalse not_false

theorem Intake.take_messages (P : Primitives) (reliable : Bool) (intake : Intake)
    (result : Except Exn USMPFrame) :
    intake.messages <+: (intake.take P reliable result).messages := by
  unfold Intake.take
  dsimp only
  split
  · exact List.prefix_rfl
  · exact List.prefix_rfl
  · exact List.prefix_append _ _
  · exact List.prefix_rfl

theorem Intake.foldl_messages (P : Primitives) (reliable : Bool) (intake : Intake)
    (results : List (Except Exn USMPFrame)) :
    intake.messages <+: (results.foldl (Intake.take P reliable) intake).messages := by
  induction results generalizing intake with
  | nil => exact List.prefix_rfl
  | cons result rest ih => exact (intake.take_messages P reliable result).trans (ih _)

namespace Session

/-- A resumption that rotates no keys, closes nothing, reads no empty fragment and cancels no
`recv` that holds a part of its input. -/
def Heedful (P : Primitives) (session : Session) : SessionAction → Prop
  | .call _ op _ => op.Messaging ∧ (op = .recv → session.receiving = false)
  | .cancel task => ∀ at_ ∈ session.tasks task, at_.Empty
  | .read _ result _ => NoEmptyFragment P session.reliable session.info result
  | .acquire _ | .wrote _ _ _ | .readHeader _ _ => True

instance (P : Primitives) (session : Session) :
    (action : SessionAction) → Decidable (session.Heedful P action)
  | .call _ op _ => inferInstanceAs (Decidable (op.Messaging ∧ (op = .recv → _)))
  | .cancel task => inferInstanceAs (Decidable (∀ at_ ∈ session.tasks task, at_.Empty))
  | .read _ result _ => inferInstanceAs (Decidable (NoEmptyFragment P _ _ result))
  | .acquire _ | .wrote _ _ _ | .readHeader _ _ => isTrue trivial

/-- What a resumption takes out of `buffer`. -/
inductive Takes (session : Session) (buffer : Bytes) : SessionAction → Bytes → Prop where
  | frame (task : Nat) (result : Except Exn USMPFrame) (now : Rat) (locals : RecvLocals)
      (pending : Option Bytes) (left : Bytes)
      (reading : session.tasks task = some (.reading locals pending))
      (read : Usmp.readFrame true pending buffer = (.finished result, left)) :
      Takes session buffer (.read task result now) left
  | header (task : Nat) (taken left : Bytes) (locals : RecvLocals)
      (reading : session.tasks task = some (.reading locals none))
      (read : Usmp.readFrame true none buffer = (.suspended (some taken), left)) :
      Takes session buffer (.readHeader task taken) left
  | nothing (action : SessionAction) (notRead : ∀ task result now, action ≠ .read task result now)
      (notHeader : ∀ task taken, action ≠ .readHeader task taken) :
      Takes session buffer action buffer

/-- The session has made of `total`, of which `buffer` is still to be read, what `Intake.take`
makes of it. -/
structure Consumed (P : Primitives) (start : Intake) (total buffer : Bytes) (session : Session) :
    Prop where
  calls : session.CallInv
  messaging : ∀ call ∈ session.calls, call.2.Messaging
  position : ∃ results header, Reads nextResult total results (header.getD [] ++ buffer) ∧
    (∀ taken, header = some taken → IsHeader taken) ∧
    session.Heeds (results.foldl (Intake.take P session.reliable) start) header

/-- The header that the `recv` in progress has taken. -/
def heldHeader (session : Session) : Option Bytes :=
  session.calls.findSome? fun call =>
    match session.tasks call.1 with
    | some (.reading _ pending) => pending
    | _ => none

/-- No complete frame is left to read. -/
def drained (session : Session) (buffer : Bytes) : Bool :=
  (nextResult (session.heldHeader.getD [] ++ buffer)).isNone

section Consumed

variable {P : Primitives} {start : Intake} {total buffer left : Bytes}
  {session before base : Session} {action : SessionAction} {fate : Fate} {effects : Effects}

theorem Consumed.new (P : Primitives) (reliable : Bool) (info : SessionInfo) :
    Consumed P { info := info.rxPart } [] [] (.new reliable info) := by
  refine ⟨.new reliable info 0, ?_, [], none, .nil [], ?_, .new reliable info⟩
  · intro call member
    cases member
  · intro taken impossible
    cases impossible

/-- More bytes arrive. -/
theorem Consumed.arrive (consumed : session.Consumed P start total buffer) (more : Bytes) :
    session.Consumed P start (total ++ more) (buffer ++ more) := by
  rcases consumed with ⟨calls, messaging, results, header, reads, isHeader, heeds⟩
  refine ⟨calls, messaging, results, header, ?_, isHeader, heeds⟩
  rw [← List.append_assoc]
  exact reads.append nextResult_steady more

theorem Progress.calls_messaging (progress : Progress P before action base fate effects)
    (messaging : ∀ call ∈ before.calls, call.2.Messaging) (heedful : before.Heedful P action) :
    ∀ call ∈ base.calls, call.2.Messaging := by
  cases progress with
  | called task op now isNew =>
      intro call member
      rcases List.mem_append.mp member with old | new
      · exact messaging call old
      · cases List.mem_singleton.mp new
        exact heedful.1
  | encrypted | refused | failed | sent | signalled | rekeyed | ponged | received | tookHeader
  | abandoned | interrupted => exact messaging

/-- A step that loses nothing. -/
theorem Consumed.progress (consumed : before.Consumed P start total buffer)
    (progress : Progress P before action base fate effects) (heedful : before.Heedful P action)
    (takes : before.Takes buffer action left) :
    (base.settle action.task fate).Consumed P start total left := by
  rcases consumed with ⟨calls, messaging, results, header, reads, isHeader, heeds⟩
  have sameReliable : (base.settle action.task fate).reliable = before.reliable :=
    (settle_frame _ _ _).1.trans progress.identity.2.2.1
  have messaging' : ∀ call ∈ (base.settle action.task fate).calls, call.2.Messaging := by
    rw [(settle_frame _ _ _).2.2.2.2.1]
    exact progress.calls_messaging messaging heedful
  have noRekey : ∀ task salt, before.tasks task ≠ some (.writing (.rekey salt)) := by
    intro task salt writing
    exact messaging _ (calls.known task _ writing)
  have single : ∀ task now, action = .call task .recv now → before.receiving = false := by
    rintro task now rfl
    exact heedful.2 rfl
  have noLoss : ∀ task at_, action = .cancel task → before.tasks task = some at_ →
      at_.Empty := by
    rintro task at_ rfl isAt
    exact heedful at_ isAt
  refine ⟨callInv_progress calls progress, messaging', ?_⟩
  rw [sameReliable]
  cases takes with
  | frame task result now locals pending left reading read =>
      cases heeds.receiver.taken task locals pending reading
      have next : nextResult (header.getD [] ++ buffer) = some (result, left) := by
        have whole : Usmp.readFrame true none (header.getD [] ++ buffer) =
            (.finished result, left) := by
          cases header with
          | none => exact read
          | some taken => rw [Option.getD_some, (isHeader taken rfl).readFrame, read]
        rw [nextResult, whole]
      refine ⟨results ++ [result], none, reads.snoc next, ?_, ?_⟩
      · intro taken impossible
        cases impossible
      · rw [List.foldl_append]
        cases progress with
        | received task locals pending now result reading turn isTurn =>
            exact heeds.read reading heedful isTurn rfl rfl rfl
        | encrypted task action locked admitted ready unspent => cases ready
        | refused task action locked admitted ready spent notBye exn => cases ready
  | header task taken left locals reading read =>
      cases heeds.receiver.taken task locals none reading
      have heeds' := heeds.progress calls progress (by simp) noRekey single noLoss
      refine ⟨results, some taken, ?_, ?_, heeds'⟩
      · rw [Option.getD_some, (readFrame_takes_header read).1]
        exact reads
      · intro taken' same
        cases same
        exact isHeader_of_readFrame read
  | nothing _ notRead notHeader =>
      have heeds' := heeds.progress calls progress notRead noRekey single noLoss
      rw [headerAfter_of_ne header notHeader] at heeds'
      exact ⟨results, header, reads, isHeader, heeds'⟩

theorem Heeds.heldHeader {intake : Intake} {header : Option Bytes} (calls : session.CallInv)
    (heeds : session.Heeds intake header) : session.heldHeader = header := by
  cases isHeld : session.heldHeader with
  | some taken =>
      rcases List.exists_of_findSome?_eq_some isHeld with ⟨call, _, isPending⟩
      split at isPending
      · rename_i locals pending reading
        rw [← isPending]
        exact heeds.receiver.taken _ locals pending reading
      · cases isPending
  | none =>
      by_cases isReading : ∃ task locals pending,
          session.tasks task = some (.reading locals pending)
      · rcases isReading with ⟨task, locals, pending, reading⟩
        have nothing := List.findSome?_eq_none_iff.mp isHeld _ (calls.known task _ reading)
        rw [reading] at nothing
        exact nothing.symm.trans (heeds.receiver.taken task locals pending reading)
      · refine (heeds.receiver.untaken ?_).symm
        intro task locals pending reading
        exact isReading ⟨task, locals, pending, reading⟩

section Two

variable {other : Session} {more buffer' : Bytes}

/-- Of two sessions with the same input one has received a part of what the other has. -/
theorem Consumed.comparable (consumed : session.Consumed P start total buffer)
    (consumed' : other.Consumed P start (total ++ more) buffer')
    (same : session.reliable = other.reliable) :
    session.received <+: other.received ∨ other.received <+: session.received := by
  rcases consumed.position with ⟨results, header, reads, _, heeds⟩
  rcases consumed'.position with ⟨results', header', reads', _, heeds'⟩
  have here : session.received = _ := heeds.receiver.messages
  have there : other.received = _ := heeds'.receiver.messages
  rw [here, there, same]
  rcases (reads.append nextResult_steady more).comparable reads' with
    ⟨later, rfl⟩ | ⟨later, rfl⟩
  · rw [List.foldl_append]
    exact .inl (Intake.foldl_messages P _ _ later)
  · rw [List.foldl_append]
    exact .inr (Intake.foldl_messages P _ _ later)

/-- No session has received more than one that has read the same input to its end. -/
theorem Consumed.behind (consumed : session.Consumed P start total buffer)
    (consumed' : other.Consumed P start (total ++ more) buffer')
    (same : session.reliable = other.reliable) (isDrained : other.drained buffer' = true) :
    session.received <+: other.received := by
  rcases consumed.position with ⟨results, header, reads, _, heeds⟩
  rcases consumed'.position with ⟨results', header', reads', _, heeds'⟩
  rw [drained, heeds'.heldHeader consumed'.calls, Option.isNone_iff_eq_none] at isDrained
  have here : session.received = _ := heeds.receiver.messages
  have there : other.received = _ := heeds'.receiver.messages
  rw [here, there, same]
  rcases (reads.append nextResult_steady more).behind_stuck reads' isDrained with ⟨later, rfl⟩
  rw [List.foldl_append]
  exact Intake.foldl_messages P _ _ later

/-- What follows for two sessions, one of which has the input of the other. -/
structure SameInput (first second : Session) (buffer buffer' more : Bytes) : Prop where
  comparable : first.received <+: second.received ∨ second.received <+: first.received
  behind : second.drained buffer' = true → first.received <+: second.received
  equal : more = [] → first.drained buffer = true → second.drained buffer' = true →
    first.received = second.received

theorem Consumed.sameInput (consumed : session.Consumed P start total buffer)
    (consumed' : other.Consumed P start (total ++ more) buffer')
    (same : session.reliable = other.reliable) :
    SameInput session other buffer buffer' more := by
  refine ⟨consumed.comparable consumed' same, consumed.behind consumed' same, ?_⟩
  intro nothing isDrained isDrained'
  have back : other.received <+: session.received := by
    subst nothing
    rw [List.append_nil] at consumed'
    have again : session.Consumed P start (total ++ []) buffer := by
      rw [List.append_nil]
      exact consumed
    exact consumed'.behind again same.symm isDrained
  exact (consumed.behind consumed' same isDrained').eq_of_length_le back.length_le

end Two

end Consumed

end Session

end Usmp
