import Usmp.Session.Results
import Usmp.Session.Nonce

/-!
# What an honest sender's log says

A session that carries every call of `send`, `ping` and `rekey` through has a log that
replays to its mirror, and so does every prefix of the log to a prefix of the messages.
-/

namespace Usmp

namespace Session

/-- Calls of `send`, `ping` and `rekey`, none of them cut short. -/
def CarriesThrough (session : Session) : SessionAction → Prop
  | .call _ (.send _) _ | .call _ .ping _ | .call _ (.rekey _) _ => True
  | .acquire _ => session.info.txSeq < maxSeq
  | .wrote _ failure _ => failure = none ∧
      (session.holder.any Locked.midMessage → session.info.txSeq < maxSeq)
  | _ => False

instance (session : Session) : (action : SessionAction) → Decidable (session.CarriesThrough action)
  | .call _ (.send _) _ | .call _ .ping _ | .call _ (.rekey _) _ => isTrue trivial
  | .acquire _ => inferInstanceAs (Decidable (session.info.txSeq < maxSeq))
  | .wrote _ failure _ => inferInstanceAs (Decidable (failure = none ∧
      (session.holder.any Locked.midMessage → session.info.txSeq < maxSeq)))
  | .call _ .bye _ | .call _ .recv _ | .read _ _ _ | .readHeader _ _ | .cancel _ => isFalse id

theorem CarriesThrough.completes {session : Session} (inv : CallInv session)
    {action : SessionAction} (carries : session.CarriesThrough action) :
    session.Completes action := by
  refine ⟨?_, ?_, ?_⟩
  · rintro task exn now rfl
    cases carries.1
  · rintro task rfl
    exact carries
  · intro task locked admitted ready
    cases ready with
    | admitted locked free waiting => exact carries
    | nextFragment data offset now writing more =>
        refine carries.2 ?_
        rw [inv.holder_eq writing]
        simpa [Locked.midMessage] using more

variable {P : Primitives}

/-- The log grows by what is written. -/
theorem Progress.log {before base : Session} {action : SessionAction} {fate : Fate}
    {effects : Effects} (progress : Progress P before action base fate effects) :
    base.sent = before.sent ++ effects.write.toList := by
  cases progress <;> simp

/-- The log of the session replays from `start` to its mirror. -/
structure Tells (P : Primitives) (start : View) (session : Session) : Prop where
  calls : CallInv session
  kinds : ∀ call ∈ session.calls, call.2 ≠ .bye ∧ call.2 ≠ .recv
  told : start.replay P session.info.sessionId session.sent = some (session.mirror P)

theorem Tells.new (info : SessionInfo) :
    Tells P { txKey := info.rxKey, rxKey := info.txKey, rxSeq := info.txSeq } (.new true info) :=
  ⟨.new true info 0, by simp [Session.new], rfl⟩

theorem Tells.step {start : View} {before after : Session} {action : SessionAction}
    (tells : Tells P start before) (carries : before.CarriesThrough action)
    (stepped : before.next P action = some after) : Tells P start after := by
  obtain ⟨⟨after, effects⟩, performed, rfl⟩ := Option.map_eq_some_iff.mp stepped
  obtain ⟨base, fate, progress, settled⟩ := progress_of_step performed
  dsimp only at progress settled ⊢
  have kindOf : ∀ task at_, before.tasks task = some at_ → at_.op ≠ .bye ∧ at_.op ≠ .recv :=
    fun task at_ isAt => tells.kinds _ (tells.calls.known task at_ isAt)
  have completes := carries.completes tells.calls
  have mirrored := mirror_progress tells.calls progress
      (fun task at_ isAt => (kindOf task at_ isAt).1)
    completes (by rintro task result now rfl; exact carries.elim)
  obtain ⟨sessionId, _⟩ := progress.identity
  refine ⟨?_, ?_, ?_⟩
  · rw [settled]
    exact callInv_progress tells.calls progress
  · rw [settled]
    intro call member
    rw [(settle_frame base action.task fate).2.2.2.2.1] at member
    cases progress with
    | called task op now isNew =>
        rcases List.mem_append.mp member with old | new
        · exact tells.kinds call old
        · cases List.mem_singleton.mp new
          cases op <;> first | exact carries.elim | exact ⟨by simp, by simp⟩
    | _ => exact tells.kinds call member
  · rw [settled, (settle_frame base action.task fate).2.2.2.2.2.2.1,
      (settle_frame base action.task fate).2.1, progress.log, sessionId]
    rcases mirrored with ⟨task, locked, isWrite, accepted⟩ | ⟨noWrite, same⟩
    · rw [isWrite]
      exact Machine.run_append_some.mpr
        ⟨_, tells.told, Machine.run_cons_some.mpr ⟨_, accepted, rfl⟩⟩
    · rw [noWrite, same]
      simpa using tells.told

theorem tells_of_run {info : SessionInfo} {actions : List SessionAction} {final : Session}
    (reached : Machine.run (next P) (new true info) actions = some final)
    (carries : Machine.Along (next P) CarriesThrough (new true info) actions) :
    Tells P { txKey := info.rxKey, rxKey := info.txKey, rxSeq := info.txSeq } final :=
  Machine.run_invariant (Tells P _) (fun _ _ _ tells carries stepped => tells.step carries stepped)
    (.new info) carries reached

end Session

end Usmp
