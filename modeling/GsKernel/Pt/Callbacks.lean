import GsKernel.Pt.CallbackRuns
import GsKernel.Pt.NotificationRuns

/-!
# What callbacks respect

The callback runs inside the section of `pt_resize_thread` under `pt_internal_data.sl`. Which ids
it runs for follows from the order of ids, calls and notifications.
-/

namespace GsKernel.Pt

open Lib.Runs PtSystem

variable {count : Nat} {system next : PtSystem count}

/-! ## Locks -/

/-- No call of a client makes a callback. -/
lemma PtSystem.callStep_callbacks {caller : Fin count} {answer : Option Nat}
    (ran : system.callStep caller answer = some next) : next.callbacks = system.callbacks := by
  have disable : ∀ key, (system.resizeListDisable key).callbacks = system.callbacks := by
    intro key
    unfold resizeListDisable
    split <;> rfl
  unfold callStep at ran
  cases isCall : system.calls caller with
  | disableEnter key free =>
    simp only [isCall] at ran
    split at ran
    · cases ran
    split at ran <;> cases ran <;> exact disable key
  | mutateRead handle old new moved =>
    simp only [isCall] at ran
    cases moved <;> cases ran <;> rfl
  | _ =>
    simp only [isCall] at ran
    repeat' split at ran
    all_goals cases ran
    all_goals rfl

/-- A step makes no callback, or one with `sl` held. -/
lemma PtSystem.step_callbacks {step : PtStep count} (ran : system.step step = some next) :
    next.callbacks = system.callbacks ∨
      ∃ callback, callback.held = [.sl] ∧ next.callbacks = system.callbacks ++ [callback] := by
  unfold PtSystem.step at ran
  split at ran
  · cases ran
  cases step with
  | register handle | call caller request =>
    simp only at ran
    split at ran
    · cases ran
      exact .inl rfl
    · cases ran
  | unregister handle =>
    simp only [unregister] at ran
    repeat' split at ran
    all_goals cases ran
    all_goals exact .inl rfl
  | go caller answer => exact .inl (callStep_callbacks ran)
  | resize key size =>
    simp only [resizeInternal, resizeListAdd] at ran
    repeat' split at ran
    all_goals cases ran
    all_goals exact .inl rfl
  | thread =>
    cases ran
    cases thread : system.thread with
    | waiting => exact .inl (by simp only [threadStep, thread])
    | locked =>
      refine .inl ?_
      simp only [threadStep, thread]
      split <;> rfl
    | popped key size =>
      refine .inr ⟨⟨key, size, (system.pts key).enabled, [.sl]⟩, rfl, ?_⟩
      simp only [threadStep, thread, ResizeThread.held]

/-! ## Whole runs -/

instance decidableServes (system : PtSystem count) :
    (step : PtStep count) → Decidable (system.Serves step)
  | .go caller _ =>
    match isCall : system.calls caller with
    | .enableEnter key | .disableEnter key _ | .freeEnter key =>
      decidable_of_iff (¬ system.Window key) (by simp only [Serves, isCall])
    | .mutateEnter handle old new =>
      decidable_of_iff (¬ system.Window ⟨handle, old⟩ ∧ ¬ system.Window ⟨handle, new⟩)
        (by simp only [Serves, isCall])
    | .mutateMoved handle old _ _ =>
      match isThread : system.thread with
      | .popped key _ =>
        decidable_of_iff (⟨handle, old⟩ ∉ system.resizeList ∧ key ≠ ⟨handle, old⟩)
          (by simp [Serves, isCall, isThread])
      | .waiting | .locked =>
        decidable_of_iff (⟨handle, old⟩ ∉ system.resizeList) (by simp [Serves, isCall, isThread])
    | .idle | .enableAlloc _ | .enableAllocating _ | .enableRead _ | .enableList _
    | .disableDriver _ _ | .freeDriver _ | .mutateDriver _ _ _ | .mutateRead _ _ _ _ =>
      .isTrue (by simp only [Serves, isCall])
  | .register _ => .isTrue trivial
  | .unregister _ => .isTrue trivial
  | .call _ _ => .isTrue trivial
  | .resize _ _ => .isTrue trivial
  | .thread => .isTrue trivial

/-- For any handles, any number of client threads and every interleaving. Every callback is made
with `sl` held, and with no lock of a handle or a driver, so callbacks are made without a lock
only if there are none. If no call on an id begins in the window of `pt_client_enable_size` and
no id is mutated away with a notification pending, then callbacks are made for enabled ids only,
the list has only ids of registered handles, and once `pt_client_unregister` has returned no
callback of its handle is pending. -/
theorem pt_callbacks_respect_client (config : Nat → PtHandle) (count : Nat)
    (steps : List (PtStep count)) (system : PtSystem count)
    (ran : steps.foldlM step (initial config count) = some system) :
    (∀ callback ∈ system.callbacks, callback.held = [.sl]) ∧
    ((∀ callback ∈ system.callbacks, callback.held = []) ↔ system.callbacks = []) ∧
    (Lib.Runs.AlongM step Serves (initial config count) steps →
      (∀ callback ∈ system.callbacks, callback.enabled = true) ∧
      (∀ key ∈ system.resizeList, system.state key.handle = .registered) ∧
      (∀ key, system.state key.handle = .freed →
        key ∉ system.resizeList ∧ ∀ size, system.thread ≠ .popped key size)) := by
  have held : ∀ callback ∈ system.callbacks, callback.held = [.sl] := by
    refine foldlM_preserves
      (fun system : PtSystem count => ∀ callback ∈ system.callbacks, callback.held = [.sl])
      step ?_ steps (by simp [initial]) ran
    intro before step after held stepped callback isCallback
    rcases step_callbacks stepped with same | ⟨last, isHeld, more⟩
    · exact held callback (by rwa [same] at isCallback)
    · rw [more] at isCallback
      rcases List.mem_append.mp isCallback with earlier | isLast
      · exact held callback earlier
      · rw [List.mem_singleton] at isLast
        rw [isLast, isHeld]
  refine ⟨held, ⟨fun free => ?_, fun none => by simp [none]⟩, fun along => ?_⟩
  · by_contra some
    obtain ⟨callback, isCallback⟩ := List.exists_mem_of_ne_nil _ some
    exact absurd ((held callback isCallback).symm.trans (free callback isCallback)) (by simp)
  · have initial : (initial config count).Orderly :=
      ⟨fun _ => ⟨by simp [initial], by simp [initial], by simp [initial], by simp [initial]⟩,
        by simp [initial, PtCall.holds], by simp [initial, PtCall.holds],
        by simp [initial], by simp [initial, PtCall.keys], fun _ => trivial,
        by simp [initial]⟩
    have orderly := foldlM_invariant_along Orderly step
      Serves (fun _ _ _ orderly serves stepped => orderly.step serves stepped) steps
      initial along ran
    have registered : ∀ key, (system.pts key).enabled = true →
        system.state key.handle = .registered := by
      intro key isEnabled
      have isKnown := (orderly.ids key).live isEnabled
      simp only [knows, Bool.and_eq_true, decide_eq_true_eq] at isKnown
      exact isKnown.1
    refine ⟨orderly.called, fun key isListed => registered key ((orderly.ids key).listed isListed),
      fun key isFreed => ⟨fun isListed => ?_, fun size popped => ?_⟩⟩
    · exact absurd (isFreed.symm.trans (registered key ((orderly.ids key).listed isListed)))
        (by decide)
    · exact absurd (isFreed.symm.trans (registered key ((orderly.ids key).popped size popped)))
        (by decide)

/-- The first id is enabled and its notification pending. -/
def pendingSteps (caller : Fin count) : List (PtStep count) :=
  enableSteps caller ++ [.go caller none, .resize ⟨0, 0⟩ 8192]

/-- The resize thread makes a callback. -/
def callbackSteps : List (PtStep count) := [.thread, .thread, .thread]

/-- An enabled id is disabled and freed, and its handle unregistered. -/
def closeSteps (caller : Fin count) (key : PtKey) : List (PtStep count) :=
  [.call caller (.disable key), .go caller none, .go caller none, .go caller none,
    .go caller none, .unregister key.handle, .unregister key.handle]

/-- The first id is mutated to the second one. -/
def mutateSteps (caller : Fin count) : List (PtStep count) :=
  [.call caller (.mutate 0 0 1), .go caller none, .go caller (some 7), .go caller none,
    .go caller none]

/-- An id is enabled, called back for, disabled and its handle unregistered. -/
def servedRun (caller : Fin count) : List (PtStep count) :=
  pendingSteps caller ++ callbackSteps ++ closeSteps caller ⟨0, 0⟩

theorem pt_callbacks_respect_client_served :
    ∃ system, (servedRun 0).foldlM step (initial twoIds 1) = some system ∧
      system.callbacks.length = 1 ∧
      (∀ callback ∈ system.callbacks, callback.enabled = true ∧ callback.held = [.sl]) ∧
      system.state 0 = .freed ∧ ⟨0, 0⟩ ∉ system.resizeList := by
  have along : AlongM step Serves (initial twoIds 1)
      (servedRun 0) := alongM_of_check (by decide +kernel)
  have reached : ∃ system, (servedRun 0).foldlM step (initial twoIds 1) =
      some system ∧ (system.callbacks.length = 1 ∧ system.state 0 = .freed) :=
    exists_reached _ (by decide +kernel)
  obtain ⟨system, ran, length, isFreed⟩ := reached
  obtain ⟨held, -, respects⟩ := pt_callbacks_respect_client twoIds 1 (servedRun 0) system ran
  obtain ⟨enabled, -, freed⟩ := respects along
  exact ⟨system, ran, length,
    fun callback isCallback => ⟨enabled callback isCallback, held callback isCallback⟩, isFreed,
    (freed ⟨0, 0⟩ isFreed).1⟩

/-- An id is mutated away while its notification is pending, and then its callback is made. -/
def staleRun (caller : Fin count) : List (PtStep count) :=
  pendingSteps caller ++ mutateSteps caller ++ callbackSteps

/-- An id is mutated away while its notification is pending, and then its handle is
unregistered. -/
def danglingRun (caller : Fin count) : List (PtStep count) :=
  pendingSteps caller ++ mutateSteps caller ++ closeSteps caller ⟨0, 1⟩

/-- The callback is made for an id that is not enabled, with `sl` held; and the list has an id
of a handle that was freed. -/
theorem pt_callback_stale : (∃ system, (staleRun 0).foldlM step (initial twoIds 1) = some system ∧
      system.callbacks = [⟨⟨0, 0⟩, 8192, false, [.sl]⟩]) ∧
    (∃ system, (danglingRun 0).foldlM step (initial twoIds 1) = some system ∧
      (system.state 0 = .freed ∧ system.resizeList = [⟨0, 0⟩])) :=
  ⟨exists_reached _ (by decide +kernel), exists_reached _ (by decide +kernel)⟩

end GsKernel.Pt
