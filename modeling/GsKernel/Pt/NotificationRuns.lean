import GsKernel.Pt.ResizeList

/-!
# Sizes known along whole runs

Every step of a call keeps what the clients know. What the client of an enabled id was told last
is then its size, in every run without a resize between a call's read and its switch.
-/

namespace GsKernel.Pt

open Lib.Runs PtSystem

variable {count : Nat} {system next : PtSystem count} {key : PtKey}

/-! ## Every step -/

lemma PtSystem.Informed.callStep (informed : system.Informed) {caller : Fin count}
    {answer : Option Nat} (keeps : system.KeepsSize (.go caller answer))
    (ran : system.callStep caller answer = some next) : next.Informed := by
  unfold PtSystem.callStep at ran
  cases isCall : system.calls caller <;> simp only [isCall, reduceCtorEq] at ran
  case enableEnter key | freeEnter key | mutateEnter handle old new =>
    split at ran
    · cases ran
    split at ran <;> cases ran <;>
      exact informed.goOn isCall _ _ (fun _ => rfl) (by simp) (by simp)
  case enableAlloc key | mutateDriver handle old new =>
    split at ran <;> cases ran <;>
      exact informed.goOn isCall _ _ (fun _ => rfl) (by simp) (by simp)
  case enableAllocating key | freeDriver key =>
    cases ran
    exact informed.goOn isCall _ _ (pts_update system.pts key _ PtPts.known (by rfl)) (by simp)
      (by simp)
  case enableRead key =>
    split at ran
    · cases ran
      refine informed.tell _ (by simp [isCall]) ?_
      exact fun other same => (PtCall.enableList.inj same).symm
    · cases ran
      exact informed.goOn isCall _ _ (fun _ => rfl) (by simp) (by simp)
  case enableList key =>
    split at ran
    · cases ran
      exact informed.enableList isCall
    · cases ran
  case disableEnter key free =>
    simp only [PtSystem.KeepsSize, isCall] at keeps
    split at ran
    · cases ran
    rename_i possible
    simp only [Bool.or_eq_true, Bool.not_eq_true', not_or, Bool.not_eq_false] at possible
    have disabled := informed.resizeListDisable possible.2 keeps
    have isCall : (system.resizeListDisable key).calls caller = .disableEnter key free := by
      rw [← isCall]
      unfold PtSystem.resizeListDisable
      split <;> rfl
    split at ran
    · cases ran
      exact disabled.goOn isCall _ _ (fun _ => rfl) (by simp) (by simp)
    · cases ran
      exact disabled.goOn isCall _ _ (fun _ => rfl) (by simp) (by cases free <;> simp)
  case disableDriver key free =>
    cases ran
    exact informed.goOn isCall _ _ (fun _ => rfl) (by simp) (by cases free <;> simp)
  case mutateMoved handle old new ptid =>
    cases ran
    exact informed.mutateMoved isCall
  case mutateRead handle old new moved =>
    cases ran
    cases moved with
    | true =>
      refine informed.tell _ ?_ (by simp)
      intro other source isOther isRead
      rw [isCall] at isRead
      obtain ⟨sameHandle, -, sameId, -⟩ := PtCall.mutateRead.inj isRead
      exact isOther (by rw [sameHandle, sameId])
    | false =>
      exact informed.goOn isCall _ _ (fun _ => rfl) (by simp) (by simp)

lemma PtSystem.Informed.step (informed : system.Informed) {step : PtStep count}
    (keeps : system.KeepsSize step) (ran : system.step step = some next) : next.Informed := by
  unfold PtSystem.step at ran
  split at ran
  · cases ran
  cases step <;> simp only at ran
  case register handle =>
    split at ran
    · cases ran
      exact informed.carry _ rfl rfl (fun _ => id) informed.popped fun _ _ _ => id
    · cases ran
  case unregister handle =>
    simp only [unregister] at ran
    split at ran
    · split at ran
      · cases ran
      split at ran <;> cases ran <;>
        exact informed.carry _ rfl rfl (fun _ => id) informed.popped fun _ _ _ => id
    · split at ran
      · cases ran
        exact informed.carry _ rfl rfl (fun _ => id) informed.popped fun _ _ _ => id
      · cases ran
    · cases ran
  case call caller request =>
    split at ran
    · rename_i possible
      cases ran
      refine informed.goOn possible.1 _ _ (fun _ => rfl) (by simp) ?_
      intro other
      cases request with
      | mutate handle old new =>
        simp only [PtRequest.start]
        split <;> simp
      | _ => simp [PtRequest.start]
    · cases ran
  case go caller answer => exact informed.callStep keeps ran
  case resize key size =>
    split at ran
    · rename_i possible
      cases ran
      exact informed.resizeInternal possible keeps
    · cases ran
  case thread =>
    cases ran
    exact informed.threadStep

/-! ## Whole runs -/

/-- No call is in progress on an id. -/
def PtSystem.Unused (system : PtSystem count) (key : PtKey) : Prop :=
  ∀ caller, key ∉ (system.calls caller).keys

instance decidableWindow (system : PtSystem count) (key : PtKey) : Decidable (system.Window key) :=
  inferInstanceAs (Decidable (∃ caller, system.calls caller = .enableList key))

instance decidableKeepsSize (system : PtSystem count) :
    (step : PtStep count) → Decidable (system.KeepsSize step)
  | .resize key size =>
    inferInstanceAs (Decidable (system.Window key → (system.pts key).enabled = true ∨
      key ∈ system.resizeList ∨ size % 2 ^ 32 = (system.pts key).size))
  | .go caller _ =>
    match isCall : system.calls caller with
    | .disableEnter key _ =>
      decidable_of_iff (system.Window key → key ∉ system.resizeList)
        (by simp only [KeepsSize, isCall])
    | .idle | .enableEnter _ | .enableAlloc _ | .enableAllocating _ | .enableRead _
    | .enableList _ | .disableDriver _ _ | .freeEnter _ | .freeDriver _ | .mutateEnter _ _ _
    | .mutateDriver _ _ _ | .mutateMoved _ _ _ _ | .mutateRead _ _ _ _ =>
      .isTrue (by simp only [KeepsSize, isCall])
  | .register _ => .isTrue trivial
  | .unregister _ => .isTrue trivial
  | .call _ _ => .isTrue trivial
  | .thread => .isTrue trivial

/-- For any handles with their ids, any number of client threads and every interleaving in which
no size changes between the read of a call of `pt_client_enable_size` and its switch of the
notifications (unless the change is queued). Between the sections under `sl`, whenever an id of
a handle with a callback is enabled, no call on it is in progress and it is not on
`resize_list`, the last size its client was told is its size. -/
theorem pt_clients_informed (config : Nat → PtHandle) (count : Nat) (steps : List (PtStep count))
    (along : Lib.Runs.AlongM step KeepsSize (initial config count) steps) (system : PtSystem count)
    (ran : steps.foldlM step (initial config count) = some system)
    (free : system.slFree = true) (key : PtKey)
    (callback : (system.config key.handle).callback = true)
    (enabled : (system.pts key).enabled = true) (unused : system.Unused key)
    (notQueued : key ∉ system.resizeList) : (system.pts key).told = some (system.pts key).size := by
  have initial : (initial config count).Informed :=
    ⟨fun _ _ popped => absurd popped (by simp [initial]),
      fun _ _ window => absurd window.choose_spec (by simp [initial]),
      fun _ _ isEnabled => absurd isEnabled (by simp [initial])⟩
  have informed := foldlM_invariant_along Informed step
    KeepsSize (fun _ _ _ informed keeps stepped => informed.step keeps stepped) steps
    initial along ran
  have noRead : system.NoRead key := by
    intro caller old isCall
    exact unused caller (by simp [isCall, PtCall.keys])
  exact ((informed.enabled key callback enabled noRead).free free).resolve_right notQueued

/-- A handle with a callback and two ids of one driver. -/
def twoIds : Nat → PtHandle := fun _ => ⟨true, 2, fun _ => 0⟩

/-- The steps of `pt_client_enable` of the first id up to its read of the size, which the driver
sets while it allocates. -/
def enableSteps (caller : Fin count) : List (PtStep count) :=
  [.register 0, .call caller (.enable ⟨0, 0⟩), .go caller none, .go caller none,
    .resize ⟨0, 0⟩ 4096, .go caller (some 7), .go caller none]

/-- The id is enabled, resized and its client called back. -/
def notifiedRun (caller : Fin count) : List (PtStep count) :=
  enableSteps caller ++ [.go caller none, .resize ⟨0, 0⟩ 8192, .thread, .thread, .thread]

theorem pt_clients_informed_notified :
    ∃ system, (notifiedRun 0).foldlM step (initial twoIds 1) = some system ∧
      (system.pts ⟨0, 0⟩).size = 8192 ∧
      (system.pts ⟨0, 0⟩).told = some (system.pts ⟨0, 0⟩).size := by
  have along : AlongM step KeepsSize (initial twoIds 1)
      (notifiedRun 0) := alongM_of_check (by decide +kernel)
  have reached : ∃ system, (notifiedRun 0).foldlM step (initial twoIds 1) =
      some system ∧ ((system.slFree = true ∧ (system.config 0).callback = true ∧
        (system.pts ⟨0, 0⟩).enabled = true ∧ (∀ caller, system.calls caller = .idle) ∧
        system.resizeList = []) ∧ (system.pts ⟨0, 0⟩).size = 8192) :=
    exists_reached _ (by decide +kernel)
  obtain ⟨system, ran, ⟨free, callback, enabled, idle, empty⟩, size⟩ := reached
  refine ⟨system, ran, size, pt_clients_informed twoIds 1 (notifiedRun 0) along system ran free
    ⟨0, 0⟩ callback enabled ?_ ?_⟩
  · intro caller
    rw [idle caller]
    simp [PtCall.keys]
  · rw [empty]
    simp

/-- The driver resizes the id between the read of its size and the switch. -/
def lostRun (caller : Fin count) : List (PtStep count) :=
  enableSteps caller ++ [.resize ⟨0, 0⟩ 8192, .go caller none]

/-- The resize is lost: the client was told 4096 and the size is 8192. -/
theorem pt_resize_lost : ∃ system, (lostRun 0).foldlM step (initial twoIds 1) = some system ∧
      ((system.slFree = true ∧ (system.pts ⟨0, 0⟩).enabled = true ∧
        (∀ caller, system.calls caller = .idle) ∧ system.resizeList = []) ∧
        (system.pts ⟨0, 0⟩).told = some 4096 ∧ (system.pts ⟨0, 0⟩).size = 8192) :=
  exists_reached _ (by decide +kernel)

end GsKernel.Pt
