import GsKernel.Pt.Switching

/-!
# Callbacks along whole runs

Every step keeps ids, calls and callbacks in order, if no call on an id begins in the window of
`pt_client_enable_size` and no id is mutated away with a notification pending. Callbacks are
always made with `pt_internal_data.sl` held.
-/

namespace GsKernel.Pt

open Function PtSystem PtCall PtPts

variable {count : Nat} {system next : PtSystem count} {caller : Fin count} {key : PtKey}

/-! ## Calls -/

section

variable (orderly : system.Orderly)
include orderly

namespace PtSystem.Orderly

lemma callStep {answer : Option Nat} (serves : system.Serves (.go caller answer))
    (ran : system.callStep caller answer = some next) : next.Orderly := by
  unfold PtSystem.callStep at ran
  have place := orderly.place caller
  cases isCall : system.calls caller <;> simp only [isCall, reduceCtorEq] at ran
  case enableEnter key =>
    simp only [Serves, isCall] at serves
    split at ran
    · cases ran
    rename_i unlocked
    split at ran
    · cases ran
      exact orderly.back rfl rfl (by simp [keys])
    rename_i disabled
    cases ran
    have isDisabled : (system.pts key).enabled = false := by simpa using disabled
    refine orderly.take (by simpa using unlocked) rfl ?_ (by rw [isCall]; exact fun _ h => h)
      isDisabled
    intro touched isTouched
    obtain rfl := List.mem_singleton.mp isTouched
    exact ⟨rfl, serves⟩
  case enableAlloc key =>
    rw [isCall] at place
    split at ran <;> cases ran
    · exact orderly.inside isCall _ (fun _ _ => rfl) (fun _ _ => rfl) rfl rfl rfl trivial
        fun touched _ => orderly.ids touched
    · exact orderly.inside isCall _ (fun _ _ => rfl) (fun _ _ => rfl) rfl rfl rfl place
        fun touched _ => orderly.ids touched
  case enableAllocating key =>
    rw [isCall] at place
    cases ran
    have enabled := pts_update system.pts key { system.pts key with ptid := answer } enabled rfl
    refine orderly.inside isCall _ (fun other _ => enabled other) ?_ rfl rfl rfl trivial ?_
    · intro other isOther
      exact congrArg ptid (update_of_ne (fun same => isOther (List.mem_singleton.mpr same)) _ _)
    · intro touched isTouched
      obtain rfl := List.mem_singleton.mp isTouched
      refine (orderly.ids touched).frame _ rfl rfl id (enabled touched) fun isEnabled => ?_
      exact absurd (isEnabled.symm.trans place) (by decide)
  case enableRead key =>
    split at ran
    · rename_i isSome
      cases ran
      have ptid := pts_update system.pts key
        { system.pts key with told := some (system.pts key).size } ptid rfl
      exact orderly.release isCall rfl _ (pts_update system.pts key _ enabled (by rfl))
        (fun other => .inl (ptid other)) rfl (fun _ h => h) (fun _ h => h)
        ((congrArg Option.isSome (ptid key)).trans isSome)
    · cases ran
      exact orderly.release isCall rfl _ (fun _ => rfl) (fun _ => .inl rfl) rfl
        (by simp [busy]) (by simp [keys]) trivial
  case enableList key =>
    split at ran
    · cases ran
      exact orderly.enableList isCall
    · cases ran
  case disableEnter key free =>
    simp only [Serves, isCall] at serves
    split at ran
    · cases ran
    rename_i possible
    simp only [Bool.or_eq_true, Bool.not_eq_true', not_or, Bool.not_eq_false,
      Bool.not_eq_true] at possible
    have isKey : key ∈ (system.calls caller).keys := by
      rw [isCall]
      exact List.mem_singleton_self key
    have lock : (system.resizeListDisable key).lock = system.lock := by
      unfold resizeListDisable
      split <;> rfl
    split at ran
    · cases ran
      refine orderly.disable _ possible.1 possible.2 serves isKey ?_ ?_ (by simp [busy])
        (by simp [keys]) fun _ => trivial
      · intro handle ne
        rw [update_of_ne ne, lock]
      · rintro handle ⟨⟩
        exact ⟨rfl, update_self _ _ _⟩
    · cases ran
      refine orderly.disable _ possible.1 possible.2 serves isKey
        (fun handle _ => congrFun lock handle) ?_ ?_ ?_ ?_
      all_goals cases free <;> simp [holds, busy, keys, CallAt]
  case disableDriver key free =>
    cases ran
    refine orderly.release isCall rfl _ (fun _ => rfl) (fun _ => .inl rfl) ?_ ?_ ?_ ?_
    all_goals cases free <;> simp [holds, busy, keys, CallAt]
  case freeEnter key =>
    simp only [Serves, isCall] at serves
    split at ran
    · cases ran
    rename_i unlocked
    split at ran
    · rename_i allowed
      simp only [Bool.and_eq_true, Bool.not_eq_true'] at allowed
      cases ran
      refine orderly.take (by simpa using unlocked) rfl ?_ (by rw [isCall]; exact fun _ h => h)
        allowed.1
      intro touched isTouched
      obtain rfl := List.mem_singleton.mp isTouched
      exact ⟨rfl, serves⟩
    · cases ran
      exact orderly.back rfl rfl (by simp [keys])
  case freeDriver key =>
    rw [isCall] at place
    cases ran
    refine orderly.release isCall rfl _ (pts_update system.pts key _ enabled (by rfl)) ?_ rfl
      (by simp [busy]) (by simp [keys]) trivial
    intro other
    by_cases same : other = key
    · subst same
      exact .inr ⟨List.mem_singleton_self other, place⟩
    · exact .inl (congrArg ptid (update_of_ne same _ _))
  case mutateEnter handle old new =>
    simp only [Serves, isCall] at serves
    split at ran
    · cases ran
    rename_i unlocked
    split at ran
    · cases ran
      exact orderly.back rfl rfl (by simp [keys])
    cases ran
    refine orderly.take (by simpa using unlocked) rfl ?_ (by rw [isCall]; exact fun _ h => h)
      trivial
    intro touched isTouched
    simp only [busy, List.mem_cons, List.not_mem_nil, or_false] at isTouched
    rcases isTouched with rfl | rfl
    · exact ⟨rfl, serves.1⟩
    · exact ⟨rfl, serves.2⟩
  case mutateDriver handle old new =>
    split at ran <;> cases ran <;>
      exact orderly.inside isCall _ (fun _ _ => rfl) (fun _ _ => rfl) rfl rfl rfl trivial
        fun touched _ => orderly.ids touched
  case mutateMoved handle old new ptid =>
    simp only [Serves, isCall] at serves
    cases ran
    exact orderly.mutateMoved isCall serves.1 serves.2
  case mutateRead handle old new moved =>
    cases ran
    cases moved with
    | true =>
      exact orderly.release isCall rfl _ (pts_update system.pts _ _ enabled (by rfl))
        (fun other => .inl (pts_update system.pts _ _ ptid (by rfl) other)) rfl
        (by simp [busy]) (by simp [keys]) trivial
    | false =>
      exact orderly.release isCall rfl _ (fun _ => rfl) (fun _ => .inl rfl) rfl
        (by simp [busy]) (by simp [keys]) trivial

/-! ## Handles, the driver and the thread -/

/-- A step of nobody's call. -/
lemma outside (next : PtSystem count)
    (calls : next.calls = system.calls) (lock : next.lock = system.lock)
    (enabled : ∀ key, (next.pts key).enabled = (system.pts key).enabled)
    (ptid : ∀ key, (next.pts key).ptid = (system.pts key).ptid)
    (knows : ∀ caller, ∀ key ∈ (system.calls caller).keys, next.knows key = true)
    (live : ∀ key, (system.pts key).enabled = true → next.knows key = true)
    (listed : ∀ key, key ∈ next.resizeList → (system.pts key).enabled = true)
    (popped : ∀ key size, next.thread = .popped key size → (system.pts key).enabled = true)
    (called : ∀ callback ∈ next.callbacks, callback.enabled = true) : next.Orderly := by
  refine ⟨fun key => ?_, ?_, ?_, ?_, ?_, ?_, called⟩
  · refine ⟨?_, ?_, ?_, ?_⟩
    · rw [enabled, ptid]
      exact (orderly.ids key).valid
    · rw [enabled]
      exact live key
    · rw [enabled]
      exact listed key
    · rw [enabled]
      exact popped key
  · rw [calls, lock]
    exact orderly.locked
  · rw [calls]
    exact orderly.single
  · rw [calls]
    exact orderly.window
  · rw [calls]
    exact knows
  · intro caller
    rw [calls]
    exact (orderly.place caller).congr (fun key _ => enabled key) fun key _ => ptid key

lemma resizeInternal (size : Nat) : (system.resizeInternal key size).Orderly := by
  have enabled := pts_update system.pts key
    { system.pts key with size := size % 2 ^ 32 } enabled rfl
  have ptid := pts_update system.pts key
    { system.pts key with size := size % 2 ^ 32 } ptid rfl
  have live := fun key => (orderly.ids key).live
  have listed := fun key => (orderly.ids key).listed
  have popped := fun key => (orderly.ids key).popped
  unfold PtSystem.resizeInternal PtSystem.resizeListAdd
  simp only
  split
  · split
    · rename_i added
      refine orderly.outside _ rfl rfl enabled ptid orderly.known live ?_ popped orderly.called
      intro other isListed
      rcases List.mem_cons.mp isListed with rfl | isOther
      · exact added.2.1
      · exact listed other isOther
    · exact orderly.outside _ rfl rfl enabled ptid orderly.known live listed popped orderly.called
  · exact orderly.outside _ rfl rfl enabled ptid orderly.known live listed popped orderly.called

lemma threadStep : system.threadStep.Orderly := by
  have live := fun key => (orderly.ids key).live
  have listed := fun key => (orderly.ids key).listed
  unfold PtSystem.threadStep
  split
  · exact orderly.outside _ rfl rfl (fun _ => rfl) (fun _ => rfl) orderly.known live listed
      (fun _ _ popped => absurd popped (by simp)) orderly.called
  · split
    · exact orderly.outside _ rfl rfl (fun _ => rfl) (fun _ => rfl) orderly.known live listed
        (fun _ _ popped => absurd popped (by simp)) orderly.called
    · rename_i first rest isList
      refine orderly.outside _ rfl rfl (fun _ => rfl) (fun _ => rfl) orderly.known live ?_ ?_
        orderly.called
      · intro other isListed
        exact listed other (by rw [isList]; exact List.mem_cons_of_mem _ isListed)
      · intro other size popped
        obtain ⟨rfl, -⟩ := ResizeThread.popped.inj popped
        exact listed first (by rw [isList]; exact List.mem_cons_self)
  · rename_i first size popped
    refine orderly.outside _ rfl rfl (pts_update system.pts first _ enabled (by rfl))
      (pts_update system.pts first _ ptid (by rfl)) orderly.known live listed
      (fun _ _ popped => absurd popped (by simp)) ?_
    intro callback isCallback
    rcases List.mem_append.mp isCallback with before | last
    · exact orderly.called callback before
    · rw [List.mem_singleton] at last
      rw [last]
      exact (orderly.ids first).popped size popped

/-- A handle changes its state, and no id of it was in use. -/
lemma setState (handle : Nat) (state : HandleState)
    (unused : ∀ key, key.handle = handle → (system.pts key).enabled = false)
    (noCall : ∀ caller, ∀ key ∈ (system.calls caller).keys, key.handle ≠ handle) :
    { system with state := update system.state handle state }.Orderly := by
  have knows : ∀ key : PtKey, key.handle ≠ handle → system.knows key = true →
      ({ system with state := update system.state handle state } :
        PtSystem count).knows key = true := by
    intro key isOther isKnown
    simp only [knows, update_of_ne isOther]
    exact isKnown
  refine orderly.outside _ rfl rfl (fun _ => rfl) (fun _ => rfl) ?_ ?_
    (fun key => (orderly.ids key).listed) (fun key => (orderly.ids key).popped) orderly.called
  · intro caller key isKey
    exact knows key (noCall caller key isKey) (orderly.known caller key isKey)
  · intro key isEnabled
    refine knows key (fun same => ?_) ((orderly.ids key).live isEnabled)
    exact absurd (isEnabled.symm.trans (unused key same)) (by decide)

/-- Ids and calls of a handle that is not registered. -/
lemma unregistered {handle : Nat} (notRegistered : system.state handle ≠ .registered) :
    (∀ key, key.handle = handle → (system.pts key).enabled = false) ∧
      ∀ caller, ∀ key ∈ (system.calls caller).keys, key.handle ≠ handle := by
  have unknown : ∀ key : PtKey, key.handle = handle → system.knows key ≠ true := by
    rintro key rfl isKnown
    simp only [knows, Bool.and_eq_true, decide_eq_true_eq] at isKnown
    exact notRegistered isKnown.1
  refine ⟨fun key same => ?_, fun caller key isKey same =>
    unknown key same (orderly.known caller key isKey)⟩
  refine Bool.eq_false_of_not_eq_true fun isEnabled => ?_
  exact unknown key same ((orderly.ids key).live isEnabled)

lemma unregister {handle : Nat}
    (ran : system.unregister handle = some next) : next.Orderly := by
  unfold PtSystem.unregister at ran
  split at ran
  · split at ran
    · cases ran
    rename_i noCall
    split at ran
    · cases ran
      exact orderly.outside _ rfl rfl (fun _ => rfl) (fun _ => rfl) orderly.known
        (fun key => (orderly.ids key).live) (fun key => (orderly.ids key).listed)
        (fun key => (orderly.ids key).popped) orderly.called
    rename_i noPtid
    cases ran
    refine orderly.setState handle .closing ?_ ?_
    · rintro key rfl
      refine Bool.eq_false_of_not_eq_true fun isEnabled => noPtid ?_
      have isKnown := (orderly.ids key).live isEnabled
      simp only [knows, Bool.and_eq_true, decide_eq_true_eq] at isKnown
      exact ⟨key.id, isKnown.2, (orderly.ids key).valid isEnabled⟩
    · intro caller key isKey same
      exact noCall ⟨caller, key, isKey, same⟩
  · rename_i closing
    split at ran
    · cases ran
      obtain ⟨unused, noCall⟩ := orderly.unregistered (by rw [closing]; decide)
      exact orderly.setState handle .freed unused noCall
    · cases ran
  · cases ran

lemma step {step : PtStep count}
    (serves : system.Serves step) (ran : system.step step = some next) : next.Orderly := by
  unfold PtSystem.step at ran
  split at ran
  · cases ran
  cases step <;> simp only at ran
  case register handle =>
    split at ran
    · rename_i unregistered
      cases ran
      obtain ⟨unused, noCall⟩ := orderly.unregistered (by rw [unregistered]; decide)
      exact orderly.setState handle .registered unused noCall
    · cases ran
  case unregister handle => exact orderly.unregister ran
  case call caller request =>
    split at ran
    · rename_i possible
      cases ran
      refine orderly.back ?_ ?_ possible.2
      all_goals
        cases request with
        | mutate handle old new =>
          simp only [PtRequest.start]
          split <;> rfl
        | _ => rfl
    · cases ran
  case go caller answer => exact orderly.callStep serves ran
  case resize key size =>
    split at ran
    · cases ran
      exact orderly.resizeInternal size
    · cases ran
  case thread =>
    cases ran
    exact orderly.threadStep

end PtSystem.Orderly

end

end GsKernel.Pt
