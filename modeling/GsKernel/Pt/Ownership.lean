import GsKernel.Pt.Notifications

/-!
# Who works on an id

The calls on the ids of a handle exclude one another by its lock, except that
`pt_client_enable_size` switches the notifications on behind it. While no other call on the id
begins there, and no id is mutated away with a notification pending, an id on the list is enabled,
and an enabled id has a partition and a registered handle.
-/

namespace GsKernel.Pt

open Function PtSystem

variable {count : Nat}

/-- The ids that a call has begun to work on. -/
def PtCall.busy : PtCall → List PtKey
  | .enableAlloc key | .enableAllocating key | .enableRead key | .enableList key
  | .disableDriver key _ | .freeDriver key => [key]
  | .mutateDriver handle old new | .mutateMoved handle old new _
  | .mutateRead handle old new _ => [⟨handle, old⟩, ⟨handle, new⟩]
  | _ => []

/-- The handle whose lock a call has. -/
def PtCall.holds : PtCall → Option Nat
  | .enableAlloc key | .enableAllocating key | .enableRead key | .disableDriver key _
  | .freeDriver key => some key.handle
  | .mutateDriver handle _ _ | .mutateMoved handle _ _ _ | .mutateRead handle _ _ _ => some handle
  | _ => none

lemma PtCall.busy_cases {call : PtCall} {key : PtKey} (isBusy : key ∈ call.busy) :
    call.holds = some key.handle ∨ call = .enableList key := by
  cases call <;> simp_all [PtCall.busy, PtCall.holds]
  all_goals rcases isBusy with rfl | rfl <;> rfl

/-- What a call has found out about its id. -/
def PtSystem.CallAt (system : PtSystem count) : PtCall → Prop
  | .enableAlloc key | .enableAllocating key | .freeDriver key =>
    (system.pts key).enabled = false
  | .enableList key => (system.pts key).ptid.isSome = true
  | _ => True

/-- An id that is in order: if it is enabled it has a partition and its handle is registered, and
it is on the list, or taken off it for a callback, only if it is enabled. -/
structure PtSystem.InOrder (system : PtSystem count) (key : PtKey) : Prop where
  valid : (system.pts key).enabled = true → (system.pts key).ptid.isSome = true
  live : (system.pts key).enabled = true → system.knows key = true
  listed : key ∈ system.resizeList → (system.pts key).enabled = true
  popped : ∀ size, system.thread = .popped key size → (system.pts key).enabled = true

/-- Ids, calls and callbacks in order. -/
structure PtSystem.Orderly (system : PtSystem count) : Prop where
  ids : ∀ key, system.InOrder key
  locked : ∀ caller handle, (system.calls caller).holds = some handle → system.lock handle = true
  single : ∀ one other handle, one ≠ other → (system.calls one).holds = some handle →
    (system.calls other).holds ≠ some handle
  window : ∀ one other key, one ≠ other → system.calls one = .enableList key →
    key ∉ (system.calls other).busy
  known : ∀ caller, ∀ key ∈ (system.calls caller).keys, system.knows key = true
  place : ∀ caller, system.CallAt (system.calls caller)
  called : ∀ callback ∈ system.callbacks, callback.enabled = true

section Calls

variable {system next : PtSystem count} {caller other : Fin count} {call : PtCall} {key : PtKey}

/-- Two calls work on different ids. -/
lemma PtSystem.Orderly.apart (orderly : system.Orderly) (ne : caller ≠ other)
    (isBusy : key ∈ (system.calls caller).busy) : key ∉ (system.calls other).busy := by
  intro isOther
  rcases PtCall.busy_cases isBusy with holds | isWindow
  · rcases PtCall.busy_cases isOther with otherHolds | isWindow
    · exact orderly.single caller other _ ne holds otherHolds
    · exact orderly.window other caller key ne.symm isWindow isBusy
  · exact orderly.window caller other key ne isWindow isOther

/-- A call that begins under a free lock, without a window on its id, works on it alone. -/
lemma PtSystem.Orderly.enter (orderly : system.Orderly)
    (free : system.lock key.handle = false) (noWindow : ¬ system.Window key)
    (other : Fin count) : key ∉ (system.calls other).busy := by
  intro isBusy
  rcases PtCall.busy_cases isBusy with holds | isWindow
  · exact absurd ((orderly.locked other _ holds).symm.trans free) (by decide)
  · exact noWindow ⟨other, isWindow⟩

/-- What a call has found out stays true while its ids are left alone. -/
lemma PtSystem.CallAt.congr (before : system.CallAt call)
    (enabled : ∀ key ∈ call.busy, (next.pts key).enabled = (system.pts key).enabled)
    (ptid : ∀ key ∈ call.busy, (next.pts key).ptid = (system.pts key).ptid) : next.CallAt call := by
  cases call <;> simp_all [CallAt, PtCall.busy]

/-- An id stays in order when it stays enabled or disabled. -/
lemma PtSystem.InOrder.frame (before : system.InOrder key) (next : PtSystem count)
    (knows : next.knows key = system.knows key) (thread : next.thread = system.thread)
    (list : key ∈ next.resizeList → key ∈ system.resizeList)
    (enabled : (next.pts key).enabled = (system.pts key).enabled)
    (ptid : (system.pts key).enabled = true → (next.pts key).ptid = (system.pts key).ptid) :
    next.InOrder key := by
  refine ⟨fun isEnabled => ?_, ?_, ?_, ?_⟩
  · rw [enabled] at isEnabled
    rw [ptid isEnabled]
    exact before.valid isEnabled
  · rw [enabled, knows]
    exact before.live
  · rw [enabled]
    exact before.listed ∘ list
  · rw [enabled, thread]
    exact before.popped

section

variable (orderly : system.Orderly)
include orderly

/-- A call goes on: it touches some ids on which no other call works, leaves them in order, and
has or gives back the lock of its handle. -/
lemma PtSystem.Orderly.go (pts : PtKey → PtPts) (list : List PtKey)
    (lock : Nat → Bool) (touched : List PtKey) (listed : ∀ key ∈ list, key ∈ system.resizeList)
    (enabled : ∀ key, key ∉ touched → (pts key).enabled = (system.pts key).enabled)
    (ptid : ∀ key, key ∉ touched → (pts key).ptid = (system.pts key).ptid)
    (apart : ∀ other, other ≠ caller → ∀ key ∈ touched, key ∉ (system.calls other).busy)
    (locked : ∀ other, other ≠ caller → ∀ handle, (system.calls other).holds = some handle →
      lock handle = true) (held : ∀ handle, call.holds = some handle → lock handle = true ∧
      ∀ other, other ≠ caller → (system.calls other).holds ≠ some handle)
    (busy : ∀ key ∈ call.busy, key ∈ touched) (keys : ∀ key ∈ call.keys, system.knows key = true)
    (place : CallAt { system with pts } call)
    (inOrder : ∀ key ∈ touched, InOrder { system with pts, resizeList := list } key) :
    (setCall { system with pts, resizeList := list, lock } caller call).Orderly := by
  have isOther : ∀ {other : Fin count}, other ≠ caller →
      update system.calls caller call other = system.calls other :=
    fun ne => update_of_ne ne _ _
  refine ⟨fun key => ?_, fun one handle holds => ?_, fun one two handle ne oneHolds twoHolds => ?_,
    fun one two key ne isWindow isBusy => ?_, fun one key isKey => ?_, fun one => ?_,
    orderly.called⟩
  · by_cases isTouched : key ∈ touched
    · exact (inOrder key isTouched).frame _ rfl rfl id rfl fun _ => rfl
    · exact (orderly.ids key).frame _ rfl rfl (listed key) (enabled key isTouched)
        fun _ => ptid key isTouched
  all_goals dsimp only [setCall] at *
  · rcases eq_or_ne one caller with rfl | isOne
    · exact (held handle (by simpa using holds)).1
    · exact locked one isOne handle (by rwa [isOther isOne] at holds)
  · have single := orderly.single one two handle ne
    grind
  · have window := orderly.window one two key ne
    grind [PtCall.busy]
  · have known := orderly.known one key
    change system.knows key = true
    grind
  · rcases eq_or_ne one caller with rfl | isOne
    · rw [update_self]
      exact place.congr (fun _ _ => rfl) fun _ _ => rfl
    · rw [isOther isOne]
      exact (orderly.place one).congr
        (fun key isBusy => enabled key fun isTouched => apart one isOne key isTouched isBusy)
        fun key isBusy => ptid key fun isTouched => apart one isOne key isTouched isBusy

/-! ## The parts of a call -/

/-- A call goes on without working on anything. -/
lemma PtSystem.Orderly.back (noBusy : call.busy = [])
    (noHold : call.holds = none) (keys : ∀ key ∈ call.keys, system.knows key = true) :
    (system.setCall caller call).Orderly := by
  refine orderly.go system.pts system.resizeList system.lock [] (fun _ isListed => isListed)
    (fun _ _ => rfl) (fun _ _ => rfl) (by simp)
    (fun other _ handle holds => orderly.locked other handle holds) (by simp [noHold])
    (by simp [noBusy]) keys ?_ (by simp)
  cases call <;> trivial

/-- A call takes the lock of a handle for some of its ids. -/
lemma PtSystem.Orderly.take {handle : Nat}
    (free : system.lock handle = false) (holds : call.holds = some handle)
    (busy : ∀ key ∈ call.busy, key.handle = handle ∧ ¬ system.Window key)
    (keys : ∀ key ∈ call.keys, key ∈ (system.calls caller).keys) (place : system.CallAt call) :
    ((system.setLock handle true).setCall caller call).Orderly := by
  have unlocked : ∀ other, (system.calls other).holds ≠ some handle := by
    intro other otherHolds
    exact absurd ((orderly.locked other handle otherHolds).symm.trans free) (by decide)
  refine orderly.go system.pts system.resizeList _ call.busy (fun _ isListed => isListed)
    (fun _ _ => rfl) (fun _ _ => rfl) ?_ ?_ ?_ (fun _ isBusy => isBusy)
    (fun key isKey => orderly.known caller key (keys key isKey)) place
    fun key _ => orderly.ids key
  · intro other _ key isBusy
    obtain ⟨rfl, noWindow⟩ := busy key isBusy
    exact orderly.enter free noWindow other
  · intro other _ held otherHolds
    have apart : held ≠ handle := by
      rintro rfl
      exact unlocked other otherHolds
    exact (update_of_ne apart _ _).trans (orderly.locked other held otherHolds)
  · intro held isHeld
    obtain rfl := Option.some.inj (holds.symm.trans isHeld)
    exact ⟨update_self _ _ _, fun other _ => unlocked other⟩

/-- A call goes on under its lock. -/
lemma PtSystem.Orderly.inside {before : PtCall}
    (isCall : system.calls caller = before) (pts : PtKey → PtPts)
    (enabled : ∀ key, key ∉ call.busy → (pts key).enabled = (system.pts key).enabled)
    (ptid : ∀ key, key ∉ call.busy → (pts key).ptid = (system.pts key).ptid)
    (holds : call.holds = before.holds) (busy : call.busy = before.busy)
    (keys : call.keys = before.keys) (place : CallAt { system with pts } call)
    (inOrder : ∀ key ∈ call.busy, InOrder { system with pts } key) :
    (setCall { system with pts } caller call).Orderly := by
  subst isCall
  refine orderly.go pts system.resizeList system.lock call.busy (fun _ isListed => isListed)
    enabled ptid ?_ (fun other _ => orderly.locked other) ?_ (fun _ isBusy => isBusy)
    (by rw [keys]; exact orderly.known caller) place inOrder
  · intro other ne key isBusy
    rw [busy] at isBusy
    exact orderly.apart ne.symm isBusy
  · intro handle isHeld
    rw [holds] at isHeld
    exact ⟨orderly.locked caller handle isHeld,
      fun other ne => orderly.single caller other handle ne.symm isHeld⟩

/-- A call gives back its lock. -/
lemma PtSystem.Orderly.release {handle : Nat} {before : PtCall}
    (isCall : system.calls caller = before) (holds : before.holds = some handle)
    (pts : PtKey → PtPts) (enabled : ∀ key, (pts key).enabled = (system.pts key).enabled)
    (ptid : ∀ key, (pts key).ptid = (system.pts key).ptid ∨
      (key ∈ before.busy ∧ (system.pts key).enabled = false))
    (noHold : call.holds = none) (busy : ∀ key ∈ call.busy, key ∈ before.busy)
    (keys : ∀ key ∈ call.keys, key ∈ before.keys) (place : CallAt { system with pts } call) :
    ((setLock { system with pts } handle false).setCall caller call).Orderly := by
  subst isCall
  refine orderly.go pts system.resizeList _ (system.calls caller).busy
    (fun _ isListed => isListed) (fun key _ => enabled key) ?_ ?_ ?_ (by simp [noHold]) busy
    (fun key isKey => orderly.known caller key (keys key isKey)) place ?_
  · intro key notBusy
    exact (ptid key).resolve_right fun isBusy => notBusy isBusy.1
  · intro other ne key isBusy
    exact orderly.apart ne.symm isBusy
  · intro other ne held otherHolds
    have apart : held ≠ handle := by
      rintro rfl
      exact orderly.single caller other held ne.symm holds otherHolds
    exact (update_of_ne apart _ _).trans (orderly.locked other held otherHolds)
  · intro key _
    refine (orderly.ids key).frame _ rfl rfl id (enabled key) fun isEnabled => ?_
    refine (ptid key).resolve_right fun isBusy => ?_
    exact absurd (isEnabled.symm.trans isBusy.2) (by decide)

end

end Calls

end GsKernel.Pt
