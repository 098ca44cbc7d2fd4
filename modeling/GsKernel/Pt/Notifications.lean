import GsKernel.Pt.Partition

/-!
# Clients know the size of their partitions

A change of the size is queued for an enabled id, and otherwise recorded silently. Between the
moment when `pt_client_enable_size` reads the size and the moment when it switches the
notifications on, a change is lost.
-/

namespace GsKernel.Pt

open Function PtSystem

variable {count : Nat} {system next : PtSystem count}

/-- The client knows the size, or the resize thread will tell it. -/
def PtSystem.Told (system : PtSystem count) (key : PtKey) : Prop :=
  (system.pts key).told = some (system.pts key).size ∨ key ∈ system.resizeList ∨
    ∃ size, system.thread = .popped key size

/-- A call has read the size of an id and not switched its notifications on. -/
def PtSystem.Window (system : PtSystem count) (key : PtKey) : Prop :=
  ∃ caller, system.calls caller = .enableList key

/-- No call is about to tell the size of an id it has moved to. -/
def PtSystem.NoRead (system : PtSystem count) (key : PtKey) : Prop :=
  ∀ caller old, system.calls caller ≠ .mutateRead key.handle old key.id true

/-- What the clients of handles with a callback know. -/
structure PtSystem.Informed (system : PtSystem count) : Prop where
  popped : ∀ key size, system.thread = .popped key size → size = (system.pts key).size
  window : ∀ key, (system.config key.handle).callback = true → system.Window key → system.Told key
  enabled : ∀ key, (system.config key.handle).callback = true → (system.pts key).enabled = true →
    system.NoRead key → system.Told key

/-- A step that changes no size which a call has just read: between its read and its switch, no
resize changes the size of an id that is neither enabled nor queued, and no call takes a queued id
off the list. -/
def PtSystem.KeepsSize (system : PtSystem count) : PtStep count → Prop
  | .resize key size =>
    system.Window key → (system.pts key).enabled = true ∨ key ∈ system.resizeList ∨
      size % 2 ^ 32 = (system.pts key).size
  | .go caller _ =>
    match system.calls caller with
    | .disableEnter key _ => system.Window key → key ∉ system.resizeList
    | _ => True
  | _ => True

/-! ## Calls -/

section Calls

variable {caller : Fin count} {call : PtCall} {key : PtKey}

/-- Which windows there are after a call has gone on. -/
lemma PtSystem.Window.of_update (window : next.Window key)
    (calls : next.calls = update system.calls caller call) :
    call = .enableList key ∨ system.Window key := by
  obtain ⟨other, isOther⟩ := window
  rw [calls] at isOther
  by_cases same : other = caller
  · subst same
    exact .inl (by rwa [update_self] at isOther)
  · exact .inr ⟨other, by rwa [update_of_ne same] at isOther⟩

/-- Which calls were about to tell a size before a call has gone on. -/
lemma PtSystem.NoRead.of_update (noRead : next.NoRead key)
    (calls : next.calls = update system.calls caller call)
    (other : ∀ old, system.calls caller ≠ .mutateRead key.handle old key.id true) :
    system.NoRead key := by
  intro reader old isReader
  by_cases same : reader = caller
  · subst same
    exact other old isReader
  · refine noRead reader old ?_
    rwa [calls, update_of_ne same]

/-- A step that changes no size and tells nothing but the size. Whoever has a window or is
enabled behind it had so before, or was told the size. -/
lemma PtSystem.Informed.progress (informed : system.Informed) (pts : PtKey → PtPts)
    (lock : Nat → Bool) (calls : Fin count → PtCall)
    (size : ∀ key, (pts key).size = (system.pts key).size)
    (told : ∀ key, (pts key).told = (system.pts key).told ∨
      (pts key).told = some (system.pts key).size)
    (window : ∀ key, Window { system with calls } key →
      system.Window key ∨ (pts key).told = some (system.pts key).size)
    (enabled : ∀ key, (pts key).enabled = true → NoRead { system with calls } key →
      ((system.pts key).enabled = true ∧ system.NoRead key) ∨ system.Window key ∨
        (pts key).told = some (system.pts key).size) :
    Informed { system with pts, lock, calls } := by
  have tell : ∀ {key : PtKey}, (pts key).told = some (system.pts key).size →
      Told { system with pts, lock, calls } key :=
    fun known => .inl (known.trans (congrArg some (size _).symm))
  have keep : ∀ {key : PtKey}, system.Told key → Told { system with pts, lock, calls } key := by
    rintro key (known | later)
    · exact tell ((told key).elim (fun same => same.trans known) id)
    · exact .inr later
  refine ⟨?_, ?_, ?_⟩
  · intro key popped isPopped
    exact (informed.popped key popped isPopped).trans (size key).symm
  · intro key callback isWindow
    rcases window key isWindow with before | known
    · exact keep (informed.window key callback before)
    · exact tell known
  · intro key callback isEnabled noRead
    rcases enabled key isEnabled noRead with ⟨before, noReadBefore⟩ | before | known
    · exact keep (informed.enabled key callback before noReadBefore)
    · exact keep (informed.window key callback before)
    · exact tell known

/-- What the client of an id knows about it, with whether it is notified. -/
def PtPts.known (pts : PtPts) : Option Nat × Nat × Bool := (pts.told, pts.size, pts.enabled)

/-- A call goes on without touching what its clients know. -/
lemma PtSystem.Informed.goOn (informed : system.Informed) {before : PtCall}
    (isCall : system.calls caller = before) (pts : PtKey → PtPts) (lock : Nat → Bool)
    (same : ∀ key, (pts key).known = (system.pts key).known)
    (noRead : ∀ handle old new, before ≠ .mutateRead handle old new true)
    (after : ∀ key, call ≠ .enableList key) :
    (setCall { system with pts, lock } caller call).Informed := by
  subst isCall
  simp only [PtPts.known, Prod.mk.injEq] at same
  refine informed.progress pts lock _ (fun key => (same key).2.1) (fun key => .inl (same key).1)
    ?_ ?_
  · intro key window
    exact .inl ((window.of_update rfl).resolve_left (after key))
  · intro key isEnabled noReadAfter
    rw [(same key).2.2] at isEnabled
    exact .inl ⟨isEnabled, noReadAfter.of_update rfl fun old => noRead _ old _⟩

end Calls

/-! ## Changing one id -/

section Ids

variable {caller : Fin count} {call : PtCall} {key : PtKey}

/-- What a change of one id leaves alone. -/
lemma pts_update {α : Type} (pts : PtKey → PtPts) (key : PtKey) (value : PtPts)
    (read : PtPts → α) (same : read value = read (pts key)) (other : PtKey) :
    read (update pts key value other) = read (pts other) := by
  by_cases isKey : other = key
  · subst isKey
    rw [update_self, same]
  · rw [update_of_ne isKey]

lemma pts_update_two {α : Type} (pts : PtKey → PtPts) (first second : PtKey) (one two : PtPts)
    (read : PtPts → α) (sameOne : read one = read (pts first))
    (sameTwo : read two = read (pts second)) (other : PtKey) :
    read (update (update pts first one) second two other) = read (pts other) := by
  by_cases isSecond : other = second
  · subst isSecond
    rw [update_self, sameTwo]
  · rw [update_of_ne isSecond]
    exact pts_update pts first one read sameOne other

/-- A call tells the size of an id. -/
lemma PtSystem.Informed.tell (informed : system.Informed) (lock : Nat → Bool)
    (before : ∀ other old, other ≠ key →
      system.calls caller ≠ .mutateRead other.handle old other.id true)
    (after : ∀ other, call = .enableList other → other = key) :
    (setCall { system with
      pts := update system.pts key
        { system.pts key with told := some (system.pts key).size }
      lock } caller call).Informed := by
  refine informed.progress _ lock _ (pts_update system.pts key _ PtPts.size (by rfl)) ?_ ?_ ?_
  · intro other
    by_cases isKey : other = key
    · exact .inr (by simp [isKey])
    · exact .inl (by simp [isKey])
  · intro other window
    rcases window.of_update rfl with isCall | before
    · exact .inr (by simp [after other isCall])
    · exact .inl before
  · intro other isEnabled noRead
    by_cases isKey : other = key
    · exact .inr (.inr (by simp [isKey]))
    · simp only [update_of_ne isKey] at isEnabled
      exact .inl ⟨isEnabled, noRead.of_update rfl fun old => before other old isKey⟩

/-- `pt_client_enable_size` switches the notifications on. -/
lemma PtSystem.Informed.enableList (informed : system.Informed)
    (isCall : system.calls caller = .enableList key) :
    ((system.resizeListEnable key).setCall caller .idle).Informed := by
  refine informed.progress _ system.lock _ (pts_update system.pts key _ PtPts.size (by rfl))
    (fun other => .inl (pts_update system.pts key _ PtPts.told (by rfl) other)) ?_ ?_
  · intro other window
    exact .inl ((window.of_update rfl).resolve_left (by simp))
  · intro other isEnabled noRead
    by_cases isKey : other = key
    · exact .inr (.inl ⟨caller, isKey ▸ isCall⟩)
    · simp only [resizeListEnable, setPts, update_of_ne isKey] at isEnabled
      exact .inl ⟨isEnabled, noRead.of_update rfl (by simp [isCall])⟩

/-- `pt_driver_mutate` switches one id off and the other one on. -/
lemma PtSystem.Informed.mutateMoved (informed : system.Informed) {handle old new ptid : Nat}
    (isCall : system.calls caller = .mutateMoved handle old new ptid) :
    (((system.setPts ⟨handle, old⟩ { system.pts ⟨handle, old⟩ with
      ptid := none, enabled := false }).setPts ⟨handle, new⟩ { system.pts ⟨handle, new⟩ with
        ptid := some ptid, enabled := true }).setCall caller
          (.mutateRead handle old new true)).Informed := by
  refine informed.progress _ system.lock _
    (pts_update_two system.pts _ _ _ _ PtPts.size (by rfl) (by rfl))
    (fun other => .inl (pts_update_two system.pts _ _ _ _ PtPts.told (by rfl) (by rfl) other))
    ?_ ?_
  · intro other window
    exact .inl ((window.of_update rfl).resolve_left (by simp))
  · intro other isEnabled noRead
    have notNew : other ≠ ⟨handle, new⟩ := by
      rintro rfl
      exact noRead caller old (update_self _ _ _)
    have notOld : other ≠ ⟨handle, old⟩ := by
      rintro rfl
      simp [notNew, setPts] at isEnabled
    simp only [setPts, update_of_ne notNew, update_of_ne notOld] at isEnabled
    exact .inl ⟨isEnabled, noRead.of_update rfl (by simp [isCall])⟩

end Ids

end GsKernel.Pt
