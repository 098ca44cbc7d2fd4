import GsKernel.Pt.Notifications

/-!
# The list of pending notifications

Changes of the list and the steps of the resize thread keep what the clients know, if they
change no size between a call's read of it and its switch of the notifications.
-/

namespace GsKernel.Pt

open Function PtSystem

variable {count : Nat} {system next : PtSystem count} {key : PtKey}

/-! ## The list -/

/-- With `sl` free the client of an id knows its size or the id is queued. -/
lemma PtSystem.Told.free (told : system.Told key) (free : system.slFree = true) :
    (system.pts key).told = some (system.pts key).size ∨ key ∈ system.resizeList := by
  rcases told with known | queued | ⟨size, popped⟩
  · exact .inl known
  · exact .inr queued
  · rw [slFree, popped] at free
    cases free

/-- A step of nobody's call that keeps what each client knows. -/
lemma PtSystem.Informed.carry (informed : system.Informed) (next : PtSystem count)
    (config : next.config = system.config) (calls : next.calls = system.calls)
    (enabled : ∀ key, (next.pts key).enabled = true → (system.pts key).enabled = true)
    (popped : ∀ key size, next.thread = .popped key size → size = (next.pts key).size)
    (told : ∀ key, (system.config key.handle).callback = true →
      (system.Window key ∨ (next.pts key).enabled = true) → system.Told key → next.Told key) :
    next.Informed := by
  refine ⟨popped, ?_, ?_⟩
  · intro key callback window
    rw [config] at callback
    have before : system.Window key := by
      obtain ⟨caller, isCall⟩ := window
      exact ⟨caller, by rw [← calls]; exact isCall⟩
    exact told key callback (.inl before) (informed.window key callback before)
  · intro key callback isEnabled noRead
    rw [config] at callback
    have noReadBefore : system.NoRead key := by
      intro caller old isCall
      exact noRead caller old (by rw [calls]; exact isCall)
    exact told key callback (.inr isEnabled)
      (informed.enabled key callback (enabled key isEnabled) noReadBefore)

lemma PtSystem.not_popped {size : Nat} {goal : Prop} (free : system.slFree = true)
    (popped : system.thread = .popped key size) : goal := by
  simp [slFree, popped] at free

section

variable (informed : system.Informed)
include informed

/-- `pt_resize_list_disable`. -/
lemma PtSystem.Informed.resizeListDisable (free : system.slFree = true)
    (keeps : system.Window key → key ∉ system.resizeList) :
    (system.resizeListDisable key).Informed := by
  have disabled : ∀ (value : PtPts) (other : PtKey), value.enabled = false →
      (update system.pts key value other).enabled = true → other ≠ key := by
    rintro value other off isEnabled rfl
    rw [update_self, off] at isEnabled
    cases isEnabled
  unfold PtSystem.resizeListDisable
  by_cases queued : key ∈ system.resizeList
  · simp only [if_pos queued]
    refine informed.carry _ rfl rfl ?_ (fun _ _ => not_popped free) ?_
    · intro other isEnabled
      have isOther := disabled _ other rfl isEnabled
      simpa only [setPts, update_of_ne isOther] using isEnabled
    · intro other _ reached told
      have isOther : other ≠ key := by
        rcases reached with window | isEnabled
        · rintro rfl
          exact keeps window queued
        · exact disabled _ other rfl isEnabled
      rcases told.free free with known | isQueued
      · exact .inl (by simpa only [setPts, update_of_ne isOther] using known)
      · exact .inr (.inl (List.mem_filter.mpr ⟨isQueued, by simpa using isOther⟩))
  · simp only [if_neg queued]
    refine informed.progress _ system.lock system.calls
      (pts_update system.pts key _ PtPts.size (by rfl))
      (fun other => .inl (pts_update system.pts key _ PtPts.told (by rfl) other))
      (fun _ window => .inl window) fun other isEnabled noRead => .inl ⟨?_, noRead⟩
    have isOther := disabled _ other rfl isEnabled
    simpa only [update_of_ne isOther] using isEnabled

/-- `pt_resize_list_add`. -/
lemma PtSystem.Informed.resizeListAdd (free : system.slFree = true) {size : Nat}
    (keeps : system.Window key → (system.pts key).enabled = true ∨ key ∈ system.resizeList ∨
      size = (system.pts key).size) : (system.resizeListAdd key size).Informed := by
  have enabled := pts_update system.pts key { system.pts key with size } PtPts.enabled rfl
  unfold PtSystem.resizeListAdd
  by_cases added : key ∉ system.resizeList ∧ (system.pts key).enabled ∧ (system.pts key).size ≠ size
  · simp only [if_pos added]
    refine informed.carry _ rfl rfl (fun other => (enabled other).symm.trans)
      (fun _ _ => not_popped free) ?_
    intro other _ _ told
    by_cases isKey : other = key
    · exact .inr (.inl (by simp [isKey]))
    · rcases told.free free with known | queued
      · exact .inl (by simpa only [setPts, update_of_ne isKey] using known)
      · exact .inr (.inl (List.mem_cons_of_mem _ queued))
  · simp only [if_neg added]
    refine informed.carry _ rfl rfl (fun other => (enabled other).symm.trans)
      (fun _ _ => not_popped free) ?_
    intro other _ reached told
    rcases told.free free with known | queued
    · by_cases isKey : other = key
      · subst isKey
        have reached : system.Window other ∨ (system.pts other).enabled = true :=
          reached.imp_right (enabled other).symm.trans
        by_cases queued : other ∈ system.resizeList
        · exact .inr (.inl queued)
        · have same : size = (system.pts other).size := by grind
          exact .inl (by simpa [setPts, same] using known)
      · exact .inl (by simpa only [setPts, update_of_ne isKey] using known)
    · exact .inr (.inl queued)

/-- `pt_resize_internal`. -/
lemma PtSystem.Informed.resizeInternal (free : system.slFree = true) {size : Nat}
    (keeps : system.Window key → (system.pts key).enabled = true ∨ key ∈ system.resizeList ∨
      size % 2 ^ 32 = (system.pts key).size) : (system.resizeInternal key size).Informed := by
  unfold PtSystem.resizeInternal
  split
  · exact informed.resizeListAdd free keeps
  rename_i noCallback
  refine informed.carry _ rfl rfl
    (fun other => (pts_update system.pts key _ PtPts.enabled (by rfl) other).symm.trans)
    (fun _ _ => not_popped free) ?_
  intro other callback _ told
  have isOther : other ≠ key := by
    rintro rfl
    exact noCallback callback
  rcases told.free free with known | queued
  · exact .inl (by simpa only [setPts, update_of_ne isOther] using known)
  · exact .inr (.inl queued)

/-! ## The resize thread -/

lemma PtSystem.Informed.threadStep : system.threadStep.Informed := by
  unfold PtSystem.threadStep
  split
  · rename_i waiting
    refine informed.carry _ rfl rfl (fun _ => id) (fun _ _ popped => absurd popped (by simp)) ?_
    rintro other - - (known | queued | ⟨size, popped⟩)
    · exact .inl known
    · exact .inr (.inl queued)
    · exact absurd (waiting.symm.trans popped) (by simp)
  · rename_i locked
    split
    · refine informed.carry _ rfl rfl (fun _ => id) (fun _ _ popped => absurd popped (by simp)) ?_
      rintro other - - (known | queued | ⟨size, popped⟩)
      · exact .inl known
      · exact .inr (.inl queued)
      · exact absurd (locked.symm.trans popped) (by simp)
    · rename_i first rest isList
      refine informed.carry _ rfl rfl (fun _ => id) ?_ ?_
      · intro other size popped
        obtain ⟨rfl, rfl⟩ := ResizeThread.popped.inj popped
        rfl
      · rintro other - - (known | queued | ⟨size, popped⟩)
        · exact .inl known
        · rw [isList] at queued
          rcases List.mem_cons.mp queued with rfl | later
          · exact .inr (.inr ⟨_, rfl⟩)
          · exact .inr (.inl later)
        · exact absurd (locked.symm.trans popped) (by simp)
  · rename_i first size popped
    have isSize := informed.popped first size popped
    refine informed.carry _ rfl rfl
      (fun other => (pts_update system.pts first _ PtPts.enabled (by rfl) other).symm.trans)
      (fun _ _ isPopped => absurd isPopped (by simp)) ?_
    intro other _ _ told
    by_cases isFirst : other = first
    · subst isFirst
      refine .inl ?_
      simp only [setPts, update_self]
      rw [isSize]
    have same : (system.setPts first { system.pts first with told := some size }).pts other =
        system.pts other := update_of_ne isFirst _ _
    rcases told with known | queued | ⟨_, isPopped⟩
    · exact .inl (by simp only [same]; exact known)
    · exact .inr (.inl queued)
    · exact absurd (ResizeThread.popped.inj (popped.symm.trans isPopped)).1.symm isFirst

end

end GsKernel.Pt
