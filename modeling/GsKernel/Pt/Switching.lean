import GsKernel.Pt.Ownership

/-!
# Switching ids on and off

The three places where an id becomes enabled or disabled: the end of `pt_client_enable_size`,
`pt_resize_list_disable`, and `pt_driver_mutate`. The last one leaves a pending notification of
the id it switches off on the list.
-/

namespace GsKernel.Pt

open Function PtSystem List

variable {count : Nat} {system next : PtSystem count} {caller : Fin count} {call : PtCall}
  {key : PtKey}

/-- No call on an id begins while another one has released the handle's lock and not switched
the notifications on, and an id is mutated away only with no notification pending. -/
def PtSystem.Serves (system : PtSystem count) : PtStep count → Prop
  | .go caller _ =>
    match system.calls caller with
    | .enableEnter key | .disableEnter key _ | .freeEnter key => ¬ system.Window key
    | .mutateEnter handle old new =>
      ¬ system.Window ⟨handle, old⟩ ∧ ¬ system.Window ⟨handle, new⟩
    | .mutateMoved handle old _ _ =>
      ⟨handle, old⟩ ∉ system.resizeList ∧ ∀ size, system.thread ≠ .popped ⟨handle, old⟩ size
    | _ => True
  | _ => True

/-- `pt_resize_list_enable` behind the lock. -/
lemma PtSystem.Orderly.enableList (orderly : system.Orderly)
    (isCall : system.calls caller = .enableList key) :
    ((system.resizeListEnable key).setCall caller .idle).Orderly := by
  have ptid := orderly.place caller
  have known := orderly.known caller key (by rw [isCall]; exact mem_singleton_self key)
  rw [isCall] at ptid
  have other : ∀ other, other ∉ [key] → update system.pts key
      { system.pts key with enabled := true } other = system.pts other :=
    fun _ isOther => update_of_ne (fun same => isOther (mem_singleton.mpr same)) _ _
  refine orderly.go _ system.resizeList system.lock [key] (fun _ isListed => isListed)
    (fun _ isOther => congrArg PtPts.enabled (other _ isOther))
    (fun _ isOther => congrArg PtPts.ptid (other _ isOther)) ?_
    (fun other _ => orderly.locked other) (by simp [PtCall.holds])
    (by simp [PtCall.busy]) (by simp [PtCall.keys]) trivial ?_
  · intro reader ne touched isTouched
    obtain rfl := mem_singleton.mp isTouched
    exact orderly.window caller reader touched ne.symm isCall
  · intro touched isTouched
    obtain rfl := mem_singleton.mp isTouched
    exact ⟨fun _ => by simpa [CallAt] using ptid, fun _ => known, by simp, by simp⟩

lemma PtSystem.mem_resizeListDisable {other : PtKey}
    (isListed : other ∈ (system.resizeListDisable key).resizeList) :
    other ∈ system.resizeList ∧ other ≠ key := by
  unfold resizeListDisable at isListed
  by_cases queued : key ∈ system.resizeList
  · simpa [queued] using isListed
  · simp only [if_neg queued] at isListed
    exact ⟨isListed, fun same => queued (same ▸ isListed)⟩

lemma PtSystem.pts_resizeListDisable (other : PtKey) :
    (other ≠ key → (system.resizeListDisable key).pts other = system.pts other) ∧
      (other = key → ((system.resizeListDisable key).pts other).enabled = false) := by
  unfold resizeListDisable
  constructor
  · intro ne
    split <;> exact update_of_ne ne _ _
  · rintro rfl
    split <;> simp [setPts]

/-- `pt_resize_list_disable` under a lock that was free. -/
lemma PtSystem.Orderly.disable (orderly : system.Orderly) (lock : Nat → Bool)
    (free : system.lock key.handle = false) (slFree : system.slFree = true)
    (noWindow : ¬ system.Window key) (isKey : key ∈ (system.calls caller).keys)
    (locked : ∀ handle, handle ≠ key.handle → lock handle = system.lock handle)
    (held : ∀ handle, call.holds = some handle → handle = key.handle ∧ lock handle = true)
    (busy : ∀ other ∈ call.busy, other = key) (keys : ∀ other ∈ call.keys, other = key)
    (place : ∀ system : PtSystem count, system.CallAt call) :
    (setCall { system.resizeListDisable key with lock } caller call).Orderly := by
  have waiting : system.thread = .waiting := by simpa [PtSystem.slFree] using slFree
  have unlocked : ∀ reader, (system.calls reader).holds ≠ some key.handle := by
    intro reader holds
    exact absurd ((orderly.locked reader _ holds).symm.trans free) (by decide)
  have other : ∀ other, other ∉ [key] →
      (system.resizeListDisable key).pts other = system.pts other :=
    fun other isOther => (pts_resizeListDisable other).1 (by simpa using isOther)
  have same : setCall { system.resizeListDisable key with lock } caller call = setCall { system with
        pts := (system.resizeListDisable key).pts
        resizeList := (system.resizeListDisable key).resizeList
        lock } caller call := by
    unfold resizeListDisable
    split <;> rfl
  rw [same]
  refine orderly.go _ _ lock [key] (fun other isListed => (mem_resizeListDisable isListed).1)
    (fun _ isOther => congrArg PtPts.enabled (other _ isOther))
    (fun _ isOther => congrArg PtPts.ptid (other _ isOther)) ?_ ?_ ?_
    (fun other isBusy => mem_singleton.mpr (busy other isBusy)) ?_ (place _) ?_
  · intro reader _ touched isTouched
    obtain rfl := mem_singleton.mp isTouched
    exact orderly.enter free noWindow reader
  · intro reader _ handle holds
    have apart : handle ≠ key.handle := by
      rintro rfl
      exact unlocked reader holds
    exact (locked handle apart).trans (orderly.locked reader handle holds)
  · intro handle isHeld
    obtain ⟨rfl, isLocked⟩ := held handle isHeld
    exact ⟨isLocked, fun reader _ => unlocked reader⟩
  · intro touched isTouched
    rw [keys touched isTouched]
    exact orderly.known caller key isKey
  · intro touched isTouched
    obtain rfl := mem_singleton.mp isTouched
    have disabled := Bool.eq_false_iff.mp ((@pts_resizeListDisable _ system touched touched).2 rfl)
    exact ⟨fun isEnabled => absurd isEnabled disabled, fun isEnabled => absurd isEnabled disabled,
      fun isListed => absurd rfl (mem_resizeListDisable isListed).2,
      fun size popped => absurd (waiting.symm.trans popped) (by simp)⟩

/-- `pt_driver_mutate` moves the partition from one id to the other. -/
lemma PtSystem.Orderly.mutateMoved (orderly : system.Orderly) {handle old new ptid : Nat}
    (isCall : system.calls caller = .mutateMoved handle old new ptid)
    (notQueued : ⟨handle, old⟩ ∉ system.resizeList)
    (notPopped : ∀ size, system.thread ≠ .popped ⟨handle, old⟩ size) :
    (((system.setPts ⟨handle, old⟩ { system.pts ⟨handle, old⟩ with
      ptid := none, enabled := false }).setPts ⟨handle, new⟩ { system.pts ⟨handle, new⟩ with
        ptid := some ptid, enabled := true }).setCall caller
          (.mutateRead handle old new true)).Orderly := by
  have other : ∀ {other : PtKey}, other ∉ (PtCall.mutateRead handle old new true).busy →
      update (update system.pts ⟨handle, old⟩ { system.pts ⟨handle, old⟩ with
        ptid := none, enabled := false }) ⟨handle, new⟩ { system.pts ⟨handle, new⟩ with
          ptid := some ptid, enabled := true } other = system.pts other := by
    intro other isOther
    simp only [PtCall.busy, mem_cons, not_mem_nil, or_false, not_or] at isOther
    rw [update_of_ne isOther.2, update_of_ne isOther.1]
  have known : system.knows ⟨handle, new⟩ = true :=
    orderly.known caller _ (by rw [isCall]; simp [PtCall.keys])
  refine orderly.inside isCall _ (fun _ isOther => congrArg PtPts.enabled (other isOther))
    (fun _ isOther => congrArg PtPts.ptid (other isOther)) rfl rfl rfl trivial ?_
  intro touched isTouched
  by_cases isNew : touched = ⟨handle, new⟩
  · subst isNew
    exact ⟨by simp, fun _ => known, by simp, by simp⟩
  have isOld : touched = ⟨handle, old⟩ := by
    simpa [PtCall.busy, isNew] using isTouched
  subst isOld
  refine ⟨?_, ?_, fun isListed => absurd isListed notQueued,
    fun size popped => absurd popped (notPopped size)⟩
  all_goals simp [setPts, isNew]

end GsKernel.Pt
