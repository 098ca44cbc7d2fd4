import GsKernel.Iif.SubmitWakelocks

/-!
# A submission happens as a whole or not at all

A submission that fails leaves fences and wakelocks as they were. One that succeeds has
found every in-fence with all signalers submitted and every out-fence with one missing,
and has the effect of one waiter on each in-fence and of one signaler on each out-fence.
-/

namespace GsKernel.Iif

open Lib.SortedScan List

variable {ι κ : Type*}

namespace Fences

variable {fences : Fences ι κ}

lemma areWaiterSubmittable_cases (fences : Fences ι κ) (array : List ι) :
    (fences.areWaiterSubmittable array = -EAGAIN ∨ fences.areWaiterSubmittable array = -EPERM) ∨
      (fences.areWaiterSubmittable array = 0 ∧
        ∀ fence ∈ array, (fences.objects fence).fence.waiterSubmittable = 0) := by
  induction array with
  | nil => exact .inr ⟨rfl, by simp⟩
  | cons fence rest ih =>
    unfold areWaiterSubmittable
    by_cases zero : (fences.objects fence).fence.waiterSubmittable = 0
    · rw [if_neg (not_not.mpr zero)]
      exact ih.imp_right fun ⟨all, each⟩ =>
        ⟨all, forall_mem_cons.mpr ⟨zero, each⟩⟩
    dsimp only
    rw [if_pos zero]
    unfold Fence.waiterSubmittable at zero ⊢
    split_ifs at zero ⊢
    · exact .inl (.inl rfl)
    · exact .inl (.inr rfl)
    · exact absurd rfl zero

lemma areSignalerSubmittable_cases (fences : Fences ι κ) (array : List ι) :
    fences.areSignalerSubmittable array = -EPERM ∨ (fences.areSignalerSubmittable array = 0 ∧
        ∀ fence ∈ array, (fences.objects fence).fence.signalerSubmittable = 0) := by
  induction array with
  | nil => exact .inr ⟨rfl, by simp⟩
  | cons fence rest ih =>
    unfold areSignalerSubmittable
    by_cases zero : (fences.objects fence).fence.signalerSubmittable = 0
    · rw [if_neg (not_not.mpr zero)]
      exact ih.imp_right fun ⟨all, each⟩ =>
        ⟨all, forall_mem_cons.mpr ⟨zero, each⟩⟩
    dsimp only
    rw [if_pos zero]
    unfold Fence.signalerSubmittable at zero ⊢
    split_ifs at zero ⊢
    · exact .inl rfl
    · exact absurd rfl zero

/-- Both checks together. -/
lemma submittable_cases (fences : Fences ι κ) (inFences outFences : List ι) :
    (∃ ret, (ret = -EAGAIN ∨ ret = -EPERM) ∧
      (if fences.areWaiterSubmittable inFences ≠ 0 then fences.areWaiterSubmittable inFences
        else fences.areSignalerSubmittable outFences) = ret) ∨
    ((if fences.areWaiterSubmittable inFences ≠ 0 then fences.areWaiterSubmittable inFences
        else fences.areSignalerSubmittable outFences) = 0 ∧
      (∀ fence ∈ inFences, (fences.objects fence).fence.waiterSubmittable = 0) ∧
      ∀ fence ∈ outFences, (fences.objects fence).fence.signalerSubmittable = 0) := by
  rcases fences.areWaiterSubmittable_cases inFences with refused | ⟨admitted, waiters⟩
  · refine .inl ⟨_, refused, if_pos ?_⟩
    rcases refused with again | perm
    · rw [again]
      decide
    · rw [perm]
      decide
  · rw [if_neg (not_not.mpr admitted)]
    exact (fences.areSignalerSubmittable_cases outFences).imp (fun perm => ⟨_, .inr rfl, perm⟩)
      fun ⟨zero, signalers⟩ => ⟨zero, waiters, signalers⟩

variable [DecidableEq ι] {array : List ι}

lemma changeEach_objects (change : ι → FenceObject κ → FenceObject κ)
    (distinct : array.Nodup) (fence : ι) :
    (fences.changeEach change array).objects fence =
      if fence ∈ array then change fence (fences.objects fence) else fences.objects fence :=
  foldl_update_apply change array distinct fences.objects fence

lemma maskOf_waiterMasks {fence : ι} (inside : fence ∈ array) :
    maskOf array (fences.waiterMasks array) fence = (fences.objects fence).fence.waiters := by
  simp [maskOf, waiterMasks, getElem?_map, getElem?_idxOf inside]

/-- What a submission does to the objects: a waiter for each in-fence and a signaler for
each out-fence, each with the wakelocks taken for it. -/
def submittedObject (inFences outFences : List ι) (waiterIp : Ip) (fence : ι)
    (object : FenceObject κ) : FenceObject κ :=
  if fence ∈ inFences then
    (object.submitWaiterLocked waiterIp).countWakelocks fun ip => decide (ip = waiterIp)
  else if fence ∈ outFences then
    object.submitSignalerLocked.countWakelocks object.fence.waiters
  else object

variable {inFences outFences : List ι}

lemma submitLocked_objects {waiterIp : Ip}
    (inDistinct : inFences.Nodup) (outDistinct : outFences.Nodup)
    (apart : inFences.Disjoint outFences) (fence : ι) :
    (fences.submitLocked inFences outFences waiterIp (fences.waiterMasks outFences)).objects fence =
      submittedObject inFences outFences waiterIp fence (fences.objects fence) := by
  unfold submitLocked submittedObject
  simp only [changeEach_objects _ inDistinct, changeEach_objects _ outDistinct]
  by_cases input : fence ∈ inFences
  · have other : fence ∉ outFences := fun output => apart input output
    simp [input, other]
  · by_cases output : fence ∈ outFences
    · simp [input, output, maskOf_waiterMasks output]
    · simp [input, output]

/-- The wakelocks that a submission takes. -/
def submissionLocks (fences : Fences ι κ) (inFences outFences : List ι) (waiterIp : Ip) :
    Ip → Int :=
  inFences.length • Pi.single waiterIp 1 + ((fences.waiterMasks outFences).map maskLocks).sum

/-- With arrays that passed their checks the call fails and changes nothing, or submits. -/
lemma submitChecked_cases (fences : Fences ι κ) (acquire : ι → Ip → Int)
    (inFences outFences : List ι) (waiterIp : Ip) :
    (∃ ret, ret ≠ 0 ∧ fences.submitChecked acquire inFences outFences waiterIp = (ret, fences) ∧
      (ret = -EDEADLK → ∃ fence ip, acquire fence ip = -EDEADLK)) ∨
    ((∀ fence ∈ inFences, (fences.objects fence).fence.waiterSubmittable = 0) ∧
      (∀ fence ∈ outFences, (fences.objects fence).fence.signalerSubmittable = 0) ∧
      fences.submitChecked acquire inFences outFences waiterIp =
        (0, (fences.hold (fences.submissionLocks inFences outFences waiterIp)).submitLocked
          inFences outFences waiterIp (fences.waiterMasks outFences))) := by
  unfold submitChecked
  rcases fences.acquireBlockWakelocks_cases acquire inFences waiterIp with
    ⟨ret, failed, call, reason⟩ | ⟨inPresent, call⟩
  · refine .inl ⟨ret, failed, by simp [call, failed], ?_⟩
    rintro rfl
    obtain ⟨fence, -, same⟩ := reason.resolve_left (by decide)
    exact ⟨fence, waiterIp, same.symm⟩
  simp only [call, ne_eq, not_true_eq_false, if_false]
  rcases (fences.hold (inFences.length • Pi.single waiterIp 1)).acquireBlockWakelocksOfWaiters_cases
      acquire outFences with ⟨ret, masks, failed, call, reason⟩ | ⟨outPresent, call⟩
  · refine .inl ⟨ret, failed, ?_, ?_⟩
    · rw [call]
      simp [failed, releaseBlockWakelocks_eq inPresent]
    · rintro rfl
      obtain ⟨fence, -, ip, same⟩ := reason.resolve_left (by decide)
      exact ⟨fence, ip, same.symm⟩
  have taken : (inFences.length • Pi.single waiterIp 1 +
      ((fences.waiterMasks outFences).map maskLocks).sum : Ip → Int) =
    fences.submissionLocks inFences outFences waiterIp := rfl
  rw [waiterMasks_hold] at call outPresent
  simp only [call, not_true_eq_false, if_false, hold_hold, taken]
  rcases (fences.hold (fences.submissionLocks inFences outFences waiterIp)).submittable_cases
      inFences outFences with ⟨ret, refused, checked⟩ | ⟨checked, waiters, signalers⟩
  · have failed : ret ≠ 0 := by rcases refused with rfl | rfl <;> decide
    refine .inl ⟨ret, failed, ?_, ?_⟩
    · simp only [ne_eq] at checked
      rw [checked, if_pos failed, releaseBlockWakelocksOfWaiters_eq outPresent,
        releaseBlockWakelocks_eq inPresent]
      simp [submissionLocks]
    · rintro rfl
      exact absurd refused (by decide)
  · refine .inr ⟨waiters, signalers, ?_⟩
    simp only [ne_eq] at checked
    rw [checked, if_neg (not_not.mpr rfl)]

/-- No ID occurs twice in the two arrays together. -/
def DistinctIds (fences : Fences ι κ) (inFences outFences : List ι) : Prop :=
  ((inFences ++ outFences).map fences.id).Nodup

omit [DecidableEq ι] in
lemma sortById_eq (fences : Fences ι κ) (sorting : Sorting ι) (array : List ι) :
    fences.sortById sorting array = (if (array.map fences.id).Nodup then 0 else -EDEADLK,
        sorting.sort fences.id array) := by
  have same : (array.map fences.id).Nodup ↔
      repeats fences.id (sorting.sort fences.id array) = false := by
    rw [repeats_eq_false_iff (sorting.sorted fences.id array)]
    exact ((sorting.perm fences.id array).map fences.id).nodup_iff.symm
  unfold sortById
  by_cases distinct : (array.map fences.id).Nodup
  · simp [same.mp distinct, distinct]
  · have repeated := mt same.mpr distinct
    simp only [Bool.not_eq_false] at repeated
    simp [repeated, distinct]

omit [DecidableEq ι] in
lemma sort_pairwise_lt (sorting : Sorting ι) (distinct : (array.map fences.id).Nodup) :
    (sorting.sort fences.id array).Pairwise (fences.id · < fences.id ·) := by
  refine pairwise_lt_of_repeats (sorting.sorted fences.id array) ?_
  rw [repeats_eq_false_iff (sorting.sorted fences.id array)]
  exact ((sorting.perm fences.id array).map fences.id).nodup_iff.mpr distinct

omit [DecidableEq ι] in
lemma checkFenceUniqueness_eq_zero (sorting : Sorting ι)
    (inDistinct : (inFences.map fences.id).Nodup) (outDistinct : (outFences.map fences.id).Nodup) :
    fences.checkFenceUniqueness (sorting.sort fences.id inFences)
        (sorting.sort fences.id outFences) = 0 ↔ fences.DistinctIds inFences outFences := by
  have found := meets_iff (le_refl ((sorting.sort fences.id inFences).length +
    (sorting.sort fences.id outFences).length)) (sort_pairwise_lt sorting inDistinct)
    (sort_pairwise_lt sorting outDistinct)
  simp only [(sorting.perm fences.id inFences).mem_iff,
    (sorting.perm fences.id outFences).mem_iff] at found
  unfold checkFenceUniqueness DistinctIds
  rw [map_append, nodup_append']
  simp only [inDistinct, outDistinct, true_and, disjoint_iff_ne, mem_map]
  split
  · next met =>
      obtain ⟨input, inside, output, outside, same⟩ := found.mp met
      refine iff_of_false (by decide) fun apart => ?_
      exact apart _ ⟨input, inside, rfl⟩ _ ⟨output, outside, rfl⟩ same
  · next missed =>
      refine iff_of_true rfl ?_
      rintro _ ⟨input, inside, rfl⟩ _ ⟨output, outside, rfl⟩ same
      exact missed (found.mpr ⟨input, inside, output, outside, same⟩)

/-- The checks before the arrays are looked at. -/
def Admitted (env : SubmitEnv ι) (inFences : List ι) (waiterIp : Ip) : Prop :=
  (inFences = [] ∨ waiterIp.val < IIF_IP_NUM) ∧
    env.inFlags = true ∧ env.outFlags = true ∧ env.wakelockHeld = true

/-- The three ways through the checks of the call. -/
lemma submitSignalerAndWaiter_cases (fences : Fences ι κ) (sorting : Sorting ι)
    (env : SubmitEnv ι) (inFences outFences : List ι) (waiterIp : Ip) :
    (¬ Admitted env inFences waiterIp ∧ ∃ ret, (ret = -EINVAL ∨ ret = -ENOMEM) ∧
      fences.submitSignalerAndWaiter sorting env inFences outFences waiterIp = (ret, fences)) ∨
    (Admitted env inFences waiterIp ∧ ¬ fences.DistinctIds inFences outFences ∧
      fences.submitSignalerAndWaiter sorting env inFences outFences waiterIp = (-EDEADLK, fences)) ∨
    (Admitted env inFences waiterIp ∧ fences.DistinctIds inFences outFences ∧
      fences.submitSignalerAndWaiter sorting env inFences outFences waiterIp =
        fences.submitChecked env.acquire (sorting.sort fences.id inFences)
          (sorting.sort fences.id outFences) waiterIp) := by
  unfold submitSignalerAndWaiter
  by_cases invalid : inFences ≠ [] ∧ IIF_IP_NUM ≤ waiterIp.val
  · refine .inl ⟨fun admitted => ?_, -EINVAL, .inl rfl, if_pos invalid⟩
    exact admitted.1.elim invalid.1 (not_lt.mpr invalid.2)
  rw [if_neg invalid]
  by_cases unallocated : env.inFlags = false ∨ env.outFlags = false ∨ env.wakelockHeld = false
  · refine .inl ⟨fun admitted => ?_, -ENOMEM, .inr rfl, if_pos unallocated⟩
    simp [admitted.2] at unallocated
  rw [if_neg unallocated]
  have admitted : Admitted env inFences waiterIp :=
    ⟨by simpa [imp_iff_not_or] using invalid, by simpa using unallocated⟩
  simp only [sortById_eq]
  have wrong : (-EDEADLK : Int) ≠ 0 := by decide
  by_cases inDistinct : (inFences.map fences.id).Nodup
  · by_cases outDistinct : (outFences.map fences.id).Nodup
    · have unique := checkFenceUniqueness_eq_zero sorting inDistinct outDistinct
      by_cases distinct : fences.DistinctIds inFences outFences
      · refine .inr (.inr ⟨admitted, distinct, ?_⟩)
        simp [inDistinct, outDistinct, unique.mpr distinct]
      refine .inr (.inl ⟨admitted, distinct, ?_⟩)
      have refused := mt unique.mp distinct
      have value : fences.checkFenceUniqueness (sorting.sort fences.id inFences)
          (sorting.sort fences.id outFences) = -EDEADLK := by
        unfold checkFenceUniqueness at refused ⊢
        split at refused
        · next met => exact if_pos met
        · exact absurd rfl refused
      simp [inDistinct, outDistinct, value, wrong]
    · refine .inr (.inl ⟨admitted, fun distinct => outDistinct ?_, by
        simp [inDistinct, outDistinct, wrong]⟩)
      rw [DistinctIds, map_append] at distinct
      exact distinct.of_append_right
  · refine .inr (.inl ⟨admitted, fun distinct => inDistinct ?_, by simp [inDistinct, wrong]⟩)
    rw [DistinctIds, map_append] at distinct
    exact distinct.of_append_left

/-- A submission that has taken place. -/
structure Submitted (before after : Fences ι κ) (inFences outFences : List ι) (waiterIp : Ip) :
    Prop where
  waitersAllowed : ∀ fence ∈ inFences, (before.objects fence).fence.unsubmittedSignalers = 0 ∧
    (before.objects fence).fence.retired = false
  signalersAllowed : ∀ fence ∈ outFences, (before.objects fence).fence.unsubmittedSignalers ≠ 0 ∧
    (before.objects fence).fence.retired = false
  waiters : ∀ fence ∈ inFences, (after.objects fence).fence.outstandingWaiters =
      u16Inc (before.objects fence).fence.outstandingWaiters ∧
    (after.objects fence).fence.outstandingWaitersPerIp =
      Function.update (before.objects fence).fence.outstandingWaitersPerIp waiterIp
        (u16Inc ((before.objects fence).fence.outstandingWaitersPerIp waiterIp))
  signalers : ∀ fence ∈ outFences, (after.objects fence).fence.submittedSignalers =
    (before.objects fence).fence.submittedSignalers + 1
  objects : ∀ fence, after.objects fence =
    submittedObject inFences outFences waiterIp fence (before.objects fence)
  held : after.held = before.held + before.submissionLocks inFences outFences waiterIp

lemma submitWaiterLocked_waiters (object : FenceObject κ) (waiterIp : Ip) (mask : Ip → Bool) :
    ((object.submitWaiterLocked waiterIp).countWakelocks mask).fence.outstandingWaiters =
        u16Inc object.fence.outstandingWaiters ∧
      ((object.submitWaiterLocked waiterIp).countWakelocks mask).fence.outstandingWaitersPerIp =
        Function.update object.fence.outstandingWaitersPerIp waiterIp
          (u16Inc (object.fence.outstandingWaitersPerIp waiterIp)) := by
  simp only [FenceObject.countWakelocks, FenceObject.submitWaiterLocked, Fence.submitWaiterLocked]
  split <;> exact ⟨rfl, rfl⟩

lemma submitSignalerLocked_submitted (object : FenceObject κ) (mask : Ip → Bool) :
    (object.submitSignalerLocked.countWakelocks mask).fence.submittedSignalers =
      object.fence.submittedSignalers + 1 := by
  simp only [FenceObject.countWakelocks, FenceObject.submitSignalerLocked]
  split <;> rfl

/-- The submission of sorted arrays is that of the arrays the caller passed. -/
lemma submitted_of_sorted {sorting : Sorting ι} {waiterIp : Ip}
    (distinct : fences.DistinctIds inFences outFences)
    (waiters : ∀ fence ∈ sorting.sort fences.id inFences,
      (fences.objects fence).fence.waiterSubmittable = 0)
    (signalers : ∀ fence ∈ sorting.sort fences.id outFences,
      (fences.objects fence).fence.signalerSubmittable = 0) :
    Submitted fences ((fences.hold (fences.submissionLocks (sorting.sort fences.id inFences)
        (sorting.sort fences.id outFences) waiterIp)).submitLocked (sorting.sort fences.id inFences)
        (sorting.sort fences.id outFences) waiterIp
        (fences.waiterMasks (sorting.sort fences.id outFences))) inFences outFences waiterIp := by
  have inPerm := sorting.perm fences.id inFences
  have outPerm := sorting.perm fences.id outFences
  generalize sorting.sort fences.id inFences = inSorted at inPerm waiters ⊢
  generalize sorting.sort fences.id outFences = outSorted at outPerm signalers ⊢
  rw [DistinctIds, map_append, nodup_append'] at distinct
  obtain ⟨inDistinct, outDistinct, apart⟩ := distinct
  have separate : inFences.Disjoint outFences := fun fence input output =>
    apart (mem_map_of_mem input) (mem_map_of_mem output)
  have objects : ∀ fence, ((fences.hold (fences.submissionLocks inSorted outSorted waiterIp)
      ).submitLocked inSorted outSorted waiterIp (fences.waiterMasks outSorted)).objects fence =
      submittedObject inFences outFences waiterIp fence (fences.objects fence) := by
    intro fence
    have effect := @submitLocked_objects ι κ
      (fences.hold (fences.submissionLocks inSorted outSorted waiterIp)) _ inSorted outSorted waiterIp
      (inPerm.nodup_iff.mpr (.of_map _ inDistinct)) (outPerm.nodup_iff.mpr (.of_map _ outDistinct))
      (fun fence input output => separate (inPerm.mem_iff.mp input) (outPerm.mem_iff.mp output)) fence
    rw [waiterMasks_hold] at effect
    rw [effect]
    simp only [submittedObject, inPerm.mem_iff, outPerm.mem_iff]
    rfl
  refine ⟨fun fence inside => ?_, fun fence inside => ?_, fun fence inside => ?_,
    fun fence inside => ?_, objects, ?_⟩
  · exact Fence.waiterSubmittable_eq_zero.mp (waiters fence (inPerm.mem_iff.mpr inside))
  · exact Fence.signalerSubmittable_eq_zero.mp (signalers fence (outPerm.mem_iff.mpr inside))
  · rw [objects, submittedObject, if_pos inside]
    exact submitWaiterLocked_waiters _ waiterIp _
  · have other : fence ∉ inFences := fun input => separate input inside
    rw [objects, submittedObject, if_neg other, if_pos inside]
    exact submitSignalerLocked_submitted _ _
  · have masks : (fences.waiterMasks outSorted).Perm (fences.waiterMasks outFences) :=
      outPerm.map _
    show fences.held + _ = _
    rw [submissionLocks, submissionLocks, inPerm.length_eq, (masks.map maskLocks).sum_eq]

/-- A failed submission changes nothing; one that returns 0 has found every fence ready
and has submitted to all of them; `-EDEADLK` answers repeated IDs, and else only passes
on what an IP's operator returned. -/
theorem submitSignalerAndWaiter_atomic (fences : Fences ι κ) (sorting : Sorting ι)
    (env : SubmitEnv ι) (inFences outFences : List ι) (waiterIp : Ip) :
    ((fences.submitSignalerAndWaiter sorting env inFences outFences waiterIp).1 ≠ 0 →
      (fences.submitSignalerAndWaiter sorting env inFences outFences waiterIp).2 = fences) ∧
    ((fences.submitSignalerAndWaiter sorting env inFences outFences waiterIp).1 = 0 →
      Submitted fences (fences.submitSignalerAndWaiter sorting env inFences outFences waiterIp).2
        inFences outFences waiterIp) ∧
    (Admitted env inFences waiterIp → ¬ fences.DistinctIds inFences outFences →
      (fences.submitSignalerAndWaiter sorting env inFences outFences waiterIp).1 = -EDEADLK) ∧
    ((fences.submitSignalerAndWaiter sorting env inFences outFences waiterIp).1 = -EDEADLK →
      Admitted env inFences waiterIp ∧ (¬ fences.DistinctIds inFences outFences ∨
        ∃ fence ip, env.acquire fence ip = -EDEADLK)) := by
  rcases fences.submitSignalerAndWaiter_cases sorting env inFences outFences waiterIp with
    ⟨refused, ret, reason, result⟩ | ⟨admitted, repeated, result⟩ | ⟨admitted, distinct, result⟩
  · have failed : ret ≠ 0 ∧ ret ≠ -EDEADLK := by rcases reason with rfl | rfl <;> decide
    rw [result]
    exact ⟨fun _ => rfl, fun zero => absurd zero failed.1,
      fun admitted => absurd admitted refused, fun dead => absurd dead failed.2⟩
  · have failed : -EDEADLK ≠ 0 := by decide
    rw [result]
    exact ⟨fun _ => rfl, fun zero => absurd zero failed, fun _ _ => rfl,
      fun _ => ⟨admitted, .inl repeated⟩⟩
  · rw [result]
    rcases fences.submitChecked_cases env.acquire (sorting.sort fences.id inFences)
        (sorting.sort fences.id outFences) waiterIp with
      ⟨ret, failed, call, reason⟩ | ⟨waiters, signalers, call⟩
    · rw [call]
      exact ⟨fun _ => rfl, fun zero => absurd zero failed,
        fun _ repeated => absurd distinct repeated, fun dead => ⟨admitted, .inr (reason dead)⟩⟩
    · have passed : (0 : Int) ≠ -EDEADLK := by decide
      rw [call]
      exact ⟨fun nonzero => absurd rfl nonzero,
        fun _ => submitted_of_sorted distinct waiters signalers,
        fun _ repeated => absurd distinct repeated, fun dead => absurd dead passed⟩

end Fences

/-- Sorting by insertion. -/
def Sorting.insertion : Sorting ι where
  sort id fences := fences.insertionSort (id · ≤ id ·)
  perm _ fences := fences.perm_insertionSort _
  sorted id fences :=
    have : Std.Total (fun first second : ι => id first ≤ id second) := ⟨fun _ _ => le_total _ _⟩
    have : IsTrans ι (fun first second => id first ≤ id second) := ⟨fun _ _ _ => le_trans⟩
    fences.pairwise_insertionSort _

/-- Fences with one signaler each: those with an even ID have it submitted, those with an
odd ID wait for it and have IP 2 as a waiter. -/
def evenSubmitted : Fences Nat Nat where
  objects id :=
    ⟨id, { initWithParams ⟨.singleShot, ⟨false, false, true⟩, false, 1,
        fun ip => decide (ip = 2 ∧ id % 2 = 1), true⟩ with
      submittedSignalers := if id % 2 = 0 then 1 else 0 }, [id], []⟩
  held := 0

theorem submitSignalerAndWaiter_evenSubmitted :
    (evenSubmitted.submitSignalerAndWaiter .insertion ⟨true, true, true, fun _ _ => 0⟩
      [6, 4] [3, 5] 1).1 = 0 ∧
    Fences.Submitted evenSubmitted (evenSubmitted.submitSignalerAndWaiter .insertion
      ⟨true, true, true, fun _ _ => 0⟩ [6, 4] [3, 5] 1).2 [6, 4] [3, 5] 1 := by
  have passed : (evenSubmitted.submitSignalerAndWaiter .insertion
      ⟨true, true, true, fun _ _ => 0⟩ [6, 4] [3, 5] 1).1 = 0 := by decide +kernel
  exact ⟨passed, (evenSubmitted.submitSignalerAndWaiter_atomic .insertion
    ⟨true, true, true, fun _ _ => 0⟩ [6, 4] [3, 5] 1).2.1 passed⟩

/-- The error of an IP's operator is passed on, so `-EDEADLK` can come from there too. -/
theorem submitSignalerAndWaiter_passes_error :
    (evenSubmitted.submitSignalerAndWaiter .insertion ⟨true, true, true, fun _ _ => -EDEADLK⟩
      [4] [3] 1).1 = -EDEADLK ∧
    Fences.Admitted (⟨true, true, true, fun _ _ => -EDEADLK⟩ : SubmitEnv Nat) [4] 1 ∧
    evenSubmitted.DistinctIds [4] [3] := by
  refine ⟨by decide +kernel, ⟨.inr (by decide), rfl, rfl, rfl⟩, ?_⟩
  unfold Fences.DistinctIds
  decide +kernel

end GsKernel.Iif
