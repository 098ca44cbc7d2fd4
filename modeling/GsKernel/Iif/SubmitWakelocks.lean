import GsKernel.Iif.Submit

/-!
# Wakelocks of a submission

Taking and releasing wakelocks only moves the counts of `held`. What the loops take
they report exactly, in the index or in the masks they leave behind, so releasing by
these reports moves the counts back: either all wakelocks of an array are taken, or
the call fails and none is.
-/

namespace GsKernel.Iif

open Function Lib.SortedScan List

variable {ι κ : Type*}

namespace Fences

/-- The same fences with more wakelocks held. -/
def hold (fences : Fences ι κ) (locks : Ip → Int) : Fences ι κ :=
  { fences with held := fences.held + locks }

/-- One wakelock of each IP of a mask. -/
def maskLocks (mask : Ip → Bool) : Ip → Int := fun ip => if mask ip then 1 else 0

variable {fences : Fences ι κ}

@[simp]
lemma hold_zero : fences.hold 0 = fences := by
  simp [hold]

@[simp]
lemma hold_hold (first second : Ip → Int) :
    (fences.hold first).hold second = fences.hold (first + second) := by
  simp [hold, add_assoc]

lemma update_eq_add_single (held : Ip → Int) (ip : Ip) (locks : Int) :
    update held ip (held ip + locks) = held + Pi.single ip locks := by
  ext other
  by_cases same : other = ip
  · subst same
    simp
  · simp [same]

/-- An acquire call fails and changes nothing, or takes one wakelock of an IP that exists. -/
lemma acquireBlockWakelock_cases (fences : Fences ι κ) (outcome : Int) (ip : Ip) :
    (∃ ret, ret ≠ 0 ∧ fences.acquireBlockWakelock outcome ip = (ret, fences) ∧
      (ret = -EINVAL ∨ ret = outcome)) ∨
    (ip.val < IIF_IP_NUM ∧
      fences.acquireBlockWakelock outcome ip = (0, fences.hold (Pi.single ip 1))) := by
  unfold acquireBlockWakelock
  split_ifs with absent taken
  · exact .inl ⟨-EINVAL, by decide, rfl, .inl rfl⟩
  · refine .inr ⟨not_le.mp absent, ?_⟩
    rw [update_eq_add_single]
    rfl
  · exact .inl ⟨outcome, taken, rfl, .inr rfl⟩

variable {ip : Ip}

lemma releaseBlockWakelock_eq (present : ip.val < IIF_IP_NUM) :
    fences.releaseBlockWakelock ip = fences.hold (-Pi.single ip 1) := by
  unfold releaseBlockWakelock
  rw [if_neg (not_le.mpr present), sub_eq_add_neg, update_eq_add_single, Pi.single_neg]
  rfl

lemma releaseBlockWakelocks_eq {array : List ι} (present : array ≠ [] → ip.val < IIF_IP_NUM) :
    fences.releaseBlockWakelocks array ip = fences.hold (-(array.length • Pi.single ip 1)) := by
  unfold releaseBlockWakelocks
  rw [← length_reverse]
  replace present : array.reverse ≠ [] → ip.val < IIF_IP_NUM := by simpa using present
  generalize array.reverse = reversed at present ⊢
  induction reversed generalizing fences with
  | nil => simp
  | cons fence rest ih =>
    have real := present (cons_ne_nil _ _)
    rw [foldl_cons, releaseBlockWakelock_eq real, ih fun _ => real,
      hold_hold, length_cons, succ_nsmul, neg_add, add_comm]

/-- What the loop over the in-fences reports: its `i` counts the wakelocks it has taken. -/
structure LoopReport (acquire : ι → Ip → Int) (ip : Ip) (array : List ι) (fences : Fences ι κ)
    (report : Int × Nat × Fences ι κ) : Prop where
  taken : report.2.2 = fences.hold (report.2.1 • Pi.single ip 1)
  within : report.2.1 ≤ array.length
  present : report.2.1 ≠ 0 → ip.val < IIF_IP_NUM
  complete : report.1 = 0 → report.2.1 = array.length
  failure : report.1 = 0 ∨ report.1 = -EINVAL ∨ ∃ fence ∈ array, report.1 = acquire fence ip

lemma acquireLoop_report (acquire : ι → Ip → Int) (ip : Ip) (array : List ι) (fences : Fences ι κ) :
    LoopReport acquire ip array fences (acquireLoop acquire ip array fences) := by
  induction array generalizing fences with
  | nil => constructor <;> simp [acquireLoop]
  | cons fence rest ih =>
    rcases fences.acquireBlockWakelock_cases (acquire fence ip) ip with
      ⟨ret, failed, call, reason⟩ | ⟨present, call⟩
    · have report : acquireLoop acquire ip (fence :: rest) fences = (ret, 0, fences) := by
        simp [acquireLoop, call, failed]
      rw [report]
      refine ⟨by simp, by simp, by simp, fun zero => absurd zero failed, .inr ?_⟩
      exact reason.imp_right fun same => ⟨fence, mem_cons_self, same⟩
    · obtain ⟨taken, within, -, complete, failure⟩ :=
        ih (fences.hold (Pi.single ip 1))
      have report : acquireLoop acquire ip (fence :: rest) fences =
          ((acquireLoop acquire ip rest (fences.hold (Pi.single ip 1))).1,
            (acquireLoop acquire ip rest (fences.hold (Pi.single ip 1))).2.1 + 1,
            (acquireLoop acquire ip rest (fences.hold (Pi.single ip 1))).2.2) := by
        simp [acquireLoop, call]
      rw [report]
      refine ⟨?_, Nat.succ_le_succ within, fun _ => present, fun zero => ?_, ?_⟩
      · rw [taken, hold_hold, succ_nsmul, add_comm]
      · simp [complete zero]
      · refine failure.imp_right (Or.imp_right ?_)
        rintro ⟨other, inside, same⟩
        exact ⟨other, mem_cons_of_mem _ inside, same⟩

/-- Taking the wakelocks of the in-fences: all of them or none. -/
lemma acquireBlockWakelocks_cases (fences : Fences ι κ) (acquire : ι → Ip → Int)
    (array : List ι) (ip : Ip) :
    (∃ ret, ret ≠ 0 ∧ fences.acquireBlockWakelocks acquire array ip = (ret, fences) ∧
      (ret = -EINVAL ∨ ∃ fence ∈ array, ret = acquire fence ip)) ∨
    ((array ≠ [] → ip.val < IIF_IP_NUM) ∧ fences.acquireBlockWakelocks acquire array ip =
      (0, fences.hold (array.length • Pi.single ip 1))) := by
  obtain ⟨taken, within, present, complete, failure⟩ := acquireLoop_report acquire ip array fences
  unfold acquireBlockWakelocks
  generalize acquireLoop acquire ip array fences = report at taken within present complete failure
  obtain ⟨ret, i, after⟩ := report
  dsimp only at taken within present complete failure ⊢
  by_cases zero : ret = 0
  · obtain rfl := complete zero
    refine .inr ⟨fun nonempty => present (by simpa using nonempty), ?_⟩
    rw [if_neg (not_not.mpr zero), taken, zero]
  · refine .inl ⟨ret, zero, ?_, failure.resolve_left zero⟩
    have taking : array.take i ≠ [] → ip.val < IIF_IP_NUM := fun some => present fun none => by
      simp [none] at some
    rw [if_pos zero, releaseBlockWakelocks_eq taking, taken, hold_hold, length_take,
      Nat.min_eq_left within, add_neg_cancel, hold_zero]

variable {mask : Ip → Bool}

lemma maskLocks_update (fresh : mask ip = false) :
    maskLocks (update mask ip true) = maskLocks mask + Pi.single ip 1 := by
  ext other
  by_cases same : other = ip
  · subst same
    simp [maskLocks, fresh]
  · simp [maskLocks, same]

lemma mem_maskIps : ip ∈ maskIps mask ↔ mask ip = true := by
  simp [maskIps]

lemma nodup_maskIps (mask : Ip → Bool) : (maskIps mask).Nodup :=
  (nodup_finRange 16).filter _

/-- Releasing the IPs of a list one by one. -/
lemma foldl_releaseBlockWakelock {ips : List Ip} (distinct : ips.Nodup)
    (present : ∀ ip ∈ ips, ip.val < IIF_IP_NUM) :
    ips.foldl releaseBlockWakelock fences =
      fences.hold (-maskLocks fun ip => decide (ip ∈ ips)) := by
  induction ips generalizing fences with
  | nil =>
    have none : maskLocks (fun ip => decide (ip ∈ ([] : List Ip))) = 0 := by
      ext ip
      simp [maskLocks]
    rw [none, neg_zero, hold_zero]
    rfl
  | cons ip rest ih =>
    obtain ⟨absent, others⟩ := nodup_cons.mp distinct
    obtain ⟨real, reals⟩ := forall_mem_cons.mp present
    have mask : (fun other => decide (other ∈ ip :: rest)) =
        update (fun other => decide (other ∈ rest)) ip true := by
      ext other
      by_cases same : other = ip <;> simp [same]
    rw [foldl_cons, releaseBlockWakelock_eq real, ih others reals, hold_hold,
      mask, maskLocks_update (by simpa using absent), neg_add, add_comm]

lemma releaseMask_eq (present : ∀ ip, mask ip = true → ip.val < IIF_IP_NUM) :
    fences.releaseMask mask = fences.hold (-maskLocks mask) := by
  have same : (fun ip => decide (ip ∈ maskIps mask)) = mask := by
    ext ip
    simp [mem_maskIps]
  have released := @foldl_releaseBlockWakelock ι κ fences (maskIps mask) (nodup_maskIps mask)
    fun ip inside => present ip (mem_maskIps.mp inside)
  rwa [same] at released

lemma releaseBlockWakelocksOfWaiters_eq {masks : List (Ip → Bool)}
    (present : ∀ mask ∈ masks, ∀ ip, mask ip = true → ip.val < IIF_IP_NUM) :
    fences.releaseBlockWakelocksOfWaiters masks = fences.hold (-(masks.map maskLocks).sum) := by
  unfold releaseBlockWakelocksOfWaiters
  rw [← sum_reverse, ← map_reverse]
  replace present : ∀ mask ∈ masks.reverse, ∀ ip, mask ip = true → ip.val < IIF_IP_NUM := by
    simpa using present
  generalize masks.reverse = reversed at present ⊢
  induction reversed generalizing fences with
  | nil => simp
  | cons mask rest ih =>
    obtain ⟨real, reals⟩ := forall_mem_cons.mp present
    rw [foldl_cons, releaseMask_eq real, ih reals, hold_hold,
      map_cons, sum_cons, neg_add]

/-- What the loop over the waiters of one out-fence reports: its mask records the
wakelocks it has taken. -/
structure MaskReport (acquire : Ip → Int) (ips : List Ip) (mask : Ip → Bool) (fences : Fences ι κ)
    (report : Int × (Ip → Bool) × Fences ι κ) : Prop where
  taken : report.2.2 = fences.hold (maskLocks report.2.1 - maskLocks mask)
  present : ∀ ip, report.2.1 ip = true → mask ip = true ∨ ip.val < IIF_IP_NUM
  complete : report.1 = 0 → ∀ ip, report.2.1 ip = (mask ip || decide (ip ∈ ips))
  failure : report.1 = 0 ∨ report.1 = -EINVAL ∨ ∃ ip ∈ ips, report.1 = acquire ip

lemma acquireIps_report (acquire : Ip → Int) (ips : List Ip) (mask : Ip → Bool)
    (fences : Fences ι κ) (distinct : ips.Nodup) (fresh : ∀ ip ∈ ips, mask ip = false) :
    MaskReport acquire ips mask fences (acquireIps acquire ips mask fences) := by
  induction ips generalizing mask fences with
  | nil => constructor <;> simp +contextual [acquireIps]
  | cons ip rest ih =>
    obtain ⟨absent, others⟩ := nodup_cons.mp distinct
    obtain ⟨free, frees⟩ := forall_mem_cons.mp fresh
    rcases fences.acquireBlockWakelock_cases (acquire ip) ip with
      ⟨ret, failed, call, reason⟩ | ⟨real, call⟩
    · have report : acquireIps acquire (ip :: rest) mask fences = (ret, mask, fences) := by
        simp [acquireIps, call, failed]
      rw [report]
      refine ⟨by simp, fun _ => .inl, fun zero => absurd zero failed, .inr ?_⟩
      exact reason.imp_right fun same => ⟨ip, mem_cons_self, same⟩
    · have report : acquireIps acquire (ip :: rest) mask fences =
          acquireIps acquire rest (update mask ip true) (fences.hold (Pi.single ip 1)) := by
        simp [acquireIps, call]
      have unset : ∀ other ∈ rest, update mask ip true other = false := by
        intro other inside
        have apart : other ≠ ip := fun same => absent (same ▸ inside)
        simp [apart, frees other inside]
      obtain ⟨taken, present, complete, failure⟩ := ih
        (update mask ip true) (fences.hold (Pi.single ip 1)) others unset
      rw [report]
      refine ⟨?_, fun other set => ?_, fun zero other => ?_, ?_⟩
      · rw [taken, hold_hold, maskLocks_update free]
        congr 1
        abel
      · by_cases same : other = ip
        · exact .inr (same ▸ real)
        · simpa [same] using present other set
      · rw [complete zero other]
        by_cases same : other = ip <;> simp [same]
      · refine failure.imp_right (Or.imp_right ?_)
        rintro ⟨other, inside, same⟩
        exact ⟨other, mem_cons_of_mem _ inside, same⟩

/-- The masks of waiters of an array. -/
def waiterMasks (fences : Fences ι κ) (array : List ι) : List (Ip → Bool) :=
  array.map fun fence => (fences.objects fence).fence.waiters

lemma waiterMasks_hold (locks : Ip → Int) (array : List ι) :
    (fences.hold locks).waiterMasks array = fences.waiterMasks array := rfl

/-- What the loop over the out-fences reports: one mask for each fence it has visited. -/
structure WaitersReport (acquire : ι → Ip → Int) (array : List ι) (fences : Fences ι κ)
    (report : Int × List (Ip → Bool) × Fences ι κ) : Prop where
  taken : report.2.2 = fences.hold (report.2.1.map maskLocks).sum
  present : ∀ mask ∈ report.2.1, ∀ ip, mask ip = true → ip.val < IIF_IP_NUM
  complete : report.1 = 0 → report.2.1 = fences.waiterMasks array
  failure : report.1 = 0 ∨ report.1 = -EINVAL ∨ ∃ fence ∈ array, ∃ ip, report.1 = acquire fence ip

lemma acquireWaitersLoop_report (acquire : ι → Ip → Int) (array : List ι) (fences : Fences ι κ) :
    WaitersReport acquire array fences (acquireWaitersLoop acquire array fences) := by
  induction array generalizing fences with
  | nil => constructor <;> simp [acquireWaitersLoop, waiterMasks]
  | cons fence rest ih =>
    have first := acquireIps_report (acquire fence)
      (maskIps (fences.objects fence).fence.waiters) (fun _ => false) fences (nodup_maskIps _)
      fun _ _ => rfl
    have visit : acquireWaitersLoop acquire (fence :: rest) fences =
        let report := acquireIps (acquire fence) (maskIps (fences.objects fence).fence.waiters)
          (fun _ => false) fences
        if report.1 ≠ 0 then (report.1, [report.2.1], report.2.2)
        else
          ((acquireWaitersLoop acquire rest report.2.2).1,
            report.2.1 :: (acquireWaitersLoop acquire rest report.2.2).2.1,
            (acquireWaitersLoop acquire rest report.2.2).2.2) := rfl
    rw [visit]
    generalize acquireIps (acquire fence) (maskIps (fences.objects fence).fence.waiters)
      (fun _ => false) fences = report at first
    obtain ⟨ret, mask, after⟩ := report
    obtain ⟨taken, present, complete, failure⟩ := first
    have none : maskLocks (fun _ => false) = 0 := rfl
    dsimp only at taken present complete failure ⊢
    rw [none, sub_zero] at taken
    have real : ∀ ip, mask ip = true → ip.val < IIF_IP_NUM :=
      fun ip set => (present ip set).resolve_left (by simp)
    by_cases zero : ret = 0
    · obtain ⟨takens, presents, completes, failures⟩ := ih after
      rw [if_neg (not_not.mpr zero)]
      have same : mask = (fences.objects fence).fence.waiters := by
        ext ip
        simp [complete zero ip, mem_maskIps]
      refine ⟨?_, ?_, fun done => ?_, ?_⟩
      · rw [takens, taken, hold_hold, map_cons, sum_cons]
      · exact forall_mem_cons.mpr ⟨real, presents⟩
      · have others := completes done
        rw [taken] at others
        exact congrArg₂ cons same (by rw [taken]; exact others)
      · refine failures.imp_right (Or.imp_right ?_)
        rintro ⟨other, inside, reason⟩
        exact ⟨other, mem_cons_of_mem _ inside, reason⟩
    · rw [if_pos zero]
      refine ⟨by simpa using taken, by simpa using real, fun done => absurd done zero, ?_⟩
      refine failure.imp_right (Or.imp_right ?_)
      rintro ⟨ip, -, reason⟩
      exact ⟨fence, mem_cons_self, ip, reason⟩

/-- Taking the wakelocks of the waiters of the out-fences: all of them or none. -/
lemma acquireBlockWakelocksOfWaiters_cases (fences : Fences ι κ) (acquire : ι → Ip → Int)
    (array : List ι) :
    (∃ ret masks, ret ≠ 0 ∧
      fences.acquireBlockWakelocksOfWaiters acquire array = (ret, masks, fences) ∧
      (ret = -EINVAL ∨ ∃ fence ∈ array, ∃ ip, ret = acquire fence ip)) ∨
    ((∀ mask ∈ fences.waiterMasks array, ∀ ip, mask ip = true → ip.val < IIF_IP_NUM) ∧
      fences.acquireBlockWakelocksOfWaiters acquire array =
        (0, fences.waiterMasks array, fences.hold ((fences.waiterMasks array).map maskLocks).sum)) := by
  obtain ⟨taken, present, complete, failure⟩ := acquireWaitersLoop_report acquire array fences
  unfold acquireBlockWakelocksOfWaiters
  generalize acquireWaitersLoop acquire array fences = report at taken present complete failure
  obtain ⟨ret, masks, after⟩ := report
  dsimp only at taken present complete failure ⊢
  by_cases zero : ret = 0
  · obtain rfl := complete zero
    refine .inr ⟨present, ?_⟩
    rw [if_neg (not_not.mpr zero), taken, zero]
  · refine .inl ⟨ret, masks, zero, ?_, failure.resolve_left zero⟩
    rw [if_pos zero, releaseBlockWakelocksOfWaiters_eq present, taken, hold_hold, add_neg_cancel,
      hold_zero]

end Fences

end GsKernel.Iif
