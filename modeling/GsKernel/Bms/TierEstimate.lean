import GsKernel.Bms.Eeprom
import GsKernel.Bms.StorageProviders

/-!
# Time to full from the charge tiers

`ttf_tier_estimate` passes a pointer to the current tier to `ttf_tier_accumulate`, which indexes
it once more with the numbers of the tiers that follow.
-/

namespace GsKernel.Bms

abbrev GBMS_STATS_TIER_COUNT : Nat := 3

/-- What the estimate reads of a `struct ttf_tier_stat`. -/
structure TtfTierStat where
  ccTotal : BitVec 32
  avgTime : BitVec 64

/-- `BATT_TTF_TS_VALID`. -/
def TtfTierStat.valid (ts : TtfTierStat) : Bool := decide (ts.ccTotal ≠ 0 ∧ ts.avgTime ≠ 0)

abbrev TierStats := Fin GBMS_STATS_TIER_COUNT → TtfTierStat

/-- An entry of `tier_stats`, or `none` outside of it. -/
def TierStats.entry (stats : TierStats) (index : Nat) : Option TtfTierStat :=
  if inside : index < GBMS_STATS_TIER_COUNT then some (stats ⟨index, inside⟩) else none

/-- The loop of `ttf_tier_accumulate`, with `left` rounds to go. The pointer `ts` is an index of
`tier_stats`. -/
def tierLoop (stats : TierStats) (ts : Nat) : Nat → Nat → BitVec 64 → Option (BitVec 64)
  | 0, _, estimate => some estimate
  | left + 1, vbattIdx, estimate => do
    let current ← stats.entry ts
    if current.valid then
      let tier ← stats.entry (ts + vbattIdx)
      tierLoop stats ts left (vbattIdx + 1) (estimate + tier.avgTime)
    else some (BitVec.ofInt 64 (-ENODATA))

/-- `ttf_tier_accumulate`. -/
def ttfTierAccumulate (stats : TierStats) (ts vbattIdx : Nat) : Option (BitVec 64) :=
  if vbattIdx ≥ GBMS_STATS_TIER_COUNT then some 0
  else tierLoop stats ts (GBMS_STATS_TIER_COUNT - vbattIdx) vbattIdx 0

/-- `ttf_tier_estimate`: an error or the estimate, or `none` if it reads outside of
`tier_stats`. -/
def ttfTierEstimate (stats : TierStats) (tempIdx vbattIdx : Int) :
    Option (Except Int (BitVec 64)) :=
  if vbattIdx = -1 ∧ tempIdx = -1 then some (.error (-EINVAL))
  else if vbattIdx < 0 then none
  else do
    let current ← stats.entry vbattIdx.toNat
    if current.valid then
      let estimate ← ttfTierAccumulate stats vbattIdx.toNat (vbattIdx.toNat + 1)
      some (if estimate.toInt < 0 then .error (-ENODATA) else .ok estimate)
    else some (.error (-ENODATA))

/-- The tiers from the current one on have data. -/
def TierStats.HaveData (stats : TierStats) (vbattIdx : Fin GBMS_STATS_TIER_COUNT) : Prop :=
  ∀ tier, vbattIdx ≤ tier → (stats tier).valid = true

/-- The time of the tiers after the current one. -/
def TierStats.remaining (stats : TierStats) (vbattIdx : Fin GBMS_STATS_TIER_COUNT) : Int :=
  ∑ tier, if vbattIdx < tier then (stats tier).avgTime.toInt else 0

/-- The estimate is the time of the tiers after the current one if all have data, and an error
otherwise. -/
def SumsTiers (stats : TierStats) (tempIdx : Int) (vbattIdx : Fin GBMS_STATS_TIER_COUNT) : Prop :=
  (stats.HaveData vbattIdx → ∃ res, ttfTierEstimate stats tempIdx vbattIdx = some (.ok res) ∧
    res.toInt = stats.remaining vbattIdx) ∧
  (¬ stats.HaveData vbattIdx → ttfTierEstimate stats tempIdx vbattIdx = some (.error (-ENODATA)))

variable (stats : TierStats) (tempIdx : Int)

lemma ttfTierEstimate_first : ttfTierEstimate stats tempIdx 0 = if (stats 0).valid then
      let estimate := (stats 1).avgTime + (stats 2).avgTime
      some (if estimate.toInt < 0 then .error (-ENODATA) else .ok estimate)
    else some (.error (-ENODATA)) := by
  cases valid : (stats 0).valid <;>
    simp [ttfTierEstimate, ttfTierAccumulate, tierLoop, TierStats.entry, GBMS_STATS_TIER_COUNT, valid]

lemma ttfTierEstimate_second : ttfTierEstimate stats tempIdx 1 =
    if (stats 1).valid then none else some (.error (-ENODATA)) := by
  cases valid : (stats 1).valid <;>
    simp [ttfTierEstimate, ttfTierAccumulate, tierLoop, TierStats.entry, GBMS_STATS_TIER_COUNT, valid]

lemma ttfTierEstimate_last : ttfTierEstimate stats tempIdx 2 =
    some (if (stats 2).valid then .ok 0 else .error (-ENODATA)) := by
  cases valid : (stats 2).valid <;>
    simp [ttfTierEstimate, ttfTierAccumulate, TierStats.entry, GBMS_STATS_TIER_COUNT, valid]

/-- In the first tier the estimate sums the others, with or without data. -/
lemma sumsTiers_first (valid : (stats 0).valid = true) : SumsTiers stats tempIdx 0 ↔
      stats.HaveData 0 ∧ 0 ≤ stats.remaining 0 ∧ stats.remaining 0 < 2 ^ 63 ∨
        ¬ stats.HaveData 0 ∧ ((stats 1).avgTime + (stats 2).avgTime).toInt < 0 := by
  have estimate := (ttfTierEstimate_first stats tempIdx).trans (if_pos valid)
  have high := (stats 1).avgTime.toInt_lt
  have lowNext := (stats 2).avgTime.le_toInt
  have highNext := (stats 2).avgTime.toInt_lt
  have sum : stats.remaining 0 = (stats 1).avgTime.toInt + (stats 2).avgTime.toInt := by
    simp [TierStats.remaining, Fin.sum_univ_succ]
  have wrapped := BitVec.toInt_add (stats 1).avgTime (stats 2).avgTime
  rw [Int.bmod_def] at wrapped
  change (_ → ∃ res, ttfTierEstimate stats tempIdx 0 = _ ∧ _) ∧
    (_ → ttfTierEstimate stats tempIdx 0 = _) ↔ _
  rw [estimate]
  by_cases data : stats.HaveData 0
  · simp only [data, true_and, not_true_eq_false, false_and, or_false, forall_const, false_imp_iff,
      and_true]
    constructor
    · rintro ⟨res, isRes, total⟩
      split_ifs at isRes with negative
      · cases isRes
      · obtain rfl := Except.ok.inj (Option.some.inj isRes)
        omega
    · rintro ⟨nonneg, small⟩
      exact ⟨_, by rw [if_neg (by omega)], by omega⟩
  · simp [data]

/-- The estimate sums the remaining tiers exactly if the current tier has no data or is the last
one, or it is the first one and the sum is a time, that of tiers which all have data, or else
negative. -/
theorem ttf_tier_estimate_sums_iff (stats : TierStats) (tempIdx : Int)
    (vbattIdx : Fin GBMS_STATS_TIER_COUNT) :
    SumsTiers stats tempIdx vbattIdx ↔
      (stats vbattIdx).valid = false ∨ vbattIdx = 2 ∨ vbattIdx = 0 ∧
        (stats.HaveData 0 ∧ 0 ≤ stats.remaining 0 ∧ stats.remaining 0 < 2 ^ 63 ∨
          ¬ stats.HaveData 0 ∧ ((stats 1).avgTime + (stats 2).avgTime).toInt < 0) := by
  cases valid : (stats vbattIdx).valid with
  | false =>
    have missing : ¬ stats.HaveData vbattIdx := fun data => by simp [data vbattIdx le_rfl] at valid
    refine iff_of_true ⟨fun data => absurd data missing, fun _ => ?_⟩ (.inl rfl)
    have refused := ne_true_of_eq_false valid
    fin_cases vbattIdx
    · exact (ttfTierEstimate_first stats tempIdx).trans (if_neg refused)
    · exact (ttfTierEstimate_second stats tempIdx).trans (if_neg refused)
    · exact (ttfTierEstimate_last stats tempIdx).trans (congrArg some (if_neg refused))
  | true =>
    fin_cases vbattIdx
    · simpa using sumsTiers_first stats tempIdx valid
    · have outside := (ttfTierEstimate_second stats tempIdx).trans (if_pos valid)
      refine iff_of_false (fun sums => ?_) (by simp)
      by_cases data : stats.HaveData 1
      · obtain ⟨res, read, -⟩ := sums.1 data
        exact absurd (outside.symm.trans read) nofun
      · exact absurd (outside.symm.trans (sums.2 data)) nofun
    · have last : stats.HaveData 2 := fun tier later => by
        obtain rfl : tier = 2 := le_antisymm (Fin.le_last tier) later
        exact valid
      refine iff_of_true ⟨fun _ => ⟨0, ?_, ?_⟩, fun missing => absurd last missing⟩ (.inr (.inl rfl))
      · exact (ttfTierEstimate_last stats tempIdx).trans (congrArg some (if_pos valid))
      · exact (Finset.sum_eq_zero fun tier _ => if_neg (not_lt.mpr (Fin.le_last tier))).symm

/-- In the first tier a tier without data is left out; in the second one the tier after the end of
the array is read. -/
theorem ttf_tier_estimate_differs :
    ttfTierEstimate (fun tier => if tier = 1 then ⟨0, 0⟩ else ⟨1, 1⟩) 0 0 = some (.ok 1) ∧
      ttfTierEstimate (fun _ => ⟨1, 1⟩) 0 1 = none := by
  decide

end GsKernel.Bms
