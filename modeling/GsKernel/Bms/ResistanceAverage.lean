import GsKernel.Lib.Runs

/-!
# The average of the battery's resistance

`batt_res_update` weighs the old average with a count that comes from storage, and limits the
count to `estimate_filter` only afterwards. The values are small enough for `int`.
-/

namespace GsKernel.Bms

/-- What `struct batt_res` keeps between two estimates. -/
structure BattRes where
  resistanceAvg : Nat
  filterCount : Nat

/-- The samples of an estimate, and whether the data is loaded again after it is saved. -/
structure Sampling where
  accumulator : Nat
  count : ℕ+
  reload : Bool

/-- `batt_ravg_write`: what is stored as `RAVG` and `RFCN`. -/
def battRavgWrite (rstate : BattRes) : BitVec 16 × BitVec 16 :=
  (if rstate.resistanceAvg > 0xffff then 0xffff else BitVec.ofNat 16 rstate.resistanceAvg,
    BitVec.ofNat 16 rstate.filterCount)

/-- `batt_res_load_data`. -/
def battResLoadData (stored : BitVec 16 × BitVec 16) : BattRes :=
  if stored.1 = 0xffff ∨ stored.2 = 0xffff then ⟨0, 0⟩ else ⟨stored.1.toNat, stored.2.toNat⟩

def Sampling.newEstimate (sampling : Sampling) : Nat := sampling.accumulator / sampling.count

section

variable (estimateFilter : ℕ+) (rstate : BattRes) (sampling : Sampling)

/-- `batt_res_update`. -/
def battResUpdate : BattRes :=
  let filterEstimate := rstate.resistanceAvg * rstate.filterCount
  if rstate.filterCount + 1 > estimateFilter then
    ⟨(filterEstimate - rstate.resistanceAvg + sampling.newEstimate) / estimateFilter,
      estimateFilter⟩
  else
    ⟨(filterEstimate + sampling.newEstimate) / (rstate.filterCount + 1), rstate.filterCount + 1⟩

/-- An estimate of `batt_res_work`. -/
def battResEstimate : BattRes :=
  let next := battResUpdate estimateFilter rstate sampling
  if sampling.reload then battResLoadData (battRavgWrite next) else next

/-- The update averages the old average and the new estimate, and the count stays in the
filter. -/
def Averages : Prop :=
  let next := battResUpdate estimateFilter rstate sampling
  (0 < rstate.filterCount → min rstate.resistanceAvg sampling.newEstimate ≤ next.resistanceAvg ∧
      next.resistanceAvg ≤ max rstate.resistanceAvg sampling.newEstimate) ∧
  next.filterCount ≤ estimateFilter

/-- The weight of the old average is less than that of the next larger one in a full filter. -/
def BattRes.Light : Prop :=
  rstate.resistanceAvg * rstate.filterCount < (rstate.resistanceAvg + 1) * estimateFilter

end

variable {estimateFilter : ℕ+} {rstate : BattRes}

lemma light_of_count_le (inFilter : rstate.filterCount ≤ estimateFilter) :
    rstate.Light estimateFilter :=
  (Nat.mul_le_mul_left _ inFilter).trans_lt
    (Nat.mul_lt_mul_of_pos_right (Nat.lt_succ_self _) estimateFilter.pos)

lemma battResUpdate_count_le (sampling : Sampling) :
    (battResUpdate estimateFilter rstate sampling).filterCount ≤ estimateFilter := by
  unfold battResUpdate
  split
  · exact le_rfl
  · rename_i room
    exact not_lt.mp room

lemma battResLoadData_count_le (rstate : BattRes) :
    (battResLoadData (battRavgWrite rstate)).filterCount ≤ rstate.filterCount := by
  unfold battResLoadData
  split
  · exact Nat.zero_le _
  · exact Nat.mod_le _ _

/-- After an estimate the count is in the filter, also when it was loaded again. -/
lemma battResEstimate_count_le (sampling : Sampling) :
    (battResEstimate estimateFilter rstate sampling).filterCount ≤ estimateFilter := by
  unfold battResEstimate
  split
  · exact (battResLoadData_count_le _).trans (battResUpdate_count_le sampling)
  · exact battResUpdate_count_le sampling

/-- The mean with an old average of weight `rest`, which may be more than the divisor less one. -/
lemma mean_between {avg rest divisor : Nat} (filled : divisor ≤ rest + 1)
    (light : avg * (rest + 1) < (avg + 1) * divisor) (estimate : Nat) :
    min avg estimate ≤ (avg * rest + estimate) / divisor ∧
      (avg * rest + estimate) / divisor ≤ max avg estimate := by
  have positive : 0 < divisor := Nat.pos_of_mul_pos_left (Nat.zero_lt_of_lt light)
  constructor
  · rw [Nat.le_div_iff_mul_le positive]
    calc min avg estimate * divisor ≤ min avg estimate * (rest + 1) := Nat.mul_le_mul_left _ filled
      _ ≤ avg * rest + estimate :=
        Nat.add_le_add (Nat.mul_le_mul_right _ (min_le_left _ _)) (min_le_right _ _)
  · obtain ⟨more, isMax⟩ := Nat.exists_eq_add_of_le (le_max_left avg estimate)
    have spread := Nat.le_mul_of_pos_right more positive
    have bound : estimate ≤ avg + more := isMax ▸ le_max_right avg estimate
    rw [isMax, ← Nat.lt_add_one_iff, Nat.div_lt_iff_lt_mul positive, Nat.add_right_comm,
      Nat.add_mul]
    rw [Nat.mul_succ] at light
    omega

lemma averages_of_light (light : rstate.Light estimateFilter) (sampling : Sampling) :
    Averages estimateFilter rstate sampling := by
  refine ⟨fun counted => ?_, battResUpdate_count_le sampling⟩
  obtain ⟨rest, isCount⟩ := Nat.exists_eq_succ_of_ne_zero counted.ne'
  unfold battResUpdate
  split
  · rename_i full
    simp only [BattRes.Light, isCount] at light full ⊢
    rw [Nat.mul_succ, Nat.add_sub_cancel]
    exact mean_between (Nat.lt_succ_iff.mp full) light _
  · exact mean_between le_rfl (Nat.mul_lt_mul_of_pos_right (Nat.lt_succ_self _) (Nat.succ_pos _)) _

/-- An estimate equal to the old average shows a count that is too large. -/
lemma light_of_averages
    (averages : Averages estimateFilter rstate ⟨rstate.resistanceAvg, 1, false⟩) :
    rstate.Light estimateFilter := by
  by_cases inFilter : rstate.filterCount ≤ estimateFilter
  · exact light_of_count_le inFilter
  obtain ⟨rest, isCount⟩ := Nat.exists_eq_succ_of_ne_zero (by omega : rstate.filterCount ≠ 0)
  have upper := (averages.1 (by omega)).2
  unfold battResUpdate at upper
  rw [if_pos (by omega)] at upper
  simp only [Sampling.newEstimate, PNat.one_coe, Nat.div_one, max_self, isCount, Nat.mul_succ,
    Nat.add_sub_cancel, ← Nat.lt_add_one_iff, Nat.div_lt_iff_lt_mul estimateFilter.pos] at upper
  rwa [BattRes.Light, isCount, Nat.mul_succ]

/-- Every update of every sequence of estimates averages exactly if the loaded pair is light. -/
theorem resistance_avg_between_iff (estimateFilter : ℕ+) (stored : BitVec 16 × BitVec 16) :
    (∀ samplings, Lib.Runs.Along (battResEstimate estimateFilter) (Averages estimateFilter)
      (battResLoadData stored) samplings) ↔ (battResLoadData stored).Light estimateFilter := by
  refine ⟨fun average => light_of_averages (average [_]).1, fun light samplings => ?_⟩
  generalize battResLoadData stored = rstate at light
  induction samplings generalizing rstate with
  | nil => trivial
  | cons sampling samplings ih =>
    exact ⟨averages_of_light light sampling,
      ih _ (light_of_count_le (battResEstimate_count_le sampling))⟩

/-- With a count of 40 for a filter of 20, an average and an estimate of 100 give 200. -/
theorem resistance_avg_doubles :
    ((battResUpdate 20 (battResLoadData (100, 40)) ⟨300, 3, false⟩).resistanceAvg = 200) ∧
      ¬ Averages 20 (battResLoadData (100, 40)) ⟨300, 3, false⟩ :=
  ⟨by decide, fun averages => absurd (averages.1 (by decide)).2 (by decide)⟩

end GsKernel.Bms
