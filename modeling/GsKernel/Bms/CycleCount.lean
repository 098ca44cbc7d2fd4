import Mathlib.Data.Nat.Count
import Mathlib.Data.BitVec

/-!
# Cycle count bins

A bin of `gbatt_ccbin_data` counts how often the state of charge has risen through the ten
percents of the bin. Storage accepts every write.
-/

namespace GsKernel.Bms

open Function

/-- The `count` array; `batt_cycle_count_update` leaves what is behind it alone. -/
abbrev CcBins := Nat → BitVec 16

abbrev GBMS_CCBIN_BUCKET_COUNT : Nat := 10

/-- `struct gbatt_ccbin_data` with what is stored as `BCNT`. -/
structure CcbinData where
  count : CcBins
  prevSoc : Int
  stored : CcBins

/-- `batt_cycle_count_load`. -/
def battCycleCountLoad (stored : CcBins) : CcbinData where
  count i := if i < GBMS_CCBIN_BUCKET_COUNT ∧ stored i = 0xFFFF then 0 else stored i
  prevSoc := -1
  stored := stored

/-- The loop of `batt_cycle_count_update`. -/
def countPercents (prevSoc : Int) : Nat → CcBins → CcBins
  | 0, count => count
  | cnt + 1, count =>
    if (cnt + 1 : Nat) > prevSoc then
      let bucket := cnt * GBMS_CCBIN_BUCKET_COUNT / 100
      countPercents prevSoc cnt (update count bucket (count bucket + 1))
    else count

/-- `batt_cycle_count_update`. -/
def battCycleCountUpdate (ccd : CcbinData) (soc : Int) : CcbinData :=
  if soc < 0 ∨ soc > 100 then ccd
  else if ccd.prevSoc ≠ -1 ∧ soc > ccd.prevSoc then
    let count := countPercents ccd.prevSoc soc.toNat ccd.count
    ⟨count, soc, count⟩
  else { ccd with prevSoc := soc }

/-- The percents of a bin above one state of charge and up to another. -/
def crossed (bin : Nat) (prevSoc soc : Int) : Nat :=
  Nat.count (fun p => 10 * bin < p ∧ p ≤ 10 * bin + 10 ∧ prevSoc < p) (soc.toNat + 1)

/-- The percents of a bin crossed upwards between consecutive states of charge. -/
def crossings (bin : Nat) : List Int → Nat
  | prevSoc :: soc :: socs => crossed bin prevSoc soc + crossings bin (soc :: socs)
  | _ => 0

lemma crossed_of_le (bin : Nat) {prevSoc soc : Int} (falls : soc.toNat ≤ prevSoc) :
    crossed bin prevSoc soc = 0 :=
  Nat.count_iff_forall_not.mpr fun p below => by omega

/-- The loop adds to each bin the percents it has of it. -/
lemma countPercents_apply (bin : Nat) (prevSoc : Int) (cnt : Nat) (count : CcBins) :
    countPercents prevSoc cnt count bin = count bin + BitVec.ofNat 16 (crossed bin prevSoc cnt) := by
  induction cnt generalizing count with
  | zero => simp [countPercents, crossed, Nat.count_succ]
  | succ cnt ih =>
    rw [countPercents]
    split
    · rename_i rises
      have last : crossed bin prevSoc (cnt + 1 : Nat) =
          crossed bin prevSoc cnt + if cnt * 10 / 100 = bin then 1 else 0 := by
        simp only [crossed, Int.toNat_natCast, Nat.count_succ]
        congr 2
        grind
      rw [ih, last, update_apply, BitVec.ofNat_add]
      split
      · rename_i same
        rw [if_pos same.symm, same]
        ac_rfl
      · rename_i other
        rw [if_neg (Ne.symm other)]
        simp
    · rw [crossed_of_le bin (by omega)]
      simp

/-- The accepted state of charge before the first of a run, if there is one. -/
def CcbinData.previous (ccd : CcbinData) : List Int :=
  if ccd.prevSoc = -1 then [] else [ccd.prevSoc]

lemma count_run (bin : Nat) (ccd : CcbinData) (socs : List Int) :
    (socs.foldl battCycleCountUpdate ccd).count bin = ccd.count bin + BitVec.ofNat 16
      (crossings bin (ccd.previous ++ socs.filter fun soc => 0 ≤ soc ∧ soc ≤ 100)) := by
  induction socs generalizing ccd with
  | nil =>
    simp only [List.foldl_nil, CcbinData.previous, List.filter_nil]
    split <;> simp [crossings]
  | cons soc socs ih =>
    rw [List.foldl_cons, ih, battCycleCountUpdate]
    by_cases ignored : soc < 0 ∨ soc > 100
    · rw [if_pos ignored, List.filter_cons_of_neg (by simp only [decide_eq_true_eq]; omega)]
    rw [if_neg ignored, List.filter_cons_of_pos (by simp only [decide_eq_true_eq]; omega)]
    have known : ∀ count stored, CcbinData.previous ⟨count, soc, stored⟩ = [soc] :=
      fun _ _ => if_neg (show soc ≠ -1 by omega)
    split
    · rename_i rises
      simp only [known, countPercents_apply, Int.toNat_of_nonneg (not_lt.mp (not_or.mp ignored).1)]
      rw [CcbinData.previous, if_neg rises.1]
      simp [crossings, BitVec.ofNat_add, add_assoc]
    · rename_i falls
      rw [known]
      by_cases first : ccd.prevSoc = -1
      · rw [CcbinData.previous, if_pos first]
        rfl
      · rw [CcbinData.previous, if_neg first]
        simp [crossings, crossed_of_le bin (show soc.toNat ≤ ccd.prevSoc by omega)]

lemma load_count_iff (stored : CcBins) (bin : Nat) :
    (battCycleCountLoad stored).count bin = stored bin ↔
      ¬ (bin < GBMS_CCBIN_BUCKET_COUNT ∧ stored bin = 0xFFFF) := by
  simp only [battCycleCountLoad]
  split
  · rename_i full
    simp [full]
  · rename_i usual
    exact iff_of_true rfl usual

/-- Bins count crossings modulo 2^16, an increasing update stores them, and exactly those that
are not 0xFFFF are loaded as they are; a bin of 0xFFFF is loaded as 0. -/
theorem cycle_counts_cross (stored : CcBins) (socs : List Int) (bin : Nat) :
    let ccd := socs.foldl battCycleCountUpdate (battCycleCountLoad stored)
    ccd.count bin = (battCycleCountLoad stored).count bin + BitVec.ofNat 16
      (crossings bin (socs.filter fun soc => 0 ≤ soc ∧ soc ≤ 100)) ∧
    ∀ soc, 0 ≤ soc → soc ≤ 100 → ccd.prevSoc ≠ -1 → ccd.prevSoc < soc →
      let next := battCycleCountUpdate ccd soc
      next.stored = next.count ∧ ((battCycleCountLoad next.stored).count bin = next.count bin ↔
          ¬ (bin < GBMS_CCBIN_BUCKET_COUNT ∧ next.count bin = 0xFFFF)) ∧
        (bin < GBMS_CCBIN_BUCKET_COUNT → next.count bin = 0xFFFF →
          (battCycleCountLoad next.stored).count bin = 0) := by
  refine ⟨count_run bin _ socs, fun soc low high known rises => ?_⟩
  rw [battCycleCountUpdate, if_neg (by omega), if_pos ⟨known, rises⟩]
  exact ⟨rfl, load_count_iff _ bin, fun inside full => if_pos ⟨inside, full⟩⟩

/-- A bin that reaches 0xFFFF is stored and then loaded as zero. -/
theorem cycle_counts_lose_full :
    let ccd := [0, 1].foldl battCycleCountUpdate (battCycleCountLoad fun _ => 0xFFFE)
    ccd.stored 0 = 0xFFFF ∧ ccd.count 0 = 0xFFFF ∧ (battCycleCountLoad ccd.stored).count 0 = 0 := by
  decide

end GsKernel.Bms
