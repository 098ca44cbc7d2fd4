import Mathlib

/-!
# Ring indices with a colour bit

An index that counts modulo twice the size of a ring selects a slot by its remainder modulo
the size. Two counts that are at most the size apart are told apart by their indices, also
when they share a slot.
-/

namespace GsKernel.Lib.ColorIndex

open Nat

variable {size low high : Nat}

lemma slot_of_index (size count : Nat) : count % (2 * size) % size = count % size :=
  mod_mod_of_dvd count (Dvd.intro_left 2 rfl)

/-- Counts with one remainder differ by a multiple of the modulus. -/
lemma dvd_of_mod_eq {modulus : Nat} (order : low ≤ high)
    (same : high % modulus = low % modulus) : modulus ∣ high - low :=
  (modEq_iff_dvd' order).mp same.symm

lemma index_eq_iff (positive : 0 < size) (order : low ≤ high) (window : high ≤ low + size) :
    high % (2 * size) = low % (2 * size) ↔ high = low := by
  refine ⟨fun same => ?_, fun same => by rw [same]⟩
  have zero := eq_zero_of_dvd_of_lt (dvd_of_mod_eq order same) (by omega)
  omega

lemma slot_eq_iff (positive : 0 < size) (order : low ≤ high) (window : high ≤ low + size) :
    high % size = low % size ↔ high = low ∨ high = low + size := by
  constructor
  · intro same
    obtain ⟨factor, multiple⟩ := dvd_of_mod_eq order same
    have small : factor ≤ 1 := by
      by_contra large
      have := mul_le_mul_left size (show 2 ≤ factor by omega)
      omega
    interval_cases factor <;> omega
  · rintro (same | same)
    · rw [same]
    · rw [same, add_mod_right]

/-- Different counts of one window have different slots. -/
lemma slot_ne {base first second : Nat} (firstLow : base ≤ first) (firstHigh : first < base + size)
    (secondLow : base ≤ second) (secondHigh : second < base + size) (ne : first ≠ second) :
    first % size ≠ second % size := by
  intro same
  rcases lt_or_gt_of_ne ne with before | after
  · have zero := eq_zero_of_dvd_of_lt (dvd_of_mod_eq before.le same.symm) (by omega)
    omega
  · have zero := eq_zero_of_dvd_of_lt (dvd_of_mod_eq after.le same) (by omega)
    omega

/-- The distance of two counts of one window from their remainders. -/
lemma gap (order : low ≤ high) (window : high < low + size) :
    (high % size + size - low % size) % size = high - low := by
  have bound : low % size < size := mod_lt _ (by omega)
  have split : high % size = (low % size + (high - low)) % size := by
    rw [Nat.mod_add_mod, Nat.add_sub_cancel' order]
  by_cases wraps : low % size + (high - low) < size
  · rw [split, mod_eq_of_lt wraps,
      show low % size + (high - low) + size - low % size = high - low + size by omega,
      add_mod_right, mod_eq_of_lt (by omega)]
  · have wrapped : (low % size + (high - low)) % size = low % size + (high - low) - size := by
      rw [mod_eq_sub_mod (by omega), mod_eq_of_lt (by omega)]
    rw [split, wrapped, show low % size + (high - low) - size + size - low % size = high - low by
      omega, mod_eq_of_lt (by omega)]

/-- The distance of two counts from their indices. -/
lemma distance (positive : 0 < size) (order : low ≤ high) (window : high ≤ low + size) :
    (high % (2 * size) + 2 * size - low % (2 * size)) % (2 * size) = high - low :=
  gap order (by omega)

end GsKernel.Lib.ColorIndex
