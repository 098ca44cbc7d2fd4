import Mathlib

/-!
# Fixed-point numbers in signed words

A fixed-point number with `frac` fraction bits is the integer of its lowest bit, kept in a
signed word of `width` bits. Sums, products and quotients that do not fit wrap around.

The slope of a line is a quotient that may have wrapped. As long as the wrapped slope is not
negative, interpolation with it stays between the two ends and never falls.
-/

namespace GsKernel.Lib.FixedPoint

open Int

/-- The value an integer has in a signed word. -/
def wrap (width : Nat) (value : Int) : Int := value.bmod (2 ^ width)

/-- The product of two fixed-point numbers: an arithmetic shift of the exact product. -/
def mul (width frac : Nat) (left right : Int) : Int :=
  wrap width (left * right / 2 ^ frac)

/-- The quotient of two fixed-point numbers, truncated toward zero. -/
def div (width frac : Nat) (left right : Int) : Int :=
  wrap width ((left * 2 ^ frac).tdiv right)

variable {width frac : Nat}

lemma wrap_of_fits {value : Int} (low : -2 ^ width ≤ value * 2) (high : value * 2 < 2 ^ width) :
    wrap width value = value :=
  bmod_eq_of_le_mul_two (by push_cast; omega) (by push_cast; omega)

/-- A wrapped value that is not negative is at most the value, if that is not negative. -/
lemma wrap_le {value : Int} (nonneg : 0 ≤ value) (wrapped : 0 ≤ wrap width value) :
    wrap width value ≤ value := by
  obtain ⟨natural, rfl⟩ := eq_ofNat_of_zero_le nonneg
  have residue_le : natural % 2 ^ width ≤ natural := Nat.mod_le _ _
  unfold wrap at wrapped ⊢
  rw [bmod_def, ← natCast_mod] at wrapped ⊢
  split at wrapped <;> omega

lemma wrap_bounds (width : Nat) (value : Int) :
    -2 ^ width ≤ wrap width value * 2 ∧ wrap width value * 2 < 2 ^ width := by
  have positive : 0 < 2 ^ width := Nat.two_pow_pos width
  have low := le_bmod (x := value) positive
  have high := bmod_lt (x := value) positive
  unfold wrap
  push_cast at low high ⊢
  omega

/-! ## Interpolation -/

section Interpolation

variable {rise run : Int}

/-- A wrapped slope of a rising line, times a distance along it, is at most the rise. -/
lemma slope_mul_le (rising : 0 ≤ rise) (forward : 0 < run)
    (slope : 0 ≤ div width frac rise run) {distance : Int}
    (short : distance ≤ run) : div width frac rise run * distance / 2 ^ frac ≤ rise := by
  have scaled : 0 ≤ rise * 2 ^ frac := by positivity
  have quotient : div width frac rise run ≤ rise * 2 ^ frac / run := by
    rw [← tdiv_eq_ediv_of_nonneg scaled]
    exact wrap_le (Int.tdiv_nonneg scaled forward.le) slope
  have product : div width frac rise run * distance ≤ rise * 2 ^ frac :=
    calc div width frac rise run * distance
        ≤ div width frac rise run * run := mul_le_mul_of_nonneg_left short slope
      _ ≤ rise * 2 ^ frac / run * run := mul_le_mul_of_nonneg_right quotient forward.le
      _ ≤ rise * 2 ^ frac := Int.ediv_mul_le _ forward.ne'
  exact Int.ediv_le_of_le_mul (by positivity) product

lemma slope_mul_nonneg {slope distance : Int} (rising : 0 ≤ slope) (within : 0 ≤ distance) :
    0 ≤ slope * distance / 2 ^ frac :=
  ediv_nonneg (mul_nonneg rising within) (by positivity)

lemma slope_mul_mono {slope near far : Int} (rising : 0 ≤ slope) (further : near ≤ far) :
    slope * near / 2 ^ frac ≤ slope * far / 2 ^ frac :=
  Int.ediv_le_ediv (by positivity) (Int.mul_le_mul_of_nonneg_left further rising)

end Interpolation

end GsKernel.Lib.FixedPoint
