import Mathlib

/-!
# Equally spaced fields of a machine word

A `Layout len` describes fields of `len` bits, one every `stride` bits, each
starting `shift` bits into its slot. `Layout.put` is the usual clear-then-set
edit, and `Layout.getLsbD_putRange` says bit by bit what a loop of such edits over
consecutive slots leaves.
-/

namespace GsKernel.Lib.PackedWord

open BitVec

/-- Fields of `len` bits placed `shift` bits into slots of `stride` bits. -/
structure Layout (len : Nat) where
  stride : Nat
  shift : Nat
  fits : shift + len ≤ stride

namespace Layout

variable {w len : Nat} (layout : Layout len)

/-- Bit position of the field in slot `slot`. -/
def pos (slot : Nat) : Nat := slot * layout.stride + layout.shift

/-- The value stored in slot `slot`. -/
def get (word : BitVec w) (slot : Nat) : BitVec len :=
  word.extractLsb' (layout.pos slot) len

/-- Clear the field of slot `slot`, then set it to `value`. -/
def put (word : BitVec w) (slot : Nat) (value : BitVec len) : BitVec w :=
  word &&& ~~~((allOnes len).setWidth w <<< layout.pos slot) |||
    (value.setWidth w <<< layout.pos slot)

/-- Edit the slots `first, first + 1, …, first + count - 1` in turn. -/
def putRange (word : BitVec w) (first count : Nat) (value : BitVec len) : BitVec w :=
  (List.range' first count).foldl (fun acc slot => layout.put acc slot value) word

/-- Bit by bit, an edit replaces exactly the bits of its own field. -/
lemma getLsbD_put (word : BitVec w) (slot : Nat) (value : BitVec len) (bit : Nat)
    (inside : bit < w) :
    (layout.put word slot value).getLsbD bit =
      if layout.pos slot ≤ bit ∧ bit < layout.pos slot + len then
        value.getLsbD (bit - layout.pos slot)
      else word.getLsbD bit := by
  simp only [put, getLsbD_or, getLsbD_and, getLsbD_not,
    getLsbD_shiftLeft, getLsbD_setWidth, getLsbD_allOnes]
  by_cases low : bit < layout.pos slot
  · have outside : ¬ (layout.pos slot ≤ bit ∧ bit < layout.pos slot + len) := by omega
    simp [low, inside, outside]
  have narrow : bit - layout.pos slot < w := by omega
  by_cases high : bit < layout.pos slot + len
  · have field : bit - layout.pos slot < len := by omega
    simp [low, inside, narrow, field, high, Nat.le_of_not_lt low]
  · have beyond : ¬ bit - layout.pos slot < len := by omega
    have cleared : value.getLsbD (bit - layout.pos slot) = false :=
      getLsbD_of_ge _ _ (by omega)
    simp [low, inside, narrow, beyond, high, cleared]

/-- The field of slot `slot` in terms of quotient and remainder by the stride. -/
lemma mem_field_iff (slot bit : Nat) :
    layout.pos slot ≤ bit ∧ bit < layout.pos slot + len ↔ bit / layout.stride = slot ∧
      layout.shift ≤ bit % layout.stride ∧ bit % layout.stride < layout.shift + len := by
  have room := layout.fits
  have division := Nat.div_add_mod' bit layout.stride
  unfold pos
  constructor
  · rintro ⟨low, high⟩
    have same : bit / layout.stride = slot :=
      Nat.div_eq_of_lt_le (by omega) (by rw [Nat.succ_mul]; omega)
    rw [same] at division
    omega
  · rintro ⟨rfl, low, high⟩
    omega

/-- Bit by bit, a loop over consecutive slots replaces exactly the bits of their fields. -/
lemma getLsbD_putRange (word : BitVec w) (first count : Nat) (value : BitVec len) (bit : Nat)
    (inside : bit < w) :
    (layout.putRange word first count value).getLsbD bit =
      if (first ≤ bit / layout.stride ∧ bit / layout.stride < first + count) ∧
          layout.shift ≤ bit % layout.stride ∧ bit % layout.stride < layout.shift + len then
        value.getLsbD (bit % layout.stride - layout.shift)
      else word.getLsbD bit := by
  induction count generalizing first word with
  | zero => simp [putRange]
  | succ count ih =>
    have unrolled : layout.putRange word first (count + 1) value =
        layout.putRange (layout.put word first value) (first + 1) count value := by
      simp [putRange, List.range'_succ]
    have division := Nat.div_add_mod' bit layout.stride
    rw [unrolled, ih, layout.getLsbD_put _ _ _ _ inside]
    simp only [layout.mem_field_iff]
    by_cases here : bit / layout.stride = first
    · have offset : bit - layout.pos first = bit % layout.stride - layout.shift := by
        rw [here] at division
        unfold pos
        omega
      rw [offset]
      split_ifs <;> first | rfl | omega
    · split_ifs <;> first | rfl | omega

end Layout
end GsKernel.Lib.PackedWord
