import Mathlib

/-!
# NUL-terminated strings

`CString` is the text before the terminator, `Buffer size` the text a `char [size]` array can
hold. Comparing a buffer with a string over the full size of the buffer decides equality, and
fails for every string too long for the buffer (`strncmp_buffer`).
-/

namespace GsKernel.Lib.Strings

open List

/-- A string without its terminator. -/
structure CString where
  chars : List UInt8
  noNul : ∀ char ∈ chars, char ≠ 0
deriving DecidableEq

/-- A string that fits a `char [size]` array together with its terminator. -/
structure Buffer (size : Nat) extends CString where
  fits : chars.length < size
deriving DecidableEq

@[ext]
lemma CString.ext {left right : CString} (same : left.chars = right.chars) : left = right := by
  cases left
  cases right
  simpa using same

variable {size : Nat}

@[ext]
lemma Buffer.ext {left right : Buffer size} (same : left.chars = right.chars) : left = right := by
  obtain ⟨⟨_, _⟩, _⟩ := left
  obtain ⟨⟨_, _⟩, _⟩ := right
  simpa using same

/-- `strncmp` on the bytes before the terminators. -/
def strncmpChars : List UInt8 → List UInt8 → Nat → Int
  | _, _, 0 => 0
  | [], [], _ + 1 => 0
  | [], right :: _, _ + 1 => -(right.toNat : Int)
  | left :: _, [], _ + 1 => left.toNat
  | left :: lefts, right :: rights, count + 1 =>
    if left = right then strncmpChars lefts rights count
    else (left.toNat : Int) - right.toNat

/-- `strncmp`. -/
def strncmp (left right : CString) (count : Nat) : Int :=
  strncmpChars left.chars right.chars count

/-- `strlcpy` into a `char [size]` array: the text is cut to fit. -/
def strlcpy (source : CString) (size : Nat) [NeZero size] : Buffer size where
  chars := source.chars.take (size - 1)
  noNul := fun char mem => source.noNul char (mem_of_mem_take mem)
  fits := by
    have positive := Nat.pos_of_ne_zero (NeZero.ne size)
    rw [length_take]
    omega

lemma toNat_ne_zero {char : UInt8} (nonzero : char ≠ 0) : char.toNat ≠ 0 := fun zero =>
  nonzero (UInt8.toNat_inj.mp zero)

lemma strncmpChars_eq_zero {lefts rights : List UInt8} (count : Nat)
    (leftNoNul : ∀ char ∈ lefts, char ≠ 0) (rightNoNul : ∀ char ∈ rights, char ≠ 0) :
    strncmpChars lefts rights count = 0 ↔ lefts.take count = rights.take count := by
  induction count generalizing lefts rights with
  | zero => simp [strncmpChars]
  | succ count ih =>
    cases lefts with
    | nil =>
      cases rights with
      | nil => simp [strncmpChars]
      | cons right rights =>
        have nonzero := toNat_ne_zero (rightNoNul right (mem_cons_self ..))
        simp only [strncmpChars, take_nil, take_succ_cons, reduceCtorEq, iff_false]
        omega
    | cons left lefts =>
      cases rights with
      | nil =>
        have nonzero := toNat_ne_zero (leftNoNul left (mem_cons_self ..))
        simp only [strncmpChars, take_nil, take_succ_cons, reduceCtorEq, iff_false]
        omega
      | cons right rights =>
        rw [forall_mem_cons] at leftNoNul rightNoNul
        rw [strncmpChars, take_succ_cons, take_succ_cons, cons.injEq]
        split_ifs with same
        · rw [ih leftNoNul.2 rightNoNul.2]
          simp [same]
        · have apart : left.toNat ≠ right.toNat := fun equal =>
            same (UInt8.toNat_inj.mp equal)
          simp only [same, false_and, iff_false]
          omega

lemma strncmp_eq_zero (left right : CString) (count : Nat) :
    strncmp left right count = 0 ↔ left.chars.take count = right.chars.take count :=
  strncmpChars_eq_zero count left.noNul right.noNul

/-- Comparing over the length of the left string decides whether the right one starts
with it. -/
lemma strncmp_length (left right : CString) :
    strncmp left right left.chars.length = 0 ↔ left.chars <+: right.chars := by
  rw [strncmp_eq_zero, take_length, prefix_iff_eq_take]

/-- Comparing a buffer over its full size decides equality with a string. -/
lemma strncmp_buffer (buffer : Buffer size) (string : CString) :
    strncmp buffer.toCString string size = 0 ↔ buffer.toCString = string := by
  have fits := buffer.fits
  rw [strncmp_eq_zero, take_of_length_le (Nat.le_of_lt fits)]
  constructor
  · intro same
    have short : string.chars.length ≤ size := by
      by_contra long
      have cut := congrArg length same
      rw [length_take] at cut
      omega
    rw [take_of_length_le short] at same
    exact CString.ext same
  · rintro rfl
    rw [take_of_length_le (Nat.le_of_lt fits)]

/-- A copy of a string that fits is the string. -/
lemma strlcpy_of_fits [NeZero size] {source : CString}
    (fits : source.chars.length < size) : (strlcpy source size).toCString = source := by
  apply CString.ext
  exact take_of_length_le (by omega)

/-- A copy of a buffer is the buffer. -/
@[simp]
lemma strlcpy_buffer [NeZero size] (buffer : Buffer size) :
    strlcpy buffer.toCString size = buffer := by
  apply Buffer.ext
  exact congrArg CString.chars (strlcpy_of_fits buffer.fits)

end GsKernel.Lib.Strings
