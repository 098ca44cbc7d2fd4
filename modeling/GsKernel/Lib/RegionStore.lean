import Mathlib

/-!
# Stores written region by region

A `Write` covers a set of keys and gives all of them one value. After any
sequence of writes a key holds the value of the last write that covers it, or
what the store held initially (`Write.foldl_apply`).
-/

namespace GsKernel.Lib.RegionStore

open List

variable {κ ν : Type*}

/-- One value for every key of a region. -/
structure Write (κ ν : Type*) where
  covers : κ → Bool
  value : ν

namespace Write

/-- The store after a write. -/
def apply (store : κ → ν) (write : Write κ ν) : κ → ν := fun key =>
  if write.covers key then write.value else store key

/-- The value of the last write that covers `key`. -/
def last (writes : List (Write κ ν)) (key : κ) : Option ν :=
  (writes.reverse.find? (·.covers key)).map (·.value)

lemma last_concat (writes : List (Write κ ν)) (write : Write κ ν) (key : κ) :
    last (writes ++ [write]) key =
      if write.covers key then some write.value else last writes key := by
  simp only [last, reverse_append, reverse_cons, reverse_nil, nil_append,
    singleton_append, find?_cons]
  cases write.covers key <;> rfl

/-- Last write wins. -/
lemma foldl_apply (store : κ → ν) (writes : List (Write κ ν)) (key : κ) :
    writes.foldl apply store key = (last writes key).getD (store key) := by
  induction writes using reverseRecOn with
  | nil => rfl
  | append_singleton writes write ih =>
    rw [foldl_append, last_concat]
    simp only [foldl_cons, foldl_nil, apply]
    cases write.covers key with
    | true => rfl
    | false => simpa using ih

/-- Writes that do not cover a key leave it alone. -/
lemma foldl_apply_of_uncovered (store : κ → ν) (writes : List (Write κ ν)) {key : κ}
    (uncovered : ∀ write ∈ writes, write.covers key = false) :
    writes.foldl apply store key = store key := by
  induction writes generalizing store with
  | nil => rfl
  | cons write writes ih =>
    rw [forall_mem_cons] at uncovered
    rw [foldl_cons, ih _ uncovered.2, apply, uncovered.1]
    rfl

/-- A covered key holds the one value all writes that cover it agree on. -/
lemma foldl_apply_of_agree (store : κ → ν) (writes : List (Write κ ν)) {key : κ} {value : ν}
    (covered : ∃ write ∈ writes, write.covers key = true)
    (agree : ∀ write ∈ writes, write.covers key = true → write.value = value) :
    writes.foldl apply store key = value := by
  rw [foldl_apply]
  obtain ⟨write, mem, covers⟩ := covered
  cases found : writes.reverse.find? (·.covers key) with
  | none =>
    rw [find?_eq_none] at found
    exact absurd covers (found write (mem_reverse.mpr mem))
  | some latest =>
    have inside := mem_reverse.mp (mem_of_find?_eq_some found)
    have covers : latest.covers key = true := by simpa using find?_some found
    simp only [last, found, Option.map_some, Option.getD_some, agree latest inside covers]

end Write
end GsKernel.Lib.RegionStore
