import Mathlib

/-!
# Cells, blocks and circles of cells

A memory is a function from cells to values. `store` and `load` copy a block; `storeAround` and
`loadAround` copy within a circle of `size` cells at `base`. `HoldsEnd` is the invariant of a
circle written as a stream: position `p` lies in cell `p % size`, and the last `size` values are
there.

Counters that wrap at `modulus` select cells by `counter % modulus % size`. Counts less than
`size` apart may share a cell around the wrap; `index_ne` says when they do not.
-/

namespace GsKernel.Lib.CircularStore

open List Nat

variable {α : Type*}

/-- A block of values stored from `start` on. -/
def store (memory : Nat → α) (start : Nat) (values : List α) (cell : Nat) : α :=
  if start ≤ cell then values.getD (cell - start) (memory cell) else memory cell

/-- The values of `count` cells from `start` on. -/
def load (memory : Nat → α) (start count : Nat) : List α :=
  (range count).map fun index => memory (start + index)

section Blocks

variable (memory : Nat → α) (start : Nat) (values : List α)

lemma store_inside {index : Nat} (inside : index < values.length) :
    store memory start values (start + index) = values[index] := by
  simp [store, inside]

lemma store_outside {cell : Nat} (outside : cell < start ∨ start + values.length ≤ cell) :
    store memory start values cell = memory cell := by
  unfold store
  split
  · exact getD_eq_default _ _ (by omega)
  · rfl

@[simp] lemma store_nil : store memory start [] = memory :=
  funext fun cell => store_outside memory start [] (by rw [length_nil]; omega)

@[simp] lemma length_load (count : Nat) : (load memory start count).length = count := by
  simp [load]

@[simp] lemma getElem_load {count index : Nat} (inside : index < (load memory start count).length) :
    (load memory start count)[index] = memory (start + index) := by
  simp [load]

lemma load_store : load (store memory start values) start values.length = values := by
  refine ext_getElem (length_load _ _ _) fun index _ inside => ?_
  rw [getElem_load, store_inside memory start values inside]

lemma load_store_disjoint {other count : Nat}
    (disjoint : other + count ≤ start ∨ start + values.length ≤ other) :
    load (store memory start values) other count = load memory other count := by
  refine ext_getElem (by simp) fun index inside _ => ?_
  rw [length_load] at inside
  rw [getElem_load, getElem_load, store_outside memory start values (by omega)]

/-- Storing a value over itself. -/
lemma load_store_replicate {other count : Nat} {value : α}
    (same : load memory other count = replicate count value)
    (stored : ∀ copy ∈ values, copy = value) :
    load (store memory start values) other count = replicate count value := by
  refine ext_getElem (by simp) fun index inside _ => ?_
  have old : memory (other + index) = value := by
    rw [length_load] at inside
    rw [← getElem_load memory other (by rwa [length_load] : index < (load memory other count).length)]
    simp only [same, getElem_replicate]
  rw [getElem_load, getElem_replicate]
  by_cases outside : other + index < start ∨ start + values.length ≤ other + index
  · rw [store_outside memory start values outside, old]
  · have cell : other + index = start + (other + index - start) := by omega
    rw [cell, store_inside memory start values (by omega)]
    exact stored _ (getElem_mem _)

end Blocks

/-- A copy out of a circle of `size` cells at `base`, in two blocks if it passes the end. -/
def loadAround (memory : Nat → α) (base size start count : Nat) : List α :=
  if start + count ≤ size then load memory (base + start) count
  else load memory (base + start) (size - start) ++ load memory base (count - (size - start))

/-- A copy into a circle. -/
def storeAround (memory : Nat → α) (base size start : Nat) (values : List α) : Nat → α :=
  if start + values.length ≤ size then store memory (base + start) values
  else
    store (store memory (base + start) (values.take (size - start))) base
      (values.drop (size - start))

section Circles

variable {memory : Nat → α} {base size start : Nat} {values : List α} {index : Nat}

section

variable (inside : start < size)
include inside

lemma around_eq (bounded : index ≤ size) :
    (start + index) % size = if start + index < size then start + index
      else start + index - size := by
  split
  · exact mod_eq_of_lt ‹_›
  · rw [mod_eq_sub_mod (by omega), mod_eq_of_lt (by omega)]

lemma length_loadAround {count : Nat} :
    (loadAround memory base size start count).length = count := by
  unfold loadAround
  split
  · exact length_load _ _ _
  · simp only [length_append, length_load]
    omega

lemma getElem_loadAround {count index : Nat} (bounded : count ≤ size)
    (below : index < (loadAround memory base size start count).length) :
    (loadAround memory base size start count)[index] = memory (base + (start + index) % size) := by
  rw [length_loadAround inside] at below
  rw [around_eq inside (below.le.trans bounded)]
  simp only [loadAround]
  split
  · rw [getElem_load, if_pos (by omega), add_assoc]
  by_cases early : start + index < size
  · rw [getElem_append_left (by rw [length_load]; omega), getElem_load, if_pos early,
      add_assoc]
  · rw [getElem_append_right (by rw [length_load]; omega), getElem_load, length_load,
      if_neg early]
    congr 2
    omega

lemma storeAround_inside (bounded : values.length ≤ size) (below : index < values.length) :
    storeAround memory base size start values (base + (start + index) % size) = values[index] := by
  rw [around_eq inside (below.le.trans bounded)]
  unfold storeAround
  split_ifs with whole early
  · rw [← add_assoc, store_inside memory (base + start) values below]
  · omega
  · rw [store_outside _ base _ (by simp; omega), ← add_assoc,
      store_inside memory _ _ (by simp; omega), getElem_take]
  · have second : base + (start + index - size) = base + (index - (size - start)) := by omega
    have drop : index - (size - start) < (values.drop (size - start)).length := by
      rw [length_drop]
      omega
    rw [second, store_inside _ base _ drop, getElem_drop]
    congr 1
    omega

/-- The other cells of the circle keep their values. -/
lemma storeAround_outside (bounded : index < size) (other : values.length ≤ index) :
    storeAround memory base size start values (base + (start + index) % size) =
      memory (base + (start + index) % size) := by
  rw [around_eq inside bounded.le]
  unfold storeAround
  split_ifs with whole early
  · exact store_outside _ _ _ (by omega)
  · exact store_outside _ _ _ (by omega)
  · omega
  · rw [store_outside _ base _ (by rw [length_drop]; omega),
      store_outside _ (base + start) _ (by rw [length_take]; omega)]

end

/-- The last `size` values of a stream lie in the circle, each in the cell of its position. -/
def HoldsEnd (memory : Nat → α) (base size : Nat) (stream : List α) : Prop :=
  ∀ position (written : position < stream.length), stream.length ≤ position + size →
    memory (base + position % size) = stream[position]

variable {stream : List α}

lemma HoldsEnd.nil : HoldsEnd memory base size ([] : List α) :=
  fun _ written => absurd written (not_lt_zero _)

/-- Storing where the stream ends appends to it. -/
lemma HoldsEnd.append (holds : HoldsEnd memory base size stream) (positive : 0 < size)
    (bounded : values.length ≤ size) :
    HoldsEnd (storeAround memory base size (stream.length % size) values) base size
      (stream ++ values) := by
  intro position written last
  rw [length_append] at written last
  have inside : stream.length % size < size := mod_lt _ positive
  by_cases new : stream.length ≤ position
  · have cell : position % size = (stream.length % size + (position - stream.length)) % size := by
      rw [Nat.mod_add_mod, Nat.add_sub_cancel' new]
    rw [cell, storeAround_inside inside bounded (by omega), getElem_append_right new]
  -- an old value is `size` less its distance from the end further around the circle
  have cell : position % size =
      (stream.length % size + (size - (stream.length - position))) % size := by
    rw [mod_add_mod, ← add_mod_right position size]
    congr 1
    omega
  rw [getElem_append_left (by omega), ← holds position (by omega) (by omega), cell,
    storeAround_outside inside (by omega) (by omega)]

/-- Loading reads a part of the stream. -/
lemma HoldsEnd.loadAround_eq (holds : HoldsEnd memory base size stream) (positive : 0 < size)
    {position count : Nat} (written : position + count ≤ stream.length)
    (kept : stream.length ≤ position + size) :
    loadAround memory base size (position % size) count = (stream.drop position).take count := by
  have inside : position % size < size := mod_lt _ positive
  refine ext_getElem ?_ fun index below _ => ?_
  · rw [length_loadAround inside, length_take, length_drop]
    omega
  · rw [getElem_loadAround inside (by omega) below, mod_add_mod, getElem_take,
      getElem_drop]
    rw [length_loadAround inside] at below
    exact holds (position + index) (by omega) (by omega)

end Circles

section Counters

variable {modulus size low early late : Nat}

/-- Counts less than `size` apart that wrap at `modulus` select different cells, unless the
later one has just wrapped and the rest of `modulus` by `size` lies between them. -/
lemma index_ne (fits : size ≤ modulus) (order : low ≤ early ∧ early < late)
    (near : late < low + size)
    (apart : late % modulus < modulus % size → late - low < modulus % size) :
    early % modulus % size ≠ late % modulus % size := by
  intro same
  have bound : early % modulus < modulus := mod_lt _ (by omega)
  have split : late % modulus = (early % modulus + (late - early)) % modulus := by
    rw [Nat.mod_add_mod, Nat.add_sub_cancel' order.2.le]
  by_cases wraps : early % modulus + (late - early) < modulus
  · -- without a wrap the distance would be a multiple of the size
    rw [mod_eq_of_lt wraps] at split
    rw [split] at same
    have divides : size ∣ late - early := by
      have congruent : early % modulus + 0 ≡ early % modulus + (late - early) [MOD size] := same
      exact (modEq_zero_iff_dvd).mp (ModEq.add_left_cancel' _ congruent).symm
    have far := le_of_dvd (by omega) divides
    omega
  · -- with one, the distance is the rest of the modulus
    have wrapped : (early % modulus + (late - early)) % modulus =
        early % modulus + (late - early) - modulus := by
      rw [mod_eq_sub_mod (by omega), mod_eq_of_lt (by omega)]
    rw [wrapped] at split
    have rest : late - early = modulus % size := by
      have congruent : late % modulus + (late - early) ≡ late % modulus + modulus [MOD size] := by
        have moved : late % modulus + modulus = early % modulus + (late - early) := by omega
        rw [moved]
        exact ModEq.add_right _ same.symm
      have reduced := ModEq.add_left_cancel' _ congruent
      rw [← mod_eq_of_lt (by omega : late - early < size)]
      exact reduced
    omega

end Counters

end GsKernel.Lib.CircularStore
