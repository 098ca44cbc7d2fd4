import Mathlib

/-!
# Scans of lists sorted by a key

A list sorted by a key has a repeated key exactly when two neighbours share one, and
the two-pointer scan of two such lists without repetitions finds a common key exactly
when there is one. Beside them, an update of a function at each index of a list.
-/

namespace GsKernel.Lib.SortedScan

open List

variable {α β κ : Type*} [LinearOrder κ] (key : α → κ)

/-- Two neighbours share their key. -/
def repeats : List α → Bool
  | first :: second :: rest => decide (key first = key second) || repeats (second :: rest)
  | _ => false

/-- The two-pointer scan for a common key, with a bound on its steps. -/
def meets : Nat → List α → List α → Bool
  | fuel + 1, left :: lefts, right :: rights =>
    if key left < key right then meets fuel lefts (right :: rights)
    else if key right < key left then meets fuel (left :: lefts) rights
    else true
  | _, _, _ => false

variable {key} {entries : List α}

lemma pairwise_lt_of_repeats (sorted : entries.Pairwise (key · ≤ key ·))
    (distinct : repeats key entries = false) : entries.Pairwise (key · < key ·) := by
  induction entries with
  | nil => exact .nil
  | cons first rest ih =>
    obtain ⟨below, sortedRest⟩ := pairwise_cons.mp sorted
    cases rest with
    | nil => simp
    | cons second rest =>
      obtain ⟨apart, others⟩ := Bool.or_eq_false_iff.mp distinct
      have strict := ih sortedRest others
      have next : key first < key second :=
        lt_of_le_of_ne (below second mem_cons_self) (of_decide_eq_false apart)
      refine pairwise_cons.mpr ⟨?_, strict⟩
      rintro entry (_ | ⟨_, later⟩)
      · exact next
      · exact next.trans ((pairwise_cons.mp strict).1 entry later)

/-- Neighbours of a sorted list share a key exactly when any two entries do. -/
lemma repeats_eq_false_iff (sorted : entries.Pairwise (key · ≤ key ·)) :
    repeats key entries = false ↔ (entries.map key).Nodup := by
  constructor
  · intro distinct
    refine pairwise_map.mpr ((pairwise_lt_of_repeats sorted distinct).imp ?_)
    exact fun less => less.ne
  · intro distinct
    induction entries with
    | nil => rfl
    | cons first rest ih =>
      obtain ⟨absent, others⟩ := nodup_cons.mp distinct
      have tail := ih (pairwise_cons.mp sorted).2 others
      cases rest with
      | nil => rfl
      | cons second rest =>
        refine Bool.or_eq_false_iff.mpr ⟨decide_eq_false fun same => absent ?_, tail⟩
        exact mem_map.mpr ⟨second, mem_cons_self, same.symm⟩

/-- The scan of two strictly sorted lists finds a common key exactly when there is one. -/
lemma meets_iff {fuel : Nat} {lefts rights : List α} (enough : lefts.length + rights.length ≤ fuel)
    (sortedLeft : lefts.Pairwise (key · < key ·)) (sortedRight : rights.Pairwise (key · < key ·)) :
    meets key fuel lefts rights = true ↔ ∃ left ∈ lefts, ∃ right ∈ rights, key left = key right := by
  induction fuel generalizing lefts rights with
  | zero =>
    obtain rfl : lefts = [] := length_eq_zero_iff.mp (by omega)
    simp [meets]
  | succ fuel ih =>
    cases lefts with
    | nil => simp [meets]
    | cons left lefts =>
      cases rights with
      | nil => simp [meets]
      | cons right rights =>
        simp only [length_cons] at enough
        obtain ⟨belowLeft, sortedLefts⟩ := pairwise_cons.mp sortedLeft
        obtain ⟨belowRight, sortedRights⟩ := pairwise_cons.mp sortedRight
        rcases lt_trichotomy (key left) (key right) with less | same | greater
        · -- the smaller head is below everything on the other side
          have below : ∀ other ∈ right :: rights, key left ≠ key other := by
            rintro other (_ | ⟨_, later⟩)
            · exact less.ne
            · exact (less.trans (belowRight other later)).ne
          rw [meets, if_pos less, ih (by simp; omega) sortedLefts sortedRight]
          constructor
          · rintro ⟨entry, inside, found⟩
            exact ⟨entry, mem_cons_of_mem _ inside, found⟩
          · rintro ⟨entry, _ | ⟨_, inside⟩, other, found, same⟩
            · exact absurd same (below other found)
            · exact ⟨entry, inside, other, found, same⟩
        · rw [meets, if_neg same.not_lt, if_neg same.symm.not_lt]
          exact iff_of_true rfl ⟨left, mem_cons_self, right, mem_cons_self, same⟩
        · have below : ∀ other ∈ left :: lefts, key other ≠ key right := by
            rintro other (_ | ⟨_, later⟩)
            · exact greater.ne'
            · exact (greater.trans (belowLeft other later)).ne'
          rw [meets, if_neg greater.not_gt, if_pos greater,
            ih (by simp; omega) sortedLeft sortedRights]
          constructor
          · rintro ⟨entry, inside, other, found, same⟩
            exact ⟨entry, inside, other, mem_cons_of_mem _ found, same⟩
          · rintro ⟨entry, inside, other, _ | ⟨_, found⟩, same⟩
            · exact absurd same (below entry inside)
            · exact ⟨entry, inside, other, found, same⟩

/-- Updating a function once at each index of a list without repetitions. -/
lemma foldl_update_apply [DecidableEq α] (change : α → β → β) (indices : List α)
    (distinct : indices.Nodup) (function : α → β) (index : α) :
    indices.foldl (fun function index =>
        Function.update function index (change index (function index))) function index =
      if index ∈ indices then change index (function index) else function index := by
  induction indices generalizing function with
  | nil => rfl
  | cons first rest ih =>
    obtain ⟨absent, others⟩ := nodup_cons.mp distinct
    rw [foldl_cons, ih others]
    by_cases same : index = first
    · subst same
      simp [absent]
    · simp [same]

end GsKernel.Lib.SortedScan
