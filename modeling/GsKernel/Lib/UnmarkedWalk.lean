import Mathlib

/-!
# Walks that do not mark what they have visited

A recursive function visits a node by first visiting its `children`, without remembering where it
has been; `none` is a node whose visit fails. A walk that returns for no amount of fuel does not
return at all.
-/

namespace GsKernel.Lib.UnmarkedWalk

open Option List

variable {α : Type*} (children : α → Option (List α))

/-- The visit of one node refers to another. -/
def Calls (node other : α) : Prop := ∃ list, children node = some list ∧ other ∈ list

/-- The nodes visited, each after those it refers to. -/
def walk : Nat → α → Option (List α)
  | 0, _ => none
  | fuel + 1, node =>
    (children node).bind fun list =>
      (list.mapM (walk fuel)).map fun below => below.flatten ++ [node]

variable {children} {node other : α} {fuel : Nat} {visited : List α} {list : List α}

variable {f : α → Option (List α)}

/-- What all the visits of a list return together. -/
lemma mapM_some {below : List (List α)} (done : list.mapM f = some below) :
    (∀ item ∈ list, ∃ part, f item = some part) ∧ ∀ other, other ∈ below.flatten ↔
        ∃ item ∈ list, ∃ part, f item = some part ∧ other ∈ part := by
  induction list generalizing below with
  | nil =>
    obtain rfl : below = [] := by simpa using done.symm
    simp
  | cons item list hypothesis =>
    obtain ⟨part, first, rest, tail, rfl⟩ : ∃ part, f item = some part ∧
        ∃ rest, list.mapM f = some rest ∧ below = part :: rest := by
      obtain ⟨part, first, others⟩ := bind_eq_some_iff.mp (mapM_cons.symm.trans done)
      obtain ⟨rest, tail, whole⟩ := bind_eq_some_iff.mp others
      exact ⟨part, first, rest, tail, (some.inj whole).symm⟩
    obtain ⟨all, among⟩ := hypothesis tail
    refine ⟨forall_mem_cons.mpr ⟨⟨part, first⟩, all⟩, fun other => ?_⟩
    simp [flatten_cons, among, first]

/-- The visits of a list return when each of them does. -/
lemma exists_mapM
    (all : ∀ item ∈ list, ∃ part, f item = some part) : ∃ below, list.mapM f = some below := by
  induction list with
  | nil => exact ⟨[], rfl⟩
  | cons item list hypothesis =>
    obtain ⟨⟨part, first⟩, rest⟩ := forall_mem_cons.mp all
    obtain ⟨below, tail⟩ := hypothesis rest
    exact ⟨part :: below, by simp [mapM_cons, first, tail]⟩

/-- What a walk that returns has done at its first node. -/
lemma walk_succ (done : walk children (fuel + 1) node = some visited) :
    ∃ list below, children node = some list ∧ list.mapM (walk children fuel) = some below ∧
      visited = below.flatten ++ [node] := by
  obtain ⟨list, found, rest⟩ := bind_eq_some_iff.mp done
  obtain ⟨below, parts, whole⟩ := map_eq_some_iff.mp rest
  exact ⟨list, below, found, parts, whole.symm⟩

/-- A walk that returns has visited what can be reached, and nothing else. -/
lemma mem_walk (done : walk children fuel node = some visited) :
    other ∈ visited ↔ Relation.ReflTransGen (Calls children) node other := by
  induction fuel generalizing node visited with
  | zero => cases done
  | succ fuel hypothesis =>
    obtain ⟨list, below, found, parts, rfl⟩ := walk_succ done
    obtain ⟨all, among⟩ := mapM_some parts
    rw [mem_append, mem_singleton, among, Relation.ReflTransGen.cases_head_iff]
    constructor
    · rintro (⟨item, mem, part, visits, reached⟩ | rfl)
      · exact Or.inr ⟨item, ⟨list, found, mem⟩, (hypothesis visits).mp reached⟩
      · exact Or.inl rfl
    · rintro (rfl | ⟨item, ⟨list', found', mem⟩, reached⟩)
      · exact Or.inr rfl
      · obtain rfl : list = list' := some.inj (found.symm.trans found')
        obtain ⟨part, visits⟩ := all item mem
        exact Or.inl ⟨item, mem, part, visits, (hypothesis visits).mpr reached⟩

/-- A walk returns at a node when the node can be visited and the walks at the nodes it refers
to return with less fuel. -/
lemma exists_walk_succ (found : children node = some list)
    (all : ∀ item ∈ list, ∃ part, walk children fuel item = some part) :
    ∃ visited, walk children (fuel + 1) node = some visited := by
  obtain ⟨below, parts⟩ := exists_mapM all
  exact ⟨below.flatten ++ [node], by simp [walk, found, parts]⟩

/-- A walk that returns does so with more fuel. -/
lemma exists_walk_mono {more : Nat} (le : fuel ≤ more)
    (done : ∃ visited, walk children fuel node = some visited) :
    ∃ visited, walk children more node = some visited := by
  induction fuel generalizing node more with
  | zero =>
    obtain ⟨visited, done⟩ := done
    cases done
  | succ fuel hypothesis =>
    obtain ⟨rest, rfl⟩ : ∃ rest, more = rest + 1 := ⟨more - 1, by omega⟩
    obtain ⟨visited, done⟩ := done
    obtain ⟨list, below, found, parts, rfl⟩ := walk_succ done
    exact exists_walk_succ found fun item mem =>
      hypothesis (Nat.le_of_succ_le_succ le) ((mapM_some parts).1 item mem)

/-- Walks that each return do so with a common amount of fuel. -/
lemma exists_common_fuel
    (all : ∀ item ∈ list, ∃ fuel visited, walk children fuel item = some visited) :
    ∃ fuel, ∀ item ∈ list, ∃ visited, walk children fuel item = some visited := by
  induction list with
  | nil => exact ⟨0, by simp⟩
  | cons item list hypothesis =>
    obtain ⟨⟨first, done⟩, rest⟩ := forall_mem_cons.mp all
    obtain ⟨second, others⟩ := hypothesis rest
    refine ⟨max first second, forall_mem_cons.mpr ⟨exists_walk_mono (le_max_left ..) done, ?_⟩⟩
    exact fun other mem => exists_walk_mono (le_max_right ..) (others other mem)

/-- A walk that returns has only finitely deep calls below it. -/
lemma acc_of_walk (done : walk children fuel node = some visited) :
    Acc (fun below above => Calls children above below) node := by
  induction fuel generalizing node visited with
  | zero => cases done
  | succ fuel hypothesis =>
    obtain ⟨list, below, found, parts, rfl⟩ := walk_succ done
    refine Acc.intro node ?_
    rintro item ⟨list', found', mem⟩
    obtain rfl : list = list' := some.inj (found.symm.trans found')
    obtain ⟨part, visits⟩ := (mapM_some parts).1 item mem
    exact hypothesis visits

/-- A walk that returns has met no node whose visit fails. -/
lemma children_of_walk (done : walk children fuel node = some visited)
    (reached : Relation.ReflTransGen (Calls children) node other) :
    ∃ list, children other = some list := by
  induction fuel generalizing node visited with
  | zero => cases done
  | succ fuel hypothesis =>
    obtain ⟨list, below, found, parts, rfl⟩ := walk_succ done
    rcases Relation.ReflTransGen.cases_head reached with rfl | ⟨item, ⟨list', found', mem⟩, rest⟩
    · exact ⟨list, found⟩
    · obtain rfl : list = list' := some.inj (found.symm.trans found')
      obtain ⟨part, visits⟩ := (mapM_some parts).1 item mem
      exact hypothesis visits rest

/-- Where the calls below a node are finitely deep there is no cycle. -/
lemma not_transGen_of_acc (acc : Acc (fun below above => Calls children above below) node) :
    ¬Relation.TransGen (Calls children) node node := by
  intro cycle
  induction acc with
  | intro node _ hypothesis =>
    obtain ⟨next, call, rest⟩ := Relation.TransGen.head'_iff.mp cycle
    exact hypothesis next call (Relation.TransGen.tail' rest call)

variable {interior : Finset α}

/-- In a finite graph the calls below a node are finitely deep when no cycle is reached: the
nodes that lie below get fewer with each call. -/
lemma acc_of_acyclic (inside : ∀ {a b}, Calls children a b → a ∈ interior)
    (acyclic : ∀ other, Relation.ReflTransGen (Calls children) node other →
      ¬Relation.TransGen (Calls children) other other) :
    Acc (fun below above => Calls children above below) node := by
  classical
  induction count : (interior.filter (Relation.TransGen (Calls children) node)).card
    using Nat.strong_induction_on generalizing node with
  | _ bound hypothesis =>
    refine Acc.intro node fun next call => ?_
    by_cases inner : next ∈ interior
    · refine hypothesis _ ?_ (fun other reached => acyclic other (.head call reached)) rfl
      rw [← count]
      refine Finset.card_lt_card ⟨fun item mem => ?_, fun subset => ?_⟩
      · obtain ⟨inside, below⟩ := Finset.mem_filter.mp mem
        exact Finset.mem_filter.mpr ⟨inside, .head call below⟩
      · have self := Finset.mem_filter.mp (subset (Finset.mem_filter.mpr ⟨inner, .single call⟩))
        exact acyclic next (.single call) self.2
    · exact Acc.intro next fun below call => absurd (inside call) inner

/-- In a finite graph a walk returns exactly when it reaches neither a node whose visit fails
nor a cycle. -/
lemma returns_iff (inside : ∀ {a b}, Calls children a b → a ∈ interior) :
    (∃ fuel visited, walk children fuel node = some visited) ↔
      ∀ other, Relation.ReflTransGen (Calls children) node other →
        (∃ list, children other = some list) ∧ ¬Relation.TransGen (Calls children) other other := by
  constructor
  · rintro ⟨fuel, visited, done⟩ other reached
    refine ⟨children_of_walk done reached, not_transGen_of_acc ?_⟩
    induction reached with
    | refl => exact acc_of_walk done
    | tail _ call hypothesis => exact hypothesis.inv call
  · intro clean
    have acc := acc_of_acyclic inside fun other reached => (clean other reached).2
    induction acc with
    | intro node _ hypothesis =>
      obtain ⟨list, found⟩ := (clean node .refl).1
      obtain ⟨fuel, all⟩ := exists_common_fuel fun item mem =>
        hypothesis item ⟨list, found, mem⟩ fun other reached =>
          clean other (.head ⟨list, found, mem⟩ reached)
      obtain ⟨visited, done⟩ := exists_walk_succ found all
      exact ⟨fuel + 1, visited, done⟩

end GsKernel.Lib.UnmarkedWalk
