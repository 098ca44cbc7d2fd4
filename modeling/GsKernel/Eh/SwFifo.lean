import GsKernel.Lib.Runs

/-!
# The order of Emerald Hill's software FIFO

`request_to_sw_fifo` adds a request at the tail of the list, and `first_to_eh_request` takes from
the tail as well. The lists run from `head.next` to `head.prev`.
-/

namespace GsKernel.Eh

open Lib.Runs
open Option (ite_none_left_eq_some)

/-- `sw_fifo` and `pool`, the calls of `request_to_sw_fifo` with an element of the pool, the list
and `nr_processed` of a flush, and the requests added and handed over so far. -/
structure SwFifo (ρ : Type) where
  pool : Nat
  allocated : Nat
  head : List ρ
  count : Int
  flushing : Bool
  list : List ρ
  processed : Nat
  added : List ρ
  handed : List ρ

/-- The steps of `request_to_sw_fifo` and `flush_sw_fifo`, and `refill_hw_fifo`. The hardware FIFO
may be full whenever it is tried. -/
inductive SwStep (ρ : Type) where
  | poolAlloc
  | add (req : ρ)
  | splice
  | flushOne (full : Bool)
  | refill (full : Bool)

variable {ρ : Type}

/-- The request that `first_to_eh_request` gives, if `request_to_hw_fifo` takes it. -/
def firstToHw (list : List ρ) (full : Bool) : Option ρ := if full then none else list.getLast?

namespace SwFifo

/-- `create_sw_fifo`. -/
def create (ρ : Type) (size : Nat) : SwFifo ρ := ⟨size, 0, [], 0, false, [], 0, [], []⟩

variable (fifo : SwFifo ρ)

/-- One step, if it is possible. The thread that flushes is the one that refills. -/
def step : SwStep ρ → Option (SwFifo ρ)
  | .poolAlloc =>
    if fifo.pool = 0 then none
    else some { fifo with pool := fifo.pool - 1, allocated := fifo.allocated + 1 }
  | .add req =>
    if fifo.allocated = 0 then none
    else
      some { fifo with
        allocated := fifo.allocated - 1
        head := fifo.head ++ [req]
        count := fifo.count + 1
        added := fifo.added ++ [req] }
  | .splice =>
    if fifo.flushing then none
    else some { fifo with head := [], flushing := true, list := fifo.head, processed := 0 }
  | .flushOne full =>
    if !fifo.flushing then none
    else
      match firstToHw fifo.list full with
      | some req =>
        some { fifo with
          list := fifo.list.dropLast
          pool := fifo.pool + 1
          processed := fifo.processed + 1
          handed := fifo.handed ++ [req] }
      | none =>
        some { fifo with
          head := fifo.list ++ fifo.head
          count := fifo.count - fifo.processed
          flushing := false
          list := []
          processed := 0 }
  | .refill full =>
    if fifo.flushing then none
    else
      match firstToHw fifo.head full with
      | some req =>
        some { fifo with
          head := fifo.head.dropLast
          count := fifo.count - 1
          pool := fifo.pool + 1
          handed := fifo.handed ++ [req] }
      | none => some fifo

/-- A request is added only when none waits. -/
def Meets : SwStep ρ → Prop
  | .add _ => fifo.list = [] ∧ fifo.head = []
  | _ => True

/-- The counts, with what a flush has not counted yet. -/
structure Counted (size : Nat) : Prop where
  count : fifo.count = fifo.list.length + fifo.head.length + fifo.processed
  pool : fifo.pool + fifo.allocated + fifo.list.length + fifo.head.length = size
  still : fifo.flushing = false → fifo.list = [] ∧ fifo.processed = 0

/-- At most one request waits, and the others were handed over in order. -/
structure Ordered : Prop where
  still : fifo.flushing = false → fifo.list = []
  single : fifo.list.length + fifo.head.length ≤ 1
  order : fifo.added = fifo.handed ++ fifo.list ++ fifo.head

variable {fifo} {next : SwFifo ρ} {move : SwStep ρ}

/-- A request that is handed over was the last of its list. -/
lemma firstToHw_eq {list : List ρ} {full : Bool} {req : ρ}
    (first : firstToHw list full = some req) : list = list.dropLast ++ [req] := by
  unfold firstToHw at first
  split at first
  · cases first
  · exact (List.dropLast_append_getLast? req first).symm

lemma firstToHw_single {list : List ρ} {full : Bool} {req : ρ}
    (first : firstToHw list full = some req) (short : list.length ≤ 1) : list = [req] := by
  have last := firstToHw_eq first
  rw [last, List.length_append, List.length_singleton] at short
  rwa [List.length_eq_zero_iff.mp (by omega : list.dropLast.length = 0)] at last

section

variable (stepped : fifo.step move = some next)
include stepped

/-- A step keeps the counts. -/
lemma Counted.step {size : Nat} (counted : fifo.Counted size) : next.Counted size := by
  obtain ⟨count, pool, still⟩ := counted
  unfold SwFifo.step at stepped
  cases move with
  | poolAlloc =>
    obtain ⟨free, ⟨⟩⟩ := ite_none_left_eq_some.mp stepped
    exact ⟨count, by grind, still⟩
  | add req =>
    obtain ⟨taken, ⟨⟩⟩ := ite_none_left_eq_some.mp stepped
    exact ⟨by grind, by grind, still⟩
  | splice =>
    obtain ⟨idle, ⟨⟩⟩ := ite_none_left_eq_some.mp stepped
    obtain ⟨list, processed⟩ := still (Bool.eq_false_iff.mpr idle)
    exact ⟨by grind, by grind, nofun⟩
  | flushOne full =>
    obtain ⟨running, stepped⟩ := ite_none_left_eq_some.mp stepped
    split at stepped
    · rename_i req first
      cases stepped
      have last := congrArg List.length (firstToHw_eq first)
      exact ⟨by grind, by grind, by grind⟩
    · cases stepped
      exact ⟨by grind, by grind, fun _ => ⟨rfl, rfl⟩⟩
  | refill full =>
    obtain ⟨idle, stepped⟩ := ite_none_left_eq_some.mp stepped
    split at stepped
    · rename_i req first
      cases stepped
      have last := congrArg List.length (firstToHw_eq first)
      exact ⟨by grind, by grind, still⟩
    · cases stepped
      exact ⟨count, pool, still⟩

/-- A step that adds no request behind another keeps the order. -/
lemma Ordered.step (ordered : fifo.Ordered) (meets : fifo.Meets move) : next.Ordered := by
  obtain ⟨still, single, order⟩ := ordered
  unfold SwFifo.step at stepped
  cases move with
  | poolAlloc =>
    obtain ⟨free, ⟨⟩⟩ := ite_none_left_eq_some.mp stepped
    exact ⟨still, single, order⟩
  | add req =>
    obtain ⟨taken, ⟨⟩⟩ := ite_none_left_eq_some.mp stepped
    obtain ⟨list, head⟩ := meets
    exact ⟨still, by simp [list, head], by simp [order, list, head]⟩
  | splice =>
    obtain ⟨idle, ⟨⟩⟩ := ite_none_left_eq_some.mp stepped
    have list := still (Bool.eq_false_iff.mpr idle)
    exact ⟨nofun, by simpa [list] using single, by simpa [list] using order⟩
  | flushOne full =>
    obtain ⟨running, stepped⟩ := ite_none_left_eq_some.mp stepped
    split at stepped
    · -- the request that leaves is the only one that waits
      rename_i req first
      cases stepped
      have only := firstToHw_single first (by omega)
      have head : fifo.head = [] := by simpa [only] using single
      exact ⟨by simp [only], by simp [only, head], by simp [order, only, head]⟩
    · cases stepped
      exact ⟨fun _ => rfl, by simpa using single, by simpa using order⟩
  | refill full =>
    obtain ⟨idle, stepped⟩ := ite_none_left_eq_some.mp stepped
    have list := still (Bool.eq_false_iff.mpr idle)
    split at stepped
    · rename_i req first
      cases stepped
      have only := firstToHw_single first (by omega)
      exact ⟨still, by simp [list, only], by simp [order, list, only]⟩
    · cases stepped
      exact ⟨still, single, order⟩

end

/-- A request was handed over as often as it was added, but for the times it waits. -/
def Balanced [DecidableEq ρ] (req : ρ) (fifo : SwFifo ρ) : Prop :=
  fifo.added.count req = fifo.handed.count req + fifo.list.count req + fifo.head.count req

/-- A step moves requests between the lists and loses none. -/
lemma Balanced.step [DecidableEq ρ] {size : Nat} {req : ρ} (balanced : fifo.Balanced req)
    (counted : fifo.Counted size) (stepped : fifo.step move = some next) : next.Balanced req := by
  have still := counted.still
  unfold Balanced at *
  unfold SwFifo.step at stepped
  cases move with
  | poolAlloc =>
    obtain ⟨free, ⟨⟩⟩ := ite_none_left_eq_some.mp stepped
    exact balanced
  | add added =>
    obtain ⟨taken, ⟨⟩⟩ := ite_none_left_eq_some.mp stepped
    rw [List.count_append, balanced, List.count_append, add_assoc]
  | splice =>
    obtain ⟨idle, ⟨⟩⟩ := ite_none_left_eq_some.mp stepped
    simpa [still (Bool.eq_false_iff.mpr idle)] using balanced
  | flushOne full =>
    obtain ⟨running, stepped⟩ := ite_none_left_eq_some.mp stepped
    split at stepped
    · rename_i first
      cases stepped
      have last := congrArg (List.count req) (firstToHw_eq first)
      grind
    · cases stepped
      grind
  | refill full =>
    obtain ⟨idle, stepped⟩ := ite_none_left_eq_some.mp stepped
    split at stepped
    · rename_i first
      cases stepped
      have last := congrArg (List.count req) (firstToHw_eq first)
      grind
    · cases stepped
      exact balanced

end SwFifo

open SwFifo

/-- Without a flush and a request on its way the counts are those of the lists. If requests are
added only when none waits, they are handed over in the order in which they were added. -/
theorem sw_fifo_in_order (size : Nat) (moves : List (SwStep ρ)) (fifo : SwFifo ρ)
    (ran : moves.foldlM step (create ρ size) = some fifo) :
    (fifo.flushing = false → fifo.allocated = 0 →
      fifo.count = fifo.head.length ∧ fifo.pool + fifo.count = size) ∧
    (AlongM step Meets (create ρ size) moves → fifo.handed <+: fifo.added) := by
  constructor
  · intro still none
    obtain ⟨count, pool, empty⟩ := foldlM_preserves (Counted · size) step
      (fun _ _ _ counted stepped => counted.step stepped) moves
      ⟨rfl, by simp [create], fun _ => ⟨rfl, rfl⟩⟩ ran
    obtain ⟨list, processed⟩ := empty still
    rw [list, List.length_nil] at count pool
    omega
  · intro meets
    have ordered := foldlM_invariant_along Ordered step Meets
      (fun _ _ _ ordered meets stepped => ordered.step stepped meets) moves
      ⟨fun _ => rfl, by simp [create], rfl⟩ meets ran
    exact ⟨_, (List.append_assoc _ _ _).symm.trans ordered.order.symm⟩

/-- A request is handed over by a flush and the next one by a refill, and a third one waits. -/
theorem sw_fifo_in_order_three :
    [.poolAlloc, .add 1, .splice, .flushOne false, .flushOne false, .poolAlloc, .add 2,
        .refill false, .poolAlloc, .add 3].foldlM step (create Nat 2) =
      some ⟨1, 0, [3], 1, false, [], 0, [1, 2, 3], [1, 2]⟩ ∧ [1, 2] <+: [1, 2, 3] :=
  ⟨rfl, (sw_fifo_in_order 2 [.poolAlloc, .add 1, .splice, .flushOne false, .flushOne false,
    .poolAlloc, .add 2, .refill false, .poolAlloc, .add 3] _ rfl).2
    (by simp [AlongM, Meets, SwFifo.step, create, firstToHw])⟩

/-- Of two requests that wait the second is handed over first. -/
theorem sw_fifo_reverses : ∃ fifo, [.poolAlloc, .add 1, .poolAlloc, .add 2, .splice,
      .flushOne false].foldlM step (create Nat 2) = some fifo ∧
    fifo.added = [1, 2] ∧ fifo.handed = [2] :=
  ⟨_, rfl, rfl, rfl⟩

/-- In whatever order requests are handed over, none is lost and none is handed over twice. -/
theorem sw_fifo_loses_none [DecidableEq ρ] (size : Nat) (moves : List (SwStep ρ))
    (fifo : SwFifo ρ) (ran : moves.foldlM step (create ρ size) = some fifo) (req : ρ) :
    fifo.Balanced req :=
  (foldlM_preserves (fun fifo => fifo.Counted size ∧ fifo.Balanced req) step
    (fun _ _ _ held stepped => ⟨held.1.step stepped, held.2.step held.1 stepped⟩) moves
    ⟨⟨rfl, by simp [create], fun _ => ⟨rfl, rfl⟩⟩, rfl⟩ ran).2

theorem sw_fifo_loses_none_two : [1, 2].count 1 = [2].count 1 + [1].count 1 + [].count 1 :=
  sw_fifo_loses_none 2 [.poolAlloc, .add 1, .poolAlloc, .add 2, .splice, .flushOne false]
    ⟨1, 0, [], 2, true, [1], 1, [1, 2], [2]⟩ rfl 1

end GsKernel.Eh
