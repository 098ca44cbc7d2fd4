import Mathlib

/-!
# Pools of tasks

Tasks that interleave over a shared state: one atomic step of the task at some index
changes the shared state and replaces the task by what is left of it. The order of
the pool carries no meaning, so a step is described up to permutation, and what the
tasks hold of a resource is a sum over the pool.
-/

namespace GsKernel.Lib.Tasks

/-- A shared state and the tasks that run over it. -/
structure Pool (σ τ : Type*) where
  shared : σ
  tasks : List τ
deriving DecidableEq

variable {σ τ χ : Type*}

/-- One atomic step of the task at an index. `choice` is what the step leaves open. -/
def Pool.run (step : σ → τ → χ → Option (σ × List τ)) (pool : Pool σ τ) (index : Nat)
    (choice : χ) : Option (Pool σ τ) :=
  match pool.tasks[index]? with
  | none => none
  | some task =>
    (step pool.shared task choice).map fun (shared, rest) =>
      ⟨shared, rest ++ pool.tasks.eraseIdx index⟩

/-- A step of the pool is a step of one of its tasks beside the others. -/
lemma Pool.run_eq_some {step : σ → τ → χ → Option (σ × List τ)} {pool next : Pool σ τ}
    {index : Nat} {choice : χ} (ran : pool.run step index choice = some next) :
    ∃ task others rest, pool.tasks[index]? = some task ∧
      step pool.shared task choice = some (next.shared, rest) ∧
      pool.tasks.Perm (task :: others) ∧ next.tasks = rest ++ others := by
  unfold Pool.run at ran
  cases chosen : pool.tasks[index]? with
  | none => simp [chosen] at ran
  | some task =>
    rw [chosen] at ran
    obtain ⟨⟨shared, rest⟩, stepped, rfl⟩ := Option.map_eq_some_iff.mp ran
    obtain ⟨inside, rfl⟩ := List.getElem?_eq_some_iff.mp chosen
    exact ⟨pool.tasks[index], pool.tasks.eraseIdx index, rest, rfl, stepped,
      (List.getElem_cons_eraseIdx_perm inside).symm, rfl⟩

/-- What the tasks of a list hold together. -/
def total (weight : τ → Nat) (tasks : List τ) : Nat := (tasks.map weight).sum

section

variable (weight : τ → Nat)
include weight

@[simp]
lemma total_nil : total weight [] = 0 := rfl

@[simp]
lemma total_cons (task : τ) (tasks : List τ) :
    total weight (task :: tasks) = weight task + total weight tasks := List.sum_cons

@[simp]
lemma total_append (tasks others : List τ) :
    total weight (tasks ++ others) = total weight tasks + total weight others := by
  simp [total]

lemma total_perm {tasks others : List τ} (same : tasks.Perm others) :
    total weight tasks = total weight others := (same.map weight).sum_eq

end

lemma total_eq_zero {weight : τ → Nat} {tasks : List τ}
    (empty : ∀ task ∈ tasks, weight task = 0) : total weight tasks = 0 := by
  induction tasks with
  | nil => rfl
  | cons task tasks ih =>
    obtain ⟨first, others⟩ := List.forall_mem_cons.mp empty
    rw [total_cons, first, ih others]

end GsKernel.Lib.Tasks
