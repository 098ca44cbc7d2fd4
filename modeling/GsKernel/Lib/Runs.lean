import Mathlib

/-!
# Runs of fallible steps

A step function that may stop is run over a list of inputs by `List.foldlM`. `foldlM_simulates` is
the forward simulation rule, with `foldlM_invariant` its case for invariants; `foldlM_preserves`
and `foldlM_history`, which looks back on the inputs, speak of the runs that succeed.

`Along` is the condition of a run whose steps are restricted by the state each starts from, with
the rules for total steps; `AlongM` the same for steps that are not always possible, with a rule
for the runs that leave the condition.
-/

namespace GsKernel.Lib.Runs

open List Option

variable {σ τ α ε : Type*}

/-- Forward simulation of an abstract fold by a concrete fallible one. -/
lemma foldlM_simulates (related : σ → τ → Prop) (admissible : α → Prop)
    (step : σ → α → Except ε σ) (abstractStep : τ → α → τ)
    (simulates : ∀ concrete abstract input, related concrete abstract → admissible input →
      ∃ next, step concrete input = .ok next ∧ related next (abstractStep abstract input))
    (inputs : List α) {concrete : σ} (abstract : τ) (start : related concrete abstract)
    (allowed : ∀ input ∈ inputs, admissible input) :
    ∃ final, inputs.foldlM step concrete = .ok final ∧
      related final (inputs.foldl abstractStep abstract) := by
  induction inputs generalizing concrete abstract with
  | nil => exact ⟨concrete, rfl, start⟩
  | cons input inputs ih =>
    rw [forall_mem_cons] at allowed
    obtain ⟨next, stepped, kept⟩ := simulates concrete abstract input start allowed.1
    obtain ⟨final, ran, related⟩ := ih _ kept allowed.2
    refine ⟨final, ?_, related⟩
    rw [foldlM_cons, stepped]
    exact ran

variable {state : σ}

/-- The invariant rule: the simulation rule with nothing on the abstract side. -/
lemma foldlM_invariant (invariant : σ → Prop) (admissible : α → Prop) (step : σ → α → Except ε σ)
    (preserved : ∀ state input, invariant state → admissible input →
      ∃ next, step state input = .ok next ∧ invariant next)
    (inputs : List α) (start : invariant state) (allowed : ∀ input ∈ inputs, admissible input) :
    ∃ final, inputs.foldlM step state = .ok final ∧ invariant final :=
  foldlM_simulates (fun state (_ : Unit) => invariant state) admissible step (fun _ _ => ())
    (fun state _ input => preserved state input) inputs () start allowed

variable {state final : σ}

/-- The invariant rule for runs of steps that may not be possible. -/
lemma foldlM_preserves (invariant : σ → Prop) (step : σ → α → Option σ)
    (preserved : ∀ state input next, invariant state → step state input = some next →
      invariant next) (inputs : List α) (start : invariant state)
    (ran : inputs.foldlM step state = some final) : invariant final := by
  induction inputs generalizing state with
  | nil =>
    obtain rfl : state = final := by simpa using ran
    exact start
  | cons input inputs ih =>
    rw [foldlM_cons] at ran
    obtain ⟨next, stepped, rest⟩ := bind_eq_some_iff.mp ran
    exact ih (preserved state input next start stepped) rest

/-- The invariant rule for properties that look back on the inputs of the run. -/
lemma foldlM_history (invariant : List α → σ → Prop) (step : σ → α → Option σ)
    (preserved : ∀ past state input next, invariant past state → step state input = some next →
      invariant (past ++ [input]) next) (inputs : List α) (start : invariant [] state)
    (ran : inputs.foldlM step state = some final) : invariant inputs final := by
  induction inputs using reverseRecOn generalizing final with
  | nil =>
    obtain rfl : state = final := by simpa using ran
    exact start
  | append_singleton inputs input ih =>
    rw [foldlM_append] at ran
    obtain ⟨middle, before, last⟩ := bind_eq_some_iff.mp ran
    have stepped : step middle input = some final := by simpa using last
    exact preserved inputs middle input final (ih before) stepped

/-- A decidable property of the state that a run reaches, by evaluation. -/
lemma exists_reached {run : Option σ} (property : σ → Prop) [DecidablePred property]
    (holds : run.any (fun state => decide (property state)) = true) :
    ∃ state, run = some state ∧ property state := by
  obtain ⟨state, reached, found⟩ := (any_eq_true _ _).mp holds
  exact ⟨state, reached, of_decide_eq_true found⟩

/-- Every step of a run meets a condition on the state it starts from. -/
def Along (step : σ → α → σ) (admissible : σ → α → Prop) : σ → List α → Prop
  | _, [] => True
  | state, input :: inputs =>
    admissible state input ∧ Along step admissible (step state input) inputs

/-- Forward simulation of a run of total steps whose abstract steps meet a condition. -/
lemma foldl_simulates_along (related : σ → τ → Prop) (step : σ → α → σ) (abstractStep : τ → α → τ)
    (admissible : τ → α → Prop)
    (simulates : ∀ concrete abstract input, related concrete abstract → admissible abstract input →
      related (step concrete input) (abstractStep abstract input))
    (inputs : List α) (concrete : σ) {abstract : τ} (start : related concrete abstract)
    (along : Along abstractStep admissible abstract inputs) :
    related (inputs.foldl step concrete) (inputs.foldl abstractStep abstract) := by
  induction inputs generalizing concrete abstract with
  | nil => exact start
  | cons input inputs ih =>
    exact ih _ (simulates concrete abstract input start along.1) along.2

/-- The invariant rule for runs of total steps. -/
lemma foldl_invariant_along (invariant : σ → Prop) (step : σ → α → σ) (admissible : σ → α → Prop)
    (preserved : ∀ state input, invariant state → admissible state input →
      invariant (step state input)) (inputs : List α) (start : invariant state)
    (along : Along step admissible state inputs) : invariant (inputs.foldl step state) :=
  foldl_simulates_along (fun (_ : Unit) state => invariant state) (fun _ _ => ()) step admissible
    (fun _ state input => preserved state input) inputs () start along

/-- The same for steps that are not always possible. -/
def AlongM (step : σ → α → Option σ) (admissible : σ → α → Prop) : σ → List α → Prop
  | _, [] => True
  | state, input :: inputs =>
    admissible state input ∧
      ∀ next, step state input = some next → AlongM step admissible next inputs

/-- `AlongM` of a decidable condition as a computation. -/
def alongMCheck (step : σ → α → Option σ) (admissible : σ → α → Bool) : σ → List α → Bool
  | _, [] => true
  | state, input :: inputs =>
    admissible state input &&
      (step state input).all fun next => alongMCheck step admissible next inputs

lemma alongM_of_check {step : σ → α → Option σ} {admissible : σ → α → Prop}
    [∀ state input, Decidable (admissible state input)] {inputs : List α}
    (checked : alongMCheck step (fun state input => decide (admissible state input)) state inputs =
      true) : AlongM step admissible state inputs := by
  induction inputs generalizing state with
  | nil => trivial
  | cons input inputs ih =>
    rw [alongMCheck, Bool.and_eq_true] at checked
    refine ⟨of_decide_eq_true checked.1, fun next ran => ih ?_⟩
    simpa only [ran, all_some] using checked.2

/-- Forward simulation of a run whose steps meet a condition. -/
lemma foldlM_simulates_along (related : σ → τ → Prop) (step : σ → α → Option σ)
    (abstractStep : τ → α → τ) (admissible : σ → α → Prop)
    (simulates : ∀ concrete abstract input next, related concrete abstract →
      admissible concrete input → step concrete input = some next →
      related next (abstractStep abstract input))
    (inputs : List α) {concrete final : σ} (abstract : τ) (start : related concrete abstract)
    (along : AlongM step admissible concrete inputs)
    (ran : inputs.foldlM step concrete = some final) :
    related final (inputs.foldl abstractStep abstract) := by
  induction inputs generalizing concrete abstract with
  | nil =>
    obtain rfl : concrete = final := by simpa using ran
    exact start
  | cons input inputs ih =>
    rw [foldlM_cons] at ran
    obtain ⟨next, stepped, rest⟩ := bind_eq_some_iff.mp ran
    exact ih _ (simulates concrete abstract input next start along.1 stepped)
      (along.2 next stepped) rest

lemma foldlM_invariant_along (invariant : σ → Prop) (step : σ → α → Option σ)
    (admissible : σ → α → Prop)
    (preserved : ∀ state input next, invariant state → admissible state input →
      step state input = some next → invariant next) (inputs : List α) (start : invariant state)
    (along : AlongM step admissible state inputs)
    (ran : inputs.foldlM step state = some final) : invariant final :=
  foldlM_simulates_along (fun state (_ : Unit) => invariant state) step (fun _ _ => ()) admissible
    (fun state _ input next => preserved state input next) inputs () start along ran

/-- The same when every step that meets the condition is possible. -/
lemma foldlM_total_along (invariant : σ → Prop) (step : σ → α → Option σ)
    (admissible : σ → α → Prop)
    (preserved : ∀ state input, invariant state → admissible state input →
      ∃ next, step state input = some next ∧ invariant next)
    (inputs : List α) (start : invariant state) (along : AlongM step admissible state inputs) :
    ∃ final, inputs.foldlM step state = some final ∧ invariant final := by
  induction inputs generalizing state with
  | nil => exact ⟨state, rfl, start⟩
  | cons input inputs ih =>
    obtain ⟨next, stepped, kept⟩ := preserved state input start along.1
    obtain ⟨final, ran, reached⟩ := ih kept (along.2 next stepped)
    exact ⟨final, by rw [foldlM_cons, stepped]; exact ran, reached⟩

/-- A run that leaves the condition at some step ends in a state where what that step
broke is still broken. -/
lemma foldlM_broken (invariant broken : σ → Prop) (step : σ → α → Option σ)
    (admissible : σ → α → Prop)
    (preserved : ∀ state input next, invariant state → step state input = some next →
      invariant next) (breaks : ∀ state input next, invariant state → ¬ admissible state input →
      step state input = some next → broken next)
    (stays : ∀ state input next, invariant state → broken state →
      step state input = some next → broken next) (inputs : List α) (start : invariant state)
    (left : ¬ AlongM step admissible state inputs)
    (ran : inputs.foldlM step state = some final) : broken final := by
  induction inputs generalizing state with
  | nil => exact absurd trivial left
  | cons input inputs ih =>
    rw [foldlM_cons] at ran
    obtain ⟨next, stepped, rest⟩ := bind_eq_some_iff.mp ran
    have reached := preserved state input next start stepped
    by_cases here : admissible state input
    · refine ih reached (fun along => left ⟨here, ?_⟩) rest
      rintro other same
      obtain rfl : next = other := some.inj (stepped.symm.trans same)
      exact along
    · have together := foldlM_preserves (fun state => invariant state ∧ broken state) step
        (fun state input next both stepped => ⟨preserved state input next both.1 stepped,
          stays state input next both.1 both.2 stepped⟩)
        inputs ⟨reached, breaks state input next start here stepped⟩ rest
      exact together.2

end GsKernel.Lib.Runs
