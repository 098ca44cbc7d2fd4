import GsKernel.Gvotable.Ballots

/-!
# Whether the result is stale

What the ballots and the default say (`verdict`) against what the election holds (`outcome`). A
monitor beside the run notes whether they have moved apart: by changes made while a result is
forced, or by a default that is set while none is in use.
-/

namespace GsKernel.Gvotable

open Lib.Strings

variable {V : Type} (params : Params V)

/-- What the ballots say: the first enabled ballot, else the default in use. -/
def verdict (el : Election V) : Option (StoredReason × V) :=
  match el.votes.find? (·.enabled) with
  | some ballot =>
    some (ballot.reason, if params.isBoolType then params.boolVote true else ballot.vote)
  | none =>
    if el.hasDefaultVote = 1 then
      some (strlcpy defaultReason GVOTABLE_MAX_REASON_LEN, params.deref el.defaultVote)
    else none

/-- What the election holds. -/
def outcome (el : Election V) : Option (StoredReason × V) :=
  if el.resultIsValid then some (el.reason, el.result) else none

/-- An outcome is a verdict up to votes that the comparator finds equal. -/
def Agrees : Option (StoredReason × V) → Option (StoredReason × V) → Prop
  | some (reason, result), some (winner, vote) =>
    reason = winner ∧ (result = vote ∨ params.cmp result vote = 0)
  | none, none => True
  | _, _ => False

/-- Whether a call gets as far as running the election. -/
def runsElection (env : Env V) (el : Election V) : Call V → Bool
  | .castVote reason vote enabled =>
    decide (reason.chars ≠ [] ∧ ¬ (params.useAlloc = true ∧ vote = none) ∧
      0 ≤ (recordVote params env el reason (castValue params vote enabled) enabled).1)
  | .recastBallot reason enabled => decide (0 ≤ (recordRecast params env el reason enabled).1)
  | .setDefault defaultVal =>
    decide (¬ params.isBoolType = true ∧ el.hasDefaultVote = 1 ∧ el.defaultVote ≠ defaultVal)
  | .useDefault _ => !params.isBoolType
  | .runElection _ => true
  | _ => false

/-- What a call has changed when it comes to running the election. -/
def prepared (env : Env V) (el : Election V) : Call V → Election V
  | .castVote reason vote enabled =>
    if reason.chars = [] then el
    else if params.useAlloc = true ∧ vote = none then el
    else (recordVote params env el reason (castValue params vote enabled) enabled).2
  | .recastBallot reason enabled => (recordRecast params env el reason enabled).2
  | .setDefault defaultVal =>
    if params.isBoolType then el else { el with defaultVote := defaultVal, hasDefaultVote := 1 }
  | .useDefault defaultIsEnabled =>
    if params.isBoolType then el
    else { el with hasDefaultVote := if defaultIsEnabled then 1 else 0 }
  | .forceIntValue val => { el with forceResult := val }
  | .forceIntActive val => { el with forceResultIsEnabled := decide (val ≠ 0) }
  | _ => el

/-- A default is set while none is in use and no ballot is enabled. -/
def SetsUnusedDefault (el : Election V) : Call V → Prop
  | .setDefault _ => el.hasDefaultVote ≠ 1 ∧ ∀ ballot ∈ el.votes, ballot.enabled = false
  | _ => False

section Facts

variable {params} {env : Env V} {el next : Election V}

lemma outcome_of_ballotsOnly (kept : BallotsOnly el next) : outcome next = outcome el := by
  rw [outcome, outcome, kept.resultIsValid, kept.reason, kept.result]

lemma verdict_of_resultOnly (kept : ResultOnly el next) :
    verdict params next = verdict params el := by
  rw [verdict, verdict, kept.votes, kept.hasDefaultVote, kept.defaultVote]

/-- Declaring a result makes the outcome agree with it. -/
lemma agrees_declareResult (el : Election V) (reason : CString) (vote newResult : V)
    (distinct : vote = newResult ∨ ∀ result, params.cmp result vote ≠ 0) :
    Agrees params (outcome (declareResult params el reason vote newResult).2)
      (some (strlcpy reason GVOTABLE_MAX_REASON_LEN, newResult)) := by
  rw [outcome, if_pos (declareResult_valid reason vote newResult)]
  refine ⟨declareResult_reason reason vote newResult, ?_⟩
  rcases declareResult_result reason vote newResult with declared | ⟨kept, equal⟩
  · exact Or.inl declared
  · rcases distinct with rfl | never
    · exact Or.inr (kept ▸ equal)
    · exact absurd equal (never _)

/-- Running the election without a forced result makes outcome and verdict agree. -/
lemma agrees_internalRunElection (unforced : el.forceResultIsEnabled = false) :
    Agrees params (outcome (internalRunElection params el).2) (verdict params el) := by
  unfold verdict
  cases first : el.votes.find? (·.enabled) with
  | some ballot =>
    rw [internalRunElection_ballot unforced first]
    have distinct : ballot.vote = (if params.isBoolType then params.boolVote true else ballot.vote) ∨
        ∀ result, params.cmp result ballot.vote ≠ 0 := by
      cases isBool : params.isBoolType with
      | false => exact Or.inl rfl
      | true =>
        refine Or.inr fun result => ?_
        rw [params.boolCompares isBool]
        exact nofun
    simpa only [strlcpy_buffer] using agrees_declareResult el ballot.reason.toCString _ _ distinct
  | none =>
    by_cases inUse : el.hasDefaultVote = 1
    · rw [internalRunElection_default unforced first inUse]
      simpa only [if_pos inUse] using agrees_declareResult el _ _ _ (Or.inl rfl)
    · rw [internalRunElection_invalid unforced first inUse]
      simp [inUse, outcome, Agrees]

/-- Running the election with a forced result does nothing. -/
lemma outcome_forced (forced : el.forceResultIsEnabled = true) :
    outcome (internalRunElection params el).2 = outcome el := by
  rw [internalRunElection_forced forced]

/-- A recorded vote is followed by an election, unless recording failed. -/
lemma settle_of_quiet (quiet : Quiet params env) (recorded : Int × Election V) :
    (settle params env recorded).el =
      if 0 ≤ recorded.1 then (internalRunElection params recorded.2).2 else recorded.2 := by
  unfold settle
  by_cases failed : recorded.1 < 0
  · rw [if_pos failed, if_neg (Int.not_le.mpr failed)]
    rfl
  · rw [if_neg failed, if_pos (Int.not_lt.mp failed)]
    exact conclude_of_quiet quiet _ _

lemma callbackIf_of_quiet (quiet : Quiet params env) (due : Prop) [Decidable due] :
    (callbackIf params env due el).el = el := by
  unfold callbackIf
  split_ifs
  · exact callback_of_quiet quiet _
  · rfl

lemma rerunForDefault_of_quiet (quiet : Quiet params env) :
    (rerunForDefault params env el).el = (internalRunElection params el).2 := by
  unfold rerunForDefault
  dsimp only
  split_ifs
  · exact callback_of_quiet quiet _
  · rfl

lemma hasDefaultVote_self (inUse : el.hasDefaultVote = 1) : { el with hasDefaultVote := 1 } = el := by
  rw [← inUse]

/-- Replacing a default in use runs the election with the new one. -/
lemma setDefault_of_changed (quiet : Quiet params env) (notBool : ¬ params.isBoolType = true)
    {defaultVal : Ptr} (changed : el.hasDefaultVote = 1 ∧ el.defaultVote ≠ defaultVal) :
    (setDefault params env el defaultVal).el =
      (internalRunElection params { el with defaultVote := defaultVal, hasDefaultVote := 1 }).2 := by
  have inUse : { el with defaultVote := defaultVal, hasDefaultVote := 1 } =
      { el with defaultVote := defaultVal } := by
    rw [← changed.1]
  have kept : (internalRunElection params { el with defaultVote := defaultVal }).2.hasDefaultVote = 1 :=
    (resultOnly_internalRunElection _).hasDefaultVote.trans changed.1
  simp only [setDefault, if_neg notBool, if_pos changed, Outcome.afterLock,
    rerunForDefault_of_quiet quiet]
  rw [hasDefaultVote_self kept, inUse]

/-- With a quiet callback, a call is its changes followed by an election or not. -/
lemma callStep_of_quiet (quiet : Quiet params env) (call : Call V) :
    callStep params el (env, call) = if runsElection params env el call then
        (internalRunElection params (prepared params env el call)).2
      else prepared params env el call := by
  cases call with
  | castVote reason vote enabled =>
    simp only [callStep, Call.run, castVote, runsElection, prepared]
    by_cases empty : reason.chars = []
    · simp [empty]
    · by_cases missing : params.useAlloc = true ∧ vote = none
      · simp [empty, missing]
      · simp only [if_neg empty, if_neg missing, Outcome.afterLock, settle_of_quiet quiet]
        simp [empty, missing]
  | recastBallot reason enabled =>
    simp only [runsElection, decide_eq_true_eq]
    exact settle_of_quiet quiet _
  | setDefault defaultVal =>
    by_cases isBool : params.isBoolType = true
    · simp [callStep, Call.run, runsElection, prepared, setDefault, isBool]
    by_cases changed : el.hasDefaultVote = 1 ∧ el.defaultVote ≠ defaultVal
    · have runs : runsElection params env el (.setDefault defaultVal) = true :=
        decide_eq_true ⟨isBool, changed⟩
      rw [if_pos runs, prepared, if_neg isBool]
      exact setDefault_of_changed quiet isBool changed
    · have skips : ¬ runsElection params env el (.setDefault defaultVal) = true :=
        fun runs => changed (of_decide_eq_true runs).2
      rw [if_neg skips, prepared, if_neg isBool]
      simp only [callStep, Call.run, setDefault, if_neg isBool, if_neg changed,
        Outcome.afterLock, unlockElection]
  | useDefault defaultIsEnabled =>
    by_cases isBool : params.isBoolType = true
    · simp [callStep, Call.run, runsElection, prepared, useDefault, isBool]
    · simp [callStep, Call.run, runsElection, prepared, useDefault, isBool, Outcome.afterLock,
        conclude_of_quiet quiet]
  | runElection forceCallback | forceIntValue val => exact callbackIf_of_quiet quiet _
  | forceIntActive val => exact callbackIf_of_quiet quiet _
  | _ => rfl

variable {call : Call V}

lemma ballotsOnly_prepared (isVote : call.IsVote) :
    BallotsOnly el (prepared params env el call) := by
  cases call with
  | castVote reason vote enabled =>
    have same := ballotsOnly_of_votes el el.votes el.numVoters
    dsimp only [prepared]
    split
    · exact same
    · split
      · exact same
      · exact ballotsOnly_recorded env (recorded_vote ..)
  | recastBallot reason enabled => exact ballotsOnly_recorded env (recorded_recast ..)
  | _ => exact absurd isVote id

lemma outcome_prepared (call : Call V) : outcome (prepared params env el call) = outcome el := by
  cases call with
  | castVote | recastBallot => exact outcome_of_ballotsOnly (ballotsOnly_prepared (by trivial))
  | setDefault defaultVal | useDefault defaultIsEnabled => dsimp only [prepared]; split <;> rfl
  | _ => rfl

/-- No call that runs the election touches the force flag. -/
lemma prepared_forced (runs : runsElection params env el call = true) :
    (prepared params env el call).forceResultIsEnabled = el.forceResultIsEnabled := by
  cases call with
  | castVote | recastBallot => exact (ballotsOnly_prepared (by trivial)).forceResultIsEnabled
  | setDefault defaultVal | useDefault defaultIsEnabled => dsimp only [prepared]; split <;> rfl
  | forceIntActive val => exact absurd runs Bool.false_ne_true
  | _ => rfl

/-- A call that runs the election without a forced result leaves them in agreement. -/
lemma agrees_callStep (quiet : Quiet params env)
    (runs : runsElection params env el call = true) (unforced : el.forceResultIsEnabled = false) :
    Agrees params (outcome (callStep params el (env, call)))
      (verdict params (callStep params el (env, call))) := by
  rw [callStep_of_quiet quiet, if_pos runs, verdict_of_resultOnly (resultOnly_internalRunElection _)]
  exact agrees_internalRunElection ((prepared_forced runs).trans unforced)

/-- Any other call keeps the outcome. -/
lemma outcome_callStep (quiet : Quiet params env)
    (skips : runsElection params env el call = true → el.forceResultIsEnabled = true) :
    outcome (callStep params el (env, call)) = outcome el := by
  rw [callStep_of_quiet quiet]
  split
  · next runs =>
      rw [outcome_forced ((prepared_forced runs).trans (skips runs)), outcome_prepared]
  · exact outcome_prepared call

lemma verdict_of_votes (kept : BallotsOnly el next) (votes : next.votes = el.votes) :
    verdict params next = verdict params el := by
  rw [verdict, verdict, votes, kept.hasDefaultVote, kept.defaultVote]

/-- A call that does not run the election and does not set an unused default leaves the
verdict alone. -/
lemma verdict_prepared (buffered : Buffered params el.votes)
    (skips : ¬ runsElection params env el call = true) (used : ¬ SetsUnusedDefault el call) :
    verdict params (prepared params env el call) = verdict params el := by
  cases call with
  | castVote reason vote enabled =>
    dsimp only [prepared]
    split
    · rfl
    · next named =>
        split
        · rfl
        · next given =>
            refine verdict_of_votes (ballotsOnly_recorded env (recorded_vote ..)) ?_
            refine (recorded_vote ..).failed buffered (Int.not_le.mp fun recorded => skips ?_)
            exact decide_eq_true ⟨named, given, recorded⟩
  | recastBallot reason enabled =>
    refine verdict_of_votes (ballotsOnly_recorded env (recorded_recast ..)) ?_
    exact (recorded_recast ..).failed buffered
      (Int.not_le.mp fun recorded => skips (decide_eq_true recorded))
  | setDefault defaultVal =>
    dsimp only [prepared]
    split
    · rfl
    · next notBool =>
        by_cases inUse : el.hasDefaultVote = 1
        · have same : el.defaultVote = defaultVal := by
            by_contra changed
            exact skips (decide_eq_true ⟨notBool, inUse, changed⟩)
          rw [← same, ← inUse]
        unfold verdict
        cases first : el.votes.find? (·.enabled) with
        | some ballot => rfl
        | none =>
          refine absurd ⟨inUse, ?_⟩ used
          simpa using first
  | useDefault defaultIsEnabled =>
    have isBool : params.isBoolType = true := by simpa [runsElection] using skips
    rw [prepared, if_pos isBool]
  | runElection forceCallback => exact absurd rfl skips
  | _ => rfl

lemma resultOnly_callbackIf (due : Prop) [Decidable due] :
    ResultOnly el (callbackIf params env due el).el := by
  unfold callbackIf
  split_ifs
  · exact resultOnly_callback env el
  · exact .refl el

/-- Whatever a callback does, a call only adds a result to its changes. -/
lemma resultOnly_callStep (call : Call V) :
    ResultOnly (prepared params env el call) (callStep params el (env, call)) := by
  cases call with
  | castVote reason vote enabled =>
    simp only [callStep, Call.run, castVote, prepared]
    split_ifs
    · exact .refl el
    · exact .refl el
    · exact resultOnly_settle env _
  | recastBallot reason enabled => exact resultOnly_settle env _
  | setDefault defaultVal =>
    simp only [callStep, Call.run, setDefault, prepared]
    split_ifs with isBool changed
    · exact .refl el
    · have ran : ResultOnly { el with defaultVote := defaultVal } (rerunForDefault params env
          { el with defaultVote := defaultVal }).el := by
        unfold rerunForDefault
        dsimp only
        split_ifs
        · exact (resultOnly_internalRunElection _).trans (resultOnly_callback env _)
        · exact resultOnly_internalRunElection _
      exact { ran with hasDefaultVote := rfl }
    · exact .refl _
  | useDefault defaultIsEnabled =>
    simp only [callStep, Call.run, useDefault, prepared]
    split_ifs
    · exact .refl el
    · exact resultOnly_conclude env _ 0
    · exact resultOnly_conclude env _ 0
  | runElection forceCallback =>
    exact (resultOnly_internalRunElection el).trans (resultOnly_callbackIf _)
  | forceIntValue val | forceIntActive val => exact resultOnly_callbackIf _
  | _ => exact .refl el

lemma buffered_callStep (buffered : Buffered params el.votes) (call : Call V) :
    Buffered params (callStep params el (env, call)).votes := by
  rw [(resultOnly_callStep call).votes]
  cases call with
  | castVote reason vote enabled =>
    dsimp only [prepared]
    split
    · exact buffered
    · split
      · exact buffered
      · exact (recorded_vote ..).buffered buffered
  | recastBallot reason enabled => exact (recorded_recast ..).buffered buffered
  | setDefault defaultVal | useDefault defaultIsEnabled =>
    dsimp only [prepared]
    split <;> exact buffered
  | _ => exact buffered

end Facts

/-- An election and whether its verdict has changed since the election last ran. -/
structure Watch (V : Type) where
  el : Election V
  pending : Bool

/-- A call beside the monitor: running the election without a forced result settles
what was pending, any other call that changes the verdict leaves it pending. -/
def watchStep [DecidableEq V] (watch : Watch V) (step : Env V × Call V) : Watch V :=
  let next := callStep params watch.el step
  { el := next
    pending :=
      if runsElection params step.1 watch.el step.2 && !watch.el.forceResultIsEnabled then false
      else watch.pending || decide (verdict params next ≠ verdict params watch.el) }

/-- What holds of an election and its monitor. -/
structure Fresh (watch : Watch V) : Prop where
  agrees : watch.pending = false → Agrees params (outcome watch.el) (verdict params watch.el)
  buffered : Buffered params watch.el.votes

section Runs

variable {params} {watch : Watch V}

lemma fresh_created : Fresh params ⟨created params, false⟩ := by
  unfold created
  split
  · refine ⟨fun _ => ?_, ?_⟩
    · rw [createBoolElection, verdict_of_resultOnly (resultOnly_internalRunElection _)]
      exact agrees_internalRunElection rfl
    · rw [createBoolElection, (resultOnly_internalRunElection _).votes]
      exact fun _ => nofun
  · exact ⟨fun _ => trivial, fun _ => nofun⟩

variable [DecidableEq V]

/-- A call keeps the monitor right. -/
lemma fresh_watchStep {step : Env V × Call V} (fresh : Fresh params watch)
    (quiet : Quiet params step.1) : Fresh params (watchStep params watch step) := by
  obtain ⟨env, call⟩ := step
  refine ⟨?_, buffered_callStep fresh.buffered call⟩
  intro settled
  by_cases ran : runsElection params env watch.el call = true ∧
      watch.el.forceResultIsEnabled = false
  · exact agrees_callStep quiet ran.1 ran.2
  simp only [watchStep] at settled ⊢
  rw [if_neg (by simpa using ran), Bool.or_eq_false_iff] at settled
  obtain ⟨before, unchanged⟩ := settled
  have same : verdict params (callStep params watch.el (env, call)) =
      verdict params watch.el := by simpa using unchanged
  have kept : outcome (callStep params watch.el (env, call)) = outcome watch.el := by
    refine outcome_callStep quiet fun runs => ?_
    by_contra unforced
    exact ran ⟨runs, Bool.eq_false_iff.mpr unforced⟩
  rw [same, kept]
  exact fresh.agrees before

/-- Without a forced result, only setting an unused default leaves a change pending. -/
lemma pending_watchStep {env : Env V} {call : Call V} (fresh : Fresh params watch)
    (quiet : Quiet params env) (unforced : watch.el.forceResultIsEnabled = false)
    (settled : watch.pending = false) (used : ¬ SetsUnusedDefault watch.el call) :
    (watchStep params watch (env, call)).pending = false := by
  by_cases runs : runsElection params env watch.el call = true
  · simp [watchStep, runs, unforced]
  · have same : verdict params (callStep params watch.el (env, call)) =
        verdict params watch.el := by
      rw [callStep_of_quiet quiet, if_neg runs]
      exact verdict_prepared fresh.buffered runs used
    simp [watchStep, runs, settled, same]

end Runs

/-- In every run of calls whose callbacks set no result: unless a change is pending, the
election holds what the ballots and the default say, up to votes its comparator finds
equal; and without a forced result a call leaves a change pending only by setting a
default while none is in use and no ballot is enabled. -/
theorem outcome_agrees_foldl [DecidableEq V] (calls : List (Env V × Call V))
    (quiet : ∀ step ∈ calls, Quiet params step.1) :
    let watch := calls.foldl (watchStep params) ⟨created params, false⟩
    (watch.pending = false → Agrees params (outcome watch.el) (verdict params watch.el)) ∧
    ∀ (env : Env V) (call : Call V), Quiet params env →
      watch.el.forceResultIsEnabled = false → watch.pending = false →
      ¬ SetsUnusedDefault watch.el call → (watchStep params watch (env, call)).pending = false := by
  have fresh : Fresh params (calls.foldl (watchStep params) ⟨created params, false⟩) :=
    List.foldlRecOn calls (watchStep params) fresh_created
      fun _ before step mem => fresh_watchStep before (quiet step mem)
  exact ⟨fresh.agrees, fun _ _ => pending_watchStep fresh⟩

/-- A vote is cast while a result is forced, and the result is released. -/
def releasingCalls : List (Env Ptr × Call Ptr) :=
  [(quietEnv, .forceIntActive 1), (quietEnv, .castVote voterA (some 5) true),
    (quietEnv, .forceIntActive 0)]

/-- The release followed by a run of the election. -/
def rerunCalls : List (Env Ptr × Call Ptr) := releasingCalls ++ [(quietEnv, .runElection false)]

/-- Running the election after the release makes result and ballots agree. -/
theorem outcome_agrees_after_rerun : Agrees exampleParams
      (outcome (rerunCalls.foldl (watchStep exampleParams) ⟨created exampleParams, false⟩).el)
      (verdict exampleParams
        (rerunCalls.foldl (watchStep exampleParams) ⟨created exampleParams, false⟩).el) := by
  have settled : (rerunCalls.foldl (watchStep exampleParams)
      ⟨created exampleParams, false⟩).pending = false := by decide +kernel
  exact (outcome_agrees_foldl exampleParams rerunCalls fun step _ => quiet_intParams step.1).1 settled

/-- An int election made without a comparator. -/
def noneParams : Params Ptr :=
  { intParams comparatorMostRecent true fullNameHash with
    cmpIsNone := true, noneCompares := fun _ => rfl }

/-- A callback that sets the result 9 with the reason "B". -/
def overridingEnv : Env Ptr := ⟨true, true, ⟨0, [(voterB, some 9)]⟩⟩

/-- Four ways in which the election holds something else than its ballots say: a
callback sets the result; two votes of one voter are equal to the comparator; ballots
change while a result is forced; a default is set again after `gvotable_use_default`
switched it off. -/
theorem outcome_differs :
    (let el := callStep noneParams (created noneParams)
      (overridingEnv, .castVote voterA (some 1) true)
    outcome el ≠ verdict noneParams el) ∧
    (let calls := [(quietEnv, Call.castVote voterA (some 1) true),
      (quietEnv, .castVote voterA (some 0x100000001) true)]
    let el := calls.foldl (callStep exampleParams) (created exampleParams)
    outcome el ≠ verdict exampleParams el) ∧
    (let el := releasingCalls.foldl (callStep exampleParams) (created exampleParams)
    el.forceResultIsEnabled = false ∧ outcome el ≠ verdict exampleParams el) ∧
    (let calls := [(quietEnv, Call.setDefault 5), (quietEnv, .useDefault false),
      (quietEnv, .setDefault 7)]
    let el := calls.foldl (callStep exampleParams) (created exampleParams)
    outcome el ≠ verdict exampleParams el) := by
  decide +kernel

end GsKernel.Gvotable
