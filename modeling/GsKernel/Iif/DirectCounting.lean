import GsKernel.Iif.DirectSignals

/-!
# Counting the signals of a direct single-shot fence

The fence counts its signalers, `iif-direct.c` its timeline, and the fence table the signals that
remain. They stay in step through every sequence of calls, and so do the errors, except that the
fence learns of an error only with the last signal.
-/

namespace GsKernel.Iif

open DirectSystem Fence PollState List

variable {κ : Type} {total : Nat} {errors : List Int}

/-! The report of the last signal. -/

lemma lastError_valid (valid : ∀ error ∈ errors, -MAX_ERRNO ≤ error ∧ error ≤ 0) :
    -MAX_ERRNO ≤ lastError errors ∧ lastError errors ≤ 0 := by
  induction errors using reverseRecOn with
  | nil => decide
  | append_singleton errors error ih =>
    rw [lastError_append]
    split
    · exact ih fun other inside =>
        valid other (mem_append_left _ inside)
    · exact valid error (by simp)

lemma signalError_pollCbFuncLocked (poll : PollState κ) (flags : Flags) (status : Status) :
    (poll.pollCbFuncLocked .singleShot flags status).signalError = poll.nextError status := by
  unfold pollCbFuncLocked setStatusLocked
  dsimp only
  split
  · rw [notifyPollCbLocked_singleShot]
    split_ifs <;> rfl
  · rfl

/-- The first report of a fence without an error so far is taken over. -/
lemma reported_status (poll : PollState κ) (flags : Flags) (error : Int)
    (noError : poll.signalError = 0) (valid : -MAX_ERRNO ≤ error ∧ error ≤ 0) :
    (poll.reported .singleShot flags (some ⟨error, true, 0⟩)).signaled = true ∧
      (poll.reported .singleShot flags (some ⟨error, true, 0⟩)).signalError = error := by
  have inRange : ¬ (error > 0 ∨ error < -MAX_ERRNO) := by omega
  refine ⟨?_, ?_⟩
  · show (poll.pollCbFuncLocked .singleShot flags _).signaled = true
    rw [signaled_pollCbFuncLocked, Bool.or_true]
  · show (poll.pollCbFuncLocked .singleShot flags _).signalError = error
    rw [signalError_pollCbFuncLocked, nextError]
    simp [inRange, noError]

/-! The calls. -/

/-- What every sequence of calls keeps. -/
structure DirectSystem.Counted (system : DirectSystem κ) (total : Nat) : Prop where
  fenceType : system.fence.fenceType = .singleShot
  direct : system.fence.flags.direct = true
  propagate : system.fence.propagate = true
  remaining : system.fence.remainingSignalers = total
  submitted : system.fence.submittedSignalers ≤ total
  signaled : system.fence.signaledSignalers ≤ system.fence.submittedSignalers
  counted : system.fence.signaledSignalers = system.errors.length
  counts : system.direct.Counts total system.errors
  valid : ∀ error ∈ system.errors, -MAX_ERRNO ≤ error ∧ error ≤ 0
  pollSignaled : system.poll.signaled = decide (system.errors.length = total)
  pollError : system.poll.signalError =
    if system.errors.length = total then lastError system.errors else 0

variable {system : DirectSystem κ}

lemma submitSignalerLocked_fence (object : FenceObject κ) (mask : Ip → Bool) :
    ∃ wakelocks, (object.submitSignalerLocked.countWakelocks mask).fence =
      { object.fence with
        submittedSignalers := object.fence.submittedSignalers + 1
        outstandingBlockWakelock := wakelocks } := by
  unfold FenceObject.countWakelocks FenceObject.submitSignalerLocked
  dsimp only
  split <;> exact ⟨_, rfl⟩

/-- A submission that fails changes nothing, one that succeeds counts a signaler. -/
lemma submitSignaler_cases (system : DirectSystem κ) (sorting : Sorting Unit)
    (env : SubmitEnv Unit) :
    ((system.submitSignaler sorting env).1 ≠ 0 ∧ (system.submitSignaler sorting env).2 = system) ∨
    ((system.submitSignaler sorting env).1 = 0 ∧ system.fence.signalerSubmittable = 0 ∧
      (system.submitSignaler sorting env).2.direct = system.direct ∧
      (system.submitSignaler sorting env).2.poll = system.poll ∧
      (system.submitSignaler sorting env).2.errors = system.errors ∧
      ∃ wakelocks, (system.submitSignaler sorting env).2.fence =
        { system.fence with
          submittedSignalers := system.fence.submittedSignalers + 1
          outstandingBlockWakelock := wakelocks }) := by
  have sortedOut : sorting.sort system.fences.id [()] = [()] :=
    perm_singleton.mp (sorting.perm system.fences.id [()])
  have sortedIn : sorting.sort system.fences.id [] = [] :=
    perm_nil.mp (sorting.perm system.fences.id [])
  unfold submitSignaler
  rcases system.fences.submitSignalerAndWaiter_cases sorting env [] [()] 0 with
    ⟨-, ret, failed, result⟩ | ⟨-, -, result⟩ | ⟨-, -, result⟩
  · have nonZero : ret ≠ 0 := by
      rcases failed with rfl | rfl <;> decide
    rw [result]
    exact .inl ⟨nonZero, rfl⟩
  · have nonZero : -EDEADLK ≠ 0 := by decide
    rw [result]
    exact .inl ⟨nonZero, rfl⟩
  · rw [sortedIn, sortedOut] at result
    rcases system.fences.submitChecked_cases env.acquire [] [()] 0 with
      ⟨ret, failed, checked, -⟩ | ⟨-, submittable, checked⟩
    · rw [result, checked]
      exact .inl ⟨failed, rfl⟩
    rw [result, checked]
    refine .inr ⟨rfl, submittable () (mem_singleton.mpr rfl), rfl, rfl, rfl, ?_⟩
    have object : ((system.fences.hold (system.fences.submissionLocks [] [()] 0)).submitLocked
        [] [()] 0 (system.fences.waiterMasks [()])).objects () =
        Fences.submittedObject [] [()] 0 () (system.fences.objects ()) :=
      Fences.submitLocked_objects nodup_nil (nodup_singleton ())
        (disjoint_nil_left _) ()
    obtain ⟨wakelocks, counted⟩ := submitSignalerLocked_fence (system.fences.objects ())
      (system.fences.objects ()).fence.waiters
    refine ⟨wakelocks, ?_⟩
    show (Fences.objects _ ()).fence = _
    rw [object]
    exact counted

/-- Wakelocks and further submissions leave the counts of signals alone. -/
lemma DirectSystem.Counted.frame (counted : system.Counted total) {next : DirectSystem κ}
    {wakelocks : Ip → Nat} {submitted : Nat} (direct : next.direct = system.direct)
    (poll : next.poll = system.poll) (errors : next.errors = system.errors)
    (fence : next.fence = { system.fence with
      outstandingBlockWakelock := wakelocks, submittedSignalers := submitted })
    (more : system.fence.submittedSignalers ≤ submitted) (room : submitted ≤ total) :
    next.Counted total := by
  constructor
  case fenceType => rw [fence]; exact counted.fenceType
  case direct => rw [fence]; exact counted.direct
  case propagate => rw [fence]; exact counted.propagate
  case remaining => rw [fence]; exact counted.remaining
  case submitted => rw [fence]; exact room
  case signaled => rw [fence]; exact counted.signaled.trans more
  case counted => rw [fence, errors]; exact counted.counted
  case counts => rw [direct, errors]; exact counted.counts
  case valid => rw [errors]; exact counted.valid
  case pollSignaled => rw [poll, errors]; exact counted.pollSignaled
  case pollError => rw [poll, errors]; exact counted.pollError

lemma DirectSystem.Counted.submitSignaler (counted : system.Counted total)
    (sorting : Sorting Unit) (env : SubmitEnv Unit) :
    (system.submitSignaler sorting env).2.Counted total := by
  rcases submitSignaler_cases system sorting env with
    ⟨-, same⟩ | ⟨-, submittable, direct, poll, errors, wakelocks, fence⟩
  · rw [same]
    exact counted
  obtain ⟨unsubmitted, -⟩ := signalerSubmittable_eq_zero.mp submittable
  have room : system.fence.submittedSignalers < total := by
    have total := counted.remaining
    have submitted := counted.submitted
    unfold unsubmittedSignalers at unsubmitted
    omega
  exact counted.frame direct poll errors fence (Nat.le_succ _) room

lemma waitedWork_kept (system : DirectSystem κ) :
    system.waitedWork.direct = system.direct ∧ system.waitedWork.poll = system.poll ∧
      system.waitedWork.errors = system.errors ∧
      ∃ wakelocks, system.waitedWork.fence =
        { system.fence with outstandingBlockWakelock := wakelocks } := by
  unfold waitedWork
  split
  · exact ⟨rfl, rfl, rfl, _, rfl⟩
  · exact ⟨rfl, rfl, rfl, _, rfl⟩

lemma countSignalLocked_ret {fence : Fence} (unfinished : fence.allSignalersSignaled = false)
    (outstanding : fence.outstandingSignalers ≠ 0) :
    fence.countSignalLocked.1 = fence.remainingSignalers - (fence.signaledSignalers + 1 : Nat) := by
  simp [countSignalLocked, incSignaledSignalersLocked, unfinished, outstanding]

/-- A signal that is counted, with what the count leaves alone. -/
lemma countSignalLocked_next (fence : Fence) (unfinished : fence.allSignalersSignaled = false)
    (outstanding : fence.outstandingSignalers ≠ 0)
    (submitted : fence.submittedSignalers ≤ fence.remainingSignalers)
    (signaled : fence.signaledSignalers ≤ fence.submittedSignalers) :
    ∃ waited next, fence.countSignalLocked =
        ((fence.remainingSignalers : Int) - (fence.signaledSignalers + 1 : Nat), waited, next) ∧
      Fence.SameCounts { fence with signaledSignalers := fence.signaledSignalers + 1 } next ∧
      Fence.SameParams fence next := by
  obtain ⟨ret, next, same, result⟩ :=
    countSignalLocked_counted unfinished outstanding submitted signaled
  have returned := countSignalLocked_ret unfinished outstanding
  have params : SameParams fence fence.countSignalLocked.2.2 :=
    sameParams_countSignalLocked
  rw [result] at returned params
  refine ⟨decide (next.outstandingSignalers = 0), next, ?_, same, params⟩
  rw [result, ← returned]

/-- A signal is refused when none is outstanding. -/
lemma signalWithStatus_refused (system : DirectSystem κ) (error : Int)
    (none : system.fence.signaledSignalers = system.fence.submittedSignalers) :
    (system.signalWithStatus error).1 < 0 ∧ (system.signalWithStatus error).2 = system := by
  have same : system.withFence system.fence = system := rfl
  have outstanding : system.fence.outstandingSignalers = 0 := by
    unfold outstandingSignalers
    omega
  unfold signalWithStatus signalWithStatusLocked
  by_cases all : system.fence.allSignalersSignaled = true
  · have refusal : -EBUSY ≠ 0 := by decide
    simp only [all, if_true, refusal, ne_eq, not_false_eq_true, same]
    exact ⟨by decide, trivial⟩
  · have refusal : -EPERM ≠ 0 := by decide
    simp only [all, if_false, outstanding, true_and, if_true, refusal, ne_eq, not_false_eq_true,
      same, Bool.false_eq_true]
    exact ⟨by decide, trivial⟩

/-- The system when a signal has been counted, before the waited work. -/
def DirectSystem.signaled (system : DirectSystem κ) (error : Int) (next : Fence) : DirectSystem κ :=
  withFence
    { system with
      direct := (system.direct.signal true error).2
      poll := system.poll.reported system.fence.fenceType system.fence.flags
        (system.direct.signal true error).1
      errors := system.errors ++ [error] } next

section

variable (counted : system.Counted total)
include counted

/-- The three layers agree after a signal. -/
lemma DirectSystem.Counted.signaled_next {next : Fence}
    (error : Int) (valid : -MAX_ERRNO ≤ error ∧ error ≤ 0)
    (some : system.fence.signaledSignalers < system.fence.submittedSignalers)
    (counts : Fence.SameCounts { system.fence with
      signaledSignalers := system.fence.signaledSignalers + 1 } next)
    (params : Fence.SameParams (system.fence.invoke (.fenceSignal error)) next) :
    (system.signaled error next).Counted total := by
  have length : (system.errors ++ [error]).length = system.errors.length + 1 := by simp
  have allValid : ∀ other ∈ system.errors ++ [error], -MAX_ERRNO ≤ other ∧ other ≤ 0 := by
    rw [forall_mem_append]
    exact ⟨counted.valid, by simpa using valid⟩
  have below : system.errors.length < total := by
    have submitted := counted.submitted
    have signaled := counted.counted
    omega
  obtain ⟨direct, reported⟩ := counted.counts.signal below error
  have noError : system.poll.signalError = 0 := by
    rw [counted.pollError, if_neg (Nat.ne_of_lt below)]
  have poll : (system.signaled error next).poll =
      system.poll.reported .singleShot system.fence.flags (if system.errors.length + 1 = total then
          Option.some ⟨lastError (system.errors ++ [error]), true, 0⟩ else none) := by
    rw [← reported, ← counted.fenceType]
    rfl
  constructor
  case fenceType => exact params.fenceType.trans counted.fenceType
  case direct => exact (congrArg Flags.direct params.flags).trans counted.direct
  case propagate => exact params.propagate counted.propagate
  case remaining => exact counts.remaining.trans counted.remaining
  case submitted => exact counts.submitted.trans_le counted.submitted
  case signaled => exact counts.signaled.trans_le (some.trans_eq counts.submitted.symm)
  case counted =>
    rw [show (system.signaled error next).errors = system.errors ++ [error] from rfl, length,
      ← counted.counted]
    exact counts.signaled
  case counts => exact direct
  case valid => exact allValid
  case pollSignaled =>
    rw [show (system.signaled error next).errors = system.errors ++ [error] from rfl, length, poll]
    by_cases finished : system.errors.length + 1 = total
    · rw [if_pos finished, decide_eq_true finished]
      exact (reported_status system.poll _ _ noError (lastError_valid allValid)).1
    · rw [if_neg finished, decide_eq_false finished]
      exact counted.pollSignaled.trans (decide_eq_false (Nat.ne_of_lt below))
  case pollError =>
    rw [show (system.signaled error next).errors = system.errors ++ [error] from rfl, length, poll]
    by_cases finished : system.errors.length + 1 = total
    · rw [if_pos finished, if_pos finished]
      exact (reported_status system.poll _ _ noError (lastError_valid allValid)).2
    · rw [if_neg finished, if_neg finished]
      exact noError

lemma DirectSystem.Counted.waitedWork : system.waitedWork.Counted total := by
  obtain ⟨direct, poll, errors, wakelocks, fence⟩ := waitedWork_kept system
  exact counted.frame direct poll errors fence le_rfl counted.submitted

/-- An outstanding signal passes all three layers. -/
lemma DirectSystem.Counted.signal_counted (error : Int) (valid : -MAX_ERRNO ≤ error ∧ error ≤ 0)
    (some : system.fence.signaledSignalers < system.fence.submittedSignalers) :
    (system.signalWithStatus error).1 = (total : Int) - (system.errors.length + 1) ∧
      (system.signalWithStatus error).2.errors = system.errors ++ [error] ∧
      (system.signalWithStatus error).2.Counted total := by
  have remaining := counted.remaining
  have submitted := counted.submitted
  have signaled := counted.counted
  have unfinished : system.fence.allSignalersSignaled = false := by
    unfold allSignalersSignaled
    exact decide_eq_false (by omega)
  have outstanding : system.fence.outstandingSignalers ≠ 0 := by
    unfold outstandingSignalers
    omega
  have inRange : ¬ (error > 0 ∨ error < -MAX_ERRNO) := by omega
  have passed : system.fence.signalWithStatusLocked error false 0 =
      (0, system.fence.invoke (.fenceSignal error)) := by
    unfold signalWithStatusLocked
    simp only [unfinished, outstanding, inRange, counted.propagate, Bool.false_eq_true, if_false,
      and_false, false_and, Bool.true_eq_false]
  obtain ⟨waited, next, result, sameCounts, params⟩ := countSignalLocked_next
    (system.fence.invoke (.fenceSignal error)) unfinished outstanding
    (remaining.symm ▸ submitted) counted.signaled
  have ret : ((system.fence.invoke (.fenceSignal error)).remainingSignalers : Int) -
      ((system.fence.invoke (.fenceSignal error)).signaledSignalers + 1 : Nat) =
      (total : Int) - (system.errors.length + 1) := by
    show (system.fence.remainingSignalers : Int) - (system.fence.signaledSignalers + 1 : Nat) = _
    omega
  rw [ret] at result
  have nonNegative : 0 ≤ (total : Int) - (system.errors.length + 1) := by omega
  have propagate : (system.fence.invoke (.fenceSignal error)).propagate = true :=
    counted.propagate
  have value : system.signalWithStatus error = ((total : Int) - (system.errors.length + 1),
        if waited then (system.signaled error next).waitedWork
        else system.signaled error next) := by
    unfold signalWithStatus
    simp only [passed, ne_eq, not_true_eq_false, if_false, result, nonNegative, if_true, propagate]
    rfl
  have counted' := counted.signaled_next error valid some
    { sameCounts with } params
  rw [value]
  cases waited with
  | false => exact ⟨rfl, rfl, counted'⟩
  | true => exact ⟨rfl, (waitedWork_kept _).2.2.1, counted'.waitedWork⟩

end

/-- The parameters of a direct single-shot fence that the AP signals. -/
structure ApSingleShot (params : FenceParams) (total : Nat) : Prop where
  fenceType : params.fenceType = .singleShot
  direct : params.flags.direct = true
  ap : params.signalerIsAp = true
  signalers : params.remainingSignalers = total
  some : 1 ≤ total

lemma DirectSystem.Counted.initial {params : FenceParams} (id timeout : Nat)
    (ap : ApSingleShot params total) :
    (directInitial id params timeout : DirectSystem κ).Counted total := by
  obtain ⟨fenceType, direct, isAp, signalers, some⟩ := ap
  have fresh : (directInitial id params timeout : DirectSystem κ).direct.Counts total [] := by
    refine ⟨fenceType, signalers, ?_, rfl, rfl, rfl, ?_, fun _ => rfl⟩
    · simp only [directInitial, directFenceCreate, fenceType]
      exact signalers
    · intro errored
      cases errored
  have started : (0 : Nat) ≠ total := by omega
  exact ⟨fenceType, direct, isAp, signalers, Nat.zero_le _, le_rfl, rfl, fresh,
    by simp [directInitial], (decide_eq_false started).symm, (if_neg started).symm⟩

lemma DirectSystem.Counted.call (counted : system.Counted total) {call : DirectCall}
    (valid : ∀ error, call = .signalWithStatus error → -MAX_ERRNO ≤ error ∧ error ≤ 0) :
    (system.call call).Counted total := by
  cases call with
  | submitSignaler sorting env => exact counted.submitSignaler sorting env
  | signalWithStatus error =>
    rcases Nat.lt_or_eq_of_le counted.signaled with some | none
    · exact (counted.signal_counted error (valid error rfl) some).2.2
    · show (system.signalWithStatus error).2.Counted total
      rw [(signalWithStatus_refused system error none).2]
      exact counted

lemma DirectSystem.Counted.of_run {params : FenceParams} (id timeout : Nat)
    (ap : ApSingleShot params total) (calls : List DirectCall)
    (valid : ∀ error, .signalWithStatus error ∈ calls → -MAX_ERRNO ≤ error ∧ error ≤ 0) :
    (calls.foldl DirectSystem.call (directInitial id params timeout : DirectSystem κ)).Counted
      total := by
  induction calls using reverseRecOn with
  | nil => exact Counted.initial id timeout ap
  | append_singleton calls call ih =>
    rw [foldl_append]
    refine (ih fun error inside =>
      valid error (mem_append_left _ inside)).call fun error same => valid error ?_
    rw [← same]
    exact mem_append_right _ mem_cons_self

/-- After any sequence of calls the three layers agree on the number of successful signals and
on the last error, of which the fence itself reports nothing before it is signaled; and the
next signal succeeds exactly if one is outstanding. -/
theorem direct_single_shot_counting (total : Nat) (params : FenceParams)
    (ap : ApSingleShot params total) (id timeout : Nat) (calls : List DirectCall)
    (valid : ∀ error, .signalWithStatus error ∈ calls → -MAX_ERRNO ≤ error ∧ error ≤ 0)
    (system : DirectSystem κ)
    (reached : calls.foldl DirectSystem.call (directInitial id params timeout) = system) :
    (system.fence.signaledSignalers ≤ system.fence.submittedSignalers ∧
      system.fence.submittedSignalers ≤ total) ∧
    (system.fence.signaledSignalers = system.errors.length ∧
      system.direct.entry.remainingSignals = total - system.errors.length ∧
      system.direct.timeline = system.errors.length) ∧
    (system.poll.isSignaled = true ↔ system.errors.length = total) ∧
    (system.direct.error = lastError system.errors ∧
      (lastError system.errors = 0 ↔ ∀ error ∈ system.errors, error = 0) ∧
      system.poll.getStatus.error =
        if system.errors.length = total then lastError system.errors else 0) ∧
    ∀ error, -MAX_ERRNO ≤ error ∧ error ≤ 0 → (0 ≤ (system.signalWithStatus error).1 ↔
        system.fence.signaledSignalers < system.fence.submittedSignalers) ∧
      (0 ≤ (system.signalWithStatus error).1 →
        (system.signalWithStatus error).2.errors = system.errors ++ [error] ∧
        (system.signalWithStatus error).1 = (total : Int) - (system.errors.length + 1)) ∧
      (system.direct.error ≠ 0 → (system.signalWithStatus error).2.direct.error ≠ 0) := by
  have counted : system.Counted total := reached ▸ Counted.of_run id timeout ap calls valid
  refine ⟨⟨counted.signaled, counted.submitted⟩,
    ⟨counted.counted, counted.counts.remaining, counted.counts.timeline⟩, ?_,
    ⟨counted.counts.error, lastError_eq_zero _, counted.pollError⟩, ?_⟩
  · rw [isSignaled_eq, counted.pollSignaled, decide_eq_true_iff]
  · intro error inRange
    rcases Nat.lt_or_eq_of_le counted.signaled with some | none
    · obtain ⟨returned, errors, counted'⟩ := counted.signal_counted error inRange some
      have submitted := counted.submitted
      have signaled := counted.counted
      refine ⟨iff_of_true (by omega) some, fun _ => ⟨errors, returned⟩, fun before => ?_⟩
      rw [counted'.counts.error, errors, lastError_append]
      rw [counted.counts.error] at before
      split
      · exact before
      · next nonZero => exact nonZero
    · obtain ⟨negative, same⟩ := signalWithStatus_refused system error none
      refine ⟨iff_of_false (by omega) (by omega), fun nonNegative => ?_, fun before => ?_⟩
      · omega
      · rw [same]
        exact before

/-- A fence of the AP with two signalers. -/
def twoShotSignals : FenceParams :=
  ⟨.singleShot, ⟨false, false, true⟩, false, 2, fun _ => false, true⟩

/-- Submissions for which nothing outside the driver fails. -/
def submitFreely : DirectCall := .submitSignaler Sorting.insertion ⟨true, true, true, fun _ _ => 0⟩

/-- Both signalers are submitted and the first one signals an error. -/
def oneErrorCalls : List DirectCall := [submitFreely, submitFreely, .signalWithStatus (-5)]

/-- Then the second one signals without one. -/
def bothCalls : List DirectCall := oneErrorCalls ++ [.signalWithStatus 0]

theorem direct_single_shot_counting_two : ∃ system : DirectSystem Nat,
      bothCalls.foldl call (directInitial 7 twoShotSignals 0) = system ∧
      system.errors = [-5, 0] ∧ system.poll.isSignaled = true ∧
      system.poll.getStatus.error = -5 := by
  have errors : (bothCalls.foldl call
      (directInitial 7 twoShotSignals 0 : DirectSystem Nat)).errors = [-5, 0] := by decide +kernel
  have valid : ∀ error, .signalWithStatus error ∈ bothCalls → -MAX_ERRNO ≤ error ∧ error ≤ 0 := by
    intro error inside
    simp only [bothCalls, oneErrorCalls, submitFreely, cons_append, nil_append, mem_cons,
      DirectCall.signalWithStatus.injEq, reduceCtorEq, false_or, not_mem_nil, or_false]
      at inside
    rcases inside with rfl | rfl <;> decide
  obtain ⟨-, -, signaled, ⟨-, -, reported⟩, -⟩ := direct_single_shot_counting 2 twoShotSignals
    ⟨rfl, rfl, rfl, rfl, by decide⟩ 7 0 bothCalls valid _ rfl
  rw [errors] at signaled reported
  exact ⟨_, rfl, errors, signaled.mpr rfl, reported⟩

/-- The error of the first of two signals is not reported before the second. -/
theorem direct_single_shot_error_late : ((oneErrorCalls.foldl call
        (directInitial 7 twoShotSignals 0 : DirectSystem Nat)).errors = [-5] ∧
      (oneErrorCalls.foldl call
        (directInitial 7 twoShotSignals 0 : DirectSystem Nat)).poll.getStatus.error = 0) := by
  decide +kernel

end GsKernel.Iif
