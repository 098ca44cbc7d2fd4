import GsKernel.Iif.Accounting
import GsKernel.Iif.Poll

/-!
# Signals and the calls that count them

The calls leave the parameters of a fence alone, and all but `iif_fence_signal` the number of
signals that have reached its sync-unit. A direct single-shot fence counts a signaler for each of
those signals, at the latest when the calls under way are through.
-/

namespace GsKernel.Iif

open Lib.Tasks Fence Iif.System Iif.Task

/-- Only counters, the log and the state have changed, and no signal has been logged. -/
structure Fence.SameParams (fence next : Fence) : Prop where
  fenceType : next.fenceType = fence.fenceType
  flags : next.flags = fence.flags
  remaining : next.remainingSignalers = fence.remainingSignalers
  signals : next.signals = fence.signals
  retired : fence.retired = true → next.retired = true
  propagate : fence.propagate = true → next.propagate = true
  syncPoints : next.syncPoints = fence.syncPoints

namespace Fence

variable {fence next last : Fence}

lemma SameParams.refl (fence : Fence) : SameParams fence fence := ⟨rfl, rfl, rfl, rfl, id, id, rfl⟩

lemma SameParams.trans (first : SameParams fence next) (second : SameParams next last) :
    SameParams fence last :=
  ⟨second.fenceType.trans first.fenceType, second.flags.trans first.flags,
    second.remaining.trans first.remaining, second.signals.trans first.signals,
    second.retired ∘ first.retired, second.propagate ∘ first.propagate,
    second.syncPoints.trans first.syncPoints⟩

lemma signals_invoke (op : FenceOp) :
    (fence.invoke op).signals = fence.signals + if op.isSignal then 1 else 0 := by
  simp [signals, invoke, List.countP_append, List.countP_singleton]

lemma sameParams_invoke {op : FenceOp} (other : op.isSignal = false) :
    SameParams fence (fence.invoke op) :=
  ⟨rfl, rfl, rfl, by simp [signals_invoke, other], id, id, rfl⟩

lemma sameParams_retireLocked (destroying : Bool) :
    SameParams fence (fence.retireLocked destroying) := by
  unfold retireLocked
  split
  · exact .refl fence
  · have removed : SameParams fence (fence.invoke .removePollCb) := sameParams_invoke rfl
    exact removed.trans
      ⟨rfl, rfl, rfl, (sameParams_invoke rfl : SameParams _ (invoke _ _)).signals, fun _ => rfl, id, rfl⟩

lemma sameParams_retireIfPossibleLocked : SameParams fence fence.retireIfPossibleLocked := by
  unfold retireIfPossibleLocked
  split
  · exact sameParams_retireLocked false
  · exact .refl fence

lemma sameParams_incSignaledSignalersLocked (complete : Bool) :
    SameParams fence (fence.incSignaledSignalersLocked complete).2 := by
  unfold incSignaledSignalersLocked
  split
  · exact .refl fence
  · have counted : SameParams fence { fence with
        signaledSignalers :=
          if complete then fence.remainingSignalers else fence.signaledSignalers + 1 } :=
      ⟨rfl, rfl, rfl, rfl, id, id, rfl⟩
    exact counted.trans sameParams_retireIfPossibleLocked

lemma sameParams_submitWaiterLocked (waiterIp : Ip) :
    SameParams fence (fence.submitWaiterLocked waiterIp) := by
  unfold submitWaiterLocked
  dsimp only
  split
  · exact ⟨rfl, rfl, rfl, rfl, id, id, rfl⟩
  · refine ⟨rfl, rfl, rfl, ?_, id, id, rfl⟩
    simp [signals, invoke, List.countP_append, FenceOp.isSignal]

lemma sameParams_removeWaiterLocked (waiterIp : Ip) :
    SameParams fence (fence.removeWaiterLocked waiterIp) := by
  have removed : SameParams fence { fence with
      outstandingWaiters := u16Dec fence.outstandingWaiters
      outstandingWaitersPerIp := Function.update fence.outstandingWaitersPerIp waiterIp
        (u16Dec (fence.outstandingWaitersPerIp waiterIp)) } := by
    refine ⟨rfl, rfl, rfl, ?_, id, id, rfl⟩
    simp only [signals]
  exact removed.trans sameParams_retireIfPossibleLocked

lemma sameParams_waiterCompletedLocked (waiterIp : Ip) :
    SameParams fence (fence.waiterCompletedLocked waiterIp).2 := by
  have removed := @sameParams_removeWaiterLocked fence waiterIp
  unfold waiterCompletedLocked
  dsimp only
  split
  · exact removed.trans ⟨rfl, rfl, rfl, rfl, id, id, rfl⟩
  · exact removed

lemma sameParams_countSignalLocked : SameParams fence fence.countSignalLocked.2.2 := by
  unfold countSignalLocked
  split
  · exact .refl fence
  · split
    · exact .refl fence
    · exact sameParams_incSignaledSignalersLocked false

lemma sameParams_addSyncPoint (timeline count : Nat) (ret : Int) :
    SameParams fence (fence.addSyncPoint timeline count ret).2 := by
  unfold addSyncPoint
  split_ifs
  · exact .refl fence
  · exact .refl fence
  · exact sameParams_invoke rfl
  · exact .refl fence

lemma signals_setFlags (flags : Flags) (clear : Bool) :
    (fence.setFlags flags clear).2.signals = fence.signals := by
  unfold setFlags
  split_ifs <;> rfl

lemma sameParams_destroyLocked (callbacks : Bool) :
    SameParams fence (fence.destroyLocked callbacks) := by
  have submitted : SameParams fence (fence.submitSignalerLocked true) := ⟨rfl, rfl, rfl, rfl, id, id, rfl⟩
  have propagating : ∀ fence : Fence, SameParams fence { fence with propagate := true } :=
    fun _ => ⟨rfl, rfl, rfl, rfl, id, fun _ => rfl, rfl⟩
  refine SameParams.trans ?_ (sameParams_retireLocked true)
  split_ifs
  · exact submitted
  · exact submitted.trans ((propagating _).trans (sameParams_incSignaledSignalersLocked true))
  · exact .refl fence
  · exact (propagating _).trans (sameParams_incSignaledSignalersLocked true)

end Fence

/-- The signalers that a task is about to count as signaled. -/
def Task.counts : Task → Nat
  | .counting _ => 1
  | _ => 0

/-- The signalers counted as signaled, now or by the calls under way. -/
def System.counted (system : System) : Nat :=
  system.shared.fence.signaledSignalers + total counts system.tasks

namespace Fence

variable {fence : Fence}

lemma signaled_retireIfPossibleLocked :
    fence.retireIfPossibleLocked.signaledSignalers = fence.signaledSignalers :=
  sameCounts_retireIfPossibleLocked.signaled

lemma signaled_incSignaledSignalersLocked :
    (fence.incSignaledSignalersLocked false).2.signaledSignalers ≤ fence.signaledSignalers + 1 := by
  unfold incSignaledSignalersLocked
  split
  · exact Nat.le_succ _
  · exact (signaled_retireIfPossibleLocked).le

lemma signaled_countSignalLocked :
    fence.countSignalLocked.2.2.signaledSignalers ≤ fence.signaledSignalers + 1 := by
  unfold countSignalLocked
  split
  · exact Nat.le_succ _
  · split
    · exact Nat.le_succ _
    · exact signaled_incSignaledSignalersLocked

lemma signaled_removeWaiterLocked (waiterIp : Ip) :
    (fence.removeWaiterLocked waiterIp).signaledSignalers = fence.signaledSignalers := by
  rw [removeWaiterLocked, signaled_retireIfPossibleLocked]

lemma signaled_waiterCompletedLocked (waiterIp : Ip) :
    (fence.waiterCompletedLocked waiterIp).2.signaledSignalers = fence.signaledSignalers := by
  have removed := @signaled_removeWaiterLocked fence waiterIp
  unfold waiterCompletedLocked
  dsimp only
  split <;> exact removed

lemma kind_signalWithStatusLocked (fence : Fence) (error : Int) (force : Bool) (ret : Int) :
    (fence.signalWithStatusLocked error force ret).2.fenceType = fence.fenceType ∧
      (fence.signalWithStatusLocked error force ret).2.flags = fence.flags := by
  unfold signalWithStatusLocked
  split_ifs <;> exact ⟨rfl, rfl⟩

/-- A signal of a direct fence is refused, or reaches `iif-direct.c`. -/
lemma signalWithStatusLocked_direct (direct : fence.flags.direct = true) (error ret : Int) :
    (∃ refusal, refusal ≠ 0 ∧ fence.signalWithStatusLocked error false ret = (refusal, fence)) ∨
      (fence.allSignalersSignaled = false ∧ fence.outstandingSignalers ≠ 0 ∧
        fence.signalWithStatusLocked error false ret =
          (ret, fence.invoke (.fenceSignal error))) := by
  unfold signalWithStatusLocked
  split_ifs with signaled none invalid ignored
  · exact .inl ⟨-EBUSY, by decide, rfl⟩
  · exact .inl ⟨-EPERM, by decide, rfl⟩
  · exact .inl ⟨-EINVAL, by decide, rfl⟩
  · exact absurd (direct.symm.trans ignored.2) (by decide)
  · exact .inr ⟨by simpa using signaled, fun settled => none ⟨rfl, settled⟩, rfl⟩

end Fence

section Steps

variable {shared next : Shared} {rest : List Task} {choice : Choice} {task : Task}

/-- A step of a task keeps the parameters, and counts no signaler twice. -/
lemma counted_taskStep (ran : taskStep shared task choice = some (next, rest)) :
    shared.fence.SameParams next.fence ∧ next.fence.signaledSignalers + total counts rest ≤
        shared.fence.signaledSignalers + task.counts := by
  have unchanged : shared.fence.SameParams shared.fence := .refl _
  cases task with
  | holding waiterIp =>
    simp only [taskStep] at ran
    split at ran <;> cases ran
    · have submitted := @sameParams_submitWaiterLocked shared.fence waiterIp
      refine ⟨submitted.trans ⟨rfl, rfl, rfl, rfl, id, id, rfl⟩, ?_⟩
      exact (submitWaiterLocked_signalers shared.fence waiterIp).2.2.le
    · exact ⟨unchanged, Nat.le_refl _⟩
  | submitting ips wakelockHeld =>
    cases ips with
    | nil | cons ip ips =>
      simp only [taskStep] at ran
      split at ran <;> cases ran
      all_goals exact ⟨⟨rfl, rfl, rfl, rfl, id, id, rfl⟩, Nat.le_refl _⟩
  | releasing locks =>
    cases choice <;> simp only [taskStep, reduceCtorEq] at ran
    split at ran <;> cases ran
    all_goals exact ⟨unchanged, Nat.le_refl _⟩
  | counting async =>
    cases choice <;> simp only [taskStep, reduceCtorEq] at ran
    cases ran
    refine ⟨sameParams_countSignalLocked, ?_⟩
    have counted := @signaled_countSignalLocked shared.fence
    have settling : ∀ waited : Bool, total counts
        (if waited then [if async then scheduling else working] else []) = 0 := by
      cases async <;> decide
    rw [settling]
    exact counted
  | scheduling =>
    cases choice <;> simp only [taskStep, reduceCtorEq] at ran
    cases ran
    exact ⟨unchanged, Nat.le_refl _⟩
  | working =>
    cases choice <;> simp only [taskStep, reduceCtorEq] at ran
    split at ran <;> cases ran
    all_goals exact ⟨⟨rfl, rfl, rfl, rfl, id, id, rfl⟩, Nat.le_refl _⟩
  | closing =>
    cases choice <;> simp only [taskStep, reduceCtorEq] at ran
    cases ran
    exact ⟨sameParams_retireIfPossibleLocked, (signaled_retireIfPossibleLocked).le⟩

variable {system after : System} {event : Event}

lemma counted_run {index : Nat} (ran : Pool.run taskStep system index choice = some after) :
    system.shared.fence.SameParams after.shared.fence ∧ after.counted ≤ system.counted := by
  obtain ⟨task, others, rest, -, stepped, picked, tasks⟩ := Pool.run_eq_some ran
  obtain ⟨same, counted⟩ := counted_taskStep stepped
  refine ⟨same, ?_⟩
  simp only [System.counted, tasks, total_perm counts picked, total_append, total_cons]
  omega

/-- The calls that neither signal nor change the flags keep the parameters. -/
lemma sameParams_step (signals : ∀ error ret async, event ≠ .signal error ret async)
    (flags : ∀ flags clear, event ≠ .setFlags flags clear)
    (ran : step system event = some after) :
    system.shared.fence.SameParams after.shared.fence := by
  have unchanged : system.shared.fence.SameParams system.shared.fence := .refl _
  cases event with
  | submitWaiter waiterIp acquired =>
    simp only [step] at ran
    split at ran <;> cases ran
    all_goals exact unchanged
  | submitSignaler | signalerCompleted async =>
    cases ran
    exact unchanged
  | signal error ret async => exact absurd rfl (signals error ret async)
  | waiterCompleted waiterIp =>
    cases ran
    exact sameParams_waiterCompletedLocked waiterIp
  | waiterCompletedAsync waiterIp =>
    cases ran
    exact sameParams_removeWaiterLocked waiterIp
  | addSyncPoint timeline count ret =>
    cases ran
    exact sameParams_addSyncPoint timeline count ret
  | setFlags newFlags clear => exact absurd rfl (flags newFlags clear)
  | setPropagateUnblock =>
    cases ran
    exact ⟨rfl, rfl, rfl, rfl, id, fun _ => rfl, rfl⟩
  | openSyncFile | closeSyncFile =>
    cases ran
    exact ⟨rfl, rfl, rfl, rfl, id, id, rfl⟩
  | startWork =>
    simp only [step] at ran
    split at ran
    · cases ran
      exact unchanged
    · cases ran
  | run index choice => exact (counted_run ran).1
  | destroy callbacks =>
    cases ran
    exact (sameParams_destroyLocked callbacks).trans ⟨rfl, rfl, rfl, rfl, id, id, rfl⟩

/-- A call on a direct single-shot fence counts no more signalers than it signals. -/
lemma counted_step (counts : system.shared.fence.countsOnSignal = true)
    (remains : ∀ callbacks, event ≠ .destroy callbacks) (ran : step system event = some after) :
    after.counted + system.shared.fence.signals ≤ system.counted + after.shared.fence.signals := by
  have direct : system.shared.fence.flags.direct = true := (Bool.and_eq_true_iff.mp counts).1
  cases event <;> simp only [step] at ran
  case submitWaiter waiterIp acquired =>
    split at ran <;> cases ran
    all_goals simp [counted, Task.counts]
  case submitSignaler =>
    cases ran
    simp [counted, next, Task.counts]
  case signalerCompleted async =>
    cases ran
    simp [counted, next, counts]
  case signal error ret async =>
    rcases signalWithStatusLocked_direct direct error ret with
      ⟨refusal, failed, refused⟩ | ⟨-, -, reached⟩
    · rw [refused] at ran
      cases ran
      simp [counted, next, failed]
    rw [reached] at ran
    cases ran
    simp only [counted, next, total_append, signals_invoke, FenceOp.isSignal, if_true]
    split <;> simp [Task.counts, invoke]
    omega
  case waiterCompleted waiterIp =>
    cases ran
    have same := @sameParams_waiterCompletedLocked system.shared.fence waiterIp
    have signaled := @signaled_waiterCompletedLocked system.shared.fence waiterIp
    simp only [counted, next, total_append, same.signals, signaled]
    split <;> simp [Task.counts]
  case waiterCompletedAsync waiterIp =>
    cases ran
    have same := @sameParams_removeWaiterLocked system.shared.fence waiterIp
    have signaled := @signaled_removeWaiterLocked system.shared.fence waiterIp
    simp [counted, next, same.signals, signaled, Task.counts]
  case addSyncPoint timeline count ret =>
    cases ran
    have same := @sameParams_addSyncPoint system.shared.fence timeline count ret
    have counts := @sameCounts_addSyncPoint system.shared.fence timeline count ret
    simp [counted, next, same.signals, counts.signaled]
  case setFlags flags clear =>
    cases ran
    have counts := @sameCounts_setFlags system.shared.fence flags clear
    simp [counted, next, signals_setFlags, counts.signaled]
  case setPropagateUnblock | openSyncFile =>
    cases ran
    simp [counted, next, signals]
  case closeSyncFile =>
    cases ran
    simp only [counted, next, total_append]
    split <;> simp [Task.counts, signals]
  case startWork =>
    split at ran
    · cases ran
      simp [counted, Task.counts]
    · cases ran
  case run index choice =>
    obtain ⟨same, counted⟩ := counted_run ran
    rw [same.signals]
    omega
  case destroy callbacks => exact absurd rfl (remains callbacks)

end Steps

end GsKernel.Iif
