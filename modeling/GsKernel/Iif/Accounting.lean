import GsKernel.Iif.Calls

/-!
# Accounting of block wakelocks

Every wakelock acquired for a fence is released, counted in the fence, or held by a call under
way. Until it is destroyed the fence counts one for each waiter, and surplus ones are on their way
to be released unless signalers are outstanding.
-/

namespace GsKernel.Iif

open Function Lib.Tasks Iif.Task Fence List

/-- The IPs a submission has still to take are distinct and not taken yet. -/
def Task.Valid : Task → Prop
  | .submitting rest wakelockHeld => rest.Nodup ∧ ∀ ip ∈ rest, wakelockHeld ip = false
  | _ => True

/-- A task that leads to the waited work. -/
def Task.Settles : Task → Prop
  | .scheduling | .working => True
  | _ => False

/-- A task that only has wakelocks to release. -/
def Task.Releases : Task → Prop
  | .releasing _ => True
  | _ => False

lemma Task.Releases.eq_releasing {task : Task} (releases : task.Releases) :
    ∃ locks, task = .releasing locks := by
  cases task <;> first | exact ⟨_, rfl⟩ | exact releases.elim

/-- What holds of a fence before it is destroyed. -/
structure Live (shared : Shared) (tasks : List Task) : Prop where
  submitted : shared.fence.submittedSignalers ≤ shared.fence.remainingSignalers
  signaled : shared.fence.signaledSignalers ≤ shared.fence.submittedSignalers
  covered : ∀ ip, shared.fence.outstandingWaitersPerIp ip ≤ shared.fence.outstandingBlockWakelock ip
  settled : shared.fence.outstandingSignalers = 0 → shared.workPending = false →
    (∀ task ∈ tasks, ¬ task.Settles) →
    shared.fence.outstandingBlockWakelock = shared.fence.outstandingWaitersPerIp

/-- What holds of a fence once it is destroyed. -/
structure Dead (shared : Shared) (tasks : List Task) : Prop where
  uncounted : ∀ ip, shared.fence.outstandingBlockWakelock ip = 0
  idle : shared.workPending = false
  releases : ∀ task ∈ tasks, task.Releases

/-- The invariant of the system. -/
structure Accounted (system : System) : Prop where
  bounded : Bounded system
  balance : ∀ ip, system.shared.acquired ip = system.shared.released ip +
    system.shared.fence.outstandingBlockWakelock ip + total (held · ip) system.tasks
  valid : ∀ task ∈ system.tasks, task.Valid
  live : system.shared.destroyed = false → Live system.shared system.tasks
  dead : system.shared.destroyed = true → Dead system.shared system.tasks

lemma u16Inc_of_lt {value : Nat} (small : value + 1 < 2 ^ 16) : u16Inc value = value + 1 :=
  Nat.mod_eq_of_lt small

lemma u16Dec_of_pos {value : Nat} (positive : value ≠ 0) (small : value < 2 ^ 16) :
    u16Dec value = value - 1 := by
  unfold u16Dec
  omega

/-- The balance of one IP across a step. -/
def Balanced (ip : Ip) (shared : Shared) (held : Nat) (next : Shared) (nextHeld : Nat) : Prop :=
  next.acquired ip + shared.released ip + shared.fence.outstandingBlockWakelock ip + held =
    shared.acquired ip + next.released ip + next.fence.outstandingBlockWakelock ip + nextHeld

/-- What a step of a task keeps, beside any other tasks. -/
structure StepKeeps (shared : Shared) (task : Task) (next : Shared) (rest : List Task) : Prop where
  balanced : ∀ ip, Balanced ip shared (task.held ip) next (total (held · ip) rest)
  valid : ∀ task ∈ rest, task.Valid
  destroyed : next.destroyed = shared.destroyed
  kept : shared.fence.outstandingSignalers ≠ 0 →
    ∀ ip, shared.fence.outstandingBlockWakelock ip ≤ next.fence.outstandingBlockWakelock ip
  live : ∀ others, Live shared (task :: others) → Live next (rest ++ others)

section TaskSteps

variable {shared next : Shared} {rest : List Task} {choice : Choice}

lemma submitWaiterLocked_wakelocks (fence : Fence) (waiterIp : Ip) :
    (fence.submitWaiterLocked waiterIp).outstandingBlockWakelock =
      fence.outstandingBlockWakelock := by
  unfold submitWaiterLocked
  dsimp only
  split <;> rfl

lemma submitWaiterLocked_perIp (fence : Fence) (waiterIp : Ip) :
    (fence.submitWaiterLocked waiterIp).outstandingWaitersPerIp =
      update fence.outstandingWaitersPerIp waiterIp
        (u16Inc (fence.outstandingWaitersPerIp waiterIp)) := by
  unfold submitWaiterLocked
  dsimp only
  split <;> rfl

lemma submitWaiterLocked_signalers (fence : Fence) (waiterIp : Ip) :
    (fence.submitWaiterLocked waiterIp).remainingSignalers = fence.remainingSignalers ∧
    (fence.submitWaiterLocked waiterIp).submittedSignalers = fence.submittedSignalers ∧
    (fence.submitWaiterLocked waiterIp).signaledSignalers = fence.signaledSignalers := by
  unfold submitWaiterLocked
  dsimp only
  split <;> exact ⟨rfl, rfl, rfl⟩

variable {locks : Ip → Nat}

lemma nextLock_pos {ip : Ip} (found : nextLock locks = some ip) : 0 < locks ip := by
  simpa using find?_some found

lemma nextLock_none (absent : nextLock locks = none) (ip : Ip) : locks ip = 0 := by
  simpa using find?_eq_none.mp absent ip (mem_finRange ip)

variable {task : Task}

/-- A call that gives up keeps holding what it has to release. -/
lemma keeps_giveUp (calm : ¬ task.Settles) (same : ∀ ip, locks ip = task.held ip) :
    StepKeeps shared task shared [.releasing locks] where
  balanced := fun ip => by simp [Balanced, held, same ip]
  valid := by simp [Valid]
  destroyed := rfl
  kept := fun _ _ => le_rfl
  live := fun others live =>
    { live with
      settled := fun none idle quiet => live.settled none idle
        (forall_mem_cons.mpr ⟨calm, (forall_mem_cons.mp quiet).2⟩) }

lemma keeps_holding {waiterIp : Ip} (room : ∀ ip, shared.fence.outstandingBlockWakelock ip +
      (holding waiterIp).held ip < 2 ^ 16)
    (ran : taskStep shared (.holding waiterIp) choice = some (next, rest)) :
    StepKeeps shared (.holding waiterIp) next rest := by
  simp only [taskStep] at ran
  split at ran
  · next admitted =>
      cases ran
      have small : shared.fence.outstandingBlockWakelock waiterIp + 1 < 2 ^ 16 := by
        simpa [held] using room waiterIp
      obtain ⟨remaining, submitted, signaled⟩ :=
        submitWaiterLocked_signalers shared.fence waiterIp
      refine ⟨fun ip => ?_, by simp, rfl, fun _ ip => ?_, fun others live => ?_⟩
      · simp only [Balanced, submitWaiterLocked_wakelocks, u16Inc_of_lt small, update_apply,
          held, total_nil]
        split_ifs with own
        · subst own
          omega
        · omega
      · simp only [submitWaiterLocked_wakelocks, u16Inc_of_lt small, update_apply]
        split_ifs with own
        · subst own
          omega
        · exact le_rfl
      · have waiters := live.covered waiterIp
        have smaller : shared.fence.outstandingWaitersPerIp waiterIp + 1 < 2 ^ 16 := by omega
        refine ⟨?_, ?_, fun ip => ?_, fun none idle quiet => ?_⟩
        · simpa only [remaining, submitted] using live.submitted
        · simpa only [submitted, signaled] using live.signaled
        · have covered := live.covered ip
          simp only [submitWaiterLocked_wakelocks, submitWaiterLocked_perIp, u16Inc_of_lt small,
            u16Inc_of_lt smaller, update_apply]
          split_ifs <;> omega
        · have equal := live.settled (by simpa [outstandingSignalers, submitted, signaled]
            using none) idle (forall_mem_cons.mpr ⟨id, quiet⟩)
          simp only [submitWaiterLocked_wakelocks, submitWaiterLocked_perIp, equal]
  · cases ran
    exact keeps_giveUp id fun _ => rfl

variable {wakelockHeld : Ip → Bool}

lemma keeps_submitting_cons {ip : Ip} {ips : List Ip}
    (valid : Valid (.submitting (ip :: ips) wakelockHeld))
    (ran : taskStep shared (.submitting (ip :: ips) wakelockHeld) choice = some (next, rest)) :
    StepKeeps shared (.submitting (ip :: ips) wakelockHeld) next rest := by
  obtain ⟨distinct, untaken⟩ := valid
  obtain ⟨fresh, distinct⟩ := nodup_cons.mp distinct
  simp only [taskStep] at ran
  split at ran
  · cases ran
    refine ⟨fun other => ?_, ?_, rfl, fun _ _ => le_rfl, fun others live => ?_⟩
    · simp only [Balanced, held, update_apply, total_cons, total_nil]
      split_ifs with own <;> simp_all
      omega
    · simp only [mem_singleton, forall_eq]
      refine ⟨distinct, fun other mem => ?_⟩
      have differs : other ≠ ip := fun same => fresh (same ▸ mem)
      rw [update_of_ne differs]
      exact untaken other (by simp [mem])
    · exact { live with
        settled := fun none idle quiet => live.settled none idle
          (forall_mem_cons.mpr ⟨id, (forall_mem_cons.mp quiet).2⟩) }
  · cases ran
    exact keeps_giveUp id fun _ => rfl

lemma keeps_submitting_nil (room : ∀ ip, shared.fence.outstandingBlockWakelock ip +
      (submitting [] wakelockHeld).held ip < 2 ^ 16)
    (ran : taskStep shared (.submitting [] wakelockHeld) choice = some (next, rest)) :
    StepKeeps shared (.submitting [] wakelockHeld) next rest := by
  simp only [taskStep] at ran
  split at ran
  · next admitted =>
      cases ran
      have counted : ∀ ip, (if wakelockHeld ip = true then
          u16Inc ((shared.fence.submitSignalerLocked false).outstandingBlockWakelock ip)
        else (shared.fence.submitSignalerLocked false).outstandingBlockWakelock ip) =
          shared.fence.outstandingBlockWakelock ip + (submitting [] wakelockHeld).held ip := by
        intro ip
        have small := room ip
        simp only [held] at small ⊢
        split_ifs at small ⊢
        · exact u16Inc_of_lt small
        · rfl
      refine ⟨fun ip => ?_, by simp, rfl, fun _ ip => ?_, fun others live => ?_⟩
      · simp only [Balanced, counted, total_nil]
        omega
      · simp only [counted]
        exact Nat.le_add_right _ _
      · have unsubmitted := (signalerSubmittable_eq_zero.mp admitted.2).1
        have submitted := live.submitted
        have signaled := live.signaled
        unfold unsubmittedSignalers at unsubmitted
        refine ⟨?_, ?_, fun ip => ?_, fun none => ?_⟩
        · simp only [submitSignalerLocked, Bool.false_eq_true, if_false]
          omega
        · simp only [submitSignalerLocked, Bool.false_eq_true, if_false]
          omega
        · simp only [counted]
          exact Nat.le_add_right_of_le (live.covered ip)
        · simp only [outstandingSignalers, submitSignalerLocked, Bool.false_eq_true,
            if_false] at none
          omega
  · cases ran
    exact keeps_giveUp id fun _ => rfl

/-- A signal that is not counted leaves everything as it is. -/
lemma keeps_ignored (calm : ¬ task.Settles) (empty : ∀ ip, task.held ip = 0) :
    StepKeeps shared task shared [] where
  balanced := fun ip => by simp [Balanced, empty ip]
  valid := by simp
  destroyed := rfl
  kept := fun _ _ => le_rfl
  live := fun others live =>
    { live with
      settled := fun none idle quiet =>
        live.settled none idle (forall_mem_cons.mpr ⟨calm, quiet⟩) }

lemma keeps_counting {async : Bool}
    (submitted : shared.fence.submittedSignalers ≤ shared.fence.remainingSignalers)
    (signaled : shared.fence.signaledSignalers ≤ shared.fence.submittedSignalers)
    (ran : taskStep shared (.counting async) choice = some (next, rest)) :
    StepKeeps shared (.counting async) next rest := by
  cases choice <;> simp only [taskStep, reduceCtorEq] at ran
  by_cases refused : shared.fence.allSignalersSignaled = true ∨
      shared.fence.outstandingSignalers = 0
  · obtain ⟨ret, same⟩ := countSignalLocked_refused refused
    rw [same] at ran
    cases ran
    exact keeps_ignored id fun _ => rfl
  rw [not_or] at refused
  obtain ⟨ret, fence, counts, result⟩ := countSignalLocked_counted
    (Bool.eq_false_iff.mpr refused.1) refused.2 submitted signaled
  simp only [result] at ran
  cases ran
  have outstanding := refused.2
  unfold outstandingSignalers at outstanding
  refine ⟨fun ip => ?_, ?_, rfl, fun _ ip => (congrFun counts.wakelocks ip).ge,
    fun others live => ⟨?_, ?_, fun ip => ?_, ?_⟩⟩
  · simp only [Balanced, counts.wakelocks]
    split_ifs <;> simp [held]
  · split_ifs <;> simp [Valid]
  · simp only [counts.submitted, counts.remaining]
    exact submitted
  · simp only [counts.submitted, counts.signaled]
    omega
  · simp only [counts.perIp, counts.wakelocks]
    exact live.covered ip
  · intro none idle quiet
    simp only [none, decide_true, if_true] at quiet
    split_ifs at quiet <;> simp [Settles] at quiet

lemma keeps_scheduling (ran : taskStep shared .scheduling choice = some (next, rest)) :
    StepKeeps shared .scheduling next rest := by
  cases choice <;> simp only [taskStep, reduceCtorEq] at ran
  cases ran
  exact ⟨fun ip => by simp [Balanced, held], by simp, rfl, fun _ _ => le_rfl, fun _ live =>
      ⟨live.submitted, live.signaled, live.covered, fun _ idle => by simp at idle⟩⟩

lemma keeps_working (ran : taskStep shared .working choice = some (next, rest)) :
    StepKeeps shared .working next rest := by
  cases choice <;> simp only [taskStep, reduceCtorEq] at ran
  split at ran
  · next outstanding =>
      cases ran
      exact ⟨fun ip => by simp [Balanced, held], by simp, rfl, fun _ _ => le_rfl, fun _ live =>
          ⟨live.submitted, live.signaled, live.covered, fun none => absurd none outstanding⟩⟩
  · next none =>
    cases ran
    refine ⟨fun ip => ?_, by simp [Valid], rfl, fun outstanding => absurd outstanding none,
      fun others live => ?_⟩
    · simp only [Balanced, waitedWorkLocked, held, total_cons, total_nil]
      omega
    · have covered := live.covered
      refine ⟨live.submitted, live.signaled, fun ip => ?_, fun _ _ _ => ?_⟩
      · exact le_min (covered ip) le_rfl
      · ext ip
        exact min_eq_right (covered ip)

lemma keeps_closing (ran : taskStep shared .closing choice = some (next, rest)) :
    StepKeeps shared .closing next rest := by
  cases choice <;> simp only [taskStep, reduceCtorEq] at ran
  cases ran
  have same := @sameCounts_retireIfPossibleLocked shared.fence
  refine ⟨fun ip => ?_, by simp, rfl, fun _ ip => (congrFun same.wakelocks ip).ge,
    fun others live => ⟨?_, ?_, fun ip => ?_, fun none idle quiet => ?_⟩⟩
  · simp [Balanced, held, same.wakelocks]
  · simpa only [same.submitted, same.remaining] using live.submitted
  · simpa only [same.submitted, same.signaled] using live.signaled
  · simpa only [same.perIp, same.wakelocks] using live.covered ip
  · simp only [same.perIp, same.wakelocks]
    exact live.settled (same.outstanding ▸ none) idle (forall_mem_cons.mpr ⟨id, quiet⟩)

lemma keeps_releasing (ran : taskStep shared (.releasing locks) choice = some (next, rest)) :
    StepKeeps shared (.releasing locks) next rest := by
  cases choice <;> simp only [taskStep, reduceCtorEq] at ran
  cases found : nextLock locks with
  | none =>
    simp only [found] at ran
    cases ran
    exact keeps_ignored id (nextLock_none found)
  | some lock =>
    simp only [found] at ran
    cases ran
    have positive := nextLock_pos found
    refine ⟨fun ip => ?_, by simp [Valid], rfl, fun _ _ => le_rfl, fun others live =>
      ⟨live.submitted, live.signaled, live.covered, fun none idle quiet => ?_⟩⟩
    · simp only [Balanced, held, total_cons, total_nil, update_apply]
      split_ifs with own
      · subst own
        omega
      · omega
    · refine live.settled none idle ?_
      simpa [Settles] using quiet

/-- A step of a call under way keeps the accounts. -/
lemma keeps_taskStep (valid : task.Valid)
    (room : ∀ ip, shared.fence.outstandingBlockWakelock ip + task.held ip < 2 ^ 16)
    (counts : task.Releases ∨ shared.fence.submittedSignalers ≤ shared.fence.remainingSignalers ∧
        shared.fence.signaledSignalers ≤ shared.fence.submittedSignalers)
    (ran : taskStep shared task choice = some (next, rest)) :
    StepKeeps shared task next rest := by
  cases task with
  | holding waiterIp => exact keeps_holding room ran
  | submitting ips wakelockHeld =>
    cases ips with
    | nil => exact keeps_submitting_nil room ran
    | cons ip ips => exact keeps_submitting_cons valid ran
  | counting async =>
    obtain ⟨submitted, signaled⟩ := counts.resolve_left id
    exact keeps_counting submitted signaled ran
  | scheduling => exact keeps_scheduling ran
  | working => exact keeps_working ran
  | closing => exact keeps_closing ran
  | releasing locks => exact keeps_releasing ran

/-- On a destroyed fence wakelocks are released and nothing else changes. -/
lemma dead_taskStep {others : List Task} (dead : Dead shared (task :: others))
    (ran : taskStep shared task choice = some (next, rest)) : Dead next (rest ++ others) := by
  obtain ⟨releases, elsewhere⟩ := forall_mem_cons.mp dead.releases
  obtain ⟨locks, rfl⟩ := releases.eq_releasing
  cases choice <;> simp only [taskStep, reduceCtorEq] at ran
  split at ran
  · cases ran
    exact ⟨dead.uncounted, dead.idle, elsewhere⟩
  · cases ran
    exact ⟨dead.uncounted, dead.idle, forall_mem_cons.mpr ⟨trivial, elsewhere⟩⟩

end TaskSteps

end GsKernel.Iif
