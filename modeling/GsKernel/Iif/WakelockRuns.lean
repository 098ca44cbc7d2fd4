import GsKernel.Iif.Accounting

/-!
# Runs of the wakelock system

Every step of the system keeps the accounting, so it holds in every state of every
run. The locked sections that count no signaler share one lemma: what they take off the
count is held by the tasks they start.
-/

namespace GsKernel.Iif

open Function Lib.Tasks Iif.Task Fence List Option

section SystemSteps

variable {system next : System}

section

variable (accounted : Accounted system)
include accounted

/-- A wakelock count of the fence is below the bound, with what any task holds. -/
lemma Accounted.room (ip : Ip) :
    system.shared.fence.outstandingBlockWakelock ip + total (held · ip) system.tasks < 2 ^ 16 := by
  have bounded := accounted.bounded ip
  have balance := accounted.balance ip
  omega

/-- A step of one of the tasks. -/
lemma keeps_run {index : Nat} {choice : Choice}
    (ran : Pool.run taskStep system index choice = some next) :
    ∃ task others rest, StepKeeps system.shared task next.shared rest ∧
      taskStep system.shared task choice = some (next.shared, rest) ∧
      system.tasks.Perm (task :: others) ∧ next.tasks = rest ++ others := by
  obtain ⟨task, others, rest, -, stepped, picked, tasks⟩ := Pool.run_eq_some ran
  have mem : task ∈ system.tasks := picked.mem_iff.mpr mem_cons_self
  refine ⟨task, others, rest, ?_, stepped, picked, tasks⟩
  refine keeps_taskStep (accounted.valid task mem) (fun ip => ?_) ?_ stepped
  · have room := accounted.room ip
    rw [total_perm _ picked, total_cons] at room
    omega
  · cases destroyed : system.shared.destroyed with
    | true => exact Or.inl ((accounted.dead destroyed).releases task mem)
    | false =>
      have live := accounted.live destroyed
      exact Or.inr ⟨live.submitted, live.signaled⟩

lemma accounted_run {index : Nat} {choice : Choice}
    (bounded : Bounded next) (ran : Pool.run taskStep system index choice = some next) :
    Accounted next := by
  obtain ⟨task, others, rest, keeps, stepped, picked, tasks⟩ := keeps_run accounted ran
  refine ⟨bounded, fun ip => ?_, ?_, fun alive => ?_, fun destroyed => ?_⟩
  · have balance := accounted.balance ip
    have balanced := keeps.balanced ip
    rw [total_perm _ picked, total_cons] at balance
    unfold Balanced at balanced
    rw [tasks, total_append]
    omega
  · rw [tasks]
    exact forall_mem_append.mpr ⟨keeps.valid, fun other inside => accounted.valid other
        (picked.mem_iff.mpr (mem_cons_of_mem task inside))⟩
  · have live := accounted.live (keeps.destroyed ▸ alive)
    rw [tasks]
    refine keeps.live others ⟨live.submitted, live.signaled, live.covered, fun none idle quiet => ?_⟩
    exact live.settled none idle fun other inside => quiet other (picked.mem_iff.mp inside)
  · have dead := accounted.dead (keeps.destroyed ▸ destroyed)
    rw [tasks]
    exact dead_taskStep ⟨dead.uncounted, dead.idle, fun other inside =>
      dead.releases other (picked.mem_iff.mpr inside)⟩ stepped

/-- A locked section that counts no signaler, with the tasks it starts: the wakelocks it
takes off the count are held by those tasks. -/
structure LockedKeeps (fence next : Fence) (tasks : List Task) : Prop where
  remaining : next.remainingSignalers = fence.remainingSignalers
  submitted : next.submittedSignalers = fence.submittedSignalers
  signaled : next.signaledSignalers = fence.signaledSignalers
  balanced : ∀ ip, next.outstandingBlockWakelock ip + total (held · ip) tasks =
    fence.outstandingBlockWakelock ip
  kept : fence.outstandingSignalers ≠ 0 →
    next.outstandingBlockWakelock = fence.outstandingBlockWakelock
  covered : ∀ ip, fence.outstandingWaitersPerIp ip ≤ fence.outstandingBlockWakelock ip →
    next.outstandingWaitersPerIp ip ≤ next.outstandingBlockWakelock ip
  settled : fence.outstandingSignalers = 0 → (∀ task ∈ tasks, ¬ task.Settles) →
    fence.outstandingBlockWakelock = fence.outstandingWaitersPerIp →
    next.outstandingBlockWakelock = next.outstandingWaitersPerIp
  valid : ∀ task ∈ tasks, task.Valid

variable {tasks : List Task} {fence : Fence}

lemma accounted_next (alive : system.shared.destroyed = false)
    (keeps : LockedKeeps system.shared.fence fence tasks) :
    Accounted (system.next fence tasks) where
  bounded := accounted.bounded
  balance := fun ip => by
    have balance := accounted.balance ip
    have balanced := keeps.balanced ip
    simp only [System.next, total_append]
    omega
  valid := forall_mem_append.mpr ⟨keeps.valid, accounted.valid⟩
  live := fun _ => by
    have live := accounted.live alive
    refine ⟨?_, ?_, fun ip => keeps.covered ip (live.covered ip), fun none idle quiet => ?_⟩
    · simpa only [System.next, keeps.submitted, keeps.remaining] using live.submitted
    · simpa only [System.next, keeps.submitted, keeps.signaled] using live.signaled
    · obtain ⟨started, others⟩ := forall_mem_append.mp quiet
      have before : system.shared.fence.outstandingSignalers = 0 := by
        simpa only [System.next, outstandingSignalers, keeps.submitted, keeps.signaled] using none
      exact keeps.settled before started (live.settled before idle others)
  dead := fun destroyed => absurd destroyed (by simp [System.next, alive])

end

/-- A section that keeps the counts, with tasks that hold nothing. -/
lemma keeps_sameCounts {fence next : Fence}
    (same : SameCounts fence next) (empty : ∀ task ∈ tasks, ∀ ip, task.held ip = 0)
    (valid : ∀ task ∈ tasks, task.Valid) : LockedKeeps fence next tasks where
  remaining := same.remaining
  submitted := same.submitted
  signaled := same.signaled
  balanced := fun ip => by
    rw [total_eq_zero fun task inside => empty task inside ip, same.wakelocks, Nat.add_zero]
  kept := fun _ => same.wakelocks
  covered := fun ip covered => by rwa [same.perIp, same.wakelocks]
  settled := fun _ _ equal => by rw [same.perIp, same.wakelocks, equal]
  valid := valid

variable {waiterIp : Ip}

lemma accounted_submitWaiter {acquired : Bool} (accounted : Accounted system)
    (alive : system.shared.destroyed = false) (bounded : Bounded next)
    (ran : step system (.submitWaiter waiterIp acquired) = some next) : Accounted next := by
  simp only [step] at ran
  split at ran
  · cases ran
    have live := accounted.live alive
    refine ⟨bounded, fun ip => ?_, ?_, fun _ => ⟨live.submitted, live.signaled, live.covered,
      fun none idle quiet => ?_⟩, fun destroyed => absurd destroyed (by simp [alive])⟩
    · have balance := accounted.balance ip
      have own : (holding waiterIp).held ip = if ip = waiterIp then 1 else 0 := rfl
      simp only [total_cons, own, update_apply]
      split_ifs with same
      · subst same
        omega
      · omega
    · exact forall_mem_cons.mpr ⟨trivial, accounted.valid⟩
    · exact live.settled none idle (forall_mem_cons.mp quiet).2
  · cases ran
    exact accounted

lemma removeWaiterLocked_counts (fence : Fence) (waiterIp : Ip) : SameCounts { fence with
        outstandingWaiters := u16Dec fence.outstandingWaiters
        outstandingWaitersPerIp := update fence.outstandingWaitersPerIp waiterIp
          (u16Dec (fence.outstandingWaitersPerIp waiterIp)) } (fence.removeWaiterLocked waiterIp) :=
  sameCounts_retireIfPossibleLocked

/-- A waiter that is removed leaves its wakelock to the waited work. -/
lemma keeps_removeWaiter (waiting : fence.outstandingWaitersPerIp waiterIp ≠ 0)
    (small : fence.outstandingWaitersPerIp waiterIp < 2 ^ 16)
    (empty : ∀ task ∈ tasks, ∀ ip, task.held ip = 0) (valid : ∀ task ∈ tasks, task.Valid)
    (pended : fence.outstandingSignalers ≠ 0 ∨ ∃ task ∈ tasks, task.Settles) :
    LockedKeeps fence (fence.removeWaiterLocked waiterIp) tasks := by
  have counts := removeWaiterLocked_counts fence waiterIp
  refine ⟨counts.remaining, counts.submitted, counts.signaled, fun ip => ?_,
    fun _ => counts.wakelocks, fun ip covered => ?_, fun none quiet _ => ?_, valid⟩
  · rw [total_eq_zero fun task inside => empty task inside ip, counts.wakelocks, Nat.add_zero]
  · rw [counts.wakelocks, counts.perIp]
    simp only [u16Dec_of_pos waiting small, update_apply]
    split_ifs with own
    · subst own
      omega
    · exact covered
  · obtain ⟨task, inside, settles⟩ := pended.resolve_left (not_not_intro none)
    exact absurd settles (quiet task inside)

lemma keeps_waiterCompleted (waiting : fence.outstandingWaitersPerIp waiterIp ≠ 0)
    (covered : fence.outstandingWaitersPerIp waiterIp ≤ fence.outstandingBlockWakelock waiterIp)
    (small : fence.outstandingBlockWakelock waiterIp < 2 ^ 16) :
    LockedKeeps fence (fence.waiterCompletedLocked waiterIp).2
      (if (fence.waiterCompletedLocked waiterIp).1 = true then
        [.releasing (held (.holding waiterIp))] else []) := by
  have counts := removeWaiterLocked_counts fence waiterIp
  have outstanding : (fence.removeWaiterLocked waiterIp).outstandingSignalers =
      fence.outstandingSignalers := by
    simp only [outstandingSignalers, counts.submitted, counts.signaled]
  by_cases none : fence.outstandingSignalers = 0
  · have released : fence.waiterCompletedLocked waiterIp =
        (true, { fence.removeWaiterLocked waiterIp with
          outstandingBlockWakelock := update fence.outstandingBlockWakelock waiterIp
            (fence.outstandingBlockWakelock waiterIp - 1) }) := by
      have counted : fence.outstandingBlockWakelock waiterIp ≠ 0 := by omega
      simp only [waiterCompletedLocked, outstanding, counts.wakelocks]
      rw [if_pos ⟨none, counted⟩, u16Dec_of_pos counted small]
    have perIp : u16Dec (fence.outstandingWaitersPerIp waiterIp) =
        fence.outstandingWaitersPerIp waiterIp - 1 := u16Dec_of_pos waiting (by omega)
    have held : ∀ ip, (releasing (held (.holding waiterIp))).held ip =
        if ip = waiterIp then 1 else 0 := fun _ => rfl
    rw [released]
    refine ⟨counts.remaining, counts.submitted, counts.signaled, fun ip => ?_,
      fun outstanding => absurd none outstanding, fun ip covers => ?_, fun _ _ equal => ?_, by simp [Valid]⟩
    · simp only [if_true, total_cons, total_nil, held, update_apply]
      split_ifs with own
      · subst own
        omega
      · rfl
    · simp only [counts.perIp, perIp, update_apply]
      split_ifs with own
      · subst own
        omega
      · exact covers
    · simp only [counts.perIp, perIp, equal]
  · have pended : fence.waiterCompletedLocked waiterIp =
        (false, fence.removeWaiterLocked waiterIp) := by
      simp only [waiterCompletedLocked, outstanding]
      rw [if_neg fun both => none both.1]
    rw [pended]
    exact keeps_removeWaiter waiting (by omega) (by simp) (by simp) (Or.inl none)

/-- The waited work settles the surplus once it is started. -/
lemma accounted_startWork (accounted : Accounted system)
    (ran : step system .startWork = some next) : Accounted next := by
  simp only [step] at ran
  split at ran
  · next pending =>
      cases ran
      refine ⟨accounted.bounded, fun ip => ?_, ?_, fun alive => ?_, fun destroyed => ?_⟩
      · simpa [held] using accounted.balance ip
      · exact forall_mem_cons.mpr ⟨trivial, accounted.valid⟩
      · have live := accounted.live alive
        exact ⟨live.submitted, live.signaled, live.covered, fun _ _ quiet =>
          absurd trivial (forall_mem_cons.mp quiet).1⟩
      · have idle := (accounted.dead destroyed).idle
        rw [pending] at idle
        cases idle
  · cases ran

lemma destroyLocked_wakelocks (fence : Fence) (callbacks : Bool) :
    (fence.destroyLocked callbacks).outstandingBlockWakelock = fence.outstandingBlockWakelock := by
  unfold destroyLocked
  dsimp only
  rw [(sameCounts_retireLocked true).wakelocks]
  split_ifs <;> first | rfl | exact (incSignaledSignalersLocked_kept true).2.2

section

variable (accounted : Accounted system)
include accounted

/-- Destroying hands every counted wakelock to the release. -/
lemma accounted_destroy {callbacks : Bool}
    (quiet : system.tasks = []) (idle : system.shared.workPending = false)
    (ran : step system (.destroy callbacks) = some next) : Accounted next := by
  simp only [step] at ran
  cases ran
  refine ⟨accounted.bounded, fun ip => ?_, ?_, fun alive => (by cases alive), fun _ => ?_⟩
  · have balance := accounted.balance ip
    have own : ∀ locks, (releasing locks).held ip = locks ip := fun _ => rfl
    simp only [total_cons, own, destroyLocked_wakelocks]
    omega
  · exact forall_mem_cons.mpr ⟨trivial, accounted.valid⟩
  · exact ⟨fun _ => rfl, idle, by simp [quiet, Releases]⟩

/-- The events that are one locked section of a call. -/
def Event.Locked : Event → Prop
  | .submitWaiter _ _ | .startWork | .run _ _ | .destroy _ => False
  | _ => True

variable {event : Event}

/-- Such an event changes the fence as `LockedKeeps` says. -/
lemma locked_step (allowed : Allowed system event) (locked : event.Locked)
    (ran : step system event = some next) :
    system.shared.destroyed = false ∧ ∃ fence tasks,
      LockedKeeps system.shared.fence fence tasks ∧ next = system.next fence tasks := by
  have idle : SameCounts system.shared.fence system.shared.fence := ⟨rfl, rfl, rfl, rfl, rfl⟩
  cases event with
  | submitWaiter _ _ | startWork | run _ _ | destroy _ => exact locked.elim
  | submitSignaler =>
    refine ⟨allowed.1, _, _, keeps_sameCounts idle ?_ ?_, (some.inj ran).symm⟩
    · simp [held]
    · simpa [Valid, maskIps] using (nodup_finRange 16).filter _
  | signal error ret async =>
    refine ⟨allowed.1, _, _, keeps_sameCounts
      (sameCounts_signalWithStatusLocked error false ret) ?_ ?_,
      (some.inj ran).symm⟩
    · intro task inside
      split_ifs at inside <;> simp_all [held]
    · intro task inside
      split_ifs at inside <;> simp_all [Valid]
  | signalerCompleted async =>
    refine ⟨allowed.1, _, _, keeps_sameCounts idle ?_ ?_, (some.inj ran).symm⟩
    · intro task inside
      split_ifs at inside <;> simp_all [held]
    · intro task inside
      split_ifs at inside <;> simp_all [Valid]
  | waiterCompleted waiterIp =>
    obtain ⟨alive, waiting⟩ := allowed
    have room := accounted.room waiterIp
    exact ⟨alive, _, _, keeps_waiterCompleted waiting
      ((accounted.live alive).covered waiterIp) (by omega), (some.inj ran).symm⟩
  | waiterCompletedAsync waiterIp =>
    obtain ⟨alive, waiting⟩ := allowed
    have room := accounted.room waiterIp
    have covered := (accounted.live alive).covered waiterIp
    refine ⟨alive, _, _, keeps_removeWaiter waiting (by omega) ?_ ?_
      (Or.inr ⟨.scheduling, by simp, trivial⟩), (some.inj ran).symm⟩
    · simp [held]
    · simp [Valid]
  | addSyncPoint timeline count ret =>
    exact ⟨allowed.1, _, _, keeps_sameCounts
      (sameCounts_addSyncPoint timeline count ret) (by simp) (by simp),
      (some.inj ran).symm⟩
  | setFlags flags clear =>
    exact ⟨allowed.1, _, _, keeps_sameCounts (sameCounts_setFlags flags clear) (by simp) (by simp),
      (some.inj ran).symm⟩
  | setPropagateUnblock | openSyncFile =>
    refine ⟨allowed.1, _, _, keeps_sameCounts ?_ (by simp) (by simp),
      (some.inj ran).symm⟩
    exact ⟨rfl, rfl, rfl, rfl, rfl⟩
  | closeSyncFile =>
    refine ⟨allowed.1.1, _, _, keeps_sameCounts ?_ ?_ ?_, (some.inj ran).symm⟩
    · exact ⟨rfl, rfl, rfl, rfl, rfl⟩
    · intro task inside
      split_ifs at inside <;> simp_all [held]
    · intro task inside
      split_ifs at inside <;> simp_all [Valid]

/-- One step of the system keeps the invariant. -/
lemma accounted_step (allowed : Allowed system event) (bounded : Bounded next)
    (ran : step system event = some next) : Accounted next := by
  by_cases locked : event.Locked
  · obtain ⟨alive, fence, tasks, keeps, rfl⟩ := locked_step accounted allowed locked ran
    exact accounted_next accounted alive keeps
  cases event with
  | submitWaiter waiterIp acquired =>
    exact accounted_submitWaiter accounted allowed.1 bounded ran
  | startWork => exact accounted_startWork accounted ran
  | run index choice => exact accounted_run accounted bounded ran
  | destroy callbacks => exact accounted_destroy accounted allowed.1.2.1 allowed.1.2.2 ran
  | _ => exact absurd trivial locked

/-- While a submitted signaler has not signaled, no counted wakelock is given up. -/
lemma wakelocks_kept
    (allowed : Allowed system event) (remains : ∀ callbacks, event ≠ .destroy callbacks)
    (outstanding : system.shared.fence.outstandingSignalers ≠ 0)
    (ran : step system event = some next) (ip : Ip) :
    system.shared.fence.outstandingBlockWakelock ip ≤
      next.shared.fence.outstandingBlockWakelock ip := by
  by_cases locked : event.Locked
  · obtain ⟨_, fence, tasks, keeps, rfl⟩ := locked_step accounted allowed locked ran
    exact (congrFun (keeps.kept outstanding) ip).ge
  cases event with
  | submitWaiter waiterIp acquired =>
    simp only [step] at ran
    split at ran <;> obtain rfl := some.inj ran <;> exact le_rfl
  | startWork =>
    simp only [step] at ran
    split at ran
    · cases ran
      exact le_rfl
    · cases ran
  | run index choice =>
    obtain ⟨task, others, rest, keeps, _⟩ := keeps_run accounted ran
    exact keeps.kept outstanding ip
  | destroy callbacks => exact absurd rfl (remains callbacks)
  | _ => exact absurd trivial locked

end

lemma step_of_boundedStep (ran : boundedStep system event = some next) :
    Allowed system event ∧ step system event = some next ∧ Bounded next := by
  unfold boundedStep at ran
  split at ran
  · next allowed =>
      obtain ⟨ran, bounded⟩ := filter_eq_some_iff.mp ran
      exact ⟨allowed, ran, of_decide_eq_true bounded⟩
  · cases ran

end SystemSteps

lemma accounted_initial (params : FenceParams) : Accounted (initial params) where
  bounded := fun _ => by simp [initial]
  balance := fun _ => rfl
  valid := by simp [initial]
  live := fun _ => ⟨Nat.zero_le _, le_rfl, fun _ => le_rfl, fun _ _ _ => rfl⟩
  dead := fun destroyed => by cases destroyed

lemma accounted_foldlM (params : FenceParams) (events : List Event) (system : System)
    (ran : events.foldlM boundedStep (initial params) = some system) : Accounted system :=
  Lib.Runs.foldlM_preserves Accounted boundedStep (fun _ _ _ accounted stepped =>
      let ⟨allowed, stepped, bounded⟩ := step_of_boundedStep stepped
      accounted_step accounted allowed bounded stepped)
    events (accounted_initial params) ran

/-- The accounting of block wakelocks in every state of every run, with every step from
that state. -/
theorem wakelocks_foldlM (params : FenceParams) (events : List Event) (system : System)
    (ran : events.foldlM boundedStep (initial params) = some system) :
    (system.tasks = [] → ∀ ip, system.shared.acquired ip =
      system.shared.released ip + system.shared.fence.outstandingBlockWakelock ip) ∧
    (system.shared.destroyed = false → ∀ ip, system.shared.fence.outstandingWaitersPerIp ip ≤
        system.shared.fence.outstandingBlockWakelock ip) ∧
    (system.shared.destroyed = false → system.shared.fence.outstandingSignalers = 0 →
      system.shared.workPending = false → (∀ task ∈ system.tasks, ¬ task.Settles) →
      system.shared.fence.outstandingBlockWakelock = system.shared.fence.outstandingWaitersPerIp) ∧
    (∀ ip, system.shared.released ip + system.shared.fence.outstandingBlockWakelock ip ≤
      system.shared.acquired ip) ∧
    (∀ event next ip, boundedStep system event = some next →
      next.shared.fence.outstandingBlockWakelock ip <
        system.shared.fence.outstandingBlockWakelock ip →
      (∃ callbacks, event = .destroy callbacks) ∨ system.shared.fence.outstandingSignalers = 0) ∧
    (system.shared.destroyed = true → system.tasks = [] →
      system.shared.acquired = system.shared.released) := by
  have accounted := accounted_foldlM params events system ran
  refine ⟨fun quiet ip => ?_, fun alive => (accounted.live alive).covered,
    fun alive => (accounted.live alive).settled, fun ip => ?_, fun event next ip stepped less => ?_,
    fun destroyed quiet => ?_⟩
  · simpa [quiet] using accounted.balance ip
  · have balance := accounted.balance ip
    omega
  · by_contra neither
    rw [not_or, not_exists] at neither
    obtain ⟨allowed, stepped, _⟩ := step_of_boundedStep stepped
    exact absurd (wakelocks_kept accounted allowed neither.1 neither.2 stepped ip)
      (Nat.not_le.mpr less)
  · ext ip
    simpa [quiet, (accounted.dead destroyed).uncounted ip] using accounted.balance ip

/-- A single-shot fence with one signaler. -/
def oneSignaler : FenceParams where
  fenceType := .singleShot
  flags := ⟨false, false, false⟩
  syncPoints := false
  remainingSignalers := 1
  waiters := fun _ => false
  signalerIsAp := false

/-- A fence with two signalers and a waiter known from the start. -/
def twoSignalers : FenceParams :=
  { oneSignaler with
    remainingSignalers := 2
    waiters := fun ip => decide (ip = 1) }

/-- A signaler and a waiter are submitted, and the signaler completes. -/
def signalThenWait : List Event :=
  [.submitSignaler, .run 0 .proceed, .submitWaiter 1 true, .run 0 .proceed,
    .signalerCompleted false, .run 0 .proceed, .run 0 .proceed, .run 0 .proceed]

/-- The first signaler completes; the waited work it calls decides on a release, and the
second signaler is submitted before the release is called. -/
def releaseThenSubmit : List Event :=
  [.openSyncFile, .submitSignaler, .run 0 .proceed, .run 0 .proceed,
    .signalerCompleted false, .run 0 .proceed, .run 0 .proceed,
    .submitSignaler, .run 0 .proceed, .run 0 .proceed]

theorem wakelocks_signalThenWait :
    ∃ system, signalThenWait.foldlM boundedStep (initial oneSignaler) = some system ∧
      ∀ ip, system.shared.released ip + system.shared.fence.outstandingBlockWakelock ip ≤
        system.shared.acquired ip := by
  obtain ⟨system, ran⟩ : ∃ system,
      signalThenWait.foldlM boundedStep (initial oneSignaler) = some system :=
    isSome_iff_exists.mp (by decide +kernel)
  exact ⟨system, ran, (wakelocks_foldlM oneSignaler signalThenWait system ran).2.2.2.1⟩

/-- Destroying a fence with a waiter left clears the count; a waiter completed
asynchronously keeps its wakelock until the work is scheduled; and a release is called
when another signaler is outstanding. -/
theorem wakelocks_exceptions :
    (∃ system, (signalThenWait ++ [Event.destroy false]).foldlM boundedStep
        (initial oneSignaler) = some system ∧
      system.shared.fence.outstandingBlockWakelock 1 <
        system.shared.fence.outstandingWaitersPerIp 1) ∧
    (∃ system, (signalThenWait ++ [Event.waiterCompletedAsync 1]).foldlM boundedStep
        (initial oneSignaler) = some system ∧
      system.shared.fence.outstandingSignalers = 0 ∧ system.shared.workPending = false ∧
      working ∉ system.tasks ∧
      system.shared.fence.outstandingBlockWakelock 1 ≠
        system.shared.fence.outstandingWaitersPerIp 1) ∧
    (∃ system next, releaseThenSubmit.foldlM boundedStep (initial twoSignalers) = some system ∧
      boundedStep system (.run 0 .proceed) = some next ∧
      system.shared.fence.outstandingSignalers ≠ 0 ∧
      system.shared.released 1 < next.shared.released 1) := by
  refine ⟨Lib.Runs.exists_reached _ (by decide +kernel),
    Lib.Runs.exists_reached _ (by decide +kernel), ?_⟩
  obtain ⟨system, ran, outstanding, stepped⟩ := Lib.Runs.exists_reached
    (fun system : System => system.shared.fence.outstandingSignalers ≠ 0 ∧
      (boundedStep system (.run 0 .proceed)).any (fun next =>
        decide (system.shared.released 1 < next.shared.released 1)) = true)
    (show (releaseThenSubmit.foldlM boundedStep (initial twoSignalers)).any _ = true by
      decide +kernel)
  obtain ⟨next, stepped, released⟩ := Lib.Runs.exists_reached _ stepped
  exact ⟨system, next, ran, stepped, outstanding, released⟩

end GsKernel.Iif
