import GsKernel.Iif.Accounting

/-!
# Retirement of a fence

`iif_fence_retire_locked` gives the ID back to the sync-unit while the fence lives on, so nothing
may reach the sync-unit or the fence table afterwards: `fenceRetire` stands at most once in the
log, and nothing behind it. `iif_fence_add_sync_point` alone does not look at the state.
-/

namespace GsKernel.Iif

open Lib.Tasks Fence List

def FenceOp.isRetire : FenceOp → Bool
  | .fenceRetire _ _ _ _ => true
  | _ => false

/-- A retirement before destruction finds no waiter, no signaler and no sync file. -/
def FenceOp.IdleRetire : FenceOp → Prop
  | .fenceRetire waiters signalers files false => waiters = 0 ∧ signalers = 0 ∧ files = 0
  | _ => True

namespace Fence

/-- The log up to a retirement has no other, and nothing follows the retirement. -/
def Logged (fence : Fence) : Prop :=
  if fence.retired = true then
    ∃ before retire, fence.ops = before ++ [retire] ∧ retire.isRetire = true ∧
      retire.IdleRetire ∧ ∀ op ∈ before, op.isRetire = false
  else ∀ op ∈ fence.ops, op.isRetire = false

/-- The invariant of a fence that is not destroyed. -/
structure Coherent (fence : Fence) : Prop where
  logged : fence.Logged
  settled : fence.retired = true → fence.outstandingSignalers = 0

variable {fence next : Fence}

section

variable (logged : fence.Logged)
include logged

lemma Logged.congr (retired : next.retired = fence.retired)
    (ops : next.ops = fence.ops) : next.Logged := by
  unfold Logged at logged ⊢
  rwa [retired, ops]

lemma Logged.open (unretired : fence.retired = false) : ∀ op ∈ fence.ops, op.isRetire = false := by
  rwa [Logged, if_neg (by simp [unretired])] at logged

lemma logged_invoke {op : FenceOp} (unretired : fence.retired = false)
    (other : op.isRetire = false) : (fence.invoke op).Logged := by
  have before := logged.open unretired
  rw [Logged, if_neg (by simp [invoke, unretired])]
  exact forall_mem_append.mpr ⟨before, by simpa using other⟩

lemma logged_retireLocked {destroying : Bool} (idle : destroying = false →
      fence.outstandingWaiters = 0 ∧ fence.outstandingSignalers = 0 ∧ fence.numSyncFile = 0) :
    (fence.retireLocked destroying).Logged := by
  unfold retireLocked
  split
  · exact logged
  · next unretired =>
      have before := logged.open (Bool.eq_false_iff.mpr unretired)
      rw [Logged, if_pos rfl]
      refine ⟨fence.ops ++ [.removePollCb], _, rfl, rfl, ?_, ?_⟩
      · cases destroying with
        | true => trivial
        | false => exact idle rfl
      · exact forall_mem_append.mpr ⟨before, by simp [FenceOp.isRetire]⟩

lemma Logged.countP_retire :
    fence.ops.countP FenceOp.isRetire = if fence.retired = true then 1 else 0 := by
  unfold Logged at logged
  split_ifs at logged ⊢
  · obtain ⟨before, retire, ops, isRetire, -, others⟩ := logged
    have none : before.countP FenceOp.isRetire = 0 :=
      countP_eq_zero.mpr fun op inside => by simp [others op inside]
    rw [ops, countP_append, none, countP_singleton, if_pos isRetire]
  · exact countP_eq_zero.mpr fun op inside => by simp [logged op inside]

lemma Logged.idle : ∀ op ∈ fence.ops, op.IdleRetire := by
  have trivially : ∀ op : FenceOp, op.isRetire = false → op.IdleRetire := by
    rintro (_ | _ | _ | _ | _ | _ | _) other <;> trivial
  unfold Logged at logged
  split at logged
  · obtain ⟨before, retire, ops, -, idle, others⟩ := logged
    rw [ops]
    exact forall_mem_append.mpr
      ⟨fun op inside => trivially op (others op inside), by simpa using idle⟩
  · exact fun op inside => trivially op (logged op inside)

lemma Logged.last (before : List FenceOp) (op : FenceOp)
    (after : List FenceOp) (split : fence.ops = before ++ op :: after)
    (isRetire : op.isRetire = true) : after = [] := by
  unfold Logged at logged
  split_ifs at logged
  · obtain ⟨earlier, retire, ops, -, -, others⟩ := logged
    rcases eq_nil_or_concat after with rfl | ⟨middle, final, rfl⟩
    · rfl
    -- the operation would stand before the retirement at the end of the log
    have same : before ++ op :: middle = earlier := by
      rw [ops, concat_eq_append, ← cons_append, ← append_assoc] at split
      exact ((append_inj' split rfl).1).symm
    have inside : op ∈ earlier := by simp [← same]
    simp [others op inside] at isRetire
  · have inside : op ∈ fence.ops := by simp [split]
    simp [logged op inside] at isRetire

end

lemma retired_retireLocked (destroying : Bool) :
    (fence.retireLocked destroying).retired = true := by
  unfold retireLocked
  split
  · next retired => exact retired
  · rfl

lemma Coherent.congr (coherent : fence.Coherent) (retired : next.retired = fence.retired)
    (ops : next.ops = fence.ops)
    (outstanding : next.outstandingSignalers = fence.outstandingSignalers) : next.Coherent :=
  ⟨coherent.logged.congr retired ops, fun done => by
    rw [outstanding]
    exact coherent.settled (retired ▸ done)⟩

lemma logged_retireIfPossibleLocked (logged : fence.Logged) :
    fence.retireIfPossibleLocked.Logged := by
  unfold retireIfPossibleLocked
  split
  · next idle => exact logged_retireLocked logged fun _ => idle.2
  · exact logged

lemma coherent_retireIfPossibleLocked (coherent : fence.Coherent) :
    fence.retireIfPossibleLocked.Coherent := by
  refine ⟨logged_retireIfPossibleLocked coherent.logged, ?_⟩
  rw [sameCounts_retireIfPossibleLocked.outstanding]
  unfold retireIfPossibleLocked
  split
  · next idle => exact fun _ => idle.2.2.1
  · exact coherent.settled

lemma coherent_of_unretired (logged : fence.Logged) (unretired : fence.retired = false) :
    fence.Coherent :=
  ⟨logged, fun retired => absurd retired (by simp [unretired])⟩

variable {waiterIp : Ip}

lemma coherent_submitWaiterLocked (coherent : fence.Coherent)
    (unretired : fence.retired = false) : (fence.submitWaiterLocked waiterIp).Coherent := by
  unfold submitWaiterLocked
  dsimp only
  split
  · exact coherent.congr rfl rfl rfl
  · have logged : (fence.invoke (.tableSetWaitingIp waiterIp)).Logged :=
      logged_invoke coherent.logged unretired rfl
    exact coherent_of_unretired (logged.congr rfl rfl) unretired

/-- A signal reaches the sync-unit only while a signaler is outstanding. -/
lemma coherent_signalWithStatusLocked {error ret : Int} (coherent : fence.Coherent) :
    (fence.signalWithStatusLocked error false ret).2.Coherent := by
  unfold signalWithStatusLocked
  split_ifs with signaled none
  · exact coherent
  · exact coherent
  · exact coherent
  · exact coherent
  · have unretired : fence.retired = false := by
      by_contra retired
      exact none ⟨rfl, coherent.settled (by simpa using retired)⟩
    exact coherent_of_unretired (logged_invoke coherent.logged unretired rfl) unretired

variable {complete : Bool}

lemma logged_incSignaledSignalersLocked (logged : fence.Logged) :
    (fence.incSignaledSignalersLocked complete).2.Logged := by
  unfold incSignaledSignalersLocked
  split
  · exact logged
  · exact logged_retireIfPossibleLocked (logged.congr rfl rfl)

lemma coherent_incSignaledSignalersLocked (logged : fence.Logged)
    (unretired : fence.retired = false) :
    (fence.incSignaledSignalersLocked complete).2.Coherent := by
  unfold incSignaledSignalersLocked
  split
  · exact coherent_of_unretired logged unretired
  · exact coherent_retireIfPossibleLocked (coherent_of_unretired (logged.congr rfl rfl) unretired)

section

variable (coherent : fence.Coherent)
include coherent

lemma coherent_countSignalLocked : fence.countSignalLocked.2.2.Coherent := by
  unfold countSignalLocked
  split
  · exact coherent
  split
  · exact coherent
  · next outstanding =>
      have unretired : fence.retired = false := by
        by_contra retired
        exact outstanding (coherent.settled (by simpa using retired))
      exact coherent_incSignaledSignalersLocked coherent.logged unretired

lemma coherent_removeWaiterLocked : (fence.removeWaiterLocked waiterIp).Coherent := by
  refine coherent_retireIfPossibleLocked (coherent.congr rfl rfl ?_)
  simp only [outstandingSignalers]

lemma coherent_waiterCompletedLocked : (fence.waiterCompletedLocked waiterIp).2.Coherent := by
  have removed := @coherent_removeWaiterLocked fence waiterIp coherent
  unfold waiterCompletedLocked
  dsimp only
  split
  · exact removed.congr rfl rfl rfl
  · exact removed

lemma coherent_setFlags {flags : Flags} {clear : Bool} :
    (fence.setFlags flags clear).2.Coherent := by
  unfold setFlags
  split_ifs <;> exact coherent.congr rfl rfl rfl

end

/-- Destroying retires the fence, if that has not happened yet. -/
lemma logged_destroyLocked {callbacks : Bool} (logged : fence.Logged) :
    (fence.destroyLocked callbacks).Logged := by
  refine logged_retireLocked ?_ fun destroying => by cases destroying
  split_ifs
  · exact logged.congr rfl rfl
  · exact logged_incSignaledSignalersLocked (logged.congr rfl rfl)
  · exact logged
  · exact logged_incSignaledSignalersLocked (logged.congr rfl rfl)

variable {timeline count : Nat}

/-- The operators reach a fence that is not retired, but for the one that adds a sync
point. -/
lemma coherent_addSyncPoint {ret : Int} (coherent : fence.Coherent)
    (safe : fence.retired = false ∨ fence.fenceType ≠ .reusable ∨ timeline = 0 ∨ count = 0 ∨
      fence.syncPoints = false) : (fence.addSyncPoint timeline count ret).2.Coherent := by
  unfold addSyncPoint
  split_ifs with other zero supported
  · exact coherent
  · exact coherent
  · have unretired : fence.retired = false := by
      rcases safe with unretired | single | zero' | zero' | unsupported
      · exact unretired
      · exact absurd single other
      · exact absurd (Or.inl zero') zero
      · exact absurd (Or.inr zero') zero
      · simp [unsupported] at supported
    exact coherent_of_unretired (logged_invoke coherent.logged unretired rfl) unretired
  · exact coherent

lemma addSyncPoint_reaches (ret : Int)
    (reaches : ¬ (fence.retired = false ∨ fence.fenceType ≠ .reusable ∨ timeline = 0 ∨ count = 0 ∨
      fence.syncPoints = false)) :
    fence.retired = true ∧ (fence.addSyncPoint timeline count ret).2 =
      fence.invoke (.fenceAddSyncPoint timeline count) := by
  simp only [not_or, Bool.not_eq_false, not_not] at reaches
  obtain ⟨retired, reusable, timeline, count, supported⟩ := reaches
  exact ⟨retired, by simp [addSyncPoint, *]⟩

end Fence

/-- A retired fence has given its ID back for good: the log of every reached state. -/
structure RetireFinal (system : System) : Prop where
  once : system.shared.fence.ops.countP FenceOp.isRetire ≤ 1
  destroyed : system.shared.destroyed = true → system.shared.fence.ops.countP FenceOp.isRetire = 1
  idle : ∀ op ∈ system.shared.fence.ops, op.IdleRetire
  last : ∀ before op after, system.shared.fence.ops = before ++ op :: after →
    op.isRetire = true → after = []

/-- A call that does not add a sync point to a retired fence. -/
def SyncPointSafe (system : System) : Event → Prop
  | .addSyncPoint timeline count _ =>
    system.shared.fence.retired = false ∨ system.shared.fence.fenceType ≠ .reusable ∨
      timeline = 0 ∨ count = 0 ∨ system.shared.fence.syncPoints = false
  | _ => True

instance (system : System) : (event : Event) → Decidable (SyncPointSafe system event)
  | .addSyncPoint _ _ _ => inferInstanceAs (Decidable (_ ∨ _ ∨ _ ∨ _ ∨ _))
  | .submitWaiter _ _ | .submitSignaler | .signal _ _ _ | .signalerCompleted _
  | .waiterCompleted _ | .waiterCompletedAsync _ | .setFlags _ _ | .setPropagateUnblock
  | .openSyncFile | .closeSyncFile | .startWork | .run _ _ | .destroy _ => isTrue trivial

/-- A step of callers that hold a reference. -/
def referencedStep (system : System) (event : Event) : Option System :=
  if Referenced system event then step system event else none

/-- The same, without sync points for retired fences. -/
def safeStep (system : System) (event : Event) : Option System :=
  if SyncPointSafe system event then referencedStep system event else none

/-- The invariant of the runs. -/
structure Retiring (system : System) : Prop where
  logged : system.shared.fence.Logged
  coherent : system.shared.destroyed = false → system.shared.fence.Coherent
  dead : system.shared.destroyed = true →
    system.shared.fence.retired = true ∧ Dead system.shared system.tasks

section Steps

variable {shared next : Shared} {rest : List Task} {choice : Choice} {task : Task}

lemma releasing_fence {locks : Ip → Nat}
    (ran : taskStep shared (.releasing locks) choice = some (next, rest)) :
    next.fence = shared.fence ∧ next.destroyed = shared.destroyed := by
  cases choice <;> simp only [taskStep, reduceCtorEq] at ran
  split at ran <;> cases ran
  all_goals exact ⟨rfl, rfl⟩

/-- A step of a call under way keeps the fence coherent. -/
lemma coherent_taskStep (coherent : shared.fence.Coherent)
    (ran : taskStep shared task choice = some (next, rest)) :
    next.fence.Coherent ∧ next.destroyed = shared.destroyed := by
  cases task with
  | holding waiterIp =>
    simp only [taskStep] at ran
    split at ran
    · next admitted =>
        cases ran
        have submitted : (shared.fence.submitWaiterLocked waiterIp).Coherent :=
          coherent_submitWaiterLocked coherent (waiterSubmittable_eq_zero.mp admitted.2).2
        exact ⟨submitted.congr rfl rfl rfl, rfl⟩
    · cases ran
      exact ⟨coherent, rfl⟩
  | submitting ips wakelockHeld =>
    cases ips <;> simp only [taskStep] at ran
    case nil =>
      split at ran
      · next admitted =>
          cases ran
          have unretired := (signalerSubmittable_eq_zero.mp admitted.2).2
          exact ⟨coherent_of_unretired (coherent.logged.congr rfl rfl) unretired, rfl⟩
      · cases ran
        exact ⟨coherent, rfl⟩
    case cons ip ips =>
      split at ran <;> cases ran
      all_goals exact ⟨coherent, rfl⟩
  | counting async =>
    cases choice <;> simp only [taskStep, reduceCtorEq] at ran
    cases ran
    exact ⟨coherent_countSignalLocked coherent, rfl⟩
  | scheduling =>
    cases choice <;> simp only [taskStep, reduceCtorEq] at ran
    cases ran
    exact ⟨coherent, rfl⟩
  | working =>
    cases choice <;> simp only [taskStep, reduceCtorEq] at ran
    split at ran <;> cases ran
    · exact ⟨coherent, rfl⟩
    · exact ⟨coherent.congr rfl rfl rfl, rfl⟩
  | closing =>
    cases choice <;> simp only [taskStep, reduceCtorEq] at ran
    cases ran
    exact ⟨coherent_retireIfPossibleLocked coherent, rfl⟩
  | releasing locks =>
    obtain ⟨fence, alive⟩ := releasing_fence ran
    exact ⟨fence ▸ coherent, alive⟩

variable {system after : System} {event : Event}

lemma retiring_next {fence : Fence} {tasks : List Task} (coherent : fence.Coherent)
    (alive : system.shared.destroyed = false) : Retiring (system.next fence tasks) :=
  ⟨coherent.logged, fun _ => coherent, fun destroyed => absurd destroyed (by simp [System.next, alive])⟩

/-- A step of a task, before or after the destruction. -/
lemma retiring_run {index : Nat} (retiring : Retiring system)
    (ran : Pool.run taskStep system index choice = some after) : Retiring after := by
  obtain ⟨task, others, rest, -, stepped, picked, tasks⟩ := Pool.run_eq_some ran
  cases destroyed : system.shared.destroyed with
  | false =>
    obtain ⟨coherent, same⟩ := coherent_taskStep (retiring.coherent destroyed) stepped
    rw [destroyed] at same
    exact ⟨coherent.logged, fun _ => coherent, fun destroyed => absurd destroyed (by simp [same])⟩
  | true =>
    obtain ⟨retired, dead⟩ := retiring.dead destroyed
    have mem : task ∈ system.tasks := picked.mem_iff.mpr mem_cons_self
    obtain ⟨locks, rfl⟩ := (dead.releases task mem).eq_releasing
    obtain ⟨fence, same⟩ := releasing_fence stepped
    refine ⟨fence ▸ retiring.logged, fun alive => ?_, fun _ => ⟨fence ▸ retired, ?_⟩⟩
    · simp [same, destroyed] at alive
    · rw [tasks]
      exact dead_taskStep ⟨dead.uncounted, dead.idle, fun other inside =>
        dead.releases other (picked.mem_iff.mpr inside)⟩ stepped

lemma retiring_destroy {callbacks : Bool} (retiring : Retiring system)
    (quiet : system.tasks = []) (idle : system.shared.workPending = false)
    (ran : step system (.destroy callbacks) = some after) : Retiring after := by
  cases ran
  refine ⟨(logged_destroyLocked retiring.logged).congr rfl rfl, fun alive => (by cases alive),
    fun _ => ⟨retired_retireLocked true, fun _ => rfl, idle, ?_⟩⟩
  simp [quiet, Task.Releases]

section

variable (retiring : Retiring system)
include retiring

/-- The calls of a fence that is not destroyed. -/
lemma retiring_call (safe : SyncPointSafe system event)
    (alive : system.shared.destroyed = false) (remains : ∀ callbacks, event ≠ .destroy callbacks)
    (ran : step system event = some after) : Retiring after := by
  have coherent := retiring.coherent alive
  cases event with
  | submitWaiter waiterIp acquired =>
    simp only [step] at ran
    split at ran <;> cases ran
    · exact ⟨coherent.logged, fun _ => coherent, fun destroyed => absurd destroyed (by simp [alive])⟩
    · exact retiring
  | submitSignaler | signalerCompleted async =>
    cases ran
    exact retiring_next coherent alive
  | signal error ret async =>
    cases ran
    exact retiring_next (coherent_signalWithStatusLocked coherent) alive
  | waiterCompleted waiterIp =>
    cases ran
    exact retiring_next (coherent_waiterCompletedLocked coherent) alive
  | waiterCompletedAsync waiterIp =>
    cases ran
    exact retiring_next (coherent_removeWaiterLocked coherent) alive
  | addSyncPoint timeline count ret =>
    cases ran
    exact retiring_next (coherent_addSyncPoint coherent safe) alive
  | setFlags flags clear =>
    cases ran
    exact retiring_next (coherent_setFlags coherent) alive
  | setPropagateUnblock | openSyncFile | closeSyncFile =>
    cases ran
    exact retiring_next (coherent.congr rfl rfl rfl) alive
  | startWork =>
    simp only [step] at ran
    split at ran
    · cases ran
      exact ⟨coherent.logged, fun _ => coherent, fun destroyed => absurd destroyed (by simp [alive])⟩
    · cases ran
  | run index choice => exact retiring_run retiring ran
  | destroy callbacks => exact absurd rfl (remains callbacks)

/-- One step keeps the invariant, unless it adds a sync point to a retired fence. -/
lemma retiring_step (safe : SyncPointSafe system event)
    (ran : referencedStep system event = some after) : Retiring after := by
  unfold referencedStep at ran
  split at ran
  case isFalse => cases ran
  case isTrue referenced =>
    by_cases destroys : ∃ callbacks, event = .destroy callbacks
    · obtain ⟨callbacks, rfl⟩ := destroys
      exact retiring_destroy retiring referenced.2.1 referenced.2.2 ran
    cases destroyed : system.shared.destroyed with
    | false =>
      exact retiring_call retiring safe destroyed (not_exists.mp destroys) ran
    | true =>
      -- only the release of wakelocks is left, and no work is pending
      have idle := (retiring.dead destroyed).2.idle
      cases event with
      | run index choice => exact retiring_run retiring ran
      | startWork => simp [step, idle] at ran
      | _ => simp_all [Referenced]

/-- The invariant gives the property of the log. -/
lemma Retiring.final : RetireFinal system where
  once := by
    rw [retiring.logged.countP_retire]
    split <;> omega
  destroyed := fun destroyed => by
    rw [retiring.logged.countP_retire, if_pos (retiring.dead destroyed).1]
  idle := retiring.logged.idle
  last := retiring.logged.last

/-- A sync point that reaches the sync-unit of a retired fence stands behind its
retirement. -/
lemma not_final_of_reaches (reaches : ¬ SyncPointSafe system event)
    (ran : referencedStep system event = some after) : ¬ RetireFinal after := by
  cases event with
  | addSyncPoint timeline count ret =>
    obtain ⟨retired, next⟩ := addSyncPoint_reaches ret reaches
    unfold referencedStep at ran
    split at ran
    · cases ran
      have logged := retiring.logged
      rw [Logged, if_pos retired] at logged
      obtain ⟨before, retire, ops, isRetire, -⟩ := logged
      intro final
      refine absurd (final.last before retire [.fenceAddSyncPoint timeline count] ?_ isRetire)
        (cons_ne_nil _ _)
      simp [System.next, next, invoke, ops]
    · cases ran
  | _ => exact absurd trivial reaches

end

end Steps

lemma retiring_initial (params : FenceParams) : Retiring (initial params) := by
  have logged : (initial params).shared.fence.Logged := by
    simp [Logged, initial, initWithParams, FenceOp.isRetire]
  exact ⟨logged, fun _ => coherent_of_unretired logged rfl, fun destroyed => by
    cases destroyed⟩

lemma retiring_foldlM (params : FenceParams) (events : List Event) (system : System)
    (ran : events.foldlM safeStep (initial params) = some system) : Retiring system := by
  refine Lib.Runs.foldlM_preserves Retiring safeStep (fun _ _ _ retiring stepped => ?_) events
    (retiring_initial params) ran
  unfold safeStep at stepped
  split at stepped
  · next safe => exact retiring_step retiring safe stepped
  · cases stepped

/-- In every run without a sync point for a retired fence retirement is final, and it
stays so exactly when the next call is of that kind too. -/
theorem retireFinal_foldlM (params : FenceParams) (events : List Event) (system : System)
    (ran : events.foldlM safeStep (initial params) = some system) :
    RetireFinal system ∧ ∀ event next, referencedStep system event = some next →
      (RetireFinal next ↔ SyncPointSafe system event) := by
  have retiring := retiring_foldlM params events system ran
  refine ⟨retiring.final, fun event next stepped => ⟨fun final => ?_, fun safe => ?_⟩⟩
  · by_contra reaches
    exact not_final_of_reaches retiring reaches stepped final
  · exact (retiring_step retiring safe stepped).final

/-- A direct reusable fence with one signaler. -/
def reusableFence : FenceParams where
  fenceType := .reusable
  flags := ⟨false, false, true⟩
  syncPoints := true
  remainingSignalers := 1
  waiters := fun _ => false
  signalerIsAp := false

/-- A signaler and a waiter come and go, and the fence retires. -/
def retiringCalls : List Event :=
  [.submitSignaler, .run 0 .proceed, .submitWaiter 1 true, .run 0 .proceed,
    .signalerCompleted false, .run 0 .proceed, .run 0 .proceed, .run 0 .proceed,
    .waiterCompleted 1]

theorem retireFinal_retiringCalls :
    ∃ system, retiringCalls.foldlM safeStep (initial reusableFence) = some system ∧
      system.shared.fence.retired = true ∧ RetireFinal system := by
  obtain ⟨system, ran, retired⟩ := Lib.Runs.exists_reached
    (fun system : System => system.shared.fence.retired = true)
    (show (retiringCalls.foldlM safeStep (initial reusableFence)).any _ = true by decide +kernel)
  exact ⟨system, ran, retired, (retireFinal_foldlM reusableFence retiringCalls system ran).1⟩

/-- A sync point added after the retirement reaches the sync-unit. -/
theorem addSyncPoint_after_retire :
    ∃ system, (retiringCalls ++ [Event.addSyncPoint 1 1 0]).foldlM referencedStep
        (initial reusableFence) = some system ∧
      system.shared.fence.ops = [.fenceCreate, .addPollCb, .tableSetWaitingIp 1, .removePollCb,
        .fenceRetire 0 0 0 false, .fenceAddSyncPoint 1 1] ∧
      ¬ RetireFinal system := by
  obtain ⟨system, ran, ops⟩ := Lib.Runs.exists_reached
    (fun system : System => system.shared.fence.ops = [.fenceCreate, .addPollCb,
      .tableSetWaitingIp 1, .removePollCb, .fenceRetire 0 0 0 false, .fenceAddSyncPoint 1 1])
    (show ((retiringCalls ++ [Event.addSyncPoint 1 1 0]).foldlM referencedStep
      (initial reusableFence)).any _ = true by decide +kernel)
  refine ⟨system, ran, ops, fun final => ?_⟩
  have last := final.last [.fenceCreate, .addPollCb, .tableSetWaitingIp 1, .removePollCb]
    (.fenceRetire 0 0 0 false) [.fenceAddSyncPoint 1 1] ops rfl
  cases last

end GsKernel.Iif
