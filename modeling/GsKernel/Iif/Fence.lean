import Mathlib
import GsKernel.Lib.Errno

/-!
# The inter-IP fence

The part of `struct iif_fence` that counts signalers, waiters and wakelocks, and the functions of
`iif-fence.c` that change it under `fence_lock`, with a log of the sync-unit operators and the
writes to the fence table. Signaler counts never pass `remaining_signalers`, a `uint16_t`; the
counts of waiters and wakelocks are reduced modulo `2 ^ 16`.
-/

namespace GsKernel.Iif

/-- `IIF_IP_RESERVED`, the size of the arrays indexed by an IP. -/
abbrev Ip := Fin 16

instance neZeroIps : NeZero 16 := ⟨by decide⟩

/-- `IIF_IP_NUM`: the IPs from here on do not exist. -/
def IIF_IP_NUM : Nat := 5

/-- `enum iif_fence_type`. -/
inductive FenceType where
  | singleShot
  | reusable
deriving DecidableEq

/-- An operator of the sync-unit, or a write to the fence table. `fenceRetire` notes the
outstanding waiters and signalers and the open sync files it finds, and whether the fence is being
destroyed. -/
inductive FenceOp where
  | fenceCreate
  | addPollCb
  | removePollCb
  | fenceSignal (error : Int)
  | fenceAddSyncPoint (timeline count : Nat)
  | fenceRetire (waiters : Nat) (signalers : Int) (files : Nat) (destroying : Bool)
  | tableSetWaitingIp (ip : Ip)
deriving DecidableEq

/-- The bits of `params.flags`. -/
structure Flags where
  retireOnRelease : Bool
  disablePoll : Bool
  direct : Bool
deriving DecidableEq

/-- `struct iif_fence`, with the fields of its `params` that its functions read.
`syncPoints` is whether the sync-unit has the operator `fence_add_sync_point`. -/
structure Fence where
  fenceType : FenceType
  flags : Flags
  syncPoints : Bool
  remainingSignalers : Nat
  waiters : Ip → Bool
  propagate : Bool
  submittedSignalers : Nat
  signaledSignalers : Nat
  outstandingWaiters : Nat
  outstandingWaitersPerIp : Ip → Nat
  outstandingBlockWakelock : Ip → Nat
  numSyncFile : Nat
  retired : Bool
  ops : List FenceOp
deriving DecidableEq

/-- `++` on a `uint16_t`. -/
def u16Inc (value : Nat) : Nat := (value + 1) % 2 ^ 16

/-- `--` on a `uint16_t`. -/
def u16Dec (value : Nat) : Nat := (value + (2 ^ 16 - 1)) % 2 ^ 16

def MAX_ERRNO : Int := 4095

namespace Fence

variable (fence : Fence)

/-- `iif_fence_unsubmitted_signalers_locked`. -/
def unsubmittedSignalers : Int := fence.remainingSignalers - fence.submittedSignalers

/-- `iif_fence_outstanding_signalers_locked`. -/
def outstandingSignalers : Int := fence.submittedSignalers - fence.signaledSignalers

/-- `iif_fence_all_signalers_signaled_locked`. -/
def allSignalersSignaled : Bool := decide (fence.signaledSignalers = fence.remainingSignalers)

/-- Invoke an operator of the sync-unit. -/
def invoke (op : FenceOp) : Fence := { fence with ops := fence.ops ++ [op] }

/-- `iif_fence_retire_locked`. -/
def retireLocked (destroying : Bool) : Fence :=
  if fence.retired then fence
  else
    { (fence.invoke .removePollCb).invoke
        (.fenceRetire fence.outstandingWaiters fence.outstandingSignalers fence.numSyncFile
          destroying) with
      retired := true }

/-- `iif_fence_retire_if_possible_locked`. -/
def retireIfPossibleLocked : Fence :=
  if fence.flags.retireOnRelease = false ∧ fence.outstandingWaiters = 0 ∧
      fence.outstandingSignalers = 0 ∧ fence.numSyncFile = 0 then
    fence.retireLocked false
  else fence

/-- `iif_fence_inc_signaled_signalers_locked`: the number of signalers that remain. -/
def incSignaledSignalersLocked (complete : Bool) : Int × Fence :=
  if fence.allSignalersSignaled then (0, fence)
  else
    let fence := { fence with
      signaledSignalers :=
        if complete then fence.remainingSignalers else fence.signaledSignalers + 1 }
    (fence.remainingSignalers - fence.signaledSignalers, fence.retireIfPossibleLocked)

/-- The count of `iif_fence_submit_signaler_locked`. -/
def submitSignalerLocked (complete : Bool) : Fence :=
  { fence with
    submittedSignalers :=
      if complete then fence.remainingSignalers else fence.submittedSignalers + 1 }

/-- `iif_fence_submit_waiter_locked`. -/
def submitWaiterLocked (waiterIp : Ip) : Fence :=
  let fence := { fence with
    outstandingWaiters := u16Inc fence.outstandingWaiters
    outstandingWaitersPerIp := Function.update fence.outstandingWaitersPerIp waiterIp
      (u16Inc (fence.outstandingWaitersPerIp waiterIp)) }
  if fence.waiters waiterIp then fence
  else
    { fence.invoke (.tableSetWaitingIp waiterIp) with
      waiters := Function.update fence.waiters waiterIp true }

/-- `iif_fence_remove_waiter_locked`. -/
def removeWaiterLocked (waiterIp : Ip) : Fence :=
  retireIfPossibleLocked { fence with
    outstandingWaiters := u16Dec fence.outstandingWaiters
    outstandingWaitersPerIp := Function.update fence.outstandingWaitersPerIp waiterIp
      (u16Dec (fence.outstandingWaitersPerIp waiterIp)) }

/-- The check of `iif_fences_are_signaler_submittable_locked` for one fence. -/
def signalerSubmittable : Int :=
  if fence.unsubmittedSignalers = 0 ∨ fence.retired = true then -EPERM else 0

/-- The check of `iif_fences_are_waiter_submittable_locked` for one fence. -/
def waiterSubmittable : Int :=
  if fence.unsubmittedSignalers ≠ 0 then -EAGAIN
  else if fence.retired then -EPERM
  else 0

/-- `iif_fence_signal_with_status_locked`; `ret` is what the operator returns. -/
def signalWithStatusLocked (error : Int) (force : Bool) (ret : Int) : Int × Fence :=
  if fence.allSignalersSignaled then (-EBUSY, fence)
  else if force = false ∧ fence.outstandingSignalers = 0 then (-EPERM, fence)
  else if error > 0 ∨ error < -MAX_ERRNO then (-EINVAL, fence)
  else if fence.propagate = false ∧ fence.flags.direct = false then (0, fence)
  else (ret, fence.invoke (.fenceSignal error))

/-- The locked part of `iif_fence_do_waited_work_if_no_outstanding_signalers`: its return
value, whether the waited work follows, and the fence. -/
def countSignalLocked : Int × Bool × Fence :=
  if fence.allSignalersSignaled then (-EBUSY, false, fence)
  else if fence.outstandingSignalers = 0 then (-EPERM, false, fence)
  else
    let (ret, fence) := fence.incSignaledSignalersLocked false
    (ret, decide (0 ≤ ret ∧ fence.outstandingSignalers = 0), fence)

/-- The first locked part of `iif_fence_do_destroy`; `callbacks` is whether any callback
still waits for all signalers to be submitted. -/
def destroyLocked (callbacks : Bool) : Fence :=
  let fence :=
    if callbacks = true ∧ fence.submittedSignalers < fence.remainingSignalers then
      fence.submitSignalerLocked true
    else fence
  let fence :=
    if fence.allSignalersSignaled then fence
    else (incSignaledSignalersLocked { fence with propagate := true } true).2
  fence.retireLocked true

/-- `iif_fence_add_sync_point`; `ret` is what the operator returns. -/
def addSyncPoint (timeline count : Nat) (ret : Int) : Int × Fence :=
  if fence.fenceType ≠ .reusable then (-EOPNOTSUPP, fence)
  else if timeline = 0 ∨ count = 0 then (-EINVAL, fence)
  else if fence.syncPoints then (ret, fence.invoke (.fenceAddSyncPoint timeline count))
  else (0, fence)

/-- `iif_fence_set_flags`. -/
def setFlags (flags : Flags) (clear : Bool) : Int × Fence :=
  if flags.direct = true ∧ clear = fence.flags.direct then (-EINVAL, fence)
  else (0, { fence with flags :=
    if clear then
      ⟨fence.flags.retireOnRelease && !flags.retireOnRelease,
        fence.flags.disablePoll && !flags.disablePoll, fence.flags.direct && !flags.direct⟩
    else
      ⟨fence.flags.retireOnRelease || flags.retireOnRelease,
        fence.flags.disablePoll || flags.disablePoll, fence.flags.direct || flags.direct⟩ })

/-- Two fences with the same counts. -/
structure SameCounts (fence next : Fence) : Prop where
  remaining : next.remainingSignalers = fence.remainingSignalers
  submitted : next.submittedSignalers = fence.submittedSignalers
  signaled : next.signaledSignalers = fence.signaledSignalers
  perIp : next.outstandingWaitersPerIp = fence.outstandingWaitersPerIp
  wakelocks : next.outstandingBlockWakelock = fence.outstandingBlockWakelock

variable {fence}

lemma SameCounts.outstanding {next : Fence} (same : SameCounts fence next) :
    next.outstandingSignalers = fence.outstandingSignalers := by
  rw [outstandingSignalers, outstandingSignalers, same.submitted, same.signaled]

lemma sameCounts_retireLocked (destroying : Bool) :
    SameCounts fence (fence.retireLocked destroying) := by
  unfold retireLocked
  split <;> exact ⟨rfl, rfl, rfl, rfl, rfl⟩

lemma sameCounts_retireIfPossibleLocked : SameCounts fence fence.retireIfPossibleLocked := by
  unfold retireIfPossibleLocked
  split
  · exact sameCounts_retireLocked false
  · exact ⟨rfl, rfl, rfl, rfl, rfl⟩

/-- Counting signals leaves the other counts. -/
lemma incSignaledSignalersLocked_kept (complete : Bool) :
    (fence.incSignaledSignalersLocked complete).2.remainingSignalers = fence.remainingSignalers ∧
    (fence.incSignaledSignalersLocked complete).2.submittedSignalers = fence.submittedSignalers ∧
    (fence.incSignaledSignalersLocked complete).2.outstandingBlockWakelock =
      fence.outstandingBlockWakelock := by
  unfold incSignaledSignalersLocked
  split
  · exact ⟨rfl, rfl, rfl⟩
  · have same := @sameCounts_retireIfPossibleLocked { fence with
      signaledSignalers :=
        if complete then fence.remainingSignalers else fence.signaledSignalers + 1 }
    exact ⟨same.remaining, same.submitted, same.wakelocks⟩

lemma signalerSubmittable_eq_zero :
    fence.signalerSubmittable = 0 ↔ fence.unsubmittedSignalers ≠ 0 ∧ fence.retired = false := by
  unfold signalerSubmittable
  split_ifs with refused
  · simp only [EPERM]
    grind
  · simpa [not_or] using refused

lemma waiterSubmittable_eq_zero :
    fence.waiterSubmittable = 0 ↔ fence.unsubmittedSignalers = 0 ∧ fence.retired = false := by
  unfold waiterSubmittable
  split_ifs with lacks retired
  · simp [EAGAIN, lacks]
  · simp [EPERM, retired]
  · simpa using ⟨not_not.mp lacks, Bool.eq_false_iff.mpr retired⟩

lemma sameCounts_signalWithStatusLocked (error : Int) (force : Bool) (ret : Int) :
    SameCounts fence (fence.signalWithStatusLocked error force ret).2 := by
  unfold signalWithStatusLocked
  split_ifs <;> exact ⟨rfl, rfl, rfl, rfl, rfl⟩

lemma sameCounts_addSyncPoint (timeline count : Nat) (ret : Int) :
    SameCounts fence (fence.addSyncPoint timeline count ret).2 := by
  unfold addSyncPoint
  split_ifs <;> exact ⟨rfl, rfl, rfl, rfl, rfl⟩

lemma sameCounts_setFlags (flags : Flags) (clear : Bool) :
    SameCounts fence (fence.setFlags flags clear).2 := by
  unfold setFlags
  split_ifs <;> exact ⟨rfl, rfl, rfl, rfl, rfl⟩

/-- Without an outstanding signaler a signal is not counted. -/
lemma countSignalLocked_refused
    (refused : fence.allSignalersSignaled = true ∨ fence.outstandingSignalers = 0) :
    ∃ ret, fence.countSignalLocked = (ret, false, fence) := by
  unfold countSignalLocked
  by_cases allSignaled : fence.allSignalersSignaled = true
  · exact ⟨-EBUSY, by rw [if_pos allSignaled]⟩
  · exact ⟨-EPERM, by rw [if_neg allSignaled, if_pos (refused.resolve_left allSignaled)]⟩

/-- An outstanding signaler's signal is counted, and the waited work follows when it was
the last one. -/
lemma countSignalLocked_counted (unfinished : fence.allSignalersSignaled = false)
    (outstanding : fence.outstandingSignalers ≠ 0)
    (submitted : fence.submittedSignalers ≤ fence.remainingSignalers)
    (signaled : fence.signaledSignalers ≤ fence.submittedSignalers) :
    ∃ ret next, SameCounts { fence with signaledSignalers := fence.signaledSignalers + 1 } next ∧
      fence.countSignalLocked = (ret, decide (next.outstandingSignalers = 0), next) := by
  have remains : (0 : Int) ≤ fence.remainingSignalers - (fence.signaledSignalers + 1 : Nat) := by
    unfold outstandingSignalers at outstanding
    omega
  refine ⟨fence.remainingSignalers - (fence.signaledSignalers + 1 : Nat), _,
    sameCounts_retireIfPossibleLocked, ?_⟩
  simp only [countSignalLocked, incSignaledSignalersLocked, unfinished, outstanding,
    Bool.false_eq_true, if_false, remains, true_and]

end Fence

/-- What `iif_fence_init_with_params` takes from its caller. -/
structure FenceParams where
  fenceType : FenceType
  flags : Flags
  syncPoints : Bool
  remainingSignalers : Nat
  waiters : Ip → Bool
  signalerIsAp : Bool

/-- The fence that `iif_fence_init_with_params` leaves when it succeeds. -/
def initWithParams (params : FenceParams) : Fence where
  fenceType := params.fenceType
  flags := params.flags
  syncPoints := params.syncPoints
  remainingSignalers := params.remainingSignalers
  waiters := params.waiters
  propagate := params.signalerIsAp
  submittedSignalers := 0
  signaledSignalers := 0
  outstandingWaiters := 0
  outstandingWaitersPerIp := fun _ => 0
  outstandingBlockWakelock := fun _ => 0
  numSyncFile := 0
  retired := false
  ops := [.fenceCreate, .addPollCb]

end GsKernel.Iif
