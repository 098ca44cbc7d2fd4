import GsKernel.Iif.Calls
import GsKernel.Iif.Direct
import GsKernel.Lib.SortedScan

/-!
# Submission to several fences

`iif_fence_submit_signaler_and_waiter`: the arrays are sorted by ID and checked for repetitions,
block wakelocks are taken for all fences, and only when each admits its submission are the
counters changed. Each failure undoes what came before it. The results of
`acquire_block_wakelock`, the allocations and the kernel's `sort` are parameters.
-/

namespace GsKernel.Iif

open Function Lib.SortedScan

variable {ι κ : Type*}

/-- A fence with its ID and the callbacks that wait for all signalers to be submitted,
and those that have been invoked. -/
structure FenceObject (κ : Type*) where
  id : Nat
  fence : Fence
  submittedCbs : List κ
  invoked : List κ

/-- The fences, and the block wakelocks held of each IP. -/
structure Fences (ι κ : Type*) where
  objects : ι → FenceObject κ
  held : Ip → Int

/-- What the call depends on outside the driver: the allocations of `in_flags`, `out_flags`
and `wakelock_held`, and what `acquire_block_wakelock` of an IP returns for a fence. -/
structure SubmitEnv (ι : Type*) where
  inFlags : Bool
  outFlags : Bool
  wakelockHeld : Bool
  acquire : ι → Ip → Int

/-- The kernel's `sort`, by the ID of the fences. -/
structure Sorting (ι : Type*) where
  sort : (ι → Nat) → List ι → List ι
  perm : ∀ id fences, (sort id fences).Perm fences
  sorted : ∀ id fences, (sort id fences).Pairwise (id · ≤ id ·)

namespace FenceObject

variable (object : FenceObject κ)

/-- `iif_fence_submit_signaler_locked` with `complete` not set. -/
def submitSignalerLocked : FenceObject κ :=
  let fence := object.fence.submitSignalerLocked false
  if fence.unsubmittedSignalers ≠ 0 then { object with fence := fence }
  else
    { object with
      fence := fence, submittedCbs := [], invoked := object.invoked ++ object.submittedCbs }

/-- `iif_fence_submit_waiter_locked`. -/
def submitWaiterLocked (waiterIp : Ip) : FenceObject κ :=
  { object with fence := object.fence.submitWaiterLocked waiterIp }

/-- `outstanding_block_wakelock[ip]++` for the IPs of a mask. -/
def countWakelocks (mask : Ip → Bool) : FenceObject κ :=
  { object with fence := { object.fence with
      outstandingBlockWakelock := fun ip =>
        if mask ip then u16Inc (object.fence.outstandingBlockWakelock ip)
        else object.fence.outstandingBlockWakelock ip } }

end FenceObject

namespace Fences

variable (fences : Fences ι κ)

def id (fence : ι) : Nat := (fences.objects fence).id

/-- `iif_manager_acquire_block_wakelock`; `outcome` is what the IP's operator returns. -/
def acquireBlockWakelock (outcome : Int) (ip : Ip) : Int × Fences ι κ :=
  if IIF_IP_NUM ≤ ip.val then (-EINVAL, fences)
  else if outcome = 0 then
    (0, { fences with held := update fences.held ip (fences.held ip + 1) })
  else (outcome, fences)

/-- `iif_manager_release_block_wakelock`. -/
def releaseBlockWakelock (ip : Ip) : Fences ι κ :=
  if IIF_IP_NUM ≤ ip.val then fences
  else { fences with held := update fences.held ip (fences.held ip - 1) }

/-- `iif_fences_sort_by_id`: its return value and the sorted array. -/
def sortById (sorting : Sorting ι) (array : List ι) : Int × List ι :=
  let sorted := sorting.sort fences.id array
  (if repeats fences.id sorted then -EDEADLK else 0, sorted)

/-- `iif_fences_check_fence_uniqueness`. -/
def checkFenceUniqueness (inFences outFences : List ι) : Int :=
  if meets fences.id (inFences.length + outFences.length) inFences outFences then -EDEADLK else 0

/-- `iif_fences_release_block_wakelock`, for the first fences of an array. -/
def releaseBlockWakelocks (array : List ι) (ip : Ip) : Fences ι κ :=
  array.reverse.foldl (fun fences _ => fences.releaseBlockWakelock ip) fences

/-- The loop of `iif_fences_acquire_block_wakelock`: its `ret`, its `i` and the fences. -/
def acquireLoop (acquire : ι → Ip → Int) (ip : Ip) : List ι → Fences ι κ → Int × Nat × Fences ι κ
  | [], fences => (0, 0, fences)
  | fence :: rest, fences =>
    let (ret, fences) := fences.acquireBlockWakelock (acquire fence ip) ip
    if ret ≠ 0 then (ret, 0, fences)
    else
      let (ret, i, fences) := acquireLoop acquire ip rest fences
      (ret, i + 1, fences)

/-- `iif_fences_acquire_block_wakelock`. -/
def acquireBlockWakelocks (acquire : ι → Ip → Int) (array : List ι) (ip : Ip) : Int × Fences ι κ :=
  let (ret, i, fences) := acquireLoop acquire ip array fences
  (ret, if ret ≠ 0 then fences.releaseBlockWakelocks (array.take i) ip else fences)

/-- The IPs of a mask released one by one. -/
def releaseMask (mask : Ip → Bool) : Fences ι κ :=
  (maskIps mask).foldl releaseBlockWakelock fences

/-- `iif_fences_release_block_wakelock_of_waiters`, for the first entries of
`wakelock_held`. -/
def releaseBlockWakelocksOfWaiters (wakelockHeld : List (Ip → Bool)) : Fences ι κ :=
  wakelockHeld.reverse.foldl releaseMask fences

/-- The inner loop of `iif_fences_acquire_block_wakelock_of_waiters`: `ret`, the mask
of one fence and the fences. -/
def acquireIps (acquire : Ip → Int) :
    List Ip → (Ip → Bool) → Fences ι κ → Int × (Ip → Bool) × Fences ι κ
  | [], mask, fences => (0, mask, fences)
  | ip :: rest, mask, fences =>
    let (ret, fences) := fences.acquireBlockWakelock (acquire ip) ip
    if ret ≠ 0 then (ret, mask, fences)
    else acquireIps acquire rest (update mask ip true) fences

/-- The outer loop: `ret`, the entries of `wakelock_held` up to its `i`, and the fences. -/
def acquireWaitersLoop (acquire : ι → Ip → Int) :
    List ι → Fences ι κ → Int × List (Ip → Bool) × Fences ι κ
  | [], fences => (0, [], fences)
  | fence :: rest, fences =>
    let waiters := (fences.objects fence).fence.waiters
    let (ret, mask, fences) := acquireIps (acquire fence) (maskIps waiters) (fun _ => false) fences
    if ret ≠ 0 then (ret, [mask], fences)
    else
      let (ret, masks, fences) := acquireWaitersLoop acquire rest fences
      (ret, mask :: masks, fences)

/-- `iif_fences_acquire_block_wakelock_of_waiters`: `ret`, `wakelock_held` and the fences. -/
def acquireBlockWakelocksOfWaiters (acquire : ι → Ip → Int) (array : List ι) :
    Int × List (Ip → Bool) × Fences ι κ :=
  let (ret, wakelockHeld, fences) := acquireWaitersLoop acquire array fences
  (ret, wakelockHeld,
    if ret ≠ 0 then fences.releaseBlockWakelocksOfWaiters wakelockHeld else fences)

/-- `iif_fences_are_waiter_submittable_locked`. -/
def areWaiterSubmittable : List ι → Int
  | [] => 0
  | fence :: rest =>
    let ret := (fences.objects fence).fence.waiterSubmittable
    if ret ≠ 0 then ret else areWaiterSubmittable rest

/-- `iif_fences_are_signaler_submittable_locked`. -/
def areSignalerSubmittable : List ι → Int
  | [] => 0
  | fence :: rest =>
    let ret := (fences.objects fence).fence.signalerSubmittable
    if ret ≠ 0 then ret else areSignalerSubmittable rest

variable [DecidableEq ι]

/-- A loop that changes the fences of an array one by one. -/
def changeEach (change : ι → FenceObject κ → FenceObject κ) (array : List ι) : Fences ι κ :=
  { fences with
    objects := array.foldl (fun objects fence =>
      update objects fence (change fence (objects fence))) fences.objects }

/-- The entry of `wakelock_held` that belongs to a fence of an array. -/
def maskOf (array : List ι) (wakelockHeld : List (Ip → Bool)) (fence : ι) : Ip → Bool :=
  (wakelockHeld[array.idxOf fence]?).getD fun _ => false

/-- The locked part after both checks have passed. -/
def submitLocked (inFences outFences : List ι) (waiterIp : Ip) (wakelockHeld : List (Ip → Bool)) :
    Fences ι κ :=
  let fences := fences.changeEach (fun _ object => object.submitWaiterLocked waiterIp) inFences
  let fences := fences.changeEach (fun _ object => object.submitSignalerLocked) outFences
  let fences := fences.changeEach
    (fun _ object => object.countWakelocks fun ip => decide (ip = waiterIp)) inFences
  fences.changeEach (fun fence object => object.countWakelocks (maskOf outFences wakelockHeld fence))
    outFences

/-- The part of `iif_fence_submit_signaler_and_waiter` between the checks of the arrays and
their release. -/
def submitChecked (acquire : ι → Ip → Int) (inFences outFences : List ι) (waiterIp : Ip) :
    Int × Fences ι κ :=
  let (ret, fences) := fences.acquireBlockWakelocks acquire inFences waiterIp
  if ret ≠ 0 then (ret, fences)
  else
    let (ret, wakelockHeld, fences) := fences.acquireBlockWakelocksOfWaiters acquire outFences
    if ret ≠ 0 then (ret, fences.releaseBlockWakelocks inFences waiterIp)
    else
      let ret := fences.areWaiterSubmittable inFences
      let ret := if ret ≠ 0 then ret else fences.areSignalerSubmittable outFences
      if ret ≠ 0 then
        (ret, (fences.releaseBlockWakelocksOfWaiters wakelockHeld).releaseBlockWakelocks inFences
          waiterIp)
      else (0, fences.submitLocked inFences outFences waiterIp wakelockHeld)

/-- `iif_fence_submit_signaler_and_waiter`. -/
def submitSignalerAndWaiter (sorting : Sorting ι) (env : SubmitEnv ι) (inFences outFences : List ι)
    (waiterIp : Ip) : Int × Fences ι κ :=
  if inFences ≠ [] ∧ IIF_IP_NUM ≤ waiterIp.val then (-EINVAL, fences)
  else if env.inFlags = false ∨ env.outFlags = false ∨ env.wakelockHeld = false then
    (-ENOMEM, fences)
  else
    let (ret, inFences) := fences.sortById sorting inFences
    if ret ≠ 0 then (ret, fences)
    else
      let (ret, outFences) := fences.sortById sorting outFences
      if ret ≠ 0 then (ret, fences)
      else
        let ret := fences.checkFenceUniqueness inFences outFences
        if ret ≠ 0 then (ret, fences)
        else fences.submitChecked env.acquire inFences outFences waiterIp

end Fences

end GsKernel.Iif
