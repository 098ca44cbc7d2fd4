import GsKernel.Iif.Fence
import GsKernel.Lib.Runs
import GsKernel.Lib.Tasks

/-!
# The calls on a fence

The calls on one fence as tasks that interleave: a call takes and releases wakelocks
one at a time outside `fence_lock`, and each of its locked sections is one step. In
calls on several fences the others appear only through their effect: the call may
give up, and then releases what it holds.
-/

namespace GsKernel.Iif

open Function Lib.Tasks

/-- What the calls on a fence share. `acquired` and `released` count the successful
acquire and the release calls made for the fence; `workPending` is whether
`waited_work` is scheduled. -/
structure Shared where
  fence : Fence
  acquired : Ip → Nat
  released : Ip → Nat
  workPending : Bool
  destroyed : Bool
deriving DecidableEq

/-- What is left of a call. -/
inductive Task where
  /-- Submitting a waiter, with its wakelock held. -/
  | holding (waiterIp : Ip)
  /-- Submitting a signaler: the IPs whose wakelock is still to take, and `wakelock_held`. -/
  | submitting (rest : List Ip) (wakelockHeld : Ip → Bool)
  /-- Before the locked part of `iif_fence_do_waited_work_if_no_outstanding_signalers`. -/
  | counting (async : Bool)
  /-- Before `schedule_work`. -/
  | scheduling
  /-- Before the locked part of `iif_fence_waited_work_func`. -/
  | working
  /-- Before `iif_fence_on_sync_file_release`. -/
  | closing
  /-- Releasing wakelocks that are not counted any more. -/
  | releasing (locks : Ip → Nat)
deriving DecidableEq

/-- The wakelocks a task holds beside those counted in the fence. -/
def Task.held : Task → Ip → Nat
  | .holding waiterIp, ip => if ip = waiterIp then 1 else 0
  | .submitting _ wakelockHeld, ip => if wakelockHeld ip then 1 else 0
  | .releasing locks, ip => locks ip
  | _, _ => 0

/-- Whether a step goes on, or fails for a reason outside the fence: an acquire call
fails, or another fence of the call refuses. -/
inductive Choice where
  | proceed
  | fail
deriving DecidableEq

/-- The IPs of a mask in the order of `for_each_ip`. -/
def maskIps (mask : Ip → Bool) : List Ip := (List.finRange 16).filter fun ip => mask ip

/-- The next wakelock to release. -/
def nextLock (locks : Ip → Nat) : Option Ip := (List.finRange 16).find? fun ip => 0 < locks ip

/-- The locked part of `iif_fence_waited_work_func`: what to release and the fence. -/
def Fence.waitedWorkLocked (fence : Fence) : (Ip → Nat) × Fence :=
  (fun ip => fence.outstandingBlockWakelock ip - fence.outstandingWaitersPerIp ip,
    { fence with
      outstandingBlockWakelock := fun ip =>
        min (fence.outstandingBlockWakelock ip) (fence.outstandingWaitersPerIp ip) })

/-- The locked part of `iif_fence_waiter_completed`: whether to release a wakelock of the
waiter, and the fence. -/
def Fence.waiterCompletedLocked (fence : Fence) (waiterIp : Ip) : Bool × Fence :=
  let fence := fence.removeWaiterLocked waiterIp
  if fence.outstandingSignalers = 0 ∧ fence.outstandingBlockWakelock waiterIp ≠ 0 then
    (true, { fence with
      outstandingBlockWakelock := update fence.outstandingBlockWakelock waiterIp
        (u16Dec (fence.outstandingBlockWakelock waiterIp)) })
  else (false, fence)

/-- One step of a task: the new shared state and what is left of the task. -/
def taskStep (shared : Shared) : Task → Choice → Option (Shared × List Task)
  | .holding waiterIp, choice =>
    if choice = .proceed ∧ shared.fence.waiterSubmittable = 0 then
      let fence := shared.fence.submitWaiterLocked waiterIp
      some ({ shared with fence := { fence with
        outstandingBlockWakelock := update fence.outstandingBlockWakelock waiterIp
          (u16Inc (fence.outstandingBlockWakelock waiterIp)) } }, [])
    else some (shared, [.releasing (Task.held (.holding waiterIp))])
  | .submitting (ip :: rest) wakelockHeld, choice =>
    if choice = .proceed ∧ ip.val < IIF_IP_NUM then
      some ({ shared with acquired := update shared.acquired ip (shared.acquired ip + 1) },
        [.submitting rest (update wakelockHeld ip true)])
    else some (shared, [.releasing (Task.held (.submitting [] wakelockHeld))])
  | .submitting [] wakelockHeld, choice =>
    if choice = .proceed ∧ shared.fence.signalerSubmittable = 0 then
      let fence := shared.fence.submitSignalerLocked false
      some ({ shared with fence := { fence with
        outstandingBlockWakelock := fun ip =>
          if wakelockHeld ip then u16Inc (fence.outstandingBlockWakelock ip)
          else fence.outstandingBlockWakelock ip } }, [])
    else some (shared, [.releasing (Task.held (.submitting [] wakelockHeld))])
  | .counting async, .proceed =>
    let (_, waited, fence) := shared.fence.countSignalLocked
    some ({ shared with fence := fence },
      if waited then [if async then .scheduling else .working] else [])
  | .scheduling, .proceed => some ({ shared with workPending := true }, [])
  | .working, .proceed =>
    if shared.fence.outstandingSignalers ≠ 0 then some (shared, [])
    else
      let (locks, fence) := shared.fence.waitedWorkLocked
      some ({ shared with fence := fence }, [.releasing locks])
  | .closing, .proceed =>
    some ({ shared with fence := shared.fence.retireIfPossibleLocked }, [])
  | .releasing locks, .proceed =>
    match nextLock locks with
    | none => some (shared, [])
    | some ip =>
      some ({ shared with released := update shared.released ip (shared.released ip + 1) },
        [.releasing (update locks ip (locks ip - 1))])
  | _, .fail => none

/-- The first step of a call, a step of a call under way, or the start of the scheduled work.
`signal` and `addSyncPoint` carry what the sync-unit's operator returns, `destroy` whether
callbacks still wait for signalers. -/
inductive Event where
  | submitWaiter (waiterIp : Ip) (acquired : Bool)
  | submitSignaler
  | signal (error ret : Int) (async : Bool)
  | signalerCompleted (async : Bool)
  | waiterCompleted (waiterIp : Ip)
  | waiterCompletedAsync (waiterIp : Ip)
  | addSyncPoint (timeline count : Nat) (ret : Int)
  | setFlags (flags : Flags) (clear : Bool)
  | setPropagateUnblock
  | openSyncFile
  | closeSyncFile
  | startWork
  | run (index : Nat) (choice : Choice)
  | destroy (callbacks : Bool)
deriving DecidableEq

/-- A fence with the calls under way on it. -/
abbrev System := Pool Shared Task

/-- The same shared state with another fence and more tasks. -/
def System.next (system : System) (fence : Fence) (tasks : List Task) : System :=
  ⟨{ system.shared with fence := fence }, tasks ++ system.tasks⟩

/-- A direct single-shot fence counts signals in `iif_fence_signal`, any other in
`iif_fence_signaler_completed`. -/
def Fence.countsOnSignal (fence : Fence) : Bool :=
  fence.flags.direct && decide (fence.fenceType = .singleShot)

/-- One step of the system. -/
def step (system : System) : Event → Option System
  | .submitWaiter waiterIp acquired =>
    if acquired = true ∧ waiterIp.val < IIF_IP_NUM then
      let acquired := update system.shared.acquired waiterIp (system.shared.acquired waiterIp + 1)
      some ⟨{ system.shared with acquired := acquired }, .holding waiterIp :: system.tasks⟩
    else some system
  | .submitSignaler =>
    some (system.next system.shared.fence
      [.submitting (maskIps system.shared.fence.waiters) fun _ => false])
  | .signal error ret async =>
    let (ret, fence) := system.shared.fence.signalWithStatusLocked error false ret
    some (system.next fence
      (if ret = 0 ∧ fence.countsOnSignal = true then [.counting async] else []))
  | .signalerCompleted async =>
    some (system.next system.shared.fence
      (if system.shared.fence.countsOnSignal then [] else [.counting async]))
  | .waiterCompleted waiterIp =>
    let (release, fence) := system.shared.fence.waiterCompletedLocked waiterIp
    some (system.next fence (if release then [.releasing (Task.held (.holding waiterIp))] else []))
  | .waiterCompletedAsync waiterIp =>
    some (system.next (system.shared.fence.removeWaiterLocked waiterIp) [.scheduling])
  | .addSyncPoint timeline count ret =>
    some (system.next (system.shared.fence.addSyncPoint timeline count ret).2 [])
  | .setFlags flags clear =>
    some (system.next (system.shared.fence.setFlags flags clear).2 [])
  | .setPropagateUnblock =>
    some (system.next { system.shared.fence with propagate := true } [])
  | .openSyncFile =>
    some (system.next
      { system.shared.fence with numSyncFile := system.shared.fence.numSyncFile + 1 } [])
  | .closeSyncFile =>
    let files := system.shared.fence.numSyncFile - 1
    some (system.next { system.shared.fence with numSyncFile := files }
      (if files = 0 then [.closing] else []))
  | .startWork =>
    if system.shared.workPending then
      some ⟨{ system.shared with workPending := false }, .working :: system.tasks⟩
    else none
  | .run index choice => Pool.run taskStep system index choice
  | .destroy callbacks =>
    let fence := system.shared.fence.destroyLocked callbacks
    some ⟨{ system.shared with
        fence := { fence with outstandingBlockWakelock := fun _ => 0 }, destroyed := true },
      .releasing fence.outstandingBlockWakelock :: system.tasks⟩

/-- What the references to a fence guarantee: a call holds one, a sync file is closed
once, and the last reference is put, and the work flushed, when no call is under way. -/
def Referenced (system : System) : Event → Prop
  | .run _ _ => True
  | .startWork => True
  | .destroy _ =>
    system.shared.destroyed = false ∧ system.tasks = [] ∧ system.shared.workPending = false
  | .closeSyncFile => system.shared.destroyed = false ∧ system.shared.fence.numSyncFile ≠ 0
  | _ => system.shared.destroyed = false

instance (system : System) (event : Event) : Decidable (Referenced system event) := by
  cases event <;> unfold Referenced <;> infer_instance

/-- Callers complete only waiters they submitted. -/
def Allowed (system : System) (event : Event) : Prop :=
  Referenced system event ∧ match event with
    | .waiterCompleted waiterIp | .waiterCompletedAsync waiterIp =>
      system.shared.fence.outstandingWaitersPerIp waiterIp ≠ 0
    | _ => True

instance (system : System) (event : Event) : Decidable (Allowed system event) := by
  cases event <;> unfold Allowed <;> infer_instance

/-- At most `2 ^ 16 - 1` wakelocks of an IP are held at a time. -/
def Bounded (system : System) : Prop :=
  ∀ ip, system.shared.acquired ip < system.shared.released ip + 2 ^ 16

instance (system : System) : Decidable (Bounded system) := inferInstanceAs (Decidable (∀ _, _))

/-- An allowed step that keeps within the bound. -/
def boundedStep (system : System) (event : Event) : Option System :=
  if Allowed system event then (step system event).filter fun next => Bounded next else none

/-- A fence right after its creation. -/
def initial (params : FenceParams) : System :=
  ⟨⟨initWithParams params, fun _ => 0, fun _ => 0, false, false⟩, []⟩

end GsKernel.Iif
