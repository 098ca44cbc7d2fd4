import GsKernel.Iif.Fence

/-!
# Direct fences

The sync-unit of a direct fence is the driver itself, `iif-direct.c`: it keeps the status of the
fence in step with the entry of the signal table, which the firmware of the signaler writes as
well, and reports to the fence when waiters are to be notified.
-/

namespace GsKernel.Iif

/-- `enum iif_signal_table_fence_error`. -/
inductive FenceError where
  | ok
  | cancelled
  | unknown
  | invalidArgument
  | deadlineExceeded
  | notFound
  | alreadyExists
  | permissionDenied
  | resourceExhausted
  | failedPrecondition
  | aborted
  | outOfRange
  | unimplemented
  | internal
  | unavailable
  | dataLoss
  | unauthenticated
deriving DecidableEq

/-- `iif_fence_table_to_signal_table_error_code`. -/
def toSignalTableErrorCode (errno : Int) : FenceError :=
  if errno = 0 then .ok
  else if errno = -ECANCELED then .cancelled
  else if errno = -EINVAL ∨ errno = -EFAULT then .invalidArgument
  else if errno = -ETIME ∨ errno = -ETIMEDOUT then .deadlineExceeded
  else if errno = -ENOENT ∨ errno = -ENODEV then .notFound
  else if errno = -EEXIST then .alreadyExists
  else if errno = -EACCES then .permissionDenied
  else if errno = -ENOMEM ∨ errno = -ENOSPC then .resourceExhausted
  else if errno = -EBUSY then .failedPrecondition
  else if errno = -EDEADLK ∨ errno = -EOWNERDEAD ∨ errno = -EALREADY then .aborted
  else if errno = -ERANGE ∨ errno = -EOVERFLOW then .outOfRange
  else if errno = -EOPNOTSUPP then .unimplemented
  else if errno = - EIO then .internal
  else if errno = -EAGAIN then .unavailable
  else if errno = -EBADMSG ∨ errno = -ENOTRECOVERABLE then .dataLoss
  else if errno = -EPERM then .unauthenticated
  else .unknown

/-- `iif_fence_table_to_linux_error_code`. -/
def toLinuxErrorCode : FenceError → Int
  | .ok => 0
  | .cancelled => -ECANCELED
  | .invalidArgument => -EINVAL
  | .deadlineExceeded => -ETIMEDOUT
  | .notFound => -ENOENT
  | .alreadyExists => -EEXIST
  | .permissionDenied => -EACCES
  | .resourceExhausted | .failedPrecondition | .aborted => -EBUSY
  | .outOfRange => -ERANGE
  | .unimplemented => -EOPNOTSUPP
  | .unavailable => -EAGAIN
  | .unauthenticated => -EPERM
  | .dataLoss | .internal | .unknown => - EIO

/-- `struct iif_signal_table_entry`: a single-shot fence counts `remainingSignals`, a
reusable one its `timeline`. `errored` is `IIF_SIGNAL_TABLE_FLAG_ERROR_BIT`. -/
structure SignalEntry where
  remainingSignals : Nat
  timeline : Nat
  errored : Bool
  error : FenceError
deriving DecidableEq

namespace SignalEntry

variable (entry : SignalEntry)

/-- `iif_fence_table_get_error`. -/
def getError : Int := if entry.errored then toLinuxErrorCode entry.error else 0

/-- `iif_fence_table_set_error`. -/
def setError (error : Int) : SignalEntry :=
  if error = 0 then entry
  else { entry with error := toSignalTableErrorCode error, errored := true }

/-- `iif_fence_table_set_remaining_signals`. -/
def setRemainingSignals (remaining : Nat) : SignalEntry :=
  if entry.remainingSignals > remaining then { entry with remainingSignals := remaining }
  else entry

/-- `iif_fence_table_inc_timeline`, on a byte. -/
def incTimeline : SignalEntry := { entry with timeline := (entry.timeline + 1) % 2 ^ 8 }

end SignalEntry

/-- `struct iif_fence_status`; which of `signaled` and `timeline` counts depends on the
type of the fence. -/
structure Status where
  error : Int
  signaled : Bool
  timeline : Nat
deriving DecidableEq

def IIF_NUM_SYNC_POINTS : Nat := 3
def IIF_WAIT_TABLE_SYNC_POINT_COUNT_ALL : Nat := 255
def IIF_SIGNAL_TABLE_MAX_TIMELINE : Nat := 255

/-- A sync point of the wait table. -/
structure SyncPoint where
  startTimeline : Nat
  count : Nat
deriving DecidableEq

/-- `struct iif_direct_fence`, with its entry of the fence table. `polled`: the callback of the
fence is on `poll_cb_list`; `syncPoints` are the first `num_sync_points` entries of the wait
table. -/
structure DirectFence where
  fenceType : FenceType
  remainingSignalers : Nat
  timeout : Nat
  timeline : Int
  error : Int
  syncPoints : List SyncPoint
  lastPollTimeline : Int
  polled : Bool
  errorSetByKernel : Bool
  entry : SignalEntry
deriving DecidableEq

namespace DirectFence

variable (fence : DirectFence)

/-- `iif_direct_fence_table_get_timeline`. -/
def tableGetTimeline : Int :=
  if fence.fenceType = .singleShot then
    (fence.remainingSignalers : Int) - fence.entry.remainingSignals
  else fence.entry.timeline

/-- `iif_direct_fence_is_sync_point_ready`. -/
def isSyncPointReady (point : SyncPoint) : Bool :=
  (point.count = IIF_WAIT_TABLE_SYNC_POINT_COUNT_ALL ||
      fence.lastPollTimeline < (point.startTimeline : Int) + point.count - 1) &&
    (point.startTimeline : Int) ≤ fence.timeline

/-- `iif_direct_fence_handle_signal_error`. -/
def handleSignalError (propagate : Bool) (error : Int) : DirectFence :=
  let errored := fence.entry.errored
  let tableError := fence.entry.getError
  let fence :=
    if propagate = true ∨ (errored = true ∧ tableError = 0) then
      { fence with errorSetByKernel := true }
    else fence
  if error = 0 ∨ fence.errorSetByKernel = false then fence
  else { fence with entry := fence.entry.setError error, error := error }

/-- `iif_direct_fence_invoke_poll_callbacks_single_shot`: the status reported, if the
callback is invoked, and the fence. -/
def invokePollCallbacksSingleShot : Option Status × DirectFence :=
  if fence.timeline < fence.remainingSignalers then (none, fence)
  else
    let status : Status :=
      ⟨fence.error, decide ((fence.remainingSignalers : Int) ≤ fence.timeline), 0⟩
    (if fence.polled then some status else none, { fence with polled := false })

/-- `iif_direct_fence_invoke_poll_callbacks_reusable`. -/
def invokePollCallbacksReusable : Option Status × DirectFence :=
  let status : Status := ⟨fence.error, false, fence.timeline.toNat⟩
  if fence.error = 0 ∧ fence.timeline ≤ fence.lastPollTimeline then (none, fence)
  else if fence.error ≠ 0 ∨ fence.syncPoints.any fence.isSyncPointReady = true then
    (if fence.polled then some status else none,
      { fence with
        polled := fence.polled && decide (fence.error = 0)
        lastPollTimeline := fence.timeline })
  else (none, fence)

/-- The status of the fence table as `iif_direct_fence_sync_status` reads it: the error
and the timeline. -/
def tableStatus : Int × Int :=
  let tableError := if fence.errorSetByKernel then fence.error else fence.entry.getError
  let tableErrored := fence.entry.errored || decide (fence.error ≠ 0)
  let tableError := if tableErrored = false then 0 else tableError
  let tableError := if tableErrored = true ∧ tableError = 0 then -ECANCELED else tableError
  (tableError, max fence.tableGetTimeline fence.timeline)

/-- `iif_direct_fence_sync_status`. -/
def syncStatus (invokePollCb : DirectFence → Option Status × DirectFence) :
    Option Status × DirectFence :=
  let (tableError, tableTimeline) := fence.tableStatus
  if fence.timeline = tableTimeline ∧ fence.error = tableError then (none, fence)
  else invokePollCb { fence with error := tableError, timeline := tableTimeline }

/-- `iif_direct_fence_signal_single_shot`. -/
def signalSingleShot (propagate : Bool) (error : Int) : Option Status × DirectFence :=
  let remaining := fence.entry.remainingSignals
  let error :=
    if remaining = 0 ∧ fence.entry.errored = false ∧ error ≠ 0 then 0
    else if remaining = 0 ∧ fence.entry.errored = true ∧ error = 0 then -ECANCELED
    else error
  let fence := fence.handleSignalError propagate error
  let fence :=
    -- the table is only written on behalf of the signaler
    if propagate then { fence with entry := fence.entry.setRemainingSignals (remaining - 1) }
    else fence
  fence.syncStatus invokePollCallbacksSingleShot

/-- `iif_direct_fence_signal_reusable`. -/
def signalReusable (propagate : Bool) (error : Int) : Option Status × DirectFence :=
  let tableTimeline := fence.entry.timeline
  let error := if fence.entry.errored = true ∧ error = 0 then -ECANCELED else error
  let error :=
    if tableTimeline ≥ IIF_SIGNAL_TABLE_MAX_TIMELINE ∨
        tableTimeline + (if propagate then 1 else 0) ≥ fence.timeout then -ETIMEDOUT
    else error
  let fence := fence.handleSignalError propagate error
  let fence :=
    if tableTimeline < IIF_SIGNAL_TABLE_MAX_TIMELINE ∧ propagate = true then
      { fence with entry := fence.entry.incTimeline }
    else fence
  fence.syncStatus invokePollCallbacksReusable

/-- `iif_direct_fence_signal`. -/
def signal (propagate : Bool) (error : Int) : Option Status × DirectFence :=
  match fence.fenceType with
  | .singleShot => fence.signalSingleShot propagate error
  | .reusable => fence.signalReusable propagate error

/-- `iif_direct_fence_add_sync_point`: its return value, the status reported, if any, and
the fence. -/
def addSyncPoint (timeline count : Nat) : Int × Option Status × DirectFence :=
  if fence.fenceType ≠ .reusable then (-EOPNOTSUPP, none, fence)
  else if fence.syncPoints.length ≥ IIF_NUM_SYNC_POINTS then (-ENOSPC, none, fence)
  else if timeline = 0 ∨ count = 0 then (-EINVAL, none, fence)
  else
    let point : SyncPoint :=
      ⟨min timeline IIF_SIGNAL_TABLE_MAX_TIMELINE, min count IIF_WAIT_TABLE_SYNC_POINT_COUNT_ALL⟩
    (0, invokePollCallbacksReusable { fence with syncPoints := fence.syncPoints ++ [point] })

end DirectFence

/-- `iif_direct_fence_create`, after the callback of the fence is registered. -/
def directFenceCreate (fenceType : FenceType) (remainingSignalers timeout : Nat) : DirectFence where
  fenceType := fenceType
  remainingSignalers := remainingSignalers
  timeout :=
    match fenceType with
    | .singleShot => timeout
    | .reusable => min timeout IIF_SIGNAL_TABLE_MAX_TIMELINE
  timeline := 0
  error := 0
  syncPoints := []
  lastPollTimeline := -1
  polled := true
  errorSetByKernel := false
  entry := ⟨match fenceType with | .singleShot => remainingSignalers | .reusable => 0, 0, false, .ok⟩

end GsKernel.Iif
