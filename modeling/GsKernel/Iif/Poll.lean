import GsKernel.Iif.Calls
import GsKernel.Iif.Direct

/-!
# Poll callbacks of a fence

The status of a fence as its sync-unit reported it, and the callbacks polling on it. The system is
extended by the calls that register and remove callbacks, the reports of the sync-unit, and the
writes of the firmware to the fence table. A log records the registrations and removals that took
effect, the reports, and each invocation with the state it was made in.
-/

namespace GsKernel.Iif

variable {κ : Type*}

/-- An entry of the log of a fence. -/
inductive PollRecord (κ : Type*) where
  | accepted (callback : κ)
  | removed (callback : κ)
  | reported (status : Status)
  | invoked (callback : κ) (signaled disablePoll : Bool)
deriving DecidableEq

/-- The fields of `struct iif_fence` around `poll_cb_list`, and the log. -/
structure PollState (κ : Type*) where
  signaled : Bool
  signalError : Int
  timeline : Nat
  pollCbPended : Bool
  pollCbList : List κ
  log : List (PollRecord κ)
deriving DecidableEq

/-- An `u64` that passes through an `int`, compared with an `u64`. -/
def throughInt (value : Nat) : Nat :=
  if value % 2 ^ 32 < 2 ^ 31 then value % 2 ^ 32 else value % 2 ^ 32 + (2 ^ 64 - 2 ^ 32)

lemma throughInt_of_lt {value : Nat} (small : value < 2 ^ 31) : throughInt value = value := by
  unfold throughInt
  split <;> omega

namespace PollState

variable (poll : PollState κ)

/-- The error that `iif_fence_set_status_locked` stores. -/
def nextError (status : Status) : Int :=
  let error :=
    if status.error > 0 ∨ status.error < -MAX_ERRNO then -EINVAL else status.error
  if poll.signalError ≠ 0 ∧ error = 0 then poll.signalError else error

/-- `iif_fence_set_status_locked`: whether the status has been updated, and the state. -/
def setStatusLocked (fenceType : FenceType) (status : Status) : Bool × PollState κ :=
  let error := poll.nextError status
  match fenceType with
  | .singleShot =>
    -- a report that is not signaled does not revert a signaled fence
    let signaled := poll.signaled || status.signaled
    (decide (poll.signaled ≠ signaled), { poll with signaled := signaled, signalError := error })
  | .reusable =>
    let timeline := throughInt status.timeline
    (decide (poll.timeline < timeline) || decide (poll.signalError ≠ error),
      { poll with timeline := max poll.timeline timeline, signalError := error })

/-- The callbacks of a list invoked in the present state. -/
def invocations (flags : Flags) (callbacks : List κ) : List (PollRecord κ) :=
  callbacks.map fun callback => .invoked callback poll.signaled flags.disablePoll

/-- `iif_fence_notify_poll_cb_single_shot_locked`. -/
def notifySingleShotLocked (flags : Flags) : PollState κ :=
  if poll.signaled then
    { poll with pollCbList := [], log := poll.log ++ poll.invocations flags poll.pollCbList }
  else poll

/-- `iif_fence_notify_poll_cb_reusable_locked`. -/
def notifyReusableLocked (flags : Flags) : PollState κ :=
  { poll with
    pollCbList := if poll.signalError ≠ 0 then [] else poll.pollCbList
    log := poll.log ++ poll.invocations flags poll.pollCbList }

/-- `iif_fence_notify_poll_cb_locked`. -/
def notifyPollCbLocked (fenceType : FenceType) (flags : Flags) : PollState κ :=
  if flags.disablePoll then { poll with pollCbPended := true }
  else
    { (match fenceType with
        | .singleShot => poll.notifySingleShotLocked flags
        | .reusable => poll.notifyReusableLocked flags) with
      pollCbPended := false }

/-- `iif_fence_poll_cb_func_locked`, the callback that a fence registers with its
sync-unit. -/
def pollCbFuncLocked (fenceType : FenceType) (flags : Flags) (status : Status) : PollState κ :=
  let (updated, poll) :=
    setStatusLocked { poll with log := poll.log ++ [.reported status] } fenceType status
  if updated then poll.notifyPollCbLocked fenceType flags else poll

/-- What a report of the sync-unit does, if there is one. -/
def reported (fenceType : FenceType) (flags : Flags) : Option Status → PollState κ
  | none => poll
  | some status => poll.pollCbFuncLocked fenceType flags status

/-- `iif_fence_add_poll_callback`. -/
def addPollCallback (fence : Fence) (callback : κ) : Int × PollState κ :=
  if (fence.fenceType = .singleShot ∧ poll.signaled = true) ∨
      (fence.fenceType = .reusable ∧ poll.signalError ≠ 0) ∨ fence.allSignalersSignaled = true then
    (-EPERM, poll)
  else
    (0, { poll with
      pollCbList := poll.pollCbList ++ [callback]
      log := poll.log ++ .accepted callback ::
        (if fence.fenceType = .reusable ∧ poll.timeline ≠ 0 then
          poll.invocations fence.flags [callback]
        else []) })

/-- `iif_fence_remove_poll_callback`. -/
def removePollCallback [DecidableEq κ] (callback : κ) : Bool × PollState κ :=
  if callback ∈ poll.pollCbList then
    (true, { poll with
      pollCbList := poll.pollCbList.erase callback
      log := poll.log ++ [.removed callback] })
  else (false, poll)

/-- What `iif_fence_set_flags` notifies after the flags of the fence have changed. -/
def setFlags (fence : Fence) (flags : Flags) (clear : Bool) : PollState κ :=
  let (ret, next) := fence.setFlags flags clear
  if ret = 0 ∧ clear = true ∧ flags.disablePoll = true ∧ poll.pollCbPended = true then
    poll.notifyPollCbLocked next.fenceType next.flags
  else poll

/-- What `iif_fence_do_destroy` notifies. -/
def destroyLocked (fence : Fence) (timeout : Nat) : PollState κ :=
  let poll :=
    if fence.allSignalersSignaled then poll
    else (poll.setStatusLocked fence.fenceType ⟨-EDEADLK, true, timeout⟩).2
  poll.notifyPollCbLocked fence.fenceType fence.flags

end PollState

/-- A fence with the calls under way on it, its callbacks and, for a direct fence until it
retires, the fence of `iif-direct.c`. -/
structure Polled (κ : Type*) where
  system : System
  timeout : Nat
  poll : PollState κ
  direct : Option DirectFence
deriving DecidableEq

namespace Polled

def fence (polled : Polled κ) : Fence := polled.system.shared.fence

def destroyed (polled : Polled κ) : Bool := polled.system.shared.destroyed

end Polled

def FenceOp.isSignal : FenceOp → Bool
  | .fenceSignal _ => true
  | _ => false

/-- The signals that have reached the sync-unit. -/
def Fence.signals (fence : Fence) : Nat := fence.ops.countP FenceOp.isSignal

/-- A call on the fence, a callback that comes or goes, a report of the sync-unit, or a
write of the signaler's firmware to the fence table. -/
inductive PollEvent (κ : Type*) where
  | call (event : Event)
  | addPollCallback (callback : κ)
  | removePollCallback (callback : κ)
  | report (status : Status)
  | firmware (entry : SignalEntry)
deriving DecidableEq

/-- What the operator that a call on the fence invokes does in `iif-direct.c`. -/
def DirectFence.operate (direct : DirectFence) (propagate : Bool) :
    Event → Option Status × DirectFence
  | .signal error _ _ => direct.signal propagate error
  | .addSyncPoint timeline count _ => (direct.addSyncPoint timeline count).2
  | _ => (none, direct)

/-- The effect on the poll state and on the direct fence of a call that leads to `next`.
The operator has been invoked if the log of the fence has grown. -/
def Polled.called (polled : Polled κ) (event : Event) (next : Fence) :
    PollState κ × Option DirectFence :=
  match event with
  | .setFlags flags clear => (polled.poll.setFlags polled.fence flags clear, polled.direct)
  | .destroy _ => (polled.poll.destroyLocked polled.fence polled.timeout, polled.direct)
  | event =>
    match polled.direct with
    | none => (polled.poll, none)
    | some direct =>
      if next.ops = polled.fence.ops then (polled.poll, some direct)
      else
        let (status, direct) := direct.operate polled.fence.propagate event
        (polled.poll.reported next.fenceType next.flags status, some direct)

/-- One step of a polled fence. -/
def pollStep [DecidableEq κ] (polled : Polled κ) : PollEvent κ → Option (Polled κ)
  | .call event =>
    (step polled.system event).map fun next =>
      let (poll, direct) := polled.called event next.shared.fence
      { polled with
        system := next
        poll := poll
        -- retiring a direct fence frees it
        direct := if next.shared.fence.retired then none else direct }
  | .addPollCallback callback =>
    some { polled with poll := (polled.poll.addPollCallback polled.fence callback).2 }
  | .removePollCallback callback =>
    some { polled with poll := (polled.poll.removePollCallback callback).2 }
  | .report status =>
    some { polled with
      poll := polled.poll.pollCbFuncLocked polled.fence.fenceType polled.fence.flags status }
  | .firmware entry =>
    some { polled with
      direct := polled.direct.map fun direct => { direct with entry := entry } }

/-- The value that a call carries is what the operator of a direct fence returns. -/
def DirectFence.returns (direct : DirectFence) : Event → Bool
  | .signal _ ret _ => decide (ret = 0)
  | .addSyncPoint timeline count ret => decide (ret = (direct.addSyncPoint timeline count).1)
  | _ => true

/-- The driver of a signaler IP signals a direct single-shot fence after its firmware has
lowered the count of remaining signals in the fence table. -/
def DirectFence.firmwareAhead (direct : DirectFence) (fence : Fence) : Event → Bool
  | .signal _ _ _ =>
    fence.propagate || decide (fence.fenceType = .reusable) ||
      decide (direct.entry.remainingSignals ≤ fence.remainingSignalers - (fence.signals + 1))
  | _ => true

/-- What callers, the sync-unit and the firmware keep to. A callback is registered once at a time,
a sync-unit reports until its callback is removed, and the firmware only lowers the remaining
signals, until the driver takes the table over. -/
def Permitted [DecidableEq κ] (polled : Polled κ) : PollEvent κ → Prop
  | .call event =>
    Referenced polled.system event ∧ (polled.direct.all fun direct =>
        direct.returns event && direct.firmwareAhead polled.fence event) = true
  | .addPollCallback callback =>
    polled.destroyed = false ∧ callback ∉ polled.poll.pollCbList
  | .removePollCallback _ => polled.destroyed = false
  | .report _ =>
    polled.destroyed = false ∧ polled.fence.flags.direct = false ∧ polled.fence.retired = false
  | .firmware entry =>
    polled.destroyed = false ∧ polled.fence.propagate = false ∧ (polled.direct.all fun direct =>
        decide (entry.remainingSignals ≤ direct.entry.remainingSignals)) = true

instance Permitted.decidable [DecidableEq κ] (polled : Polled κ) :
    (event : PollEvent κ) → Decidable (Permitted polled event)
  | .call _ => inferInstanceAs (Decidable (_ ∧ _))
  | .addPollCallback _ => inferInstanceAs (Decidable (_ ∧ _))
  | .removePollCallback _ => inferInstanceAs (Decidable (_ = _))
  | .report _ => inferInstanceAs (Decidable (_ ∧ _ ∧ _))
  | .firmware _ => inferInstanceAs (Decidable (_ ∧ _ ∧ _))

def permittedStep [DecidableEq κ] (polled : Polled κ) (event : PollEvent κ) : Option (Polled κ) :=
  if Permitted polled event then pollStep polled event else none

/-- A fence right after its creation. -/
def Polled.initial (params : FenceParams) (timeout : Nat) : Polled κ where
  system := Iif.initial params
  timeout := timeout
  poll := ⟨false, 0, 0, false, [], []⟩
  direct :=
    if params.flags.direct then
      some (directFenceCreate params.fenceType params.remainingSignalers timeout)
    else none

end GsKernel.Iif
