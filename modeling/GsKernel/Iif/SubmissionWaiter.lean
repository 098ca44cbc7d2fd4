import GsKernel.Iif.Fence
import GsKernel.Lib.Runs

/-!
# Waiting for the submission of signalers

`iif_wait_signaler_submission` adds a callback to every fence of an array that lacks signalers,
and the callback that finds all of them done signals the eventfd. One call is interleaved with
submissions to the fences: every section under `waiter->lock` or a fence's lock is one step. A
callback is known by the index of its fence in the array, which may hold a fence more than once.
-/

namespace GsKernel.Iif

open Function

/-- Where `iif_wait_signaler_submission` is. -/
inductive WaitCall where
  /-- At the head of the loop. -/
  | next (index : Nat)
  /-- The callback is in `waiter->cb_list` and not added to its fence yet. -/
  | listed (index : Nat)
  /-- `iif_fence_add_all_signaler_submitted_callback` has found `remaining` signalers
  missing; it has returned `-EPERM` if there were none. -/
  | added (index : Nat) (remaining : Int)
  /-- In `iif_all_signaler_submission_waiter_cancel`, with the callbacks to remove. -/
  | cancelling (rest : List Nat)
  | returned (ret : Int)
deriving DecidableEq

/-- The fences, the callbacks of the call in their lists, whether `all_signaler_submitted_error`
is set, the fields of the waiter, how often the eventfd was signaled, what the call has written to
`remaining_signalers`, and the call. -/
structure WaitState (ι : Type) where
  fences : ι → Fence
  callbacks : ι → List Nat
  failed : ι → Bool
  pendingFences : Int
  cbList : List Nat
  cancel : Bool
  signaled : Nat
  reported : List Int
  call : WaitCall

variable {ι : Type} [DecidableEq ι]

namespace WaitState

variable (state : WaitState ι)

/-- The lock of the fence is held by the submission that runs its callbacks. -/
def Firing (fence : ι) : Prop :=
  (state.fences fence).unsubmittedSignalers = 0 ∧ state.callbacks fence ≠ []

instance (fence : ι) : Decidable (state.Firing fence) := by
  unfold Firing
  infer_instance

/-- `iif_fence_add_all_signaler_submitted_callback`. -/
def addAllSignalerSubmittedCallback (fence : ι) (index : Nat) : Int × WaitState ι :=
  let remaining := (state.fences fence).unsubmittedSignalers
  if remaining = 0 then (remaining, state)
  else
    (remaining, { state with
      callbacks := update state.callbacks fence (state.callbacks fence ++ [index]) })

/-- `all_signaler_submitted`. -/
def allSignalerSubmitted (fence : ι) (index : Nat) : WaitState ι :=
  if state.cancel then state
  else
    let cbList := state.cbList.erase index
    { state with
      cbList := cbList
      signaled :=
        if state.pendingFences = 0 ∧ cbList = [] ∧ state.failed fence = false then
          state.signaled + 1
        else state.signaled }

/-- `waiter->cb_list` after the last locked section for a fence of the array. -/
def listAfter (index : Nat) (remaining : Int) : List Nat :=
  if remaining = 0 then state.cbList.erase index else state.cbList

/-- One step of the call; `allocated` is whether `kzalloc` succeeds. -/
def callStep (array : List ι) (allocated : Bool) : Option (WaitState ι) :=
  match state.call with
  | .next index =>
    if index < array.length then
      if allocated then
        some { state with cbList := state.cbList ++ [index], call := .listed index }
      else some { state with cancel := true, call := .cancelling state.cbList }
    else some { state with call := .returned 0 }
  | .listed index =>
    match array[index]? with
    | none => none
    | some fence =>
      if state.Firing fence then none
      else
        let (remaining, state) := state.addAllSignalerSubmittedCallback fence index
        some { state with call := .added index remaining }
  | .added index remaining =>
    some { state with
      pendingFences := state.pendingFences - 1
      cbList := state.listAfter index remaining
      reported := state.reported ++ [remaining]
      call := .next (index + 1) }
  | .cancelling [] => some { state with call := .returned (-ENOMEM) }
  | .cancelling (index :: rest) =>
    match array[index]? with
    | none => none
    | some fence =>
      if state.Firing fence then none
      else
        some { state with
          callbacks := update state.callbacks fence ((state.callbacks fence).erase index)
          cbList := state.cbList.erase index
          call := .cancelling rest }
  | .returned _ => none

end WaitState

/-- A step of the call, a signaler submitted to a fence, the next callback of a fence
whose signalers are all submitted, or the destruction of a fence. -/
inductive WaitEvent (ι : Type) where
  | call (allocated : Bool)
  | submitSignaler (fence : ι)
  | fire (fence : ι)
  | destroy (fence : ι) (others : Bool)

/-- One step. The caller holds the fences until the call returns; `others` is whether
callbacks of other calls are on the fence. -/
def waitStep (array : List ι) (state : WaitState ι) : WaitEvent ι → Option (WaitState ι)
  | .call allocated => state.callStep array allocated
  | .submitSignaler fence =>
    if (state.fences fence).signalerSubmittable = 0 then
      some { state with
        fences := update state.fences fence ((state.fences fence).submitSignalerLocked false) }
    else none
  | .fire fence =>
    if (state.fences fence).unsubmittedSignalers = 0 then
      match state.callbacks fence with
      | [] => none
      | index :: rest =>
        some (WaitState.allSignalerSubmitted
          { state with callbacks := update state.callbacks fence rest } fence index)
    else none
  | .destroy fence others =>
    match state.call with
    | .returned _ =>
      if state.Firing fence then none
      else
        let waiting := others || !(state.callbacks fence).isEmpty
        some { state with
          fences := update state.fences fence ((state.fences fence).destroyLocked waiting)
          failed := update state.failed fence (state.failed fence || waiting &&
              decide ((state.fences fence).submittedSignalers <
                (state.fences fence).remainingSignalers)) }
    | _ => none

/-- The start of the call: the waiter is allocated. -/
def waitStart (array : List ι) (fences : ι → Fence) : WaitState ι where
  fences := fences
  callbacks := fun _ => []
  failed := fun _ => false
  pendingFences := array.length
  cbList := []
  cancel := false
  signaled := 0
  reported := []
  call := .next 0

/-- The call has returned 0 and reported a missing signaler, and since then every fence
of the array has got its signalers, with no callback left to run. -/
def WaitState.Completed (array : List ι) (state : WaitState ι) : Prop :=
  state.call = .returned 0 ∧ (∃ remaining ∈ state.reported, remaining ≠ 0) ∧
    ∀ fence ∈ array, (state.fences fence).unsubmittedSignalers = 0 ∧
      state.callbacks fence = [] ∧ state.failed fence = false

instance (array : List ι) (state : WaitState ι) : Decidable (state.Completed array) := by
  unfold WaitState.Completed
  infer_instance

/-- When the call takes the last fence off `pending_fences`, a callback that it has
added is still to run, or it has added none. -/
def Timely (array : List ι) (state : WaitState ι) : WaitEvent ι → Prop
  | .call _ =>
    match state.call with
    | .added index remaining =>
      index + 1 = array.length → state.listAfter index remaining ≠ [] ∨
        ∀ reported ∈ state.reported ++ [remaining], reported = 0
    | _ => True
  | _ => True

end GsKernel.Iif
