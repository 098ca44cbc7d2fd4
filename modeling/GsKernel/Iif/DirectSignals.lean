import GsKernel.Iif.PollOnce
import GsKernel.Iif.Signals
import GsKernel.Iif.SubmitAtomic
import GsKernel.Iif.SyncPoints

/-!
# Signals of a direct single-shot fence

Signalers of a fence that the AP signals are submitted and signal, one call after the other. What
a signal does in `iif-direct.c` and in the fence table, which count it and keep its error.
-/

namespace GsKernel.Iif

open DirectFence List

variable {κ : Type}

/-- A direct fence with the fence of `iif-direct.c`, its status, and the errors of the signals
that succeeded, in order. -/
structure DirectSystem (κ : Type) where
  fences : Fences Unit κ
  direct : DirectFence
  poll : PollState κ
  errors : List Int

namespace PollState

variable (poll : PollState κ)

/-- `iif_fence_get_signal_status`. -/
def getSignalStatus : Int :=
  if poll.signaled then if poll.signalError ≠ 0 then poll.signalError else 1 else 0

/-- `iif_fence_is_signaled`. -/
def isSignaled : Bool := decide (poll.getSignalStatus ≠ 0)

/-- `iif_fence_get_status` of a single-shot fence. -/
def getStatus : Status := ⟨poll.signalError, poll.signaled, 0⟩

lemma isSignaled_eq : poll.isSignaled = poll.signaled := by
  unfold isSignaled getSignalStatus
  cases poll.signaled with
  | false => rfl
  | true => by_cases noError : poll.signalError = 0 <;> simp [noError]

end PollState

/-- A call on the fence, with what it depends on outside the driver. -/
inductive DirectCall
  | submitSignaler (sorting : Sorting Unit) (env : SubmitEnv Unit)
  | signalWithStatus (error : Int)

namespace DirectSystem

variable (system : DirectSystem κ)

def fence : Fence := (system.fences.objects ()).fence

/-- The same with another fence. -/
def withFence (fence : Fence) : DirectSystem κ :=
  { system with fences :=
    { system.fences with objects := fun _ => { system.fences.objects () with fence := fence } } }

/-- `iif_fence_submit_signaler`. -/
def submitSignaler (sorting : Sorting Unit) (env : SubmitEnv Unit) : Int × DirectSystem κ :=
  let (ret, fences) := system.fences.submitSignalerAndWaiter sorting env [] [()] 0
  (ret, { system with fences := fences })

/-- `iif_fence_waited_work_func`. -/
def waitedWork : DirectSystem κ :=
  if system.fence.outstandingSignalers ≠ 0 then system
  else
    let (locks, fence) := system.fence.waitedWorkLocked
    let system := system.withFence fence
    { system with fences :=
      { system.fences with held := fun ip => system.fences.held ip - locks ip } }

/-- `iif_fence_signal_with_status` on a direct single-shot fence: the signal goes to
`iif-direct.c`, which reports back when it was the last one, and is then counted. -/
def signalWithStatus (error : Int) : Int × DirectSystem κ :=
  let (ret, fence) := system.fence.signalWithStatusLocked error false 0
  if ret ≠ 0 then (ret, system.withFence fence)
  else
    let (status, direct) := system.direct.signal fence.propagate error
    let poll := system.poll.reported fence.fenceType fence.flags status
    let (ret, waited, fence) := fence.countSignalLocked
    let errors := if 0 ≤ ret then system.errors ++ [error] else system.errors
    let system : DirectSystem κ :=
      withFence { system with direct := direct, poll := poll, errors := errors } fence
    (ret, if waited then system.waitedWork else system)

/-- One call. -/
def call : DirectCall → DirectSystem κ
  | .submitSignaler sorting env => (system.submitSignaler sorting env).2
  | .signalWithStatus error => (system.signalWithStatus error).2

end DirectSystem

/-- A fence of the AP right after its creation. -/
def directInitial (id : Nat) (params : FenceParams) (timeout : Nat) : DirectSystem κ where
  fences := ⟨fun _ => ⟨id, initWithParams params, [], []⟩, fun _ => 0⟩
  direct := directFenceCreate params.fenceType params.remainingSignalers timeout
  poll := ⟨false, 0, 0, false, [], []⟩
  errors := []

/-- The last error among those of some signals, 0 if there is none. -/
def lastError (errors : List Int) : Int := (errors.filter (· ≠ 0)).getLast?.getD 0

lemma lastError_append (errors : List Int) (error : Int) :
    lastError (errors ++ [error]) = if error = 0 then lastError errors else error := by
  unfold lastError
  by_cases none : error = 0
  · simp [none]
  · simp [none, filter_append]

lemma lastError_eq_zero (errors : List Int) :
    lastError errors = 0 ↔ ∀ error ∈ errors, error = 0 := by
  induction errors using reverseRecOn with
  | nil => simp [lastError]
  | append_singleton errors error ih =>
    rw [lastError_append]
    by_cases none : error = 0
    · simp [none, ih, or_imp]
    · rw [if_neg none]
      exact iff_of_false none fun all => none (all error (by simp))

/-- The direct fence after some signals of the AP: its timeline and the table count them, and
both keep the last error. -/
structure DirectFence.Counts (direct : DirectFence) (total : Nat) (errors : List Int) : Prop where
  fenceType : direct.fenceType = .singleShot
  signalers : direct.remainingSignalers = total
  remaining : direct.entry.remainingSignals = total - errors.length
  timeline : direct.timeline = errors.length
  error : direct.error = lastError errors
  errored : direct.entry.errored = decide (lastError errors ≠ 0)
  tableError : direct.entry.errored = true →
    direct.entry.error = toSignalTableErrorCode (lastError errors)
  polled : errors.length < total → direct.polled = true

variable {direct : DirectFence} {total : Nat} {errors : List Int}

lemma handleSignalError_ap (direct : DirectFence) (error : Int) :
    direct.handleSignalError true error =
      { direct with
        errorSetByKernel := true, entry := direct.entry.setError error
        error := if error = 0 then direct.error else error } := by
  rw [handleSignalError_propagate]
  by_cases none : error = 0
  · simp [none, SignalEntry.setError]
  · simp [none]

/-- The entry of the table after a signal of the AP. -/
def SignalEntry.signaled (entry : SignalEntry) (error : Int) : SignalEntry :=
  (entry.setError error).setRemainingSignals (entry.remainingSignals - 1)

lemma SignalEntry.signaled_eq (entry : SignalEntry) (error : Int)
    (waiting : entry.remainingSignals ≠ 0) :
    entry.signaled error =
      { entry with
        remainingSignals := entry.remainingSignals - 1
        errored := entry.errored || decide (error ≠ 0)
        error := if error = 0 then entry.error else toSignalTableErrorCode error } := by
  have more : entry.remainingSignals > entry.remainingSignals - 1 := by omega
  unfold SignalEntry.signaled SignalEntry.setError SignalEntry.setRemainingSignals
  by_cases none : error = 0
  · simp [none, more]
  · simp [none, more]

/-- A signal of the AP that leaves the table with `remaining` signals, read off the code. -/
lemma signalSingleShot_ap (direct : DirectFence) (error : Int)
    (waiting : direct.entry.remainingSignals ≠ 0) :
    direct.signalSingleShot true error = syncStatus
        { direct with
          errorSetByKernel := true, entry := direct.entry.signaled error
          error := if error = 0 then direct.error else error }
        invokePollCallbacksSingleShot := by
  unfold signalSingleShot
  simp only [waiting, false_and, if_false, if_true, handleSignalError_ap]
  rfl

/-- One more signal of the AP: nothing is reported until it is the last one. -/
lemma DirectFence.Counts.signal (counts : direct.Counts total errors)
    (unfinished : errors.length < total) (error : Int) :
    (direct.signal true error).2.Counts total (errors ++ [error]) ∧ (direct.signal true error).1 =
        if errors.length + 1 = total then some ⟨lastError (errors ++ [error]), true, 0⟩
        else none := by
  obtain ⟨fenceType, signalers, remaining, timeline, stored, errored, tableError, polled⟩ := counts
  have waiting : direct.entry.remainingSignals ≠ 0 := by omega
  have last : (if error = 0 then direct.error else error) = lastError (errors ++ [error]) := by
    rw [lastError_append, stored]
  have entry := direct.entry.signaled_eq error waiting
  have erroredNow : (direct.entry.errored || decide (error ≠ 0)) =
      decide (lastError (errors ++ [error]) ≠ 0) := by
    rw [errored, lastError_append]
    by_cases none : error = 0
    · simp [none]
    · simp [none]
  have signalled : direct.signal true error = direct.signalSingleShot true error := by
    rw [DirectFence.signal, fenceType]
  rw [signalled, signalSingleShot_ap direct error waiting, entry, last, erroredNow]
  -- what is read back from the table is what was just written
  have status : tableStatus
      { direct with
        errorSetByKernel := true
        entry := { direct.entry with
          remainingSignals := direct.entry.remainingSignals - 1
          errored := decide (lastError (errors ++ [error]) ≠ 0)
          error := if error = 0 then direct.entry.error else toSignalTableErrorCode error }
        error := lastError (errors ++ [error]) } =
      (lastError (errors ++ [error]), (errors.length : Int) + 1) := by
    have reached : max ((direct.remainingSignalers : Int) -
        (direct.entry.remainingSignals - 1 : Nat)) direct.timeline = errors.length + 1 := by
      omega
    unfold tableStatus tableGetTimeline
    simp only [fenceType, if_true, reached]
    by_cases none : lastError (errors ++ [error]) = 0
    · simp [none]
    · simp [none]
  have moved : direct.timeline ≠ (errors.length : Int) + 1 := by omega
  unfold syncStatus
  simp only [status, moved, false_and, if_false]
  unfold invokePollCallbacksSingleShot
  have tableCode : decide (lastError (errors ++ [error]) ≠ 0) = true →
      (if error = 0 then direct.entry.error else toSignalTableErrorCode error) =
        toSignalTableErrorCode (lastError (errors ++ [error])) := by
    intro some
    rw [lastError_append] at some ⊢
    by_cases none : error = 0
    · rw [if_pos none, if_pos none]
      rw [if_pos none] at some
      exact tableError (errored.trans some)
    · rw [if_neg none, if_neg none]
  by_cases finished : errors.length + 1 = total
  · have whole : ¬ (errors.length : Int) + 1 < direct.remainingSignalers := by omega
    have all : (direct.remainingSignalers : Int) ≤ errors.length + 1 := by omega
    simp only [whole, if_false, finished, if_true, polled unfinished, all, decide_true]
    refine ⟨⟨fenceType, signalers, ?_, ?_, rfl, rfl, tableCode, ?_⟩, trivial⟩
    · simp only [length_append, length_singleton]
      omega
    · simp only [length_append, length_singleton]
      omega
    · simp only [length_append, length_singleton]
      omega
  · have more : (errors.length : Int) + 1 < direct.remainingSignalers := by omega
    simp only [more, if_true, finished, if_false]
    refine ⟨⟨fenceType, signalers, ?_, ?_, rfl, rfl, tableCode, fun _ => polled unfinished⟩,
      trivial⟩
    · simp only [length_append, length_singleton]
      omega
    · simp only [length_append, length_singleton]
      omega

end GsKernel.Iif
