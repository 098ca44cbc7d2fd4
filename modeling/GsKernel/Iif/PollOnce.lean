import GsKernel.Iif.Poll

/-!
# Single-shot callbacks are invoked once

Each accepted registration of a callback with a single-shot fence ends in its removal
or in one invocation, or is still on `poll_cb_list`. A callback waits on the list of a
signaled fence only while `IIF_FLAGS_DISABLE_POLL` is set, and then `poll_cb_pended`
remembers it.
-/

namespace GsKernel.Iif

open PollRecord List

lemma Fence.fenceType_setFlags (fence : Fence) (flags : Flags) (clear : Bool) :
    (fence.setFlags flags clear).2.fenceType = fence.fenceType := by
  unfold Fence.setFlags
  split_ifs <;> rfl

variable {κ : Type*} [DecidableEq κ]

namespace PollRecord

def accepts (callback : κ) : PollRecord κ → Bool
  | .accepted other => decide (other = callback)
  | _ => false

def removes (callback : κ) : PollRecord κ → Bool
  | .removed other => decide (other = callback)
  | _ => false

def invokes (callback : κ) : PollRecord κ → Bool
  | .invoked other _ _ => decide (other = callback)
  | _ => false

omit [DecidableEq κ] in
/-- An invocation is made on a signaled fence that allows polling. -/
def Timely : PollRecord κ → Prop
  | .invoked _ signaled disablePoll => signaled = true ∧ disablePoll = false
  | _ => True

end PollRecord

namespace PollState

/-- How often a callback has been registered. -/
def accepted (poll : PollState κ) (callback : κ) : Nat :=
  poll.log.countP (accepts callback)

/-- How often a callback has been removed. -/
def removed (poll : PollState κ) (callback : κ) : Nat :=
  poll.log.countP (removes callback)

/-- How often a callback has been invoked. -/
def invoked (poll : PollState κ) (callback : κ) : Nat :=
  poll.log.countP (invokes callback)

/-- The accounts of the callbacks of a single-shot fence. -/
structure Booked (poll : PollState κ) : Prop where
  balance : ∀ callback, poll.accepted callback =
    poll.removed callback + poll.invoked callback + poll.pollCbList.count callback
  single : ∀ callback, poll.invoked callback + poll.pollCbList.count callback ≤ 1
  timely : ∀ record ∈ poll.log, record.Timely

/-- The invariant of the callbacks of a single-shot fence with the given flags. -/
structure Once (poll : PollState κ) (flags : Flags) : Prop extends Booked poll where
  quiet : poll.signaled = false → ∀ callback, poll.invoked callback = 0
  notified : poll.signaled = true →
    poll.pollCbList = [] ∨ (flags.disablePoll = true ∧ poll.pollCbPended = true)

variable {poll next : PollState κ} {flags : Flags}

lemma Booked.congr (booked : poll.Booked) (list : next.pollCbList = poll.pollCbList)
    (log : next.log = poll.log) : next.Booked := by
  obtain ⟨balance, single, timely⟩ := booked
  simp only [accepted, removed, invoked] at balance single
  constructor
  · simpa only [accepted, removed, invoked, list, log] using balance
  · simpa only [invoked, list, log] using single
  · simpa only [log] using timely

lemma countP_accepts_invocations (callback : κ) (callbacks : List κ) :
    (poll.invocations flags callbacks).countP (accepts callback) = 0 := by
  simp [invocations, accepts, countP_eq_zero]

lemma countP_removes_invocations (callback : κ) (callbacks : List κ) :
    (poll.invocations flags callbacks).countP (removes callback) = 0 := by
  simp [invocations, removes, countP_eq_zero]

lemma countP_invokes_invocations (callback : κ) (callbacks : List κ) :
    (poll.invocations flags callbacks).countP (invokes callback) = callbacks.count callback := by
  simp only [invocations, countP_map, count]
  rfl

/-- Notifying a signaled fence that allows polling empties its list. -/
lemma booked_notified (booked : poll.Booked) (signaled : poll.signaled = true)
    (enabled : flags.disablePoll = false) (pended : Bool) :
    Booked { poll with
      pollCbPended := pended
      pollCbList := []
      log := poll.log ++ poll.invocations flags poll.pollCbList } where
  balance callback := by
    have balance := booked.balance callback
    simp only [accepted, removed, invoked, countP_append, countP_accepts_invocations,
      countP_removes_invocations, countP_invokes_invocations, count_nil] at balance ⊢
    omega
  single callback := by
    have single := booked.single callback
    simp only [invoked, countP_append, countP_invokes_invocations, count_nil] at single ⊢
    omega
  timely := by
    refine forall_mem_append.mpr ⟨booked.timely, ?_⟩
    simp [invocations, PollRecord.Timely, signaled, enabled]

omit [DecidableEq κ] in
lemma notifyPollCbLocked_singleShot : poll.notifyPollCbLocked .singleShot flags =
    if flags.disablePoll = true then { poll with pollCbPended := true }
    else if poll.signaled = true then
      { poll with
        pollCbPended := false
        pollCbList := []
        log := poll.log ++ poll.invocations flags poll.pollCbList }
    else { poll with pollCbPended := false } := by
  unfold notifyPollCbLocked notifySingleShotLocked
  split
  · rfl
  · by_cases signaled : poll.signaled = true
    · simp only [if_pos signaled]
    · simp only [if_neg signaled]

lemma once_notifyPollCbLocked (booked : poll.Booked)
    (quiet : poll.signaled = false → ∀ callback, poll.invoked callback = 0) :
    (poll.notifyPollCbLocked .singleShot flags).Once flags := by
  rw [notifyPollCbLocked_singleShot]
  split
  · next disabled =>
      exact ⟨booked.congr rfl rfl, quiet, fun _ => .inr ⟨disabled, rfl⟩⟩
  · next enabled =>
      split
      · next signaled =>
          refine ⟨booked_notified booked signaled (by simpa using enabled) false, ?_, ?_⟩
          · exact fun unsignaled => absurd (signaled.symm.trans unsignaled) (by decide)
          · exact fun _ => .inl rfl
      · next unsignaled =>
          exact ⟨booked.congr rfl rfl, quiet, fun signaled => absurd signaled unsignaled⟩

/-- A report of the sync-unit notifies when it changes the status. -/
lemma once_pollCbFuncLocked (once : poll.Once flags) (status : Status) :
    (poll.pollCbFuncLocked .singleShot flags status).Once flags := by
  have logged : Once { poll with log := poll.log ++ [.reported status] } flags := by
    obtain ⟨⟨balance, single, timely⟩, quiet, notified⟩ := once
    refine ⟨⟨fun callback => ?_, fun callback => ?_, ?_⟩, fun unsignaled callback => ?_, notified⟩
    · simpa [accepted, removed, invoked, countP_append, accepts,
        removes, invokes] using balance callback
    · simpa [invoked, countP_append, invokes] using single callback
    · exact forall_mem_append.mpr ⟨timely, by simp [PollRecord.Timely]⟩
    · simpa [invoked, countP_append, invokes] using quiet unsignaled callback
  unfold pollCbFuncLocked setStatusLocked
  dsimp only
  split
  · next updated =>
      refine once_notifyPollCbLocked (logged.toBooked.congr rfl rfl) fun unsignaled => ?_
      exact logged.quiet (Bool.or_eq_false_iff.mp unsignaled).1
  · next same =>
      have kept : (poll.signaled || status.signaled) = poll.signaled := by simpa using same
      rw [kept]
      exact ⟨logged.toBooked.congr rfl rfl, logged.quiet, logged.notified⟩

lemma once_reported (once : poll.Once flags) (status : Option Status) :
    (poll.reported .singleShot flags status).Once flags := by
  cases status with
  | none => exact once
  | some status => exact once_pollCbFuncLocked once status

variable {fence : Fence}

lemma once_addPollCallback {callback : κ} (once : poll.Once fence.flags)
    (singleShot : fence.fenceType = .singleShot) (fresh : callback ∉ poll.pollCbList) :
    (poll.addPollCallback fence callback).2.Once fence.flags := by
  unfold addPollCallback
  split
  · exact once
  · next refused =>
      have unsignaled : poll.signaled = false := by
        by_contra signaled
        exact refused (.inl ⟨singleShot, by simpa using signaled⟩)
      obtain ⟨⟨balance, single, timely⟩, quiet, notified⟩ := once
      have list : ∀ other, (poll.pollCbList ++ [callback]).count other =
          poll.pollCbList.count other + if callback = other then 1 else 0 := by
        simp [count_append, count_singleton]
      refine ⟨⟨fun other => ?_, fun other => ?_, ?_⟩, fun _ other => ?_, fun signaled => ?_⟩
      · have before := balance other
        simp only [accepted, removed, invoked] at before
        simp [accepted, removed, invoked, countP_append, accepts,
          removes, invokes, singleShot, countP_cons, list, before]
        omega
      · have before := quiet unsignaled other
        have once := single other
        simp only [invoked] at before once
        have absent : poll.pollCbList.count callback = 0 := count_eq_zero_of_not_mem fresh
        simp [invoked, singleShot, countP_append, list, invokes, before]
        by_cases same : callback = other
        · subst same
          simp [absent]
        · simpa [same, before] using once
      · exact forall_mem_append.mpr ⟨timely, by simp [PollRecord.Timely, singleShot]⟩
      · simpa [invoked, countP_append, invokes, singleShot] using quiet unsignaled other
      · exact absurd (unsignaled.symm.trans signaled) (by decide)

lemma once_removePollCallback (once : poll.Once flags) (callback : κ) :
    (poll.removePollCallback callback).2.Once flags := by
  unfold removePollCallback
  split
  · next inside =>
      obtain ⟨⟨balance, single, timely⟩, quiet, notified⟩ := once
      have positive : 0 < poll.pollCbList.count callback := count_pos_iff.mpr inside
      refine ⟨⟨fun other => ?_, fun other => ?_, ?_⟩, fun unsignaled other => ?_,
        fun signaled => ?_⟩
      · have before := balance other
        simp only [accepted, removed, invoked] at before
        simp only [accepted, removed, invoked, countP_append, countP_singleton,
          accepts, removes, invokes, count_erase]
        by_cases same : callback = other
        · subst same
          simp [before]
          omega
        · simp [same, before]
      · have before := single other
        have fewer : (poll.pollCbList.erase callback).count other ≤ poll.pollCbList.count other :=
          erase_sublist.count_le other
        simp only [invoked] at before
        simp only [invoked, countP_append, countP_singleton, invokes]
        simp
        omega
      · exact forall_mem_append.mpr ⟨timely, by simp [PollRecord.Timely]⟩
      · simpa [invoked, countP_append, invokes] using quiet unsignaled other
      · rcases notified signaled with empty | pended
        · simp [empty] at inside
        · exact .inr pended
  · exact once

/-- Clearing `IIF_FLAGS_DISABLE_POLL` catches up on the callbacks that were pended. -/
lemma once_setFlags (once : poll.Once fence.flags)
    (singleShot : fence.fenceType = .singleShot) (flags : Flags) (clear : Bool) :
    (poll.setFlags fence flags clear).Once (fence.setFlags flags clear).2.flags := by
  have kept := (fence.fenceType_setFlags flags clear).trans singleShot
  unfold setFlags
  dsimp only
  split
  · rw [kept]
    exact once_notifyPollCbLocked once.toBooked once.quiet
  · next idle =>
      refine ⟨once.toBooked, once.quiet, fun signaled => ?_⟩
      rcases once.notified signaled with empty | ⟨disabled, pended⟩
      · exact .inl empty
      -- polling stays disabled, or the branch above would have been taken
      refine .inr ⟨?_, pended⟩
      unfold Fence.setFlags at idle ⊢
      split_ifs at idle ⊢ with refused cleared
      · exact disabled
      · simpa [disabled, pended, cleared] using idle
      · simp [disabled]

lemma once_destroyLocked (once : poll.Once fence.flags)
    (singleShot : fence.fenceType = .singleShot) (timeout : Nat) :
    (poll.destroyLocked fence timeout).Once fence.flags := by
  unfold destroyLocked
  rw [singleShot]
  dsimp only
  split
  · exact once_notifyPollCbLocked once.toBooked once.quiet
  · refine once_notifyPollCbLocked (once.toBooked.congr rfl rfl) fun unsignaled => ?_
    exact once.quiet (Bool.or_eq_false_iff.mp unsignaled).1

omit [DecidableEq κ] in
@[simp]
lemma signaled_notifyPollCbLocked :
    (poll.notifyPollCbLocked .singleShot flags).signaled = poll.signaled := by
  rw [notifyPollCbLocked_singleShot]
  split_ifs <;> rfl

omit [DecidableEq κ] in
lemma signaled_pollCbFuncLocked (status : Status) :
    (poll.pollCbFuncLocked .singleShot flags status).signaled =
      (poll.signaled || status.signaled) := by
  unfold pollCbFuncLocked setStatusLocked
  dsimp only
  split <;> simp

omit [DecidableEq κ] in
lemma signaled_destroyLocked (singleShot : fence.fenceType = .singleShot) (timeout : Nat) :
    (poll.destroyLocked fence timeout).signaled =
      (poll.signaled || !fence.allSignalersSignaled) := by
  unfold destroyLocked setStatusLocked
  rw [singleShot]
  split <;> simp [*]

omit [DecidableEq κ] in
lemma signaled_setFlags (singleShot : fence.fenceType = .singleShot)
    (flags : Flags) (clear : Bool) :
    (poll.setFlags fence flags clear).signaled = poll.signaled := by
  have kept := (fence.fenceType_setFlags flags clear).trans singleShot
  unfold setFlags
  dsimp only
  split
  · rw [kept, signaled_notifyPollCbLocked]
  · rfl

omit [DecidableEq κ] in
lemma empty_notifyPollCbLocked (empty : poll.pollCbList = []) :
    (poll.notifyPollCbLocked .singleShot flags).pollCbList = [] := by
  rw [notifyPollCbLocked_singleShot]
  split_ifs <;> first | exact empty | rfl

omit [DecidableEq κ] in
lemma empty_setFlags (singleShot : fence.fenceType = .singleShot)
    (empty : poll.pollCbList = []) (flags : Flags) (clear : Bool) :
    (poll.setFlags fence flags clear).pollCbList = [] := by
  have kept := (fence.fenceType_setFlags flags clear).trans singleShot
  unfold setFlags
  dsimp only
  split
  · rw [kept]
    exact empty_notifyPollCbLocked empty
  · exact empty

end PollState

end GsKernel.Iif
