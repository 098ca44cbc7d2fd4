import GsKernel.Iif.SubmissionWaiter

/-!
# The callbacks of a submission waiter

While the call has not been cancelled, a callback is in `waiter->cb_list` exactly if it is on its
fence, but for the one being added. A fence that the call has looked at and that lacks a signaler
has its callback, and the eventfd is signaled only when none is left.
-/

namespace GsKernel.Iif

open Function Fence WaitCall WaitState List Option

namespace WaitCall

/-- The number of fences taken off `pending_fences`. -/
def counted (length : Nat) : WaitCall → Nat
  | .next index | .listed index | .added index _ => index
  | .cancelling _ => 0
  | .returned _ => length

/-- The number of fences whose signalers the call has looked at. -/
def looked (length : Nat) : WaitCall → Nat
  | .next index | .listed index => index
  | .added index _ => index + 1
  | .cancelling _ => 0
  | .returned _ => length

/-- The number of callbacks that have been allocated. -/
def begun (length : Nat) : WaitCall → Nat
  | .next index => index
  | .listed index | .added index _ => index + 1
  | .cancelling _ => 0
  | .returned _ => length

/-- The callback that is in `waiter->cb_list` and on no fence. -/
def unadded : WaitCall → Option Nat
  | .listed index => some index
  | .added index remaining => if remaining = 0 then some index else none
  | _ => none

/-- The places of a call that has not been cancelled. -/
def InRange (length : Nat) : WaitCall → Prop
  | .next index => index ≤ length
  | .listed index | .added index _ => index < length
  | .cancelling _ => False
  | .returned ret => ret = 0

end WaitCall

variable {ι : Type} {array : List ι} {state next : WaitState ι}

/-- The invariant of a call that has not been cancelled. -/
structure Active (array : List ι) (state : WaitState ι) : Prop where
  active : state.cancel = false
  inRange : state.call.InRange array.length
  progress : state.pendingFences + state.call.counted array.length = array.length
  fresh : ∀ index ∈ state.cbList, index < state.call.begun array.length
  distinct : state.cbList.Nodup
  once : ∀ fence, (state.callbacks fence).Nodup
  added : ∀ fence, ∀ index ∈ state.callbacks fence,
    array[index]? = some fence ∧ index ∈ state.cbList ∧ state.call.unadded ≠ some index
  current : ∀ index, state.call.unadded = some index → index ∈ state.cbList
  listed : ∀ index ∈ state.cbList,
    state.call.unadded = some index ∨ ∃ fence, index ∈ state.callbacks fence
  lacking : ∀ index fence, array[index]? = some fence → index < state.call.looked array.length →
    (state.fences fence).unsubmittedSignalers ≠ 0 → index ∈ state.callbacks fence
  quiet : state.signaled = 0 ∨ state.signaled = 1 ∧ state.pendingFences = 0 ∧ state.cbList = []

/-- A cancelled call never signals the eventfd. -/
structure Abandoned (state : WaitState ι) : Prop where
  cancelled : state.cancel = true
  pending : state.pendingFences ≠ 0
  unsignaled : state.signaled = 0
  leaving : (∃ rest, state.call = .cancelling rest) ∨ state.call = .returned (-ENOMEM)

/-- Fences only ever get signalers submitted. -/
lemma Active.withFences {fences : ι → Fence} {failed : ι → Bool} (active : Active array state)
    (kept : ∀ fence, (fences fence).unsubmittedSignalers ≠ 0 →
      (state.fences fence).unsubmittedSignalers ≠ 0) :
    Active array { state with fences := fences, failed := failed } :=
  { active with
    lacking := fun index fence found looked lacks =>
      active.lacking index fence found looked (kept fence lacks) }

lemma active_waitStart (array : List ι) (fences : ι → Fence) :
    Active array (waitStart array fences) where
  active := rfl
  inRange := Nat.zero_le _
  progress := by simp [waitStart, counted]
  fresh := by simp [waitStart]
  distinct := nodup_nil
  once := fun _ => nodup_nil
  added := by simp [waitStart]
  current := fun _ unadded => by cases unadded
  listed := by simp [waitStart]
  lacking := fun index _ _ looked => absurd looked (Nat.not_lt_zero index)
  quiet := Or.inl rfl

section

variable (active : Active array state)
include active

/-- While fences are pending the eventfd has not been signaled. -/
lemma Active.unsignaled
    (pending : state.call.counted array.length < array.length) : state.signaled = 0 := by
  have progress := active.progress
  rcases active.quiet with unsignaled | ⟨-, none, -⟩
  · exact unsignaled
  · omega

variable {index : Nat}

/-- A new callback is listed. -/
lemma active_list (call : state.call = .next index) (inside : index < array.length) :
    Active array { state with cbList := state.cbList ++ [index], call := .listed index } := by
  have unsignaled := active.unsignaled (by simpa [call, counted] using inside)
  obtain ⟨alive, -, progress, fresh, distinct, once, added, current, listed, lacking, -⟩ := active
  simp only [call, counted, begun, looked, unadded,
    reduceCtorEq, false_or] at progress fresh listed lacking
  refine ⟨alive, inside, progress, ?_, ?_, once, fun fence other mem => ?_, ?_, ?_, lacking,
    Or.inl unsignaled⟩
  · exact forall_mem_append.mpr ⟨fun other mem => Nat.lt_succ_of_lt (fresh other mem),
      by simp [begun]⟩
  · refine nodup_append'.mpr ⟨distinct, nodup_singleton index, ?_⟩
    simpa using fun mem => (fresh index mem).false
  · obtain ⟨found, inside, -⟩ := added fence other mem
    refine ⟨found, mem_append_left _ inside, fun same => ?_⟩
    obtain rfl : index = other := by simpa [unadded] using same
    exact (fresh index inside).false
  · simp [unadded]
  · exact forall_mem_append.mpr ⟨fun other mem => Or.inr (listed other mem),
      by simp [unadded]⟩

/-- The loop ends. -/
lemma active_return (call : state.call = .next index)
    (outside : ¬ index < array.length) : Active array { state with call := .returned 0 } := by
  obtain ⟨alive, inRange, progress, fresh, distinct, once, added, current, listed, lacking, quiet⟩ :=
    active
  simp only [call, InRange, counted, begun, looked,
    unadded, reduceCtorEq, false_or] at inRange progress fresh listed lacking
  obtain rfl : index = array.length := by omega
  exact ⟨alive, rfl, progress, fresh, distinct, once, fun fence other mem =>
    ⟨(added fence other mem).1, (added fence other mem).2.1, by simp [unadded]⟩,
    by simp [unadded], fun other mem => Or.inr (listed other mem), lacking, quiet⟩

/-- The last locked section for a fence. -/
lemma active_count {remaining : Int} (call : state.call = .added index remaining) :
    Active array { state with
      pendingFences := state.pendingFences - 1
      cbList := state.listAfter index remaining
      reported := state.reported ++ [remaining]
      call := .next (index + 1) } := by
  have unsignaled := active.unsignaled (by simpa [call, InRange, counted] using active.inRange)
  obtain ⟨alive, inRange, progress, fresh, distinct, once, added, current, listed, lacking, -⟩ :=
    active
  simp only [call, InRange, counted, begun, looked] at inRange progress fresh lacking
  -- what is left in the list is what has been added to a fence
  have kept : ∀ other, other ∈ state.listAfter index remaining ↔
      other ∈ state.cbList ∧ state.call.unadded ≠ some other := by
    intro other
    unfold WaitState.listAfter
    split_ifs with none
    · simp [call, unadded, none, distinct.mem_erase_iff, and_comm, eq_comm]
    · simp [call, unadded, none]
  refine ⟨alive, inRange, ?_, fun other mem => fresh other ((kept other).mp mem).1, ?_, once,
    fun fence other mem => ?_, by simp [unadded], fun other mem => ?_, lacking,
    Or.inl unsignaled⟩
  · simp only [counted]
    omega
  · unfold WaitState.listAfter
    split_ifs
    · exact distinct.erase index
    · exact distinct
  · obtain ⟨found, inside, unadded⟩ := added fence other mem
    exact ⟨found, (kept other).mpr ⟨inside, unadded⟩, by simp [WaitCall.unadded]⟩
  · obtain ⟨inside, unadded⟩ := (kept other).mp mem
    exact Or.inr ((listed other inside).resolve_left unadded)

variable [DecidableEq ι]

/-- The callback is added to its fence, or the fence lacks no signaler. -/
lemma active_add {fence : ι}
    (call : state.call = .listed index) (found : array[index]? = some fence) :
    Active array { (state.addAllSignalerSubmittedCallback fence index).2 with
      call := .added index (state.addAllSignalerSubmittedCallback fence index).1 } := by
  have unsignaled := active.unsignaled (by simpa [call, InRange, counted] using active.inRange)
  obtain ⟨alive, inRange, progress, fresh, distinct, once, added, current, listed, lacking, -⟩ :=
    active
  simp only [call, InRange, counted, begun, looked,
    unadded, some.injEq, ne_eq] at inRange progress fresh added current listed lacking
  unfold addAllSignalerSubmittedCallback
  dsimp only
  by_cases none : (state.fences fence).unsubmittedSignalers = 0
  · rw [if_pos none]
    refine ⟨alive, inRange, progress, fresh, distinct, once, ?_, ?_, ?_,
      fun other another found' looked lacks => ?_, Or.inl unsignaled⟩
    · simpa [unadded, none] using added
    · simpa [unadded, none] using current
    · simpa [unadded, none] using listed
    · rcases Nat.lt_succ_iff_lt_or_eq.mp looked with earlier | rfl
      · exact lacking other another found' earlier lacks
      · obtain rfl : fence = another := some.inj (found.symm.trans found')
        exact absurd none lacks
  · rw [if_neg none]
    have mem : ∀ another other, other ∈ update state.callbacks fence
        (state.callbacks fence ++ [index]) another ↔
        other ∈ state.callbacks another ∨ another = fence ∧ other = index := by
      intro another other
      by_cases same : another = fence
      · subst same
        simp
      · simp [same]
    refine ⟨alive, inRange, progress, fresh, distinct, fun another => ?_,
      fun another other inside => ?_, by simp [unadded, none], fun other inside => ?_,
      fun other another found' looked lacks => ?_, Or.inl unsignaled⟩
    · by_cases same : another = fence
      · subst same
        simp only [update_self]
        refine nodup_append'.mpr ⟨once another, nodup_singleton index, ?_⟩
        simpa using fun inside => (added another index inside).2.2 rfl
      · simpa [same] using once another
    · refine ⟨?_, ?_, by simp [unadded, none]⟩
      · rcases (mem another other).mp inside with old | ⟨rfl, rfl⟩
        · exact (added another other old).1
        · exact found
      · rcases (mem another other).mp inside with old | ⟨rfl, rfl⟩
        · exact (added another other old).2.1
        · exact current other rfl
    · rcases listed other inside with rfl | ⟨another, old⟩
      · exact Or.inr ⟨fence, (mem fence index).mpr (Or.inr ⟨rfl, rfl⟩)⟩
      · exact Or.inr ⟨another, (mem another other).mpr (Or.inl old)⟩
    · rcases Nat.lt_succ_iff_lt_or_eq.mp looked with earlier | rfl
      · exact (mem another other).mpr (Or.inl (lacking other another found' earlier lacks))
      · exact (mem another other).mpr (Or.inr ⟨some.inj (found'.symm.trans found), rfl⟩)

/-- A callback runs, and signals the eventfd if it is the last one. -/
lemma active_fire {fence : ι} {rest : List Nat}
    (submitted : (state.fences fence).unsubmittedSignalers = 0)
    (first : state.callbacks fence = index :: rest) :
    Active array (WaitState.allSignalerSubmitted
      { state with callbacks := update state.callbacks fence rest } fence index) := by
  obtain ⟨alive, inRange, progress, fresh, distinct, once, added, current, listed, lacking, quiet⟩ :=
    active
  have head : index ∈ state.callbacks fence := by simp [first]
  obtain ⟨found, inList, notCurrent⟩ := added fence index head
  have unsignaled : state.signaled = 0 := by
    rcases quiet with unsignaled | ⟨-, -, empty⟩
    · exact unsignaled
    · simp [empty] at inList
  have mem : ∀ another other, other ∈ update state.callbacks fence rest another ↔
      other ∈ state.callbacks another ∧ other ≠ index := by
    intro another other
    by_cases same : another = fence
    · subst same
      simp only [update_self, first, mem_cons]
      grind
    · rw [update_of_ne same]
      refine ⟨fun inside => ⟨inside, ?_⟩, fun inside => inside.1⟩
      rintro rfl
      exact same (some.inj ((added another other inside).1.symm.trans found))
  unfold allSignalerSubmitted
  rw [if_neg (by simp [alive])]
  refine ⟨alive, inRange, progress, fun other inside => fresh other (mem_of_mem_erase inside),
    distinct.erase index, fun another => ?_, fun another other inside => ?_,
    fun other unadded => ?_, fun other inside => ?_, fun other another found' looked lacks => ?_, ?_⟩
  · by_cases same : another = fence
    · subst same
      simpa using (nodup_cons.mp (first ▸ once another)).2
    · simpa [same] using once another
  · obtain ⟨old, differs⟩ := (mem another other).mp inside
    obtain ⟨found', inside, unadded⟩ := added another other old
    exact ⟨found', (mem_erase_of_ne differs).mpr inside, unadded⟩
  · have differs : other ≠ index := fun same => notCurrent (same ▸ unadded)
    exact (mem_erase_of_ne differs).mpr (current other unadded)
  · obtain ⟨differs, inside⟩ := distinct.mem_erase_iff.mp inside
    rcases listed other inside with unadded | ⟨another, old⟩
    · exact Or.inl unadded
    · exact Or.inr ⟨another, (mem another other).mpr ⟨old, differs⟩⟩
  · refine (mem another other).mpr ⟨lacking other another found' looked lacks, ?_⟩
    rintro rfl
    obtain rfl : fence = another := some.inj (found.symm.trans found')
    exact lacks submitted
  · dsimp only
    split_ifs with last
    · exact Or.inr ⟨by simp [unsignaled], last.1, last.2.1⟩
    · exact Or.inl unsignaled

end

variable [DecidableEq ι]

/-- A destroyed fence lacks no signaler that it did not lack before. -/
lemma unsubmitted_destroyLocked {fence : Fence} {callbacks : Bool}
    (lacks : (fence.destroyLocked callbacks).unsubmittedSignalers ≠ 0) :
    fence.unsubmittedSignalers ≠ 0 := by
  intro none
  refine lacks ?_
  unfold unsubmittedSignalers at none ⊢
  unfold destroyLocked
  dsimp only
  rw [(sameCounts_retireLocked true).remaining, (sameCounts_retireLocked true).submitted]
  split_ifs <;> simp [incSignaledSignalersLocked_kept, submitSignalerLocked, none]

lemma active_callStep {allocated : Bool} (active : Active array state)
    (ran : state.callStep array allocated = some next) :
    Active array next ∨ Abandoned next := by
  have inRange := active.inRange
  unfold callStep at ran
  cases call : state.call <;> simp only [call, reduceCtorEq] at ran
  case next index =>
    split_ifs at ran with inside available
    all_goals cases ran
    · exact Or.inl (active_list active call inside)
    · have progress := active.progress
      simp only [call, counted] at progress
      refine Or.inr ⟨rfl, ?_, active.unsignaled ?_, Or.inl ⟨_, rfl⟩⟩
      · dsimp only
        omega
      · simpa [call, counted] using inside
    · exact Or.inl (active_return active call inside)
  case listed index =>
    split at ran
    · cases ran
    · next fence found =>
        split_ifs at ran
        cases ran
        exact Or.inl (active_add active call found)
  case added index remaining =>
    cases ran
    exact Or.inl (active_count active call)
  case cancelling rest => simp [call, InRange] at inRange

variable {event : WaitEvent ι}

/-- One step keeps the invariant, or the call is cancelled. -/
lemma active_step (active : Active array state) (ran : waitStep array state event = some next) :
    Active array next ∨ Abandoned next := by
  cases event <;> simp only [waitStep] at ran
  case call allocated => exact active_callStep active ran
  case submitSignaler fence =>
    split_ifs at ran with submittable
    cases ran
    refine Or.inl (active.withFences fun another lacks => ?_)
    by_cases same : another = fence
    · subst same
      exact (signalerSubmittable_eq_zero.mp submittable).1
    · rwa [update_of_ne same] at lacks
  case fire fence =>
    split_ifs at ran with submitted
    split at ran
    · cases ran
    · next index rest first =>
        cases ran
        exact Or.inl (active_fire active submitted first)
  case destroy fence others =>
    split at ran
    · split_ifs at ran
      cases ran
      refine Or.inl (active.withFences fun another lacks => ?_)
      by_cases same : another = fence
      · subst same
        rw [update_self] at lacks
        exact unsubmitted_destroyLocked lacks
      · rwa [update_of_ne same] at lacks
    · cases ran

lemma abandoned_step (abandoned : Abandoned state)
    (ran : waitStep array state event = some next) : Abandoned next := by
  obtain ⟨cancelled, pending, unsignaled, leaving⟩ := abandoned
  cases event with
  | call allocated =>
    simp only [waitStep, callStep] at ran
    rcases leaving with ⟨rest, call⟩ | call
    · cases rest <;> simp only [call] at ran
      case nil =>
        cases ran
        exact ⟨cancelled, pending, unsignaled, Or.inr rfl⟩
      case cons index rest =>
        split at ran
        · cases ran
        · split_ifs at ran
          cases ran
          exact ⟨cancelled, pending, unsignaled, Or.inl ⟨rest, rfl⟩⟩
    · simp [call] at ran
  | submitSignaler fence =>
    simp only [waitStep] at ran
    split_ifs at ran
    cases ran
    exact ⟨cancelled, pending, unsignaled, leaving⟩
  | fire fence =>
    simp only [waitStep] at ran
    split_ifs at ran
    split at ran
    · cases ran
    · cases ran
      rw [allSignalerSubmitted, if_pos cancelled]
      exact ⟨cancelled, pending, unsignaled, leaving⟩
  | destroy fence others =>
    simp only [waitStep] at ran
    split at ran
    · split_ifs at ran
      cases ran
      exact ⟨cancelled, pending, unsignaled, leaving⟩
    · cases ran

/-- What every run keeps. -/
def Reached (array : List ι) (state : WaitState ι) : Prop :=
  Active array state ∨ Abandoned state

lemma reached_step (reached : Reached array state)
    (ran : waitStep array state event = some next) : Reached array next := by
  rcases reached with active | abandoned
  · exact active_step active ran
  · exact Or.inr (abandoned_step abandoned ran)

end GsKernel.Iif
