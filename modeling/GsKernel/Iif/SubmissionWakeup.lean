import GsKernel.Iif.SubmissionCallbacks

/-!
# The wake-up of a submission waiter

The eventfd is never signaled while a fence lacks a signaler, and at most once. Whether
it is signaled at all is decided when `pending_fences` reaches 0: only a callback signals
it, and if all of them have run by then, none is left to do so.
-/

namespace GsKernel.Iif

open Lib.Runs WaitCall WaitState

variable {ι : Type} {array : List ι} {state next : WaitState ι} {event : WaitEvent ι}

/-- Once no callback is left, the eventfd has been signaled. -/
def Woken (array : List ι) (state : WaitState ι) : Prop :=
  state.pendingFences = 0 → state.cbList = [] → (∃ remaining ∈ state.reported, remaining ≠ 0) →
    (∀ fence ∈ array, state.failed fence = false) → state.signaled = 1

/-- No callback is left and the eventfd has not been signaled. -/
structure Lost (state : WaitState ι) : Prop where
  pending : state.pendingFences = 0
  empty : state.cbList = []
  unsignaled : state.signaled = 0

section

variable (active : Active array state)
include active

/-- A step that takes the last fence off `pending_fences`. -/
lemma Active.last_count {index : Nat} {remaining : Int}
    (call : state.call = .added index remaining) :
    state.pendingFences - 1 = 0 ↔ index + 1 = array.length := by
  have progress := active.progress
  simp only [call, counted] at progress
  omega

lemma Active.looked_all (none : state.pendingFences = 0) :
    state.call.looked array.length = array.length := by
  have progress := active.progress
  have inRange := active.inRange
  cases call : state.call <;> simp only [call, counted, looked, InRange] at progress inRange ⊢ <;>
    omega

/-- The eventfd waits for the signalers of every fence. -/
lemma Active.unsignaled_of_lacking {fence : ι}
    (mem : fence ∈ array) (lacks : (state.fences fence).unsubmittedSignalers ≠ 0) :
    state.signaled = 0 := by
  rcases active.quiet with unsignaled | ⟨-, none, empty⟩
  · exact unsignaled
  obtain ⟨index, found⟩ := List.mem_iff_getElem?.mp mem
  have inside : index < array.length := (List.getElem?_eq_some_iff.mp found).1
  have looked : index < state.call.looked array.length := by rwa [active.looked_all none]
  have waits := active.lacking index fence found looked lacks
  have listed := (active.added fence index waits).2.1
  simp [empty] at listed

/-- When all fences are done the list of the waiter is empty. -/
lemma Active.empty_of_completed
    (completed : state.Completed array) : state.pendingFences = 0 ∧ state.cbList = [] := by
  obtain ⟨call, -, done⟩ := completed
  have progress := active.progress
  simp only [call, WaitCall.counted] at progress
  refine ⟨by omega, List.eq_nil_iff_forall_not_mem.mpr fun index mem => ?_⟩
  rcases active.listed index mem with unadded | ⟨fence, waits⟩
  · simp [call, WaitCall.unadded] at unadded
  · obtain ⟨found, -⟩ := active.added fence index waits
    simp [(done fence (List.mem_of_getElem? found)).2.1] at waits

variable [DecidableEq ι]

/-- What a step of the call does to the waiter and the reports. -/
lemma callStep_effect {allocated : Bool} (ran : state.callStep array allocated = some next) :
    next.signaled = state.signaled ∧ next.failed = state.failed ∧
    ((∃ index remaining, state.call = .added index remaining ∧
        next.pendingFences = state.pendingFences - 1 ∧
        next.cbList = state.listAfter index remaining ∧
        next.reported = state.reported ++ [remaining]) ∨
      next.pendingFences = state.pendingFences ∧ next.reported = state.reported ∧
        (state.pendingFences = 0 → next.cbList = state.cbList)) := by
  have progress := active.progress
  have inRange := active.inRange
  unfold callStep at ran
  cases call : state.call with
  | next index =>
    simp only [call, counted] at ran progress
    split_ifs at ran with inside
    all_goals cases ran
    · exact ⟨rfl, rfl, Or.inr ⟨rfl, rfl, fun none => absurd none (by omega)⟩⟩
    · exact ⟨rfl, rfl, Or.inr ⟨rfl, rfl, fun _ => rfl⟩⟩
    · exact ⟨rfl, rfl, Or.inr ⟨rfl, rfl, fun _ => rfl⟩⟩
  | listed index =>
    simp only [call] at ran
    split at ran
    · cases ran
    · split_ifs at ran
      cases ran
      unfold addAllSignalerSubmittedCallback
      dsimp only
      split_ifs <;> exact ⟨rfl, rfl, Or.inr ⟨rfl, rfl, fun _ => rfl⟩⟩
  | added index remaining =>
    simp only [call] at ran
    cases ran
    exact ⟨rfl, rfl, Or.inl ⟨index, remaining, rfl, rfl, rfl, rfl⟩⟩
  | cancelling rest => simp [call, InRange] at inRange
  | returned ret => simp [call] at ran

/-- A timely step loses no wakeup. -/
lemma woken_step (timely : Timely array state event)
    (woken : Woken array state) (ran : waitStep array state event = some next) :
    Woken array next := by
  cases event <;> simp only [waitStep] at ran
  case call allocated =>
    obtain ⟨signaled, failed, ⟨index, remaining, call, pending, list, reported⟩ |
      ⟨pending, reported, list⟩⟩ := callStep_effect active ran
    · intro none empty lacking _
      simp only [Timely, call] at timely
      rw [pending, active.last_count call] at none
      rcases timely none with left | unreported
      · exact absurd (list ▸ empty) left
      · obtain ⟨found, inside, lacks⟩ := lacking
        exact absurd (unreported found (reported ▸ inside)) lacks
    · intro none
      rw [pending] at none
      rw [signaled, failed, reported, list none]
      exact woken none
  case submitSignaler fence =>
    split_ifs at ran
    cases ran
    exact woken
  case fire fence =>
    split_ifs at ran
    split at ran
    · cases ran
    · next index rest first =>
        cases ran
        obtain ⟨found, inList, -⟩ := active.added fence index (by simp [first])
        have unsignaled : state.signaled = 0 := by
          rcases active.quiet with unsignaled | ⟨-, -, empty⟩
          · exact unsignaled
          · simp [empty] at inList
        rw [allSignalerSubmitted, if_neg (by simp [active.active])]
        intro none empty _ whole
        dsimp only at none empty whole ⊢
        rw [if_pos ⟨none, empty, whole fence (List.mem_of_getElem? found)⟩, unsignaled]
  case destroy fence others =>
    split at ran
    · split_ifs at ran
      cases ran
      intro none empty lacking whole
      refine woken none empty lacking fun another mem => ?_
      have whole := whole another mem
      by_cases same : another = fence
      · subst same
        simp only [Function.update_self, Bool.or_eq_false_iff] at whole
        exact whole.1
      · simpa [same] using whole
    · cases ran

end

variable [DecidableEq ι]

lemma woken_reached (reached : Reached array state) (timely : Timely array state event)
    (woken : Woken array state) (ran : waitStep array state event = some next) :
    Woken array next := by
  rcases reached with active | abandoned
  · exact woken_step active timely woken ran
  · exact fun none => absurd none (abandoned_step abandoned ran).pending

/-- Nothing wakes the waiter any more. -/
lemma lost_step (reached : Reached array state) (lost : Lost state)
    (ran : waitStep array state event = some next) : Lost next := by
  obtain ⟨none, empty, unsignaled⟩ := lost
  have active : Active array state := reached.resolve_right fun abandoned => abandoned.pending none
  cases event <;> simp only [waitStep] at ran
  case call allocated =>
    obtain ⟨signaled, -, ⟨index, remaining, call, -⟩ | ⟨pending, -, list⟩⟩ :=
      callStep_effect active ran
    · have progress := active.progress
      have inRange := active.inRange
      simp only [call, counted, InRange] at progress inRange
      omega
    · exact ⟨pending ▸ none, (list none).trans empty, signaled.trans unsignaled⟩
  case submitSignaler fence =>
    split_ifs at ran
    cases ran
    exact ⟨none, empty, unsignaled⟩
  case fire fence =>
    split_ifs at ran
    split at ran
    · cases ran
    · next index rest first =>
        obtain ⟨-, inList, -⟩ := active.added fence index (by simp [first])
        simp [empty] at inList
  case destroy fence others =>
    split at ran
    · split_ifs at ran
      cases ran
      exact ⟨none, empty, unsignaled⟩
    · cases ran

/-- A call that counts its last fence when all its callbacks have run is not woken. -/
lemma untimely_step (reached : Reached array state) (untimely : ¬ Timely array state event)
    (ran : waitStep array state event = some next) : Lost next := by
  cases event with
  | call allocated =>
    obtain ⟨index, remaining, call⟩ : ∃ index remaining, state.call = .added index remaining := by
      cases call : state.call with
      | added index remaining => exact ⟨index, remaining, rfl⟩
      | _ => simp [Timely, call] at untimely
    have active : Active array state := by
      refine reached.resolve_right fun abandoned => ?_
      rcases abandoned.leaving with ⟨rest, leaving⟩ | leaving <;> simp [call] at leaving
    simp only [Timely, call, Classical.not_imp, not_or, not_not] at untimely
    obtain ⟨last, empty, -⟩ := untimely
    obtain rfl : _ = next := by simpa [waitStep, callStep, call] using ran
    refine ⟨(active.last_count call).mpr last, empty, active.unsignaled ?_⟩
    simp only [call, counted]
    omega
  | _ => exact absurd trivial untimely

/-- The eventfd is signaled exactly once by the time every fence is done if and only if
the call has counted its last fence in time, and not at all while a fence lacks a
signaler. -/
theorem eventfd_signaled (array : List ι) (fences : ι → Fence) (events : List (WaitEvent ι))
    (state : WaitState ι)
    (ran : events.foldlM (waitStep array) (waitStart array fences) = some state) :
    (state.Completed array → (state.signaled = 1 ↔
      Lib.Runs.AlongM (waitStep array) (Timely array) (waitStart array fences) events)) ∧
    ∀ fence ∈ array, (state.fences fence).unsubmittedSignalers ≠ 0 → state.signaled = 0 := by
  have start : Reached array (waitStart array fences) := Or.inl (active_waitStart array fences)
  have reached : Reached array state := foldlM_preserves (Reached array) (waitStep array)
    (fun _ _ _ reached stepped => reached_step reached stepped) events start ran
  refine ⟨fun completed => ⟨fun signaled => ?_, fun timely => ?_⟩, fun fence mem lacks => ?_⟩
  · by_contra left
    have lost := foldlM_broken (Reached array) Lost (waitStep array) (Timely array)
      (fun _ _ _ reached stepped => reached_step reached stepped)
      (fun _ _ _ reached untimely stepped => untimely_step reached untimely stepped)
      (fun _ _ _ reached lost stepped => lost_step reached lost stepped) events start left ran
    simp [lost.unsignaled] at signaled
  · have active : Active array state := by
      refine reached.resolve_right fun abandoned => ?_
      rcases abandoned.leaving with ⟨rest, leaving⟩ | leaving <;>
        simp [completed.1, ENOMEM] at leaving
    obtain ⟨-, woken⟩ := foldlM_invariant_along
      (fun state => Reached array state ∧ Woken array state) (waitStep array) (Timely array)
      (fun _ _ _ both timely stepped => ⟨reached_step both.1 stepped,
        woken_reached both.1 timely both.2 stepped⟩)
      events ⟨start, fun _ _ lacking => by simp [waitStart] at lacking⟩ timely ran
    obtain ⟨none, empty⟩ := active.empty_of_completed completed
    exact woken none empty completed.2.1 fun fence mem => (completed.2.2 fence mem).2.2
  · rcases reached with active | abandoned
    · exact active.unsignaled_of_lacking mem lacks
    · exact abandoned.unsignaled

/-- A fence that waits for one signaler. -/
def fenceOfOne : Fence :=
  initWithParams ⟨.singleShot, ⟨false, false, true⟩, false, 1, fun _ => false, false⟩

/-- The signaler of the first fence is submitted before the call has counted that fence, the one
of the second after the call has returned. -/
def firstRaces : List (WaitEvent Bool) :=
  [.call true, .call true, .submitSignaler false, .fire false, .call true, .call true, .call true,
    .call true, .call true, .submitSignaler true, .fire true]

/-- The signaler is submitted between the addition of the callback and the decrement of
`pending_fences`. -/
def submitBeforeCount : List (WaitEvent Unit) :=
  [.call true, .call true, .submitSignaler (), .fire (), .call true, .call true]

/-- The callback of the first fence runs before the call has counted it, and the second one is
submitted after the call has returned. -/
theorem eventfd_signaled_firstRaces :
    let run := firstRaces.foldlM (waitStep [false, true])
      (waitStart [false, true] fun _ => fenceOfOne)
    ∃ state, run = some state ∧ state.Completed [false, true] ∧ state.signaled = 1 ∧
      Lib.Runs.AlongM (waitStep [false, true]) (Timely [false, true])
        (waitStart [false, true] fun _ => fenceOfOne) firstRaces := by
  intro run
  obtain ⟨state, ran, completed, signaled⟩ := exists_reached
    (fun state : WaitState Bool => state.Completed [false, true] ∧ state.signaled = 1)
    (show run.any _ = true by decide +kernel)
  exact ⟨state, ran, completed, signaled,
    ((eventfd_signaled [false, true] _ firstRaces state ran).1 completed).mp signaled⟩

/-- All signalers are submitted and the waiter is never woken. -/
theorem eventfd_lost_wakeup :
    ∃ state, submitBeforeCount.foldlM (waitStep [()]) (waitStart [()] fun _ => fenceOfOne) =
        some state ∧
      state.Completed [()] ∧ state.signaled = 0 :=
  exists_reached (fun state : WaitState Unit => state.Completed [()] ∧ state.signaled = 0)
    (by decide +kernel)

end GsKernel.Iif
