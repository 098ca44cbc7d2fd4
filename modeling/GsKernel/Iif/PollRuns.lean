import GsKernel.Iif.PollCalls

/-!
# Runs of a polled single-shot fence

The destruction settles the last callbacks if polling is not disabled and the fence counts as
signaled. It sees to the latter itself while a signaler is missing. When all have signaled it
trusts the sync-unit to have reported; a direct fence always has.
-/

namespace GsKernel.Iif

open Lib.Tasks Lib.Runs PollState Polled

variable {κ : Type*} [DecidableEq κ]

section Steps

variable {polled next : Polled κ} {event : PollEvent κ}

lemma alive_of_step {system after : System} {event : Event} (retiring : Retiring system)
    (referenced : Referenced system event) (stepped : step system event = some after)
    (alive : after.shared.destroyed = false) : system.shared.destroyed = false := by
  by_contra gone
  have destroyed : system.shared.destroyed = true := by simpa using gone
  have dead := (retiring.dead destroyed).2
  cases event with
  | run index choice =>
    obtain ⟨task, others, rest, -, ran, picked, -⟩ := Pool.run_eq_some stepped
    have mem : task ∈ system.tasks := picked.mem_iff.mpr List.mem_cons_self
    obtain ⟨locks, rfl⟩ := (dead.releases task mem).eq_releasing
    exact gone ((releasing_fence ran).2.symm.trans alive)
  | startWork => simp [step, dead.idle] at stepped
  | _ => simp_all [Referenced]

/-- The invariant of the runs of a polled single-shot fence. -/
structure PollSettled (params : FenceParams) (polled : Polled κ) : Prop where
  callbacks : CallbacksOnce polled
  retiring : Retiring polled.system
  reported : polled.destroyed = false → params.flags.direct = true → SignalsReported polled

omit [DecidableEq κ] in
/-- What leaves the fence and its direct fence alone keeps what was reported. -/
lemma SignalsReported.poll {poll : PollState κ} (reported : SignalsReported polled)
    (signaled : poll.signaled = polled.poll.signaled)
    (empty : polled.fence.remainingSignalers = 0 → poll.pollCbList = []) :
    SignalsReported { polled with poll := poll } where
  direct := reported.direct
  counted := reported.counted
  unneeded := fun none => ⟨(reported.unneeded none).1, empty none⟩
  reported := by simpa only [fence, signaled] using reported.reported
  present := reported.present
  follows := by simpa only [fence, signaled] using reported.follows

omit [DecidableEq κ] in
lemma signaled_addPollCallback (poll : PollState κ) (fence : Fence) (callback : κ) :
    (poll.addPollCallback fence callback).2.signaled = poll.signaled := by
  unfold addPollCallback
  split <;> rfl

lemma signaled_removePollCallback (poll : PollState κ) (callback : κ) :
    (poll.removePollCallback callback).2.signaled = poll.signaled := by
  unfold removePollCallback
  split <;> rfl

omit [DecidableEq κ] in
/-- A fence without signalers refuses callbacks. -/
lemma SignalsReported.refuses (reported : SignalsReported polled)
    (none : polled.fence.remainingSignalers = 0) (callback : κ) :
    (polled.poll.addPollCallback polled.fence callback).2.pollCbList = [] := by
  simp [addPollCallback, reported.finished none, (reported.unneeded none).2]

omit [DecidableEq κ] in
lemma SignalsReported.firmware {entry : SignalEntry} (reported : SignalsReported polled)
    (lowered : ∀ direct, polled.direct = some direct →
      entry.remainingSignals ≤ direct.entry.remainingSignals) :
    SignalsReported { polled with
      direct := polled.direct.map fun direct => { direct with entry := entry } } where
  direct := reported.direct
  counted := reported.counted
  unneeded := reported.unneeded
  reported := reported.reported
  present := fun unretired => by simpa using reported.present unretired
  follows := by
    intro written found
    obtain ⟨direct, present, rfl⟩ := Option.map_eq_some_iff.mp found
    obtain ⟨fenceType, remaining, table, timeline, done, on⟩ := reported.follows direct present
    exact ⟨fenceType, remaining, (lowered direct present).trans table, timeline, done, on⟩

lemma pollSettled_call {params : FenceParams} {event : Event} (settled : PollSettled params polled)
    (permitted : Permitted polled (.call event))
    (stepped : pollStep polled (.call event) = some next) : PollSettled params next := by
  obtain ⟨system, ran, rfl⟩ := Option.map_eq_some_iff.mp stepped
  obtain ⟨referenced, operator⟩ := permitted
  obtain ⟨singleShot, once⟩ := callbacksOnce_call settled.callbacks ran
  have safe : SyncPointSafe polled.system event := by
    cases event with
    | addSyncPoint timeline count ret =>
      exact .inr (.inl (by
        have single : polled.system.shared.fence.fenceType = .singleShot :=
          settled.callbacks.singleShot
        simp [single]))
    | _ => trivial
  have retiring := retiring_step settled.retiring safe
    ((if_pos referenced).trans ran : referencedStep polled.system event = some system)
  refine ⟨⟨singleShot, once⟩, retiring, fun alive direct => ?_⟩
  have before := alive_of_step settled.retiring referenced ran alive
  refine signalsReported_call (settled.reported before direct) settled.callbacks.singleShot
    (settled.retiring.coherent before) (fun direct found => ?_) ?_ ran
  · have held := operator
    rw [found] at held
    exact (Bool.and_eq_true_iff.mp held).2
  · rintro callbacks rfl
    rw [← Option.some.inj ran] at alive
    cases alive

/-- Every permitted step keeps the accounts of callbacks. -/
lemma pollSettled_step {params : FenceParams} (settled : PollSettled params polled)
    (ran : permittedStep polled event = some next) : PollSettled params next := by
  unfold permittedStep at ran
  split at ran
  case isFalse => cases ran
  case isTrue permitted =>
    obtain ⟨⟨singleShot, once⟩, retiring, reported⟩ := settled
    cases event with
    | call event =>
      exact pollSettled_call ⟨⟨singleShot, once⟩, retiring, reported⟩ permitted ran
    | addPollCallback callback =>
      cases ran
      refine ⟨⟨singleShot, once_addPollCallback once singleShot permitted.2⟩, retiring,
        fun alive direct => ?_⟩
      refine (reported alive direct).poll (signaled_addPollCallback _ _ callback) fun none => ?_
      exact (reported alive direct).refuses none callback
    | removePollCallback callback =>
      cases ran
      refine ⟨⟨singleShot, once_removePollCallback once callback⟩, retiring, fun alive direct => ?_⟩
      refine (reported alive direct).poll (signaled_removePollCallback _ callback) fun none => ?_
      simp [removePollCallback, ((reported alive direct).unneeded none).2]
    | report status =>
      cases ran
      refine ⟨⟨singleShot, ?_⟩, retiring, fun alive direct => ?_⟩
      · have after := once_pollCbFuncLocked once status
        rw [← singleShot] at after
        exact after
      · -- the callback of a direct fence is only invoked by its own operators
        exact absurd ((reported alive direct).direct.symm.trans permitted.2.1) (by decide)
    | firmware entry =>
      cases ran
      refine ⟨⟨singleShot, once⟩, retiring, fun alive direct => ?_⟩
      refine (reported alive direct).firmware fun direct found => ?_
      have lowered := permitted.2.2
      rw [found] at lowered
      exact of_decide_eq_true lowered

end Steps

lemma pollSettled_initial (params : FenceParams) (timeout : Nat)
    (singleShot : params.fenceType = .singleShot) :
    PollSettled params (Polled.initial params timeout : Polled κ) where
  callbacks := by
    refine ⟨singleShot, ⟨fun _ => rfl, fun _ => ?_, ?_⟩, fun _ _ => rfl, fun _ => .inl rfl⟩
    · exact Nat.zero_le 1
    · simp [Polled.initial]
  retiring := retiring_initial params
  reported := by
    intro _ direct
    have signals : (Polled.initial params timeout : Polled κ).fence.signals = 0 := rfl
    refine ⟨direct, Nat.le_refl _, fun _ => ⟨signals, rfl⟩, fun enough => ?_, fun _ => ?_, ?_⟩
    · exact .inl (Nat.le_zero.mp (signals ▸ enough))
    · simp [Polled.initial, direct]
    · intro created found
      obtain rfl : directFenceCreate params.fenceType params.remainingSignalers timeout = created := by
        simpa [Polled.initial, direct] using found
      refine ⟨singleShot, rfl, ?_, ?_, fun enough => .inl ?_, .inl rfl⟩
      · rw [signals]
        simp [directFenceCreate, singleShot, Polled.fence, Polled.initial, initial, initWithParams]
      · simp [directFenceCreate, signals]
      · simpa [directFenceCreate, Polled.fence, Polled.initial, initial, initWithParams] using enough

lemma pollSettled_foldlM (params : FenceParams) (timeout : Nat)
    (singleShot : params.fenceType = .singleShot) (events : List (PollEvent κ)) (polled : Polled κ)
    (ran : events.foldlM permittedStep (.initial params timeout) = some polled) :
    PollSettled params polled :=
  foldlM_preserves (PollSettled params) permittedStep
    (fun _ _ _ settled stepped => pollSettled_step settled stepped) events
    (pollSettled_initial params timeout singleShot) ran

/-- A destroyed fence that counts as signaled and allows polling has no callback left. -/
lemma PollSettled.destroyed {params : FenceParams} {polled final : Polled κ} {callbacks : Bool}
    (settled : PollSettled params polled)
    (ran : permittedStep polled (.call (.destroy callbacks)) = some final)
    (enabled : polled.fence.flags.disablePoll = false)
    (signaled : params.flags.direct = true ∨ polled.poll.signaled = true ∨
      polled.fence.allSignalersSignaled = false) : final.poll.pollCbList = [] := by
  have singleShot := settled.callbacks.singleShot
  have once := once_destroyLocked settled.callbacks.once singleShot polled.timeout
  have poll : final.poll = polled.poll.destroyLocked polled.fence polled.timeout ∧
      polled.destroyed = false := by
    unfold permittedStep at ran
    split at ran
    · next permitted =>
        cases ran
        exact ⟨rfl, permitted.1.1⟩
    · cases ran
  rw [poll.1]
  have notified : (polled.poll.signaled || !polled.fence.allSignalersSignaled) = true →
      (polled.poll.destroyLocked polled.fence polled.timeout).pollCbList = [] := by
    rw [← signaled_destroyLocked singleShot polled.timeout]
    intro signaled
    exact (once.notified signaled).resolve_right (by simp [enabled])
  rcases signaled with direct | signaled | missing
  · have reported := settled.reported poll.2 direct
    cases finished : polled.fence.allSignalersSignaled with
    | false => exact notified (by simp [finished])
    | true =>
      -- every counted signaler has signaled, and the last one was reported
      have counts : polled.fence.signaledSignalers + total Task.counts polled.system.tasks ≤
        polled.fence.signals := reported.counted
      have all := of_decide_eq_true finished
      rcases reported.reported (by omega) with none | signaled
      · rw [destroyLocked, if_pos finished, singleShot]
        exact empty_notifyPollCbLocked (reported.unneeded none).2
      · exact notified (by simp [signaled])
  · exact notified (by simp [signaled])
  · exact notified (by simp [missing])

/-- In every state reached by a single-shot fence its callbacks have been invoked on a
signaled fence that allows polling, no callback more than once, and each registration is
removed, invoked or waiting. The destruction invokes the callbacks that wait, if polling
is not disabled and the fence is direct, or reported as signaled, or lacks a signal. -/
theorem pollCallbacks_foldlM (params : FenceParams) (timeout : Nat)
    (singleShot : params.fenceType = .singleShot) (events : List (PollEvent κ)) (polled : Polled κ)
    (ran : events.foldlM permittedStep (.initial params timeout) = some polled) :
    (∀ record ∈ polled.poll.log, record.Timely) ∧
    (∀ callback, polled.poll.invoked callback ≤ 1 ∧
      polled.poll.accepted callback = polled.poll.removed callback +
        polled.poll.invoked callback + polled.poll.pollCbList.count callback) ∧
    ∀ callbacks final, permittedStep polled (.call (.destroy callbacks)) = some final →
      (∀ record ∈ final.poll.log, record.Timely) ∧
      (∀ callback, final.poll.invoked callback ≤ 1) ∧
      (polled.fence.flags.disablePoll = false →
        (params.flags.direct = true ∨ polled.poll.signaled = true ∨
          polled.fence.allSignalersSignaled = false) →
        ∀ callback, final.poll.accepted callback =
          final.poll.removed callback + final.poll.invoked callback) := by
  have settled := pollSettled_foldlM params timeout singleShot events polled ran
  have once := settled.callbacks.once
  refine ⟨once.timely, fun callback => ⟨?_, once.balance callback⟩, fun callbacks final stepped => ?_⟩
  · exact (Nat.le_add_right _ _).trans (once.single callback)
  · have after := (pollSettled_step settled stepped).callbacks.once
    refine ⟨after.timely, fun callback => (Nat.le_add_right _ _).trans (after.single callback),
      fun enabled signaled callback => ?_⟩
    have balance := after.balance callback
    rw [settled.destroyed stepped enabled signaled] at balance
    simpa using balance

/-- A single-shot fence with one signaler, a driver. -/
def singleShotFence (flags : Flags) : FenceParams where
  fenceType := .singleShot
  flags := flags
  syncPoints := false
  remainingSignalers := 1
  waiters := fun _ => false
  signalerIsAp := true

/-- Two callbacks come, one goes, and the direct fence is destroyed without a signal. -/
theorem pollCallbacks_unsignaled : ∃ polled final : Polled Nat,
      [PollEvent.addPollCallback 7, .addPollCallback 8, .removePollCallback 8].foldlM permittedStep
        (.initial (singleShotFence ⟨false, false, true⟩) 0) = some polled ∧
      permittedStep polled (.call (.destroy false)) = some final ∧
      final.poll.accepted 7 = 1 ∧ final.poll.removed 7 = 0 ∧ final.poll.invoked 7 = 1 := by
  obtain ⟨polled, ran, stepped, enabled⟩ := exists_reached
    (fun polled : Polled Nat => (permittedStep polled (.call (.destroy false))).any (fun final =>
      decide (final.poll.accepted 7 = 1 ∧ final.poll.removed 7 = 0)) = true ∧
      polled.fence.flags.disablePoll = false)
    (show (([PollEvent.addPollCallback 7, .addPollCallback 8, .removePollCallback 8] :
      List (PollEvent Nat)).foldlM permittedStep
      (.initial (singleShotFence ⟨false, false, true⟩) 0)).any _ = true by decide +kernel)
  obtain ⟨final, destroyed, accepted, removed⟩ := exists_reached
    (fun final : Polled Nat => final.poll.accepted 7 = 1 ∧ final.poll.removed 7 = 0) stepped
  have balance := ((pollCallbacks_foldlM _ 0 rfl _ polled ran).2.2 false final destroyed).2.2
    enabled (.inl rfl) 7
  exact ⟨polled, final, ran, destroyed, accepted, removed, by omega⟩

/-- A callback is lost when polling is disabled at the destruction, and when the one
signaler of a fence of another sync-unit completes without a report. -/
theorem pollCallbacks_lost : (∃ final : Polled Nat,
      [PollEvent.addPollCallback 7, .call (.destroy false)].foldlM permittedStep
        (.initial (singleShotFence ⟨false, true, true⟩) 0) = some final ∧
      final.destroyed = true ∧ final.fence.flags.disablePoll = true ∧
      final.poll.accepted 7 = 1 ∧ final.poll.removed 7 = 0 ∧ final.poll.invoked 7 = 0) ∧
    (∃ final : Polled Nat,
      [PollEvent.addPollCallback 7, .call .submitSignaler, .call (.run 0 .proceed),
        .call (.signalerCompleted false), .call (.run 0 .proceed), .call (.run 0 .proceed),
        .call (.run 0 .proceed), .call (.destroy false)].foldlM permittedStep
        (.initial (singleShotFence ⟨false, false, false⟩) 0) = some final ∧
      final.destroyed = true ∧ final.fence.flags.disablePoll = false ∧
      final.poll.accepted 7 = 1 ∧ final.poll.removed 7 = 0 ∧ final.poll.invoked 7 = 0) :=
  ⟨exists_reached _ (by decide +kernel), exists_reached _ (by decide +kernel)⟩

end GsKernel.Iif
