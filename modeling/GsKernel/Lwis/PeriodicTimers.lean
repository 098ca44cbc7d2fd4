import GsKernel.Lwis.PeriodicIo

/-!
# Timers of periodic I/Os

A timer list with an active periodic I/O needs its timer armed. The callback of a timer decides
under the lock that none is active, but publishes the inactive state after it has released it. A
submission in between takes the timer for a running one.
-/

namespace GsKernel.Lwis

open Lib.Runs PeriodicClient

/-- The list of a timer contains an active periodic I/O. -/
def PeriodicClient.HasActive (client : PeriodicClient) (periodNs : Int) : Prop :=
  ∃ id io, client.ios id = some io ∧ io.periodNs = periodNs ∧ io.active = true

/-- What is to hold of a timer list whose callback is not mid-way. -/
def PeriodicClient.TimerRight (client : PeriodicClient) (periodNs : Int)
    (list : PeriodicIoList) : Prop :=
  (client.HasActive periodNs → list.armed = true) ∧
    (list.hrTimerState = .active ↔ list.armed = true)

/-- What the list of a timer keeps to, also while its callback is mid-way: a callback that is
going to stop the timer has found no active periodic I/O, and there still is none. -/
def PeriodicClient.TimerKept (client : PeriodicClient) (periodNs : Int)
    (list : PeriodicIoList) : Prop :=
  match list.callback with
  | none => client.TimerRight periodNs list
  | some true => list.hrTimerState = .active
  | some false => list.armed = false ∧ ¬client.HasActive periodNs

/-- The timers of a client. -/
structure PeriodicClient.TimersKept (client : PeriodicClient) : Prop where
  numbered : ∀ id io, client.ios id = some io → id < client.periodicIoCounter
  kept : ∀ periodNs list, client.timerList periodNs = some list → client.TimerKept periodNs list

variable {client next : PeriodicClient} {id : Nat} {io : PeriodicIo} {periodNs : Int}
  {list : PeriodicIoList}

lemma PeriodicClient.TimersKept.initial : initial.TimersKept where
  numbered := fun _ _ found => by cases found
  kept := fun _ _ found => by cases found

/-- Nothing becomes active, and the timers are as they were. -/
structure PeriodicClient.OnlyDeactivates (client next : PeriodicClient) : Prop where
  counter : next.periodicIoCounter = client.periodicIoCounter
  timers : next.timerList = client.timerList
  ios : ∀ id io, next.ios id = some io → ∃ before, client.ios id = some before ∧
    before.periodNs = io.periodNs ∧ (io.active = true → before.active = true)

/-- A timer list is kept when nothing becomes active in it. -/
lemma PeriodicClient.TimerKept.mono (kept : client.TimerKept periodNs list)
    (active : next.HasActive periodNs → client.HasActive periodNs) :
    next.TimerKept periodNs list := by
  unfold TimerKept at kept ⊢
  split at kept
  · exact ⟨fun found => kept.1 (active found), kept.2⟩
  · exact kept
  · exact ⟨kept.1, mt active kept.2⟩

lemma PeriodicClient.TimersKept.deactivate (timers : client.TimersKept)
    (only : client.OnlyDeactivates next) : next.TimersKept := by
  refine ⟨fun id io found => ?_, fun periodNs list found => ?_⟩
  · obtain ⟨before, had, -⟩ := only.ios id io found
    exact only.counter ▸ timers.numbered id before had
  · refine (timers.kept periodNs list (only.timers ▸ found)).mono ?_
    rintro ⟨id, io, found, period, active⟩
    obtain ⟨before, had, same, was⟩ := only.ios id io found
    exact ⟨id, before, had, same.trans period, was active⟩

/-- A change of one periodic I/O that keeps its period and does not activate it. -/
lemma onlyDeactivates_setIo {after : PeriodicIo} (found : client.ios id = some io)
    (changed : next.ios = Function.update client.ios id (some after))
    (counter : next.periodicIoCounter = client.periodicIoCounter)
    (timers : next.timerList = client.timerList) (period : io.periodNs = after.periodNs)
    (active : after.active = true → io.active = true) : client.OnlyDeactivates next := by
  refine ⟨counter, timers, fun other later had => ?_⟩
  rw [changed] at had
  by_cases same : other = id
  · subst same
    rw [Function.update_self] at had
    cases had
    exact ⟨io, found, period, active⟩
  · rw [Function.update_of_ne same] at had
    exact ⟨later, had, rfl, fun active => active⟩

/-- A change that leaves the periodic I/Os and the timers alone. -/
lemma onlyDeactivates_same (ios : next.ios = client.ios)
    (counter : next.periodicIoCounter = client.periodicIoCounter)
    (timers : next.timerList = client.timerList) : client.OnlyDeactivates next :=
  ⟨counter, timers, fun _ io had => ⟨io, ios ▸ had, rfl, fun active => active⟩⟩

lemma onlyDeactivates_cancel (client : PeriodicClient) (id : Nat) :
    client.OnlyDeactivates (client.cancel id) := by
  unfold cancel
  cases found : client.ios id with
  | none => exact onlyDeactivates_same rfl rfl rfl
  | some io => exact onlyDeactivates_setIo found rfl rfl rfl rfl (by simp)

/-- Neither a wait nor the worker activates anything. -/
lemma onlyDeactivates_step {step : PeriodicStep} (ran : client.step step = some next)
    (untimed : ∀ periodNs, (∀ allocated, step ≠ .submit periodNs allocated) ∧
      (∀ allocated, step ≠ .expire periodNs allocated) ∧ step ≠ .callbackEnd periodNs) :
    client.OnlyDeactivates next := by
  cases step with
  | submit periodNs allocated => exact absurd rfl ((untimed periodNs).1 allocated)
  | expire periodNs allocated => exact absurd rfl ((untimed periodNs).2.1 allocated)
  | callbackEnd periodNs => exact absurd rfl (untimed periodNs).2.2
  | cancel id =>
    cases ran
    exact onlyDeactivates_cancel client id
  | waited id =>
    obtain ⟨io, found, -, -, rfl⟩ := waited_cases ran
    exact onlyDeactivates_setIo found rfl rfl rfl rfl (fun active => active)
  | take =>
    obtain ⟨-, id, rest, -, rfl | rfl⟩ := take_cases ran
    all_goals exact onlyDeactivates_same rfl rfl rfl
  | reinit =>
    obtain ⟨id, io, -, found, rfl⟩ := reinit_cases ran
    exact onlyDeactivates_setIo found rfl rfl rfl rfl (fun active => active)
  | complete error =>
    obtain ⟨id, io, -, found, rfl⟩ := complete_cases ran
    exact onlyDeactivates_setIo found rfl rfl rfl rfl (fun active => active)
  | settle =>
    obtain ⟨id, io, -, found, rfl⟩ := settle_cases ran
    exact onlyDeactivates_setIo found rfl rfl rfl rfl
      (fun active => (Bool.and_eq_true_iff.mp active).1)

/-! ## Submissions and the callback -/

/-- A submission comes while the callback of its timer is about to stop it. -/
def PeriodicClient.InWindow (client : PeriodicClient) (periodNs : Int) : Prop :=
  ∃ list, client.timerList periodNs = some list ∧ list.callback = some false

/-- A list found by a submission outside that window is armed afterwards, whatever is active
in it. -/
lemma PeriodicClient.TimerKept.restart (kept : client.TimerKept periodNs list)
    (going : list.callback ≠ some false) : next.TimerKept periodNs list.restart := by
  obtain ⟨state, armed, callback⟩ := list
  cases callback with
  | none =>
    obtain ⟨-, state_iff⟩ : client.TimerRight periodNs _ := kept
    cases state with
    | active => exact ⟨fun _ => state_iff.mp rfl, state_iff⟩
    | inactive => exact ⟨fun _ => rfl, by simp [PeriodicIoList.restart]⟩
  | some present =>
    cases present with
    | true =>
      have running : state = .active := kept
      subst running
      exact rfl
    | false => exact absurd rfl going

/-- A new periodic I/O is active in no other list. -/
lemma hasActive_queuePeriodicIo {other : Int} (ne : other ≠ periodNs)
    (active : (client.queuePeriodicIo periodNs list).HasActive other) : client.HasActive other := by
  obtain ⟨id, io, found, period, active⟩ := active
  by_cases fresh : id = client.periodicIoCounter
  · subst fresh
    rw [queuePeriodicIo_new] at found
    cases found
    exact absurd period.symm ne
  · rw [queuePeriodicIo_old _ _ _ fresh] at found
    exact ⟨id, io, found, period, active⟩

section

variable (timers : client.TimersKept)
include timers

namespace PeriodicClient.TimersKept

/-- A periodic I/O is queued with a timer list that is right whatever is active. -/
lemma queue (right : (client.queuePeriodicIo periodNs list).TimerKept periodNs list) :
    (client.queuePeriodicIo periodNs list).TimersKept := by
  refine ⟨fun id io found => ?_, fun other found had => ?_⟩
  · by_cases fresh : id = client.periodicIoCounter
    · exact fresh ▸ Nat.lt_succ_self client.periodicIoCounter
    · rw [queuePeriodicIo_old _ _ _ fresh] at found
      exact Nat.lt_succ_of_lt (timers.numbered id io found)
  · by_cases same : other = periodNs
    · subst same
      obtain rfl := Option.some.inj ((client.setList_self other list).symm.trans had)
      exact right
    · have old := (client.setList_of_ne same list).symm.trans had
      exact (timers.kept other found old).mono (hasActive_queuePeriodicIo same)

lemma submit (outside : ¬client.InWindow periodNs) (listAllocated : Bool) :
    (client.submit periodNs listAllocated).TimersKept := by
  unfold PeriodicClient.submit
  cases found : client.timerList periodNs with
  | some list =>
    exact timers.queue ((timers.kept periodNs list found).restart
      fun stopping => outside ⟨list, found, stopping⟩)
  | none =>
    cases listAllocated with
    | true =>
      have right : (client.queuePeriodicIo periodNs .create).TimerKept periodNs .create :=
        ⟨fun _ => rfl, by simp [PeriodicIoList.create]⟩
      exact timers.queue right
    | false => exact timers

/-- The list of one timer is changed, and nothing is activated. -/
lemma setList (right : client.TimerKept periodNs list) :
    (client.setList periodNs list).TimersKept := by
  refine ⟨timers.numbered, fun other found had => ?_⟩
  by_cases same : other = periodNs
  · subst same
    obtain rfl := Option.some.inj ((client.setList_self other list).symm.trans had)
    exact right
  · exact timers.kept other found ((client.setList_of_ne same list).symm.trans had)

section

variable {proxyAllocated : Nat → Bool} (allocated : ∀ id < client.periodicIoCounter,
  proxyAllocated id = true)
include allocated

/-- When every proxy can be allocated, an expiry queues nothing only if nothing is active. -/
lemma queued_isEmpty (empty : (client.queued periodNs proxyAllocated).isEmpty = true) :
    ¬client.HasActive periodNs := by
  rintro ⟨id, io, found, period, active⟩
  have mem : id ∈ client.queued periodNs proxyAllocated := by
    have numbered := timers.numbered id io found
    refine List.mem_filter.mpr ⟨List.mem_range.mpr numbered, ?_⟩
    simp [found, period, active, allocated id numbered]
  rw [List.isEmpty_iff.mp empty] at mem
  cases mem

/-- The expiry of a timer keeps the timers. -/
lemma expire (ran : client.expire periodNs proxyAllocated = some next) : next.TimersKept := by
  obtain ⟨list, found, armed, free, rfl⟩ := expire_cases ran
  have right : client.TimerRight periodNs list := by
    have kept := timers.kept periodNs list found
    rwa [TimerKept, free] at kept
  have expired : client.TimerKept periodNs { list with
      armed := false
      callback := some !(client.queued periodNs proxyAllocated).isEmpty } := by
    cases empty : (client.queued periodNs proxyAllocated).isEmpty with
    | true => exact ⟨rfl, timers.queued_isEmpty allocated empty⟩
    | false => exact right.2.mpr armed
  have set := timers.setList expired
  exact ⟨set.numbered, set.kept⟩

end

/-- The end of a callback keeps the timers. -/
lemma callbackEnd (ran : client.callbackEnd periodNs = some next) : next.TimersKept := by
  obtain ⟨list, found, ⟨present, rfl⟩ | ⟨absent, rfl⟩⟩ := callbackEnd_cases ran
  · have kept := timers.kept periodNs list found
    rw [TimerKept, present] at kept
    exact timers.setList ⟨fun _ => rfl, fun _ => rfl, fun _ => kept⟩
  · have kept := timers.kept periodNs list found
    rw [TimerKept, absent] at kept
    exact timers.setList ⟨fun active => absurd active kept.2, by simp [kept.1]⟩

end PeriodicClient.TimersKept

end

/-- A step whose proxies can be allocated and that does not submit a periodic I/O while the
callback of its timer is about to stop it. -/
def PeriodicClient.OutsideWindow (client : PeriodicClient) : PeriodicStep → Prop
  | .submit periodNs _ => ¬client.InWindow periodNs
  | .expire _ proxyAllocated => ∀ id < client.periodicIoCounter, proxyAllocated id = true
  | .cancel _ | .waited _ | .callbackEnd _ | .take | .reinit | .complete _ | .settle => True

instance PeriodicClient.instDecidableInWindow (client : PeriodicClient) (periodNs : Int) :
    Decidable (client.InWindow periodNs) :=
  match found : client.timerList periodNs with
  | none => .isFalse fun ⟨_, had, _⟩ => by cases found.symm.trans had
  | some list =>
    decidable_of_iff (list.callback = some false)
      ⟨fun stopping => ⟨list, found, stopping⟩, fun ⟨other, had, stopping⟩ =>
        Option.some.inj (found.symm.trans had) ▸ stopping⟩

instance PeriodicClient.instDecidableOutsideWindow (client : PeriodicClient)
    (step : PeriodicStep) : Decidable (client.OutsideWindow step) :=
  match step with
  | .submit periodNs _ => inferInstanceAs (Decidable (¬client.InWindow periodNs))
  | .expire _ proxyAllocated =>
    inferInstanceAs (Decidable (∀ id < client.periodicIoCounter, proxyAllocated id = true))
  | .cancel _ | .waited _ | .callbackEnd _ | .take | .reinit | .complete _ | .settle =>
    .isTrue trivial

/-- Every step outside the window keeps the timers. -/
lemma PeriodicClient.TimersKept.step (timers : client.TimersKept) {step : PeriodicStep}
    (outside : client.OutsideWindow step) (ran : client.step step = some next) :
    next.TimersKept := by
  cases step with
  | submit periodNs listAllocated =>
    cases ran
    exact timers.submit outside listAllocated
  | expire periodNs proxyAllocated => exact timers.expire outside ran
  | callbackEnd periodNs => exact timers.callbackEnd ran
  | cancel id | waited id | take | reinit | complete error | settle =>
    exact timers.deactivate (onlyDeactivates_step ran (by simp))

/-- In every run whose submissions stay outside the window, a timer list whose callback is not
mid-way has its timer armed if it contains an active periodic I/O, and its state says whether
the timer is armed. -/
theorem periodic_io_timer_armed (steps : List PeriodicStep) {client : PeriodicClient}
    (ran : steps.foldlM step .initial = some client)
    (outside : Lib.Runs.AlongM step OutsideWindow .initial steps) :
    ∀ periodNs list, client.timerList periodNs = some list → list.callback = none →
      client.TimerRight periodNs list := by
  have timers : client.TimersKept := foldlM_invariant_along TimersKept step OutsideWindow
    (fun _ _ _ timers outside stepped => timers.step outside stepped) steps .initial outside ran
  intro periodNs list found free
  have kept := timers.kept periodNs list found
  rwa [TimerKept, free] at kept

/-- A periodic I/O is cancelled, its timer stops, and a second one starts it again. -/
def restartedTimer (periodNs : Int) : List PeriodicStep :=
  [.submit periodNs true, .expire periodNs fun _ => true, .callbackEnd periodNs, .cancel 0,
    .expire periodNs fun _ => true, .callbackEnd periodNs, .submit periodNs true]

/-- The timer that has stopped and is started again is armed. -/
theorem periodic_io_timer_armed_restarted :
    ∃ client, (restartedTimer 5).foldlM step .initial = some client ∧
      client.timerList 5 = some ⟨.active, true, none⟩ ∧
      client.TimerRight 5 ⟨.active, true, none⟩ := by
  obtain ⟨client, ran, found⟩ : ∃ client, (restartedTimer 5).foldlM step .initial = some client ∧
        client.timerList 5 = some ⟨.active, true, none⟩ :=
    exists_reached _ (by decide +kernel)
  exact ⟨client, ran, found, periodic_io_timer_armed (restartedTimer 5) ran
    (alongM_of_check (by decide +kernel)) 5 _ found rfl⟩

/-- The callback of a timer finds nothing active, a periodic I/O is submitted, and the callback
then stops the timer: the periodic I/O is active and its timer is not armed. -/
theorem periodic_io_timer_missed :
    ∃ client, [.submit 5 true, .cancel 0, .expire 5 fun _ => true, .submit 5 true,
        .callbackEnd 5].foldlM step .initial = some client ∧
      client.timerList 5 = some ⟨.inactive, false, none⟩ ∧
      client.ios 1 = some ⟨5, true, 0, 1, 0⟩ ∧
      ¬client.TimerRight 5 ⟨.inactive, false, none⟩ := by
  obtain ⟨client, ran, found, active⟩ : ∃ client,
      [.submit 5 true, .cancel 0, .expire 5 fun _ => true, .submit 5 true,
        .callbackEnd 5].foldlM step .initial = some client ∧
      client.timerList 5 = some ⟨.inactive, false, none⟩ ∧ client.ios 1 = some ⟨5, true, 0, 1, 0⟩ :=
    exists_reached _ (by decide +kernel)
  refine ⟨client, ran, found, active, fun right => ?_⟩
  have armed := right.1 ⟨1, _, active, rfl, rfl⟩
  cases armed

end GsKernel.Lwis
