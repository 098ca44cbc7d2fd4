import GsKernel.Iif.PollCalls
import GsKernel.Iif.SyncPoints

/-!
# Notifications of a direct reusable fence

In every run on a direct reusable fence that the AP signals without an error, the
reports of `iif-direct.c` reach the callbacks of the fence: `iif_fence_poll_cb_func_locked`
filters by the timeline once more, but what is due always carries a later one.
-/

namespace GsKernel.Iif

open DirectFence Fence PollState Polled List Option

variable {κ : Type*}

/-- The timeline of the last report in a log; none is before the first value. -/
def lastReport (log : List (PollRecord κ)) : Int :=
  log.foldl (fun last record =>
    match record with
    | .reported status => status.timeline
    | _ => last) (-1)

lemma lastReport_reported (log : List (PollRecord κ)) (status : Status) :
    lastReport (log ++ [.reported status]) = status.timeline := by
  simp [lastReport]

/-- Other records keep the last report. -/
lemma lastReport_append (log : List (PollRecord κ)) {records : List (PollRecord κ)}
    (others : ∀ record ∈ records, ∀ status, record ≠ .reported status) :
    lastReport (log ++ records) = lastReport log := by
  induction records using reverseRecOn with
  | nil => rw [append_nil]
  | append_singleton records record ih =>
    obtain ⟨before, last⟩ := forall_mem_append.mp others
    rw [← ih before, ← append_assoc]
    cases record with
    | reported status => exact absurd rfl (last _ mem_cons_self status)
    | _ => simp [lastReport]

namespace PollState

variable {poll next : PollState κ} {flags : Flags} {status : Status}

/-- What a report leads to when it is passed on: the status is stored, and the callbacks
are invoked, unless polling is disabled. -/
structure Notified (poll next : PollState κ) (flags : Flags) (status : Status) : Prop where
  timeline : next.timeline = status.timeline
  error : next.signalError = status.error
  log : next.log = poll.log ++ .reported status ::
    if flags.disablePoll then [] else poll.invocations flags poll.pollCbList
  pended : next.pollCbPended = flags.disablePoll

/-- Nothing has been reported. -/
structure SameStatus (poll next : PollState κ) : Prop where
  timeline : next.timeline = poll.timeline
  error : next.signalError = poll.signalError
  last : lastReport next.log = lastReport poll.log

lemma invocations_others (poll : PollState κ) (flags : Flags) (callbacks : List κ) :
    ∀ record ∈ poll.invocations flags callbacks, ∀ status, record ≠ .reported status := by
  simp [invocations]

lemma Notified.last (notified : Notified poll next flags status) :
    lastReport next.log = status.timeline := by
  rw [notified.log, append_cons, lastReport_append, lastReport_reported]
  split
  · exact forall_mem_nil _
  · exact invocations_others poll flags poll.pollCbList

section

variable (poll)

lemma sameStatus_notifyPollCbLocked (flags : Flags) :
    SameStatus poll (poll.notifyPollCbLocked .reusable flags) := by
  unfold notifyPollCbLocked
  split
  · exact ⟨rfl, rfl, rfl⟩
  · exact ⟨rfl, rfl, lastReport_append _ (invocations_others poll flags _)⟩

lemma sameStatus_setFlags {fence : Fence}
    (reusable : fence.fenceType = .reusable) (flags : Flags) (clear : Bool) :
    SameStatus poll (poll.setFlags fence flags clear) := by
  unfold setFlags
  dsimp only
  split
  · rw [fenceType_setFlags, reusable]
    exact sameStatus_notifyPollCbLocked poll _
  · exact ⟨rfl, rfl, rfl⟩

lemma sameStatus_addPollCallback (fence : Fence) (callback : κ) :
    SameStatus poll (poll.addPollCallback fence callback).2 := by
  unfold addPollCallback
  split
  · exact ⟨rfl, rfl, rfl⟩
  · refine ⟨rfl, rfl, lastReport_append _ (forall_mem_cons.mpr ⟨by simp, ?_⟩)⟩
    split
    · exact invocations_others poll fence.flags [callback]
    · exact forall_mem_nil _

lemma sameStatus_removePollCallback [DecidableEq κ] (callback : κ) :
    SameStatus poll (poll.removePollCallback callback).2 := by
  unfold removePollCallback
  split
  · exact ⟨rfl, rfl, lastReport_append _ (by simp)⟩
  · exact ⟨rfl, rfl, rfl⟩

/-- A report with a later timeline or a first error is passed on. -/
lemma notified_reported (flags : Flags) {timeline : Nat} {error : Int}
    (noError : poll.signalError = 0) (valid : error ≤ 0 ∧ -MAX_ERRNO ≤ error)
    (later : poll.timeline ≤ timeline) (small : timeline < 2 ^ 31)
    (news : poll.timeline < timeline ∨ error ≠ 0) :
    Notified poll (poll.reported .reusable flags (some ⟨error, false, timeline⟩)) flags
      ⟨error, false, timeline⟩ := by
  have stored : ∀ log, nextError { poll with log := log } ⟨error, false, timeline⟩ = error := by
    intro log
    simp only [nextError, noError, ne_eq, not_true_eq_false, false_and, if_false]
    exact if_neg (by omega)
  have updated : (decide (poll.timeline < timeline) || decide (poll.signalError ≠ error)) = true := by
    rw [noError, Bool.or_eq_true, decide_eq_true_eq, decide_eq_true_eq]
    exact news.imp id Ne.symm
  simp only [reported, pollCbFuncLocked, setStatusLocked, stored, throughInt_of_lt small, updated,
    if_true, max_eq_right later, notifyPollCbLocked]
  cases disabled : flags.disablePoll
  · exact ⟨rfl, rfl, by simp [notifyReusableLocked, invocations, disabled], disabled.symm⟩
  · exact ⟨rfl, rfl, by simp [disabled], disabled.symm⟩

lemma lastReport_of_reported (flags : Flags) (status : Option Status) :
    lastReport (poll.reported .reusable flags status).log =
      DirectFence.lastAfter (lastReport poll.log) status := by
  cases status with
  | none => rfl
  | some status =>
    simp only [reported, pollCbFuncLocked, lastAfter]
    rw [← lastReport_reported poll.log status]
    split
    · exact (sameStatus_notifyPollCbLocked _ flags).last
    · rfl

end

end PollState

variable [DecidableEq κ]

section Steps

variable {polled next : Polled κ} {direct : DirectFence}

lemma permittedStep_eq_some {event : PollEvent κ}
    (ran : permittedStep polled event = some next) :
    Permitted polled event ∧ pollStep polled event = some next := by
  unfold permittedStep at ran
  split at ran
  · exact ⟨‹_›, ran⟩
  · cases ran

/-- The fence of `iif-direct.c` is freed, or it is the given one. -/
def Polled.KeepsDirect (next : Polled κ) (direct : DirectFence) : Prop :=
  ∀ kept, next.direct = some kept → kept = direct

omit [DecidableEq κ] in
lemma keepsDirect_retired {system : System} {timeout : Nat} {poll : PollState κ} :
    KeepsDirect ⟨system, timeout, poll,
      if system.shared.fence.retired then none else some direct⟩ direct := by
  intro kept found
  split at found
  · cases found
  · exact (some.inj found).symm

lemma pollStep_call {event : Event} (stepped : pollStep polled (.call event) = some next) :
    ∃ system, step polled.system event = some system ∧
      next = ⟨system, polled.timeout, (polled.called event system.shared.fence).1,
        if system.shared.fence.retired then none
        else (polled.called event system.shared.fence).2⟩ := by
  obtain ⟨system, ran, rfl⟩ := map_eq_some_iff.mp stepped
  exact ⟨system, ran, rfl⟩

/-- A signal is refused, or `iif-direct.c` signals and may report. -/
lemma pollStep_signal {error ret : Int} {async : Bool} (flag : polled.fence.flags.direct = true)
    (present : polled.direct = some direct)
    (stepped : pollStep polled (.call (.signal error ret async)) = some next) :
    (next.fence = polled.fence ∧ next.poll = polled.poll ∧ next.KeepsDirect direct) ∨
    (next.fence = polled.fence.invoke (.fenceSignal error) ∧
      next.poll = polled.poll.reported polled.fence.fenceType polled.fence.flags
        (direct.signal polled.fence.propagate error).1 ∧
      next.KeepsDirect (direct.signal polled.fence.propagate error).2) := by
  obtain ⟨system, ran, rfl⟩ := pollStep_call stepped
  simp only [step] at ran
  have call := @called_eq κ polled (.signal error ret async) system.shared.fence (by simp) (by simp)
  rw [present] at call
  rcases signalWithStatusLocked_direct flag error ret with
    ⟨refusal, -, refused⟩ | ⟨-, -, reached⟩
  · have same : system.shared.fence = polled.fence := by
      rw [← some.inj ran]
      exact congrArg Prod.snd refused
    have call := call.trans (if_pos (congrArg ops same))
    rw [call]
    exact .inl ⟨same, rfl, keepsDirect_retired⟩
  · have same : system.shared.fence = polled.fence.invoke (.fenceSignal error) := by
      rw [← some.inj ran]
      exact congrArg Prod.snd reached
    have grown : ¬ system.shared.fence.ops = polled.fence.ops := by
      rw [same]
      simp [invoke]
    have call := call.trans (if_neg grown)
    rw [call]
    refine .inr ⟨same, ?_, keepsDirect_retired⟩
    rw [same]
    rfl

/-- A sync point is refused, or `iif-direct.c` adds it and may report. -/
lemma pollStep_addSyncPoint {start count : Nat} {ret : Int}
    (reusable : polled.fence.fenceType = .reusable) (syncPoints : polled.fence.syncPoints = true)
    (present : polled.direct = some direct)
    (stepped : pollStep polled (.call (.addSyncPoint start count ret)) = some next) :
    polled.fence.SameParams next.fence ∧
    next.poll = polled.poll.reported .reusable polled.fence.flags
      (direct.addSyncPoint start count).2.1 ∧
    next.KeepsDirect (direct.addSyncPoint start count).2.2 := by
  obtain ⟨system, ran, rfl⟩ := pollStep_call stepped
  have same : system.shared.fence = (polled.fence.addSyncPoint start count ret).2 := by
    rw [← some.inj ran]
    rfl
  have params : polled.fence.SameParams system.shared.fence := by
    rw [same]
    exact Fence.sameParams_addSyncPoint start count ret
  have call := @called_eq κ polled (.addSyncPoint start count ret) system.shared.fence (by simp)
    (by simp)
  rw [present] at call
  refine ⟨params, ?_⟩
  by_cases empty : start = 0 ∨ count = 0
  · have kept : system.shared.fence.ops = polled.fence.ops := by
      rw [same, Fence.addSyncPoint, if_neg (by simp [reusable]), if_pos empty]
    have refused : (direct.addSyncPoint start count).1 ≠ 0 :=
      fun accepted => (DirectFence.addSyncPoint_accepted accepted).1.elim fun first second =>
        empty.elim first second
    have call := call.trans (if_pos kept)
    rw [call, DirectFence.addSyncPoint_refused refused]
    exact ⟨rfl, keepsDirect_retired⟩
  · have grown : ¬ system.shared.fence.ops = polled.fence.ops := by
      rw [same, Fence.addSyncPoint, if_neg (by simp [reusable]), if_neg empty, if_pos syncPoints]
      simp [Fence.invoke]
    have call := call.trans (if_neg grown)
    rw [call, params.fenceType, params.flags, reusable]
    exact ⟨rfl, keepsDirect_retired⟩

/-- Any other call leaves `iif-direct.c` and the status alone. -/
lemma pollStep_other {event : Event} (reusable : polled.fence.fenceType = .reusable)
    (signals : ∀ error ret async, event ≠ .signal error ret async)
    (points : ∀ start count ret, event ≠ .addSyncPoint start count ret)
    (stepped : pollStep polled (.call event) = some next) :
    next.fence.signals = polled.fence.signals ∧
    ∀ kept, next.direct = some kept →
      polled.direct = some kept ∧ polled.poll.SameStatus next.poll := by
  obtain ⟨system, ran, rfl⟩ := pollStep_call stepped
  by_cases flags : ∃ flags clear, event = .setFlags flags clear
  · obtain ⟨flags, clear, rfl⟩ := flags
    cases ran
    refine ⟨signals_setFlags flags clear, fun kept found => ?_⟩
    dsimp only at found
    split at found
    · cases found
    · exact ⟨found, sameStatus_setFlags _ reusable flags clear⟩
  have flagsKept : ∀ flags clear, event ≠ .setFlags flags clear := by simpa using flags
  have same := sameParams_step signals flagsKept ran
  refine ⟨same.signals, fun kept found => ?_⟩
  dsimp only at found ⊢
  split at found
  · cases found
  case isFalse unretired =>
    have remains : ∀ callbacks, event ≠ .destroy callbacks := by
      rintro callbacks rfl
      cases ran
      exact unretired (retired_retireLocked true)
    have operated : ∀ direct : DirectFence,
        direct.operate polled.fence.propagate event = (none, direct) := by
      intro direct
      cases event with
      | signal error ret async => exact absurd rfl (signals error ret async)
      | addSyncPoint start count ret => exact absurd rfl (points start count ret)
      | _ => rfl
    rw [called_eq system.shared.fence flagsKept remains] at found ⊢
    cases present : polled.direct with
    | none => simp [present] at found
    | some direct =>
      simp only [present, operated, ite_self, reported] at found ⊢
      exact ⟨found, rfl, rfl, rfl⟩

end Steps

/-- The sync point that a call adds, if it is accepted. -/
def PollEvent.syncPoint : PollEvent κ → Option SyncPoint
  | .call (.addSyncPoint start count ret) => if ret = 0 then some ⟨start, count⟩ else none
  | _ => none

/-- The sync points accepted in a run. -/
def syncPointsOf (events : List (PollEvent κ)) : List SyncPoint :=
  events.filterMap PollEvent.syncPoint

/-- A signal comes without an error. -/
def PollEvent.WithoutError (event : PollEvent κ) : Prop :=
  ∀ error ret async, event = .call (.signal error ret async) → error = 0

/-- What holds in every run on a direct reusable fence of the AP. -/
structure SyncPointsTracked (timeout : Nat) (past : List (PollEvent κ)) (polled : Polled κ) :
    Prop where
  reusable : polled.fence.fenceType = .reusable
  flag : polled.fence.flags.direct = true
  syncPoints : polled.fence.syncPoints = true
  propagate : polled.fence.propagate = true
  tracks : ∀ direct, polled.direct = some direct →
    direct.Tracks timeout polled.fence.signals (syncPointsOf past) (lastReport polled.poll.log)
  stored : ∀ direct, polled.direct = some direct →
    polled.fence.signals = 0 ∨ polled.fence.signals < direct.timeout →
    polled.poll.signalError = 0 ∧ (polled.poll.timeline : Int) = max (lastReport polled.poll.log) 0

section Runs

variable {timeout : Nat} {past : List (PollEvent κ)} {polled next : Polled κ}
  {direct : DirectFence}

/-- The callbacks are notified at the timeline `now` exactly when that is due. -/
def NotifiedIfDue (points : List SyncPoint) (flags : Flags) (poll next : PollState κ)
    (now : Nat) : Prop :=
  (NotifyDue points (lastReport poll.log) now → poll.Notified next flags ⟨0, false, now⟩) ∧
    (¬ NotifyDue points (lastReport poll.log) now → next = poll)

section

variable (tracked : SyncPointsTracked timeout past polled) (present : polled.direct = some direct)
  (running : polled.fence.signals = 0 ∨ polled.fence.signals < direct.timeout)
  {points : List SyncPoint} (now : Nat) (small : now ≤ 255)
  (positive : ∀ point ∈ points, point.Positive) {status : Option Status} {poll : PollState κ}
include tracked present running small positive

omit [DecidableEq κ] in
/-- A report that is due is passed on to the callbacks. -/
lemma SyncPointsTracked.notified (due : NotifyDue points (lastReport polled.poll.log) now) :
    polled.poll.Notified (polled.poll.reported .reusable polled.fence.flags (some ⟨0, false, now⟩))
      polled.fence.flags ⟨0, false, now⟩ := by
  obtain ⟨noError, timeline⟩ := tracked.stored direct present running
  have later := due.1
  have pos := due.positive positive
  exact notified_reported polled.poll polled.fence.flags noError (by decide) (by omega)
    (by omega) (.inl (by omega))

variable (reports : NotifyDue points (lastReport polled.poll.log) now ∧
    status = some ⟨0, false, now⟩ ∨
  ¬ NotifyDue points (lastReport polled.poll.log) now ∧ status = none)
  (reported : poll = polled.poll.reported .reusable polled.fence.flags status)
include reports reported

omit [DecidableEq κ] in
/-- What is stored after a report, or after none was due. -/
lemma SyncPointsTracked.stored_reported :
    poll.signalError = 0 ∧ (poll.timeline : Int) = max (lastReport poll.log) 0 := by
  subst reported
  rcases reports with ⟨due, rfl⟩ | ⟨-, rfl⟩
  · have notified := tracked.notified present running now small positive due
    refine ⟨notified.error, ?_⟩
    rw [notified.timeline, notified.last]
    exact (max_eq_left (Int.natCast_nonneg now)).symm
  · exact tracked.stored direct present running

omit [DecidableEq κ] in
lemma SyncPointsTracked.notifiedIfDue :
    NotifiedIfDue points polled.fence.flags polled.poll poll now := by
  subst reported
  rcases reports with ⟨due, rfl⟩ | ⟨quiet, rfl⟩
  · exact ⟨fun _ => tracked.notified present running now small positive due,
      fun quiet => absurd due quiet⟩
  · exact ⟨fun due => absurd due quiet, fun _ => rfl⟩

end

/-- What a call leaves alone in the parameters of the fence. -/
lemma pollStep_params {event : Event} (stepped : pollStep polled (.call event) = some next) :
    next.fence.fenceType = polled.fence.fenceType ∧
    next.fence.flags.direct = polled.fence.flags.direct ∧
    next.fence.syncPoints = polled.fence.syncPoints ∧
    (polled.fence.propagate = true → next.fence.propagate = true) := by
  obtain ⟨system, ran, rfl⟩ := pollStep_call stepped
  cases event with
  | signal error ret async =>
    simp only [step] at ran
    cases ran
    simp only [System.next, fence, Fence.signalWithStatusLocked]
    split_ifs <;> exact ⟨rfl, rfl, rfl, id⟩
  | setFlags flags clear =>
    cases ran
    refine ⟨Fence.fenceType_setFlags _ flags clear, Fence.direct_setFlags _ flags clear, ?_⟩
    simp only [System.next, fence, Fence.setFlags]
    split_ifs <;> exact ⟨rfl, id⟩
  | _ =>
    have same := sameParams_step (by simp) (by simp) ran
    exact ⟨same.fenceType, congrArg Flags.direct same.flags, same.syncPoints, same.propagate⟩

lemma direct_of_pollStep {event : Event} (ran : pollStep polled (.call event) = some next)
    {kept : DirectFence} (found : next.direct = some kept) :
    ∃ direct, polled.direct = some direct := by
  obtain ⟨system, -, rfl⟩ := pollStep_call ran
  cases present : polled.direct with
  | some direct => exact ⟨direct, rfl⟩
  | none => cases event <;> simp [called, present] at found

namespace SyncPointsTracked

variable {ret : Int}

section

variable (tracked : SyncPointsTracked timeout past polled)
include tracked

lemma signal_reports {async : Bool} (present : polled.direct = some direct)
    (ran : pollStep polled (.call (.signal 0 ret async)) = some next)
    (reached : next.fence.signals = polled.fence.signals + 1) :
    next.poll = polled.poll.reported .reusable polled.fence.flags (direct.signal true 0).1 := by
  rcases pollStep_signal tracked.flag present ran with ⟨fence, -, -⟩ | ⟨-, poll, -⟩
  · rw [fence] at reached
    omega
  · rwa [tracked.propagate, tracked.reusable] at poll

/-- A signal keeps track of the sync points. -/
lemma signal {async : Bool} (ran : pollStep polled (.call (.signal 0 ret async)) = some next) :
    SyncPointsTracked timeout past next := by
  obtain ⟨reusable, flag, syncPoints, propagate⟩ := pollStep_params ran
  refine ⟨reusable.trans tracked.reusable, flag.trans tracked.flag,
    syncPoints.trans tracked.syncPoints, propagate tracked.propagate, fun kept found => ?_,
    fun kept found running => ?_⟩
  all_goals
    obtain ⟨direct, present⟩ := direct_of_pollStep ran found
    have tracks := tracked.tracks direct present
    rcases pollStep_signal tracked.flag present ran with
      ⟨fence, poll, keeps⟩ | ⟨fence, poll, keeps⟩
    all_goals obtain rfl := keeps kept found
  · rw [fence, poll]
    exact tracks
  · rw [tracked.propagate, tracked.reusable] at poll
    rw [fence, signals_invoke, poll, lastReport_of_reported, tracked.propagate]
    exact tracks.signal
  · rw [fence] at running
    rw [poll]
    exact tracked.stored kept present running
  · rw [fence, signals_invoke, tracked.propagate, tracks.signal.limit, ← tracks.limit] at running
    have below : polled.fence.signals + 1 < direct.timeout :=
      running.resolve_left (Nat.succ_ne_zero _)
    rw [tracked.propagate, tracked.reusable] at poll
    have bound := tracks.timeout_le
    exact tracked.stored_reported present (.inr (by omega)) (polled.fence.signals + 1) (by omega)
      tracks.positive (tracks.signal_running below).1 poll

/-- So does a sync point that is accepted or refused. -/
lemma addSyncPoint {start count : Nat}
    (returned : ∀ direct, polled.direct = some direct → ret = (direct.addSyncPoint start count).1)
    (ran : pollStep polled (.call (.addSyncPoint start count ret)) = some next) :
    SyncPointsTracked timeout (past ++ [.call (.addSyncPoint start count ret)]) next := by
  obtain ⟨reusable, flag, syncPoints, propagate⟩ := pollStep_params ran
  refine ⟨reusable.trans tracked.reusable, flag.trans tracked.flag,
    syncPoints.trans tracked.syncPoints, propagate tracked.propagate, fun kept found => ?_,
    fun kept found running => ?_⟩
  all_goals
    obtain ⟨direct, present⟩ := direct_of_pollStep ran found
    have tracks := tracked.tracks direct present
    obtain ⟨same, poll, keeps⟩ := pollStep_addSyncPoint tracked.reusable tracked.syncPoints present
      ran
    obtain rfl := keeps kept found
    by_cases accepted : (direct.addSyncPoint start count).1 = 0
  · obtain ⟨added, -⟩ := tracks.addSyncPoint accepted
    rw [same.signals, poll, lastReport_of_reported]
    simpa [syncPointsOf, PollEvent.syncPoint, (returned direct present).trans accepted] using added
  · rw [same.signals, poll, addSyncPoint_refused accepted]
    have refused : ret ≠ 0 := fun zero => accepted ((returned direct present).symm.trans zero)
    simpa [syncPointsOf, PollEvent.syncPoint, refused, reported] using tracks
  · obtain ⟨added, reports⟩ := tracks.addSyncPoint accepted
    rw [same.signals, added.limit, ← tracks.limit] at running
    obtain ⟨entry, room⟩ := tracks.room running
    exact tracked.stored_reported present running polled.fence.signals (by omega) added.positive
      (reports running) poll
  · rw [same.signals, addSyncPoint_refused accepted] at running
    rw [poll, addSyncPoint_refused accepted]
    exact tracked.stored direct present running

omit [DecidableEq κ] in
/-- So does whatever reports nothing. -/
lemma congr (reusable : next.fence.fenceType = polled.fence.fenceType)
    (flag : next.fence.flags.direct = polled.fence.flags.direct)
    (syncPoints : next.fence.syncPoints = polled.fence.syncPoints)
    (propagate : polled.fence.propagate = true → next.fence.propagate = true)
    (signals : next.fence.signals = polled.fence.signals) (kept : ∀ kept, next.direct = some kept →
      polled.direct = some kept ∧ polled.poll.SameStatus next.poll)
    (event : PollEvent κ) (point : event.syncPoint = none) :
    SyncPointsTracked timeout (past ++ [event]) next := by
  refine ⟨reusable.trans tracked.reusable, flag.trans tracked.flag,
    syncPoints.trans tracked.syncPoints, propagate tracked.propagate, fun direct found => ?_,
    fun direct found running => ?_⟩
  all_goals obtain ⟨present, same⟩ := kept direct found
  · rw [signals, same.last]
    simpa [syncPointsOf, point] using tracked.tracks direct present
  · rw [signals] at running
    rw [same.error, same.timeline, same.last]
    exact tracked.stored direct present running

omit [DecidableEq κ] in
lemma poll {poll : PollState κ} (same : polled.poll.SameStatus poll) (event : PollEvent κ)
    (point : event.syncPoint = none) :
    SyncPointsTracked timeout (past ++ [event]) { polled with poll := poll } :=
  @SyncPointsTracked.congr κ timeout past polled { polled with poll := poll } tracked rfl rfl rfl id
    rfl (fun _ found => ⟨found, same⟩) event point

/-- Every permitted step without an error keeps track of the sync points. -/
lemma step {event : PollEvent κ} (quiet : event.WithoutError)
    (ran : permittedStep polled event = some next) :
    SyncPointsTracked timeout (past ++ [event]) next := by
  obtain ⟨permitted, ran⟩ := permittedStep_eq_some ran
  cases event with
  | call event =>
    obtain ⟨reusable, flag, syncPoints, propagate⟩ := pollStep_params ran
    cases event with
    | signal error ret async =>
      obtain rfl := quiet error ret async rfl
      have same := tracked.signal ran
      exact same.congr rfl rfl rfl id rfl (fun kept found => ⟨found, rfl, rfl, rfl⟩) _ rfl
    | addSyncPoint start count ret =>
      refine tracked.addSyncPoint (fun direct present => ?_) ran
      have returned := permitted.2
      simpa [present, returns, firmwareAhead] using returned
    | _ =>
      obtain ⟨signals, kept⟩ := pollStep_other tracked.reusable (by simp) (by simp) ran
      exact tracked.congr reusable flag syncPoints propagate signals kept _ rfl
  | addPollCallback callback =>
    cases ran
    exact tracked.poll (sameStatus_addPollCallback _ _ callback) _ rfl
  | removePollCallback callback =>
    cases ran
    exact tracked.poll (sameStatus_removePollCallback _ callback) _ rfl
  | report status => exact absurd (tracked.flag.symm.trans permitted.2.1) (by decide)
  | firmware entry => exact absurd (tracked.propagate.symm.trans permitted.2.1) (by decide)

end

end SyncPointsTracked

end Runs

/-- A direct reusable fence that the AP signals; `iif-direct.c` has an operator for sync
points. -/
structure FenceParams.ApTimeline (params : FenceParams) : Prop where
  reusable : params.fenceType = .reusable
  flag : params.flags.direct = true
  syncPoints : params.syncPoints = true
  signalerIsAp : params.signalerIsAp = true

variable {params : FenceParams}

omit [DecidableEq κ] in
lemma syncPointsTracked_initial (timeline : params.ApTimeline)
    (timeout : Nat) : SyncPointsTracked timeout [] (Polled.initial params timeout : Polled κ) := by
  refine ⟨timeline.reusable, timeline.flag, timeline.syncPoints, timeline.signalerIsAp,
    fun direct found => ?_, fun direct found running => ⟨rfl, rfl⟩⟩
  obtain rfl : directFenceCreate params.fenceType params.remainingSignalers timeout = direct := by
    simpa [Polled.initial, timeline.flag] using found
  rw [timeline.reusable]
  exact ⟨rfl, rfl, rfl, rfl, rfl, by simp [syncPointsOf],
    fun _ => ⟨rfl, rfl, rfl, rfl, (by decide : (-1 : Int) ≤ 0)⟩⟩

lemma syncPointsTracked_foldlM (timeline : params.ApTimeline)
    (timeout : Nat) (events : List (PollEvent κ)) (quiet : ∀ event ∈ events, event.WithoutError)
    {polled : Polled κ}
    (ran : events.foldlM permittedStep (Polled.initial params timeout) = some polled) :
    SyncPointsTracked timeout events polled := by
  refine Lib.Runs.foldlM_history (fun past polled =>
    (∀ event ∈ past, event.WithoutError) → SyncPointsTracked timeout past polled) permittedStep
    ?_ events (fun _ => syncPointsTracked_initial timeline timeout) ran quiet
  intro past polled event next tracked stepped quiet
  obtain ⟨before, last⟩ := forall_mem_append.mp quiet
  exact (tracked before).step (last event mem_cons_self) stepped

/-- The timeline of a direct reusable fence counts the signals of the AP up to 255. A signal
that stays below the timeout, and a new sync point, notify exactly when a sync point asks
for a value since the last notification; the signal that reaches the timeout notifies of
`-ETIMEDOUT`. -/
theorem syncPoints_notify {params : FenceParams} (timeline : params.ApTimeline) (timeout : Nat)
    (events : List (PollEvent κ)) (quiet : ∀ event ∈ events, event.WithoutError) {polled : Polled κ}
    (ran : events.foldlM permittedStep (Polled.initial params timeout) = some polled)
    {direct : DirectFence} (present : polled.direct = some direct) :
    direct.entry.timeline = min polled.fence.signals 255 ∧
    direct.timeline = direct.entry.timeline ∧
    (∀ ret async next, permittedStep polled (.call (.signal 0 ret async)) = some next →
      next.fence.signals = polled.fence.signals + 1 →
      (polled.fence.signals + 1 < min timeout 255 →
        NotifiedIfDue (syncPointsOf events) polled.fence.flags polled.poll next.poll
          (polled.fence.signals + 1)) ∧
      (polled.fence.signals < max (min timeout 255) 1 → min timeout 255 ≤ polled.fence.signals + 1 →
        polled.poll.Notified next.poll polled.fence.flags
          ⟨-ETIMEDOUT, false, polled.fence.signals + 1⟩)) ∧
    (∀ start count next, permittedStep polled (.call (.addSyncPoint start count 0)) = some next →
      polled.fence.signals < min timeout 255 →
      NotifiedIfDue (syncPointsOf events ++ [⟨start, count⟩]) polled.fence.flags polled.poll
        next.poll polled.fence.signals) := by
  have tracked := syncPointsTracked_foldlM timeline timeout events quiet ran
  have tracks := tracked.tracks direct present
  have limit : direct.timeout = min timeout 255 := tracks.limit
  refine ⟨tracks.table, tracks.timeline, fun ret async next stepped reached => ?_,
    fun start count next stepped below => ?_⟩
  · obtain ⟨-, stepped⟩ := permittedStep_eq_some stepped
    have reports := tracked.signal_reports present stepped reached
    refine ⟨fun below => ?_, fun running late => ?_⟩
    · have small : polled.fence.signals + 1 < direct.timeout := by omega
      exact tracked.notifiedIfDue present (.inr (by omega)) (polled.fence.signals + 1) (by omega)
        tracks.positive (tracks.signal_running small).1 reports
    · have running : polled.fence.signals = 0 ∨ polled.fence.signals < direct.timeout := by omega
      obtain ⟨noError, timeline⟩ := tracked.stored direct present running
      obtain ⟨-, -, -, lastPoll, past⟩ := tracks.running running
      obtain ⟨entry, room⟩ := tracks.room running
      rw [reports, tracks.signal_timeout running (by omega)]
      have now := tracks.timeline
      exact notified_reported _ _ noError (by decide) (by omega) (by omega) (.inr (by decide))
  · obtain ⟨permitted, stepped⟩ := permittedStep_eq_some stepped
    have running : polled.fence.signals = 0 ∨ polled.fence.signals < direct.timeout := by omega
    have accepted : (direct.addSyncPoint start count).1 = 0 := by
      have returned := permitted.2
      simpa [present, returns, firmwareAhead, eq_comm] using returned
    obtain ⟨added, reports⟩ := tracks.addSyncPoint accepted
    obtain ⟨-, poll, -⟩ := pollStep_addSyncPoint tracked.reusable tracked.syncPoints present stepped
    exact tracked.notifiedIfDue present running _ (by omega) added.positive (reports running) poll

/-- A timeline of the AP. -/
def apTimeline : FenceParams where
  fenceType := .reusable
  flags := ⟨false, false, true⟩
  syncPoints := true
  remainingSignalers := 1
  waiters := fun _ => false
  signalerIsAp := true

/-- Two values from 2 on are asked for, and two signals have come: the third is due. -/
def apTimelineRun : List (PollEvent Nat) :=
  [.addPollCallback 7, .call .submitSignaler, .call (.run 0 .proceed),
    .call (.addSyncPoint 2 2 0), .call (.signal 0 0 false), .call (.signal 0 0 false)]

theorem syncPoints_notify_apTimelineRun : ∃ polled next : Polled Nat,
      apTimelineRun.foldlM permittedStep (.initial apTimeline 9) = some polled ∧
      permittedStep polled (.call (.signal 0 0 false)) = some next ∧
      polled.poll.Notified next.poll polled.fence.flags ⟨0, false, 3⟩ := by
  obtain ⟨polled, ran, stepped, signals, last, present⟩ := Lib.Runs.exists_reached
    (fun polled : Polled Nat => (permittedStep polled (.call (.signal 0 0 false))).any (fun next =>
      decide (next.fence.signals = 3)) = true ∧ polled.fence.signals = 2 ∧
      lastReport polled.poll.log = 2 ∧ polled.direct.isSome = true)
    (show (apTimelineRun.foldlM permittedStep (.initial apTimeline 9)).any _ = true by
      decide +kernel)
  obtain ⟨next, signaled, reached⟩ := Lib.Runs.exists_reached
    (fun next : Polled Nat => next.fence.signals = 3) stepped
  obtain ⟨direct, present⟩ := isSome_iff_exists.mp present
  have quiet : ∀ event ∈ apTimelineRun, event.WithoutError := by
    simp [apTimelineRun, PollEvent.WithoutError]
  have notify := ((syncPoints_notify ⟨rfl, rfl, rfl, rfl⟩ 9 apTimelineRun quiet ran present).2.2.1
    0 false next signaled (by omega)).1 (by omega)
  refine ⟨polled, next, ran, signaled, ?_⟩
  rw [signals] at notify
  refine notify.1 ⟨by rw [last]; decide, ⟨2, 2⟩, by decide, 3, ?_, by rw [last]; decide, by decide⟩
  exact ⟨by decide, .inr (by decide)⟩

end GsKernel.Iif
