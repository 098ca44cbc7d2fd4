import GsKernel.Iif.PollOnce
import GsKernel.Iif.Retire
import GsKernel.Iif.Signals

/-!
# Calls on a polled single-shot fence

A call keeps the accounts of the callbacks. Beyond that a direct fence is followed
through its signals: the table counts at least the signals that have reached
`iif-direct.c`, so once every signaler is counted as signaled the fence has been
reported as signaled too.
-/

namespace GsKernel.Iif

open Lib.Tasks DirectFence Fence PollState Polled

variable {κ : Type*} [DecidableEq κ]

/-- The callbacks of a single-shot fence are accounted for. -/
structure CallbacksOnce (polled : Polled κ) : Prop where
  singleShot : polled.fence.fenceType = .singleShot
  once : polled.poll.Once polled.fence.flags

section Calls

variable {polled : Polled κ} {event : Event} {next : System}

omit [DecidableEq κ] in
/-- Beside the flags and the destruction, a call only reaches the operator of a direct
fence. -/
lemma called_eq (fence : Fence) (flags : ∀ flags clear, event ≠ .setFlags flags clear)
    (remains : ∀ callbacks, event ≠ .destroy callbacks) :
    polled.called event fence = match polled.direct with
      | none => (polled.poll, none)
      | some direct =>
        if fence.ops = polled.fence.ops then (polled.poll, some direct)
        else
          (polled.poll.reported fence.fenceType fence.flags
              (direct.operate polled.fence.propagate event).1,
            some (direct.operate polled.fence.propagate event).2) := by
  cases event with
  | setFlags newFlags clear => exact absurd rfl (flags newFlags clear)
  | destroy callbacks => exact absurd rfl (remains callbacks)
  | _ => rfl

omit [DecidableEq κ] in
lemma called_poll (fence : Fence) (flags : ∀ flags clear, event ≠ .setFlags flags clear)
    (remains : ∀ callbacks, event ≠ .destroy callbacks) :
    ∃ status, (polled.called event fence).1 =
      polled.poll.reported fence.fenceType fence.flags status := by
  rw [called_eq fence flags remains]
  split
  · exact ⟨none, rfl⟩
  · split
    · exact ⟨none, rfl⟩
    · exact ⟨_, rfl⟩

/-- A call keeps the accounts of the callbacks. -/
lemma callbacksOnce_call (once : CallbacksOnce polled)
    (ran : step polled.system event = some next) :
    next.shared.fence.fenceType = .singleShot ∧
      (polled.called event next.shared.fence).1.Once next.shared.fence.flags := by
  by_cases flags : ∃ flags clear, event = .setFlags flags clear
  · obtain ⟨flags, clear, rfl⟩ := flags
    cases ran
    exact ⟨(fenceType_setFlags _ flags clear).trans once.singleShot,
      once_setFlags once.once once.singleShot flags clear⟩
  have flagsKept : ∀ flags clear, event ≠ .setFlags flags clear := by simpa using flags
  have kept : next.shared.fence.fenceType = polled.fence.fenceType ∧
      next.shared.fence.flags = polled.fence.flags := by
    cases event with
    | signal error ret async =>
      cases ran
      exact kind_signalWithStatusLocked _ error false ret
    | _ =>
      have same := sameParams_step (by simp) flagsKept ran
      exact ⟨same.fenceType, same.flags⟩
  refine ⟨kept.1.trans once.singleShot, ?_⟩
  rw [kept.2]
  by_cases destroys : ∃ callbacks, event = .destroy callbacks
  · obtain ⟨callbacks, rfl⟩ := destroys
    exact once_destroyLocked once.once once.singleShot polled.timeout
  · obtain ⟨status, reported⟩ := @called_poll κ polled event next.shared.fence flagsKept
      (by simpa using destroys)
    rw [reported, kept.1, kept.2, once.singleShot]
    exact once_reported once.once status

end Calls

namespace DirectFence

variable {direct : DirectFence} {propagate : Bool} {error : Int}

lemma handleSignalError_kept (direct : DirectFence) (propagate : Bool) (error : Int) :
    (direct.handleSignalError propagate error).fenceType = direct.fenceType ∧
    (direct.handleSignalError propagate error).remainingSignalers = direct.remainingSignalers ∧
    (direct.handleSignalError propagate error).timeline = direct.timeline ∧
    (direct.handleSignalError propagate error).polled = direct.polled ∧
    (direct.handleSignalError propagate error).entry.remainingSignals =
      direct.entry.remainingSignals := by
  unfold handleSignalError SignalEntry.setError
  dsimp only
  split_ifs <;> exact ⟨rfl, rfl, rfl, rfl, rfl⟩

lemma setRemainingSignals_pred (entry : SignalEntry) :
    (entry.setRemainingSignals (entry.remainingSignals - 1)).remainingSignals =
      entry.remainingSignals - 1 := by
  unfold SignalEntry.setRemainingSignals
  split
  · rfl
  · omega

/-- What a signal of a direct single-shot fence leads to. -/
structure Signaled (direct : DirectFence) (propagate : Bool) (status : Option Status)
    (next : DirectFence) : Prop where
  fenceType : next.fenceType = direct.fenceType
  remaining : next.remainingSignalers = direct.remainingSignalers
  table : next.entry.remainingSignals = direct.entry.remainingSignals - if propagate then 1 else 0
  timeline : next.timeline =
    max ((direct.remainingSignalers : Int) - next.entry.remainingSignals) direct.timeline
  signaled : ∀ reported, status = some reported → reported.signaled = true
  reports : direct.polled = true → direct.timeline < direct.remainingSignalers →
    (direct.remainingSignalers : Int) ≤ next.timeline → status.isSome = true
  polled : next.polled = true ∨ direct.polled = false ∨ status.isSome = true

lemma signaled_syncStatus (singleShot : direct.fenceType = .singleShot) :
    Signaled direct false (direct.syncStatus invokePollCallbacksSingleShot).1
      (direct.syncStatus invokePollCallbacksSingleShot).2 := by
  have timeline : direct.tableStatus.2 =
      max ((direct.remainingSignalers : Int) - direct.entry.remainingSignals) direct.timeline := by
    simp [tableStatus, tableGetTimeline, singleShot]
  simp only [syncStatus, invokePollCallbacksSingleShot]
  split_ifs with same below polled
  · exact ⟨rfl, rfl, rfl, same.1.trans timeline, by simp,
      fun _ below above => absurd above (not_le.mpr below), by cases direct.polled <;> simp⟩
  · exact ⟨rfl, rfl, rfl, timeline, by simp, fun _ _ above => absurd above (not_le.mpr below),
      by cases direct.polled <;> simp⟩
  · refine ⟨rfl, rfl, rfl, timeline, ?_, fun _ _ _ => rfl, .inr (.inr rfl)⟩
    rintro reported rfl'
    cases rfl'
    exact decide_eq_true (not_lt.mp below)
  · exact ⟨rfl, rfl, rfl, timeline, by simp, fun on => absurd on polled,
      .inr (.inl (by simpa using polled))⟩

/-- Storing an error and counting a signal come before the table is read. -/
lemma Signaled.of_prepared {prepared next : DirectFence} {status : Option Status}
    (signaled : Signaled prepared false status next)
    (fenceType : prepared.fenceType = direct.fenceType)
    (remaining : prepared.remainingSignalers = direct.remainingSignalers)
    (timeline : prepared.timeline = direct.timeline) (polled : prepared.polled = direct.polled)
    (table : prepared.entry.remainingSignals =
      direct.entry.remainingSignals - if propagate then 1 else 0) :
    Signaled direct propagate status next where
  fenceType := signaled.fenceType.trans fenceType
  remaining := signaled.remaining.trans remaining
  table := signaled.table.trans table
  timeline := by simpa only [remaining, timeline] using signaled.timeline
  signaled := signaled.signaled
  reports := by simpa only [remaining, timeline, polled] using signaled.reports
  polled := by simpa only [polled] using signaled.polled

lemma signaled_signal (singleShot : direct.fenceType = .singleShot) :
    Signaled direct propagate (direct.signal propagate error).1
      (direct.signal propagate error).2 := by
  simp only [signal, singleShot, signalSingleShot]
  generalize (if direct.entry.remainingSignals = 0 ∧ direct.entry.errored = false ∧ error ≠ 0 then 0
    else if direct.entry.remainingSignals = 0 ∧ direct.entry.errored = true ∧ error = 0 then
      -ECANCELED else error) = stored
  obtain ⟨fenceType, remaining, timeline, polled, table⟩ :=
    direct.handleSignalError_kept propagate stored
  cases propagate with
  | false =>
    exact (signaled_syncStatus (fenceType.trans singleShot)).of_prepared fenceType remaining
      timeline polled table
  | true =>
    have counted := setRemainingSignals_pred (direct.handleSignalError true stored).entry
    rw [table] at counted
    refine Signaled.of_prepared (signaled_syncStatus ?_) fenceType remaining timeline polled counted
    exact fenceType.trans singleShot

end DirectFence

/-- A direct single-shot fence against the signals it has had: the table counts at least
those, and once all signals are in, that has been reported. -/
structure DirectFence.Follows (direct : DirectFence) (fence : Fence) (signaled : Bool) : Prop where
  fenceType : direct.fenceType = .singleShot
  remaining : direct.remainingSignalers = fence.remainingSignalers
  table : direct.entry.remainingSignals ≤ fence.remainingSignalers - fence.signals
  timeline : ((min fence.signals fence.remainingSignalers : Nat) : Int) ≤ direct.timeline
  reported : (fence.remainingSignalers : Int) ≤ direct.timeline →
    fence.remainingSignalers = 0 ∨ signaled = true
  polled : direct.polled = true ∨ signaled = true

lemma DirectFence.Follows.congr {direct : DirectFence} {fence next : Fence} {signaled : Bool}
    (follows : direct.Follows fence signaled)
    (remaining : next.remainingSignalers = fence.remainingSignalers)
    (signals : next.signals = fence.signals) : direct.Follows next signaled := by
  obtain ⟨fenceType, count, table, timeline, reported, polled⟩ := follows
  rw [← remaining] at count
  rw [← remaining, ← signals] at table timeline
  rw [← remaining] at reported
  exact ⟨fenceType, count, table, timeline, reported, polled⟩

omit [DecidableEq κ] in
/-- A signal that reaches the direct fence is reported when it was the last one. -/
lemma DirectFence.Follows.signal {direct : DirectFence} {fence : Fence} {poll : PollState κ}
    (follows : direct.Follows fence poll.signaled) (singleShot : fence.fenceType = .singleShot)
    (error : Int) (ahead : fence.propagate = true ∨
      direct.entry.remainingSignals ≤ fence.remainingSignalers - (fence.signals + 1)) :
    (direct.signal fence.propagate error).2.Follows (fence.invoke (.fenceSignal error))
      (poll.reported fence.fenceType fence.flags
        (direct.signal fence.propagate error).1).signaled := by
  have signaled := @DirectFence.signaled_signal direct fence.propagate error follows.fenceType
  generalize (direct.signal fence.propagate error).1 = status at signaled
  generalize (direct.signal fence.propagate error).2 = next at signaled
  have now : (poll.reported fence.fenceType fence.flags status).signaled =
      (poll.signaled || status.isSome) := by
    rw [singleShot]
    cases status with
    | none => simp [PollState.reported]
    | some reported =>
      simp [PollState.reported, PollState.signaled_pollCbFuncLocked, signaled.signaled _ rfl]
  have signals : (fence.invoke (.fenceSignal error)).signals = fence.signals + 1 :=
    signals_invoke _
  have table : next.entry.remainingSignals ≤ fence.remainingSignalers - (fence.signals + 1) := by
    have before := follows.table
    have after := signaled.table
    rcases ahead with propagate | lowered
    · rw [propagate, if_pos rfl] at after
      omega
    · split at after <;> omega
  have count := follows.remaining
  have moved := signaled.timeline
  rw [now]
  refine ⟨signaled.fenceType.trans follows.fenceType, signaled.remaining.trans count, ?_, ?_, ?_, ?_⟩
  · rw [signals]
    exact table
  · rw [signals]
    simp only [invoke]
    omega
  · intro above
    simp only [invoke, ← count] at above
    rcases lt_or_ge direct.timeline direct.remainingSignalers with below | already
    · rcases follows.polled with on | done
      · exact .inr (by rw [signaled.reports on below above, Bool.or_true])
      · exact .inr (by rw [done, Bool.true_or])
    · rcases follows.reported (count ▸ already) with none | done
      · exact .inl none
      · exact .inr (by rw [done, Bool.true_or])
  · rcases signaled.polled with on | off | reported
    · exact .inl on
    · exact .inr (by rw [follows.polled.resolve_left (by simp [off]), Bool.true_or])
    · exact .inr (by rw [reported, Bool.or_true])

/-- What holds of a direct single-shot fence until it is destroyed. -/
structure SignalsReported (polled : Polled κ) : Prop where
  direct : polled.fence.flags.direct = true
  counted : polled.system.counted ≤ polled.fence.signals
  unneeded : polled.fence.remainingSignalers = 0 →
    polled.fence.signals = 0 ∧ polled.poll.pollCbList = []
  reported : polled.fence.remainingSignalers ≤ polled.fence.signals →
    polled.fence.remainingSignalers = 0 ∨ polled.poll.signaled = true
  present : polled.fence.retired = false → polled.direct.isSome = true
  follows : ∀ direct, polled.direct = some direct → direct.Follows polled.fence polled.poll.signaled

omit [DecidableEq κ] in
lemma SignalsReported.finished {polled : Polled κ} (reported : SignalsReported polled)
    (none : polled.fence.remainingSignalers = 0) : polled.fence.allSignalersSignaled = true := by
  have unsignaled := (reported.unneeded none).1
  have counts : polled.fence.signaledSignalers + total Task.counts polled.system.tasks ≤
    polled.fence.signals := reported.counted
  exact decide_eq_true (by omega)

section DirectCalls

variable {polled : Polled κ} {event : Event} {next : System}

/-- The polled fence after a call that leads to `next`. -/
def Polled.after (polled : Polled κ) (event : Event) (next : System) : Polled κ :=
  { polled with
    system := next
    poll := (polled.called event next.shared.fence).1
    direct := if next.shared.fence.retired then none
      else (polled.called event next.shared.fence).2 }

omit [DecidableEq κ] in
lemma SignalsReported.congr (reported : SignalsReported polled)
    (direct : next.shared.fence.flags.direct = true) (counted : next.counted ≤ next.shared.fence.signals)
    (remaining : next.shared.fence.remainingSignalers = polled.fence.remainingSignalers)
    (signals : next.shared.fence.signals = polled.fence.signals)
    (retired : polled.fence.retired = true → next.shared.fence.retired = true)
    (poll : (polled.called event next.shared.fence).1.signaled = polled.poll.signaled)
    (empty : polled.poll.pollCbList = [] →
      (polled.called event next.shared.fence).1.pollCbList = [])
    (same : (polled.called event next.shared.fence).2 = polled.direct) :
    SignalsReported (polled.after event next) where
  direct := direct
  counted := counted
  unneeded := by
    intro none
    obtain ⟨unsignaled, unpolled⟩ := reported.unneeded (remaining.symm.trans none)
    exact ⟨signals.trans unsignaled, empty unpolled⟩
  reported := by
    have before := reported.reported
    rw [← remaining, ← signals, ← poll] at before
    exact before
  present := by
    intro unretired
    have live : next.shared.fence.retired = false := unretired
    have alive : polled.fence.retired = false := by
      by_contra done
      exact absurd (retired (by simpa using done)) (by simp [live])
    simpa [after, live, same] using reported.present alive
  follows := by
    intro direct found
    have before : polled.direct = some direct := by
      simp only [after] at found
      split at found
      · cases found
      · exact same ▸ found
    have after := (reported.follows direct before).congr remaining signals
    rw [← poll] at after
    exact after

lemma DirectFence.operate_other {direct : DirectFence} (singleShot : direct.fenceType = .singleShot)
    (signals : ∀ error ret async, event ≠ .signal error ret async) (propagate : Bool) :
    direct.operate propagate event = (none, direct) := by
  cases event with
  | signal error ret async => exact absurd rfl (signals error ret async)
  | addSyncPoint timeline count ret => simp [operate, addSyncPoint, singleShot]
  | _ => rfl

lemma Fence.direct_setFlags (fence : Fence) (flags : Flags) (clear : Bool) :
    (fence.setFlags flags clear).2.flags.direct = fence.flags.direct := by
  unfold setFlags
  split_ifs with refused cleared
  · rfl
  · cases direct : flags.direct <;> simp_all
  · cases direct : flags.direct <;> simp_all

omit [DecidableEq κ] in
/-- A signal that reaches the direct fence. -/
lemma signalsReported_signal {error ret : Int} {async : Bool} (reported : SignalsReported polled)
    (singleShot : polled.fence.fenceType = .singleShot) (coherent : polled.fence.Coherent)
    (ahead : ∀ direct, polled.direct = some direct →
      direct.firmwareAhead polled.fence (.signal error ret async) = true)
    (unfinished : polled.fence.allSignalersSignaled = false)
    (outstanding : polled.fence.outstandingSignalers ≠ 0)
    (fence : next.shared.fence = polled.fence.invoke (.fenceSignal error))
    (counted : next.counted ≤ next.shared.fence.signals) :
    SignalsReported (polled.after (.signal error ret async) next) := by
  have unretired : polled.fence.retired = false := by
    by_contra retired
    exact outstanding (coherent.settled (by simpa using retired))
  obtain ⟨direct, found⟩ := Option.isSome_iff_exists.mp (reported.present unretired)
  have contract : polled.fence.propagate = true ∨ direct.entry.remainingSignals ≤
      polled.fence.remainingSignalers - (polled.fence.signals + 1) := by
    simpa [firmwareAhead, singleShot] using ahead direct found
  have follows := (reported.follows direct found).signal singleShot error contract
  have called : polled.called (.signal error ret async) next.shared.fence =
      (polled.poll.reported polled.fence.fenceType polled.fence.flags
        (direct.signal polled.fence.propagate error).1,
        some (direct.signal polled.fence.propagate error).2) := by
    simp [called, found, fence, invoke, operate]
  have live : next.shared.fence.retired = false := by rw [fence]; exact unretired
  have after : polled.after (.signal error ret async) next =
      { polled with
        system := next
        poll := polled.poll.reported polled.fence.fenceType polled.fence.flags
          (direct.signal polled.fence.propagate error).1
        direct := some (direct.signal polled.fence.propagate error).2 } := by
    simp [after, called, live]
  rw [after]
  refine ⟨?_, counted, ?_, ?_, fun _ => rfl, ?_⟩
  · show next.shared.fence.flags.direct = true
    rw [fence]
    exact reported.direct
  · intro none
    -- a fence without signalers counts as signaled from the start
    have missing : polled.fence.remainingSignalers = 0 := by
      have same : next.shared.fence.remainingSignalers = 0 := none
      rwa [fence] at same
    exact absurd ((reported.finished missing).symm.trans unfinished) (by decide)
  · show next.shared.fence.remainingSignalers ≤ next.shared.fence.signals → _
    intro enough
    show next.shared.fence.remainingSignalers = 0 ∨ _
    rw [fence] at enough ⊢
    refine follows.reported ((Int.ofNat_le.mpr ?_).trans follows.timeline)
    exact le_min enough le_rfl
  · rintro other same
    cases same
    show Follows _ next.shared.fence _
    rw [fence]
    exact follows

omit [DecidableEq κ] in
/-- A call on a direct single-shot fence passes the signals on, and reports the last. -/
lemma signalsReported_call (reported : SignalsReported polled)
    (singleShot : polled.fence.fenceType = .singleShot) (coherent : polled.fence.Coherent)
    (ahead : ∀ direct, polled.direct = some direct → direct.firmwareAhead polled.fence event = true)
    (remains : ∀ callbacks, event ≠ .destroy callbacks)
    (ran : step polled.system event = some next) :
    SignalsReported (polled.after event next) := by
  have counts : polled.system.shared.fence.countsOnSignal = true := by
    simp only [Fence.countsOnSignal, Bool.and_eq_true, decide_eq_true_eq]
    exact ⟨reported.direct, singleShot⟩
  have counted : next.counted ≤ next.shared.fence.signals := by
    have before := reported.counted
    have step := counted_step counts remains ran
    simp only [Polled.fence] at before
    omega
  by_cases flags : ∃ flags clear, event = .setFlags flags clear
  · obtain ⟨flags, clear, rfl⟩ := flags
    cases ran
    refine reported.congr ((Fence.direct_setFlags _ flags clear).trans reported.direct) counted
      (Fence.sameCounts_setFlags flags clear).remaining (Fence.signals_setFlags flags clear) ?_
      (PollState.signaled_setFlags singleShot flags clear)
      (fun empty => PollState.empty_setFlags singleShot empty flags clear) rfl
    simp only [System.next, Fence.setFlags, Polled.fence]
    split <;> exact id
  · have flagsKept : ∀ flags clear, event ≠ .setFlags flags clear := by simpa using flags
    by_cases signal : ∃ error ret async, event = .signal error ret async
    · obtain ⟨error, ret, async, rfl⟩ := signal
      simp only [step] at ran
      rcases Fence.signalWithStatusLocked_direct reported.direct error ret with
        ⟨refusal, -, refused⟩ | ⟨unfinished, outstanding, reached⟩
      · have fence : next.shared.fence = polled.fence := by
          simp only [Polled.fence] at refused ⊢
          rw [refused] at ran
          rw [← Option.some.inj ran]
          rfl
        have called : polled.called (.signal error ret async) next.shared.fence =
            (polled.poll, polled.direct) := by
          rw [called_eq _ flagsKept remains, fence]
          cases polled.direct <;> simp
        refine reported.congr ?_ counted ?_ ?_ ?_ (by rw [called]) (by rw [called]; exact id)
          (by rw [called])
        all_goals rw [fence]
        · exact reported.direct
        · exact id
      · have fence : next.shared.fence = polled.fence.invoke (.fenceSignal error) := by
          simp only [Polled.fence] at reached ⊢
          rw [reached] at ran
          rw [← Option.some.inj ran]
          rfl
        exact signalsReported_signal reported singleShot coherent ahead unfinished outstanding
          fence counted
    · have signals : ∀ error ret async, event ≠ .signal error ret async := by simpa using signal
      have same := sameParams_step signals flagsKept ran
      have called : polled.called event next.shared.fence = (polled.poll, polled.direct) := by
        rw [called_eq _ flagsKept remains]
        cases present : polled.direct with
        | none => rfl
        | some direct =>
          have kept := DirectFence.operate_other (reported.follows direct present).fenceType
            signals polled.fence.propagate
          simp only [kept, PollState.reported, ite_self]
      refine reported.congr ?_ counted same.remaining same.signals same.retired (by rw [called])
        (by rw [called]; exact id) (by rw [called])
      rw [same.flags]
      exact reported.direct

end DirectCalls

end GsKernel.Iif
