import GsKernel.Iif.Poll

/-!
# Sync points of a direct reusable fence

Each signal of the AP advances the timeline by one, up to 255. Notifying is due when some sync
point asks for a value since the last notification; the signal that reaches the timeout notifies
in any case.
-/

namespace GsKernel.Iif

open DirectFence SignalEntry SyncPoint

/-- The values that a sync point asks for: `count` values from `timeline` on, or all of
them. -/
def SyncPoint.Asks (point : SyncPoint) (value : Int) : Prop :=
  (point.startTimeline : Int) ≤ value ∧ (IIF_WAIT_TABLE_SYNC_POINT_COUNT_ALL ≤ point.count ∨
      value ≤ (point.startTimeline : Int) + point.count - 1)

/-- A notification is due at the timeline `now` after the last one at `last`. -/
def NotifyDue (points : List SyncPoint) (last now : Int) : Prop :=
  last < now ∧ ∃ point ∈ points, ∃ value, point.Asks value ∧ last < value ∧ value ≤ now

/-- What `iif_fence_add_sync_point` asks of a sync point. -/
def SyncPoint.Positive (point : SyncPoint) : Prop := point.startTimeline ≠ 0 ∧ point.count ≠ 0

lemma NotifyDue.positive {points : List SyncPoint} {last now : Int}
    (due : NotifyDue points last now) (positive : ∀ point ∈ points, point.Positive) : 0 < now := by
  obtain ⟨-, point, inside, value, ⟨started, -⟩, -, reached⟩ := due
  have start := (positive point inside).1
  omega

/-- A sync point as the fence table stores it. -/
def SyncPoint.clamped (point : SyncPoint) : SyncPoint :=
  ⟨min point.startTimeline IIF_SIGNAL_TABLE_MAX_TIMELINE,
    min point.count IIF_WAIT_TABLE_SYNC_POINT_COUNT_ALL⟩

namespace DirectFence

variable {direct : DirectFence}

/-- A stored sync point is ready when it asks for a value since the last notification. -/
lemma isSyncPointReady_clamped {point : SyncPoint} (counts : point.count ≠ 0)
    (newer : direct.lastPollTimeline < direct.timeline) (bounded : direct.timeline < 255) :
    direct.isSyncPointReady point.clamped = true ↔
      ∃ value, point.Asks value ∧ direct.lastPollTimeline < value ∧ value ≤ direct.timeline := by
  have all : IIF_WAIT_TABLE_SYNC_POINT_COUNT_ALL = 255 := rfl
  have limit : IIF_SIGNAL_TABLE_MAX_TIMELINE = 255 := rfl
  simp only [isSyncPointReady, clamped, Asks, Bool.and_eq_true,
    Bool.or_eq_true, decide_eq_true_eq, all, limit]
  constructor
  · rintro ⟨within, started⟩
    -- the later of the start and the first value after the last notification
    refine ⟨max point.startTimeline (direct.lastPollTimeline + 1), ⟨le_max_left _ _, ?_⟩, ?_, ?_⟩
    · omega
    · omega
    · omega
  · rintro ⟨value, ⟨started, within⟩, newer, reached⟩
    omega

/-- A fence that has not reached its timeout. -/
structure Running (direct : DirectFence) (last : Int) : Prop where
  noError : direct.error = 0
  clean : direct.entry.errored = false
  polled : direct.polled = true
  lastPoll : direct.lastPollTimeline = last
  past : last ≤ direct.timeline

/-- A live direct reusable fence after `signals` signals, with the sync points `points`
accepted and the last notification at `last`. -/
structure Tracks (direct : DirectFence) (timeout signals : Nat) (points : List SyncPoint)
    (last : Int) : Prop where
  fenceType : direct.fenceType = .reusable
  limit : direct.timeout = min timeout IIF_SIGNAL_TABLE_MAX_TIMELINE
  table : direct.entry.timeline = min signals IIF_SIGNAL_TABLE_MAX_TIMELINE
  timeline : direct.timeline = direct.entry.timeline
  syncPoints : direct.syncPoints = points.map SyncPoint.clamped
  positive : ∀ point ∈ points, point.Positive
  running : signals = 0 ∨ signals < direct.timeout → direct.Running last

variable {points : List SyncPoint}

lemma Tracks.timeout_le {timeout signals : Nat} {last : Int}
    (tracks : direct.Tracks timeout signals points last) : direct.timeout ≤ 255 := by
  rw [tracks.limit]
  exact min_le_right _ _

/-- Invoking the callback while the fence is running. -/
lemma invokePollCallbacksReusable_running
    (noError : direct.error = 0) (polled : direct.polled = true)
    (stored : direct.syncPoints = points.map SyncPoint.clamped)
    (positive : ∀ point ∈ points, point.Positive) (bounded : direct.timeline < 255) :
    (NotifyDue points direct.lastPollTimeline direct.timeline ∧ direct.invokePollCallbacksReusable =
        (some ⟨0, false, direct.timeline.toNat⟩, { direct with lastPollTimeline := direct.timeline })) ∨
    (¬ NotifyDue points direct.lastPollTimeline direct.timeline ∧
      direct.invokePollCallbacksReusable = (none, direct)) := by
  unfold invokePollCallbacksReusable
  by_cases older : direct.timeline ≤ direct.lastPollTimeline
  · exact .inr ⟨fun due => absurd due.1 (not_lt.mpr older), if_pos ⟨noError, older⟩⟩
  have newer := not_le.mp older
  have due : NotifyDue points direct.lastPollTimeline direct.timeline ↔
      direct.syncPoints.any direct.isSyncPointReady = true := by
    rw [stored, List.any_map, List.any_eq_true, NotifyDue]
    simp only [newer, true_and]
    refine exists_congr fun point => and_congr_right fun inside => ?_
    exact (isSyncPointReady_clamped (positive point inside).2 newer bounded).symm
  rw [if_neg fun both => older both.2]
  by_cases ready : direct.syncPoints.any direct.isSyncPointReady = true
  · refine .inl ⟨due.mpr ready, ?_⟩
    rw [if_pos (.inr ready), if_pos polled]
    simp [noError, polled]
  · refine .inr ⟨mt due.mp ready, ?_⟩
    rw [if_neg fun found => found.elim (fun error => error noError) ready]

/-- An error is stored on behalf of the AP. -/
lemma handleSignalError_propagate (direct : DirectFence) (error : Int) :
    direct.handleSignalError true error = if error = 0 then { direct with errorSetByKernel := true }
      else
        { direct with
          errorSetByKernel := true, entry := direct.entry.setError error, error := error } := by
  simp [handleSignalError]

/-- What reading the table leaves alone. -/
lemma syncStatus_kept (direct : DirectFence) :
    (direct.syncStatus invokePollCallbacksReusable).2.fenceType = direct.fenceType ∧
    (direct.syncStatus invokePollCallbacksReusable).2.timeout = direct.timeout ∧
    (direct.syncStatus invokePollCallbacksReusable).2.syncPoints = direct.syncPoints ∧
    (direct.syncStatus invokePollCallbacksReusable).2.entry = direct.entry ∧
    (direct.syncStatus invokePollCallbacksReusable).2.timeline = direct.tableStatus.2 := by
  simp only [syncStatus, invokePollCallbacksReusable]
  split_ifs with same
  · exact ⟨rfl, rfl, rfl, rfl, same.1⟩
  all_goals exact ⟨rfl, rfl, rfl, rfl, rfl⟩

lemma incTimeline_eq {entry : SignalEntry} (room : entry.timeline < 255) :
    entry.incTimeline = { entry with timeline := entry.timeline + 1 } := by
  unfold incTimeline
  rw [Nat.mod_eq_of_lt (by omega)]

lemma setError_timeline (entry : SignalEntry) (error : Int) :
    (entry.setError error).timeline = entry.timeline := by
  unfold setError
  split <;> rfl

/-- What a signal of the AP does to the timeline, in any case. -/
lemma signalReusable_timeline (direct : DirectFence) (error : Int)
    (reusable : direct.fenceType = .reusable) (small : direct.entry.timeline ≤ 255)
    (same : direct.timeline = direct.entry.timeline) :
    (direct.signalReusable true error).2.fenceType = .reusable ∧
    (direct.signalReusable true error).2.timeout = direct.timeout ∧
    (direct.signalReusable true error).2.syncPoints = direct.syncPoints ∧
    (direct.signalReusable true error).2.entry.timeline = min (direct.entry.timeline + 1) 255 ∧
    (direct.signalReusable true error).2.timeline =
      (direct.signalReusable true error).2.entry.timeline := by
  have limit : IIF_SIGNAL_TABLE_MAX_TIMELINE = 255 := rfl
  -- the fence whose table is read in the end
  obtain ⟨prepared, read, fenceType, timeout, syncPoints, timeline, table⟩ :
      ∃ prepared : DirectFence,
        direct.signalReusable true error = prepared.syncStatus invokePollCallbacksReusable ∧
        prepared.fenceType = direct.fenceType ∧ prepared.timeout = direct.timeout ∧
        prepared.syncPoints = direct.syncPoints ∧ prepared.timeline = direct.timeline ∧
        prepared.entry.timeline = min (direct.entry.timeline + 1) 255 := by
    refine ⟨_, rfl, ?_⟩
    simp only [handleSignalError_propagate, limit, and_true]
    by_cases room : direct.entry.timeline < 255
    · rw [if_pos room]
      split_ifs
      all_goals
        refine ⟨rfl, rfl, rfl, rfl, ?_⟩
        simp only [incTimeline, setError_timeline]
        omega
    · rw [if_neg room]
      split_ifs
      all_goals
        refine ⟨rfl, rfl, rfl, rfl, ?_⟩
        simp only [setError_timeline]
        omega
  obtain ⟨keptType, keptTimeout, keptPoints, keptEntry, moved⟩ := prepared.syncStatus_kept
  rw [read, keptType, keptTimeout, keptPoints, keptEntry, moved, fenceType, timeout, syncPoints, table]
  refine ⟨reusable, rfl, rfl, rfl, ?_⟩
  simp only [tableStatus, tableGetTimeline, fenceType, reusable, timeline, same, table]
  simp
  omega

/-- A signal of the AP before the timeout. -/
lemma signalReusable_running (noError : direct.error = 0) (clean : direct.entry.errored = false)
    (reusable : direct.fenceType = .reusable) (same : direct.timeline = direct.entry.timeline)
    (room : direct.entry.timeline < 255) (below : direct.entry.timeline + 1 < direct.timeout) :
    direct.signalReusable true 0 = invokePollCallbacksReusable { direct with
      errorSetByKernel := true
      entry := { direct.entry with timeline := direct.entry.timeline + 1 }
      timeline := direct.entry.timeline + 1 } := by
  have limit : IIF_SIGNAL_TABLE_MAX_TIMELINE = 255 := rfl
  have early : ¬ (direct.entry.timeline ≥ 255 ∨ direct.entry.timeline + 1 ≥ direct.timeout) := by
    omega
  simp only [signalReusable, limit, if_true, clean, Bool.false_eq_true, false_and, if_false,
    if_neg early, handleSignalError_propagate, room, and_self, incTimeline_eq room]
  simp [syncStatus, tableStatus, tableGetTimeline, noError, reusable, same]

/-- The signal of the AP that reaches the timeout. -/
lemma signalReusable_timeout (clean : direct.entry.errored = false)
    (reusable : direct.fenceType = .reusable) (polled : direct.polled = true)
    (same : direct.timeline = direct.entry.timeline)
    (room : direct.entry.timeline < 255) (reached : direct.timeout ≤ direct.entry.timeline + 1) :
    (direct.signalReusable true 0).1 = some ⟨-ETIMEDOUT, false, direct.entry.timeline + 1⟩ ∧
      (direct.signalReusable true 0).2.lastPollTimeline = direct.entry.timeline + 1 := by
  have limit : IIF_SIGNAL_TABLE_MAX_TIMELINE = 255 := rfl
  have late : direct.entry.timeline ≥ 255 ∨ direct.entry.timeline + 1 ≥ direct.timeout :=
    .inr reached
  have error : -ETIMEDOUT ≠ 0 := by decide
  have entry : (direct.entry.setError (-ETIMEDOUT)).timeline < 255 := by
    rw [setError_timeline]
    exact room
  simp only [signalReusable, limit, if_true, clean, Bool.false_eq_true, false_and, if_false,
    if_pos late, handleSignalError_propagate, if_neg error, room, and_self, incTimeline_eq entry]
  simp [syncStatus, tableStatus, tableGetTimeline, setError, error, reusable, same,
    invokePollCallbacksReusable, polled]

/-- The timeline of the last notification after a report. -/
def lastAfter (last : Int) : Option Status → Int
  | none => last
  | some status => status.timeline

variable {timeout signals : Nat} {points : List SyncPoint} {last : Int}

section

variable (tracks : direct.Tracks timeout signals points last)
include tracks

lemma Tracks.room (running : signals = 0 ∨ signals < direct.timeout) :
    direct.entry.timeline = signals ∧ direct.entry.timeline < 255 := by
  have limit : IIF_SIGNAL_TABLE_MAX_TIMELINE = 255 := rfl
  have bound := tracks.timeout_le
  have table := tracks.table
  omega

/-- A signal that stays below the timeout reports what is due. -/
lemma Tracks.signal_running (below : signals + 1 < direct.timeout) :
    (NotifyDue points last (signals + 1) ∧ (direct.signal true 0).1 = some ⟨0, false, signals + 1⟩ ∨
      ¬ NotifyDue points last (signals + 1) ∧ (direct.signal true 0).1 = none) ∧
    (direct.signal true 0).2.Running (lastAfter last (direct.signal true 0).1) := by
  have bound := tracks.timeout_le
  obtain ⟨entry, room⟩ := tracks.room (.inr (by omega))
  obtain ⟨noError, clean, polled, lastPoll, past⟩ := tracks.running (.inr (by omega))
  have ran := signalReusable_running noError clean tracks.fenceType tracks.timeline room
    (by omega : direct.entry.timeline + 1 < direct.timeout)
  simp only [signal, tracks.fenceType]
  rw [ran]
  rcases @invokePollCallbacksReusable_running { direct with
      errorSetByKernel := true
      entry := { direct.entry with timeline := direct.entry.timeline + 1 }
      timeline := direct.entry.timeline + 1 } points noError polled tracks.syncPoints tracks.positive
      (by dsimp only; omega) with ⟨due, invoked⟩ | ⟨quiet, skipped⟩
  · rw [invoked]
    simp only [lastPoll, entry] at due ⊢
    refine ⟨.inl ⟨due, by congr⟩, noError, clean, polled, ?_, ?_⟩
    · simp only [lastAfter]
      omega
    · simp only [lastAfter]
      omega
  · rw [skipped]
    simp only [lastPoll, entry] at quiet ⊢
    refine ⟨.inr ⟨quiet, trivial⟩, noError, clean, polled, rfl, ?_⟩
    have now := tracks.timeline
    simp only [lastAfter]
    omega

/-- Every signal of the AP advances the timeline, up to 255. -/
lemma Tracks.signal : (direct.signal true 0).2.Tracks timeout (signals + 1) points
      (lastAfter last (direct.signal true 0).1) := by
  have limit : IIF_SIGNAL_TABLE_MAX_TIMELINE = 255 := rfl
  have table := tracks.table
  have moved := direct.signalReusable_timeline 0 tracks.fenceType (by omega) tracks.timeline
  have same : direct.signal true 0 = direct.signalReusable true 0 := by
    simp only [DirectFence.signal, tracks.fenceType]
  obtain ⟨fenceType, keptTimeout, syncPoints, entry, timeline⟩ := moved
  refine ⟨?_, ?_, ?_, ?_, ?_, tracks.positive, fun running => ?_⟩
  · rw [same]
    exact fenceType
  · rw [same, keptTimeout]
    exact tracks.limit
  · rw [same, entry]
    omega
  · rw [same]
    exact timeline
  · rw [same, syncPoints]
    exact tracks.syncPoints
  · rw [same, keptTimeout] at running
    exact (tracks.signal_running (by omega)).2

/-- The signal that reaches the timeout reports it. -/
lemma Tracks.signal_timeout (running : signals = 0 ∨ signals < direct.timeout)
    (reached : direct.timeout ≤ signals + 1) :
    (direct.signal true 0).1 = some ⟨-ETIMEDOUT, false, signals + 1⟩ := by
  obtain ⟨entry, room⟩ := tracks.room running
  obtain ⟨-, clean, polled, -, -⟩ := tracks.running running
  simp only [DirectFence.signal, tracks.fenceType]
  rw [(signalReusable_timeout clean tracks.fenceType polled tracks.timeline room
    (by omega)).1, entry]

end

lemma invokePollCallbacksReusable_kept (direct : DirectFence) :
    direct.invokePollCallbacksReusable.2.fenceType = direct.fenceType ∧
    direct.invokePollCallbacksReusable.2.timeout = direct.timeout ∧
    direct.invokePollCallbacksReusable.2.syncPoints = direct.syncPoints ∧
    direct.invokePollCallbacksReusable.2.entry = direct.entry ∧
    direct.invokePollCallbacksReusable.2.timeline = direct.timeline := by
  simp only [invokePollCallbacksReusable]
  split_ifs <;> exact ⟨rfl, rfl, rfl, rfl, rfl⟩

variable {start count : Nat}

/-- An accepted sync point is stored, and the callback invoked if that is due. -/
lemma addSyncPoint_accepted (accepted : (direct.addSyncPoint start count).1 = 0) :
    SyncPoint.Positive ⟨start, count⟩ ∧
      direct.addSyncPoint start count = (0, invokePollCallbacksReusable
      { direct with
        syncPoints := direct.syncPoints ++ [SyncPoint.clamped ⟨start, count⟩] }) := by
  have refusals : -EOPNOTSUPP ≠ 0 ∧ -ENOSPC ≠ 0 ∧ -EINVAL ≠ 0 := by decide
  unfold addSyncPoint at accepted ⊢
  split_ifs at accepted ⊢ with other full empty
  · exact absurd accepted refusals.1
  · exact absurd accepted refusals.2.1
  · exact absurd accepted refusals.2.2
  · exact ⟨⟨fun zero => empty (.inl zero), fun zero => empty (.inr zero)⟩, rfl⟩

lemma addSyncPoint_refused (refused : (direct.addSyncPoint start count).1 ≠ 0) :
    (direct.addSyncPoint start count).2 = (none, direct) := by
  unfold addSyncPoint at refused ⊢
  split_ifs at refused ⊢
  · rfl
  · rfl
  · rfl
  · exact absurd rfl refused

/-- An accepted sync point reports what is due, while the fence is running. -/
lemma Tracks.addSyncPoint (tracks : direct.Tracks timeout signals points last)
    (accepted : (direct.addSyncPoint start count).1 = 0) :
    (direct.addSyncPoint start count).2.2.Tracks timeout signals (points ++ [⟨start, count⟩])
      (lastAfter last (direct.addSyncPoint start count).2.1) ∧
    (signals = 0 ∨ signals < direct.timeout → (NotifyDue (points ++ [⟨start, count⟩]) last signals ∧
        (direct.addSyncPoint start count).2.1 = some ⟨0, false, signals⟩ ∨
        ¬ NotifyDue (points ++ [⟨start, count⟩]) last signals ∧
          (direct.addSyncPoint start count).2.1 = none)) := by
  obtain ⟨nonzero, stored⟩ := addSyncPoint_accepted accepted
  have positive : ∀ point ∈ points ++ [⟨start, count⟩], point.Positive :=
    List.forall_mem_append.mpr ⟨tracks.positive, by simpa using nonzero⟩
  have mapped : direct.syncPoints ++ [clamped ⟨start, count⟩] =
      (points ++ [(⟨start, count⟩ : SyncPoint)]).map clamped := by
    rw [tracks.syncPoints, List.map_append, List.map_singleton]
  rw [stored]
  obtain ⟨fenceType, keptTimeout, syncPoints, entry, timeline⟩ := invokePollCallbacksReusable_kept
    { direct with syncPoints := direct.syncPoints ++ [clamped ⟨start, count⟩] }
  have reported : signals = 0 ∨ signals < direct.timeout →
      (NotifyDue (points ++ [⟨start, count⟩]) last signals ∧ invokePollCallbacksReusable { direct with
          syncPoints := direct.syncPoints ++ [clamped ⟨start, count⟩] } =
        (some ⟨0, false, signals⟩, { direct with
          syncPoints := direct.syncPoints ++ [clamped ⟨start, count⟩]
          lastPollTimeline := direct.timeline })) ∨
      (¬ NotifyDue (points ++ [⟨start, count⟩]) last signals ∧ invokePollCallbacksReusable { direct with
          syncPoints := direct.syncPoints ++ [clamped ⟨start, count⟩] } =
        (none, { direct with
          syncPoints := direct.syncPoints ++ [clamped ⟨start, count⟩] })) := by
    intro running
    obtain ⟨same, room⟩ := tracks.room running
    obtain ⟨noError, clean, polled, lastPoll, past⟩ := tracks.running running
    have now : direct.timeline = signals := by rw [tracks.timeline, same]
    have invoked := @invokePollCallbacksReusable_running
      { direct with syncPoints := direct.syncPoints ++ [clamped ⟨start, count⟩] }
      (points ++ [⟨start, count⟩]) noError polled mapped positive (by dsimp only; omega)
    simpa only [lastPoll, now, Int.toNat_natCast] using invoked
  refine ⟨⟨fenceType.trans tracks.fenceType, keptTimeout.trans tracks.limit, ?_, ?_,
    syncPoints.trans mapped, positive, fun running => ?_⟩, fun running => ?_⟩
  · rw [entry]
    exact tracks.table
  · rw [timeline, entry]
    exact tracks.timeline
  · rw [keptTimeout] at running
    obtain ⟨noError, clean, polled, lastPoll, past⟩ := tracks.running running
    obtain ⟨same, -⟩ := tracks.room running
    have now : direct.timeline = signals := by rw [tracks.timeline, same]
    rcases reported running with ⟨-, invoked⟩ | ⟨-, skipped⟩
    · rw [invoked]
      exact ⟨noError, clean, polled, now, now.ge⟩
    · rw [skipped]
      exact ⟨noError, clean, polled, lastPoll, past⟩
  · rcases reported running with ⟨due, invoked⟩ | ⟨quiet, skipped⟩
    · exact .inl ⟨due, by rw [invoked]⟩
    · exact .inr ⟨quiet, by rw [skipped]⟩

end DirectFence

end GsKernel.Iif
