import GsKernel.Iif.Poll

/-!
# The timeline of a reusable fence

A sync-unit reports the timeline of a reusable fence as an `u64`, which
`iif_fence_set_status_locked` keeps in an `int` before it compares it with the timeline of
the fence. Reports that the `int` represents raise the timeline to their maximum.
-/

namespace GsKernel.Iif

variable {κ : Type*}

/-- A report of the sync-unit, with the flags of the fence and the callbacks that are
registered when it arrives. -/
structure TimelineReport (κ : Type*) where
  status : Status
  flags : Flags
  callbacks : List κ

namespace PollState

variable (poll : PollState κ)

/-- A reusable fence after a report. -/
def receive (report : TimelineReport κ) : PollState κ :=
  { poll with pollCbList := report.callbacks }.pollCbFuncLocked .reusable report.flags report.status

/-- Whether `iif_fence_poll_cb_func_locked` goes on to schedule the work and to notify the
callbacks. -/
def updatedBy (report : TimelineReport κ) : Bool := (poll.setStatusLocked .reusable report.status).1

lemma timeline_notifyPollCbLocked (fenceType : FenceType) (flags : Flags) :
    (poll.notifyPollCbLocked fenceType flags).timeline = poll.timeline := by
  simp only [notifyPollCbLocked, notifySingleShotLocked, notifyReusableLocked]
  split
  · rfl
  · cases fenceType with
    | singleShot =>
      dsimp only
      split <;> rfl
    | reusable => rfl

lemma timeline_receive (report : TimelineReport κ) :
    (poll.receive report).timeline = max poll.timeline (throughInt report.status.timeline) := by
  unfold receive pollCbFuncLocked setStatusLocked
  dsimp only
  split_ifs
  · exact timeline_notifyPollCbLocked _ _ _
  · rfl

/-- A report without an error keeps the stored one, so only its timeline can update the
fence. -/
lemma updatedBy_iff {report : TimelineReport κ} (errorless : report.status.error = 0) :
    poll.updatedBy report = true ↔ poll.timeline < throughInt report.status.timeline := by
  have kept : poll.nextError report.status = poll.signalError := by
    simp only [nextError, errorless]
    split <;> simp_all [MAX_ERRNO]
  simp [updatedBy, setStatusLocked, kept]

/-- After each report the timeline is the maximum of those reported so far, and the report
is an update exactly when it raises that maximum. -/
def FollowsMaximum (poll : PollState κ) (highest : Nat) : List (TimelineReport κ) → Prop
  | [] => True
  | report :: reports =>
    (poll.receive report).timeline = max highest report.status.timeline ∧
      (poll.updatedBy report = true ↔ highest < report.status.timeline) ∧
      FollowsMaximum (poll.receive report) (max highest report.status.timeline) reports

end PollState

/-- Each timeline reported is the same as an `int`, or lies with its image below the
maximum reported before. -/
def Represented (highest : Nat) : List (TimelineReport κ) → Prop
  | [] => True
  | report :: reports =>
    (throughInt report.status.timeline = report.status.timeline ∨
      report.status.timeline ≤ highest ∧ throughInt report.status.timeline ≤ highest) ∧
      Represented (max highest report.status.timeline) reports

/-- A reusable fence follows the maximum of the timelines that its sync-unit reports without
an error exactly when they are represented. A new fence is at timeline zero. -/
theorem reusable_timeline_is_maximum (poll : PollState κ) (highest : Nat)
    (reached : poll.timeline = highest) (reports : List (TimelineReport κ))
    (errorless : ∀ report ∈ reports, report.status.error = 0) :
    poll.FollowsMaximum highest reports ↔ Represented highest reports := by
  induction reports generalizing poll highest with
  | nil => exact Iff.rfl
  | cons report reports ih =>
    have first := poll.timeline_receive report
    have updated := poll.updatedBy_iff (errorless report List.mem_cons_self)
    have rest := fun raised => ih (poll.receive report) (max highest report.status.timeline) raised
      fun later inside => errorless later (List.mem_cons_of_mem _ inside)
    simp only [PollState.FollowsMaximum, Represented, updated, first, reached] at rest ⊢
    constructor
    · rintro ⟨raised, raises, follows⟩
      exact ⟨by omega, (rest raised).1 follows⟩
    · rintro ⟨same, represented⟩
      have raised : max highest (throughInt report.status.timeline) =
          max highest report.status.timeline := by omega
      exact ⟨raised, by omega, (rest raised).2 represented⟩

/-- A report without an error, to a fence without callbacks. -/
def plainReport (timeline : Nat) : TimelineReport Unit :=
  ⟨⟨0, false, timeline⟩, ⟨false, false, false⟩, []⟩

theorem reusable_timeline_is_maximum_threeReports :
    PollState.FollowsMaximum ⟨false, 0, 0, false, [], []⟩ 0
      [plainReport 5, plainReport 3, plainReport 7] :=
  (reusable_timeline_is_maximum _ 0 rfl _ (by simp [plainReport])).2
    ⟨.inl (by decide), .inl (by decide), .inl (by decide), trivial⟩

/-- The timeline `2 ^ 32` is cut to zero: the fence stays where it is. -/
theorem reusable_timeline_cut :
    ¬ PollState.FollowsMaximum ⟨false, 0, 0, false, [], []⟩ 0 [plainReport (2 ^ 32)] := by
  rintro ⟨raised, -⟩
  exact absurd raised (by decide)

end GsKernel.Iif
