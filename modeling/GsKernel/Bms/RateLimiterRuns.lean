import GsKernel.Bms.RateLimiter

/-!
# Sequences of updates of the reported state of charge

An update takes the level that the last one reported, and from the first one on the state is
settled: target and level are percentages and the level is not below its floor.
-/

namespace GsKernel.Bms

open Lib.FixedPoint BattSsocState

/-- An update: the raw level, the value that the curve has for it, whether the charger is
connected, and the time. -/
structure LimiterCall where
  soc : Int
  uic : Int
  buckEnabled : Int
  now : Int

/-- The driver's state when the value of the curve is known. -/
def BattSsocState.sensed (ssoc : BattSsocState) (call : LimiterCall) : BattSsocState :=
  { ssoc with ssocGdf := call.soc, ssocUic := call.uic, buckEnabled := call.buckEnabled }

/-- One update. -/
def BattSsocState.limiterStep (ssoc : BattSsocState) (call : LimiterCall) : BattSsocState :=
  ssocLimit (ssoc.sensed call) call.now

/-- An `ssoc_update` is an update with the value of the curve. -/
lemma ssocUpdate_eq_limiterStep (ssoc : BattSsocState) (soc now : Int) :
    ssocUpdate ssoc soc now = (ssocUicurveMap soc ssoc.ssocCurve).map fun uic =>
      ssoc.limiterStep ⟨soc, uic, ssoc.buckEnabled, now⟩ :=
  rfl

/-- The most that an update may move the level: the allowance, for the time since the last
update, of the limiter with the target that is latched. -/
def BattSsocState.maxDelta (ssoc : BattSsocState) (call : LimiterCall) : Int :=
  (ssocPrepare (ssoc.sensed call)).latched.allowance call.now

/-- The first value of the curve is a percentage, or so close to one that the first update
reaches it. A value below zero is left only with the charger connected. -/
def BattSsocState.FirstSettles (ssoc : BattSsocState) (call : LimiterCall) : Prop :=
  InHundred call.uic ∨ (qnumFromint 100 < call.uic ∨ call.uic < 0 ∧ call.buckEnabled ≠ 0) ∧
      (ssoc.ssocRlState.rlTrackTarget = true ∨
        call.uic - qnumFromint 100 ≤ ssoc.maxDelta call ∧ -call.uic ≤ ssoc.maxDelta call)

/-- The first value of the curve settles, and no allowance wraps to a negative number. -/
structure BattSsocState.Meets (ssoc : BattSsocState) (call : LimiterCall) : Prop where
  first : ssoc.ssocRlState.rlSsocTarget = -1 → ssoc.FirstSettles call
  allowed : ssoc.ssocRlState.rlTrackTarget = false → 0 ≤ ssoc.maxDelta call

section Calls

variable {ssoc : BattSsocState} {call : LimiterCall}

/-- After the first update the limiter starts from the level it reported. -/
lemma ssocPrepare_rl (started : ssoc.ssocRlState.rlSsocTarget ≠ -1) :
    (ssocPrepare ssoc).ssocRl = ssoc.ssocRl := by
  simp only [ssocPrepare, ssocFirstTarget, if_neg started]

lemma ssocPrepare_rl_first (fresh : ssoc.ssocRlState.rlSsocTarget = -1) :
    (ssocPrepare ssoc).ssocRl = ssoc.ssocUic := by
  simp only [ssocPrepare, ssocFirstTarget, if_pos fresh]

lemma ssocPrepare_buckEnabled : (ssocPrepare ssoc).buckEnabled = ssoc.buckEnabled := by
  simp only [ssocPrepare, ssocFirstTarget]
  split <;> rfl

lemma ssocPrepare_rlTrackTarget :
    (ssocPrepare ssoc).ssocRlState.rlTrackTarget = ssoc.ssocRlState.rlTrackTarget := by
  simp only [ssocPrepare, ssocFirstTarget]
  split <;> rfl

lemma ssocPrepare_rlSsocLastUpdate :
    (ssocPrepare ssoc).ssocRlState.rlSsocLastUpdate = ssoc.ssocRlState.rlSsocLastUpdate := by
  simp only [ssocPrepare, ssocFirstTarget]
  split <;> rfl

/-- The floor is never set up again. -/
lemma ssocPrepare_rlNoZero (noZero : (ssocPrepare ssoc).ssocRlState.rlNoZero = true) :
    ssoc.ssocRlState.rlNoZero = true := by
  simp only [ssocPrepare, ssocFirstTarget] at noZero
  split at noZero <;> exact (Bool.and_eq_true _ _ ▸ noZero).1

/-- Updates do not change the configuration. -/
lemma latched_whole (whole : ssoc.ssocRlState.Whole) (call : LimiterCall) :
    (ssocPrepare (ssoc.sensed call)).latched.Whole := by
  unfold ssocPrepare ssocFirstTarget latched
  dsimp only
  split <;> exact ⟨whole.soc, whole.time, whole.ratios⟩

lemma limiterStep_whole (whole : ssoc.ssocRlState.Whole) (call : LimiterCall) :
    (ssoc.limiterStep call).ssocRlState.Whole := by
  have latched := latched_whole whole call
  exact ⟨latched.soc, latched.time, latched.ratios⟩

/-- With a rate of whole percents and a clock that does not run backward no allowance wraps. -/
lemma BattSsocState.Meets.of_whole (whole : ssoc.ssocRlState.Whole)
    (first : ssoc.ssocRlState.rlSsocTarget = -1 → ssoc.FirstSettles call)
    (forward : ssoc.ssocRlState.rlSsocLastUpdate ≤ call.now)
    (short : call.now - ssoc.ssocRlState.rlSsocLastUpdate < 2 ^ 56) : ssoc.Meets call := by
  refine ⟨first, fun _ => ?_⟩
  have elapsed : toQnumd (call.now - ssoc.ssocRlState.rlSsocLastUpdate) =
      call.now - ssoc.ssocRlState.rlSsocLastUpdate :=
    wrap_of_fits (by omega) (by omega)
  unfold maxDelta BattSsocRlState.allowance
  rw [show (ssocPrepare (ssoc.sensed call)).latched.rlSsocLastUpdate =
    ssoc.ssocRlState.rlSsocLastUpdate from ssocPrepare_rlSsocLastUpdate, elapsed]
  exact ssocRlMaxDelta_nonneg (latched_whole whole call) (by omega) short

lemma BattSsocState.Meets.allows (meets : ssoc.Meets call) :
    (ssocPrepare (ssoc.sensed call)).latched.Allows call.now := by
  intro limits
  have unlimited : (ssocPrepare (ssoc.sensed call)).ssocRlState.rlTrackTarget = false := limits
  rw [ssocPrepare_rlTrackTarget] at unlimited
  exact meets.allowed unlimited

/-- No update has been made, or the state is settled. -/
def BattSsocState.Tracked (ssoc : BattSsocState) : Prop :=
  ssoc.ssocRlState.rlSsocTarget = -1 ∨ ssoc.Settled

lemma ssocPrepare_target_first (fresh : ssoc.ssocRlState.rlSsocTarget = -1) :
    (ssocPrepare ssoc).latched.rlSsocTarget =
      ssocRlTarget (decide (ssoc.buckEnabled ≠ 0)) ssoc.ssocUic ssoc.ssocUic := by
  simp only [latched, ssocPrepare, ssocFirstTarget, if_pos fresh]

/-- The first update from a value outside of the percentages that is close enough. -/
lemma unfloored_first (fresh : ssoc.ssocRlState.rlSsocTarget = -1) (meets : ssoc.Meets call)
    (outside : qnumFromint 100 < call.uic ∨ call.uic < 0 ∧ call.buckEnabled ≠ 0)
    (near : ssoc.ssocRlState.rlTrackTarget = true ∨
      call.uic - qnumFromint 100 ≤ ssoc.maxDelta call ∧ -call.uic ≤ ssoc.maxDelta call) :
    InHundred ((ssocPrepare (ssoc.sensed call)).unfloored call.now) := by
  have isFresh : (ssoc.sensed call).ssocRlState.rlSsocTarget = -1 := fresh
  have isTarget : InHundred (ssocPrepare (ssoc.sensed call)).latched.rlSsocTarget :=
    ssocRlTarget_mem _ _ _
  have target := ssocPrepare_target_first isFresh
  have clamped : (ssocPrepare (ssoc.sensed call)).latched.rlSsocTarget =
      if qnumFromint 100 < call.uic then qnumFromint 100
      else if call.uic < 0 then 0 else call.uic := by
    rw [target]
    change ssocRlTarget _ call.uic call.uic = _
    simp only [ssocRlTarget, qnumFromint_hundred, qnumFromint_zero]
    split_ifs <;> omega
  have reaches : ssocRlLimited (ssocPrepare (ssoc.sensed call)).latched call.uic call.now =
      (ssocPrepare (ssoc.sensed call)).latched.rlSsocTarget := by
    refine ssocRlLimited_reaches isTarget meets.allows ?_
    rw [clamped, ← maxDelta]
    rcases near with tracks | near
    · exact .inl (ssocPrepare_rlTrackTarget.trans tracks)
    · right
      rw [qnumFromint_hundred] at *
      split_ifs <;> omega
  unfold unfloored
  rw [ssocPrepare_rl_first isFresh, show (ssoc.sensed call).ssocUic = call.uic from rfl, reaches,
    ssocPrepare_buckEnabled, show (ssoc.sensed call).buckEnabled = call.buckEnabled from rfl]
  unfold ssocRlConnected
  rw [if_neg, clamped]
  · rw [← clamped]
    exact isTarget
  · rw [clamped]
    rintro ⟨disconnected, rises⟩
    rcases outside with above | ⟨below, connected⟩
    · rw [if_pos above] at rises
      omega
    · simp [connected] at disconnected

lemma BattSsocState.Tracked.unfloored (tracked : ssoc.Tracked) (meets : ssoc.Meets call) :
    InHundred ((ssocPrepare (ssoc.sensed call)).unfloored call.now) := by
  by_cases fresh : ssoc.ssocRlState.rlSsocTarget = -1
  · rcases meets.first fresh with percent | ⟨outside, near⟩
    · refine unfloored_mem ?_ meets.allows
      rw [ssocPrepare_rl_first (show (ssoc.sensed call).ssocRlState.rlSsocTarget = -1 from fresh)]
      exact percent
    · exact unfloored_first fresh meets outside near
  · refine unfloored_mem ?_ meets.allows
    rw [ssocPrepare_rl (show (ssoc.sensed call).ssocRlState.rlSsocTarget ≠ -1 from fresh)]
    exact (tracked.resolve_left fresh).level

lemma BattSsocState.Tracked.settled (tracked : ssoc.Tracked) (meets : ssoc.Meets call) :
    (ssoc.limiterStep call).Settled :=
  ssocApplyRl_settled (tracked.unfloored meets)

section

variable (settled : ssoc.Settled)
include settled

namespace BattSsocState.Settled

lemma started : ssoc.ssocRlState.rlSsocTarget ≠ -1 := by
  have nonneg := settled.target.1
  omega

lemma prepared_floor (noZero : (ssocPrepare (ssoc.sensed call)).ssocRlState.rlNoZero = true) :
    qnumFromint 1 ≤ (ssocPrepare (ssoc.sensed call)).ssocRl := by
  have hadFloor : (ssoc.sensed call).ssocRlState.rlNoZero = true := ssocPrepare_rlNoZero noZero
  rw [ssocPrepare_rl (show (ssoc.sensed call).ssocRlState.rlSsocTarget ≠ -1 from settled.started)]
  exact settled.floor hadFloor

lemma moves (meets : ssoc.Meets call) (limits : ssoc.ssocRlState.rlTrackTarget = false) :
    MovesToward ssoc.ssocRl (ssoc.limiterStep call).ssocRl
      (ssoc.limiterStep call).ssocRlState.rlSsocTarget (ssoc.maxDelta call) := by
  have started : (ssoc.sensed call).ssocRlState.rlSsocTarget ≠ -1 := settled.started
  have isLevel : InHundred (ssocPrepare (ssoc.sensed call)).ssocRl := by
    rw [ssocPrepare_rl started]
    exact settled.level
  have moves := ssocApplyRl_moves isLevel meets.allows settled.prepared_floor
    (ssocPrepare_rlTrackTarget.trans limits)
  rwa [ssocPrepare_rl started] at moves

lemma le (disconnected : call.buckEnabled = 0) : (ssoc.limiterStep call).ssocRl ≤ ssoc.ssocRl := by
  have falls : (ssoc.limiterStep call).ssocRl ≤ (ssocPrepare (ssoc.sensed call)).ssocRl :=
    ssocApplyRl_le settled.prepared_floor (ssocPrepare_buckEnabled.trans disconnected)
  rwa [ssocPrepare_rl
    (show (ssoc.sensed call).ssocRlState.rlSsocTarget ≠ -1 from settled.started)] at falls

lemma capacity : 0 ≤ ssocGetCapacity ssoc ∧ ssocGetCapacity ssoc ≤ 100 := by
  have level := settled.level
  simp only [InHundred, qnumFromint_hundred] at level
  unfold ssocGetCapacity qnumRoundint qnumToint
  rw [show qnumRconst (1 / 2) = 8388608 by decide +kernel,
    toQnum_of_fits (by omega) (by omega), show (2 : Int) ^ qnumFbits = 16777216 from rfl]
  omega

end BattSsocState.Settled

end

end Calls

/-- For any values of the curve, any configuration and any times. In every sequence of updates
in which the first value of the curve settles and no allowance wraps to a negative number,
each update leaves a level between zero and a hundred percent and reports a whole percentage;
while the limiter is in use, each update after the first moves the level toward the target,
not past it and by no more than the allowance; and none of them raises it while the charger
is disconnected. -/
theorem ssoc_rl_honest (start : BattSsocState)
    (fresh : start.ssocRlState.rlSsocTarget = -1) (calls : List LimiterCall)
    (along : Lib.Runs.Along BattSsocState.limiterStep BattSsocState.Meets start calls)
    (ssoc : BattSsocState) (reached : ssoc = calls.foldl BattSsocState.limiterStep start)
    (call : LimiterCall) (meets : ssoc.Meets call) :
    InHundred (ssoc.limiterStep call).ssocRl ∧ 0 ≤ ssocGetCapacity (ssoc.limiterStep call) ∧
      ssocGetCapacity (ssoc.limiterStep call) ≤ 100 ∧
      (calls ≠ [] → (ssoc.ssocRlState.rlTrackTarget = false →
          MovesToward ssoc.ssocRl (ssoc.limiterStep call).ssocRl
            (ssoc.limiterStep call).ssocRlState.rlSsocTarget (ssoc.maxDelta call)) ∧
        (call.buckEnabled = 0 → (ssoc.limiterStep call).ssocRl ≤ ssoc.ssocRl)) := by
  have settled : calls ≠ [] → ssoc.Settled := by
    intro notFirst
    cases calls with
    | nil => exact absurd rfl notFirst
    | cons first rest =>
      have afterFirst : (start.limiterStep first).Settled :=
        Tracked.settled (.inl fresh) along.1
      rw [reached]
      exact Lib.Runs.foldl_invariant_along Settled limiterStep Meets (fun _ _ settled meets =>
          Tracked.settled (.inr settled) meets) rest afterFirst along.2
  have tracked : ssoc.Tracked := by
    by_cases first : calls = []
    · exact .inl (by rw [reached, first]; exact fresh)
    · exact .inr (settled first)
  have next := tracked.settled meets
  refine ⟨next.level, next.capacity.1, next.capacity.2, fun notFirst => ⟨?_, ?_⟩⟩
  · exact fun limits => (settled notFirst).moves meets limits
  · exact fun disconnected => (settled notFirst).le disconnected

/-- A limiter of one percent in fifteen seconds with a floor of one percent, which slows down
below twenty percent. -/
def onePercentLimiter : BattSsocState where
  ssocGdf := 0
  ssocCurveType := .none
  ssocCurve := chgCurve
  ssocUic := 0
  ssocRl := 0
  ssocRlState := ⟨-1, 0, true, false, false, 15, qnumFromint 1, [(qnumFromint 20, 20)], 0, 0⟩
  buckEnabled := 0
  rlSocThreshold := 97
  pointFullUiSoc := disablePointFullUiSoc

/-- The battery falls from 50 to 40 percent within a minute without a charger. -/
theorem ssoc_rl_honest_falls :
    let ssoc := onePercentLimiter.limiterStep ⟨qnumFromint 50, qnumFromint 50, 0, 100⟩
    (ssoc.limiterStep ⟨qnumFromint 40, qnumFromint 40, 0, 160⟩).ssocRl ≤ ssoc.ssocRl := by
  have whole : onePercentLimiter.ssocRlState.Whole :=
    ⟨⟨1, by decide, by decide, rfl⟩, by decide, by decide⟩
  have first : onePercentLimiter.Meets ⟨qnumFromint 50, qnumFromint 50, 0, 100⟩ :=
    .of_whole whole (fun _ => .inl (by decide)) (by decide) (by decide)
  have second : (onePercentLimiter.limiterStep ⟨qnumFromint 50, qnumFromint 50, 0, 100⟩).Meets
      ⟨qnumFromint 40, qnumFromint 40, 0, 160⟩ :=
    .of_whole (limiterStep_whole whole _) (fun _ => .inl (by decide)) (by decide) (by decide)
  exact ((ssoc_rl_honest onePercentLimiter rfl [⟨qnumFromint 50, qnumFromint 50, 0, 100⟩]
    ⟨first, trivial⟩ _ rfl _ second).2.2.2 (by simp)).2 rfl

/-- A limiter of twenty percent in a second, ten times as fast below a hundred percent. -/
def fastLimiter : BattSsocState :=
  { onePercentLimiter with
    ssocRlState := ⟨-1, 0, false, false, false, 1, qnumFromint 20, [(qnumFromint 100, 1)], 0, 0⟩ }

/-- The allowance for one second of 200 percent wraps to minus 56 percent, and the level leaves
its target by that much. And a first value of the curve over a hundred percent is reported. -/
theorem ssoc_rl_dishonest :
    let half : LimiterCall := ⟨qnumFromint 50, qnumFromint 50, 1, 0⟩
    let ssoc := fastLimiter.limiterStep half
    ssoc.ssocRl = qnumFromint 50 ∧
      (ssoc.limiterStep { half with now := 1 }).ssocRl = qnumFromint 106 ∧
      (ssoc.limiterStep { half with now := 1 }).ssocRlState.rlSsocTarget = qnumFromint 50 ∧
      (fastLimiter.limiterStep ⟨qnumFromint 120, ssocPointFull, 1, 0⟩).ssocRl =
        qnumFromint 100 + 50 := by
  decide +kernel

end GsKernel.Bms
