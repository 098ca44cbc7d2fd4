import GsKernel.Bms.Uicurve

/-!
# The rate limiter of the reported state of charge

Each update latches a target and moves the reported level toward it by at most what the elapsed
time allows, computed in 32 bits. While that has not wrapped to a negative number, the level stays
a percentage, does not pass the target, and does not rise without a charger.
-/

namespace GsKernel.Bms

open Lib.FixedPoint Int

/-! ## The allowance -/

lemma ssocRlScaleDelta_lt (target : Int) {maxDelta : Int} (fits : maxDelta < 2 ^ 31)
    (limits : List (Int × Int)) : ssocRlScaleDelta target maxDelta limits < 2 ^ 31 := by
  induction limits with
  | nil => exact fits
  | cons entry rest ih =>
    have bounds := wrap_bounds 32 ((maxDelta * 10).tdiv entry.2)
    unfold ssocRlScaleDelta
    split
    · exact fits
    split
    · unfold toQnum
      omega
    · exact ih

lemma ssocRlMaxDelta_lt (rls : BattSsocRlState) (deltaTime : Int) :
    ssocRlMaxDelta rls deltaTime < 2 ^ 31 := by
  have bounds := wrap_bounds 32 ((toQnumd (rls.rlDeltaMaxSoc * deltaTime)).tdiv
    (if rls.rlDeltaMaxTime ≠ 0 then rls.rlDeltaMaxTime else 1))
  have fits : toQnum ((toQnumd (rls.rlDeltaMaxSoc * deltaTime)).tdiv
      (if rls.rlDeltaMaxTime ≠ 0 then rls.rlDeltaMaxTime else 1)) < 2 ^ 31 := by
    unfold toQnum
    omega
  simp only [ssocRlMaxDelta]
  split
  · decide
  split
  · exact fits
  · exact ssocRlScaleDelta_lt _ fits _

/-- A rate of whole percents over a positive time, with ratios that do not raise it. -/
structure BattSsocRlState.Whole (rls : BattSsocRlState) : Prop where
  soc : ∃ percent, 1 ≤ percent ∧ percent ≤ 100 ∧ rls.rlDeltaMaxSoc = qnumFromint percent
  time : 0 < rls.rlDeltaMaxTime ∧ rls.rlDeltaMaxTime < 2 ^ 31
  ratios : ∀ entry ∈ rls.rlDeltaSoc, 10 ≤ entry.2

lemma ssocRlScaleDelta_nonneg (target : Int) {maxDelta : Int} (nonneg : 0 ≤ maxDelta)
    (fits : maxDelta < 2 ^ 31) {limits : List (Int × Int)}
    (ratios : ∀ entry ∈ limits, 10 ≤ entry.2) : 0 ≤ ssocRlScaleDelta target maxDelta limits := by
  induction limits with
  | nil => exact nonneg
  | cons entry rest ih =>
    have ratio : 10 ≤ entry.2 := ratios entry List.mem_cons_self
    have smaller : maxDelta * 10 / entry.2 ≤ maxDelta :=
      Int.ediv_le_of_le_mul (by omega) (Int.mul_le_mul_of_nonneg_left ratio nonneg)
    have quotient : 0 ≤ maxDelta * 10 / entry.2 := ediv_nonneg (by omega) (by omega)
    unfold ssocRlScaleDelta
    split
    · exact nonneg
    split
    · rw [tdiv_eq_ediv_of_nonneg (by omega), toQnum_of_fits (by omega) (by omega)]
      exact quotient
    · exact ih fun other isOther => ratios other (List.mem_cons_of_mem _ isOther)

/-- With a rate of whole percents the allowance never wraps. -/
lemma ssocRlMaxDelta_nonneg {rls : BattSsocRlState} (whole : rls.Whole) {deltaTime : Int}
    (elapsed : 0 ≤ deltaTime) (short : deltaTime < 2 ^ 56) : 0 ≤ ssocRlMaxDelta rls deltaTime := by
  obtain ⟨percent, low, high, isSoc⟩ := whole.soc
  obtain ⟨positive, narrow⟩ := whole.time
  have percents : qnumToint rls.rlDeltaMaxSoc = percent := by
    rw [isSoc]
    exact mul_ediv_cancel _ (by decide)
  have product_nonneg : 0 ≤ percent * deltaTime := mul_nonneg (by omega) elapsed
  have product_le : percent * deltaTime ≤ 100 * deltaTime :=
    mul_le_mul_of_nonneg_right high elapsed
  have counted : toQnumd (percent * deltaTime) = percent * deltaTime :=
    wrap_of_fits (by omega) (by omega)
  simp only [ssocRlMaxDelta, percents, counted]
  split
  · decide
  rename_i slow
  -- the product is at most a little over a hundred percent per unit of time
  have product_small : percent * deltaTime ≤ 101 * rls.rlDeltaMaxTime := by
    rw [tdiv_eq_ediv_of_nonneg product_nonneg] at slow
    by_cases early : deltaTime ≤ rls.rlDeltaMaxTime
    · omega
    · have quotient : percent * deltaTime / rls.rlDeltaMaxTime < 101 := by omega
      exact (Int.lt_mul_of_ediv_lt positive quotient).le
  have scaled : rls.rlDeltaMaxSoc * deltaTime = percent * deltaTime * 16777216 := by
    rw [isSoc, qnumFromint, show (2 : Int) ^ qnumFbits = 16777216 from rfl]
    ring
  have exact64 : toQnumd (rls.rlDeltaMaxSoc * deltaTime) = percent * deltaTime * 16777216 := by
    rw [scaled]
    exact wrap_of_fits (by omega) (by omega)
  have quotient_le : percent * deltaTime * 16777216 / rls.rlDeltaMaxTime ≤ 101 * 16777216 :=
    Int.ediv_le_of_le_mul positive (by omega)
  have quotient_nonneg : 0 ≤ percent * deltaTime * 16777216 / rls.rlDeltaMaxTime :=
    ediv_nonneg (by omega) positive.le
  rw [exact64, if_pos positive.ne', tdiv_eq_ediv_of_nonneg (by omega),
    toQnum_of_fits (by omega) (by omega)]
  split
  · exact quotient_nonneg
  · exact ssocRlScaleDelta_nonneg _ quotient_nonneg (by omega) whole.ratios

/-! ## Levels and targets -/

/-- A level from zero to a hundred percent. -/
def InHundred (level : Int) : Prop := 0 ≤ level ∧ level ≤ qnumFromint 100

instance inHundredDecidable (level : Int) : Decidable (InHundred level) := instDecidableAnd

/-- A level moves toward a target, not past it and by no more than is allowed. -/
structure MovesToward (before after target maxDelta : Int) : Prop where
  toward : before ≤ after ∧ after ≤ target ∨ target ≤ after ∧ after ≤ before
  rise : after - before ≤ maxDelta
  fall : before - after ≤ maxDelta

lemma qnumFromint_hundred : qnumFromint 100 = 1677721600 := rfl

lemma qnumFromint_zero : qnumFromint 0 = 0 := rfl

lemma ssocRlTarget_mem (buckEnabled : Bool) (uic target : Int) :
    InHundred (ssocRlTarget buckEnabled uic target) := by
  simp only [InHundred, ssocRlTarget, qnumFromint_hundred, qnumFromint_zero]
  split_ifs <;> omega

lemma ssocRlStep_moves {before target maxDelta : Int} (isBefore : InHundred before)
    (isTarget : InHundred target) (nonneg : 0 ≤ maxDelta) (fits : maxDelta < 2 ^ 31) :
    MovesToward before (toQnum (before + ssocRlStep (toQnum (target - before)) maxDelta)) target
      maxDelta := by
  simp only [InHundred, qnumFromint_hundred] at isBefore isTarget
  have distance : toQnum (target - before) = target - before :=
    toQnum_of_fits (by omega) (by omega)
  have negated : toQnum (-maxDelta) = -maxDelta := toQnum_of_fits (by omega) (by omega)
  have step : ssocRlStep (target - before) maxDelta =
      max (-maxDelta) (min maxDelta (target - before)) := by
    unfold ssocRlStep
    rw [negated]
    split_ifs <;> omega
  rw [distance, step, toQnum_of_fits (by omega) (by omega)]
  constructor <;> omega

/-! ## One update -/

/-- The allowance of an update at a time. -/
def BattSsocRlState.allowance (rls : BattSsocRlState) (now : Int) : Int :=
  ssocRlMaxDelta rls (toQnumd (now - rls.rlSsocLastUpdate))

/-- The allowance is not negative, if it is used. -/
def BattSsocRlState.Allows (rls : BattSsocRlState) (now : Int) : Prop :=
  rls.rlTrackTarget = false → 0 ≤ rls.allowance now

section Update

variable {rls : BattSsocRlState} {level now : Int}

lemma ssocRlLimited_moves (isLevel : InHundred level) (isTarget : InHundred rls.rlSsocTarget)
    (limits : rls.rlTrackTarget = false) (allows : rls.Allows now) :
    MovesToward level (ssocRlLimited rls level now) rls.rlSsocTarget (rls.allowance now) := by
  unfold ssocRlLimited
  rw [if_neg (by simp [limits])]
  exact ssocRlStep_moves isLevel isTarget (allows limits) (ssocRlMaxDelta_lt _ _)

lemma ssocRlLimited_mem (isLevel : InHundred level) (isTarget : InHundred rls.rlSsocTarget)
    (allows : rls.Allows now) : InHundred (ssocRlLimited rls level now) := by
  cases tracks : rls.rlTrackTarget with
  | true => simpa only [ssocRlLimited, tracks, if_true] using isTarget
  | false =>
    have toward := (ssocRlLimited_moves isLevel isTarget tracks allows).toward
    simp only [InHundred] at isLevel isTarget ⊢
    omega

/-- A target that is near enough, or tracked closely, is reached at once. -/
lemma ssocRlLimited_reaches (isTarget : InHundred rls.rlSsocTarget) (allows : rls.Allows now)
    (near : rls.rlTrackTarget = true ∨
      rls.rlSsocTarget - level ≤ rls.allowance now ∧ level - rls.rlSsocTarget ≤ rls.allowance now) :
    ssocRlLimited rls level now = rls.rlSsocTarget := by
  cases tracks : rls.rlTrackTarget with
  | true => simp only [ssocRlLimited, tracks, if_true]
  | false =>
    obtain ⟨below, above⟩ := near.resolve_left (by simp [tracks])
    have fits : rls.allowance now < 2 ^ 31 := ssocRlMaxDelta_lt _ _
    have nonneg := allows tracks
    simp only [InHundred, qnumFromint_hundred] at isTarget
    have distance : toQnum (rls.rlSsocTarget - level) = rls.rlSsocTarget - level :=
      toQnum_of_fits (by omega) (by omega)
    have negated : toQnum (-rls.allowance now) = -rls.allowance now :=
      toQnum_of_fits (by omega) (by omega)
    have step : ssocRlStep (rls.rlSsocTarget - level) (rls.allowance now) =
        rls.rlSsocTarget - level := by
      unfold ssocRlStep
      rw [negated, if_neg (by omega), if_neg (by omega)]
    unfold ssocRlLimited
    rw [if_neg (by simp [tracks]), distance]
    change toQnum (level + ssocRlStep (rls.rlSsocTarget - level) (rls.allowance now)) = _
    rw [step, toQnum_of_fits (by omega) (by omega)]
    omega

lemma ssocRlConnected_mem (buckEnabled : Bool) {limited : Int} (isLevel : InHundred level)
    (isLimited : InHundred limited) : InHundred (ssocRlConnected buckEnabled level limited) := by
  unfold ssocRlConnected
  split
  · exact isLevel
  · exact isLimited

lemma ssocRlConnected_moves (buckEnabled : Bool) {limited target maxDelta : Int}
    (moves : MovesToward level limited target maxDelta) :
    MovesToward level (ssocRlConnected buckEnabled level limited) target maxDelta := by
  unfold ssocRlConnected
  split
  · obtain ⟨toward, rise, fall⟩ := moves
    constructor <;> omega
  · exact moves

lemma ssocRlConnected_le (level limited : Int) : ssocRlConnected false level limited ≤ level := by
  unfold ssocRlConnected
  split
  · exact le_rfl
  · rename_i falls
    simpa using falls

lemma ssocRlFloor_mem (noZero : Bool) (isLevel : InHundred level) :
    InHundred (ssocRlFloor noZero level) := by
  unfold ssocRlFloor
  split
  · decide
  · exact isLevel

lemma ssocRlFloor_ge (level : Int) : qnumFromint 1 ≤ ssocRlFloor true level := by
  unfold ssocRlFloor
  split
  · exact le_rfl
  · rename_i above
    simp only [true_and, not_le] at above
    exact above.le

/-- From a level that is not below the floor, the floor only shortens a move. -/
lemma ssocRlFloor_moves {noZero : Bool} {after target maxDelta : Int}
    (floor : noZero = true → qnumFromint 1 ≤ level)
    (moves : MovesToward level after target maxDelta) :
    MovesToward level (ssocRlFloor noZero after) target maxDelta := by
  unfold ssocRlFloor
  split
  · rename_i low
    have above := floor low.1
    obtain ⟨toward, rise, fall⟩ := moves
    constructor <;> omega
  · exact moves

lemma ssocRlFloor_le {noZero : Bool} {after : Int}
    (floor : noZero = true → qnumFromint 1 ≤ level) (falls : after ≤ level) :
    ssocRlFloor noZero after ≤ level := by
  unfold ssocRlFloor
  split
  · rename_i low
    exact floor low.1
  · exact falls

end Update

/-- What carries over from update to update: target and level are percentages, and the level
is not below the floor while there is one. -/
structure BattSsocState.Settled (ssoc : BattSsocState) : Prop where
  target : InHundred ssoc.ssocRlState.rlSsocTarget
  level : InHundred ssoc.ssocRl
  floor : ssoc.ssocRlState.rlNoZero = true → qnumFromint 1 ≤ ssoc.ssocRl

section Apply

variable {ssoc : BattSsocState} {now : Int}

/-- The state of the limiter when the allowance is computed. -/
def BattSsocState.latched (ssoc : BattSsocState) : BattSsocRlState :=
  { ssoc.ssocRlState with
    rlSsocTarget := ssocRlTarget (decide (ssoc.buckEnabled ≠ 0)) ssoc.ssocUic
      ssoc.ssocRlState.rlSsocTarget }

/-- The level before the floor. -/
def BattSsocState.unfloored (ssoc : BattSsocState) (now : Int) : Int :=
  ssocRlConnected (decide (ssoc.buckEnabled ≠ 0)) ssoc.ssocRl
    (ssocRlLimited ssoc.latched ssoc.ssocRl now)

lemma unfloored_mem (isLevel : InHundred ssoc.ssocRl) (allows : ssoc.latched.Allows now) :
    InHundred (ssoc.unfloored now) :=
  ssocRlConnected_mem _ isLevel (ssocRlLimited_mem isLevel (ssocRlTarget_mem _ _ _) allows)

lemma ssocApplyRl_settled (isLevel : InHundred (ssoc.unfloored now)) :
    (ssocApplyRl ssoc now).Settled := by
  refine ⟨ssocRlTarget_mem _ _ _, ssocRlFloor_mem _ isLevel, fun noZero => ?_⟩
  · have hasFloor : ssoc.ssocRlState.rlNoZero = true := noZero
    change qnumFromint 1 ≤ ssocRlFloor ssoc.ssocRlState.rlNoZero _
    rw [hasFloor]
    exact ssocRlFloor_ge _

lemma ssocApplyRl_moves (isLevel : InHundred ssoc.ssocRl) (allows : ssoc.latched.Allows now)
    (floor : ssoc.ssocRlState.rlNoZero = true → qnumFromint 1 ≤ ssoc.ssocRl)
    (limits : ssoc.ssocRlState.rlTrackTarget = false) :
    MovesToward ssoc.ssocRl (ssocApplyRl ssoc now).ssocRl
      (ssocApplyRl ssoc now).ssocRlState.rlSsocTarget (ssoc.latched.allowance now) :=
  ssocRlFloor_moves floor (ssocRlConnected_moves _
    (ssocRlLimited_moves isLevel (ssocRlTarget_mem _ _ _) limits allows))

lemma ssocApplyRl_le (floor : ssoc.ssocRlState.rlNoZero = true → qnumFromint 1 ≤ ssoc.ssocRl)
    (disconnected : ssoc.buckEnabled = 0) : (ssocApplyRl ssoc now).ssocRl ≤ ssoc.ssocRl := by
  refine ssocRlFloor_le floor ?_
  rw [show decide (ssoc.buckEnabled ≠ 0) = false by simp [disconnected]]
  exact ssocRlConnected_le _ _

end Apply

end GsKernel.Bms
