import GsKernel.Lib.FixedPoint
import GsKernel.Lib.Runs

/-!
# The state of charge that the battery driver reports

The raw state of charge goes through a curve of three points and a rate limiter. Percentages are
fixed-point numbers with eight integer bits in 32-bit words. `qnum_rconst` adds a half to the
scale and not to the product, so a hundred percent is `100 * 2 ^ 24 + 50`.
-/

namespace GsKernel.Bms

open Lib.FixedPoint

/-! ## Fixed-point percentages -/

/-- `QNUM_FBITS`. -/
def qnumFbits : Nat := 24

/-- The conversion to `qnum_t`. -/
def toQnum (value : Int) : Int := wrap 32 value

/-- The conversion to `qnumd_t`, and to `ktime_t`. -/
def toQnumd (value : Int) : Int := wrap 64 value

/-- `qnum_rconst`. -/
def qnumRconst (value : Rat) : Int :=
  let scaled := value * (2 ^ qnumFbits + if 0 ≤ value then 1 / 2 else -1 / 2)
  toQnum (scaled.num.tdiv scaled.den)

/-- `qnum_fromint`. -/
def qnumFromint (value : Int) : Int := value * 2 ^ qnumFbits

/-- `qnum_from_q8_8`. -/
def qnumFromQ88 (value : Int) : Int := value * 2 ^ (qnumFbits - 8)

/-- `qnum_toint`. -/
def qnumToint (value : Int) : Int := value / 2 ^ qnumFbits

/-- `qnum_roundint`. -/
def qnumRoundint (value : Int) (base : Rat) : Int := qnumToint (toQnum (value + qnumRconst base))

/-- `qnum_mul`. -/
def qnumMul (left right : Int) : Int := mul 32 qnumFbits left right

/-- `qnum_div`. -/
def qnumDiv (left right : Int) : Int := div 32 qnumFbits left right

/-! ## The curve -/

/-- `SSOC_FULL`. -/
def ssocFull : Int := 100

/-- `ssoc_point_true`. -/
def ssocPointTrue : Int := qnumRconst 15

/-- `ssoc_point_spoof`. -/
def ssocPointSpoof : Int := qnumRconst 95

/-- `ssoc_point_full`. -/
def ssocPointFull : Int := qnumRconst 100

/-- `UICURVE_MAX`. -/
abbrev uicurveMax : Nat := 3

/-- `struct ssoc_uicurve`. -/
structure UicurvePoint where
  real : Int
  ui : Int
deriving DecidableEq

/-- A curve. -/
def Uicurve : Type := Fin uicurveMax → UicurvePoint

/-- The curve with three given points. -/
def Uicurve.of (low middle high : UicurvePoint) : Uicurve
  | 0 => low
  | 1 => middle
  | 2 => high

/-- `chg_curve`. -/
def chgCurve : Uicurve :=
  .of ⟨ssocPointTrue, ssocPointTrue⟩ ⟨ssocPointSpoof, ssocPointSpoof⟩ ⟨ssocPointFull, ssocPointFull⟩

/-- `dsg_curve`. -/
def dsgCurve : Uicurve :=
  .of ⟨ssocPointTrue, ssocPointTrue⟩ ⟨ssocPointSpoof, ssocPointFull⟩ ⟨ssocPointFull, ssocPointFull⟩

/-- The loop of `ssoc_uicurve_find` over the entries left. -/
def ssocUicurveFindFrom (real : Int) (curve : Uicurve) :
    List (Fin uicurveMax) → Fin uicurveMax → Fin uicurveMax
  | [], last => last
  | index :: rest, last =>
    if real = (curve index).real then index
    else if (curve index).real < real then ssocUicurveFindFrom real curve rest index
    else last

/-- `ssoc_uicurve_find`. -/
def ssocUicurveFind (real : Int) (curve : Uicurve) : Fin uicurveMax :=
  ssocUicurveFindFrom real curve [1, 2] 0

/-- The slope between two points, zero for a vertical step. -/
def uicurveSlope (left right : UicurvePoint) : Int :=
  if toQnum (right.real - left.real) = 0 then 0
  else qnumDiv (toQnum (right.ui - left.ui)) (toQnum (right.real - left.real))

/-- The value on the line between two points. -/
def uicurveLine (left right : UicurvePoint) (real : Int) : Int :=
  toQnum (left.ui + qnumMul (uicurveSlope left right) (toQnum (real - left.real)))

/-- `ssoc_uicurve_map`. The result is `none` when it reads behind the end of the curve. -/
def ssocUicurveMap (real : Int) (curve : Uicurve) : Option Int :=
  if real < (curve 0).real then some real
  else if (curve 2).ui ≤ real then some (curve 2).ui
  else
    let index := ssocUicurveFind real curve
    if (curve index).real = real then some (curve index).ui
    else if next : index.val + 1 < uicurveMax then
      some (uicurveLine (curve index) (curve ⟨index.val + 1, next⟩) real)
    else none

/-- `ssoc_uicurve_splice`. -/
def ssocUicurveSplice (curve : Uicurve) (real ui : Int) : Uicurve :=
  let low := curve 0
  let high := curve 2
  if real < low.real ∨ high.real < real then curve
  else .of low ⟨real, ui⟩ (if high.real < real then ⟨ssocPointFull, high.ui⟩ else high)

/-- `ssoc_uicurve_splice_full`. -/
def ssocUicurveSpliceFull (curve : Uicurve) (real ui : Int) : Uicurve :=
  if real < (curve 1).real then curve
  else .of (curve 0) (curve 1) ⟨real, ui⟩

/-! ## The state -/

/-- `enum ssoc_uic_type`. -/
inductive SsocUicType where
  | dsg
  | none
  | chg
deriving DecidableEq

/-- `struct batt_ssoc_rl_state`: the state of the rate limiter and its configuration, with the
limits and their ratios in one list. -/
structure BattSsocRlState where
  rlSsocTarget : Int
  rlSsocLastUpdate : Int
  rlNoZero : Bool
  rlFastTrack : Bool
  rlTrackTarget : Bool
  rlDeltaMaxTime : Int
  rlDeltaMaxSoc : Int
  rlDeltaSoc : List (Int × Int)
  rlFtLowLimit : Int
  rlFtDeltaLimit : Int
deriving DecidableEq

/-- `struct batt_ssoc_state`, of the curve and the rate limiter. -/
structure BattSsocState where
  ssocGdf : Int
  ssocCurveType : SsocUicType
  ssocCurve : Uicurve
  ssocUic : Int
  ssocRl : Int
  ssocRlState : BattSsocRlState
  buckEnabled : Int
  rlSocThreshold : Int
  pointFullUiSoc : Int

/-- `ssoc_get_capacity`. -/
def ssocGetCapacity (ssoc : BattSsocState) : Int := qnumRoundint ssoc.ssocRl (1 / 2)

/-! ## Changes of the curve -/

/-- `ssoc_change_curve_at_gdf`. -/
def ssocChangeCurveAtGdf (ssoc : BattSsocState) (gdf capacity : Int) (type : SsocUicType) :
    BattSsocState :=
  let newCurve := if type = .dsg then dsgCurve else chgCurve
  { ssoc with
    ssocCurve := ssocUicurveSplice newCurve gdf capacity
    ssocCurveType := type }

/-- `ssoc_change_curve`. At a hundred percent the discharge curve is taken, spliced below the
level of the battery. -/
def ssocChangeCurve (ssoc : BattSsocState) (delta : Int) (type : SsocUicType) : BattSsocState :=
  let atFull := ssocFull ≤ ssocGetCapacity ssoc
  let threshold := toQnum (qnumFromint ssoc.rlSocThreshold)
  let gdf :=
    if atFull then toQnum ((if threshold < ssoc.ssocGdf then ssoc.ssocGdf else threshold) - delta)
    else ssoc.ssocGdf
  ssocChangeCurveAtGdf ssoc (if ssocPointFull < gdf then ssocPointFull else gdf) ssoc.ssocRl
    (if atFull then .dsg else type)

/-- `DISABLE_POINT_FULL_UI_SOC`. -/
def disablePointFullUiSoc : Int := -1

/-- `point_full_ui_soc_cb`. -/
def pointFullUiSocCb (ssoc : BattSsocState) (soc : Int) : BattSsocState :=
  if ssoc.pointFullUiSoc = soc then ssoc
  else if soc ≠ disablePointFullUiSoc ∧ ssocGetCapacity ssoc < ssocFull ∧ ssoc.buckEnabled = 1 then
    { ssoc with
      ssocCurve := ssocUicurveSpliceFull ssoc.ssocCurve (toQnum (qnumFromint soc)) ssocPointFull
      pointFullUiSoc := disablePointFullUiSoc }
  else { ssoc with pointFullUiSoc := soc }

/-! ## The rate limiter -/

/-- The loop of `ssoc_rl_max_delta` over the limits. -/
def ssocRlScaleDelta (target maxDelta : Int) : List (Int × Int) → Int
  | [] => maxDelta
  | (limit, ratio) :: rest =>
    if limit = 0 then maxDelta
    else if target < limit then toQnum ((maxDelta * 10).tdiv ratio)
    else ssocRlScaleDelta target maxDelta rest

/-- `ssoc_rl_max_delta`. -/
def ssocRlMaxDelta (rls : BattSsocRlState) (deltaTime : Int) : Int :=
  if rls.rlDeltaMaxTime < deltaTime ∧
      100 < (toQnumd (qnumToint rls.rlDeltaMaxSoc * deltaTime)).tdiv rls.rlDeltaMaxTime then
    qnumFromint 100
  else
    let maxDelta := toQnum ((toQnumd (rls.rlDeltaMaxSoc * deltaTime)).tdiv
      (if rls.rlDeltaMaxTime ≠ 0 then rls.rlDeltaMaxTime else 1))
    if rls.rlFastTrack then maxDelta
    else ssocRlScaleDelta rls.rlSsocTarget maxDelta rls.rlDeltaSoc

/-- The target of `ssoc_apply_rl`: the curve's value when connected, the least of the values
otherwise, and between zero and a hundred percent. -/
def ssocRlTarget (buckEnabled : Bool) (uic target : Int) : Int :=
  let latched := if buckEnabled ∨ uic < target then uic else target
  let capped := if qnumFromint 100 < latched then qnumFromint 100 else latched
  if capped < qnumFromint 0 then qnumFromint 0 else capped

/-- The step of `ssoc_apply_rl` toward the target. -/
def ssocRlStep (step maxDelta : Int) : Int :=
  if step < toQnum (-maxDelta) then toQnum (-maxDelta)
  else if maxDelta < step then maxDelta
  else step

/-- The level that the rate limiter of `ssoc_apply_rl` allows. -/
def ssocRlLimited (rls : BattSsocRlState) (level now : Int) : Int :=
  if rls.rlTrackTarget then rls.rlSsocTarget
  else toQnum (level + ssocRlStep (toQnum (rls.rlSsocTarget - level))
    (ssocRlMaxDelta rls (toQnumd (now - rls.rlSsocLastUpdate))))

/-- The level does not increase while the charger is not connected. -/
def ssocRlConnected (buckEnabled : Bool) (level limited : Int) : Int :=
  if !buckEnabled ∧ level < limited then level else limited

/-- The level of at least one percent that `rl_no_zero` keeps. -/
def ssocRlFloor (noZero : Bool) (level : Int) : Int :=
  if noZero ∧ level ≤ qnumFromint 1 then qnumFromint 1 else level

/-- `ssoc_apply_rl` at the time `now`. -/
def ssocApplyRl (ssoc : BattSsocState) (now : Int) : BattSsocState :=
  let buckEnabled := decide (ssoc.buckEnabled ≠ 0)
  let rls : BattSsocRlState := { ssoc.ssocRlState with
    rlSsocTarget := ssocRlTarget buckEnabled ssoc.ssocUic ssoc.ssocRlState.rlSsocTarget }
  { ssoc with
    ssocRl := ssocRlFloor rls.rlNoZero
      (ssocRlConnected buckEnabled ssoc.ssocRl (ssocRlLimited rls ssoc.ssocRl now))
    ssocRlState := { rls with rlSsocLastUpdate := now } }

/-- The first value of the curve is the first target and the first value reported. -/
def ssocFirstTarget (ssoc : BattSsocState) : BattSsocState :=
  if ssoc.ssocRlState.rlSsocTarget = -1 then
    { ssoc with
      ssocRl := ssoc.ssocUic
      ssocRlState := { ssoc.ssocRlState with rlSsocTarget := ssoc.ssocUic } }
  else ssoc

/-- The conditions that `ssoc_update` has for a fast track. -/
def ssocFastTrack (ssoc : BattSsocState) : Bool :=
  let rls := ssoc.ssocRlState
  let delta := toQnum (rls.rlSsocTarget - ssoc.ssocRl)
  decide (rls.rlSsocTarget < rls.rlFtLowLimit) ||
    if rls.rlFtDeltaLimit ≠ 0 ∧ ssoc.buckEnabled ≠ 0 ∧ 0 < delta then
      decide (rls.rlFtDeltaLimit < delta)
    else if rls.rlFtDeltaLimit ≠ 0 ∧ ssoc.buckEnabled = 0 ∧ delta < 0 then
      decide (rls.rlFtDeltaLimit < toQnum (-delta))
    else false

/-- The part of `ssoc_update` between the curve and the rate limiter. -/
def ssocPrepare (ssoc : BattSsocState) : BattSsocState :=
  let first := ssocFirstTarget ssoc
  let rls := first.ssocRlState
  { first with
    ssocRlState := { rls with
      rlFastTrack := rls.rlFastTrack || ssocFastTrack first
      rlNoZero := rls.rlNoZero && decide (qnumFromQ88 128 < rls.rlSsocTarget) } }

/-- The part of `ssoc_update` behind the curve. -/
def ssocLimit (ssoc : BattSsocState) (now : Int) : BattSsocState :=
  ssocApplyRl (ssocPrepare ssoc) now

/-- `ssoc_update` at the time `now`. The result is `none` when the curve is read behind its
end. -/
def ssocUpdate (ssoc : BattSsocState) (soc now : Int) : Option BattSsocState :=
  (ssocUicurveMap soc ssoc.ssocCurve).map fun uic =>
    ssocLimit { ssoc with ssocGdf := soc, ssocUic := uic } now

end GsKernel.Bms
