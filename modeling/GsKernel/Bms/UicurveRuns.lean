import GsKernel.Bms.Uicurve

/-!
# The curves that the driver builds

Connecting and disconnecting replace the curve and splice in the current level, and a vote on
the level that counts as full moves the highest point. Every curve that results has the
common shape, so it is safe exactly when it rises.
-/

namespace GsKernel.Bms

open BattSsocState

/-- What happens to the curve: the level and the connection change, the curve is changed, or a
vote moves its highest point. -/
inductive CurveCall where
  | sense (gdf rl buckEnabled : Int)
  | changeCurve (delta : Int) (type : SsocUicType)
  | changeCurveAtGdf (gdf capacity : Int) (type : SsocUicType)
  | pointFullUiSoc (soc : Int)

/-- A level between zero and full. -/
def InPercent (level : Int) : Prop := 0 ≤ level ∧ level ≤ ssocPointFull

instance inPercentDecidable (level : Int) : Decidable (InPercent level) := instDecidableAnd

/-- The levels that are reported or spliced in are percentages. -/
def CurveCall.InRange : CurveCall → Prop
  | .sense _ rl _ => InPercent rl
  | .changeCurveAtGdf _ capacity _ => InPercent capacity
  | _ => True

/-- One call. -/
def BattSsocState.curveStep (ssoc : BattSsocState) : CurveCall → BattSsocState
  | .sense gdf rl buckEnabled => { ssoc with ssocGdf := gdf, ssocRl := rl, buckEnabled }
  | .changeCurve delta type => ssocChangeCurve ssoc delta type
  | .changeCurveAtGdf gdf capacity type => ssocChangeCurveAtGdf ssoc gdf capacity type
  | .pointFullUiSoc soc => pointFullUiSocCb ssoc soc

lemma chgCurve_shaped : chgCurve.Shaped := by
  constructor <;> decide +kernel

lemma dsgCurve_shaped : dsgCurve.Shaped := by
  constructor <;> decide +kernel

/-- A percentage spliced into a fresh curve. -/
lemma Uicurve.Shaped.splice {curve : Uicurve} (shaped : curve.Shaped)
    (full : (curve 2).real = ssocPointFull) {real ui : Int} (percent : InPercent ui) :
    (ssocUicurveSplice curve real ui).Shaped := by
  unfold ssocUicurveSplice
  by_cases outside : real < (curve 0).real ∨ (curve 2).real < real
  · rw [if_pos outside]
    exact shaped
  rw [if_neg outside, if_neg (by omega)]
  have lowReal := shaped.lowReal
  exact ⟨lowReal, shaped.lowUi, percent, shaped.highUi,
    ⟨show ssocPointTrue ≤ real by omega, show real ≤ ssocPointFull by omega⟩,
    show real ≤ (curve 2).real by omega, shaped.highReal, shaped.word⟩

/-- A whole number of percent stays one in a word. -/
lemma toQnum_qnumFromint_emod (value : Int) : toQnum (qnumFromint value) % 16777216 = 0 := by
  unfold toQnum Lib.FixedPoint.wrap
  rw [show qnumFromint value = value * 16777216 from rfl, Int.bmod_def]
  split <;> omega

lemma Uicurve.Shaped.spliceFull {curve : Uicurve} (shaped : curve.Shaped) (soc : Int) :
    (ssocUicurveSpliceFull curve (toQnum (qnumFromint soc)) ssocPointFull).Shaped := by
  unfold ssocUicurveSpliceFull
  by_cases before : toQnum (qnumFromint soc) < (curve 1).real
  · rw [if_pos before]
    exact shaped
  rw [if_neg before]
  have bounds := Lib.FixedPoint.wrap_bounds 32 (qnumFromint soc)
  refine ⟨shaped.lowReal, shaped.lowUi, shaped.middleUi, rfl, shaped.middleReal,
    show (curve 1).real ≤ toQnum (qnumFromint soc) by omega, ?_, ?_⟩
  · have whole := toQnum_qnumFromint_emod soc
    show ssocPointFull ≤ toQnum (qnumFromint soc) ∨ toQnum (qnumFromint soc) + 1 < ssocPointFull
    rw [ssocPointFull_eq]
    omega
  · show toQnum (qnumFromint soc) < 2 ^ 31
    unfold toQnum
    omega

/-- The curve has the common shape and the reported level is a percentage. -/
structure BattSsocState.CurveShaped (ssoc : BattSsocState) : Prop where
  shaped : ssoc.ssocCurve.Shaped
  percent : InPercent ssoc.ssocRl

lemma ssocChangeCurveAtGdf_shaped (ssoc : BattSsocState) (gdf : Int) {capacity : Int}
    (type : SsocUicType) (percent : InPercent capacity) :
    (ssocChangeCurveAtGdf ssoc gdf capacity type).ssocCurve.Shaped := by
  unfold ssocChangeCurveAtGdf
  by_cases discharge : type = .dsg
  · simp only [if_pos discharge]
    exact dsgCurve_shaped.splice rfl percent
  · simp only [if_neg discharge]
    exact chgCurve_shaped.splice rfl percent

lemma BattSsocState.CurveShaped.curveStep {ssoc : BattSsocState} (keeps : ssoc.CurveShaped)
    {call : CurveCall} (inRange : call.InRange) : (ssoc.curveStep call).CurveShaped := by
  cases call with
  | sense gdf rl buckEnabled => exact ⟨keeps.shaped, inRange⟩
  | changeCurve delta type =>
    exact ⟨ssocChangeCurveAtGdf_shaped ssoc _ _ keeps.percent, keeps.percent⟩
  | changeCurveAtGdf gdf capacity type =>
    exact ⟨ssocChangeCurveAtGdf_shaped ssoc gdf type inRange, keeps.percent⟩
  | pointFullUiSoc soc =>
    simp only [BattSsocState.curveStep, pointFullUiSocCb]
    split
    · exact keeps
    split
    · exact ⟨keeps.shaped.spliceFull soc, keeps.percent⟩
    · exact ⟨keeps.shaped, keeps.percent⟩

/-- From one of the default curves, after any changes of the curve at levels that are
percentages and any votes, the curve is read inside its bounds, stays between zero and full and
never falls if and only if its highest point is not below full, its middle point not below its
lowest one, and no slope has wrapped to a negative number. -/
theorem uicurve_safe_iff_rises (ssoc : BattSsocState)
    (default : ssoc.ssocCurve = chgCurve ∨ ssoc.ssocCurve = dsgCurve)
    (percent : InPercent ssoc.ssocRl) (calls : List CurveCall)
    (inRange : ∀ call ∈ calls, call.InRange) :
    (calls.foldl curveStep ssoc).ssocCurve.Safe ↔ (calls.foldl curveStep ssoc).ssocCurve.Rises := by
  have start : ssoc.CurveShaped := by
    rcases default with isCharge | isDischarge
    · exact ⟨isCharge ▸ chgCurve_shaped, percent⟩
    · exact ⟨isDischarge ▸ dsgCurve_shaped, percent⟩
  have shaped := (List.foldlRecOn calls _ start fun _ keeps call isCall =>
    keeps.curveStep (inRange call isCall)).shaped
  exact ⟨fun safe => safe.rises shaped, fun rises => rises.safe shaped⟩

/-- A driver that starts charging at half of the capacity. -/
def chargingAtHalf : BattSsocState where
  ssocGdf := qnumFromint 50
  ssocCurveType := .chg
  ssocCurve := chgCurve
  ssocUic := qnumFromint 50
  ssocRl := qnumFromint 50
  ssocRlState := ⟨0, 0, false, false, false, 15, qnumFromint 1, [], 0, 0⟩
  buckEnabled := 1
  rlSocThreshold := 97
  pointFullUiSoc := disablePointFullUiSoc

/-- The curve that some calls leave, from a connection at half of the capacity. -/
def curveAfter (calls : List CurveCall) : Uicurve :=
  (calls.foldl curveStep chargingAtHalf).ssocCurve

/-- The curve of a connection at half of the capacity is safe. -/
theorem uicurve_safe_connected : (curveAfter [.changeCurve 0 .chg]).Safe :=
  (uicurve_safe_iff_rises chargingAtHalf (.inl rfl) (by decide +kernel) [.changeCurve 0 .chg]
    (by simp [CurveCall.InRange])).mpr
      ⟨by decide +kernel, by decide +kernel, by decide +kernel, by decide +kernel⟩

/-- A vote for 90 percent lets 95 percent be read behind the curve. A splice of ten percent at
a level of a half makes the curve fall from 15 to 10 percent. A splice of eighty percent right
above the lowest point has a slope that wraps, and the value falls below that of the lowest
point. -/
theorem uicurve_unsafe :
    let low := curveAfter [.changeCurveAtGdf (qnumFromint 50) (qnumFromint 10) .chg]
    let steep := curveAfter [.changeCurveAtGdf (ssocPointTrue + 3) (qnumFromint 80) .chg]
    ssocUicurveMap (qnumFromint 95) (curveAfter [.changeCurve 0 .chg, .pointFullUiSoc 90]) = none ∧
      ssocUicurveMap ssocPointTrue low = some ssocPointTrue ∧
      ssocUicurveMap (qnumFromint 50) low = some (qnumFromint 10) ∧
      ssocUicurveMap ssocPointTrue steep = some ssocPointTrue ∧
      ssocUicurveMap (ssocPointTrue + 1) steep = some (ssocPointTrue - 88) := by
  decide +kernel

end GsKernel.Bms
