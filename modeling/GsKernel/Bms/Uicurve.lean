import GsKernel.Bms.Ssoc

/-!
# When the curve of the state of charge is safe

A curve is read inside its bounds, stays between zero and full and never falls exactly when its
highest point is not below full, its middle point not below its lowest, and no slope, computed in
32 bits, has wrapped to a negative number.
-/

namespace GsKernel.Bms

open Lib.FixedPoint

lemma ssocPointTrue_eq : ssocPointTrue = 251658247 := by decide +kernel

lemma ssocPointFull_eq : ssocPointFull = 1677721650 := by decide +kernel

lemma toQnum_of_fits {value : Int} (low : -2 ^ 31 ≤ value) (high : value < 2 ^ 31) :
    toQnum value = value :=
  wrap_of_fits (by omega) (by omega)

/-! ## Between two points -/

/-- The line from one point to a later one does not fall. -/
structure Rising (left right : UicurvePoint) : Prop where
  forward : left.real < right.real
  wide : right.real - left.real < 2 ^ 31
  leftUi : 0 ≤ left.ui ∧ left.ui ≤ ssocPointFull
  rightUi : 0 ≤ right.ui ∧ right.ui ≤ ssocPointFull
  slope : 0 ≤ uicurveSlope left right
  rises : left.ui ≤ right.ui ∨ uicurveSlope left right = 0

section Line

variable {left right : UicurvePoint}

lemma uicurveSlope_eq (forward : left.real < right.real)
    (wide : right.real - left.real < 2 ^ 31) (leftUi : 0 ≤ left.ui ∧ left.ui ≤ ssocPointFull)
    (rightUi : 0 ≤ right.ui ∧ right.ui ≤ ssocPointFull) :
    uicurveSlope left right = div 32 qnumFbits (right.ui - left.ui) (right.real - left.real) := by
  rw [ssocPointFull_eq] at leftUi rightUi
  unfold uicurveSlope qnumDiv
  rw [toQnum_of_fits (by omega) wide, toQnum_of_fits (by omega) (by omega), if_neg (by omega)]

/-- The height above the left point of a value on the line. -/
def lineHeight (left right : UicurvePoint) (real : Int) : Int :=
  uicurveSlope left right * (real - left.real) / 2 ^ qnumFbits

section

variable (rising : Rising left right)
include rising

variable {real : Int}

lemma Rising.lineHeight_le
    (before : real ≤ right.real) : lineHeight left right real ≤ max left.ui right.ui - left.ui := by
  rcases rising.rises with up | flat
  · have isSlope := uicurveSlope_eq rising.forward rising.wide rising.leftUi rising.rightUi
    have slope := rising.slope
    have forward := rising.forward
    rw [isSlope] at slope
    have bound : div 32 qnumFbits (right.ui - left.ui) (right.real - left.real) *
        (real - left.real) / 2 ^ qnumFbits ≤ right.ui - left.ui :=
      slope_mul_le (by omega) (by omega) slope (by omega)
    rw [lineHeight, isSlope]
    omega
  · simp [lineHeight, flat]

lemma Rising.line_eq (after : left.real ≤ real) (before : real ≤ right.real) :
    uicurveLine left right real = left.ui + lineHeight left right real := by
  have wide := rising.wide
  have leftUi := rising.leftUi
  have rightUi := rising.rightUi
  have upper := rising.lineHeight_le before
  have lower : 0 ≤ lineHeight left right real :=
    slope_mul_nonneg rising.slope (by omega)
  rw [ssocPointFull_eq] at leftUi rightUi
  have distance : toQnum (real - left.real) = real - left.real :=
    toQnum_of_fits (by omega) (by omega)
  have product : qnumMul (uicurveSlope left right) (real - left.real) =
      lineHeight left right real := by
    change toQnum (lineHeight left right real) = _
    exact toQnum_of_fits (by omega) (by omega)
  rw [uicurveLine, distance, product]
  exact toQnum_of_fits (by omega) (by omega)

/-- The values on a rising line lie between the values at its ends. -/
lemma Rising.line_mem (after : left.real ≤ real) (before : real ≤ right.real) :
    left.ui ≤ uicurveLine left right real ∧ uicurveLine left right real ≤ max left.ui right.ui := by
  have upper := rising.lineHeight_le before
  have lower : 0 ≤ lineHeight left right real :=
    slope_mul_nonneg rising.slope (by omega)
  rw [rising.line_eq after before]
  omega

lemma Rising.line_mono {near far : Int} (after : left.real ≤ near)
    (further : near ≤ far) (before : far ≤ right.real) :
    uicurveLine left right near ≤ uicurveLine left right far := by
  have heights : lineHeight left right near ≤ lineHeight left right far :=
    slope_mul_mono rising.slope (by omega)
  rw [rising.line_eq after (by omega), rising.line_eq (by omega) before]
  omega

end

/-- The first value after the left point shows the sign of the slope. -/
lemma uicurveLine_next (leftUi : 0 ≤ left.ui ∧ left.ui ≤ ssocPointFull)
    (rises : left.ui ≤ uicurveLine left right (left.real + 1)) : 0 ≤ uicurveSlope left right := by
  have bounds : -2 ^ 32 ≤ uicurveSlope left right * 2 ∧ uicurveSlope left right * 2 < 2 ^ 32 := by
    unfold uicurveSlope
    split
    · decide
    · exact wrap_bounds 32 _
  rw [ssocPointFull_eq] at leftUi
  have distance : toQnum (left.real + 1 - left.real) = 1 := by
    rw [show left.real + 1 - left.real = 1 by omega]
    rfl
  have product : qnumMul (uicurveSlope left right) 1 = uicurveSlope left right / 16777216 := by
    unfold qnumMul mul
    rw [Int.mul_one, show (2 : Int) ^ qnumFbits = 16777216 from rfl]
    exact wrap_of_fits (by omega) (by omega)
  rw [uicurveLine, distance, product, toQnum_of_fits (by omega) (by omega)] at rises
  omega

end Line

/-! ## The whole curve -/

/-- What every curve of the driver has in common. -/
structure Uicurve.Shaped (curve : Uicurve) : Prop where
  lowReal : (curve 0).real = ssocPointTrue
  lowUi : (curve 0).ui = ssocPointTrue
  middleUi : 0 ≤ (curve 1).ui ∧ (curve 1).ui ≤ ssocPointFull
  highUi : (curve 2).ui = ssocPointFull
  middleReal : ssocPointTrue ≤ (curve 1).real ∧ (curve 1).real ≤ ssocPointFull
  ordered : (curve 1).real ≤ (curve 2).real
  highReal : ssocPointFull ≤ (curve 2).real ∨ (curve 2).real + 1 < ssocPointFull
  word : (curve 2).real < 2 ^ 31

/-- The curve is read inside its bounds, with results between zero and full, and never falls. -/
structure Uicurve.Safe (curve : Uicurve) : Prop where
  bounded : ∀ real, 0 ≤ real → real < 2 ^ 31 → ∃ ui, ssocUicurveMap real curve = some ui ∧
    0 ≤ ui ∧ ui ≤ ssocPointFull ∧ qnumToint ui ≤ ssocFull
  monotone : ∀ real next ui nextUi, 0 ≤ real → real ≤ next → next < 2 ^ 31 →
    ssocUicurveMap real curve = some ui → ssocUicurveMap next curve = some nextUi → ui ≤ nextUi

/-- The highest point is not below full, the middle one reports no less than the lowest, and
no slope between points that are not neighbours has wrapped to a negative number. -/
structure Uicurve.Rises (curve : Uicurve) : Prop where
  full : ssocPointFull ≤ (curve 2).real
  middle : (curve 1).real < ssocPointFull → (curve 0).ui ≤ (curve 1).ui ∨
    (curve 1).real = (curve 0).real ∧ (curve 1).ui + 1 = (curve 0).ui
  first : (curve 0).real + 1 < (curve 1).real → 0 ≤ uicurveSlope (curve 0) (curve 1)
  second : (curve 1).real + 1 < ssocPointFull → 0 ≤ uicurveSlope (curve 1) (curve 2)

section Map

variable {curve : Uicurve} {real : Int}

lemma map_below (below : real < (curve 0).real) : ssocUicurveMap real curve = some real :=
  if_pos below

section

variable (shaped : curve.Shaped)
include shaped

lemma map_full (full : ssocPointFull ≤ real) : ssocUicurveMap real curve = some ssocPointFull := by
  have lowReal := shaped.lowReal
  rw [ssocPointTrue_eq] at lowReal
  rw [ssocPointFull_eq] at full
  unfold ssocUicurveMap
  rw [if_neg (by omega), shaped.highUi, ssocPointFull_eq, if_pos full]

/-- Inside the curve the entry that is found decides. -/
lemma map_inside (above : (curve 0).real ≤ real) (below : real < ssocPointFull) :
    ssocUicurveMap real curve = if (curve (ssocUicurveFind real curve)).real = real then
        some (curve (ssocUicurveFind real curve)).ui
      else if next : (ssocUicurveFind real curve).val + 1 < uicurveMax then
        some (uicurveLine (curve (ssocUicurveFind real curve))
          (curve ⟨(ssocUicurveFind real curve).val + 1, next⟩) real)
      else none := by
  unfold ssocUicurveMap
  rw [if_neg (by omega), shaped.highUi, if_neg (by omega)]

lemma map_low (before : (curve 0).real < (curve 1).real) :
    ssocUicurveMap (curve 0).real curve = some (curve 0).ui := by
  have found : ssocUicurveFind (curve 0).real curve = 0 := by
    unfold ssocUicurveFind ssocUicurveFindFrom
    rw [if_neg (by omega), if_neg (by omega)]
  have middleReal := shaped.middleReal
  rw [map_inside shaped le_rfl (by omega), found, if_pos rfl]

lemma map_middle (below : (curve 1).real < ssocPointFull) :
    ssocUicurveMap (curve 1).real curve = some (curve 1).ui := by
  have found : ssocUicurveFind (curve 1).real curve = 1 := by
    unfold ssocUicurveFind ssocUicurveFindFrom
    rw [if_pos rfl]
  have lowReal := shaped.lowReal
  have middleReal := shaped.middleReal
  rw [map_inside shaped (by omega) below, found, if_pos rfl]

lemma map_first (after : (curve 0).real < real) (before : real < (curve 1).real) :
    ssocUicurveMap real curve = some (uicurveLine (curve 0) (curve 1) real) := by
  have found : ssocUicurveFind real curve = 0 := by
    unfold ssocUicurveFind ssocUicurveFindFrom
    rw [if_neg (by omega), if_neg (by omega)]
  have middleReal := shaped.middleReal
  rw [map_inside shaped (by omega) (by omega), found, if_neg (by omega)]
  rfl

lemma map_second (after : (curve 1).real < real)
    (before : real < (curve 2).real) (below : real < ssocPointFull) :
    ssocUicurveMap real curve = some (uicurveLine (curve 1) (curve 2) real) := by
  have found : ssocUicurveFind real curve = 1 := by
    unfold ssocUicurveFind ssocUicurveFindFrom ssocUicurveFindFrom
    rw [if_neg (by omega), if_pos (by omega), if_neg (by omega), if_neg (by omega)]
  have lowReal := shaped.lowReal
  have middleReal := shaped.middleReal
  rw [map_inside shaped (by omega) (by omega), found, if_neg (by omega)]
  rfl

/-- Between the highest point and full the entry behind the curve is read. -/
lemma map_behind (after : (curve 2).real < real)
    (below : real < ssocPointFull) : ssocUicurveMap real curve = none := by
  have ordered := shaped.ordered
  have found : ssocUicurveFind real curve = 2 := by
    unfold ssocUicurveFind ssocUicurveFindFrom ssocUicurveFindFrom
    rw [if_neg (by omega), if_pos (by omega), if_neg (by omega), if_pos (by omega)]
    rfl
  have lowReal := shaped.lowReal
  have middleReal := shaped.middleReal
  rw [map_inside shaped (by omega) (by omega), found, if_neg (by omega)]
  rfl

end

end Map

lemma uicurveLine_self {left right : UicurvePoint}
    (leftUi : 0 ≤ left.ui ∧ left.ui ≤ ssocPointFull) :
    uicurveLine left right left.real = left.ui := by
  rw [ssocPointFull_eq] at leftUi
  have product : qnumMul (uicurveSlope left right) (toQnum (left.real - left.real)) = 0 := by
    rw [Int.sub_self]
    change wrap 32 (uicurveSlope left right * 0 / 2 ^ qnumFbits) = 0
    rw [Int.mul_zero]
    rfl
  rw [uicurveLine, product, Int.add_zero]
  exact toQnum_of_fits (by omega) (by omega)

section Rises

variable {curve : Uicurve} {real : Int}

lemma Uicurve.Shaped.lowUi_mem (shaped : curve.Shaped) :
    0 ≤ (curve 0).ui ∧ (curve 0).ui ≤ ssocPointFull := by
  rw [shaped.lowUi, ssocPointTrue_eq, ssocPointFull_eq]
  decide

/-- A middle point at full is so far from the lowest that no slope wraps: one that falls and
is not negative is zero. -/
lemma slope_to_full (shaped : curve.Shaped) (atFull : (curve 1).real = ssocPointFull)
    (falls : (curve 1).ui < (curve 0).ui) (slope : 0 ≤ uicurveSlope (curve 0) (curve 1)) :
    uicurveSlope (curve 0) (curve 1) = 0 := by
  have run : (curve 1).real - (curve 0).real = 1426063403 := by
    rw [atFull, shaped.lowReal, ssocPointFull_eq, ssocPointTrue_eq]
    rfl
  have lowUi := shaped.lowUi
  have middleUi := shaped.middleUi
  rw [ssocPointTrue_eq] at lowUi
  have isSlope := uicurveSlope_eq (by omega) (by omega) shaped.lowUi_mem middleUi
  rw [isSlope, run] at slope ⊢
  have quotient : (((curve 1).ui - (curve 0).ui) * 2 ^ qnumFbits).tdiv 1426063403 =
      -(((curve 0).ui - (curve 1).ui) * 16777216 / 1426063403) := by
    rw [show ((curve 1).ui - (curve 0).ui) * 2 ^ qnumFbits =
        -(((curve 0).ui - (curve 1).ui) * 16777216) by simp only [qnumFbits]; omega,
      Int.neg_tdiv, Int.tdiv_eq_ediv_of_nonneg (by omega)]
  unfold div at slope ⊢
  rw [quotient, wrap_of_fits (by omega) (by omega)] at slope ⊢
  omega

section

variable (rises : curve.Rises)
include rises

namespace Uicurve.Rises

section

variable (shaped : curve.Shaped)
include shaped

lemma rising_first
    (apart : (curve 0).real + 1 < (curve 1).real) : Rising (curve 0) (curve 1) := by
  have lowReal := shaped.lowReal
  have middleReal := shaped.middleReal
  have slope := rises.first apart
  refine ⟨by omega, ?_, shaped.lowUi_mem, shaped.middleUi, slope, ?_⟩
  · rw [ssocPointTrue_eq] at lowReal
    rw [ssocPointFull_eq] at middleReal
    omega
  · by_cases falls : (curve 1).ui < (curve 0).ui
    · by_cases below : (curve 1).real < ssocPointFull
      · have middle := rises.middle below
        omega
      · exact .inr (slope_to_full shaped (by omega) falls slope)
    · exact .inl (by omega)

lemma rising_second
    (apart : (curve 1).real + 1 < ssocPointFull) : Rising (curve 1) (curve 2) := by
  have full := rises.full
  have middleReal := shaped.middleReal
  have word := shaped.word
  have highUi := shaped.highUi
  have middleUi := shaped.middleUi
  refine ⟨by omega, ?_, middleUi, ⟨by omega, by omega⟩, rises.second apart, .inl (by omega)⟩
  rw [ssocPointTrue_eq] at middleReal
  omega

/-- The values between the lowest and the middle point. -/
lemma map_first (after : (curve 0).real ≤ real) (before : real < (curve 1).real) :
    ssocUicurveMap real curve = some (uicurveLine (curve 0) (curve 1) real) ∧
      (curve 0).ui ≤ uicurveLine (curve 0) (curve 1) real ∧
      uicurveLine (curve 0) (curve 1) real ≤ max (curve 0).ui (curve 1).ui := by
  by_cases atLow : real = (curve 0).real
  · subst atLow
    rw [uicurveLine_self shaped.lowUi_mem, map_low shaped before]
    exact ⟨rfl, le_rfl, le_max_left _ _⟩
  · exact ⟨Bms.map_first shaped (by omega) before,
      (rises.rising_first shaped (by omega)).line_mem after before.le⟩

/-- The values between the middle point and full. -/
lemma map_second (after : (curve 1).real ≤ real) (below : real < ssocPointFull) :
    ssocUicurveMap real curve = some (uicurveLine (curve 1) (curve 2) real) ∧
      (curve 1).ui ≤ uicurveLine (curve 1) (curve 2) real ∧
      uicurveLine (curve 1) (curve 2) real ≤ ssocPointFull := by
  have full := rises.full
  have middleUi := shaped.middleUi
  by_cases atMiddle : real = (curve 1).real
  · subst atMiddle
    rw [uicurveLine_self middleUi, map_middle shaped below]
    exact ⟨rfl, le_rfl, middleUi.2⟩
  · have line := (rises.rising_second shaped (by omega)).line_mem after (by omega)
    have highUi := shaped.highUi
    exact ⟨Bms.map_second shaped (by omega) (by omega) below, line.1, by omega⟩

/-- Every value of the curve is between zero and full. -/
lemma map_mem (nonneg : 0 ≤ real) :
    ∃ ui, ssocUicurveMap real curve = some ui ∧ 0 ≤ ui ∧ ui ≤ ssocPointFull := by
  have lowReal := shaped.lowReal
  have lowUi := shaped.lowUi
  have middleUi := shaped.middleUi
  have isTrue := ssocPointTrue_eq
  have isFull := ssocPointFull_eq
  rcases lt_or_ge real (curve 0).real with below | above
  · exact ⟨real, map_below below, nonneg, by omega⟩
  rcases lt_or_ge real ssocPointFull with notFull | full
  swap
  · exact ⟨_, map_full shaped full, by omega, le_rfl⟩
  rcases lt_or_ge real (curve 1).real with before | after
  · obtain ⟨isMap, low, high⟩ := rises.map_first shaped above before
    exact ⟨_, isMap, by omega, by omega⟩
  · obtain ⟨isMap, low, high⟩ := rises.map_second shaped after notFull
    exact ⟨_, isMap, by omega, high⟩

/-- Inside the curve the values do not fall. -/
lemma map_mono_inside
    {next ui nextUi : Int} (above : (curve 0).real ≤ real) (further : real ≤ next)
    (notFull : next < ssocPointFull) (isUi : ssocUicurveMap real curve = some ui)
    (isNext : ssocUicurveMap next curve = some nextUi) : ui ≤ nextUi := by
  rcases lt_or_ge next (curve 1).real with nextBefore | nextAfter
  · rw [(rises.map_first shaped above (by omega)).1] at isUi
    rw [(rises.map_first shaped (by omega) nextBefore).1] at isNext
    cases isUi
    cases isNext
    rcases further.eq_or_lt with same | apart
    · rw [same]
    · exact (rises.rising_first shaped (by omega)).line_mono above further nextBefore.le
  obtain ⟨nextMap, low, _⟩ := rises.map_second shaped nextAfter notFull
  rw [nextMap] at isNext
  cases isNext
  rcases lt_or_ge real (curve 1).real with before | after
  · -- the first line ends at the middle point, which is not below the lowest one
    obtain ⟨isMap, _, high⟩ := rises.map_first shaped above before
    rw [isMap] at isUi
    cases isUi
    have middle := rises.middle (by omega)
    omega
  · rw [(rises.map_second shaped after (by omega)).1] at isUi
    cases isUi
    rcases further.eq_or_lt with same | apart
    · rw [same]
    · have full := rises.full
      exact (rises.rising_second shaped (by omega)).line_mono after further (by omega)

lemma map_mono {next ui nextUi : Int} (nonneg : 0 ≤ real) (further : real ≤ next)
    (isUi : ssocUicurveMap real curve = some ui)
    (isNext : ssocUicurveMap next curve = some nextUi) : ui ≤ nextUi := by
  rcases lt_or_ge next ssocPointFull with notFull | full
  swap
  · obtain ⟨value, isValue, _, le⟩ := rises.map_mem shaped nonneg
    rw [map_full shaped full] at isNext
    rw [isValue] at isUi
    cases isUi
    cases isNext
    exact le
  rcases lt_or_ge real (curve 0).real with below | above
  swap
  · exact rises.map_mono_inside shaped above further notFull isUi isNext
  have lowReal := shaped.lowReal
  have lowUi := shaped.lowUi
  rw [map_below below] at isUi
  cases isUi
  rcases lt_or_ge next (curve 0).real with nextBelow | nextAbove
  · rw [map_below nextBelow] at isNext
    cases isNext
    exact further
  rcases lt_or_ge next (curve 1).real with before | after
  · obtain ⟨isMap, low, _⟩ := rises.map_first shaped nextAbove before
    rw [isMap] at isNext
    cases isNext
    omega
  · obtain ⟨isMap, low, _⟩ := rises.map_second shaped after notFull
    have middle := rises.middle (by omega)
    rw [isMap] at isNext
    cases isNext
    omega

lemma safe : curve.Safe where
  bounded := by
    intro real nonneg _
    obtain ⟨ui, isMap, low, high⟩ := rises.map_mem shaped nonneg
    refine ⟨ui, isMap, low, high, ?_⟩
    have isFull := ssocPointFull_eq
    unfold qnumToint ssocFull qnumFbits
    omega
  monotone := fun _ _ _ _ nonneg further _ isUi isNext =>
    rises.map_mono shaped nonneg further isUi isNext

end

end Uicurve.Rises

end

/-- A safe curve rises: each way to fail shows in the values of two neighbours. -/
lemma Uicurve.Safe.rises (safe : curve.Safe) (shaped : curve.Shaped) : curve.Rises := by
  have lowReal := shaped.lowReal
  have lowUi := shaped.lowUi
  have middleReal := shaped.middleReal
  have ordered := shaped.ordered
  have isTrue := ssocPointTrue_eq
  have isFull := ssocPointFull_eq
  have full : ssocPointFull ≤ (curve 2).real := by
    rcases shaped.highReal with full | short
    · exact full
    · obtain ⟨ui, isMap, _⟩ := safe.bounded ((curve 2).real + 1) (by omega) (by omega)
      rw [map_behind shaped (by omega) short] at isMap
      cases isMap
  refine ⟨full, fun below => ?_, fun apart => ?_, fun apart => ?_⟩
  · have isMiddle := map_middle shaped below
    rcases middleReal.1.eq_or_lt with same | before
    · have isBelow : ssocUicurveMap ((curve 0).real - 1) curve = some ((curve 0).real - 1) :=
        map_below (by omega)
      have mono := safe.monotone _ _ _ _ (by omega) (by omega) (by omega) isBelow isMiddle
      omega
    · exact .inl (safe.monotone _ _ _ _ (by omega) (by omega) (by omega)
        (map_low shaped (by omega)) isMiddle)
  · exact uicurveLine_next shaped.lowUi_mem (safe.monotone _ _ _ _ (by omega) (by omega) (by omega)
      (map_low shaped (by omega)) (map_first shaped (by omega) apart))
  · exact uicurveLine_next shaped.middleUi (safe.monotone _ _ _ _ (by omega) (by omega) (by omega)
      (map_middle shaped (by omega)) (map_second shaped (by omega) (by omega) apart))

end Rises

end GsKernel.Bms
