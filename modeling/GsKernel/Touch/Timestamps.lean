import GsKernel.Lib.Runs

/-!
# Corrected touch timestamps

`goog_input_set_timestamp` moves the reported time on by the sensor's own time step and lets a PID
controller pull it towards the host's time, except for a first finger, without a new sensing time
and after a pause. Every reported time stays in a band around the host time of its call. Times are
in nanoseconds and do not overflow.
-/

namespace GsKernel.Touch

open Lib.Runs

def NSEC_PER_USEC : Int := 1000
def NSEC_PER_MSEC : Int := 1000000

/-- `struct pid_controller`. -/
structure PidController where
  (k1 k2 k3 div e0 e1 e2 : Int)
deriving Inhabited

/-- `pid_controller_init`. -/
def pidControllerInit (pid : PidController) (kp ki kd div : Int) : PidController :=
  { pid with k1 := kp + ki + kd, k2 := -1 * kp - 2 * kd, k3 := kd, div }

/-- `pid_controller_process`. -/
def pidControllerProcess (pid : PidController) (e : Int) : PidController × Int :=
  let pid := { pid with e2 := pid.e1, e1 := pid.e0, e0 := e }
  (pid, (pid.k1 * pid.e0 + pid.k2 * pid.e1 + pid.k3 * pid.e2).tdiv pid.div)

/-- The settings of the correction. -/
structure Correction where
  timestampCorrectionEnabled : Bool
  frameTime : Int
  positive : 0 < frameTime

/-- The timestamps of `struct goog_touch_interface`. -/
structure Gti where
  inputTimestamp : Int
  sensingTimestamp : Nat
  lastSensingTimestamp : Nat
  sensingTimestampChanged : Bool
  slotBitActive : Nat
  pid : PidController
deriving Inhabited

namespace Gti

variable (cfg : Correction) (gti : Gti) (timestamp : Int)

def dtSensing : Int := gti.sensingTimestamp - gti.lastSensingTimestamp

/-- Whether `goog_input_set_timestamp` corrects the host time. -/
def corrects : Bool :=
  let dt := timestamp - gti.inputTimestamp
  let maxDt := 100 * NSEC_PER_MSEC
  cfg.timestampCorrectionEnabled && gti.sensingTimestampChanged && gti.slotBitActive != 0 &&
    dt > -maxDt && dt < maxDt && gti.dtSensing > -maxDt && gti.dtSensing < maxDt

/-- The controller after a corrected call, and its limited signal `u`. -/
def control : PidController × Int :=
  let (pid, u) := pidControllerProcess gti.pid (timestamp - (gti.inputTimestamp + gti.dtSensing))
  let uLimit := 100 * NSEC_PER_USEC
  (pid, if u > uLimit then uLimit else if u < -uLimit then -uLimit else u)

def timestampCorrected : Int :=
  let corrected := gti.inputTimestamp + gti.dtSensing + (gti.control timestamp).2
  let dt := timestamp - corrected
  if dt > 2 * cfg.frameTime then timestamp - 2 * cfg.frameTime
  else if dt < -2 * NSEC_PER_MSEC then timestamp + 2 * NSEC_PER_MSEC
  else corrected

/-- `goog_input_set_timestamp`. -/
def inputSetTimestamp : Gti :=
  let gti := if gti.corrects cfg timestamp then
      { gti with
        inputTimestamp := gti.timestampCorrected cfg timestamp, pid := (gti.control timestamp).1 }
    else { gti with inputTimestamp := timestamp }
  { gti with sensingTimestampChanged := false }

/-- `goog_input_set_sensing_timestamp`. -/
def inputSetSensingTimestamp (timestamp : Nat) : Gti :=
  if timestamp < gti.sensingTimestamp then gti
  else { gti with
    lastSensingTimestamp := gti.sensingTimestamp, sensingTimestamp := timestamp
    sensingTimestampChanged := true }

/-- A call of the touch driver; `slots` is fingers going down and up. -/
inductive Call where
  | setSensingTimestamp (timestamp : Nat)
  | setTimestamp (timestamp : Int)
  | slots (active : Nat)

def call : Call → Gti
  | .setSensingTimestamp timestamp => gti.inputSetSensingTimestamp timestamp
  | .setTimestamp timestamp => gti.inputSetTimestamp cfg timestamp
  | .slots active => { gti with slotBitActive := active }

lemma neg_limit_le_control : -(100 * NSEC_PER_USEC) ≤ (gti.control timestamp).2 := by
  unfold control NSEC_PER_USEC
  dsimp only
  split_ifs <;> omega

/-- After `goog_input_set_timestamp` the reported time is close to the host's. -/
def InBand : Call → Prop
  | .setTimestamp timestamp =>
    timestamp - 2 * cfg.frameTime ≤ gti.inputTimestamp ∧
      gti.inputTimestamp ≤ timestamp + 2 * NSEC_PER_MSEC
  | _ => True

lemma inputTimestamp_inputSetTimestamp : (gti.inputSetTimestamp cfg timestamp).inputTimestamp =
    if gti.corrects cfg timestamp then gti.timestampCorrected cfg timestamp else timestamp := by
  unfold inputSetTimestamp
  split_ifs <;> rfl

lemma inputTimestamp_inputSetSensingTimestamp (timestamp : Nat) :
    (gti.inputSetSensingTimestamp timestamp).inputTimestamp = gti.inputTimestamp := by
  unfold inputSetSensingTimestamp
  split_ifs <;> rfl

/-- Every call leaves the reported time in its band. -/
lemma call_inBand (call : Call) : (gti.call cfg call).InBand cfg call := by
  have positive := cfg.positive
  cases call with
  | setTimestamp timestamp =>
    simp only [InBand, Gti.call, inputTimestamp_inputSetTimestamp, timestampCorrected,
      NSEC_PER_MSEC]
    split_ifs <;> omega
  | _ => trivial

end Gti

/-- The interface with its last report: the host time it was made at and whether it was
corrected. -/
structure Reports where
  gti : Gti
  host : Int
  corrected : Bool

namespace Reports

variable (cfg : Correction) (reports : Reports)

/-- One call. -/
def step : Gti.Call → Reports
  | .setTimestamp timestamp =>
    ⟨reports.gti.call cfg (.setTimestamp timestamp), timestamp, reports.gti.corrects cfg timestamp⟩
  | call => { reports with gti := reports.gti.call cfg call }

/-- The host's time does not go back. At a corrected call the sensor's step is at least the limit
of the controller's signal; an uncorrected one comes 2 ms after the last report, if that was
corrected. -/
def Meets : Gti.Call → Prop
  | .setTimestamp timestamp =>
    reports.host ≤ timestamp ∧
      if reports.gti.corrects cfg timestamp then 100 * NSEC_PER_USEC ≤ reports.gti.dtSensing
      else reports.corrected = false ∨ reports.host + 2 * NSEC_PER_MSEC ≤ timestamp
  | _ => True

/-- How far the reported time may be ahead of the host time it was reported at. -/
structure Ahead : Prop where
  corrected : reports.gti.inputTimestamp ≤ reports.host + 2 * NSEC_PER_MSEC
  uncorrected : reports.corrected = false → reports.gti.inputTimestamp ≤ reports.host

variable {reports}

lemma step_gti (call : Gti.Call) : (reports.step cfg call).gti = reports.gti.call cfg call := by
  cases call <;> rfl

lemma Ahead.step (ahead : reports.Ahead) (call : Gti.Call) : (reports.step cfg call).Ahead := by
  cases call with
  | setTimestamp timestamp =>
    refine ⟨(reports.gti.call_inBand cfg (.setTimestamp timestamp)).2, fun uncorrected => ?_⟩
    change reports.gti.corrects cfg timestamp = false at uncorrected
    simp [Reports.step, Gti.call, Gti.inputTimestamp_inputSetTimestamp, uncorrected]
  | setSensingTimestamp timestamp =>
    have same := reports.gti.inputTimestamp_inputSetSensingTimestamp timestamp
    exact ⟨same ▸ ahead.corrected, fun uncorrected => same ▸ ahead.uncorrected uncorrected⟩
  | slots active => exact ⟨ahead.corrected, ahead.uncorrected⟩

/-- A call that meets the condition does not take the reported time back. -/
lemma Ahead.le_call (ahead : reports.Ahead) {call : Gti.Call} (meets : reports.Meets cfg call) :
    reports.gti.inputTimestamp ≤ (reports.gti.call cfg call).inputTimestamp := by
  cases call with
  | setTimestamp timestamp =>
    obtain ⟨corrected, uncorrected⟩ := ahead
    obtain ⟨later, meets⟩ := meets
    rw [Gti.call, Gti.inputTimestamp_inputSetTimestamp]
    split_ifs at meets ⊢ with corrects
    · -- the sensor's step outweighs the signal, and the band's upper end has moved on
      have limited := reports.gti.neg_limit_le_control timestamp
      have positive := cfg.positive
      simp only [Gti.timestampCorrected]
      split_ifs <;> omega
    · rcases meets with first | pause
      · exact (uncorrected first).trans later
      · exact corrected.trans pause
  | setSensingTimestamp timestamp =>
    exact (reports.gti.inputTimestamp_inputSetSensingTimestamp timestamp).ge
  | slots active => exact le_rfl

/-- The reported times of a run that meets the condition do not go back. -/
lemma Ahead.ordered (ahead : reports.Ahead) {calls : List Gti.Call}
    (along : Along (Reports.step cfg) (Meets cfg) reports calls) :
    Along (Gti.call cfg) (fun gti input => gti.inputTimestamp ≤ (gti.call cfg input).inputTimestamp)
      reports.gti calls := by
  induction calls generalizing reports with
  | nil => trivial
  | cons call calls ih =>
    refine ⟨ahead.le_call cfg along.1, ?_⟩
    rw [← step_gti]
    exact ih (ahead.step cfg call) along.2

end Reports

namespace Gti

open Reports

/-- In every run each reported time lies in the band of its call. The reported times never go
back in a run whose calls all meet the condition; its first report counts as coming after an
uncorrected one. -/
theorem timestamps_ordered (cfg : Correction) (gti : Gti) (calls : List Call) :
    Along (call cfg) (fun gti input => (gti.call cfg input).InBand cfg input) gti calls ∧
      (Along (step cfg) (Meets cfg) ⟨gti, gti.inputTimestamp, false⟩ calls →
        Along (call cfg) (fun gti input =>
          gti.inputTimestamp ≤ (gti.call cfg input).inputTimestamp) gti calls) := by
  constructor
  · induction calls generalizing gti with
    | nil => trivial
    | cons input calls ih => exact ⟨gti.call_inBand cfg input, ih _⟩
  · intro along
    have ahead : Ahead ⟨gti, gti.inputTimestamp, false⟩ :=
      ⟨le_add_of_nonneg_right (by decide), fun _ => le_rfl⟩
    exact ahead.ordered cfg along

/-- Two corrected reports, and behind them two uncorrected ones, the first 2 ms later. -/
theorem timestamps_ordered_afterPause :
    let cfg : Correction := ⟨true, 8 * NSEC_PER_MSEC, by decide⟩
    let gti : Gti := { (default : Gti) with pid := pidControllerInit default 1 20 1 500 }
    Along (call cfg) (fun gti input => gti.inputTimestamp ≤ (gti.call cfg input).inputTimestamp)
      gti [.slots 1, .setSensingTimestamp 10000000, .setTimestamp 10000000,
        .setSensingTimestamp 20000000, .setTimestamp 18500000, .slots 0, .setTimestamp 20500000,
        .setTimestamp 20600000] :=
  (timestamps_ordered _ _ _).2 ⟨trivial, trivial, ⟨by decide, by decide⟩, trivial,
    ⟨by decide, by decide⟩, trivial, ⟨by decide, .inr (by decide)⟩, ⟨by decide, .inl rfl⟩, trivial⟩

/-- The host's time goes 10, 18.5, 19 ms. The corrected time runs ahead of it, and the finger
going up brings it back. -/
theorem timestamps_go_back :
    let cfg : Correction := ⟨true, 8 * NSEC_PER_MSEC, by decide⟩
    let gti : Gti := { (default : Gti) with pid := pidControllerInit default 1 20 1 500 }
    let down := [.slots 1, .setSensingTimestamp 10000000, .setTimestamp 10000000,
      .setSensingTimestamp 20000000, .setTimestamp 18500000].foldl (call cfg) gti
    ([.slots 0, .setTimestamp 19000000].foldl (call cfg) down).inputTimestamp <
      down.inputTimestamp := by
  decide

end Gti
end GsKernel.Touch
