import Mathlib.Data.List.DropRight
import SmartTag.App.Impact
import SmartTag.Lib.Hysteresis

/-!
# One event per impact and per fall

What the shock detector reports over a run of samples, with thresholds that may change from one to
the next. Its two latches have hysteresis, and its peak is kept since the last reset.

* `detector_reports_iff`: a sample is reported as a shock or as a fall exactly when it passes the
  threshold and the tag has looked calm since the last one that was; the peak is the largest
  excursion over the threshold.
-/

namespace SmartTag

open Hysteresis

/-- `shock_detector_reset_peak`. -/
def shockDetectorResetPeak (detector : ShockDetector) : ShockDetector :=
  { detector with peakMg := 0 }

/-- `shock_detector_peak`. -/
def shockDetectorPeak (detector : ShockDetector) : UInt16 := detector.peakMg

/-- A call of the detector, under the configuration in force. -/
inductive DetectorCall where
  | process (data : SensorData) (config : AcceptedConfig)
  | resetPeak

namespace ShockDetector

def step (detector : ShockDetector) : DetectorCall → ShockDetector
  | .process data config => detector.sense config.config data
  | .resetPeak => shockDetectorResetPeak detector

/-- What the call returns. -/
def result (detector : ShockDetector) : DetectorCall → Option ShockResult
  | .process data config =>
    some (shockDetectorProcess data config.config.shockThresholdMg
      config.config.freeFallThresholdMg detector).1
  | .resetPeak => none

end ShockDetector

namespace DetectorCall

/-- The excursion exceeds the shock threshold. -/
def Strikes : DetectorCall → Prop
  | .process data config => config.config.shockThresholdMg.toNat < excursion data
  | .resetPeak => False

/-- The excursion is below `REARM_DEVIATION_MG`. -/
def Calm : DetectorCall → Prop
  | .process data _ => excursion data < 300
  | .resetPeak => False

/-- The magnitude is below the free fall threshold. -/
def Falls : DetectorCall → Prop
  | .process data config => data.magnitudeMg < config.config.freeFallThresholdMg
  | .resetPeak => False

/-- The magnitude is above the free fall threshold by more than `REARM_DEVIATION_MG`. -/
def Held : DetectorCall → Prop
  | .process data config =>
    config.config.freeFallThresholdMg.toNat + 300 < data.magnitudeMg.toNat
  | .resetPeak => False

instance : DecidablePred Strikes
  | .process _ _ => inferInstanceAs (Decidable (_ < _))
  | .resetPeak => inferInstanceAs (Decidable False)

instance : DecidablePred Calm
  | .process _ _ => inferInstanceAs (Decidable (_ < _))
  | .resetPeak => inferInstanceAs (Decidable False)

instance : DecidablePred Falls
  | .process _ _ => inferInstanceAs (Decidable (_ < _))
  | .resetPeak => inferInstanceAs (Decidable False)

instance : DecidablePred Held
  | .process _ _ => inferInstanceAs (Decidable (_ < _))
  | .resetPeak => inferInstanceAs (Decidable False)

/-- An accepted shock threshold is above what counts as calm. -/
theorem not_calm_of_strikes {call : DetectorCall} (h : call.Strikes) : ¬ call.Calm := by
  cases call with
  | process data config =>
    have hthreshold := UInt16.le_iff_toNat_le.1 config.inRange.shockThreshold.1
    have hmin : (500 : UInt16).toNat = 500 := rfl
    have hover : config.config.shockThresholdMg.toNat < excursion data := h
    show ¬ excursion data < 300
    omega
  | resetPeak => exact fun _ => h

theorem not_held_of_falls {call : DetectorCall} (h : call.Falls) : ¬ call.Held := by
  cases call with
  | process data config =>
    have hlow := UInt16.lt_iff_toNat_lt.1 (show data.magnitudeMg < _ from h)
    show ¬ _ + 300 < _
    omega
  | resetPeak => exact fun _ => h

/-- The excursion, if it is over the threshold. -/
def impact : DetectorCall → Nat
  | .process data config =>
    if config.config.shockThresholdMg.toNat < excursion data then excursion data else 0
  | .resetPeak => 0

def isProcess : DetectorCall → Bool
  | .process _ _ => true
  | .resetPeak => false

end DetectorCall

open DetectorCall

/-! ## One call -/

section

variable (data : SensorData) (threshold : UInt16) (detector : ShockDetector)

theorem shockLatched_detectShock :
    (detectShock data threshold detector).2.shockLatched =
      if threshold.toNat < excursion data then true
      else if excursion data < 300 then false
      else detector.shockLatched := by
  unfold detectShock excursion rearmDeviationMg
  dsimp only
  split_ifs with hover hharder hlatched hlatched <;> first | rfl | exact hlatched

/-- A harder excursion over the threshold is the new peak. -/
theorem peakMg_detectShock :
    (detectShock data threshold detector).2.peakMg.toNat =
      max detector.peakMg.toNat
        (if threshold.toNat < excursion data then excursion data else 0) := by
  have hpeak : (UInt16.ofNat (min (excursion data) 65535)).toNat = excursion data := by
    have hlt := excursion_lt data
    rw [Nat.min_eq_left (Nat.le_of_lt hlt)]
    exact UInt16.toNat_ofNat_of_lt' (hlt.trans (by decide))
  have hfold : (motionClassifierDeviation data).natAbs = excursion data := rfl
  unfold detectShock
  dsimp only
  rw [hfold]
  generalize UInt16.ofNat (min (excursion data) 65535) = thisPeak at hpeak ⊢
  split_ifs with hover hharder hlatched hlatched
  · rw [UInt16.lt_iff_toNat_lt] at hharder
    show thisPeak.toNat = _
    omega
  · rw [UInt16.lt_iff_toNat_lt] at hharder
    show thisPeak.toNat = _
    omega
  · rw [UInt16.lt_iff_toNat_lt] at hharder
    show detector.peakMg.toNat = _
    omega
  · rw [UInt16.lt_iff_toNat_lt] at hharder
    show detector.peakMg.toNat = _
    omega
  · exact (Nat.max_zero _).symm
  · exact (Nat.max_zero _).symm

theorem freeFallLatched_detectFreeFall :
    (detectFreeFall data threshold detector).2.freeFallLatched =
      if data.magnitudeMg < threshold then true
      else if threshold.toNat + 300 < data.magnitudeMg.toNat then false
      else detector.freeFallLatched := by
  unfold detectFreeFall rearmDeviationMg
  split_ifs with hlow hlatched <;> first | rfl | exact hlatched

theorem peakMg_detectFreeFall :
    (detectFreeFall data threshold detector).2.peakMg = detector.peakMg := by
  unfold detectFreeFall
  split_ifs <;> rfl

end

/-! ## The latches and the peak -/

section

variable (detector : ShockDetector) (call : DetectorCall)

theorem shockLatched_step :
    (detector.step call).shockLatched = latch Strikes Calm detector.shockLatched call := by
  cases call with
  | process data config =>
    refine (shockLatched_detectShock data config.config.shockThresholdMg
      (detectFreeFall data config.config.freeFallThresholdMg detector).2).trans ?_
    rw [detectFreeFall_shockLatched]
    rfl
  | resetPeak => rfl

theorem freeFallLatched_step :
    (detector.step call).freeFallLatched = latch Falls Held detector.freeFallLatched call := by
  cases call with
  | process data config =>
    refine (detectShock_freeFallLatched _ _ _).trans ?_
    exact freeFallLatched_detectFreeFall data _ detector
  | resetPeak => rfl

theorem peakMg_step :
    (detector.step call).peakMg.toNat =
      if call.isProcess then max detector.peakMg.toNat call.impact else 0 := by
  cases call with
  | process data config =>
    refine (peakMg_detectShock data config.config.shockThresholdMg
      (detectFreeFall data config.config.freeFallThresholdMg detector).2).trans ?_
    rw [peakMg_detectFreeFall]
    rfl
  | resetPeak => rfl

end

/-! ## Runs -/

/-- The statics after a run of calls from `shock_detector_init`. -/
def detectorAfter (calls : List DetectorCall) : ShockDetector :=
  Run.final ShockDetector.step shockDetectorInit calls

/-- Call `i` of the run returns a result that reports. -/
def Reports (report : ShockResult → Bool) (calls : List DetectorCall) (i : Nat) : Prop :=
  ∃ call result, calls[i]? = some call ∧
    (detectorAfter (calls.take i)).result call = some result ∧ report result = true

theorem reports_shock_iff (calls : List DetectorCall) (i : Nat) :
    Reports (·.shock) calls i ↔ Fires Strikes Calm calls i := by
  have hlatch : (detectorAfter (calls.take i)).shockLatched =
      Run.final (latch Strikes Calm) false (calls.take i) :=
    Run.final_simulation (R := fun (d : ShockDetector) latched => d.shockLatched = latched)
      (fun d _ call h => (shockLatched_step d call).trans (congrArg (latch _ _ · call) h)) rfl _
  refine exists_congr fun call => ?_
  rw [exists_and_left, ← hlatch]
  refine and_congr_right fun _ => ?_
  cases call with
  | process data config =>
    have hshock := shockDetectorProcess_shock data config.config.shockThresholdMg
      config.config.freeFallThresholdMg (detectorAfter (calls.take i))
    simp only [ShockDetector.result, Option.some.injEq, exists_eq_left']
    exact hshock
  | resetPeak => simp [ShockDetector.result, Strikes]

theorem reports_freeFall_iff (calls : List DetectorCall) (i : Nat) :
    Reports (·.freeFall) calls i ↔ Fires Falls Held calls i := by
  have hlatch : (detectorAfter (calls.take i)).freeFallLatched =
      Run.final (latch Falls Held) false (calls.take i) :=
    Run.final_simulation (R := fun (d : ShockDetector) latched => d.freeFallLatched = latched)
      (fun d _ call h => (freeFallLatched_step d call).trans (congrArg (latch _ _ · call) h)) rfl _
  refine exists_congr fun call => ?_
  rw [exists_and_left, ← hlatch]
  refine and_congr_right fun _ => ?_
  cases call with
  | process data config =>
    have hfreeFall := shockDetectorProcess_freeFall data config.config.shockThresholdMg
      config.config.freeFallThresholdMg (detectorAfter (calls.take i))
    simp only [ShockDetector.result, Option.some.injEq, exists_eq_left']
    exact hfreeFall
  | resetPeak => simp [ShockDetector.result, Falls]

/-- The peak is the largest excursion over the threshold since the last reset. -/
theorem peakMg_detectorAfter (calls : List DetectorCall) :
    (shockDetectorPeak (detectorAfter calls)).toNat =
      ((calls.rtakeWhile DetectorCall.isProcess).map DetectorCall.impact).foldl max 0 := by
  induction calls using List.reverseRecOn with
  | nil => rfl
  | append_singleton calls call ih =>
    have hstep := peakMg_step (detectorAfter calls) call
    rw [shockDetectorPeak] at ih
    rw [shockDetectorPeak, detectorAfter, Run.final_concat, List.rtakeWhile_concat]
    refine hstep.trans ?_
    split_ifs with hprocess
    · rw [ih, List.map_append, List.foldl_append]
      rfl
    · rfl

/-- Over every run of calls from `shock_detector_init`, under accepted thresholds that may change
from call to call: a call reports a shock exactly when it strikes and none was reported before it, or
the tag has looked calm since the last one that was; the same for falls; and the peak is the largest
excursion over the threshold since the last reset. -/
theorem detector_reports_iff (calls : List DetectorCall) :
    (∀ i, Reports (·.shock) calls i ↔
      ∃ call, calls[i]? = some call ∧ call.Strikes ∧
        ((∀ j < i, ¬ Reports (·.shock) calls j) ∨
          ∃ j, LastBefore (Reports (·.shock) calls) i j ∧ RearmedBetween Calm calls j i)) ∧
    (∀ i, Reports (·.freeFall) calls i ↔
      ∃ call, calls[i]? = some call ∧ call.Falls ∧
        ((∀ j < i, ¬ Reports (·.freeFall) calls j) ∨
          ∃ j, LastBefore (Reports (·.freeFall) calls) i j ∧ RearmedBetween Held calls j i)) ∧
    (shockDetectorPeak (detectorAfter calls)).toNat =
      ((calls.rtakeWhile DetectorCall.isProcess).map DetectorCall.impact).foldl max 0 := by
  have hshock : Reports (·.shock) calls = Fires Strikes Calm calls :=
    funext fun i => propext (reports_shock_iff calls i)
  have hfreeFall : Reports (·.freeFall) calls = Fires Falls Held calls :=
    funext fun i => propext (reports_freeFall_iff calls i)
  rw [hshock, hfreeFall]
  refine ⟨fun i => ?_, fun i => ?_, peakMg_detectorAfter calls⟩
  · exact fires_iff fun _ h => not_calm_of_strikes h
  · exact fires_iff fun _ h => not_held_of_falls h

end SmartTag
