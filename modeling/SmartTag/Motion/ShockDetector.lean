import SmartTag.App.Types

/-!
# Motion classifier and shock detector

What the accelerometer axes of one sample say, following `src/motion/motion_classifier.c` and
`src/motion/shock_detector.c`. The detector reports an impact or a fall once: it stays latched
until the tag looks calm again.

* `shockDetectorProcess_shock`, `shockDetectorProcess_freeFall`: when one is reported.
-/

namespace SmartTag

/-- `SMART_TAG_ONE_G_MG`. -/
def smartTagOneGMg : Nat := 1000

def orientationMinMg : Nat := smartTagOneGMg / 2

/-- `orientation_t`. -/
inductive Orientation where
  | unknown | xUp | xDown | yUp | yDown | zUp | zDown
deriving DecidableEq, Repr

/-- The value an orientation has on the wire. -/
def Orientation.toUInt8 (orientation : Orientation) : UInt8 := UInt8.ofNat orientation.ctorIdx

/-- `motion_classifier_deviation`. -/
def motionClassifierDeviation (data : SensorData) : Int :=
  data.magnitudeMg.toNat - smartTagOneGMg

/-- `motion_classifier_is_active`. -/
def motionClassifierIsActive (data : SensorData) (thresholdMg : UInt16) : Prop :=
  thresholdMg.toNat < (motionClassifierDeviation data).natAbs

instance (data : SensorData) (thresholdMg : UInt16) :
    Decidable (motionClassifierIsActive data thresholdMg) := inferInstanceAs (Decidable (_ < _))

/-- `motion_classifier_orientation`: the axis that holds more than half a g. -/
def motionClassifierOrientation (data : SensorData) : Orientation :=
  let ax := data.accelXMg.toInt.natAbs
  let ay := data.accelYMg.toInt.natAbs
  let az := data.accelZMg.toInt.natAbs
  if ax ≤ az ∧ ay ≤ az ∧ orientationMinMg < az then
    if 0 < data.accelZMg then .zUp else .zDown
  else if ax ≤ ay ∧ az ≤ ay ∧ orientationMinMg < ay then
    if 0 < data.accelYMg then .yUp else .yDown
  else if orientationMinMg < ax then
    if 0 < data.accelXMg then .xUp else .xDown
  else .unknown

/-! ## The detector -/

def rearmDeviationMg : Nat := 300

/-- The statics of `shock_detector.c`. -/
structure ShockDetector where
  shockLatched : Bool
  freeFallLatched : Bool
  peakMg : UInt16
deriving DecidableEq, Repr

/-- `struct shock_result`. -/
structure ShockResult where
  shock : Bool
  freeFall : Bool
  peakMg : UInt16
deriving DecidableEq, Repr

def shockDetectorInit : ShockDetector where
  shockLatched := false
  freeFallLatched := false
  peakMg := 0

/-- The free fall half of `shock_detector_process`: the tag is close to weightless. -/
def detectFreeFall (data : SensorData) (freeFallThresholdMg : UInt16) (detector : ShockDetector) :
    Bool × ShockDetector :=
  if data.magnitudeMg < freeFallThresholdMg then
    if detector.freeFallLatched then (false, detector)
    else (true, { detector with freeFallLatched := true })
  else if freeFallThresholdMg.toNat + rearmDeviationMg < data.magnitudeMg.toNat then
    (false, { detector with freeFallLatched := false })
  else (false, detector)

/-- The shock half of `shock_detector_process`: a large excursion either side of 1 g. -/
def detectShock (data : SensorData) (shockThresholdMg : UInt16) (detector : ShockDetector) :
    (Bool × UInt16) × ShockDetector :=
  let excursion := (motionClassifierDeviation data).natAbs
  if shockThresholdMg.toNat < excursion then
    let thisPeak := UInt16.ofNat (min excursion 65535)
    let detector :=
      if detector.peakMg < thisPeak then { detector with peakMg := thisPeak } else detector
    if detector.shockLatched then ((false, thisPeak), detector)
    else ((true, thisPeak), { detector with shockLatched := true })
  else if excursion < rearmDeviationMg then
    ((false, 0), { detector with shockLatched := false })
  else ((false, 0), detector)

def shockDetectorProcess (data : SensorData) (shockThresholdMg freeFallThresholdMg : UInt16)
    (detector : ShockDetector) : ShockResult × ShockDetector :=
  let (freeFall, detector) := detectFreeFall data freeFallThresholdMg detector
  let ((shock, peakMg), detector) := detectShock data shockThresholdMg detector
  ({ shock := shock, freeFall := freeFall, peakMg := peakMg }, detector)

/-! ## When something is reported -/

theorem detectFreeFall_shockLatched (data : SensorData) (freeFallThresholdMg : UInt16)
    (detector : ShockDetector) :
    (detectFreeFall data freeFallThresholdMg detector).2.shockLatched = detector.shockLatched := by
  unfold detectFreeFall
  split_ifs <;> rfl

theorem detectFreeFall_eq_true (data : SensorData) (freeFallThresholdMg : UInt16)
    (detector : ShockDetector) :
    (detectFreeFall data freeFallThresholdMg detector).1 = true ↔
      data.magnitudeMg < freeFallThresholdMg ∧ detector.freeFallLatched = false := by
  unfold detectFreeFall
  split_ifs with hlow hlatched <;> simp_all

theorem detectShock_eq_true (data : SensorData) (shockThresholdMg : UInt16)
    (detector : ShockDetector) :
    (detectShock data shockThresholdMg detector).1.1 = true ↔
      shockThresholdMg.toNat < (motionClassifierDeviation data).natAbs ∧
        detector.shockLatched = false := by
  unfold detectShock
  dsimp only
  split_ifs <;> simp_all

/-- A shock is reported when the threshold is passed and none is latched. -/
theorem shockDetectorProcess_shock (data : SensorData)
    (shockThresholdMg freeFallThresholdMg : UInt16) (detector : ShockDetector) :
    (shockDetectorProcess data shockThresholdMg freeFallThresholdMg detector).1.shock = true ↔
      shockThresholdMg.toNat < (motionClassifierDeviation data).natAbs ∧
        detector.shockLatched = false := by
  rw [← detectFreeFall_shockLatched data freeFallThresholdMg detector]
  exact detectShock_eq_true _ _ (detectFreeFall data freeFallThresholdMg detector).2

theorem shockDetectorProcess_freeFall (data : SensorData)
    (shockThresholdMg freeFallThresholdMg : UInt16) (detector : ShockDetector) :
    (shockDetectorProcess data shockThresholdMg freeFallThresholdMg detector).1.freeFall = true ↔
      data.magnitudeMg < freeFallThresholdMg ∧ detector.freeFallLatched = false :=
  detectFreeFall_eq_true _ _ _

end SmartTag
