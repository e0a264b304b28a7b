import SmartTag.Motion.ShockDetector

/-!
# Motion manager

The motion state of the tag, following `src/motion/motion_manager.c`: moving or stationary with a
quiet-time hysteresis, the axis that points up, and whether interference is inferred. The manager
works with its own copy of the configuration.

The flags a sample gets and the events reported are separate results of `motionManagerProcess`.
`MotionEvents` has the events as booleans; `toUInt32` is the mask of `struct motion_result`.

* `MotionEvents.toUInt32_reports`: the mask reports exactly the events that are set.
* `motionManagerProcess_events`: the events of a sample, from the state before it.
-/

namespace SmartTag

/-- `TAMPER_SETTLED_S`. -/
def tamperSettledS : UInt32 := 300

/-- `motion_state_t`. -/
inductive MotionState where
  | stationary | moving
deriving DecidableEq, Repr

def MotionState.toUInt8 : MotionState → UInt8
  | .stationary => motionStateStationary
  | .moving => motionStateMoving

/-- The statics of the module, with those of the shock detector. -/
structure MotionManager where
  config : TagConfig
  state : MotionState
  orientation : Orientation
  tamper : Bool
  /-- The last sample that looked like motion. -/
  lastActiveTime : UInt32
  motionStartedTime : UInt32
  stationarySince : UInt32
  totalMovementS : UInt32
  detector : ShockDetector
deriving DecidableEq, Repr

def motionManagerInit (config : TagConfig) : MotionManager where
  config := config
  state := .stationary
  orientation := .unknown
  tamper := false
  lastActiveTime := 0
  motionStartedTime := 0
  stationarySince := 0
  totalMovementS := 0
  detector := shockDetectorInit

def motionManagerUpdateConfig (config : TagConfig) (manager : MotionManager) : MotionManager :=
  { manager with config := config }

def motionManagerClearTamper (manager : MotionManager) : MotionManager :=
  { manager with tamper := false }

/-! ## What is reported -/

/-- The bits of `MOTION_EVENT_*`. -/
structure MotionEvents where
  start : Bool
  stop : Bool
  shock : Bool
  freeFall : Bool
  orientation : Bool
  tamper : Bool
deriving DecidableEq, Repr

namespace MotionEvents

def toUInt32 (events : MotionEvents) : UInt32 :=
  let mask := 0
  let mask := if events.shock then mask ||| motionEventShock else mask
  let mask := if events.freeFall then mask ||| motionEventFreeFall else mask
  let mask := if events.start then mask ||| motionEventStart else mask
  let mask := if events.stop then mask ||| motionEventStop else mask
  let mask := if events.orientation then mask ||| motionEventOrientation else mask
  if events.tamper then mask ||| motionEventTamper else mask

/-- The mask reports what is set, whatever else there is in the result. -/
theorem toUInt32_reports {motion : MotionResult} {events : MotionEvents}
    (h : motion.events = events.toUInt32) :
    (motion.reports motionEventStart ↔ events.start = true) ∧
      (motion.reports motionEventStop ↔ events.stop = true) ∧
      (motion.reports motionEventShock ↔ events.shock = true) ∧
      (motion.reports motionEventFreeFall ↔ events.freeFall = true) ∧
      (motion.reports motionEventOrientation ↔ events.orientation = true) ∧
      (motion.reports motionEventTamper ↔ events.tamper = true) := by
  simp only [MotionResult.reports, h]
  obtain ⟨start, stop, shock, freeFall, orientation, tamper⟩ := events
  cases start <;> cases stop <;> cases shock <;> cases freeFall <;> cases orientation <;>
    cases tamper <;> decide

end MotionEvents

/-! ## Samples -/

/-- The motion state: whether the tag starts or stops moving, and how long it has moved. -/
def trackMotion (data : SensorData) (manager : MotionManager) :
    (Bool × Bool × UInt32) × MotionManager :=
  let now := data.timestamp
  if motionClassifierIsActive data manager.config.motionThresholdMg then
    let manager := { manager with lastActiveTime := now }
    if manager.state = .stationary then
      ((true, false, 0), { manager with state := .moving, motionStartedTime := now })
    else ((false, false, 0), manager)
  else if manager.state = .moving ∧
      manager.config.motionTimeoutS.toUInt32 ≤ now - manager.lastActiveTime then
    let duration := manager.lastActiveTime - manager.motionStartedTime
    ((false, true, duration),
      { manager with
        state := .stationary
        stationarySince := now
        totalMovementS := manager.totalMovementS + duration })
  else ((false, false, 0), manager)

/-- The orientation: whether it changes, and whether that is taken for interference. `struck` says
that the tag was settled and has taken a shock. -/
def trackOrientation (data : SensorData) (struck : Bool) (manager : MotionManager) :
    (Bool × Bool) × MotionManager :=
  let nowOrientation := motionClassifierOrientation data
  if nowOrientation ≠ .unknown ∧ nowOrientation ≠ manager.orientation then
    let first : Bool := decide (manager.orientation = .unknown)
    let manager := { manager with orientation := nowOrientation }
    if first then ((false, false), manager)
    else if struck ∧ ¬ manager.tamper then ((true, true), { manager with tamper := true })
    else ((true, false), manager)
  else ((false, false), manager)

/-- `motion_manager_process`: the result, and the sample with its flags filled in. -/
def motionManagerProcess (data : SensorData) (manager : MotionManager) :
    (MotionResult × SensorData) × MotionManager :=
  if data.valid &&& sensorValidAccel = 0 then
    (({ events := 0
        shockMg := 0
        orientation := manager.orientation.toUInt8
        motionState := manager.state.toUInt8
        movementDurationS := 0 }, data), manager)
  else
    let wasSettled : Bool := decide
      (manager.state = .stationary ∧ tamperSettledS ≤ data.timestamp - manager.stationarySince)
    let (shock, detector) := shockDetectorProcess data manager.config.shockThresholdMg
      manager.config.freeFallThresholdMg manager.detector
    let manager := { manager with detector := detector }
    let ((start, stop, duration), manager) := trackMotion data manager
    let ((turned, tamper), manager) := trackOrientation data (wasSettled && shock.shock) manager
    let events : MotionEvents :=
      { start := start
        stop := stop
        shock := shock.shock
        freeFall := shock.freeFall
        orientation := turned
        tamper := tamper }
    (({ events := events.toUInt32
        shockMg := if shock.shock then shock.peakMg else 0
        orientation := manager.orientation.toUInt8
        motionState := manager.state.toUInt8
        movementDurationS := duration },
      { data with
        shock := data.shock || shock.shock
        freeFall := data.freeFall || shock.freeFall
        motion := decide (manager.state = .moving)
        orientation := manager.orientation.toUInt8 }), manager)

/-! ## What a sample leaves alone -/

theorem trackMotion_config (data : SensorData) (manager : MotionManager) :
    (trackMotion data manager).2.config = manager.config := by
  unfold trackMotion
  dsimp only
  split_ifs <;> rfl

theorem trackOrientation_config (data : SensorData) (struck : Bool) (manager : MotionManager) :
    (trackOrientation data struck manager).2.config = manager.config := by
  unfold trackOrientation
  dsimp only
  split_ifs <;> rfl

theorem motionManagerProcess_config (data : SensorData) (manager : MotionManager) :
    (motionManagerProcess data manager).2.config = manager.config := by
  unfold motionManagerProcess
  split_ifs
  · rfl
  · exact (trackOrientation_config _ _ _).trans (trackMotion_config _ _)

/-! ## When something is reported -/

theorem trackMotion_start (data : SensorData) (manager : MotionManager) :
    (trackMotion data manager).1.1 =
      decide (motionClassifierIsActive data manager.config.motionThresholdMg ∧
        manager.state = .stationary) := by
  unfold trackMotion
  dsimp only
  split_ifs <;> simp_all

theorem trackMotion_stop (data : SensorData) (manager : MotionManager) :
    (trackMotion data manager).1.2.1 =
      decide (¬ motionClassifierIsActive data manager.config.motionThresholdMg ∧
        manager.state = .moving ∧
        manager.config.motionTimeoutS.toUInt32 ≤ data.timestamp - manager.lastActiveTime) := by
  unfold trackMotion
  dsimp only
  split_ifs <;> simp_all

/-- What decides the orientation events is not touched by the motion state. -/
theorem trackMotion_frame (data : SensorData) (manager : MotionManager) :
    (trackMotion data manager).2.orientation = manager.orientation ∧
      (trackMotion data manager).2.tamper = manager.tamper := by
  unfold trackMotion
  dsimp only
  split_ifs <;> exact ⟨rfl, rfl⟩

/-- The tag faces another way than it did. -/
def MotionManager.Turns (data : SensorData) (manager : MotionManager) : Prop :=
  motionClassifierOrientation data ≠ .unknown ∧
    motionClassifierOrientation data ≠ manager.orientation ∧ manager.orientation ≠ .unknown

instance (data : SensorData) (manager : MotionManager) : Decidable (manager.Turns data) :=
  inferInstanceAs (Decidable (_ ∧ _))

theorem trackOrientation_events (data : SensorData) (struck : Bool) (manager : MotionManager) :
    (trackOrientation data struck manager).1 =
      (decide (manager.Turns data),
        decide (manager.Turns data ∧ struck = true ∧ manager.tamper = false)) := by
  unfold trackOrientation MotionManager.Turns
  dsimp only
  split_ifs with hknown hstruck
  · simp_all
  · simp_all
  · simp_all
  · have hsame : ¬ (motionClassifierOrientation data ≠ .unknown ∧
        motionClassifierOrientation data ≠ manager.orientation ∧ manager.orientation ≠ .unknown) :=
      fun h => hknown ⟨h.1, h.2.1⟩
    simp [hsame]

namespace MotionManager

variable (data : SensorData) (manager : MotionManager)

def Settled : Prop :=
  manager.state = .stationary ∧ tamperSettledS ≤ data.timestamp - manager.stationarySince

def Struck : Prop :=
  manager.config.shockThresholdMg.toNat < (motionClassifierDeviation data).natAbs ∧
    manager.detector.shockLatched = false

def Falls : Prop :=
  data.magnitudeMg < manager.config.freeFallThresholdMg ∧ manager.detector.freeFallLatched = false

instance : Decidable (manager.Settled data) := inferInstanceAs (Decidable (_ ∧ _))
instance : Decidable (manager.Struck data) := inferInstanceAs (Decidable (_ ∧ _))
instance : Decidable (manager.Falls data) := inferInstanceAs (Decidable (_ ∧ _))

end MotionManager

/-- The events of a sample, from the state before it. -/
def motionEventsOf (data : SensorData) (manager : MotionManager) : MotionEvents :=
  if data.valid &&& sensorValidAccel = 0 then
    { start := false, stop := false, shock := false, freeFall := false, orientation := false
      tamper := false }
  else
    { start := decide (motionClassifierIsActive data manager.config.motionThresholdMg ∧
        manager.state = .stationary)
      stop := decide (¬ motionClassifierIsActive data manager.config.motionThresholdMg ∧
        manager.state = .moving ∧
        manager.config.motionTimeoutS.toUInt32 ≤ data.timestamp - manager.lastActiveTime)
      shock := decide (manager.Struck data)
      freeFall := decide (manager.Falls data)
      orientation := decide (manager.Turns data)
      tamper := decide (manager.Turns data ∧ (manager.Settled data ∧ manager.Struck data) ∧
        manager.tamper = false) }

theorem motionManagerProcess_events (data : SensorData) (manager : MotionManager) :
    (motionManagerProcess data manager).1.1.events = (motionEventsOf data manager).toUInt32 := by
  unfold motionManagerProcess motionEventsOf
  split_ifs with haccel
  · rfl
  · let result := shockDetectorProcess data manager.config.shockThresholdMg
      manager.config.freeFallThresholdMg manager.detector
    let detected : MotionManager := { manager with detector := result.2 }
    let tracked := (trackMotion data detected).2
    have hshock : result.1.shock = decide (manager.Struck data) :=
      Bool.eq_iff_iff.2 ((shockDetectorProcess_shock data _ _ _).trans decide_eq_true_iff.symm)
    have hfall : result.1.freeFall = decide (manager.Falls data) :=
      Bool.eq_iff_iff.2 ((shockDetectorProcess_freeFall data _ _ _).trans decide_eq_true_iff.symm)
    obtain ⟨horientation, htamper⟩ : tracked.orientation = manager.orientation ∧
        tracked.tamper = manager.tamper := trackMotion_frame data detected
    have hturns : tracked.Turns data ↔ manager.Turns data := by
      rw [MotionManager.Turns, horientation]
      exact Iff.rfl
    have hevents := trackOrientation_events data
      (decide (manager.Settled data) && result.1.shock) tracked
    show MotionEvents.toUInt32
      { start := (trackMotion data detected).1.1
        stop := (trackMotion data detected).1.2.1
        shock := result.1.shock
        freeFall := result.1.freeFall
        orientation := (trackOrientation data
          (decide (manager.Settled data) && result.1.shock) tracked).1.1
        tamper := (trackOrientation data
          (decide (manager.Settled data) && result.1.shock) tracked).1.2 } = _
    rw [hevents, trackMotion_start, trackMotion_stop, hshock, hfall]
    simp only [hturns, htamper, Bool.and_eq_true, decide_eq_true_eq]
    rfl

end SmartTag
