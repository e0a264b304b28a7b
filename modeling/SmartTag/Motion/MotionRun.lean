import SmartTag.Lib.Run
import SmartTag.Motion.MotionManager

/-!
# Runs of the motion manager

Samples come one at a time; between them the configuration may be updated and a latched tamper
cleared. A run is the list of these inputs, read by their place in it: what was sampled at `n`,
what was reported, which state it found.

* `motionManagerProcess_reports`: what a sample reports, from the state before it.
* `motionManagerProcess_track`: what it does to the motion state and its times.
* `MotionRun.induction`: invariants of the state together with the inputs that led to it.
-/

namespace SmartTag

/-! ## One sample -/

/-- The accelerometer was read. -/
def SensorData.HasAccel (data : SensorData) : Prop := data.valid &&& sensorValidAccel ≠ 0

instance (data : SensorData) : Decidable data.HasAccel := inferInstanceAs (Decidable (_ ≠ _))

namespace MotionManager

def Starts (data : SensorData) (manager : MotionManager) : Prop :=
  motionClassifierIsActive data manager.config.motionThresholdMg ∧ manager.state = .stationary

def Stops (data : SensorData) (manager : MotionManager) : Prop :=
  ¬ motionClassifierIsActive data manager.config.motionThresholdMg ∧ manager.state = .moving ∧
    manager.config.motionTimeoutS.toUInt32 ≤ data.timestamp - manager.lastActiveTime

instance (data : SensorData) (manager : MotionManager) : Decidable (manager.Starts data) :=
  inferInstanceAs (Decidable (_ ∧ _))

instance (data : SensorData) (manager : MotionManager) : Decidable (manager.Stops data) :=
  inferInstanceAs (Decidable (_ ∧ _))

end MotionManager

/-- A sample of the accelerometer alone. -/
def accel (timestamp : UInt32) (x y z : Int16) (magnitudeMg : UInt16) : SensorData where
  timestamp := timestamp
  temperatureCX100 := 0
  humidityX100 := 0
  pressurePa := 0
  batteryMv := 0
  batteryPercent := 0
  accelXMg := x
  accelYMg := y
  accelZMg := z
  magnitudeMg := magnitudeMg
  motion := false
  freeFall := false
  shock := false
  orientation := 0
  valid := sensorValidAccel
  gasResistanceOhm := 0
  gyroXDpsX10 := 0
  gyroYDpsX10 := 0
  gyroZDpsX10 := 0

/-- A sample without the accelerometer reports nothing and changes nothing. -/
theorem motionManagerProcess_of_not_hasAccel {data : SensorData} (h : ¬ data.HasAccel)
    (manager : MotionManager) :
    motionManagerProcess data manager =
      (({ events := 0
          shockMg := 0
          orientation := manager.orientation.toUInt8
          motionState := manager.state.toUInt8
          movementDurationS := 0 }, data), manager) :=
  if_pos (not_not.1 h)

theorem motionManagerProcess_reports (data : SensorData) (manager : MotionManager) :
    let motion := (motionManagerProcess data manager).1.1
    (motion.reports motionEventStart ↔ data.HasAccel ∧ manager.Starts data) ∧
      (motion.reports motionEventStop ↔ data.HasAccel ∧ manager.Stops data) ∧
      (motion.reports motionEventShock ↔ data.HasAccel ∧ manager.Struck data) ∧
      (motion.reports motionEventFreeFall ↔ data.HasAccel ∧ manager.Falls data) ∧
      (motion.reports motionEventOrientation ↔ data.HasAccel ∧ manager.Turns data) ∧
      (motion.reports motionEventTamper ↔ data.HasAccel ∧ manager.Turns data ∧
        (manager.Settled data ∧ manager.Struck data) ∧ manager.tamper = false) := by
  intro motion
  have hmask := MotionEvents.toUInt32_reports (motionManagerProcess_events data manager)
  by_cases haccel : data.HasAccel
  · have hevents : motionEventsOf data manager =
        { start := decide (manager.Starts data)
          stop := decide (manager.Stops data)
          shock := decide (manager.Struck data)
          freeFall := decide (manager.Falls data)
          orientation := decide (manager.Turns data)
          tamper := decide (manager.Turns data ∧ (manager.Settled data ∧ manager.Struck data) ∧
            manager.tamper = false) } := if_neg haccel
    rw [hevents] at hmask
    simpa only [decide_eq_true_eq, haccel, true_and] using hmask
  · have hevents : motionEventsOf data manager =
        { start := false, stop := false, shock := false, freeFall := false, orientation := false
          tamper := false } := if_pos (not_not.1 haccel)
    rw [hevents] at hmask
    simpa only [Bool.false_eq_true, haccel, false_and] using hmask

/-- The motion state and its times. -/
@[ext]
structure MotionTrack where
  state : MotionState
  lastActiveTime : UInt32
  motionStartedTime : UInt32
  stationarySince : UInt32
  totalMovementS : UInt32
deriving DecidableEq, Repr

def MotionManager.track (manager : MotionManager) : MotionTrack where
  state := manager.state
  lastActiveTime := manager.lastActiveTime
  motionStartedTime := manager.motionStartedTime
  stationarySince := manager.stationarySince
  totalMovementS := manager.totalMovementS

theorem trackOrientation_track (data : SensorData) (struck : Bool) (manager : MotionManager) :
    (trackOrientation data struck manager).2.track = manager.track := by
  unfold trackOrientation
  dsimp only
  split_ifs <;> rfl

/-- A motion starts, stops or goes on, or the track stays as it is. -/
def MotionManager.nextTrack (data : SensorData) (manager : MotionManager) : MotionTrack :=
  if manager.Starts data then
    { manager.track with
      state := .moving
      lastActiveTime := data.timestamp
      motionStartedTime := data.timestamp }
  else if manager.Stops data then
    { manager.track with
      state := .stationary
      stationarySince := data.timestamp
      totalMovementS := manager.totalMovementS +
        (manager.lastActiveTime - manager.motionStartedTime) }
  else if motionClassifierIsActive data manager.config.motionThresholdMg then
    { manager.track with lastActiveTime := data.timestamp }
  else manager.track

theorem trackMotion_track (data : SensorData) (manager : MotionManager) :
    (trackMotion data manager).2.track = manager.nextTrack data := by
  unfold trackMotion MotionManager.nextTrack MotionManager.Starts MotionManager.Stops
  dsimp only
  by_cases hactive : motionClassifierIsActive data manager.config.motionThresholdMg
  · by_cases hstate : manager.state = .stationary
    · simp only [hactive, hstate, and_self, if_true]
      rfl
    · simp only [hactive, hstate, and_false, not_true, false_and, if_true, if_false]
      rfl
  · simp only [hactive, false_and, not_false_eq_true, true_and, if_false]
    split_ifs <;> rfl

theorem trackMotion_duration (data : SensorData) (manager : MotionManager) :
    (trackMotion data manager).1.2.2 =
      if manager.Stops data then manager.lastActiveTime - manager.motionStartedTime else 0 := by
  unfold trackMotion MotionManager.Stops
  dsimp only
  by_cases hactive : motionClassifierIsActive data manager.config.motionThresholdMg
  · simp only [hactive, not_true, false_and, if_true, if_false]
    split_ifs <;> rfl
  · simp only [hactive, not_false_eq_true, true_and, if_false]
    split_ifs <;> rfl

theorem motionManagerProcess_track {data : SensorData} (h : data.HasAccel)
    (manager : MotionManager) :
    (motionManagerProcess data manager).2.track = manager.nextTrack data := by
  rw [motionManagerProcess, if_neg h]
  exact (trackOrientation_track _ _ _).trans (trackMotion_track data { manager with
    detector := (shockDetectorProcess data manager.config.shockThresholdMg
      manager.config.freeFallThresholdMg manager.detector).2 })

/-- Only a motion that stops is given a duration. -/
theorem motionManagerProcess_duration {data : SensorData} (h : data.HasAccel)
    (manager : MotionManager) :
    (motionManagerProcess data manager).1.1.movementDurationS =
      if manager.Stops data then manager.lastActiveTime - manager.motionStartedTime else 0 := by
  rw [motionManagerProcess, if_neg h]
  exact trackMotion_duration data { manager with
    detector := (shockDetectorProcess data manager.config.shockThresholdMg
      manager.config.freeFallThresholdMg manager.detector).2 }

/-! ## Runs -/

inductive MotionInput where
  | sample (data : SensorData)
  | updateConfig (config : TagConfig)
  | clearTamper
deriving DecidableEq

def MotionInput.timestamp : MotionInput → Option UInt32
  | .sample data => some data.timestamp
  | _ => none

def MotionManager.step (manager : MotionManager) : MotionInput → MotionManager
  | .sample data => (motionManagerProcess data manager).2
  | .updateConfig config => motionManagerUpdateConfig config manager
  | .clearTamper => motionManagerClearTamper manager

/-- A run from `motion_manager_init`. -/
structure MotionRun where
  config : TagConfig
  inputs : List MotionInput

namespace MotionRun

variable (r : MotionRun)

/-- The state input `n` finds. -/
def before (n : Nat) : MotionManager :=
  Run.final MotionManager.step (motionManagerInit r.config) (r.inputs.take n)

/-- Input `n` is this sample. -/
def Sampled (n : Nat) (data : SensorData) : Prop := r.inputs[n]? = some (.sample data)

/-- Input `n` is a sample that reports the event. -/
def Reports (event : UInt32) (n : Nat) : Prop :=
  ∃ data, r.Sampled n data ∧ (motionManagerProcess data (r.before n)).1.1.reports event

/-- Input `n` is a sample that looks like motion under the configuration in force. -/
def Active (n : Nat) : Prop :=
  ∃ data, r.Sampled n data ∧ data.HasAccel ∧
    motionClassifierIsActive data (r.before n).config.motionThresholdMg

/-- Timestamps do not go back. -/
def Chronological : Prop :=
  r.inputs.Pairwise fun input later =>
    ∀ t ∈ input.timestamp, ∀ t' ∈ later.timestamp, t ≤ t'

instance : Decidable r.Chronological := inferInstanceAs (Decidable (List.Pairwise _ _))

variable {r}

theorem before_succ {n : Nat} {input : MotionInput} (h : r.inputs[n]? = some input) :
    r.before (n + 1) = (r.before n).step input :=
  Run.final_take_succ _ h _

/-- An invariant of the state and of the inputs that led to it. -/
theorem induction {I : Nat → MotionManager → Prop} (hinit : I 0 (motionManagerInit r.config))
    (hstep : ∀ n input, r.inputs[n]? = some input → I n (r.before n) →
      I (n + 1) ((r.before n).step input)) {n : Nat} (hn : n ≤ r.inputs.length) :
    I n (r.before n) :=
  Run.final_take_induction _ hinit hstep hn

theorem Sampled.unique {n : Nat} {data data' : SensorData} (h : r.Sampled n data)
    (h' : r.Sampled n data') : data = data' := by
  have heq : MotionInput.sample data = .sample data' := Option.some.inj (h.symm.trans h')
  exact MotionInput.sample.inj heq

/-- What some sample at `n` does is what the sample there does. -/
theorem Sampled.exists_iff {n : Nat} {data : SensorData} (h : r.Sampled n data)
    {P : SensorData → Prop} : (∃ data', r.Sampled n data' ∧ P data') ↔ P data := by
  constructor
  · intro hexists
    obtain ⟨data', hdata', hP⟩ := hexists
    rwa [h.unique hdata']
  · intro hP
    exact ⟨data, h, hP⟩

theorem not_sampled {n : Nat} {input : MotionInput} (hinput : r.inputs[n]? = some input)
    (h : ∀ data, input ≠ .sample data) (data : SensorData) : ¬ r.Sampled n data := by
  intro hdata
  exact h data (Option.some.inj (hinput.symm.trans hdata))

theorem not_active {n : Nat} (h : ∀ data, r.Sampled n data → ¬ data.HasAccel) : ¬ r.Active n := by
  intro hactive
  obtain ⟨data, hdata, haccel, -⟩ := hactive
  exact h data hdata haccel

/-- Only a sample with the accelerometer changes the motion state. -/
theorem step_track_cases {n : Nat} {input : MotionInput} (hinput : r.inputs[n]? = some input) :
    (∃ data, r.Sampled n data ∧ data.HasAccel ∧
        ((r.before n).step input).track = (r.before n).nextTrack data) ∨
      ((∀ data, r.Sampled n data → ¬ data.HasAccel) ∧
        ((r.before n).step input).track = (r.before n).track) := by
  cases input with
  | sample data =>
      have hdata : r.Sampled n data := hinput
      by_cases haccel : data.HasAccel
      · exact Or.inl ⟨data, hdata, haccel, motionManagerProcess_track haccel _⟩
      · refine Or.inr ⟨fun data' hdata' => by rwa [← hdata.unique hdata'], ?_⟩
        rw [MotionManager.step, motionManagerProcess_of_not_hasAccel haccel]
  | updateConfig config =>
      exact Or.inr ⟨fun data hdata => absurd hdata (not_sampled hinput (by simp) data), rfl⟩
  | clearTamper =>
      exact Or.inr ⟨fun data hdata => absurd hdata (not_sampled hinput (by simp) data), rfl⟩

theorem Sampled.reports_iff {n : Nat} {data : SensorData} (h : r.Sampled n data) (event : UInt32) :
    r.Reports event n ↔ (motionManagerProcess data (r.before n)).1.1.reports event :=
  h.exists_iff

theorem Sampled.active_iff {n : Nat} {data : SensorData} (h : r.Sampled n data) :
    r.Active n ↔ data.HasAccel ∧
      motionClassifierIsActive data (r.before n).config.motionThresholdMg :=
  h.exists_iff

theorem Sampled.before_succ {n : Nat} {data : SensorData} (h : r.Sampled n data) :
    r.before (n + 1) = (motionManagerProcess data (r.before n)).2 :=
  MotionRun.before_succ h

theorem Sampled.lt {n : Nat} {data : SensorData} (h : r.Sampled n data) : n < r.inputs.length :=
  (List.getElem?_eq_some_iff.1 h).1

theorem Chronological.le (hr : r.Chronological) {m n : Nat} {data data' : SensorData}
    (hmn : m ≤ n) (h : r.Sampled m data) (h' : r.Sampled n data') :
    data.timestamp ≤ data'.timestamp := by
  rcases Nat.eq_or_lt_of_le hmn with rfl | hlt
  · rw [h.unique h']
    exact UInt32.le_refl _
  · have hpair := List.pairwise_iff_getElem.1 hr m n h.lt h'.lt hlt
    obtain ⟨hm, hget⟩ := List.getElem?_eq_some_iff.1 h
    obtain ⟨hn, hget'⟩ := List.getElem?_eq_some_iff.1 h'
    rw [hget, hget'] at hpair
    exact hpair _ rfl _ rfl

theorem Reports.lt {event : UInt32} {n : Nat} (h : r.Reports event n) : n < r.inputs.length := by
  obtain ⟨data, hdata, -⟩ := h
  exact hdata.lt

end MotionRun

end SmartTag
