import SmartTag.App.EventQueue
import SmartTag.App.SavedSettings
import SmartTag.Motion.MotionRun

/-!
# The views of a sample

A sample reaches clients by four routes: the subscribers are handed it, `app_state_get_last_sample`
returns it, the status shows its orientation and its motion state, and the log keeps a record of it.
The motion manager fills it in on one of its two paths only, and the orientation is corrected after
the sample has been stored.

* `appProcessSensorData_views`: what a call leaves for each route.
* `viewsAgree_iff`: when the four agree after a call.
* `sample_views_agree_iff`: the same over every run from a boot.
-/

namespace SmartTag

/-- `app_state_get_last_sample`. -/
def appStateGetLastSample (st : AppState) : SensorData := st.lastSample

/-- A sample as it is read: `valid` holds bits of `SENSOR_VALID_*` only. -/
structure SensorReading where
  data : SensorData
  noFlags : data.valid &&& (sensorFlagMoving ||| sensorFlagAlarm) = 0

/-! ## The record -/

/-- The two flags of a record say what they are meant to. -/
theorem smartTagFillLogRecord_flags (data : SensorData)
    (h : data.valid &&& (sensorFlagMoving ||| sensorFlagAlarm) = 0) (alarm : Bool) :
    ((smartTagFillLogRecord data alarm).flags &&& sensorFlagMoving ≠ 0 ↔ data.motion = true) ∧
      ((smartTagFillLogRecord data alarm).flags &&& sensorFlagAlarm ≠ 0 ↔ alarm = true) := by
  have hmoving : data.valid &&& sensorFlagMoving = 0 := by
    have hmask : data.valid &&& (sensorFlagMoving ||| sensorFlagAlarm) &&& sensorFlagMoving =
        data.valid &&& sensorFlagMoving := UInt8.and_assoc _ _ _
    rw [← hmask, h, UInt8.zero_and]
  have halarm : data.valid &&& sensorFlagAlarm = 0 := by
    have hmask : data.valid &&& (sensorFlagMoving ||| sensorFlagAlarm) &&& sensorFlagAlarm =
        data.valid &&& sensorFlagAlarm := UInt8.and_assoc _ _ _
    rw [← hmask, h, UInt8.zero_and]
  cases hmotion : data.motion <;> cases alarm <;>
    simp [smartTagFillLogRecord, hmotion, Flags.uint8_or_and, hmoving, halarm] <;> decide

/-! ## What a call leaves -/

/-- What the routes show of a status, but for its alarm flags. -/
def AppState.Shows (data : SensorData) (motion : MotionResult) (st : AppState) : Prop :=
  st.lastSample = data ∧ st.status.orientation = motion.orientation ∧
    st.status.motionState = motion.motionState

theorem queueEvent_lastSample (type : EventType) (severity : EventSeverity) (value : Int16)
    (st : AppState) : (queueEvent type severity value st).lastSample = st.lastSample := by
  unfold queueEvent
  split_ifs <;> rfl

theorem applyMotionResult_lastSample (motion : MotionResult) (st : AppState) :
    (applyMotionResult motion st).lastSample = st.lastSample := by
  refine preserves_applyMotionResult (I := fun st' => st'.lastSample = st.lastSample)
    ?_ ?_ ?_ ?_ ?_ ?_ ?_ st rfl
  · exact fun st' h => (queueEvent_lastSample _ _ _ _).trans h
  · exact fun st' h => (queueEvent_lastSample _ _ _ _).trans h
  · intro st' h
    rw [AppState.shockSeen, queueEvent_lastSample]
    split_ifs <;> exact h
  · exact fun st' h => (queueEvent_lastSample _ _ _ _).trans h
  · exact fun type severity value st' h => (queueEvent_lastSample _ _ _ _).trans h
  · exact fun st' h => (queueEvent_lastSample _ _ _ _).trans h
  · exact fun st' h => h

theorem shows_applySample (data : SensorData) (motion : MotionResult) (config : TagConfig)
    (expectedValid : UInt8) (st : AppState) :
    (applySample data motion config expectedValid st).Shows data motion := by
  have hmotion : (applyMotionResult motion { st with lastSample := data }).Shows data motion :=
    ⟨applyMotionResult_lastSample _ _, rfl, rfl⟩
  refine preserves_checkThresholds (I := AppState.Shows data motion) ?_ ?_ ?_ ?_ _ hmotion
  · exact fun flags st' h => h
  · exact fun st' h => h
  · intro st' h
    unfold noteBattery
    split_ifs <;> exact h
  · intro type severity value st' h
    rw [AppState.Shows, queueEvent_lastSample, queueEvent_status]
    exact h

section

variable [Crc16]

/-- What the routes show after the events and the flush is what they showed before. -/
def Tag.SameViews (tag after : Tag) : Prop :=
  after.app.lastSample = tag.app.lastSample ∧
    after.app.status.orientation = tag.app.status.orientation ∧
    after.app.status.motionState = tag.app.status.motionState ∧
    after.app.status.alarmFlags = tag.app.status.alarmFlags ∧ after.sensorLog = tag.sensorLog

theorem raiseBatch_sameViews (uptimeMs : Nat) (batch : List PendingEvent) (tag : Tag) :
    tag.SameViews (raiseBatch uptimeMs batch tag).2 := by
  induction batch generalizing tag with
  | nil => exact ⟨rfl, rfl, rfl, rfl, rfl⟩
  | cons e batch ih =>
      -- an event raised changes the event count alone
      rw [raiseBatch]
      exact ih _

theorem drained_sameViews (uptimeMs : Nat) (timestamp : UInt32) (tag : Tag) :
    tag.SameViews (flushIfDue timestamp (drainPendingEvents uptimeMs tag).2) := by
  have hdrained : tag.SameViews (drainPendingEvents uptimeMs tag).2 :=
    raiseBatch_sameViews uptimeMs tag.app.pending { tag with app := { tag.app with pending := [] } }
  unfold flushIfDue
  split_ifs <;> exact hdrained

/-- The views after a sample: what is stored is the sample as it was given, what is handed over
and logged has the orientation of the motion result. -/
theorem appProcessSensorData_views (uptimeMs : Nat) (data : SensorData) (motion : MotionResult)
    (config : TagConfig) (expectedValid : UInt8) (tag : Tag) :
    let call := appProcessSensorData uptimeMs data motion config expectedValid tag
    let handed := { data with
      orientation := motion.orientation }
    call.1.2 = handed ∧ call.2.app.Shows data motion ∧
      (config.sensorHistoryEnabled ≠ 0 → call.2.sensorLog =
        (sensorLogAdd handed (decide (call.2.app.status.alarmFlags ≠ 0)) tag.sensorLog).2) := by
  intro call handed
  let app := applySample data motion config expectedValid tag.app
  obtain ⟨hlast, horientation, hstate⟩ : app.Shows data motion :=
    shows_applySample data motion config expectedValid tag.app
  have hhanded : { data with orientation := app.status.orientation } = handed := by
    rw [horientation]
  let alarm : Bool := decide (app.status.alarmFlags ≠ 0)
  let logged : Tag :=
    if config.sensorHistoryEnabled ≠ 0 then
      { tag with
        app := app
        sensorLog :=
          (sensorLogAdd { data with orientation := app.status.orientation } alarm tag.sensorLog).2 }
    else { tag with app := app }
  have happ : logged.app = app := by
    show (ite _ _ _ : Tag).app = app
    split_ifs <;> rfl
  obtain ⟨hlast', horientation', hstate', hflags', hlog'⟩ : logged.SameViews call.2 :=
    drained_sameViews uptimeMs data.timestamp logged
  rw [happ] at hlast' horientation' hstate' hflags'
  refine ⟨hhanded, ⟨hlast'.trans hlast, horientation'.trans horientation, hstate'.trans hstate⟩, ?_⟩
  intro hhistory
  rw [hlog', hflags', ← hhanded]
  exact congrArg Tag.sensorLog (if_pos hhistory)

end

/-! ## Agreement -/

theorem motionState_toUInt8_eq_moving (state : MotionState) :
    state.toUInt8 = motionStateMoving ↔ state = .moving := by
  cases state <;> decide

/-- The motion manager fills in a sample of the accelerometer. -/
theorem motionManagerProcess_fills {data : SensorData} (h : data.HasAccel)
    (manager : MotionManager) :
    let filled := (motionManagerProcess data manager).1.2
    let motion := (motionManagerProcess data manager).1.1
    filled.orientation = motion.orientation ∧
      (filled.motion = true ↔ motion.motionState = motionStateMoving) := by
  intro filled motion
  show (motionManagerProcess data manager).1.2.orientation =
      (motionManagerProcess data manager).1.1.orientation ∧
    ((motionManagerProcess data manager).1.2.motion = true ↔
      (motionManagerProcess data manager).1.1.motionState = motionStateMoving)
  rw [motionManagerProcess, if_neg h]
  exact ⟨rfl, decide_eq_true_iff.trans (motionState_toUInt8_eq_moving _).symm⟩

theorem motionManagerProcess_valid (data : SensorData) (manager : MotionManager) :
    (motionManagerProcess data manager).1.2.valid = data.valid := by
  unfold motionManagerProcess
  split_ifs <;> rfl

/-- The record `sensor_log_add` has appended to the log. -/
structure RecordAgrees [Crc16] (before after : FlashLog) (status : TagStatus)
    (record : SensorLogRecord) : Prop where
  appended : after = (flashLogAppend before record.toBytes).2
  moving : record.flags &&& sensorFlagMoving ≠ 0 ↔ status.motionState = motionStateMoving
  alarm : record.flags &&& sensorFlagAlarm ≠ 0 ↔ status.alarmFlags ≠ 0

/-- The four routes show the same after a call that has handed over a sample. -/
structure ViewsAgree [Crc16] (before : Device) (handed : SensorData) (after : Device) : Prop where
  stored : handed = appStateGetLastSample after.tag.app
  orientation : handed.orientation = after.tag.app.status.orientation
  motion : handed.motion = true ↔ after.tag.app.status.motionState = motionStateMoving
  logged : before.config.sensorHistoryEnabled ≠ 0 → ∃ record,
    RecordAgrees before.tag.sensorLog after.tag.sensorLog after.tag.app.status record

/-- The motion manager fills the sample in, or has nothing to change in it. -/
def FilledIn (data : SensorData) (manager : MotionManager) : Prop :=
  data.HasAccel ∨
    (data.orientation = manager.orientation.toUInt8 ∧
      (data.motion = true ↔ manager.state = .moving))

instance (data : SensorData) (manager : MotionManager) : Decidable (FilledIn data manager) :=
  inferInstanceAs (Decidable (_ ∨ _))

section

variable [Crc16]

/-- The four routes agree after a call exactly if the motion manager hands on a sample that its
result agrees with. -/
theorem viewsAgree_iff_result (uptimeMs : Nat) (reading : SensorReading) (expectedValid : UInt8)
    (device : Device) :
    let call := device.processSample uptimeMs reading.data expectedValid
    let motion := (motionManagerProcess reading.data device.motion).1.1
    let filled := (motionManagerProcess reading.data device.motion).1.2
    ViewsAgree device call.1.2 call.2 ↔ filled.orientation = motion.orientation ∧
      (filled.motion = true ↔ motion.motionState = motionStateMoving) := by
  intro call motion filled
  obtain ⟨hhanded, hshows, hlogged⟩ := appProcessSensorData_views uptimeMs filled motion
    device.config expectedValid device.tag
  obtain ⟨hlast, horientation, hstate⟩ := hshows
  have hmoving : call.2.tag.app.status.motionState = motionStateMoving ↔
      motion.motionState = motionStateMoving := by
    rw [show call.2.tag.app.status.motionState = _ from hstate]
  constructor
  · intro h
    have hstored := hhanded.symm.trans (h.stored.trans hlast)
    have hmotion : filled.motion = call.1.2.motion := (congrArg SensorData.motion hhanded).symm
    refine ⟨(congrArg SensorData.orientation hstored).symm, ?_⟩
    rw [hmotion, h.motion, hmoving]
  · intro h
    obtain ⟨hsame, hmotion⟩ := h
    have hdata : { filled with orientation := motion.orientation } = filled := by
      rw [← hsame]
    have hcall : call.1.2 = filled := hhanded.trans hdata
    refine ⟨hcall.trans hlast.symm, ?_, ?_, ?_⟩
    · rw [hcall, hsame]
      exact horientation.symm
    · rw [hcall, hmotion, hmoving]
    · intro hhistory
      have hvalid : filled.valid &&& (sensorFlagMoving ||| sensorFlagAlarm) = 0 := by
        rw [motionManagerProcess_valid]
        exact reading.noFlags
      obtain ⟨hflag, halarm⟩ := smartTagFillLogRecord_flags filled hvalid
        (decide (call.2.tag.app.status.alarmFlags ≠ 0))
      have hlog := hlogged hhistory
      rw [hdata, sensorLogAdd] at hlog
      exact ⟨_, hlog, hflag.trans (hmotion.trans hmoving.symm), halarm.trans decide_eq_true_iff⟩

/-- After a sample has been processed, the four routes agree exactly if it was filled in. -/
theorem viewsAgree_iff (uptimeMs : Nat) (reading : SensorReading) (expectedValid : UInt8)
    (device : Device) :
    let call := device.processSample uptimeMs reading.data expectedValid
    ViewsAgree device call.1.2 call.2 ↔ FilledIn reading.data device.motion := by
  intro call
  refine (viewsAgree_iff_result uptimeMs reading expectedValid device).trans ?_
  rw [FilledIn]
  by_cases haccel : reading.data.HasAccel
  · exact iff_of_true (motionManagerProcess_fills haccel device.motion) (.inl haccel)
  · simp only [motionManagerProcess_of_not_hasAccel haccel, haccel, false_or,
      motionState_toUInt8_eq_moving]

end

/-! ## Runs -/

/-- A sample, and what changes the state between two of them. -/
inductive ViewEvent where
  | sample (uptimeMs : Nat) (reading : SensorReading) (expectedValid : UInt8)
  | configure (config : AcceptedConfig)
  | setTime (uptimeMs : Nat) (utcNow : UInt32)
  | resetCounters

namespace ViewEvent

variable [Crc16]

def perform (device : Device) : ViewEvent → Device
  | .sample uptimeMs reading expectedValid =>
    (device.processSample uptimeMs reading.data expectedValid).2
  | .configure config => (appConfigSet config.config device).2
  | .setTime uptimeMs utcNow =>
    { device with
      tag := (appStateSetTimeUtc uptimeMs utcNow device.tag).2 }
  | .resetCounters => device.resetCounters

/-- The views agree after the sample. -/
def Agrees (device : Device) : ViewEvent → Prop
  | .sample uptimeMs reading expectedValid =>
    let call := device.processSample uptimeMs reading.data expectedValid
    ViewsAgree device call.1.2 call.2
  | _ => True

omit [Crc16] in
/-- The sample is one the motion manager fills in, or has nothing to change in. -/
def Fills (device : Device) : ViewEvent → Prop
  | .sample _ reading _ => FilledIn reading.data device.motion
  | _ => True

theorem agrees_iff (device : Device) (e : ViewEvent) : e.Agrees device ↔ e.Fills device := by
  cases e with
  | sample uptimeMs reading expectedValid =>
      exact viewsAgree_iff uptimeMs reading expectedValid device
  | configure config => exact Iff.rfl
  | setTime uptimeMs utcNow => exact Iff.rfl
  | resetCounters => exact Iff.rfl

end ViewEvent

/-- Over every run from a boot: after every sample the views agree, exactly if every sample is
one the motion manager fills in or has nothing to change in. -/
theorem sample_views_agree_iff [Crc16] (readOk : SettingsKey → Bool) (tag : Tag)
    (events : List ViewEvent) :
    Run.Along ViewEvent.perform (fun device e => e.Agrees device) (Device.boot readOk tag) events ↔
      Run.Along ViewEvent.perform (fun device e => e.Fills device) (Device.boot readOk tag)
        events :=
  Run.along_congr (I := fun _ => True) (fun _ _ _ => trivial)
    (fun device e _ => ViewEvent.agrees_iff device e) trivial

def shakenReading : SensorReading where
  data := accel 1 0 0 1500 1500
  noFlags := by decide

/-- The accelerometer could not be read. -/
def blindReading : SensorReading where
  data := { AppState.atReset.lastSample with
    timestamp := 61 }
  noFlags := by decide

/-- While the tag moves, a sample without the accelerometer is stored and logged as a sample of a
tag at rest, and handed over with another orientation than the one stored. -/
theorem sample_views_differ :
    let moving := (newDevice.processSample 1000 shakenReading.data 0).2
    let call := moving.processSample 61000 blindReading.data 0
    moving.config.sensorHistoryEnabled ≠ 0 ∧
      call.1.2.orientation ≠ (appStateGetLastSample call.2.tag.app).orientation ∧
      call.1.2.motion = false ∧ call.2.tag.app.status.motionState = motionStateMoving ∧
      ¬ Run.Along ViewEvent.perform (fun device e => e.Agrees device) newDevice
        [.sample 1000 shakenReading 0, .sample 61000 blindReading 0] := by
  intro moving call
  have horientation : call.1.2.orientation ≠
      (appStateGetLastSample call.2.tag.app).orientation := by decide +kernel
  refine ⟨by decide +kernel, horientation, by decide +kernel, by decide +kernel, ?_⟩
  intro h
  have hagrees : ViewEvent.Agrees moving (.sample 61000 blindReading 0) := h.2.1
  have hviews : ViewsAgree moving call.1.2 call.2 := hagrees
  exact horientation (congrArg SensorData.orientation hviews.stored)

end SmartTag
