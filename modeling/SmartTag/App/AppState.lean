import SmartTag.App.Alarms
import SmartTag.Lib.Run
import SmartTag.Storage.ConfigStorage
import SmartTag.Storage.FlashManager

/-!
# Application state

The live status and the lifetime statistics, following `src/app/app_state.c`. Each section the
source runs under its lock is a function of the statics alone (`AppState`); the rest of a call
works on the whole tag: these statics, the stored settings and the two logs.

The motion manager and the sensors come before: a sample arrives with what
`motion_manager_process` made of it and with the configuration in force. Calls take the uptime
they read; the LED and the callbacks of the subscribers are outside, and what the latter are
handed is returned.

* `preserves_applyMotionResult`, `preserves_checkThresholds`: the invariant rules for a sample.
-/

namespace SmartTag

/-- `STATS_FLUSH_INTERVAL_S`. -/
def statsFlushIntervalS : UInt32 := 3600

/-- `MAX_PENDING_EVENTS`. -/
def maxPendingEvents : Nat := 8

/-- `struct pending_event`. -/
structure PendingEvent where
  type : EventType
  severity : EventSeverity
  value : Int16
deriving DecidableEq, Repr

/-- The statics of the module. -/
structure AppState where
  status : TagStatus
  statistics : TagStatistics
  lastSample : SensorData
  lastStatsFlush : UInt32
  pending : List PendingEvent
deriving DecidableEq, Repr

/-- The application state and what it writes to. -/
structure Tag where
  app : AppState
  storage : ConfigStorage
  eventLog : FlashLog
  sensorLog : FlashLog

/-- `(uint32_t)(k_uptime_get() / 1000)`. -/
def uptimeS (uptimeMs : Nat) : UInt32 := UInt32.ofNat (uptimeMs / 1000)

/-! ## Boot -/

/-- The statics before `app_state_init`. -/
def AppState.atReset : AppState where
  status :=
    { motionState := 0, orientation := 0, operatingMode := 0, tamper := 0, alarmFlags := 0
      maxShockMg := 0, shockCount := 0, freeFallCount := 0, eventCount := 0
      movementDurationS := 0, lastMovementTime := 0 }
  statistics := .zero
  lastSample :=
    { timestamp := 0, temperatureCX100 := 0, humidityX100 := 0, pressurePa := 0, batteryMv := 0
      batteryPercent := 0, accelXMg := 0, accelYMg := 0, accelZMg := 0, magnitudeMg := 0
      motion := false, freeFall := false, shock := false, orientation := 0, valid := 0
      gasResistanceOhm := 0, gyroXDpsX10 := 0, gyroYDpsX10 := 0, gyroZDpsX10 := 0 }
  lastStatsFlush := 0
  pending := []

def appStateInit (storage : ConfigStorage) (st : AppState) : AppState :=
  let statistics := configStorageLoadStatistics storage
  let statistics := { statistics with bootCount := statistics.bootCount + 1 }
  { st with
    statistics := statistics
    status := { st.status with
      motionState := motionStateStationary
      orientation := orientationUnknown
      shockCount := statistics.shockCount
      freeFallCount := statistics.freeFallCount
      eventCount := statistics.eventCount
      maxShockMg := statistics.maxShockMg
      movementDurationS := statistics.movementDurationS } }

/-! ## Events -/

/-- `queue_event`. -/
def queueEvent (type : EventType) (severity : EventSeverity) (value : Int16) (st : AppState) :
    AppState :=
  if maxPendingEvents ≤ st.pending.length then st
  else { st with pending := st.pending ++ [⟨type, severity, value⟩] }

@[simp] theorem queueEvent_status (type : EventType) (severity : EventSeverity) (value : Int16)
    (st : AppState) : (queueEvent type severity value st).status = st.status := by
  unfold queueEvent
  split_ifs <;> rfl

@[simp] theorem queueEvent_statistics (type : EventType) (severity : EventSeverity) (value : Int16)
    (st : AppState) : (queueEvent type severity value st).statistics = st.statistics := by
  unfold queueEvent
  split_ifs <;> rfl

/-- The locked section of `app_raise_event`. -/
def countEvent (st : AppState) : AppState :=
  let eventCount := st.status.eventCount + 1
  { st with
    status := { st.status with eventCount := eventCount }
    statistics := { st.statistics with eventCount := eventCount } }

section

variable [Crc16]

/-- `event_log_add`. -/
def eventLogAdd (uptimeMs : Nat) (type : EventType) (severity : EventSeverity) (value : Int16)
    (log : FlashLog) : Except Int Nat × FlashLog :=
  let record : EventRecord :=
    { timestamp := uptimeS uptimeMs, type := type.toUInt8, severity := severity.toUInt8
      value := value }
  flashLogAppend log record.toBytes

/-- `sensor_log_add`. -/
def sensorLogAdd (data : SensorData) (alarm : Bool) (log : FlashLog) : Except Int Nat × FlashLog :=
  flashLogAppend log (smartTagFillLogRecord data alarm).toBytes

/-- `app_raise_event`: its return code and the record the subscribers are handed. -/
def appRaiseEvent (uptimeMs : Nat) (type : EventType) (severity : EventSeverity) (value : Int16)
    (tag : Tag) : (Int × EventRecord) × Tag :=
  let (logged, eventLog) := eventLogAdd uptimeMs type severity value tag.eventLog
  let err := match logged with
    | .error err => err
    | .ok _ => 0
  let record : EventRecord :=
    { timestamp := uptimeS uptimeMs, type := type.toUInt8, severity := severity.toUInt8
      value := value }
  ((err, record), { tag with eventLog := eventLog, app := countEvent tag.app })

/-- The loop of `drain_pending_events` over the batch taken. -/
def raiseBatch (uptimeMs : Nat) : List PendingEvent → Tag → List EventRecord × Tag
  | [], tag => ([], tag)
  | e :: batch, tag =>
    let ((_, record), tag) := appRaiseEvent uptimeMs e.type e.severity e.value tag
    let (records, tag) := raiseBatch uptimeMs batch tag
    (record :: records, tag)

def drainPendingEvents (uptimeMs : Nat) (tag : Tag) : List EventRecord × Tag :=
  raiseBatch uptimeMs tag.app.pending { tag with app := { tag.app with pending := [] } }

end

/-! ## Samples -/

/-- A sensor fault has come up. -/
def countFault (st : AppState) : AppState :=
  { st with statistics := { st.statistics with sensorFaults := st.statistics.sensorFaults + 1 } }

/-- Lower `min_battery_mv` to the reading. -/
def noteBattery (data : SensorData) (st : AppState) : AppState :=
  if data.valid &&& sensorValidBattery ≠ 0 ∧
      (st.statistics.minBatteryMv = 0 ∨ data.batteryMv < st.statistics.minBatteryMv) then
    { st with statistics := { st.statistics with minBatteryMv := data.batteryMv } }
  else st

/-- `check_thresholds`. -/
def checkThresholds (data : SensorData) (config : TagConfig) (expectedValid : UInt8)
    (st : AppState) : AppState :=
  let before := st.status.alarmFlags
  let eval := appAlarmsEval data config expectedValid before
  let st := { st with status := { st.status with alarmFlags := eval.flags } }
  let st :=
    if eval.flags &&& alarmSensorFault ≠ 0 ∧ before &&& alarmSensorFault = 0 then countFault st
    else st
  let st := noteBattery data st
  eval.events.foldl (fun st e => queueEvent e.type e.severity e.value st) st

namespace AppState

/-! The branches of `apply_motion_result`. -/

def motionStarted (st : AppState) : AppState :=
  queueEvent .motionStart .info 0
    { st with
      statistics := { st.statistics with motionCount := st.statistics.motionCount + 1 }
      status := { st.status with lastMovementTime := st.lastSample.timestamp } }

def motionStopped (motion : MotionResult) (st : AppState) : AppState :=
  let duration := st.status.movementDurationS + motion.movementDurationS
  queueEvent .motionStop .info (min motion.movementDurationS 32767).toUInt16.toInt16
    { st with
      status := { st.status with movementDurationS := duration }
      statistics := { st.statistics with movementDurationS := duration } }

def shockSeen (motion : MotionResult) (st : AppState) : AppState :=
  let shockCount := st.status.shockCount + 1
  let st := { st with
    status := { st.status with
      shockCount := shockCount, alarmFlags := st.status.alarmFlags ||| alarmShock }
    statistics := { st.statistics with shockCount := shockCount } }
  let st :=
    if st.status.maxShockMg < motion.shockMg then
      { st with
        status := { st.status with maxShockMg := motion.shockMg }
        statistics := { st.statistics with maxShockMg := motion.shockMg } }
    else st
  queueEvent .shock .alarm motion.shockMg.toInt16 st

def freeFallSeen (st : AppState) : AppState :=
  let freeFallCount := st.status.freeFallCount + 1
  queueEvent .freeFall .alarm 0
    { st with
      status := { st.status with
        freeFallCount := freeFallCount, alarmFlags := st.status.alarmFlags ||| alarmFreeFall }
      statistics := { st.statistics with freeFallCount := freeFallCount } }

def tamperSeen (st : AppState) : AppState :=
  queueEvent .tamper .alarm 0
    { st with
      status := { st.status with
        tamper := 1, alarmFlags := st.status.alarmFlags ||| alarmTamper } }

end AppState

/-- `apply_motion_result`. -/
def applyMotionResult (motion : MotionResult) (st : AppState) : AppState :=
  let st := if motion.reports motionEventStart then st.motionStarted else st
  let st := if motion.reports motionEventStop then st.motionStopped motion else st
  let st := if motion.reports motionEventShock then st.shockSeen motion else st
  let st := if motion.reports motionEventFreeFall then st.freeFallSeen else st
  let st :=
    if motion.reports motionEventOrientation then
      queueEvent .orientationChange .info motion.orientation.toUInt16.toInt16 st
    else st
  let st := if motion.reports motionEventTamper then st.tamperSeen else st
  { st with
    status := { st.status with
      motionState := motion.motionState, orientation := motion.orientation } }

/-- The locked section of `app_process_sensor_data`. -/
def applySample (data : SensorData) (motion : MotionResult) (config : TagConfig)
    (expectedValid : UInt8) (st : AppState) : AppState :=
  let st := { st with lastSample := data }
  let st := applyMotionResult motion st
  let st := checkThresholds data config expectedValid st
  { st with
    status := { st.status with operatingMode := config.operatingMode }
    statistics := { st.statistics with totalUptimeS := data.timestamp } }

/-- `app_state_flush_statistics`. -/
def appStateFlushStatistics (tag : Tag) : Tag :=
  { tag with storage := (configStorageSaveStatistics tag.app.statistics tag.storage).2 }

/-- The hourly flush of `app_process_sensor_data`. -/
def flushIfDue (timestamp : UInt32) (tag : Tag) : Tag :=
  if statsFlushIntervalS ≤ timestamp - tag.app.lastStatsFlush then
    appStateFlushStatistics { tag with app := { tag.app with lastStatsFlush := timestamp } }
  else tag

section

variable [Crc16]

/-- `app_process_sensor_data` on a sample the motion manager has been through: what the
subscribers are handed, the events and then the sample. -/
def appProcessSensorData (uptimeMs : Nat) (data : SensorData) (motion : MotionResult)
    (config : TagConfig) (expectedValid : UInt8) (tag : Tag) :
    (List EventRecord × SensorData) × Tag :=
  let tag := { tag with app := applySample data motion config expectedValid tag.app }
  let data := { data with orientation := tag.app.status.orientation }
  let alarm : Bool := decide (tag.app.status.alarmFlags ≠ 0)
  let tag :=
    if config.sensorHistoryEnabled ≠ 0 then
      { tag with sensorLog := (sensorLogAdd data alarm tag.sensorLog).2 }
    else tag
  let (records, tag) := drainPendingEvents uptimeMs tag
  ((records, data), flushIfDue data.timestamp tag)

/-- A sample is its locked section and its log entry, then the events, then the flush. -/
theorem appProcessSensorData_eq (uptimeMs : Nat) (data : SensorData) (motion : MotionResult)
    (config : TagConfig) (expectedValid : UInt8) (tag : Tag) :
    ∃ logged : Tag, logged.app = applySample data motion config expectedValid tag.app ∧
      logged.storage = tag.storage ∧
      (appProcessSensorData uptimeMs data motion config expectedValid tag).2 =
        flushIfDue data.timestamp (drainPendingEvents uptimeMs logged).2 := by
  refine ⟨_, ?_, ?_, rfl⟩ <;> split_ifs <;> rfl

/-! ## Commands -/

/-- `app_state_set_time_utc`. -/
def appStateSetTimeUtc (uptimeMs : Nat) (utcNow : UInt32) (tag : Tag) : Int × Tag :=
  let epoch := smartTagBootEpochUtc utcNow (uptimeS uptimeMs)
  if epoch = 0 then (-EINVAL, tag)
  else
    let tag := { tag with
      app := { tag.app with statistics := { tag.app.statistics with bootEpochUtc := epoch } } }
    let tag := appStateFlushStatistics tag
    (0, (appRaiseEvent uptimeMs .timeSet .info 0 tag).2)

/-- The locked section of `app_state_reset_counters`. -/
def clearCounters (st : AppState) : AppState :=
  { st with
    status := { st.status with
      shockCount := 0
      freeFallCount := 0
      eventCount := 0
      maxShockMg := 0
      movementDurationS := 0
      tamper := 0
      alarmFlags := st.status.alarmFlags &&& ~~~(alarmShock ||| alarmFreeFall ||| alarmTamper) }
    statistics := { st.statistics with
      shockCount := 0
      freeFallCount := 0
      eventCount := 0
      maxShockMg := 0
      movementDurationS := 0 } }

/-- `app_state_reset_counters`. -/
def appStateResetCounters (tag : Tag) : Tag :=
  appStateFlushStatistics { tag with app := clearCounters tag.app }

/-- What the next boot finds: the logs are scanned, the settings loaded, the statics rebuilt. -/
def Tag.powerOn (tag : Tag) : Tag :=
  let storage := tag.storage.powerOn
  { app := appStateInit storage .atReset
    storage := storage
    eventLog := SmartTag.powerOn tag.eventLog
    sensorLog := SmartTag.powerOn tag.sensorLog }

end

/-! ## Invariants of the statics

An invariant of `AppState` is kept by a sample if it is kept by each branch a sample can take. -/

section

open Run

variable {I : AppState → Prop}

theorem preserves_applyMotionResult {motion : MotionResult}
    (hstart : Preserves I AppState.motionStarted)
    (hstop : Preserves I (AppState.motionStopped motion))
    (hshock : Preserves I (AppState.shockSeen motion))
    (hfall : Preserves I AppState.freeFallSeen)
    (hqueue : ∀ type severity value, Preserves I (queueEvent type severity value))
    (htamper : Preserves I AppState.tamperSeen)
    (hstate : Preserves I fun st => { st with
      status := { st.status with
        motionState := motion.motionState, orientation := motion.orientation } }) :
    Preserves I (applyMotionResult motion) := by
  intro st hst
  apply hstate
  apply htamper.branch
  apply (hqueue _ _ _).branch
  apply hfall.branch
  apply hshock.branch
  apply hstop.branch
  apply hstart.branch
  exact hst

theorem preserves_checkThresholds {data : SensorData} {config : TagConfig} {expectedValid : UInt8}
    (hflags : ∀ flags, Preserves I fun st =>
      { st with status := { st.status with alarmFlags := flags } })
    (hfault : Preserves I countFault) (hbattery : Preserves I (noteBattery data))
    (hqueue : ∀ type severity value, Preserves I (queueEvent type severity value)) :
    Preserves I (checkThresholds data config expectedValid) := by
  intro st hst
  apply Preserves.foldl fun e => hqueue _ _ _
  apply hbattery
  apply hfault.branch
  apply hflags
  exact hst

end

end SmartTag
