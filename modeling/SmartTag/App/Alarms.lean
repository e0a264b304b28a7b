import SmartTag.App.Types

/-!
# Alarm policy

The threshold checks on a sample, following `src/app/app_alarms.c`. An alarm latches: the event is
emitted when its flag goes up, and the flag stays until the reading is back in range.

* `length_events_appAlarmsEval`: a sample emits at most five events, so none is dropped.
-/

namespace SmartTag

/-- `APP_ALARM_MAX_EVENTS`. -/
def appAlarmMaxEvents : Nat := 8

def smartTagBatteryHysteresisMv : UInt16 := 100

/-- `struct app_alarm_event`. -/
structure AppAlarmEvent where
  type : EventType
  severity : EventSeverity
  value : Int16
deriving DecidableEq, Repr

/-- `emit`. -/
def emit (events : List AppAlarmEvent) (event : AppAlarmEvent) : List AppAlarmEvent :=
  if appAlarmMaxEvents ≤ events.length then events else events ++ [event]

/-- The flags and the events so far. -/
structure AlarmEval where
  flags : UInt16
  events : List AppAlarmEvent
deriving DecidableEq, Repr

namespace AlarmEval

/-- Raise a flag, with its event if it was down. -/
def trip (s : AlarmEval) (flag : UInt16) (event : AppAlarmEvent) : AlarmEval :=
  if s.flags &&& flag = 0 then { flags := s.flags ||| flag, events := emit s.events event } else s

def clear (s : AlarmEval) (flags : UInt16) : AlarmEval := { s with flags := s.flags &&& ~~~flags }

end AlarmEval

/-! ## The checks -/

def evalTempRh (data : SensorData) (config : TagConfig) (s : AlarmEval) : AlarmEval :=
  if data.valid &&& sensorValidTempRh = 0 then s
  else
    let s :=
      if config.tempHighCX100 < data.temperatureCX100 then
        s.trip alarmTempHigh ⟨.tempHigh, .alarm, data.temperatureCX100⟩
      else if data.temperatureCX100 < config.tempLowCX100 then
        s.trip alarmTempLow ⟨.tempLow, .alarm, data.temperatureCX100⟩
      else s.clear (alarmTempHigh ||| alarmTempLow)
    if config.humidityHighX100 < data.humidityX100 then
      s.trip alarmHumidityHigh ⟨.humidityHigh, .warning, data.humidityX100.toInt16⟩
    else s.clear alarmHumidityHigh

/-- The gas threshold is a floor, and 0 disables the check. -/
def evalGas (data : SensorData) (config : TagConfig) (s : AlarmEval) : AlarmEval :=
  if data.valid &&& sensorValidGas = 0 ∨ config.gasLowThresholdOhm = 0 then s
  else if data.gasResistanceOhm < config.gasLowThresholdOhm then
    s.trip alarmGasLow
      ⟨.gasLow, .warning, (min (data.gasResistanceOhm / 1000) 32767).toUInt16.toInt16⟩
  else s.clear alarmGasLow

def evalBattery (data : SensorData) (config : TagConfig) (s : AlarmEval) : AlarmEval :=
  if data.valid &&& sensorValidBattery = 0 then s
  else if data.batteryMv < config.batteryLowMv then
    s.trip alarmBatteryLow ⟨.batteryLow, .warning, data.batteryMv.toInt16⟩
  else if config.batteryLowMv + smartTagBatteryHysteresisMv ≤ data.batteryMv then
    s.clear alarmBatteryLow
  else s

def evalSensorFault (data : SensorData) (expectedValid : UInt8) (s : AlarmEval) : AlarmEval :=
  if data.valid &&& expectedValid ≠ expectedValid then
    s.trip alarmSensorFault ⟨.sensorFault, .warning, data.valid.toUInt16.toInt16⟩
  else s.clear alarmSensorFault

/-- `app_alarms_eval`: the new flags, and the events of the alarms just raised. -/
def appAlarmsEval (data : SensorData) (config : TagConfig) (expectedValid : UInt8)
    (flags : UInt16) : AlarmEval :=
  let s : AlarmEval := { flags := flags, events := [] }
  let s := evalTempRh data config s
  let s := evalGas data config s
  let s := evalBattery data config s
  evalSensorFault data expectedValid s

/-! ## The number of events -/

namespace AlarmEval

theorem length_trip_le (s : AlarmEval) (flag : UInt16) (event : AppAlarmEvent) :
    (s.trip flag event).events.length ≤ s.events.length + 1 := by
  unfold trip emit
  split_ifs <;> simp

@[simp] theorem clear_events (s : AlarmEval) (flags : UInt16) :
    (s.clear flags).events = s.events := rfl

end AlarmEval

theorem length_events_evalTempRh (data : SensorData) (config : TagConfig) (s : AlarmEval) :
    (evalTempRh data config s).events.length ≤ s.events.length + 2 := by
  have htemp := s.length_trip_le
  unfold evalTempRh
  split_ifs
  · omega
  · exact (AlarmEval.length_trip_le _ _ _).trans (Nat.succ_le_succ (htemp _ _))
  · exact (htemp _ _).trans (by omega)
  · exact (AlarmEval.length_trip_le _ _ _).trans (Nat.succ_le_succ (htemp _ _))
  · exact (htemp _ _).trans (by omega)
  · exact (AlarmEval.length_trip_le _ _ _).trans (by simp)
  · simp

theorem length_events_evalGas (data : SensorData) (config : TagConfig) (s : AlarmEval) :
    (evalGas data config s).events.length ≤ s.events.length + 1 := by
  unfold evalGas
  split_ifs
  · omega
  · exact s.length_trip_le _ _
  · simp

theorem length_events_evalBattery (data : SensorData) (config : TagConfig) (s : AlarmEval) :
    (evalBattery data config s).events.length ≤ s.events.length + 1 := by
  unfold evalBattery
  split_ifs
  · omega
  · exact s.length_trip_le _ _
  · simp
  · omega

theorem length_events_evalSensorFault (data : SensorData) (expectedValid : UInt8) (s : AlarmEval) :
    (evalSensorFault data expectedValid s).events.length ≤ s.events.length + 1 := by
  unfold evalSensorFault
  split_ifs
  · exact s.length_trip_le _ _
  · simp

theorem length_events_appAlarmsEval (data : SensorData) (config : TagConfig)
    (expectedValid : UInt8) (flags : UInt16) :
    (appAlarmsEval data config expectedValid flags).events.length ≤ 5 := by
  unfold appAlarmsEval
  have htemp := length_events_evalTempRh data config { flags := flags, events := [] }
  have hgas := length_events_evalGas data config
  have hbattery := length_events_evalBattery data config
  have hfault := length_events_evalSensorFault data expectedValid
  calc _ ≤ _ := hfault _
    _ ≤ _ := Nat.succ_le_succ (hbattery _)
    _ ≤ _ := Nat.succ_le_succ (Nat.succ_le_succ (hgas _))
    _ ≤ 5 := Nat.succ_le_succ (Nat.succ_le_succ (Nat.succ_le_succ htemp))

end SmartTag
