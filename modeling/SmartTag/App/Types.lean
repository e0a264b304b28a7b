import SmartTag.Basic
import SmartTag.Lib.Packed

/-!
# Shared types

The wire structures and constants of `src/app/smart_tag.h`, and the conversion between uptime and
wall-clock time. The persistent structures come with their packed image. `MotionResult` is what
the motion manager reports of a sample.

* `TagStatistics.ofBytes_toBytes`, `TagConfig.ofBytes_toBytes`: an image reads back as the value.
* `TagStatistics.toBytes_ofBytes`, `TagConfig.toBytes_ofBytes`: every image is that of its value.
* `toNat_smartTagBootEpochUtc`, `toNat_smartTagUtcFromUptime`: the conversions on numbers.
-/

namespace SmartTag

-- Decided on the value that is there. Going through all of `UInt32` would not end.
instance decidableForallMem {p : UInt32 → Prop} [DecidablePred p] (value : Option UInt32) :
    Decidable (∀ x ∈ value, p x) := Option.decidableForallMem value

/-! ## Events -/

/-- `event_type_t`. -/
inductive EventType where
  | boot | motionStart | motionStop | shock | freeFall | orientationChange | tamper | tempHigh
  | tempLow | humidityHigh | batteryLow | configChanged | sensorFault | zigbeeJoined | zigbeeLeft
  | bleConnected | otaStarted | otaFinished | factoryReset | gasLow | timeSet
deriving DecidableEq, Repr

/-- `event_severity_t`. -/
inductive EventSeverity where
  | info | warning | alarm
deriving DecidableEq, Repr

/-- The value an event type has on the wire. -/
def EventType.toUInt8 (type : EventType) : UInt8 := UInt8.ofNat type.ctorIdx

def EventSeverity.toUInt8 (severity : EventSeverity) : UInt8 := UInt8.ofNat severity.ctorIdx

/-- `event_record_t`. -/
structure EventRecord where
  timestamp : UInt32
  type : UInt8
  severity : UInt8
  value : Int16
deriving DecidableEq, Repr

def EventRecord.toBytes (r : EventRecord) : List UInt8 :=
  Packed.pack
    [(4, r.timestamp.toNat), (1, r.type.toNat), (1, r.severity.toNat), (2, r.value.toUInt16.toNat)]

def EventRecord.ofBytes (bs : List UInt8) : EventRecord where
  timestamp := Packed.getU32 bs 0
  type := Packed.getU8 bs 4
  severity := Packed.getU8 bs 5
  value := (Packed.getU16 bs 6).toInt16

/-- `sizeof(event_record_t)` is 8. -/
theorem EventRecord.length_toBytes (r : EventRecord) : r.toBytes.length = 8 := by
  simp [toBytes, Packed.length_pack]

theorem EventRecord.ofBytes_toBytes (r : EventRecord) : ofBytes r.toBytes = r := by
  simp [ofBytes, toBytes]

/-! ## Samples -/

def alarmTempHigh : UInt16 := 0x01
def alarmTempLow : UInt16 := 0x02
def alarmHumidityHigh : UInt16 := 0x04
def alarmShock : UInt16 := 0x08
def alarmFreeFall : UInt16 := 0x10
def alarmTamper : UInt16 := 0x20
def alarmSensorFault : UInt16 := 0x40
def alarmBatteryLow : UInt16 := 0x80
def alarmGasLow : UInt16 := 0x100

def sensorValidTempRh : UInt8 := 0x01
def sensorValidPressure : UInt8 := 0x02
def sensorValidAccel : UInt8 := 0x04
def sensorValidBattery : UInt8 := 0x08
def sensorValidGas : UInt8 := 0x10
def sensorValidGyro : UInt8 := 0x20
def sensorFlagMoving : UInt8 := 0x40
def sensorFlagAlarm : UInt8 := 0x80

/-- `sensor_data_t`. -/
structure SensorData where
  /-- Seconds since boot. -/
  timestamp : UInt32
  temperatureCX100 : Int16
  humidityX100 : UInt16
  pressurePa : Int32
  batteryMv : UInt16
  batteryPercent : UInt8
  accelXMg : Int16
  accelYMg : Int16
  accelZMg : Int16
  magnitudeMg : UInt16
  motion : Bool
  freeFall : Bool
  shock : Bool
  orientation : UInt8
  valid : UInt8
  gasResistanceOhm : UInt32
  gyroXDpsX10 : Int16
  gyroYDpsX10 : Int16
  gyroZDpsX10 : Int16
deriving DecidableEq, Repr

/-- An axis of the accelerometer. -/
inductive Axis where
  | x | y | z
deriving DecidableEq, Repr

/-- What a sample has for the axis. -/
def Axis.reading (data : SensorData) : Axis → Int16
  | .x => data.accelXMg
  | .y => data.accelYMg
  | .z => data.accelZMg

/-- The absolute value of a reading, as `abs` gives it on the promoted value. -/
def Axis.absMg (data : SensorData) (axis : Axis) : Nat := (axis.reading data).toInt.natAbs

theorem Axis.forall_iff {p : Axis → Prop} : (∀ axis, p axis) ↔ p .x ∧ p .y ∧ p .z := by
  constructor
  · intro h
    exact ⟨h .x, h .y, h .z⟩
  · intro h axis
    cases axis with
    | x => exact h.1
    | y => exact h.2.1
    | z => exact h.2.2

/-- `sensor_log_record_t`. -/
structure SensorLogRecord where
  timestamp : UInt32
  temperature : Int16
  humidity : UInt16
  pressure : Int32
  gasResistanceOhm : UInt32
  flags : UInt8
deriving DecidableEq, Repr

def SensorLogRecord.toBytes (r : SensorLogRecord) : List UInt8 :=
  Packed.pack
    [(4, r.timestamp.toNat), (2, r.temperature.toUInt16.toNat), (2, r.humidity.toNat),
      (4, r.pressure.toUInt32.toNat), (4, r.gasResistanceOhm.toNat), (1, r.flags.toNat)]

def SensorLogRecord.ofBytes (bs : List UInt8) : SensorLogRecord where
  timestamp := Packed.getU32 bs 0
  temperature := (Packed.getU16 bs 4).toInt16
  humidity := Packed.getU16 bs 6
  pressure := (Packed.getU32 bs 8).toInt32
  gasResistanceOhm := Packed.getU32 bs 12
  flags := Packed.getU8 bs 16

/-- `sizeof(sensor_log_record_t)` is 17. -/
theorem SensorLogRecord.length_toBytes (r : SensorLogRecord) : r.toBytes.length = 17 := by
  simp [toBytes, Packed.length_pack]

theorem SensorLogRecord.ofBytes_toBytes (r : SensorLogRecord) : ofBytes r.toBytes = r := by
  simp [ofBytes, toBytes]

/-- `smart_tag_fill_log_record`. -/
def smartTagFillLogRecord (data : SensorData) (alarm : Bool) : SensorLogRecord where
  timestamp := data.timestamp
  temperature := data.temperatureCX100
  humidity := data.humidityX100
  pressure := data.pressurePa
  gasResistanceOhm := data.gasResistanceOhm
  flags :=
    let flags := data.valid
    let flags := if data.motion then flags ||| sensorFlagMoving else flags
    if alarm then flags ||| sensorFlagAlarm else flags

/-- `motion_state_t`. -/
def motionStateStationary : UInt8 := 0
def motionStateMoving : UInt8 := 1

/-- The `ORIENTATION_UNKNOWN` of `orientation_t`. -/
def orientationUnknown : UInt8 := 0

def motionEventStart : UInt32 := 0x01
def motionEventStop : UInt32 := 0x02
def motionEventShock : UInt32 := 0x04
def motionEventFreeFall : UInt32 := 0x08
def motionEventOrientation : UInt32 := 0x10
def motionEventTamper : UInt32 := 0x20

/-- `struct motion_result`. -/
structure MotionResult where
  events : UInt32
  shockMg : UInt16
  orientation : UInt8
  motionState : UInt8
  movementDurationS : UInt32
deriving DecidableEq, Repr

/-- `motion->events & event`. -/
def MotionResult.reports (motion : MotionResult) (event : UInt32) : Prop :=
  motion.events &&& event ≠ 0

instance (motion : MotionResult) (event : UInt32) : Decidable (motion.reports event) :=
  inferInstanceAs (Decidable (_ ≠ _))

/-! ## Status, statistics, configuration -/

/-- `tag_status_t`. -/
structure TagStatus where
  motionState : UInt8
  orientation : UInt8
  operatingMode : UInt8
  tamper : UInt8
  alarmFlags : UInt16
  maxShockMg : UInt16
  shockCount : UInt32
  freeFallCount : UInt32
  eventCount : UInt32
  movementDurationS : UInt32
  lastMovementTime : UInt32
deriving DecidableEq, Repr

/-- `tag_statistics_t`. -/
@[ext]
structure TagStatistics where
  bootCount : UInt32
  totalUptimeS : UInt32
  motionCount : UInt32
  shockCount : UInt32
  freeFallCount : UInt32
  eventCount : UInt32
  movementDurationS : UInt32
  maxShockMg : UInt16
  minBatteryMv : UInt16
  zigbeeReports : UInt16
  bleConnections : UInt16
  sensorFaults : UInt16
  /-- UTC of boot; 0 means unknown. -/
  bootEpochUtc : UInt32
deriving DecidableEq, Repr

namespace TagStatistics

def toBytes (s : TagStatistics) : List UInt8 :=
  Packed.pack
    [(4, s.bootCount.toNat), (4, s.totalUptimeS.toNat), (4, s.motionCount.toNat),
      (4, s.shockCount.toNat), (4, s.freeFallCount.toNat), (4, s.eventCount.toNat),
      (4, s.movementDurationS.toNat), (2, s.maxShockMg.toNat), (2, s.minBatteryMv.toNat),
      (2, s.zigbeeReports.toNat), (2, s.bleConnections.toNat), (2, s.sensorFaults.toNat),
      (4, s.bootEpochUtc.toNat)]

def ofBytes (bs : List UInt8) : TagStatistics where
  bootCount := Packed.getU32 bs 0
  totalUptimeS := Packed.getU32 bs 4
  motionCount := Packed.getU32 bs 8
  shockCount := Packed.getU32 bs 12
  freeFallCount := Packed.getU32 bs 16
  eventCount := Packed.getU32 bs 20
  movementDurationS := Packed.getU32 bs 24
  maxShockMg := Packed.getU16 bs 28
  minBatteryMv := Packed.getU16 bs 30
  zigbeeReports := Packed.getU16 bs 32
  bleConnections := Packed.getU16 bs 34
  sensorFaults := Packed.getU16 bs 36
  bootEpochUtc := Packed.getU32 bs 38

/-- What `memset` to zero leaves. -/
def zero : TagStatistics where
  bootCount := 0
  totalUptimeS := 0
  motionCount := 0
  shockCount := 0
  freeFallCount := 0
  eventCount := 0
  movementDurationS := 0
  maxShockMg := 0
  minBatteryMv := 0
  zigbeeReports := 0
  bleConnections := 0
  sensorFaults := 0
  bootEpochUtc := 0

/-- `sizeof(tag_statistics_t)` is 42. -/
theorem length_toBytes (s : TagStatistics) : s.toBytes.length = 42 := by
  simp [toBytes, Packed.length_pack]

theorem ofBytes_toBytes (s : TagStatistics) : ofBytes s.toBytes = s := by
  simp [ofBytes, toBytes]

theorem toBytes_ofBytes {bs : List UInt8} (h : bs.length = 42) : (ofBytes bs).toBytes = bs := by
  have hend : Packed.pack [] = bs.drop 42 := (List.drop_of_length_le h.le).symm
  simp only [toBytes, ofBytes]
  refine Eq.trans ?_ (List.drop_zero (l := bs))
  iterate 7 refine Packed.pack_getU32 (by omega) ?_
  iterate 5 refine Packed.pack_getU16 (by omega) ?_
  exact Packed.pack_getU32 (by omega) hend

end TagStatistics

/-- `tag_config_t`. -/
@[ext]
structure TagConfig where
  samplingIntervalS : UInt16
  motionTimeoutS : UInt16
  motionThresholdMg : UInt16
  shockThresholdMg : UInt16
  freeFallThresholdMg : UInt16
  tempHighCX100 : Int16
  tempLowCX100 : Int16
  humidityHighX100 : UInt16
  batteryLowMv : UInt16
  reportTempDeltaCX100 : UInt16
  reportHumidityDeltaX100 : UInt16
  reportPressureDeltaPa : UInt16
  reportMaxIntervalS : UInt16
  bleServiceWindowS : UInt16
  gasLowThresholdOhm : UInt32
  reportGasDeltaOhm : UInt32
  operatingMode : UInt8
  ledEnabled : UInt8
  sensorHistoryEnabled : UInt8
  reserved : UInt8
deriving DecidableEq, Repr

namespace TagConfig

/-- `TAG_CONFIG_DEFAULTS`. -/
def defaults : TagConfig where
  samplingIntervalS := 60
  motionTimeoutS := 30
  motionThresholdMg := 150
  shockThresholdMg := 4000
  freeFallThresholdMg := 300
  tempHighCX100 := 4000
  tempLowCX100 := -1000
  humidityHighX100 := 8000
  batteryLowMv := 2400
  reportTempDeltaCX100 := 50
  reportHumidityDeltaX100 := 300
  reportPressureDeltaPa := 100
  reportMaxIntervalS := 1800
  bleServiceWindowS := 120
  gasLowThresholdOhm := 0
  reportGasDeltaOhm := 5000
  operatingMode := 0
  ledEnabled := 1
  sensorHistoryEnabled := 1
  reserved := 0

def toBytes (c : TagConfig) : List UInt8 :=
  Packed.pack
    [(2, c.samplingIntervalS.toNat), (2, c.motionTimeoutS.toNat), (2, c.motionThresholdMg.toNat),
      (2, c.shockThresholdMg.toNat), (2, c.freeFallThresholdMg.toNat),
      (2, c.tempHighCX100.toUInt16.toNat), (2, c.tempLowCX100.toUInt16.toNat),
      (2, c.humidityHighX100.toNat), (2, c.batteryLowMv.toNat), (2, c.reportTempDeltaCX100.toNat),
      (2, c.reportHumidityDeltaX100.toNat), (2, c.reportPressureDeltaPa.toNat),
      (2, c.reportMaxIntervalS.toNat), (2, c.bleServiceWindowS.toNat),
      (4, c.gasLowThresholdOhm.toNat), (4, c.reportGasDeltaOhm.toNat), (1, c.operatingMode.toNat),
      (1, c.ledEnabled.toNat), (1, c.sensorHistoryEnabled.toNat), (1, c.reserved.toNat)]

def ofBytes (bs : List UInt8) : TagConfig where
  samplingIntervalS := Packed.getU16 bs 0
  motionTimeoutS := Packed.getU16 bs 2
  motionThresholdMg := Packed.getU16 bs 4
  shockThresholdMg := Packed.getU16 bs 6
  freeFallThresholdMg := Packed.getU16 bs 8
  tempHighCX100 := (Packed.getU16 bs 10).toInt16
  tempLowCX100 := (Packed.getU16 bs 12).toInt16
  humidityHighX100 := Packed.getU16 bs 14
  batteryLowMv := Packed.getU16 bs 16
  reportTempDeltaCX100 := Packed.getU16 bs 18
  reportHumidityDeltaX100 := Packed.getU16 bs 20
  reportPressureDeltaPa := Packed.getU16 bs 22
  reportMaxIntervalS := Packed.getU16 bs 24
  bleServiceWindowS := Packed.getU16 bs 26
  gasLowThresholdOhm := Packed.getU32 bs 28
  reportGasDeltaOhm := Packed.getU32 bs 32
  operatingMode := Packed.getU8 bs 36
  ledEnabled := Packed.getU8 bs 37
  sensorHistoryEnabled := Packed.getU8 bs 38
  reserved := Packed.getU8 bs 39

/-- `sizeof(tag_config_t)` is 40. -/
theorem length_toBytes (c : TagConfig) : c.toBytes.length = 40 := by
  simp [toBytes, Packed.length_pack]

theorem ofBytes_toBytes (c : TagConfig) : ofBytes c.toBytes = c := by
  simp [ofBytes, toBytes]

theorem toBytes_ofBytes {bs : List UInt8} (h : bs.length = 40) : (ofBytes bs).toBytes = bs := by
  have hend : Packed.pack [] = bs.drop 40 := (List.drop_of_length_le h.le).symm
  simp only [toBytes, ofBytes, UInt16.toUInt16_toInt16]
  refine Eq.trans ?_ (List.drop_zero (l := bs))
  iterate 14 refine Packed.pack_getU16 (by omega) ?_
  iterate 2 refine Packed.pack_getU32 (by omega) ?_
  iterate 3 refine Packed.pack_getU8 (by omega) ?_
  exact Packed.pack_getU8 (by omega) hend

end TagConfig

/-! ## Wall-clock time -/

/-- `smart_tag_boot_epoch_utc`: UTC at boot, or 0 when the time given cannot be right. -/
def smartTagBootEpochUtc (utcNow uptimeS : UInt32) : UInt32 :=
  if utcNow = 0 ∨ utcNow < uptimeS then 0 else utcNow - uptimeS

/-- `smart_tag_utc_from_uptime`: wall-clock seconds, or 0 when the boot epoch is unknown. -/
def smartTagUtcFromUptime (bootEpochUtc uptimeS : UInt32) : UInt32 :=
  if bootEpochUtc = 0 then 0 else bootEpochUtc + uptimeS

theorem toNat_smartTagBootEpochUtc (utcNow uptimeS : UInt32) :
    (smartTagBootEpochUtc utcNow uptimeS).toNat = utcNow.toNat - uptimeS.toNat := by
  rw [smartTagBootEpochUtc]
  split_ifs with h
  · rcases h with rfl | h
    · simp
    · rw [UInt32.lt_iff_toNat_lt] at h
      exact (Nat.sub_eq_zero_of_le h.le).symm
  · have hle : uptimeS ≤ utcNow := UInt32.not_lt.1 fun hlt => h (Or.inr hlt)
    exact UInt32.toNat_sub_of_le _ _ hle

theorem toNat_smartTagUtcFromUptime {bootEpochUtc uptimeS : UInt32} (hne : bootEpochUtc ≠ 0)
    (h : bootEpochUtc.toNat + uptimeS.toNat < 2 ^ 32) :
    (smartTagUtcFromUptime bootEpochUtc uptimeS).toNat = bootEpochUtc.toNat + uptimeS.toNat := by
  rw [smartTagUtcFromUptime, if_neg hne, UInt32.toNat_add]
  exact Nat.mod_eq_of_lt h

end SmartTag
