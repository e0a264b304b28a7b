import SmartTag.Zigbee.Reporting

/-!
# Zigbee clusters

The attributes a gateway reads, following `src/zigbee/zigbee_clusters.c`. Writing an attribute
stores its value in `dev_ctx`, where the stack reads it. The attributes that are set once and never
written again are left out.

* `shows_update`, `shows_update_kept`: an update shows the readings it writes and keeps the others.
-/

namespace SmartTag

/-- The attributes of `struct power_config_attrs` that are updated. -/
structure PowerConfigAttrs where
  /-- In units of 100 mV. -/
  voltage : UInt8
  /-- In units of half a percent. -/
  remaining : UInt8
deriving DecidableEq, Repr

/-- The attributes of `struct measure_attrs` that are updated. -/
structure MeasureAttrs where
  tempValue : Int16
  humidityValue : UInt16
  /-- In kPa. -/
  pressureValue : Int16
deriving DecidableEq, Repr

/-- `struct tag_monitor_attrs`. -/
structure TagMonitorAttrs where
  motionState : UInt8
  orientation : UInt8
  shockCount : UInt32
  maximumShock : UInt16
  freeFallCount : UInt32
  tamperState : UInt8
  movementDuration : UInt32
  lastMovementTime : UInt32
  eventCount : UInt32
  logRecordCount : UInt32
  alarmFlags : UInt16
  operatingMode : UInt8
  samplingInterval : UInt16
  gasResistance : UInt32
  bootEpoch : UInt32
deriving DecidableEq, Repr

/-- `struct device_ctx`. -/
structure DeviceCtx where
  power : PowerConfigAttrs
  measure : MeasureAttrs
  tag : TagMonitorAttrs
deriving DecidableEq, Repr

/-- `zigbee_clusters_init`, on the statics at reset. The power attributes are unknown until the
first sample. -/
def zigbeeClustersInit (config : TagConfig) : DeviceCtx where
  power := { voltage := 0xff, remaining := 0xff }
  measure := { tempValue := 0, humidityValue := 0, pressureValue := 0 }
  tag :=
    { motionState := 0
      orientation := orientationUnknown
      shockCount := 0
      maximumShock := 0
      freeFallCount := 0
      tamperState := 0
      movementDuration := 0
      lastMovementTime := 0
      eventCount := 0
      logRecordCount := 0
      alarmFlags := 0
      operatingMode := config.operatingMode
      samplingInterval := config.samplingIntervalS
      gasResistance := 0
      bootEpoch := 0 }

section

variable (data : SensorData) (status : TagStatus) (logRecordCount : UInt32) (config : TagConfig)
  (bootEpoch : UInt32) (report : UInt32) (ctx : DeviceCtx)

/-- The measurement clusters. -/
def updateMeasure (measure : MeasureAttrs) : MeasureAttrs :=
  let measure :=
    if Includes report .temperature ∧ data.valid &&& sensorValidTempRh ≠ 0 then
      { measure with tempValue := data.temperatureCX100 }
    else measure
  let measure :=
    if Includes report .humidity ∧ data.valid &&& sensorValidTempRh ≠ 0 then
      { measure with humidityValue := data.humidityX100 }
    else measure
  if Includes report .pressure ∧ data.valid &&& sensorValidPressure ≠ 0 then
    { measure with pressureValue := (data.pressurePa / 1000).toInt16 }
  else measure

/-- The Power Configuration cluster. -/
def updatePower (power : PowerConfigAttrs) : PowerConfigAttrs :=
  if Includes report .battery ∧ data.valid &&& sensorValidBattery ≠ 0 then
    { voltage := (data.batteryMv / 100).toUInt8
      remaining := (min (data.batteryPercent.toUInt16 * 2) 200).toUInt8 }
  else power

/-- The Tag Monitor cluster. Gas resistance is written only when the reading is real. -/
def updateTagMonitor (tag : TagMonitorAttrs) : TagMonitorAttrs :=
  if ¬ Includes report .tagMonitor then tag
  else
    { motionState := status.motionState
      orientation := status.orientation
      shockCount := status.shockCount
      maximumShock := status.maxShockMg
      freeFallCount := status.freeFallCount
      tamperState := status.tamper
      movementDuration := status.movementDurationS
      lastMovementTime := status.lastMovementTime
      eventCount := status.eventCount
      logRecordCount := logRecordCount
      alarmFlags := status.alarmFlags
      operatingMode := config.operatingMode
      samplingInterval := config.samplingIntervalS
      gasResistance :=
        if data.valid &&& sensorValidGas ≠ 0 then data.gasResistanceOhm else tag.gasResistance
      bootEpoch := bootEpoch }

/-- `zigbee_clusters_update`. `bootEpoch` is that of the statistics. -/
def zigbeeClustersUpdate : DeviceCtx where
  measure := updateMeasure data report ctx.measure
  power := updatePower data report ctx.power
  tag := updateTagMonitor data status logRecordCount config bootEpoch report ctx.tag

/-! ## What an update shows -/

namespace Attribute

/-- The update writes the attribute. -/
def Written (a : Attribute) : Prop :=
  Includes report a.group ∧ data.valid &&& a.validBit ≠ 0

instance (a : Attribute) : Decidable (a.Written data report) := inferInstanceAs (Decidable (_ ∧ _))

/-- The attribute has the value of this reading, in its own units. -/
def Shows (reading : Int) : Attribute → Prop
  | .temperature => ctx.measure.tempValue.toInt = reading
  | .humidity => ctx.measure.humidityValue.toNat = reading
  | .pressure => ∃ pa : Int32, pa.toInt = reading ∧ ctx.measure.pressureValue = (pa / 1000).toInt16
  | .battery => ∃ percent : UInt8, (percent.toNat : Int) = reading ∧
      ctx.power.remaining = (min (percent.toUInt16 * 2) 200).toUInt8

end Attribute

section

variable (measure : MeasureAttrs)

theorem tempValue_updateMeasure :
    (updateMeasure data report measure).tempValue =
      if Attribute.temperature.Written data report then data.temperatureCX100
      else measure.tempValue := by
  simp only [updateMeasure, apply_ite MeasureAttrs.tempValue, ite_self]
  rfl

theorem humidityValue_updateMeasure :
    (updateMeasure data report measure).humidityValue =
      if Attribute.humidity.Written data report then data.humidityX100
      else measure.humidityValue := by
  simp only [updateMeasure, apply_ite MeasureAttrs.humidityValue, ite_self]
  rfl

theorem pressureValue_updateMeasure :
    (updateMeasure data report measure).pressureValue =
      if Attribute.pressure.Written data report then (data.pressurePa / 1000).toInt16
      else measure.pressureValue := by
  simp only [updateMeasure, apply_ite MeasureAttrs.pressureValue, ite_self]
  rfl

theorem remaining_updatePower (power : PowerConfigAttrs) :
    (updatePower data report power).remaining =
      if Attribute.battery.Written data report then
        (min (data.batteryPercent.toUInt16 * 2) 200).toUInt8
      else power.remaining := apply_ite PowerConfigAttrs.remaining _ _ _

end

variable {data report} {a : Attribute}

theorem shows_update (h : a.Written data report) :
    a.Shows (zigbeeClustersUpdate data status logRecordCount config bootEpoch report ctx)
      (a.reading data) := by
  cases a with
  | temperature =>
      have hvalue := tempValue_updateMeasure data report ctx.measure
      rw [if_pos h] at hvalue
      exact congrArg Int16.toInt hvalue
  | humidity =>
      have hvalue := humidityValue_updateMeasure data report ctx.measure
      rw [if_pos h] at hvalue
      exact congrArg (fun value : UInt16 => (value.toNat : Int)) hvalue
  | pressure =>
      have hvalue := pressureValue_updateMeasure data report ctx.measure
      rw [if_pos h] at hvalue
      exact ⟨data.pressurePa, rfl, hvalue⟩
  | battery =>
      have hvalue := remaining_updatePower data report ctx.power
      rw [if_pos h] at hvalue
      exact ⟨data.batteryPercent, rfl, hvalue⟩

theorem shows_update_kept (h : ¬ a.Written data report) (reading : Int) :
    a.Shows (zigbeeClustersUpdate data status logRecordCount config bootEpoch report ctx)
      reading ↔ a.Shows ctx reading := by
  cases a with
  | temperature =>
      have hvalue := tempValue_updateMeasure data report ctx.measure
      rw [if_neg h] at hvalue
      simp only [Attribute.Shows, zigbeeClustersUpdate, hvalue]
  | humidity =>
      have hvalue := humidityValue_updateMeasure data report ctx.measure
      rw [if_neg h] at hvalue
      simp only [Attribute.Shows, zigbeeClustersUpdate, hvalue]
  | pressure =>
      have hvalue := pressureValue_updateMeasure data report ctx.measure
      rw [if_neg h] at hvalue
      simp only [Attribute.Shows, zigbeeClustersUpdate, hvalue]
  | battery =>
      have hvalue := remaining_updatePower data report ctx.power
      rw [if_neg h] at hvalue
      simp only [Attribute.Shows, zigbeeClustersUpdate, hvalue]

end

end SmartTag
