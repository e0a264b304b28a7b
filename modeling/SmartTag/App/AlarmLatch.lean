import SmartTag.App.AppConfig
import SmartTag.Lib.Flags

/-!
# Alarm latches

What an evaluation does to each alarm flag. A latch goes up when its reading trips, and stays up
until the reading is in its clear region; without a reading it stays as it is.

* `alarm_flags_track_iff`: over a run with a changing configuration all latches follow this law,
  exactly when the gas check is never disabled while its alarm is up.
-/

namespace SmartTag

open Flags

/-- The law of a latch. -/
def Latch (valid trips clears before after : Prop) : Prop :=
  (valid → (after ↔ trips ∨ (before ∧ ¬ clears))) ∧ (¬ valid → (after ↔ before))

/-! ## One flag -/

namespace AlarmEval

theorem raised_trip {flag : UInt16} (h : flag ≠ 0) (s : AlarmEval) (event : AppAlarmEvent) :
    Raised (s.trip flag event).flags flag := by
  unfold trip
  split_ifs with hdown
  · exact raised_or h s.flags
  · exact hdown

theorem raised_trip_of_disjoint {flag other : UInt16} (h : flag &&& other = 0) (s : AlarmEval)
    (event : AppAlarmEvent) : Raised (s.trip flag event).flags other ↔ Raised s.flags other := by
  unfold trip
  split_ifs
  · exact raised_or_of_disjoint h s.flags
  · exact Iff.rfl

theorem not_raised_clear {mask flag : UInt16} (h : ~~~mask &&& flag = 0) (s : AlarmEval) :
    ¬ Raised (s.clear mask).flags flag := not_raised_andNot h s.flags

theorem raised_clear_of_disjoint {mask flag : UInt16} (h : mask &&& flag = 0) (s : AlarmEval) :
    Raised (s.clear mask).flags flag ↔ Raised s.flags flag :=
  raised_andNot_of_disjoint h s.flags

end AlarmEval

open AlarmEval

/-! ## The checks one by one -/

/-- The temperature half of `evalTempRh`. -/
def evalTemp (data : SensorData) (config : TagConfig) (s : AlarmEval) : AlarmEval :=
  if config.tempHighCX100 < data.temperatureCX100 then
    s.trip alarmTempHigh ⟨.tempHigh, .alarm, data.temperatureCX100⟩
  else if data.temperatureCX100 < config.tempLowCX100 then
    s.trip alarmTempLow ⟨.tempLow, .alarm, data.temperatureCX100⟩
  else s.clear (alarmTempHigh ||| alarmTempLow)

/-- The humidity half of `evalTempRh`. -/
def evalHumidity (data : SensorData) (config : TagConfig) (s : AlarmEval) : AlarmEval :=
  if config.humidityHighX100 < data.humidityX100 then
    s.trip alarmHumidityHigh ⟨.humidityHigh, .warning, data.humidityX100.toInt16⟩
  else s.clear alarmHumidityHigh

section

variable (data : SensorData) (config : TagConfig) (s : AlarmEval)

theorem evalTempRh_eq :
    evalTempRh data config s =
      if data.valid &&& sensorValidTempRh = 0 then s
      else evalHumidity data config (evalTemp data config s) := rfl

/-! ### Flags a check does not touch -/

variable {flag : UInt16}

theorem raised_evalTemp (h : (alarmTempHigh ||| alarmTempLow) &&& flag = 0) :
    Raised (evalTemp data config s).flags flag ↔ Raised s.flags flag := by
  have hboth := h
  rw [or_and, UInt16.or_eq_zero_iff] at hboth
  unfold evalTemp
  split_ifs
  · exact raised_trip_of_disjoint hboth.1 s _
  · exact raised_trip_of_disjoint hboth.2 s _
  · exact raised_clear_of_disjoint h s

theorem raised_evalHumidity (h : alarmHumidityHigh &&& flag = 0) :
    Raised (evalHumidity data config s).flags flag ↔ Raised s.flags flag := by
  unfold evalHumidity
  split_ifs
  · exact raised_trip_of_disjoint h s _
  · exact raised_clear_of_disjoint h s

theorem raised_evalTempRh
    (h : (alarmTempHigh ||| alarmTempLow ||| alarmHumidityHigh) &&& flag = 0) :
    Raised (evalTempRh data config s).flags flag ↔ Raised s.flags flag := by
  rw [or_and, UInt16.or_eq_zero_iff] at h
  rw [evalTempRh_eq]
  split_ifs
  · exact Iff.rfl
  · exact (raised_evalHumidity data config _ h.2).trans (raised_evalTemp data config s h.1)

theorem raised_evalGas (h : alarmGasLow &&& flag = 0) :
    Raised (evalGas data config s).flags flag ↔ Raised s.flags flag := by
  unfold evalGas
  split_ifs
  · exact Iff.rfl
  · exact raised_trip_of_disjoint h s _
  · exact raised_clear_of_disjoint h s

theorem raised_evalBattery (h : alarmBatteryLow &&& flag = 0) :
    Raised (evalBattery data config s).flags flag ↔ Raised s.flags flag := by
  unfold evalBattery
  split_ifs
  · exact Iff.rfl
  · exact raised_trip_of_disjoint h s _
  · exact raised_clear_of_disjoint h s
  · exact Iff.rfl

theorem raised_evalSensorFault (expectedValid : UInt8) (h : alarmSensorFault &&& flag = 0) :
    Raised (evalSensorFault data expectedValid s).flags flag ↔ Raised s.flags flag := by
  unfold evalSensorFault
  split_ifs
  · exact raised_trip_of_disjoint h s _
  · exact raised_clear_of_disjoint h s

/-! ### The flags a check sets -/

theorem latch_tempHigh :
    Latch (data.valid &&& sensorValidTempRh ≠ 0) (config.tempHighCX100 < data.temperatureCX100)
      (config.tempLowCX100 ≤ data.temperatureCX100 ∧ data.temperatureCX100 ≤ config.tempHighCX100)
      (Raised s.flags alarmTempHigh) (Raised (evalTempRh data config s).flags alarmTempHigh) := by
  rw [evalTempRh_eq]
  refine ⟨fun hvalid => ?_, fun hinvalid => by rw [if_pos (not_not.1 hinvalid)]⟩
  rw [if_neg hvalid, raised_evalHumidity data config _ (by decide), evalTemp]
  split_ifs with hhigh hlow
  · exact iff_of_true (raised_trip (by decide) s _) (Or.inl hhigh)
  · rw [raised_trip_of_disjoint (by decide)]
    simp [hhigh, hlow]
  · have hclear := not_raised_clear (show ~~~(alarmTempHigh ||| alarmTempLow) &&& alarmTempHigh = 0
      by decide) s
    simp only [Int16.not_lt] at hhigh hlow
    simp [hclear, hhigh, hlow]

/-- The limits are in order, so a temperature above the high one does not trip the low one. -/
theorem latch_tempLow (h : config.tempLowCX100 < config.tempHighCX100) :
    Latch (data.valid &&& sensorValidTempRh ≠ 0) (data.temperatureCX100 < config.tempLowCX100)
      (config.tempLowCX100 ≤ data.temperatureCX100 ∧ data.temperatureCX100 ≤ config.tempHighCX100)
      (Raised s.flags alarmTempLow) (Raised (evalTempRh data config s).flags alarmTempLow) := by
  rw [evalTempRh_eq]
  refine ⟨fun hvalid => ?_, fun hinvalid => by rw [if_pos (not_not.1 hinvalid)]⟩
  rw [if_neg hvalid, raised_evalHumidity data config _ (by decide), evalTemp]
  split_ifs with hhigh hlow
  · have hnot : ¬ data.temperatureCX100 < config.tempLowCX100 := by
      rw [Int16.lt_iff_toInt_lt] at *
      omega
    rw [raised_trip_of_disjoint (by decide)]
    simp [hhigh, hnot]
  · exact iff_of_true (raised_trip (by decide) s _) (Or.inl hlow)
  · have hclear := not_raised_clear (show ~~~(alarmTempHigh ||| alarmTempLow) &&& alarmTempLow = 0
      by decide) s
    simp only [Int16.not_lt] at hhigh hlow
    simp [hclear, hhigh, hlow]

theorem latch_humidityHigh :
    Latch (data.valid &&& sensorValidTempRh ≠ 0) (config.humidityHighX100 < data.humidityX100)
      (data.humidityX100 ≤ config.humidityHighX100) (Raised s.flags alarmHumidityHigh)
      (Raised (evalTempRh data config s).flags alarmHumidityHigh) := by
  rw [evalTempRh_eq]
  refine ⟨fun hvalid => ?_, fun hinvalid => by rw [if_pos (not_not.1 hinvalid)]⟩
  rw [if_neg hvalid, evalHumidity]
  split_ifs with hhigh
  · exact iff_of_true (raised_trip (by decide) _ _) (Or.inl hhigh)
  · have hclear := not_raised_clear (show ~~~alarmHumidityHigh &&& alarmHumidityHigh = 0 by decide)
      (evalTemp data config s)
    simp [hclear, hhigh, UInt16.not_lt.1 hhigh]

/-- The gas latch follows its law unless the check is disabled while the alarm is up. -/
theorem latch_gasLow_iff :
    Latch (data.valid &&& sensorValidGas ≠ 0) (data.gasResistanceOhm < config.gasLowThresholdOhm)
        (config.gasLowThresholdOhm ≤ data.gasResistanceOhm ∨ config.gasLowThresholdOhm = 0)
        (Raised s.flags alarmGasLow) (Raised (evalGas data config s).flags alarmGasLow) ↔
      ¬ (data.valid &&& sensorValidGas ≠ 0 ∧ config.gasLowThresholdOhm = 0 ∧
        Raised s.flags alarmGasLow) := by
  by_cases hvalid : data.valid &&& sensorValidGas = 0
  · have hkeeps : evalGas data config s = s := if_pos (Or.inl hvalid)
    simp [Latch, hvalid, hkeeps]
  · by_cases hoff : config.gasLowThresholdOhm = 0
    · have hkeeps : evalGas data config s = s := if_pos (Or.inr hoff)
      simp [Latch, hvalid, hkeeps, hoff]
    · rw [evalGas, if_neg (by simp [hvalid, hoff])]
      split_ifs with hlow
      · have hraised := raised_trip (show alarmGasLow ≠ 0 by decide) s
        simp [Latch, hvalid, hoff, hlow, hraised]
      · have hclear := not_raised_clear (show ~~~alarmGasLow &&& alarmGasLow = 0 by decide) s
        simp [Latch, hvalid, hoff, hlow, hclear, UInt32.not_lt.1 hlow]

theorem latch_batteryLow (h : config.batteryLowMv ≤ 3300) :
    Latch (data.valid &&& sensorValidBattery ≠ 0) (data.batteryMv < config.batteryLowMv)
      (config.batteryLowMv.toNat + 100 ≤ data.batteryMv.toNat) (Raised s.flags alarmBatteryLow)
      (Raised (evalBattery data config s).flags alarmBatteryLow) := by
  have hsum : (config.batteryLowMv + smartTagBatteryHysteresisMv ≤ data.batteryMv) ↔
      config.batteryLowMv.toNat + 100 ≤ data.batteryMv.toNat := by
    rw [UInt16.le_iff_toNat_le] at h
    have hle : config.batteryLowMv.toNat ≤ 3300 := h
    rw [UInt16.le_iff_toNat_le, UInt16.toNat_add]
    have hmod : (config.batteryLowMv.toNat + smartTagBatteryHysteresisMv.toNat) % 2 ^ 16 =
        config.batteryLowMv.toNat + 100 := Nat.mod_eq_of_lt (by
      show config.batteryLowMv.toNat + 100 < 2 ^ 16
      omega)
    rw [hmod]
  unfold evalBattery
  refine ⟨fun hvalid => ?_, fun hinvalid => by rw [if_pos (not_not.1 hinvalid)]⟩
  rw [if_neg hvalid]
  split_ifs with hlow hhigh
  · exact iff_of_true (raised_trip (by decide) _ _) (Or.inl hlow)
  · have hclear := not_raised_clear (show ~~~alarmBatteryLow &&& alarmBatteryLow = 0 by decide) s
    simp [hclear, hlow, hsum.1 hhigh]
  · rw [hsum] at hhigh
    simp [hlow, hhigh]

/-- The sensor fault has no latch: it is up when an expected reading is missing. -/
theorem raised_sensorFault (expectedValid : UInt8) :
    Raised (evalSensorFault data expectedValid s).flags alarmSensorFault ↔
      data.valid &&& expectedValid ≠ expectedValid := by
  unfold evalSensorFault
  split_ifs with hmissing
  · exact iff_of_true (raised_trip (by decide) _ _) hmissing
  · exact iff_of_false (not_raised_clear (by decide) s) hmissing

end

/-! ## An evaluation -/

/-- A sample with what it is evaluated against. -/
structure AlarmSample where
  data : SensorData
  config : AcceptedConfig
  expectedValid : UInt8

/-- The flags after an evaluation. -/
def alarmStep (flags : UInt16) (sample : AlarmSample) : UInt16 :=
  (appAlarmsEval sample.data sample.config.config sample.expectedValid flags).flags

/-- The law of the flags: each latch follows its own, and the sensor fault says that an expected
reading is missing. -/
structure AlarmLaw (data : SensorData) (config : TagConfig) (expectedValid : UInt8)
    (before after : UInt16) : Prop where
  tempHigh : Latch (data.valid &&& sensorValidTempRh ≠ 0)
    (config.tempHighCX100 < data.temperatureCX100)
    (config.tempLowCX100 ≤ data.temperatureCX100 ∧ data.temperatureCX100 ≤ config.tempHighCX100)
    (Raised before alarmTempHigh) (Raised after alarmTempHigh)
  tempLow : Latch (data.valid &&& sensorValidTempRh ≠ 0)
    (data.temperatureCX100 < config.tempLowCX100)
    (config.tempLowCX100 ≤ data.temperatureCX100 ∧ data.temperatureCX100 ≤ config.tempHighCX100)
    (Raised before alarmTempLow) (Raised after alarmTempLow)
  humidityHigh : Latch (data.valid &&& sensorValidTempRh ≠ 0)
    (config.humidityHighX100 < data.humidityX100) (data.humidityX100 ≤ config.humidityHighX100)
    (Raised before alarmHumidityHigh) (Raised after alarmHumidityHigh)
  gasLow : Latch (data.valid &&& sensorValidGas ≠ 0)
    (data.gasResistanceOhm < config.gasLowThresholdOhm)
    (config.gasLowThresholdOhm ≤ data.gasResistanceOhm ∨ config.gasLowThresholdOhm = 0)
    (Raised before alarmGasLow) (Raised after alarmGasLow)
  batteryLow : Latch (data.valid &&& sensorValidBattery ≠ 0) (data.batteryMv < config.batteryLowMv)
    (config.batteryLowMv.toNat + 100 ≤ data.batteryMv.toNat)
    (Raised before alarmBatteryLow) (Raised after alarmBatteryLow)
  sensorFault : Raised after alarmSensorFault ↔ data.valid &&& expectedValid ≠ expectedValid

/-- The gas check is disabled and the gas alarm is up. -/
def DisabledWhileLow (flags : UInt16) (sample : AlarmSample) : Prop :=
  sample.data.valid &&& sensorValidGas ≠ 0 ∧ sample.config.config.gasLowThresholdOhm = 0 ∧
    Raised flags alarmGasLow

theorem alarmLaw_iff (flags : UInt16) (sample : AlarmSample) :
    AlarmLaw sample.data sample.config.config sample.expectedValid flags (alarmStep flags sample) ↔
      ¬ DisabledWhileLow flags sample := by
  obtain ⟨data, config, expectedValid⟩ := sample
  have hrange := config.inRange
  let start : AlarmEval := { flags := flags, events := [] }
  let tempRh := evalTempRh data config.config start
  let gas := evalGas data config.config tempRh
  let battery := evalBattery data config.config gas
  -- What the later checks leave alone, for each flag.
  have hgas : ∀ {flag}, alarmSensorFault &&& flag = 0 → alarmBatteryLow &&& flag = 0 →
      (Raised (alarmStep flags ⟨data, config, expectedValid⟩) flag ↔ Raised gas.flags flag) :=
    fun hfault hbattery => (raised_evalSensorFault data battery expectedValid hfault).trans
      (raised_evalBattery data config.config gas hbattery)
  have htempRh : ∀ {flag}, alarmSensorFault &&& flag = 0 → alarmBatteryLow &&& flag = 0 →
      alarmGasLow &&& flag = 0 →
      (Raised (alarmStep flags ⟨data, config, expectedValid⟩) flag ↔ Raised tempRh.flags flag) :=
    fun hfault hbattery hlow =>
      (hgas hfault hbattery).trans (raised_evalGas data config.config tempRh hlow)
  have hlatch := latch_gasLow_iff data config.config tempRh
  rw [raised_evalTempRh data config.config start (by decide)] at hlatch
  constructor
  · intro h
    have hlaw := h.gasLow
    rw [hgas (by decide) (by decide)] at hlaw
    exact hlatch.1 hlaw
  · intro h
    constructor
    · rw [htempRh (by decide) (by decide) (by decide)]
      exact latch_tempHigh data config.config start
    · rw [htempRh (by decide) (by decide) (by decide)]
      exact latch_tempLow data config.config start hrange.temp
    · rw [htempRh (by decide) (by decide) (by decide)]
      exact latch_humidityHigh data config.config start
    · rw [hgas (by decide) (by decide)]
      exact hlatch.2 h
    · have hbattery := latch_batteryLow data config.config gas hrange.battery.2
      have hbefore : Raised gas.flags alarmBatteryLow ↔ Raised flags alarmBatteryLow :=
        (raised_evalGas data config.config tempRh (by decide)).trans
          (raised_evalTempRh data config.config start (by decide))
      have hafter : Raised (alarmStep flags ⟨data, config, expectedValid⟩) alarmBatteryLow ↔
          Raised battery.flags alarmBatteryLow :=
        raised_evalSensorFault data battery expectedValid (by decide)
      rw [hafter, ← hbefore]
      exact hbattery
    · exact raised_sensorFault data battery expectedValid

/-- Over every run of evaluations from no alarm, with a configuration that may change between the
samples: each flag follows its law after each evaluation, exactly when no evaluation of a valid gas
reading finds the check disabled and the alarm up. -/
theorem alarm_flags_track_iff (samples : List AlarmSample) :
    Run.Along alarmStep
        (fun flags sample => AlarmLaw sample.data sample.config.config sample.expectedValid flags
          (alarmStep flags sample)) 0 samples ↔
      Run.Along alarmStep (fun flags sample => ¬ DisabledWhileLow flags sample) 0 samples :=
  Run.along_congr (I := fun _ => True) (fun _ _ _ => trivial)
    (fun flags sample _ => alarmLaw_iff flags sample) trivial

/-- A sample with nothing but a gas reading, under the defaults with a gas floor. -/
def gasSample (ohm floor : UInt32) : AlarmSample where
  data := { AppState.atReset.lastSample with valid := sensorValidGas, gasResistanceOhm := ohm }
  config :=
    { config := { TagConfig.defaults with gasLowThresholdOhm := floor }
      accepted := rfl }
  expectedValid := 0

/-- The alarm goes up under a floor of 50 kOhm; the operator disables the check, and the flag stays
up although the air is clean. -/
theorem gas_alarm_stuck :
    let flags := Run.final alarmStep 0 [gasSample 40000 50000]
    let sample := gasSample 200000 0
    Raised (alarmStep flags sample) alarmGasLow ∧
      ¬ AlarmLaw sample.data sample.config.config sample.expectedValid flags
        (alarmStep flags sample) := by
  intro flags sample
  refine ⟨by decide, ?_⟩
  rw [alarmLaw_iff, not_not]
  exact ⟨by decide, rfl, by decide⟩

end SmartTag
