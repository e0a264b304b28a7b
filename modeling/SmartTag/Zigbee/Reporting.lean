import SmartTag.App.AppConfig

/-!
# Zigbee reporting policy

Which attribute groups of a sample are reported, following `src/zigbee/zigbee_reporting.c`. The
policy compares a sample with a baseline, the values of the last reports.

* `includes_evaluate`: a group is in the mask when everything is sent or it has moved.
* `Attribute.held_commit`: what a commit does to the baseline.
-/

namespace SmartTag

/-! ## Masks -/

def reportTemperature : UInt32 := 0x01
def reportHumidity : UInt32 := 0x02
def reportPressure : UInt32 := 0x04
def reportBattery : UInt32 := 0x08
def reportTagMonitor : UInt32 := 0x10

/-- The mask that sends everything. -/
def reportAll : UInt32 :=
  reportTemperature ||| reportHumidity ||| reportPressure ||| reportBattery ||| reportTagMonitor

/-- An attribute group. -/
inductive ReportGroup where
  | temperature | humidity | pressure | battery | tagMonitor
deriving DecidableEq, Repr

def ReportGroup.bit : ReportGroup → UInt32
  | .temperature => reportTemperature
  | .humidity => reportHumidity
  | .pressure => reportPressure
  | .battery => reportBattery
  | .tagMonitor => reportTagMonitor

/-- The mask includes the group. -/
def Includes (report : UInt32) (group : ReportGroup) : Prop := report &&& group.bit ≠ 0

instance (report : UInt32) (group : ReportGroup) : Decidable (Includes report group) :=
  inferInstanceAs (Decidable (_ ≠ _))

@[simp] theorem not_includes_zero (group : ReportGroup) : ¬ Includes 0 group := by
  rw [Includes, UInt32.zero_and]
  exact fun h => h rfl

theorem includes_or (report mask : UInt32) (group : ReportGroup) :
    Includes (report ||| mask) group ↔ Includes report group ∨ Includes mask group := by
  have hor : (report ||| mask) &&& group.bit = report &&& group.bit ||| mask &&& group.bit :=
    UInt32.toBitVec_inj.1 BitVec.and_or_distrib_right
  rw [Includes, hor, Ne, UInt32.or_eq_zero_iff, not_and_or]
  exact Iff.rfl

theorem includes_ite (c : Prop) [Decidable c] (report mask : UInt32) (group : ReportGroup) :
    Includes (if c then report ||| mask else report) group ↔
      Includes report group ∨ (c ∧ Includes mask group) := by
  split_ifs with hc <;> simp [hc, includes_or]

theorem includes_reportAll (group : ReportGroup) : Includes reportAll group := by
  cases group <;> decide

/-! ## The baseline -/

/-- `struct baseline`. -/
structure Baseline where
  valid : Bool
  lastReportTime : UInt32
  temperature : Int16
  humidity : UInt16
  pressure : Int32
  batteryPercent : UInt8
  motionState : UInt8
  orientation : UInt8
  tamper : UInt8
  alarmFlags : UInt16
  shockCount : UInt32
  freeFallCount : UInt32
  gasResistance : UInt32
deriving DecidableEq, Repr

def zigbeeReportingInit : Baseline where
  valid := false
  lastReportTime := 0
  temperature := 0
  humidity := 0
  pressure := 0
  batteryPercent := 0
  motionState := 0
  orientation := 0
  tamper := 0
  alarmFlags := 0
  shockCount := 0
  freeFallCount := 0
  gasResistance := 0

def zigbeeReportingForce (baseline : Baseline) : Baseline := { baseline with valid := false }

/-! ## Evaluation -/

def batteryDeltaPercent : Nat := 1

/-- `labs`, with the 32-bit `long` of the tag. -/
def labs (x : Int32) : Int32 := if x < 0 then -x else x

section

variable (data : SensorData) (status : TagStatus) (config : TagConfig) (baseline : Baseline)

/-- The `interval_elapsed` of `zigbee_reporting_evaluate`. -/
def IntervalElapsed : Prop :=
  config.reportMaxIntervalS.toUInt32 ≤ data.timestamp - baseline.lastReportTime

def TemperatureMoved : Prop :=
  config.reportTempDeltaCX100.toNat ≤
    (data.temperatureCX100.toInt - baseline.temperature.toInt).natAbs

def HumidityMoved : Prop :=
  config.reportHumidityDeltaX100.toNat ≤
    ((data.humidityX100.toNat : Int) - baseline.humidity.toNat).natAbs

def PressureMoved : Prop :=
  config.reportPressureDeltaPa.toUInt32.toInt32 ≤ labs (data.pressurePa - baseline.pressure)

def BatteryMoved : Prop :=
  batteryDeltaPercent ≤ ((data.batteryPercent.toNat : Int) - baseline.batteryPercent.toNat).natAbs

def GasMoved : Prop :=
  let a := data.gasResistanceOhm
  let b := baseline.gasResistance
  config.reportGasDeltaOhm ≤ if b < a then a - b else b - a

def StatusChanged : Prop :=
  status.motionState ≠ baseline.motionState ∨ status.orientation ≠ baseline.orientation ∨
    status.tamper ≠ baseline.tamper ∨ status.alarmFlags ≠ baseline.alarmFlags ∨
    status.shockCount ≠ baseline.shockCount ∨ status.freeFallCount ≠ baseline.freeFallCount

instance : Decidable (IntervalElapsed data config baseline) := inferInstanceAs (Decidable (_ ≤ _))
instance : Decidable (TemperatureMoved data config baseline) := inferInstanceAs (Decidable (_ ≤ _))
instance : Decidable (HumidityMoved data config baseline) := inferInstanceAs (Decidable (_ ≤ _))
instance : Decidable (PressureMoved data config baseline) := inferInstanceAs (Decidable (_ ≤ _))
instance : Decidable (BatteryMoved data baseline) := inferInstanceAs (Decidable (_ ≤ _))
instance : Decidable (GasMoved data config baseline) := inferInstanceAs (Decidable (_ ≤ _))
instance : Decidable (StatusChanged status baseline) := inferInstanceAs (Decidable (_ ∨ _))

def zigbeeReportingEvaluate : UInt32 :=
  if baseline.valid = false then reportAll
  else
    let report := 0
    let report :=
      if data.valid &&& sensorValidTempRh ≠ 0 ∧ TemperatureMoved data config baseline then
        report ||| reportTemperature
      else report
    let report :=
      if data.valid &&& sensorValidTempRh ≠ 0 ∧ HumidityMoved data config baseline then
        report ||| reportHumidity
      else report
    let report :=
      if data.valid &&& sensorValidPressure ≠ 0 ∧ PressureMoved data config baseline then
        report ||| reportPressure
      else report
    let report :=
      if data.valid &&& sensorValidBattery ≠ 0 ∧ BatteryMoved data baseline then
        report ||| reportBattery
      else report
    -- A gas delta of 0 disables the comparison.
    let report :=
      if (data.valid &&& sensorValidGas ≠ 0 ∧ config.reportGasDeltaOhm ≠ 0) ∧
          GasMoved data config baseline then
        report ||| reportTagMonitor
      else report
    let report := if StatusChanged status baseline then report ||| reportTagMonitor else report
    if IntervalElapsed data config baseline then report ||| reportAll else report

def zigbeeReportingCommit (reported : UInt32) : Baseline :=
  if reported = 0 then baseline
  else
    let baseline :=
      if Includes reported .temperature then
        { baseline with temperature := data.temperatureCX100 }
      else baseline
    let baseline :=
      if Includes reported .humidity then { baseline with humidity := data.humidityX100 }
      else baseline
    let baseline :=
      if Includes reported .pressure then { baseline with pressure := data.pressurePa }
      else baseline
    let baseline :=
      if Includes reported .battery then { baseline with batteryPercent := data.batteryPercent }
      else baseline
    let baseline :=
      if Includes reported .tagMonitor then
        let baseline := { baseline with
          motionState := status.motionState
          orientation := status.orientation
          tamper := status.tamper
          alarmFlags := status.alarmFlags
          shockCount := status.shockCount
          freeFallCount := status.freeFallCount }
        if data.valid &&& sensorValidGas ≠ 0 then
          { baseline with gasResistance := data.gasResistanceOhm }
        else baseline
      else baseline
    { baseline with lastReportTime := data.timestamp, valid := true }

/-! ## What is in the mask -/

/-- The first report, or the heartbeat. -/
def SendsAll : Prop := baseline.valid = false ∨ IntervalElapsed data config baseline

instance : Decidable (SendsAll data config baseline) := inferInstanceAs (Decidable (_ ∨ _))

/-- The group has changed enough to be reported on its own. -/
def Moved : ReportGroup → Prop
  | .temperature => data.valid &&& sensorValidTempRh ≠ 0 ∧ TemperatureMoved data config baseline
  | .humidity => data.valid &&& sensorValidTempRh ≠ 0 ∧ HumidityMoved data config baseline
  | .pressure => data.valid &&& sensorValidPressure ≠ 0 ∧ PressureMoved data config baseline
  | .battery => data.valid &&& sensorValidBattery ≠ 0 ∧ BatteryMoved data baseline
  | .tagMonitor =>
    ((data.valid &&& sensorValidGas ≠ 0 ∧ config.reportGasDeltaOhm ≠ 0) ∧
      GasMoved data config baseline) ∨ StatusChanged status baseline

theorem includes_evaluate (group : ReportGroup) :
    Includes (zigbeeReportingEvaluate data status config baseline) group ↔
      SendsAll data config baseline ∨ Moved data status config baseline group := by
  -- Each group has a bit of its own.
  have hmask : ∀ g g' : ReportGroup, Includes g.bit g' ↔ g = g' := by
    intro g g'
    cases g <;> cases g' <;> decide
  have htemperature : Includes reportTemperature group ↔ _ := hmask .temperature group
  have hhumidity : Includes reportHumidity group ↔ _ := hmask .humidity group
  have hpressure : Includes reportPressure group ↔ _ := hmask .pressure group
  have hbattery : Includes reportBattery group ↔ _ := hmask .battery group
  have htagMonitor : Includes reportTagMonitor group ↔ _ := hmask .tagMonitor group
  unfold zigbeeReportingEvaluate SendsAll
  by_cases hvalid : baseline.valid = false
  · rw [if_pos hvalid]
    exact iff_of_true (includes_reportAll group) (Or.inl (Or.inl hvalid))
  · rw [if_neg hvalid, or_iff_right hvalid, includes_ite, or_comm,
      and_iff_left (includes_reportAll group)]
    refine or_congr Iff.rfl ?_
    simp only [includes_ite, not_includes_zero, false_or, htemperature, hhumidity, hpressure,
      hbattery, htagMonitor]
    cases group <;> simp [Moved]

/-- A mask that is not empty includes a group. -/
theorem exists_includes_evaluate (h : zigbeeReportingEvaluate data status config baseline ≠ 0) :
    ∃ group, Includes (zigbeeReportingEvaluate data status config baseline) group := by
  by_contra hnone
  have hquiet : ∀ group, ¬ SendsAll data config baseline ∧
      ¬ Moved data status config baseline group := by
    intro group
    rw [← not_or, ← includes_evaluate]
    exact fun hin => hnone ⟨group, hin⟩
  obtain ⟨hvalid, helapsed⟩ := not_or.1 (hquiet .temperature).1
  have htemperature : ¬ (data.valid &&& sensorValidTempRh ≠ 0 ∧
      TemperatureMoved data config baseline) := (hquiet .temperature).2
  have hhumidity : ¬ (data.valid &&& sensorValidTempRh ≠ 0 ∧
      HumidityMoved data config baseline) := (hquiet .humidity).2
  have hpressure : ¬ (data.valid &&& sensorValidPressure ≠ 0 ∧
      PressureMoved data config baseline) := (hquiet .pressure).2
  have hbattery : ¬ (data.valid &&& sensorValidBattery ≠ 0 ∧ BatteryMoved data baseline) :=
    (hquiet .battery).2
  obtain ⟨hgas, hstatus⟩ := not_or.1 (hquiet .tagMonitor).2
  apply h
  unfold zigbeeReportingEvaluate
  rw [if_neg hvalid, if_neg helapsed, if_neg hstatus, if_neg hgas, if_neg hbattery,
    if_neg hpressure, if_neg hhumidity, if_neg htemperature]

end

/-! ## The attributes with a delta -/

/-- What a gateway reads of the environment. -/
inductive Attribute where
  | temperature | humidity | pressure | battery
deriving DecidableEq, Repr

namespace Attribute

def group : Attribute → ReportGroup
  | .temperature => .temperature
  | .humidity => .humidity
  | .pressure => .pressure
  | .battery => .battery

def validBit : Attribute → UInt8
  | .temperature => sensorValidTempRh
  | .humidity => sensorValidTempRh
  | .pressure => sensorValidPressure
  | .battery => sensorValidBattery

def reading (data : SensorData) : Attribute → Int
  | .temperature => data.temperatureCX100.toInt
  | .humidity => data.humidityX100.toNat
  | .pressure => data.pressurePa.toInt
  | .battery => data.batteryPercent.toNat

def delta (config : TagConfig) : Attribute → Nat
  | .temperature => config.reportTempDeltaCX100.toNat
  | .humidity => config.reportHumidityDeltaX100.toNat
  | .pressure => config.reportPressureDeltaPa.toNat
  | .battery => batteryDeltaPercent

/-- The value in the baseline. -/
def held (baseline : Baseline) : Attribute → Int
  | .temperature => baseline.temperature.toInt
  | .humidity => baseline.humidity.toNat
  | .pressure => baseline.pressure.toInt
  | .battery => baseline.batteryPercent.toNat

/-- The difference fits `long`. That of two temperatures, humidities or percentages always does. -/
def Fits (data : SensorData) (baseline : Baseline) (a : Attribute) : Prop :=
  (a.reading data - a.held baseline).natAbs < 2 ^ 31

instance (data : SensorData) (baseline : Baseline) (a : Attribute) :
    Decidable (a.Fits data baseline) := inferInstanceAs (Decidable (_ < _))

theorem valid_of_moved {data : SensorData} {status : TagStatus} {config : TagConfig}
    {baseline : Baseline} {a : Attribute} (h : Moved data status config baseline a.group) :
    data.valid &&& a.validBit ≠ 0 := by
  cases a <;> exact h.1

theorem toInt_labs {x : Int32} {n : Int} (hx : x.toInt = n) (h : n.natAbs < 2 ^ 31) :
    (labs x).toInt = n.natAbs := by
  have hlt : x < 0 ↔ n < 0 := by
    rw [Int32.lt_iff_toInt_lt, hx]
    exact Iff.rfl
  unfold labs
  split_ifs with hneg
  · rw [Int32.toInt_neg, hx, Int.bmod_eq_of_le (by omega) (by omega)]
    have := hlt.1 hneg
    omega
  · rw [hx]
    have := mt hlt.2 hneg
    omega

theorem pressureMoved_iff {data : SensorData} {config : TagConfig} {baseline : Baseline}
    (hfits : pressure.Fits data baseline) :
    PressureMoved data config baseline ↔
      pressure.delta config ≤ (pressure.reading data - pressure.held baseline).natAbs := by
  simp only [Fits, reading, held, delta] at hfits ⊢
  have hdelta : config.reportPressureDeltaPa.toUInt32.toInt32.toInt =
      config.reportPressureDeltaPa.toNat := by
    have hlt := config.reportPressureDeltaPa.toNat_lt
    have hnat : config.reportPressureDeltaPa.toUInt32.toInt32.toBitVec.toNat =
        config.reportPressureDeltaPa.toNat := UInt16.toNat_toUInt32 _
    rw [← hnat]
    exact BitVec.toInt_eq_toNat_of_lt (by omega)
  have hdiff : (data.pressurePa - baseline.pressure).toInt =
      data.pressurePa.toInt - baseline.pressure.toInt := by
    rw [Int32.toInt_sub, Int.bmod_eq_of_le (by omega) (by omega)]
  rw [PressureMoved, Int32.le_iff_toInt_le, hdelta, toInt_labs hdiff hfits, Int.ofNat_le]

theorem moved_group {data : SensorData} {baseline : Baseline} {a : Attribute}
    (hfits : a.Fits data baseline) (status : TagStatus) (config : TagConfig) :
    Moved data status config baseline a.group ↔
      data.valid &&& a.validBit ≠ 0 ∧
        a.delta config ≤ (a.reading data - a.held baseline).natAbs := by
  cases a with
  | temperature => exact Iff.rfl
  | humidity => exact Iff.rfl
  | pressure => exact and_congr Iff.rfl (pressureMoved_iff hfits)
  | battery => exact Iff.rfl

end Attribute

/-! ## What a commit does -/

section

variable (data : SensorData) (status : TagStatus) (baseline : Baseline)

theorem Attribute.held_commit (reported : UInt32) (a : Attribute) :
    a.held (zigbeeReportingCommit data status baseline reported) =
      if Includes reported a.group then a.reading data else a.held baseline := by
  unfold zigbeeReportingCommit
  by_cases hzero : reported = 0
  · rw [if_pos hzero, hzero, if_neg (not_includes_zero _)]
  · rw [if_neg hzero]
    cases a with
    | temperature =>
        simp only [Attribute.held, apply_ite Baseline.temperature, ite_self]
        exact apply_ite Int16.toInt _ _ _
    | humidity =>
        simp only [Attribute.held, apply_ite Baseline.humidity, ite_self]
        exact apply_ite (fun value : UInt16 => (value.toNat : Int)) _ _ _
    | pressure =>
        simp only [Attribute.held, apply_ite Baseline.pressure, ite_self]
        exact apply_ite Int32.toInt _ _ _
    | battery =>
        simp only [Attribute.held, apply_ite Baseline.batteryPercent, ite_self]
        exact apply_ite (fun value : UInt8 => (value.toNat : Int)) _ _ _

theorem valid_commit {reported : UInt32} (h : reported ≠ 0) :
    (zigbeeReportingCommit data status baseline reported).valid = true := by
  rw [zigbeeReportingCommit, if_neg h]

theorem lastReportTime_commit {reported : UInt32} (h : reported ≠ 0) :
    (zigbeeReportingCommit data status baseline reported).lastReportTime = data.timestamp := by
  rw [zigbeeReportingCommit, if_neg h]

end

end SmartTag
