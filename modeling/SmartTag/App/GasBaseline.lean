import SmartTag.App.AlarmLatch
import SmartTag.App.ConfigWrite
import SmartTag.App.EventQueue

/-!
# Gas baseline

The snapshot of the gas baseline sets the alarm floor to 70 % of the last reading. The product
that is divided by 100 has 32 bits, so the percentage is the true one as long as it fits; a larger
baseline gives a floor that is off by at least 42 MOhm.

* `gas_snapshot_floor_iff`: when the snapshot sets the true floor and the alarm follows it.
-/

namespace SmartTag

open Flags

/-! ## The gas alarm -/

/-- The gas alarm after an evaluation of a gas reading that finds it down. -/
theorem raised_gasLow_appAlarmsEval {data : SensorData} {flags : UInt16}
    (hvalid : data.valid &&& sensorValidGas ≠ 0) (hdown : ¬ Raised flags alarmGasLow)
    (config : TagConfig) (expectedValid : UInt8) :
    Raised (appAlarmsEval data config expectedValid flags).flags alarmGasLow ↔
      data.gasResistanceOhm < config.gasLowThresholdOhm := by
  let tempRh := evalTempRh data config { flags := flags, events := [] }
  have hlater : Raised (appAlarmsEval data config expectedValid flags).flags alarmGasLow ↔
      Raised (evalGas data config tempRh).flags alarmGasLow :=
    (raised_evalSensorFault data _ expectedValid (by decide)).trans
      (raised_evalBattery data config _ (by decide))
  have hbefore : ¬ Raised tempRh.flags alarmGasLow := by
    rwa [raised_evalTempRh data config _ (by decide)]
  rw [hlater, evalGas]
  split_ifs with hoff hlow
  · have hzero : config.gasLowThresholdOhm = 0 := hoff.resolve_left hvalid
    rw [hzero]
    exact iff_of_false hbefore (by simp)
  · exact iff_of_true (AlarmEval.raised_trip (by decide) tempRh _) hlow
  · exact iff_of_false (AlarmEval.not_raised_clear (by decide) tempRh) hlow

/-! ## The floor -/

/-- 70 % of a resistance, rounded down. -/
def seventyPercent (ohm : UInt32) : Nat := 70 * ohm.toNat / 100

/-- What the snapshot of a resistance makes of a configuration: the floor is 70 % of it and at
least 1, nothing else is changed, and the alarm, where it is down, stays down for the resistance
itself and goes up for every reading below 70 % of it. -/
structure TrueFloor (ohm : UInt32) (before after : TagConfig) : Prop where
  floor : after.gasLowThresholdOhm.toNat = max 1 (seventyPercent ohm)
  rest : after = { before with gasLowThresholdOhm := after.gasLowThresholdOhm }
  silent :
    ∀ (data : SensorData) (expectedValid : UInt8) (flags : UInt16),
      data.valid &&& sensorValidGas ≠ 0 → data.gasResistanceOhm = ohm →
      ¬ Raised flags alarmGasLow →
      ¬ Raised (appAlarmsEval data after expectedValid flags).flags alarmGasLow
  alarms :
    ∀ (data : SensorData) (expectedValid : UInt8) (flags : UInt16),
      data.valid &&& sensorValidGas ≠ 0 → data.gasResistanceOhm.toNat < seventyPercent ohm →
      ¬ Raised flags alarmGasLow →
      Raised (appAlarmsEval data after expectedValid flags).flags alarmGasLow

/-- The floor on numbers, with the product cut to 32 bits. -/
theorem toNat_snapshotFloor (sample : SensorData) :
    (snapshotFloor sample).toNat =
      max 1 (sample.gasResistanceOhm.toNat * 70 % 2 ^ 32 / 100) := by
  have hfloor : (smartTagGasAlarmFloor sample.gasResistanceOhm).toNat =
      sample.gasResistanceOhm.toNat * 70 % 2 ^ 32 / 100 := rfl
  unfold snapshotFloor
  dsimp only
  split_ifs with hzero
  · rw [hzero] at hfloor
    rw [← hfloor]
    rfl
  · have hpos : (smartTagGasAlarmFloor sample.gasResistanceOhm).toNat ≠ 0 :=
      fun h => hzero (UInt32.toNat_inj.mp h)
    rw [← hfloor]
    omega

/-- A product that does not fit leaves a floor that is too low. -/
theorem toNat_snapshotFloor_iff (sample : SensorData) :
    (snapshotFloor sample).toNat = max 1 (seventyPercent sample.gasResistanceOhm) ↔
      70 * sample.gasResistanceOhm.toNat < 2 ^ 32 := by
  have hlt := sample.gasResistanceOhm.toNat_lt
  rw [toNat_snapshotFloor, seventyPercent]
  constructor
  · intro h
    omega
  · intro h
    rw [Nat.mul_comm, Nat.mod_eq_of_lt h]

theorem trueFloor_iff {ohm : UInt32} {before after : TagConfig} (hne : ohm ≠ 0)
    (hrest : after = { before with gasLowThresholdOhm := after.gasLowThresholdOhm }) :
    TrueFloor ohm before after ↔
      after.gasLowThresholdOhm.toNat = max 1 (seventyPercent ohm) := by
  refine ⟨fun h => h.floor, fun hfloor => ⟨hfloor, hrest, ?_, ?_⟩⟩
  · intro data expectedValid flags hvalid hohm hdown
    have hpos : 0 < ohm.toNat := Nat.pos_of_ne_zero fun h => hne (UInt32.toNat_inj.mp h)
    have hle : seventyPercent ohm ≤ ohm.toNat := by
      unfold seventyPercent
      omega
    rw [raised_gasLow_appAlarmsEval hvalid hdown, hohm, UInt32.lt_iff_toNat_lt, hfloor]
    omega
  · intro data expectedValid flags hvalid hbelow hdown
    rw [raised_gasLow_appAlarmsEval hvalid hdown, UInt32.lt_iff_toNat_lt, hfloor]
    omega

/-! ## The snapshot -/

/-- What a snapshot that succeeds leaves as the configuration. -/
theorem config_appStateSnapshotGasBaseline [Crc16] {uptimeMs : Nat} {device : Device}
    (h : (appStateSnapshotGasBaseline uptimeMs device).1 = 0) :
    device.tag.app.lastSample.gasResistanceOhm ≠ 0 ∧
      (appStateSnapshotGasBaseline uptimeMs device).2.config =
        { device.config with
          gasLowThresholdOhm := snapshotFloor device.tag.app.lastSample } := by
  unfold appStateSnapshotGasBaseline at h ⊢
  dsimp only at h ⊢
  split_ifs at h ⊢ with hrefused
  · exact absurd h (show -ENOTSUP ≠ 0 by decide)
  refine ⟨fun hzero => hrefused (.inr hzero), ?_⟩
  let config : TagConfig :=
    { appConfigGet device with
      gasLowThresholdOhm := snapshotFloor device.tag.app.lastSample }
  obtain ⟨hcopies, herr⟩ := ConfigWrite.setAndAnnounce_copies uptimeMs config device
  have hvalid : appConfigValidate config = true := by
    by_contra hinvalid
    rw [appConfigSet_rejected (by simpa using hinvalid)] at herr
    have hzero : -EINVAL = 0 := herr.symm.trans h
    exact absurd hzero (by decide)
  have hset := (copies_appConfigSet hvalid device).1
  exact congrArg Copies.config (hcopies.trans hset)

/-- **When a snapshot sets the true floor**: exactly when 70 times the resistance fits 32 bits. -/
theorem gas_snapshot_floor_iff [Crc16] (uptimeMs : Nat) (device : Device)
    (h : (appStateSnapshotGasBaseline uptimeMs device).1 = 0) :
    TrueFloor device.tag.app.lastSample.gasResistanceOhm device.config
        (appStateSnapshotGasBaseline uptimeMs device).2.config ↔
      70 * device.tag.app.lastSample.gasResistanceOhm.toNat < 2 ^ 32 := by
  obtain ⟨hne, hconfig⟩ := config_appStateSnapshotGasBaseline h
  rw [hconfig, trueFloor_iff hne rfl]
  exact toNat_snapshotFloor_iff device.tag.app.lastSample

/-- A new tag after a sample with this gas reading. -/
def gasDevice (ohm : UInt32) : Device :=
  (newDevice.processSample 1000
    { AppState.atReset.lastSample with
      timestamp := 1
      valid := sensorValidGas
      gasResistanceOhm := ohm } 0).2

/-- Clean air at 100 kOhm. -/
theorem gas_snapshot_floor_100k :
    (appStateSnapshotGasBaseline 2000 (gasDevice 100000)).1 = 0 ∧
      (appStateSnapshotGasBaseline 2000 (gasDevice 100000)).2.config.gasLowThresholdOhm = 70000 ∧
      TrueFloor (gasDevice 100000).tag.app.lastSample.gasResistanceOhm (gasDevice 100000).config
        (appStateSnapshotGasBaseline 2000 (gasDevice 100000)).2.config := by
  have hdone : (appStateSnapshotGasBaseline 2000 (gasDevice 100000)).1 = 0 := by decide +kernel
  refine ⟨hdone, by decide +kernel, ?_⟩
  exact (gas_snapshot_floor_iff 2000 (gasDevice 100000) hdone).mpr (by decide +kernel)

/-- The first resistance whose product does not fit: the floor becomes 1 ohm. -/
theorem gas_snapshot_floor_wraps :
    (appStateSnapshotGasBaseline 2000 (gasDevice 61356676)).1 = 0 ∧
      (appStateSnapshotGasBaseline 2000 (gasDevice 61356676)).2.config.gasLowThresholdOhm = 1 ∧
      ¬ TrueFloor (gasDevice 61356676).tag.app.lastSample.gasResistanceOhm
        (gasDevice 61356676).config
        (appStateSnapshotGasBaseline 2000 (gasDevice 61356676)).2.config := by
  refine ⟨by decide +kernel, by decide +kernel, ?_⟩
  intro h
  exact absurd h.floor (by decide +kernel)

end SmartTag
