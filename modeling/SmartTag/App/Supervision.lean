import SmartTag.App.AlarmLatch
import SmartTag.App.HourlySave
import SmartTag.App.LifetimeStatistics
import SmartTag.App.SampleViews
import SmartTag.App.TamperMirror
import SmartTag.Sensors.Validity

/-!
# Supervision of the sensors

Which sensors there are is found out once, when the tag boots: `sensor_manager_init` asks every
device whether it is ready, and notes what the samples are to bring from then on. A sample in
which a bit of that is clear raises the sensor fault, and the fault is counted when it comes up.

* `sensorManagerInit_eq`: what is expected and what is noted as broken, on either board.
* `processSample_faults`: what a sample does to the flag of the fault and to the count.
* `misses_iff_lacks`: when a clear bit stands for a reading that is missing.
* `sensor_faults_counted`: the count goes up once for each outage, whatever the drivers answer.
-/

namespace SmartTag

open Flags (Raised)

/-! ## What is expected -/

namespace Board

/-- What the samples are to bring, from what was ready at the start. The gyroscope is read only
while the tag moves, so nothing expects it. -/
def expected (adc : BatteryAdc) (channelSetup : Bool) : Board → Capability → Bool
  | .holyiot env _ _, .tempRh => env.ready
  | .holyiot _ baro _, .pressure => baro.ready
  | .holyiot _ _ accel, .accel => accel.ready
  | .nrf54l15tag env _ _, .tempRh => env.ready
  | .nrf54l15tag env _ _, .pressure => env.ready
  | .nrf54l15tag env _ _, .gas => env.ready
  | .nrf54l15tag _ accel _, .accel => accel.ready
  | _, .battery => adc.ready && channelSetup
  | _, _ => false

/-- What is noted as broken. A device of several quantities is noted under the first one, the
IMU and the flash under none. -/
def broken (adc : BatteryAdc) (channelSetup : Bool) : Board → Capability → Bool
  | .holyiot env _ _, .tempRh => !env.ready
  | .holyiot _ baro _, .pressure => !baro.ready
  | .holyiot _ _ accel, .accel => !accel.ready
  | .nrf54l15tag env _ _, .tempRh => !env.ready
  | .nrf54l15tag _ accel _, .accel => !accel.ready
  | _, .battery => !(adc.ready && channelSetup)
  | _, _ => false

end Board

/-- A device of no bit leaves the statics alone. -/
theorem sensorBoardDeviceReady_zero (ready : Bool) (init : SensorBoardInit) :
    sensorBoardDeviceReady ready 0 init = (ready, init) := by
  cases ready <;> simp [sensorBoardDeviceReady]

/-- **What the start finds out**, on either board. -/
theorem sensorManagerInit_eq (board : Board) (flash : Option Bool) (adc : BatteryAdc)
    (channelSetup : Bool) :
    (sensorManagerInit board flash adc channelSetup).2 =
      { expectedValid := validBits (board.expected adc channelSetup)
        initFaults := validBits (board.broken adc channelSetup) } := by
  unfold sensorManagerInit validBits
  cases board with
  | holyiot env baro accel =>
    cases flash <;>
      simp only [sensorBoardInit, Holyiot.sensorBoardInit, sensorBoardDeviceReady_zero] <;>
      by_cases henv : env.ready <;> by_cases hbaro : baro.ready <;>
      by_cases haccel : accel.ready <;> by_cases hadc : adc.ready <;> cases channelSetup <;>
      simp [sensorBoardDeviceReady, Board.expected, Board.broken, henv, hbaro, haccel, hadc] <;>
      decide
  | nrf54l15tag env accel imu =>
    simp only [sensorBoardInit, Nrf54l15tag.sensorBoardInit, sensorBoardDeviceReady_zero]
    by_cases henv : env.ready <;> by_cases haccel : accel.ready <;> by_cases hadc : adc.ready <;>
      cases channelSetup <;>
      simp [sensorBoardDeviceReady, Board.expected, Board.broken, henv, haccel, hadc] <;> decide

/-! ## What a sample lacks -/

theorem validBits_and_bit_eq (set : Capability → Bool) (capability : Capability) :
    validBits set &&& capability.bit = if set capability then capability.bit else 0 := by
  rw [validBits_and]
  simp only [bit_and_bit]
  cases capability <;> simp

/-- A bit is one bit. -/
theorem and_bit (valid : UInt8) (capability : Capability) :
    valid &&& capability.bit = 0 ∨ valid &&& capability.bit = capability.bit := by
  obtain ⟨⟨word⟩⟩ := valid
  revert word
  cases capability <;> decide +kernel

/-- The byte lacks a bit of the set exactly when it lacks one of its capabilities. -/
theorem and_validBits_ne_iff (valid : UInt8) (set : Capability → Bool) :
    valid &&& validBits set ≠ validBits set ↔
      ∃ capability, set capability = true ∧ ¬ valid &&& capability.bit ≠ 0 := by
  simp only [not_not]
  constructor
  · intro h
    by_contra hnone
    refine h ?_
    have hbit : ∀ capability : Capability,
        (if set capability then capability.bit &&& valid else 0) =
          if set capability then capability.bit else 0 := by
      intro capability
      split_ifs with hset
      · rw [UInt8.and_comm]
        exact (and_bit valid capability).resolve_left fun hzero => hnone ⟨capability, hset, hzero⟩
      · rfl
    rw [UInt8.and_comm, validBits_and]
    simp only [hbit]
    rfl
  · intro h heq
    obtain ⟨capability, hset, hzero⟩ := h
    have hbit : valid &&& validBits set &&& capability.bit = validBits set &&& capability.bit := by
      rw [heq]
    rw [UInt8.and_assoc, validBits_and_bit_eq, if_pos hset, hzero] at hbit
    cases capability <;> exact absurd hbit (by decide)

/-! ## A sample -/

/-- The fault is up. -/
def AppState.FaultUp (st : AppState) : Prop := Raised st.status.alarmFlags alarmSensorFault

instance (st : AppState) : Decidable st.FaultUp := inferInstanceAs (Decidable (Raised _ _))

/-- The fault tells whether the sample lacks something, and is counted when it comes up. -/
theorem applySample_faults (data : SensorData) (motion : MotionResult) (config : TagConfig)
    (expectedValid : UInt8) (st : AppState) :
    let after := applySample data motion config expectedValid st
    (after.FaultUp ↔ data.valid &&& expectedValid ≠ expectedValid) ∧
      after.statistics.sensorFaults = st.statistics.sensorFaults +
        UInt16.ofNat (if after.FaultUp ∧ ¬ st.FaultUp then 1 else 0) := by
  intro after
  let moved := applyMotionResult motion { st with lastSample := data }
  have hmoved : Raised moved.status.alarmFlags alarmSensorFault ↔ st.FaultUp :=
    raised_applyMotionResult (by decide) motion { st with lastSample := data }
  have hflags : after.status.alarmFlags =
      (appAlarmsEval data config expectedValid moved.status.alarmFlags).flags := by
    show (checkThresholds data config expectedValid moved).status.alarmFlags = _
    rw [checkThresholds_status]
  obtain ⟨-, -, hkept⟩ := applyMotionResult_frame motion { st with lastSample := data }
  obtain ⟨-, -, hcounted⟩ := checkThresholds_statistics_frame data config expectedValid moved
  constructor
  · rw [AppState.FaultUp, hflags]
    exact raised_sensorFault data _ expectedValid
  · have hraises : raisesFault data config expectedValid moved.status.alarmFlags ↔
        after.FaultUp ∧ ¬ st.FaultUp := by
      rw [← hmoved, AppState.FaultUp, hflags, raisesFault, Flags.and_eq_zero_iff]
      exact Iff.rfl
    have hcount : after.statistics.sensorFaults = moved.statistics.sensorFaults + UInt16.ofNat
        (if raisesFault data config expectedValid moved.status.alarmFlags then 1 else 0) := hcounted
    rw [hcount, if_congr hraises rfl rfl]
    exact congrArg (· + _) hkept

section

variable [Crc16]

/-- Neither the fault nor its count is the events' business. -/
theorem raiseBatch_faults (uptimeMs : Nat) (batch : List PendingEvent) (tag : Tag) :
    ((raiseBatch uptimeMs batch tag).2.app.FaultUp ↔ tag.app.FaultUp) ∧
      (raiseBatch uptimeMs batch tag).2.app.statistics.sensorFaults =
        tag.app.statistics.sensorFaults := by
  induction batch generalizing tag with
  | nil => exact ⟨Iff.rfl, rfl⟩
  | cons e batch ih =>
      rw [raiseBatch]
      exact ih _

theorem drained_faults (uptimeMs : Nat) (timestamp : UInt32) (tag : Tag) :
    let drained := flushIfDue timestamp (drainPendingEvents uptimeMs tag).2
    (drained.app.FaultUp ↔ tag.app.FaultUp) ∧
      drained.app.statistics.sensorFaults = tag.app.statistics.sensorFaults := by
  have hraised := raiseBatch_faults uptimeMs tag.app.pending
    { tag with app := { tag.app with pending := [] } }
  unfold flushIfDue
  split_ifs <;> exact hraised

theorem processSample_faults (uptimeMs : Nat) (data : SensorData) (expectedValid : UInt8)
    (device : Device) :
    let before := device.tag.app
    let after := (device.processSample uptimeMs data expectedValid).2.tag.app
    (after.FaultUp ↔ data.valid &&& expectedValid ≠ expectedValid) ∧
      after.statistics.sensorFaults = before.statistics.sensorFaults +
        UInt16.ofNat (if after.FaultUp ∧ ¬ before.FaultUp then 1 else 0) := by
  intro before after
  let moved := motionManagerProcess data device.motion
  obtain ⟨logged, happ, -, hcall⟩ := appProcessSensorData_eq uptimeMs moved.1.2 moved.1.1
    device.config expectedValid device.tag
  obtain ⟨hup, hcount⟩ :=
    applySample_faults moved.1.2 moved.1.1 device.config expectedValid device.tag.app
  rw [← happ, motionManagerProcess_valid] at hup
  rw [← happ] at hcount
  have hafter : after =
      (flushIfDue moved.1.2.timestamp (drainPendingEvents uptimeMs logged).2).app :=
    congrArg Tag.app hcall
  obtain ⟨hdrained, hkept⟩ := drained_faults uptimeMs moved.1.2.timestamp logged
  rw [← hafter] at hdrained hkept
  rw [if_congr (and_congr hdrained Iff.rfl) rfl rfl, hkept]
  exact ⟨hdrained.trans hup, hcount⟩

omit [Crc16] in
theorem appStateInit_faultUp (storage : ConfigStorage) :
    ¬ (appStateInit storage .atReset).FaultUp := by
  show ¬ Raised (0 : UInt16) alarmSensorFault
  decide

end

/-! ## A boot -/

namespace Capability

def all : List Capability := [.tempRh, .pressure, .accel, .battery, .gas, .gyro]

theorem mem_all (capability : Capability) : capability ∈ all := by
  cases capability <;> decide

end Capability

instance (r : Reads) : (capability : Capability) → Decidable (capability.Obtained r)
  | .tempRh => inferInstanceAs (Decidable (_ ∧ _))
  | .pressure | .accel | .battery | .gas | .gyro => inferInstanceAs (Decidable (_ = true))

theorem Capability.exists_iff {P : Capability → Prop} :
    (∃ capability ∈ all, P capability) ↔ ∃ capability, P capability :=
  ⟨fun ⟨capability, _, h⟩ => ⟨capability, h⟩, fun ⟨capability, h⟩ => ⟨capability, mem_all _, h⟩⟩

/-- A bit of what is expected is clear. -/
def SensorData.Misses (expected : Capability → Bool) (data : SensorData) : Prop :=
  ∃ capability, expected capability = true ∧ ¬ data.Valid capability

instance (expected : Capability → Bool) (data : SensorData) : Decidable (data.Misses expected) :=
  decidable_of_iff _ Capability.exists_iff

/-- A reading of what is expected was not obtained in this call. -/
def Board.Lacks (units : Units) (expected : Capability → Bool) (board : Board) (adc : BatteryAdc) :
    Prop :=
  ∃ capability, expected capability = true ∧ ¬ capability.Obtained (board.reads units adc)

instance (units : Units) (expected : Capability → Bool) (board : Board) (adc : BatteryAdc) :
    Decidable (board.Lacks units expected adc) :=
  decidable_of_iff _ Capability.exists_iff

/-- Temperature and humidity are got together, whenever their device is sampled. -/
def Board.GetsBoth (board : Board) : Prop :=
  board.env.Sampled →
    (board.env.channelGet .ambientTemp).isSome ∧ (board.env.channelGet .humidity).isSome

theorem Board.GetsBoth.sampled_iff {board : Board} (h : board.GetsBoth) (units : Units)
    (adc : BatteryAdc) :
    decide board.env.Sampled = true ↔
      (board.reads units adc).temperature.isSome ∧ (board.reads units adc).humidity.isSome := by
  have htemp : (board.reads units adc).temperature = board.env.read .ambientTemp := by
    cases board <;> rfl
  have hhumidity : (board.reads units adc).humidity = board.env.read .humidity := by
    cases board <;> rfl
  rw [decide_eq_true_iff, htemp, hhumidity, SensorDevice.read, SensorDevice.read]
  by_cases hsampled : board.env.Sampled
  · rw [if_pos hsampled, if_pos hsampled]
    exact iff_of_true hsampled (h hsampled)
  · rw [if_neg hsampled]
    exact iff_of_false hsampled fun hboth => absurd hboth.1 (by simp)

/-- A clear bit stands for a missing reading, unless only one of temperature and humidity failed. -/
theorem misses_iff_lacks (units : Units) (expected : Capability → Bool) {board : Board}
    (h : board.GetsBoth) (adc : BatteryAdc) (uptimeMs : Nat) :
    (sensorManagerRead units board adc uptimeMs).2.Misses expected ↔
      board.Lacks units expected adc := by
  rw [sensorManagerRead_eq]
  refine exists_congr fun capability => and_congr_right fun _ => not_congr ?_
  exact (valid_sample_iff capability).trans (obtained_iff_bits (h.sampled_iff units adc) capability)

/-- The call brings a sample. -/
def UptimeCall.samples : UptimeCall → Bool
  | .sample .. => true
  | .raise .. | .storeEpoch _ | .resetCounters | .flush | .configure _ => false

/-- What reaches the tag in a boot: a sample, with what the drivers answer in it, or a call that
takes none. -/
inductive SensorCall where
  | sample (uptimeMs : Nat) (board : Board) (adc : BatteryAdc)
  | other (call : UptimeCall) (quiet : call.samples = false)

namespace SensorCall

/-- Whether a bit of the sample is missing. -/
def misses (units : Units) (expected : Capability → Bool) : SensorCall → Option Bool
  | .sample uptimeMs board adc =>
    some (decide ((sensorManagerRead units board adc uptimeMs).2.Misses expected))
  | .other _ _ => none

/-- Whether a reading is missing. -/
def lacks (units : Units) (expected : Capability → Bool) : SensorCall → Option Bool
  | .sample _ board adc => some (decide (board.Lacks units expected adc))
  | .other _ _ => none

def GetsBoth : SensorCall → Prop
  | .sample _ board _ => board.GetsBoth
  | .other _ _ => True

theorem misses_eq_lacks (units : Units) (expected : Capability → Bool) {call : SensorCall}
    (h : call.GetsBoth) : call.misses units expected = call.lacks units expected := by
  cases call with
  | sample uptimeMs board adc =>
      exact congrArg some (decide_eq_decide.2 (misses_iff_lacks units expected h adc uptimeMs))
  | other call quiet => rfl

end SensorCall

/-- How often a state that is looked at again and again has come up. -/
def onsets : Bool → List Bool → Nat
  | _, [] => 0
  | up, now :: later => (if now = true ∧ ¬ up = true then 1 else 0) + onsets now later

example : onsets false [false, true, true, false, true] = 2 := rfl

namespace Uptime

section

variable [Crc16]

/-- One call, where the samples are supervised with `expectedValid`. -/
def supervised (units : Units) (expectedValid : UInt8) (u : Uptime) : SensorCall → Uptime
  | .sample uptimeMs board adc =>
    u.step (.sample uptimeMs (sensorManagerRead units board adc uptimeMs).2 expectedValid)
  | .other call _ => u.step call

def FaultUp (u : Uptime) : Prop := u.device.tag.app.FaultUp

instance (u : Uptime) : Decidable u.FaultUp := inferInstanceAs (Decidable (AppState.FaultUp _))

/-- Only samples touch the fault and its count. -/
theorem step_quiet (u : Uptime) {call : UptimeCall} (h : call.samples = false) :
    ((u.step call).FaultUp ↔ u.FaultUp) ∧
      (u.step call).statistics.sensorFaults = u.statistics.sensorFaults := by
  cases call with
  | sample uptimeMs data expectedValid => exact absurd h (by simp [UptimeCall.samples])
  | raise uptimeMs type severity value => exact ⟨Iff.rfl, rfl⟩
  | storeEpoch epoch => exact ⟨Iff.rfl, rfl⟩
  | resetCounters => exact ⟨Flags.raised_andNot_of_disjoint (by decide) _, rfl⟩
  | flush => exact ⟨Iff.rfl, rfl⟩
  | configure input =>
      have happ := appConfigSet_app input u.device
      exact ⟨iff_of_eq (congrArg AppState.FaultUp happ),
        congrArg (fun st => st.statistics.sensorFaults) happ⟩

theorem supervised_sample (units : Units) (expected : Capability → Bool) (u : Uptime)
    (uptimeMs : Nat) (board : Board) (adc : BatteryAdc) :
    let after := u.supervised units (validBits expected) (.sample uptimeMs board adc)
    (after.FaultUp ↔ (sensorManagerRead units board adc uptimeMs).2.Misses expected) ∧
      after.statistics.sensorFaults = u.statistics.sensorFaults +
        UInt16.ofNat (if after.FaultUp ∧ ¬ u.FaultUp then 1 else 0) := by
  intro after
  obtain ⟨hnow, hcount⟩ := processSample_faults uptimeMs
    (sensorManagerRead units board adc uptimeMs).2 (validBits expected) u.device
  exact ⟨hnow.trans (and_validBits_ne_iff _ _), hcount⟩

/-- From any state on, with `up` telling whether the fault is up. -/
theorem faults_final (units : Units) (expected : Capability → Bool) {u : Uptime} {up : Bool}
    (hup : u.FaultUp ↔ up = true) (calls : List SensorCall) :
    let after := Run.final (supervised units (validBits expected)) u calls
    let missed := calls.filterMap (SensorCall.misses units expected)
    (after.FaultUp ↔ missed.getLast?.getD up = true) ∧
      after.statistics.sensorFaults =
        u.statistics.sensorFaults + UInt16.ofNat (onsets up missed) := by
  induction calls generalizing u up with
  | nil => exact ⟨hup, (UInt16.add_zero _).symm⟩
  | cons call calls ih =>
      cases call with
      | sample uptimeMs board adc =>
          obtain ⟨hnow, hcount⟩ := u.supervised_sample units expected uptimeMs board adc
          rw [Run.final_cons]
          generalize u.supervised units (validBits expected) (.sample uptimeMs board adc) = after
            at hnow hcount
          have hnow := hnow.trans (decide_eq_true_iff
            (p := (sensorManagerRead units board adc uptimeMs).2.Misses expected)).symm
          obtain ⟨hlater, hlaterCount⟩ := ih hnow
          rw [hcount, if_congr (and_congr hnow hup.not) rfl rfl, UInt16.add_assoc,
            ← UInt16.ofNat_add] at hlaterCount
          refine ⟨?_, hlaterCount⟩
          dsimp only [List.filterMap_cons, SensorCall.misses]
          rw [List.getLast?_cons]
          exact hlater
      | other call quiet =>
          obtain ⟨hkept, hcount⟩ := u.step_quiet quiet
          rw [Run.final_cons, supervised]
          generalize u.step call = after at hkept hcount
          obtain ⟨hlater, hlaterCount⟩ := ih (hkept.trans hup)
          rw [hcount] at hlaterCount
          exact ⟨hlater, hlaterCount⟩

/-- **The faults are the outages**: from the start of a boot on, whatever the drivers answer in each
sample and whatever is called between the samples, the fault is up exactly while the last sample
misses a bit of what the sensors were found fit for, and it has been counted, modulo the width of
the counter, once for each time it came up. As long as temperature and humidity are got together, a
bit is missing exactly when a reading is. -/
theorem sensor_faults_counted (units : Units) (board : Board) (flash : Option Bool)
    (adc : BatteryAdc) (channelSetup : Bool) (readOk : SettingsKey → Bool) (tag : Tag)
    (calls : List SensorCall) :
    let init := (sensorManagerInit board flash adc channelSetup).2
    let expected := board.expected adc channelSetup
    let start := boot readOk tag
    let u := Run.final (supervised units init.expectedValid) start calls
    let missed := calls.filterMap (SensorCall.misses units expected)
    (u.FaultUp ↔ missed.getLast? = some true) ∧
      u.statistics.sensorFaults =
        start.statistics.sensorFaults + UInt16.ofNat (onsets false missed) ∧
      ((∀ call ∈ calls, call.GetsBoth) →
        missed = calls.filterMap (SensorCall.lacks units expected)) := by
  intro init expected start u missed
  have hstart : start.FaultUp ↔ false = true := iff_of_false (appStateInit_faultUp _) nofun
  obtain ⟨hup, hcount⟩ := faults_final units expected hstart calls
  have hinit : init.expectedValid = validBits expected := by
    rw [show init = _ from sensorManagerInit_eq board flash adc channelSetup]
  rw [← hinit] at hup hcount
  refine ⟨hup.trans ?_, hcount, fun hboth => ?_⟩
  · show missed.getLast?.getD false = true ↔ _
    cases missed.getLast? <;> simp
  · exact List.filterMap_congr fun call hcall =>
      SensorCall.misses_eq_lacks units expected (hboth call hcall)

end

end Uptime

end SmartTag
