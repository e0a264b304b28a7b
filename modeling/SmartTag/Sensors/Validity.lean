import SmartTag.Lib.Flags
import SmartTag.Sensors.SensorManager

/-!
# What a validity bit vouches for

The reads of one call that succeed, on either board, and the sample they make up: every field that
was read holds its converted reading and all the others are zero. Each bit then stands for the
reads of its own fields, with one exception: temperature and humidity share a bit that is set as
soon as their device was sampled.

* `sensorManagerRead_eq`: the sample is that of the reads.
* `sensorManagerRead_vouched_iff`: when every validity bit vouches for its fields.
-/

namespace SmartTag

/-! ## The reads of a call -/

/-- The reads of one call that succeed. -/
structure Reads where
  temperature : Option SensorValue
  humidity : Option SensorValue
  pressure : Option SensorValue
  gas : Option SensorValue
  battery : Option (UInt16 × UInt8)
  accel : Option (Axis → SensorValue)
  gyro : Option (Axis → SensorValue)

namespace SensorDevice

/-- A channel of a device that was sampled. -/
def read (device : SensorDevice) (channel : SensorChannel) : Option SensorValue :=
  if device.Sampled then device.channelGet channel else none

def readAxes (device : SensorDevice) (channel : SensorChannel) : Option (Axis → SensorValue) :=
  if device.Sampled then device.axesGet channel else none

end SensorDevice

/-- The magnitude stored for a reading of the accelerometer. -/
def storedMagnitudeMg (units : Units) (axes : Axis → SensorValue) : UInt16 :=
  (sensorBoardApplyAccel units axes SensorData.zero).magnitudeMg

/-- The acceleration deviates from 1 g enough for the gyroscope to be read. -/
def ImuActive (units : Units) (axes : Axis → SensorValue) : Prop :=
  Nrf54l15tag.imuActiveDeviationMg ≤
    ((storedMagnitudeMg units axes).toNat - smartTagOneGMg : Int).natAbs

instance (units : Units) (axes : Axis → SensorValue) : Decidable (ImuActive units axes) :=
  inferInstanceAs (Decidable (_ ≤ _))

namespace Board

/-- The device of temperature and humidity. -/
def env : Board → SensorDevice
  | .holyiot env _ _ => env
  | .nrf54l15tag env _ _ => env

/-- Holyiot has a barometer of its own and neither gas sensor nor gyroscope; the other board's
gyroscope is read only after a reading of the accelerometer that shows it moving. -/
def reads (units : Units) (adc : BatteryAdc) : Board → Reads
  | .holyiot env baro accel =>
    { temperature := env.read .ambientTemp
      humidity := env.read .humidity
      pressure := baro.read .press
      gas := none
      battery := sensorManagerReadBattery adc
      accel := accel.readAxes .accelXyz
      gyro := none }
  | .nrf54l15tag env accel imu =>
    { temperature := env.read .ambientTemp
      humidity := env.read .humidity
      pressure := env.read .press
      gas := env.read .gasRes
      battery := sensorManagerReadBattery adc
      accel := accel.readAxes .accelXyz
      gyro :=
        (accel.readAxes .accelXyz).bind fun axes =>
          if ImuActive units axes then imu.readAxes .gyroXyz else none }

end Board

/-! ## The sample they make up -/

/-- What a validity bit stands for. -/
inductive Capability where
  | tempRh | pressure | accel | battery | gas | gyro
deriving DecidableEq, Repr

def Capability.bit : Capability → UInt8
  | .tempRh => sensorValidTempRh
  | .pressure => sensorValidPressure
  | .accel => sensorValidAccel
  | .battery => sensorValidBattery
  | .gas => sensorValidGas
  | .gyro => sensorValidGyro

/-- The bits of the capabilities in the set. -/
def validBits (set : Capability → Bool) : UInt8 :=
  (if set .tempRh then sensorValidTempRh else 0) |||
    (if set .pressure then sensorValidPressure else 0) |||
    (if set .accel then sensorValidAccel else 0) |||
    (if set .battery then sensorValidBattery else 0) |||
    (if set .gas then sensorValidGas else 0) |||
    (if set .gyro then sensorValidGyro else 0)

theorem bit_and_bit (a b : Capability) : a.bit &&& b.bit = if a = b then b.bit else 0 := by
  cases a <;> cases b <;> decide

theorem bit_and_flags (a : Capability) : a.bit &&& (sensorFlagMoving ||| sensorFlagAlarm) = 0 := by
  cases a <;> decide

theorem validBits_and (set : Capability → Bool) (mask : UInt8) :
    validBits set &&& mask =
      (if set .tempRh then Capability.bit .tempRh &&& mask else 0) |||
        (if set .pressure then Capability.bit .pressure &&& mask else 0) |||
        (if set .accel then Capability.bit .accel &&& mask else 0) |||
        (if set .battery then Capability.bit .battery &&& mask else 0) |||
        (if set .gas then Capability.bit .gas &&& mask else 0) |||
        (if set .gyro then Capability.bit .gyro &&& mask else 0) := by
  simp only [validBits, Flags.uint8_or_and]
  simp only [apply_ite (· &&& mask), UInt8.zero_and]
  rfl

theorem validBits_and_bit (set : Capability → Bool) (capability : Capability) :
    validBits set &&& capability.bit ≠ 0 ↔ set capability = true := by
  have hbit : capability.bit ≠ 0 := by
    cases capability <;> decide
  have hmasked : validBits set &&& capability.bit =
      if set capability then capability.bit else 0 := by
    rw [validBits_and]
    simp only [bit_and_bit]
    cases capability <;> simp
  rw [hmasked]
  split_ifs with hset <;> simp [hset, hbit]

theorem validBits_and_flags (set : Capability → Bool) :
    validBits set &&& (sensorFlagMoving ||| sensorFlagAlarm) = 0 := by
  rw [validBits_and]
  simp only [bit_and_flags, ite_self, UInt8.or_self]

/-- The bits the call sets. `tempRh` is the one of temperature and humidity. -/
def Reads.bits (tempRh : Bool) (r : Reads) : Capability → Bool
  | .tempRh => tempRh
  | .pressure => r.pressure.isSome
  | .accel => r.accel.isSome
  | .battery => r.battery.isSome
  | .gas => r.gas.isSome
  | .gyro => r.gyro.isSome

/-- The zeroed sample with the reads in it. -/
def Reads.sample (units : Units) (timestamp : UInt32) (tempRh : Bool) (r : Reads) : SensorData where
  timestamp := timestamp
  temperatureCX100 := (r.temperature.map units.celsiusX100).getD 0
  humidityX100 := (r.humidity.map units.percentX100).getD 0
  pressurePa := (r.pressure.map units.pascal).getD 0
  batteryMv := (r.battery.map Prod.fst).getD 0
  batteryPercent := (r.battery.map Prod.snd).getD 0
  accelXMg := (r.accel.map fun axes => units.milliG (axes .x)).getD 0
  accelYMg := (r.accel.map fun axes => units.milliG (axes .y)).getD 0
  accelZMg := (r.accel.map fun axes => units.milliG (axes .z)).getD 0
  magnitudeMg := (r.accel.map (storedMagnitudeMg units)).getD 0
  motion := false
  freeFall := false
  shock := false
  orientation := 0
  valid := validBits (r.bits tempRh)
  gasResistanceOhm := (r.gas.map fun value => value.val1.toUInt32).getD 0
  gyroXDpsX10 := (r.gyro.map fun axes => units.dpsX10 (axes .x)).getD 0
  gyroYDpsX10 := (r.gyro.map fun axes => units.dpsX10 (axes .y)).getD 0
  gyroZDpsX10 := (r.gyro.map fun axes => units.dpsX10 (axes .z)).getD 0

/-- The reads before any is made. -/
def Reads.nothing : Reads where
  temperature := none
  humidity := none
  pressure := none
  gas := none
  battery := none
  accel := none
  gyro := none

theorem sample_nothing (units : Units) (timestamp : UInt32) :
    Reads.nothing.sample units timestamp false =
      { SensorData.zero with
        timestamp := timestamp } := rfl

/-! Each step of the call adds its reads to the sample. -/

section

variable (units : Units) (timestamp : UInt32) (device : SensorDevice) {tempRh : Bool} {r : Reads}

theorem readTempRh_sample (htemp : r.temperature = none) (hhumidity : r.humidity = none) :
    readTempRh units device (r.sample units timestamp false) =
      { r with
        temperature := device.channelGet .ambientTemp
        humidity := device.channelGet .humidity }.sample units timestamp true := by
  unfold readTempRh
  cases device.channelGet .ambientTemp <;> cases device.channelGet .humidity <;>
    simp [Reads.sample, Reads.bits, validBits, htemp, hhumidity] <;> ac_rfl

theorem readPressure_sample (h : r.pressure = none) :
    readPressure units device (r.sample units timestamp tempRh) =
      { r with
        pressure := device.channelGet .press }.sample units timestamp tempRh := by
  unfold readPressure
  cases device.channelGet .press with
  | none =>
    dsimp only
    rw [← h]
  | some value =>
    simp [Reads.sample, Reads.bits, validBits, h]
    ac_rfl

theorem readGas_sample (h : r.gas = none) :
    readGas device (r.sample units timestamp tempRh) =
      { r with
        gas := device.channelGet .gasRes }.sample units timestamp tempRh := by
  unfold readGas
  cases device.channelGet .gasRes with
  | none =>
    dsimp only
    rw [← h]
  | some value =>
    simp [Reads.sample, Reads.bits, validBits, h]
    ac_rfl

theorem sensorBoardApplyAccel_sample (axes : Axis → SensorValue) (h : r.accel = none) :
    sensorBoardApplyAccel units axes (r.sample units timestamp tempRh) =
      { r with
        accel := some axes }.sample units timestamp tempRh := by
  simp [sensorBoardApplyAccel, Reads.sample, Reads.bits, validBits, h, storedMagnitudeMg]
  ac_rfl

theorem readAccel_sample (h : r.accel = none) :
    readAccel units device (r.sample units timestamp tempRh) =
      (device.readAxes .accelXyz).map fun axes =>
        { r with
          accel := some axes }.sample units timestamp tempRh := by
  unfold readAccel SensorDevice.readAxes
  by_cases hsampled : device.Sampled
  · simp [hsampled, sensorBoardApplyAccel_sample units timestamp _ h]
  · simp [hsampled]

theorem readGyro_sample (h : r.gyro = none) :
    readGyro units device (r.sample units timestamp tempRh) =
      { r with
        gyro := device.axesGet .gyroXyz }.sample units timestamp tempRh := by
  unfold readGyro
  cases device.axesGet .gyroXyz with
  | none =>
    dsimp only
    rw [← h]
  | some axes =>
    simp [Reads.sample, Reads.bits, validBits, h]
    ac_rfl

end

/-! ## The call -/

section

variable (units : Units) (timestamp : UInt32) (board : Board) (adc : BatteryAdc)

theorem environment_sample :
    (sensorBoardReadEnvironment units board (Reads.nothing.sample units timestamp false)).2 =
      { board.reads units adc with
        battery := none
        accel := none
        gyro := none }.sample units timestamp (decide board.env.Sampled) := by
  cases board with
  | holyiot env baro accel =>
    unfold sensorBoardReadEnvironment Holyiot.sensorBoardReadEnvironment
    dsimp only [Board.env, Board.reads, SensorDevice.read]
    by_cases henv : env.Sampled <;> by_cases hbaro : baro.Sampled <;>
      simp only [henv, hbaro, if_true, if_false, decide_true, decide_false]
    · rw [readTempRh_sample units timestamp env rfl rfl, readPressure_sample _ _ _ rfl]
      rfl
    · rw [readTempRh_sample units timestamp env rfl rfl]
      rfl
    · rw [readPressure_sample _ _ _ rfl]
      rfl
    · rfl
  | nrf54l15tag env accel imu =>
    unfold sensorBoardReadEnvironment Nrf54l15tag.sensorBoardReadEnvironment
    dsimp only [Board.env, Board.reads, SensorDevice.read]
    by_cases henv : env.Sampled <;>
      simp only [henv, if_true, if_false, not_true, not_false_eq_true, decide_true, decide_false]
    · rw [readTempRh_sample units timestamp env rfl rfl, readPressure_sample _ _ _ rfl,
        readGas_sample _ _ _ rfl]
      rfl
    · rfl

theorem battery_sample {tempRh : Bool} {r : Reads} (h : r.battery = none) (millivolts : UInt16)
    (percent : UInt8) :
    { r.sample units timestamp tempRh with
      batteryMv := millivolts
      batteryPercent := percent
      valid := (r.sample units timestamp tempRh).valid ||| sensorValidBattery } =
      { r with
        battery := some (millivolts, percent) }.sample units timestamp tempRh := by
  simp [Reads.sample, Reads.bits, validBits, h]
  ac_rfl

theorem Reads.with_none {r : Reads} (haccel : r.accel = none) (hgyro : r.gyro = none) :
    { r with
      accel := none
      gyro := none } = r := by
  cases r
  simp_all

/-- The gyroscope is read after a reading of the accelerometer that deviates enough. -/
theorem imu_sample {tempRh : Bool} {r : Reads} (hgyro : r.gyro = none) (imu : SensorDevice)
    (axes : Axis → SensorValue) :
    let data := { r with
      accel := some axes }.sample units timestamp tempRh
    (if (motionClassifierDeviation data).natAbs < Nrf54l15tag.imuActiveDeviationMg then
        ((0 : Int), data)
      else if imu.Sampled then (0, readGyro units imu data)
      else (0, data)).2 =
      { r with
        accel := some axes
        gyro := if ImuActive units axes then imu.readAxes .gyroXyz else none }.sample
          units timestamp tempRh := by
  intro data
  have hactive : (motionClassifierDeviation data).natAbs < Nrf54l15tag.imuActiveDeviationMg ↔
      ¬ ImuActive units axes := Nat.not_le.symm
  by_cases himu : ImuActive units axes
  · rw [if_neg (by rw [hactive]; exact not_not.mpr himu), if_pos himu]
    unfold SensorDevice.readAxes
    by_cases hsampled : imu.Sampled
    · rw [if_pos hsampled, if_pos hsampled]
      exact readGyro_sample (r := { r with accel := some axes }) units timestamp imu hgyro
    · rw [if_neg hsampled, if_neg hsampled, ← hgyro]
  · rw [if_pos (hactive.mpr himu), if_neg himu, ← hgyro]

theorem motion_sample {tempRh : Bool} {r : Reads} (haccel : r.accel = none)
    (hgyro : r.gyro = none) :
    (sensorBoardReadMotion units board (r.sample units timestamp tempRh)).2 =
      { r with
        accel := (board.reads units adc).accel
        gyro := (board.reads units adc).gyro }.sample units timestamp tempRh := by
  have hnone := congrArg (Reads.sample units timestamp tempRh) (Reads.with_none haccel hgyro)
  cases board with
  | holyiot env baro accel =>
    unfold sensorBoardReadMotion Holyiot.sensorBoardReadMotion
    dsimp only [Board.reads]
    rw [readAccel_sample units timestamp accel haccel]
    cases accel.readAxes .accelXyz with
    | none => exact hnone.symm
    | some axes =>
      rw [← hgyro]
      rfl
  | nrf54l15tag env accel imu =>
    unfold sensorBoardReadMotion Nrf54l15tag.sensorBoardReadMotion
    dsimp only [Board.reads]
    rw [readAccel_sample units timestamp accel haccel]
    cases accel.readAxes .accelXyz with
    | none => exact hnone.symm
    | some axes => exact imu_sample units timestamp hgyro imu axes

end

/-- **The sample is that of the reads that succeed.** -/
theorem sensorManagerRead_eq (units : Units) (board : Board) (adc : BatteryAdc) (uptimeMs : Nat) :
    (sensorManagerRead units board adc uptimeMs).2 =
      (board.reads units adc).sample units (UInt32.ofNat (uptimeMs / 1000))
        (decide board.env.Sampled) := by
  have hbattery : (board.reads units adc).battery = sensorManagerReadBattery adc := by
    cases board <;> rfl
  unfold sensorManagerRead sensorManagerReadMotion sensorManagerReadEnvironment
  rw [← sample_nothing units]
  dsimp only
  rw [environment_sample units _ board adc]
  cases hread : sensorManagerReadBattery adc with
  | none =>
    dsimp only
    rw [motion_sample units _ board adc rfl rfl, ← hread, ← hbattery]
  | some reading =>
    dsimp only
    rw [battery_sample _ _ rfl, motion_sample units _ board adc rfl rfl]
    rw [hread] at hbattery
    rw [← hbattery]

/-! ## What the bits say -/

/-- The bit is set. -/
def SensorData.Valid (data : SensorData) (capability : Capability) : Prop :=
  data.valid &&& capability.bit ≠ 0

instance (data : SensorData) (capability : Capability) : Decidable (data.Valid capability) :=
  inferInstanceAs (Decidable (_ ≠ _))

namespace Capability

/-- Every field of the capability was obtained from a successful read. -/
def Obtained (r : Reads) : Capability → Prop
  | tempRh => r.temperature.isSome ∧ r.humidity.isSome
  | pressure => r.pressure.isSome
  | accel => r.accel.isSome
  | battery => r.battery.isSome
  | gas => r.gas.isSome
  | gyro => r.gyro.isSome

/-- The fields of the capability hold the converted readings. -/
def Holds (units : Units) (r : Reads) (data : SensorData) : Capability → Prop
  | tempRh =>
    r.temperature.map units.celsiusX100 = some data.temperatureCX100 ∧
      r.humidity.map units.percentX100 = some data.humidityX100
  | pressure => r.pressure.map units.pascal = some data.pressurePa
  | accel =>
    ∃ axes, r.accel = some axes ∧ (∀ axis : Axis, axis.reading data = units.milliG (axes axis)) ∧
      ExactMagnitude data
  | battery => r.battery = some (data.batteryMv, data.batteryPercent)
  | gas => r.gas.map (fun value => value.val1.toUInt32) = some data.gasResistanceOhm
  | gyro =>
    ∃ axes, r.gyro = some axes ∧ data.gyroXDpsX10 = units.dpsX10 (axes .x) ∧
      data.gyroYDpsX10 = units.dpsX10 (axes .y) ∧ data.gyroZDpsX10 = units.dpsX10 (axes .z)

/-- The fields of the capability are zero. -/
def Zero (data : SensorData) : Capability → Prop
  | tempRh => data.temperatureCX100 = 0 ∧ data.humidityX100 = 0
  | pressure => data.pressurePa = 0
  | accel => (∀ axis : Axis, axis.reading data = 0) ∧ data.magnitudeMg = 0
  | battery => data.batteryMv = 0 ∧ data.batteryPercent = 0
  | gas => data.gasResistanceOhm = 0
  | gyro => data.gyroXDpsX10 = 0 ∧ data.gyroYDpsX10 = 0 ∧ data.gyroZDpsX10 = 0

end Capability

/-- Every bit vouches for its fields: it is set exactly when they were all obtained, whatever
happened to the other reads, and then they hold what was read; the fields of a clear bit and
those of no bit are zero. -/
structure Vouched (units : Units) (r : Reads) (data : SensorData) : Prop where
  valid_iff : ∀ capability : Capability, data.Valid capability ↔ capability.Obtained r
  holds : ∀ capability : Capability, data.Valid capability → capability.Holds units r data
  zero : ∀ capability : Capability, ¬ data.Valid capability → capability.Zero data
  rest :
    data.motion = false ∧ data.freeFall = false ∧ data.shock = false ∧ data.orientation = 0 ∧
      data.valid &&& (sensorFlagMoving ||| sensorFlagAlarm) = 0

section

variable {units : Units} {timestamp : UInt32} {tempRh : Bool} {r : Reads}

theorem valid_sample_iff (capability : Capability) :
    (r.sample units timestamp tempRh).Valid capability ↔ r.bits tempRh capability = true :=
  validBits_and_bit (r.bits tempRh) capability

theorem obtained_iff_bits (h : tempRh = true ↔ r.temperature.isSome ∧ r.humidity.isSome)
    (capability : Capability) : r.bits tempRh capability = true ↔ capability.Obtained r := by
  cases capability with
  | tempRh => exact h
  | _ => exact Iff.rfl

/-- What was obtained is what the sample holds. -/
theorem holds_sample {capability : Capability} (h : capability.Obtained r) :
    capability.Holds units r (r.sample units timestamp tempRh) := by
  cases capability with
  | tempRh =>
    obtain ⟨htemp, hhumidity⟩ := h
    obtain ⟨temp, htemp⟩ := Option.isSome_iff_exists.mp htemp
    obtain ⟨humidity, hhumidity⟩ := Option.isSome_iff_exists.mp hhumidity
    simp [Capability.Holds, Reads.sample, htemp, hhumidity]
  | pressure =>
    obtain ⟨value, hvalue⟩ := Option.isSome_iff_exists.mp h
    simp [Capability.Holds, Reads.sample, hvalue]
  | accel =>
    obtain ⟨axes, haxes⟩ := Option.isSome_iff_exists.mp h
    have hsample : r.sample units timestamp tempRh =
        sensorBoardApplyAccel units axes
          ({ r with accel := none }.sample units timestamp tempRh) := by
      rw [sensorBoardApplyAccel_sample units timestamp axes rfl, ← haxes]
    rw [hsample]
    exact ⟨axes, haxes, reading_sensorBoardApplyAccel units axes _,
      exactMagnitude_sensorBoardApplyAccel units axes _⟩
  | battery =>
    obtain ⟨reading, hreading⟩ := Option.isSome_iff_exists.mp h
    simp [Capability.Holds, Reads.sample, hreading]
  | gas =>
    obtain ⟨value, hvalue⟩ := Option.isSome_iff_exists.mp h
    simp [Capability.Holds, Reads.sample, hvalue]
  | gyro =>
    obtain ⟨axes, haxes⟩ := Option.isSome_iff_exists.mp h
    simp [Capability.Holds, Reads.sample, haxes]

/-- What was not obtained is zero. The reads of temperature and humidity go together here: where
their bit is clear, neither was made. -/
theorem zero_sample (hclear : tempRh = false → r.temperature = none ∧ r.humidity = none)
    {capability : Capability} (h : r.bits tempRh capability = false) :
    capability.Zero (r.sample units timestamp tempRh) := by
  cases capability with
  | tempRh =>
    obtain ⟨htemp, hhumidity⟩ := hclear h
    simp [Capability.Zero, Reads.sample, htemp, hhumidity]
  | accel =>
    have hnone := Option.isSome_eq_false_iff.mp h
    rw [Option.isNone_iff_eq_none] at hnone
    refine ⟨?_, by simp [Reads.sample, hnone]⟩
    intro axis
    cases axis <;> simp [Axis.reading, Reads.sample, hnone]
  | _ =>
    have hnone := Option.isSome_eq_false_iff.mp h
    rw [Option.isNone_iff_eq_none] at hnone
    simp [Capability.Zero, Reads.sample, hnone]

theorem vouched_sample_iff (hclear : tempRh = false → r.temperature = none ∧ r.humidity = none) :
    Vouched units r (r.sample units timestamp tempRh) ↔
      (tempRh = true → r.temperature.isSome ∧ r.humidity.isSome) := by
  constructor
  · intro h hset
    exact (h.valid_iff .tempRh).mp ((valid_sample_iff .tempRh).mpr hset)
  · intro h
    have hbits : tempRh = true ↔ r.temperature.isSome ∧ r.humidity.isSome := by
      refine ⟨h, fun hboth => ?_⟩
      by_contra hset
      rw [(hclear (by simpa using hset)).1] at hboth
      exact absurd hboth.1 (by simp)
    refine ⟨?_, ?_, ?_, rfl, rfl, rfl, rfl, validBits_and_flags _⟩
    · intro capability
      rw [valid_sample_iff, obtained_iff_bits hbits]
    · intro capability hvalid
      exact holds_sample ((obtained_iff_bits hbits capability).mp
        ((valid_sample_iff capability).mp hvalid))
    · intro capability hvalid
      refine zero_sample hclear ?_
      rwa [valid_sample_iff, Bool.not_eq_true] at hvalid

end

/-- **When every bit vouches for its fields**, for every outcome of every driver call on either
board: whenever the device of temperature and humidity is sampled, both of its channels are got. -/
theorem sensorManagerRead_vouched_iff (units : Units) (board : Board) (adc : BatteryAdc)
    (uptimeMs : Nat) :
    Vouched units (board.reads units adc) (sensorManagerRead units board adc uptimeMs).2 ↔
      (board.env.Sampled →
        (board.env.channelGet .ambientTemp).isSome ∧ (board.env.channelGet .humidity).isSome) := by
  have htemp : (board.reads units adc).temperature = board.env.read .ambientTemp := by
    cases board <;> rfl
  have hhumidity : (board.reads units adc).humidity = board.env.read .humidity := by
    cases board <;> rfl
  rw [sensorManagerRead_eq, vouched_sample_iff, htemp, hhumidity, decide_eq_true_iff]
  · unfold SensorDevice.read
    constructor
    · intro h hsampled
      have hboth := h hsampled
      rwa [if_pos hsampled, if_pos hsampled] at hboth
    · intro h hsampled
      rw [if_pos hsampled, if_pos hsampled]
      exact h hsampled
  · intro hclear
    have hsampled : ¬ board.env.Sampled := by simpa using hclear
    rw [htemp, hhumidity]
    exact ⟨if_neg hsampled, if_neg hsampled⟩

/-- Temperature is read and humidity fails: the bit is set over a humidity of zero. -/
theorem sensorManagerRead_half_read :
    let units : Units :=
      { milliG := fun _ => 0
        celsiusX100 := fun value => (value.val1 * 100).toInt16
        percentX100 := fun value => (value.val1 * 100).toUInt32.toUInt16
        pascal := fun value => value.val1 * 1000
        dpsX10 := fun _ => 0 }
    let env : SensorDevice :=
      { ready := true
        sampleFetch := true
        channelGet := fun channel => if channel = .ambientTemp then some ⟨21, 0⟩ else none
        axesGet := fun _ => none }
    let absent : SensorDevice :=
      { ready := false
        sampleFetch := false
        channelGet := fun _ => none
        axesGet := fun _ => none }
    let adc : BatteryAdc :=
      { ready := false
        sequenceInit := false
        read := none
        rawToMillivolts := some }
    let board := Board.holyiot env absent absent
    let data := (sensorManagerRead units board adc 0).2
    data.Valid .tempRh ∧ (board.reads units adc).humidity = none ∧ data.humidityX100 = 0 ∧
      ¬ Vouched units (board.reads units adc) data := by
  intro units env absent adc board data
  have hset : data.Valid .tempRh := by decide
  have hnone : (board.reads units adc).humidity = none := by decide
  refine ⟨hset, hnone, by decide, ?_⟩
  intro h
  have hobtained := ((h.valid_iff .tempRh).mp hset).2
  rw [hnone] at hobtained
  exact absurd hobtained (by decide)

end SmartTag
