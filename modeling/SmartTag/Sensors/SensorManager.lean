import SmartTag.Motion.ShockDetector
import SmartTag.Sensors.Magnitude

/-!
# Sensor manager

One call of `sensor_manager_read` on either board, following `src/sensors/sensor_manager.c`,
`sensor_holyiot.c` and `sensor_nrf54l15tag.c`. The drivers are what they answer in this call: each
can be ready or not, and each fetch, channel and conversion can give a reading or fail.

* `sensorManagerRead_eq`: the sample is the zeroed one with what was read in it.
* `sensorManagerRead_vouched_iff`: when every validity bit vouches for its fields.
-/

namespace SmartTag

/-! ## Drivers -/

/-- The `SENSOR_CHAN_*` that are read. -/
inductive SensorChannel where
  | ambientTemp | humidity | press | gasRes | accelXyz | gyroXyz
deriving DecidableEq, Repr

/-- What a sensor's driver answers. A channel that cannot be got is `none`, whatever the error. -/
structure SensorDevice where
  ready : Bool
  /-- `sensor_sample_fetch` returns 0. -/
  sampleFetch : Bool
  channelGet : SensorChannel → Option SensorValue
  /-- The same for the channels of three axes. -/
  axesGet : SensorChannel → Option (Axis → SensorValue)

/-- The device is ready and its sample was fetched. -/
def SensorDevice.Sampled (device : SensorDevice) : Prop :=
  device.ready = true ∧ device.sampleFetch = true

instance (device : SensorDevice) : Decidable device.Sampled := inferInstanceAs (Decidable (_ ∧ _))

/-- What the battery's converter answers. -/
structure BatteryAdc where
  ready : Bool
  /-- `adc_sequence_init_dt` returns 0. -/
  sequenceInit : Bool
  read : Option Int16
  rawToMillivolts : Int32 → Option Int32

/-! ## Battery -/

def smartTagBatteryFullMv : Int32 := 3000
def smartTagBatteryEmptyMv : Int32 := 2000

/-- `smart_tag_battery_percent`. -/
def smartTagBatteryPercent (millivolts : Int32) : UInt8 :=
  if smartTagBatteryFullMv ≤ millivolts then 100
  else if millivolts ≤ smartTagBatteryEmptyMv then 0
  else
    ((millivolts - smartTagBatteryEmptyMv) * 100 /
      (smartTagBatteryFullMv - smartTagBatteryEmptyMv)).toUInt32.toUInt8

/-- `sensor_manager_read_battery`: millivolts and percent, or nothing when it returns an error. -/
def sensorManagerReadBattery (adc : BatteryAdc) : Option (UInt16 × UInt8) :=
  if ¬ adc.ready then none
  else if ¬ adc.sequenceInit then none
  else do
    let raw ← adc.read
    let mv ← adc.rawToMillivolts raw.toInt32
    let mv := if mv < 0 then 0 else mv
    return (mv.toUInt32.toUInt16, smartTagBatteryPercent mv)

/-! ## Boards -/

section

variable (units : Units) (device : SensorDevice) (data : SensorData)

/-- Temperature and humidity, as both boards read them from a sampled device. The bit is set
whether or not either channel could be got. -/
def readTempRh : SensorData :=
  let data :=
    match device.channelGet .ambientTemp with
    | some value => { data with temperatureCX100 := units.celsiusX100 value }
    | none => data
  let data :=
    match device.channelGet .humidity with
    | some value => { data with humidityX100 := units.percentX100 value }
    | none => data
  { data with valid := data.valid ||| sensorValidTempRh }

def readPressure : SensorData :=
  match device.channelGet .press with
  | some value =>
    { data with
      pressurePa := units.pascal value
      valid := data.valid ||| sensorValidPressure }
  | none => data

def readGas : SensorData :=
  match device.channelGet .gasRes with
  | some value =>
    { data with
      gasResistanceOhm := value.val1.toUInt32
      valid := data.valid ||| sensorValidGas }
  | none => data

/-- The accelerometer, as both boards read it: `none` when `-EIO` is returned. -/
def readAccel : Option SensorData :=
  if ¬ device.Sampled then none
  else (device.axesGet .accelXyz).map fun axes => sensorBoardApplyAccel units axes data

def readGyro : SensorData :=
  match device.axesGet .gyroXyz with
  | some gyro =>
    { data with
      gyroXDpsX10 := units.dpsX10 (gyro .x)
      gyroYDpsX10 := units.dpsX10 (gyro .y)
      gyroZDpsX10 := units.dpsX10 (gyro .z)
      valid := data.valid ||| sensorValidGyro }
  | none => data

end

/-- The board the build picks, with the sensors fitted to it. -/
inductive Board where
  | holyiot (env baro accel : SensorDevice)
  | nrf54l15tag (env accel imu : SensorDevice)

namespace Holyiot

/-- `sensor_board_read_environment` of `sensor_holyiot.c`. -/
def sensorBoardReadEnvironment (units : Units) (env baro : SensorDevice) (data : SensorData) :
    Int × SensorData :=
  let data := if env.Sampled then readTempRh units env data else data
  let data := if baro.Sampled then readPressure units baro data else data
  (0, data)

/-- `sensor_board_read_motion` of `sensor_holyiot.c`. -/
def sensorBoardReadMotion (units : Units) (accel : SensorDevice) (data : SensorData) :
    Int × SensorData :=
  match readAccel units accel data with
  | none => (- EIO, data)
  | some data => (0, data)

end Holyiot

namespace Nrf54l15tag

def imuActiveDeviationMg : Nat := 150

/-- `sensor_board_read_environment` of `sensor_nrf54l15tag.c`. -/
def sensorBoardReadEnvironment (units : Units) (env : SensorDevice) (data : SensorData) :
    Int × SensorData :=
  if ¬ env.Sampled then (0, data)
  else (0, readGas env (readPressure units env (readTempRh units env data)))

/-- `sensor_board_read_motion` of `sensor_nrf54l15tag.c`. The gyroscope is read while the
acceleration shows that the tag moves. -/
def sensorBoardReadMotion (units : Units) (accel imu : SensorDevice) (data : SensorData) :
    Int × SensorData :=
  match readAccel units accel data with
  | none => (- EIO, data)
  | some data =>
    if (motionClassifierDeviation data).natAbs < imuActiveDeviationMg then (0, data)
    else if imu.Sampled then (0, readGyro units imu data)
    else (0, data)

end Nrf54l15tag

def sensorBoardReadEnvironment (units : Units) : Board → SensorData → Int × SensorData
  | .holyiot env baro _ => Holyiot.sensorBoardReadEnvironment units env baro
  | .nrf54l15tag env _ _ => Nrf54l15tag.sensorBoardReadEnvironment units env

def sensorBoardReadMotion (units : Units) : Board → SensorData → Int × SensorData
  | .holyiot _ _ accel => Holyiot.sensorBoardReadMotion units accel
  | .nrf54l15tag _ accel imu => Nrf54l15tag.sensorBoardReadMotion units accel imu

/-! ## The manager -/

/-- `sensor_manager_read_environment`. -/
def sensorManagerReadEnvironment (units : Units) (board : Board) (adc : BatteryAdc)
    (data : SensorData) : Int × SensorData :=
  let data := (sensorBoardReadEnvironment units board data).2
  match sensorManagerReadBattery adc with
  | some (millivolts, percent) =>
    (0,
      { data with
        batteryMv := millivolts
        batteryPercent := percent
        valid := data.valid ||| sensorValidBattery })
  | none => (0, data)

/-- `sensor_manager_read_motion`. -/
def sensorManagerReadMotion (units : Units) (board : Board) (data : SensorData) :
    Int × SensorData := sensorBoardReadMotion units board data

/-- What `memset` to zero leaves. -/
def SensorData.zero : SensorData where
  timestamp := 0
  temperatureCX100 := 0
  humidityX100 := 0
  pressurePa := 0
  batteryMv := 0
  batteryPercent := 0
  accelXMg := 0
  accelYMg := 0
  accelZMg := 0
  magnitudeMg := 0
  motion := false
  freeFall := false
  shock := false
  orientation := 0
  valid := 0
  gasResistanceOhm := 0
  gyroXDpsX10 := 0
  gyroYDpsX10 := 0
  gyroZDpsX10 := 0

/-- `sensor_manager_read`. -/
def sensorManagerRead (units : Units) (board : Board) (adc : BatteryAdc) (uptimeMs : Nat) :
    Int × SensorData :=
  let data :=
    { SensorData.zero with
      timestamp := UInt32.ofNat (uptimeMs / 1000) }
  let data := (sensorManagerReadEnvironment units board adc data).2
  let data := (sensorManagerReadMotion units board data).2
  (0, data)

/-! ## Initialisation -/

/-- The statics of the manager that `struct sensor_board_init` points to. -/
structure SensorBoardInit where
  expectedValid : UInt8
  initFaults : UInt8
deriving DecidableEq, Repr

/-- `sensor_board_device_ready`. -/
def sensorBoardDeviceReady (ready : Bool) (validBit : UInt8) (init : SensorBoardInit) :
    Bool × SensorBoardInit :=
  if ¬ ready then (false, { init with initFaults := init.initFaults ||| validBit })
  else if validBit ≠ 0 then
    (true, { init with expectedValid := init.expectedValid ||| validBit })
  else (true, init)

/-- `sensor_board_init` of `sensor_holyiot.c`. `flash` tells whether the external flash is ready,
where the build has one. -/
def Holyiot.sensorBoardInit (env baro accel : SensorDevice) (flash : Option Bool)
    (init : SensorBoardInit) : Int × SensorBoardInit :=
  let (envReady, init) := sensorBoardDeviceReady env.ready sensorValidTempRh init
  let (baroReady, init) := sensorBoardDeviceReady baro.ready sensorValidPressure init
  let (accelReady, init) := sensorBoardDeviceReady accel.ready sensorValidAccel init
  let (flashReady, init) :=
    match flash with
    | some ready => sensorBoardDeviceReady ready 0 init
    | none => (true, init)
  (if envReady && baroReady && accelReady && flashReady then 0 else -ENODEV, init)

/-- `sensor_board_init` of `sensor_nrf54l15tag.c`. -/
def Nrf54l15tag.sensorBoardInit (env accel imu : SensorDevice) (init : SensorBoardInit) :
    Int × SensorBoardInit :=
  let (envReady, init) := sensorBoardDeviceReady env.ready sensorValidTempRh init
  let init :=
    if envReady then
      { init with expectedValid := init.expectedValid ||| (sensorValidPressure ||| sensorValidGas) }
    else init
  let (accelReady, init) := sensorBoardDeviceReady accel.ready sensorValidAccel init
  let (imuReady, init) := sensorBoardDeviceReady imu.ready 0 init
  (if envReady && accelReady && imuReady then 0 else -ENODEV, init)

def sensorBoardInit (flash : Option Bool) : Board → SensorBoardInit → Int × SensorBoardInit
  | .holyiot env baro accel => Holyiot.sensorBoardInit env baro accel flash
  | .nrf54l15tag env accel imu => Nrf54l15tag.sensorBoardInit env accel imu

/-- `sensor_manager_init`. `channelSetup` tells whether `adc_channel_setup_dt` returns 0. -/
def sensorManagerInit (board : Board) (flash : Option Bool) (adc : BatteryAdc)
    (channelSetup : Bool) : Int × SensorBoardInit :=
  let init : SensorBoardInit := { expectedValid := 0, initFaults := 0 }
  let (err, init) := sensorBoardInit flash board init
  let ok := decide (err = 0)
  let (ok, init) :=
    if ¬ adc.ready then
      (false, { init with initFaults := init.initFaults ||| sensorValidBattery })
    else if ¬ channelSetup then
      (false, { init with initFaults := init.initFaults ||| sensorValidBattery })
    else (ok, { init with expectedValid := init.expectedValid ||| sensorValidBattery })
  (if ok then 0 else -ENODEV, init)

end SmartTag
