import SmartTag.App.SavedSettings

/-!
# Configuration writes

The ways a configuration comes in from outside: the BLE Configuration characteristic and two
commands of `src/ble/ble_config.c`, the attribute writes of `zcl_device_cb` in
`src/zigbee/zigbee_manager.c`, and the gas baseline of `src/app/app_state.c`. All of them end in
`appConfigSet`, and each has its own way to tell the caller how that went.

`ConfigWrite.requested` is the configuration a write asks for; a write that is refused before it
comes to that asks for none.

* `copies_perform_of_none`, `perform_of_some`: a write is refused, or it sets the configuration it
  asks for and reports the result.
* `config_in_force_valid`: no write makes the configuration in force invalid.
* `write_error_no_effect_iff`: when a write that reports an error has had no effect.
-/

namespace SmartTag

/-! ## The entry points -/

/-- `sizeof(tag_config_t)`. -/
def tagConfigSize : Nat := 40

def btAttErrInvalidOffset : Int := 0x07
def btAttErrInvalidAttributeLen : Int := 0x0d
def btAttErrUnlikely : Int := 0x0e
def btAttErrValueNotAllowed : Int := 0x13

/-- `BT_GATT_ERR`. -/
def btGattErr (attErr : Int) : Int := -attErr

section

variable [Crc16]

/-- What the callers do with a configuration: set it, and raise `EVENT_CONFIG_CHANGED` if that
succeeds. -/
def setAndAnnounce (uptimeMs : Nat) (config : TagConfig) (device : Device) : Int × Device :=
  let (err, device) := appConfigSet config device
  if err ≠ 0 then (err, device)
  else
    let value := config.operatingMode.toUInt16.toInt16
    (0, { device with tag := (appRaiseEvent uptimeMs .configChanged .info value device.tag).2 })

/-- `ble_config_write`: the length taken, or a negated ATT error. -/
def bleConfigWrite (uptimeMs : Nat) (buf : List UInt8) (offset : UInt16) (device : Device) :
    Int × Device :=
  if offset ≠ 0 then (btGattErr btAttErrInvalidOffset, device)
  else if buf.length ≠ tagConfigSize then (btGattErr btAttErrInvalidAttributeLen, device)
  else
    let config := TagConfig.ofBytes buf
    let (err, device) := setAndAnnounce uptimeMs config device
    if err = -EINVAL then (btGattErr btAttErrValueNotAllowed, device)
    else if err ≠ 0 then (btGattErr btAttErrUnlikely, device)
    else (buf.length, device)

/-- The status byte `command_work_fn` responds with to `BLE_CMD_SET_MODE`. -/
def bleCmdSetMode (argument : UInt32) (device : Device) : Int8 × Device :=
  let (err, device) := appConfigSetMode argument device
  (Int8.ofInt err, device)

/-- `smart_tag_gas_alarm_floor`: 70 % of the resistance in clean air. -/
def smartTagGasAlarmFloor (baselineOhm : UInt32) : UInt32 := (baselineOhm * 70) / 100

/-- The floor a sample gives; 0 would disable the alarm. -/
def snapshotFloor (sample : SensorData) : UInt32 :=
  let floor := smartTagGasAlarmFloor sample.gasResistanceOhm
  if floor = 0 then 1 else floor

/-- `app_state_snapshot_gas_baseline`. -/
def appStateSnapshotGasBaseline (uptimeMs : Nat) (device : Device) : Int × Device :=
  let sample := device.tag.app.lastSample
  if sample.valid &&& sensorValidGas = 0 ∨ sample.gasResistanceOhm = 0 then (-ENOTSUP, device)
  else
    setAndAnnounce uptimeMs
      { appConfigGet device with gasLowThresholdOhm := snapshotFloor sample } device

/-- The status byte of the response to `BLE_CMD_SNAPSHOT_GAS_BASELINE`. -/
def bleCmdSnapshotGasBaseline (uptimeMs : Nat) (device : Device) : Int8 × Device :=
  let (err, device) := appStateSnapshotGasBaseline uptimeMs device
  (Int8.ofInt err, device)

def zclClusterIdTagMonitor : UInt16 := 0xfc00
def tagAttrOperatingMode : UInt16 := 0x000b
def tagAttrSamplingInterval : UInt16 := 0x000c
def tagAttrBootEpoch : UInt16 := 0x000e

/-- The statuses `zcl_device_cb` leaves in its parameter. -/
inductive ZbRet where
  | ok | invalidParameter | notImplemented
deriving DecidableEq, Repr

/-- The end of `zcl_device_cb` for the attributes of the configuration. -/
def zclSetConfig (uptimeMs : Nat) (config : TagConfig) (device : Device) : ZbRet × Device :=
  let (err, device) := setAndAnnounce uptimeMs config device
  (if err ≠ 0 then .invalidParameter else .ok, device)

/-- `zcl_device_cb` on an attribute write; `data8` and `data16` are the low bytes of the value. -/
def zclDeviceCb (uptimeMs : Nat) (clusterId attrId : UInt16) (value : UInt32) (device : Device) :
    ZbRet × Device :=
  if clusterId ≠ zclClusterIdTagMonitor then (.notImplemented, device)
  else
    let config := appConfigGet device
    if attrId = tagAttrOperatingMode then
      zclSetConfig uptimeMs { config with operatingMode := value.toUInt8 } device
    else if attrId = tagAttrSamplingInterval then
      zclSetConfig uptimeMs { config with samplingIntervalS := value.toUInt16 } device
    else if attrId = tagAttrBootEpoch then
      let (err, tag) := appStateSetTimeUtc uptimeMs value device.tag
      (if err ≠ 0 then .invalidParameter else .ok, { device with tag := tag })
    else (.notImplemented, device)

end

/-! ## One write -/

/-- A configuration write. -/
inductive ConfigWrite where
  | bleConfig (buf : List UInt8) (offset : UInt16)
  | bleSetMode (argument : UInt32)
  | zigbeeAttribute (clusterId attrId : UInt16) (value : UInt32)
  | gasSnapshot

/-- What the caller is given. -/
inductive Reply where
  | att (ret : Int)
  | status (status : Int8)
  | zcl (ret : ZbRet)
deriving DecidableEq

/-- The caller is told of an error. A command status is 0 or an error number, negated. -/
def Reply.isError : Reply → Prop
  | .att ret => ret < 0
  | .status code => code ≠ 0
  | .zcl ret => ret ≠ .ok

instance (reply : Reply) : Decidable reply.isError := by
  cases reply <;> unfold Reply.isError <;> infer_instance

namespace ConfigWrite

def perform [Crc16] (uptimeMs : Nat) (device : Device) : ConfigWrite → Reply × Device
  | .bleConfig buf offset =>
    let (ret, device) := bleConfigWrite uptimeMs buf offset device
    (.att ret, device)
  | .bleSetMode argument =>
    let (status, device) := bleCmdSetMode argument device
    (.status status, device)
  | .zigbeeAttribute clusterId attrId value =>
    let (ret, device) := zclDeviceCb uptimeMs clusterId attrId value device
    (.zcl ret, device)
  | .gasSnapshot =>
    let (status, device) := bleCmdSnapshotGasBaseline uptimeMs device
    (.status status, device)

/-- The configuration the write hands to `appConfigSet`, unless it is refused before. -/
def requested (device : Device) : ConfigWrite → Option TagConfig
  | .bleConfig buf offset =>
    if offset = 0 ∧ buf.length = tagConfigSize then some (TagConfig.ofBytes buf) else none
  | .bleSetMode argument => some { device.config with operatingMode := argument.toUInt8 }
  | .zigbeeAttribute clusterId attrId value =>
    if clusterId ≠ zclClusterIdTagMonitor then none
    else if attrId = tagAttrOperatingMode then
      some { device.config with operatingMode := value.toUInt8 }
    else if attrId = tagAttrSamplingInterval then
      some { device.config with samplingIntervalS := value.toUInt16 }
    else none
  | .gasSnapshot =>
    let sample := device.tag.app.lastSample
    if sample.valid &&& sensorValidGas = 0 ∨ sample.gasResistanceOhm = 0 then none
    else some { device.config with gasLowThresholdOhm := snapshotFloor sample }

/-- The caller is told of an error number. A command status is its low byte. -/
def reports (err : Int) : ConfigWrite → Prop
  | .bleConfig _ _ => err ≠ 0
  | .bleSetMode _ => Int8.ofInt err ≠ 0
  | .zigbeeAttribute _ _ _ => err ≠ 0
  | .gasSnapshot => Int8.ofInt err ≠ 0

/-- No caller is told of an error when there is none. -/
theorem not_reports_zero (w : ConfigWrite) : ¬ w.reports 0 := by
  cases w <;> simp [reports]

/-- Every caller is told of a rejected configuration. -/
theorem reports_einval (w : ConfigWrite) : w.reports (-EINVAL) := by
  cases w <;> simp only [reports] <;> decide

end ConfigWrite

/-! ## The copies of the configuration -/

/-- The configuration in force and its copies. -/
structure Copies where
  config : TagConfig
  motion : TagConfig
  led : Bool
  stored : TagConfig
deriving DecidableEq, Repr

def Device.copies (device : Device) : Copies where
  config := appConfigGet device
  motion := device.motion.config
  led := device.ledEnabled
  stored := configStorageLoad device.tag.storage

/-- All the copies of one configuration. -/
def Copies.all (config : TagConfig) : Copies where
  config := config
  motion := config
  led := decide (config.ledEnabled ≠ 0)
  stored := config

theorem storedConfig_appStateSetTimeUtc [Crc16] (uptimeMs : Nat) (utcNow : UInt32) (tag : Tag) :
    (appStateSetTimeUtc uptimeMs utcNow tag).2.storage.storedConfig = tag.storage.storedConfig := by
  unfold appStateSetTimeUtc
  dsimp only
  split_ifs
  · rfl
  · simp only [appRaiseEvent, appStateFlushStatistics, configStorageSaveStatistics_eq]

/-- The return code of the next call that saves. -/
def Device.nextSave (device : Device) : Int := device.tag.storage.nvs.results.headD 0

theorem copies_appConfigSet {input : TagConfig} (h : appConfigValidate input = true)
    (device : Device) :
    (appConfigSet input device).2.copies = .all input ∧
      ((appConfigSet input device).1 = device.nextSave) := by
  rw [appConfigSet_accepted h, configStorageSave_eq, settingsSaveOne, SettingsBackend.put]
  dsimp only
  refine ⟨rfl, ?_⟩
  split_ifs with herr
  · rfl
  · exact (not_not.1 herr).symm

/-! ## What a write does -/

namespace ConfigWrite

variable [Crc16]

/-- A write that asks for no configuration leaves all copies alone. -/
theorem copies_perform_of_none {w : ConfigWrite} {device : Device}
    (h : w.requested device = none) (uptimeMs : Nat) :
    (w.perform uptimeMs device).2.copies = device.copies := by
  cases w with
  | bleConfig buf offset =>
      by_cases hoffset : offset = 0
      · by_cases hlen : buf.length = tagConfigSize
        · simp [requested, hoffset, hlen] at h
        · simp [perform, bleConfigWrite, hoffset, hlen]
      · simp [perform, bleConfigWrite, hoffset]
  | bleSetMode argument => cases h
  | zigbeeAttribute clusterId attrId value =>
      simp only [requested] at h
      split_ifs at h with hcluster hmode hinterval
      · simp [perform, zclDeviceCb, hcluster]
      · by_cases hepoch : attrId = tagAttrBootEpoch
        · simp [perform, zclDeviceCb, hcluster, hmode, hinterval, ← hepoch, Device.copies,
            configStorageLoad, appConfigGet, storedConfig_appStateSetTimeUtc]
        · simp [perform, zclDeviceCb, hcluster, hmode, hinterval, hepoch]
  | gasSnapshot =>
      simp only [requested] at h
      split_ifs at h with hgas
      simp only [perform, bleCmdSnapshotGasBaseline, appStateSnapshotGasBaseline, if_pos hgas]

/-- Announcing a configuration changes neither the copies nor the result. -/
theorem setAndAnnounce_copies (uptimeMs : Nat) (config : TagConfig) (device : Device) :
    (setAndAnnounce uptimeMs config device).2.copies = (appConfigSet config device).2.copies ∧
      (setAndAnnounce uptimeMs config device).1 = (appConfigSet config device).1 := by
  unfold setAndAnnounce
  dsimp only
  split_ifs with herr
  · exact ⟨rfl, rfl⟩
  · exact ⟨rfl, (not_not.1 herr).symm⟩

theorem zclSetConfig_copies (uptimeMs : Nat) (config : TagConfig) (device : Device) :
    (zclSetConfig uptimeMs config device).2.copies = (appConfigSet config device).2.copies ∧
      ((zclSetConfig uptimeMs config device).1 ≠ .ok ↔ (appConfigSet config device).1 ≠ 0) := by
  obtain ⟨hcopies, herr⟩ := setAndAnnounce_copies uptimeMs config device
  refine ⟨hcopies, ?_⟩
  rw [← herr]
  simp only [zclSetConfig]
  split_ifs with hne <;> simp [hne]

theorem bleConfigWrite_copies {buf : List UInt8} (h : buf.length = tagConfigSize) (uptimeMs : Nat)
    (device : Device) :
    (bleConfigWrite uptimeMs buf 0 device).2.copies =
        (appConfigSet (TagConfig.ofBytes buf) device).2.copies ∧
      ((bleConfigWrite uptimeMs buf 0 device).1 < 0 ↔
        (appConfigSet (TagConfig.ofBytes buf) device).1 ≠ 0) := by
  obtain ⟨hcopies, herr⟩ := setAndAnnounce_copies uptimeMs (TagConfig.ofBytes buf) device
  have hlen : ¬ buf.length ≠ tagConfigSize := not_not.2 h
  rw [bleConfigWrite, if_neg (by decide), if_neg hlen, ← hcopies, ← herr]
  dsimp only
  split_ifs with heinval hne
  · have hatt : btGattErr btAttErrValueNotAllowed < 0 := by decide
    refine ⟨rfl, iff_of_true hatt ?_⟩
    rw [heinval]
    decide
  · have hatt : btGattErr btAttErrUnlikely < 0 := by decide
    exact ⟨rfl, iff_of_true hatt hne⟩
  · exact ⟨rfl, iff_of_false (by omega) hne⟩

/-- A write that asks for a configuration sets it, and reports how that went. -/
theorem perform_of_some {w : ConfigWrite} {device : Device} {config : TagConfig}
    (h : w.requested device = some config) (uptimeMs : Nat) :
    (w.perform uptimeMs device).2.copies = (appConfigSet config device).2.copies ∧
      ((w.perform uptimeMs device).1.isError ↔ w.reports (appConfigSet config device).1) := by
  cases w with
  | bleConfig buf offset =>
      simp only [requested] at h
      split_ifs at h with hfits
      obtain ⟨hoffset, hlen⟩ := hfits
      cases h
      subst hoffset
      exact bleConfigWrite_copies hlen uptimeMs device
  | bleSetMode argument =>
      cases h
      exact ⟨rfl, Iff.rfl⟩
  | zigbeeAttribute clusterId attrId value =>
      simp only [requested] at h
      simp only [perform, zclDeviceCb, appConfigGet, Reply.isError, reports]
      split_ifs at h with hcluster hmode hinterval <;> cases h
      · rw [if_neg hcluster, if_pos hmode]
        exact zclSetConfig_copies _ _ _
      · rw [if_neg hcluster, if_neg hmode, if_pos hinterval]
        exact zclSetConfig_copies _ _ _
  | gasSnapshot =>
      simp only [requested] at h
      split_ifs at h with hgas
      rw [Option.some.injEq] at h
      simp only [perform, bleCmdSnapshotGasBaseline, appStateSnapshotGasBaseline, if_neg hgas,
        appConfigGet, h]
      obtain ⟨hcopies, herr⟩ := setAndAnnounce_copies uptimeMs config device
      rw [Reply.isError, reports, herr]
      exact ⟨hcopies, Iff.rfl⟩

/-! ### An error and no effect -/

/-- The configuration asked for is accepted, the save fails with an error the caller is told of,
and some copy was different before. -/
def FailsInSave (device : Device) (w : ConfigWrite) : Prop :=
  ∃ config, w.requested device = some config ∧ appConfigValidate config = true ∧
    w.reports device.nextSave ∧ device.copies ≠ .all config

end ConfigWrite

/-- In any state and for any write: if an error is reported nothing has changed, exactly when the
write does not come to a save that fails. -/
theorem write_error_no_effect_iff [Crc16] (w : ConfigWrite) (uptimeMs : Nat) (device : Device) :
    ((w.perform uptimeMs device).1.isError →
        (w.perform uptimeMs device).2.copies = device.copies) ↔
      ¬ w.FailsInSave device := by
  cases hrequested : w.requested device with
  | none =>
      have hsame := ConfigWrite.copies_perform_of_none hrequested uptimeMs
      refine iff_of_true (fun _ => hsame) ?_
      intro h
      obtain ⟨config, heq, -⟩ := h
      rw [hrequested] at heq
      cases heq
  | some config =>
      obtain ⟨hcopies, herror⟩ := ConfigWrite.perform_of_some hrequested uptimeMs
      by_cases hvalid : appConfigValidate config = true
      · obtain ⟨hset, herr⟩ := copies_appConfigSet hvalid device
        rw [hcopies, herror, hset, herr]
        constructor
        · intro h hfails
          obtain ⟨config', heq, -, hreports, hne⟩ := hfails
          rw [hrequested] at heq
          cases heq
          exact hne (h hreports).symm
        · intro h hreports
          by_contra hne
          exact h ⟨config, hrequested, hvalid, hreports, Ne.symm hne⟩
      · have hset := appConfigSet_rejected (by simpa using hvalid) device
        refine iff_of_true (fun _ => by rw [hcopies, hset]) ?_
        intro h
        obtain ⟨config', heq, hvalid', -⟩ := h
        rw [hrequested] at heq
        cases heq
        exact hvalid hvalid'

/-- A new tag whose settings have no room left. -/
def fullDevice : Device :=
  Device.boot (fun _ => true)
    { newTag with storage := .atReset { stored := fun _ => none, results := [-28] } }

/-- A configuration is written over BLE and the save fails: the phone is told of an error, and the
configuration is in force. -/
theorem write_error_with_effect :
    let config := { TagConfig.defaults with samplingIntervalS := 300 }
    let written := (ConfigWrite.bleConfig config.toBytes 0).perform 0 fullDevice
    written.1 = .att (-0x0e) ∧ written.1.isError ∧
      written.2.copies = .all config ∧ fullDevice.copies = .all TagConfig.defaults := by
  decide +kernel

/-! ## Runs of writes -/

/-- A call that can change the configuration in force. -/
inductive ConfigOp where
  | set (config : TagConfig)
  | setMode (mode : UInt32)
  | setSamplingInterval (seconds : UInt16)
  | reset
  | write (uptimeMs : Nat) (w : ConfigWrite)

namespace ConfigOp

def step [Crc16] (device : Device) : ConfigOp → Device
  | .set config => (appConfigSet config device).2
  | .setMode mode => (appConfigSetMode mode device).2
  | .setSamplingInterval seconds => (appConfigSetSamplingInterval seconds device).2
  | .reset => (appConfigReset device).2
  | .write uptimeMs w => (w.perform uptimeMs device).2

/-- The configuration a call asks for. -/
def requested (device : Device) : ConfigOp → Option TagConfig
  | .set config => some config
  | .setMode mode => some { device.config with operatingMode := mode.toUInt8 }
  | .setSamplingInterval seconds => some { device.config with samplingIntervalS := seconds }
  | .reset => some TagConfig.defaults
  | .write _ w => w.requested device

/-- The configuration after a call is the one it asks for, if that is valid. -/
theorem config_step [Crc16] (device : Device) (op : ConfigOp) :
    (step device op).config =
      ((op.requested device).filter appConfigValidate).getD device.config := by
  have hset : ∀ config, (appConfigSet config device).2.config =
      ((some config).filter appConfigValidate).getD device.config := by
    intro config
    rw [appConfigSet_config, Option.filter_some]
    split_ifs <;> rfl
  cases op with
  | set config => exact hset config
  | setMode mode => exact hset _
  | setSamplingInterval seconds => exact hset _
  | reset => exact hset _
  | write uptimeMs w =>
      simp only [step, requested]
      cases hrequested : w.requested device with
      | none =>
          have hsame := ConfigWrite.copies_perform_of_none hrequested uptimeMs
          exact congrArg Copies.config hsame
      | some config =>
          obtain ⟨hcopies, -⟩ := ConfigWrite.perform_of_some hrequested uptimeMs
          exact (congrArg Copies.config hcopies).trans (hset config)

theorem validate_step [Crc16] {device : Device} (h : appConfigValidate device.config = true)
    (op : ConfigOp) : appConfigValidate (step device op).config = true := by
  rw [config_step]
  cases hfilter : (op.requested device).filter appConfigValidate with
  | none => exact h
  | some config =>
      rw [Option.filter_eq_some_iff] at hfilter
      exact hfilter.2

end ConfigOp

/-- Whatever is found in the settings at boot and whatever is written afterwards, the configuration
in force is valid, and a write of an invalid one leaves it unchanged. -/
theorem config_in_force_valid [Crc16] (readOk : SettingsKey → Bool) (tag : Tag)
    (ops : List ConfigOp) :
    let device := Run.final ConfigOp.step (Device.boot readOk tag) ops
    appConfigValidate (appConfigGet device) = true ∧
      ∀ op config, ConfigOp.requested device op = some config →
        appConfigValidate config = false →
        appConfigGet (ConfigOp.step device op) = appConfigGet device := by
  intro device
  refine ⟨?_, ?_⟩
  · exact Run.final_preserves (I := fun device : Device => appConfigValidate device.config = true)
      (fun _ op h => ConfigOp.validate_step h op) (validate_boot readOk tag) _
  · intro op config hrequested hinvalid
    have hconfig := ConfigOp.config_step device op
    rw [hrequested, Option.filter_some, hinvalid] at hconfig
    exact hconfig

/-- A framed value that ends in the middle of the temperature limits is laid over the defaults. -/
theorem config_in_force_truncated :
    let blob := TagSettingsHeader.toBytes { schema := 1, bodySize := 12 } ++
      { TagConfig.defaults with tempHighCX100 := -2000 }.toBytes.take 12
    let tag := { newTag with
      storage := .atReset { stored := fun _ => some blob, results := [] } }
    let device := Run.final ConfigOp.step (Device.boot (fun _ => true) tag) [.setMode 258]
    appConfigGet (ConfigOp.step device (.set { TagConfig.defaults with operatingMode := 3 })) =
      { TagConfig.defaults with operatingMode := 2 } :=
  ((config_in_force_valid (fun _ => true) _ [.setMode 258]).2
    (.set { TagConfig.defaults with operatingMode := 3 }) _ rfl (by decide +kernel)).trans
    (by decide +kernel)

end SmartTag
