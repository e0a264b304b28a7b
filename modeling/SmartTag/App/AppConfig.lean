import SmartTag.App.AppState
import SmartTag.Motion.MotionManager

/-!
# Application configuration

The configuration in force, following `src/app/app_config.c`. A configuration accepted is copied
to the motion manager, the LED and the settings, one after the other.

`Device` is the tag with the three statics a configuration reaches besides the settings. The
semaphore that wakes the sampling thread is outside.

* `appConfigValidate_iff`: the ranges of an accepted configuration.
* `appConfigSet_accepted`, `appConfigSet_rejected`: what setting a configuration does.
* `validate_boot`: the configuration after a boot is valid, whatever is stored.
-/

namespace SmartTag

/-- The highest `tag_mode_t`. -/
def tagModeShipping : UInt8 := 2

/-! ## Validation -/

def appConfigValidate (cfg : TagConfig) : Bool :=
  if cfg.samplingIntervalS < 1 ∨ 3600 < cfg.samplingIntervalS then false
  else if cfg.motionTimeoutS < 1 ∨ 3600 < cfg.motionTimeoutS then false
  else if cfg.motionThresholdMg < 20 ∨ 4000 < cfg.motionThresholdMg then false
  else if cfg.shockThresholdMg < 500 ∨ 16000 < cfg.shockThresholdMg then false
  else if 900 < cfg.freeFallThresholdMg then false
  else if cfg.tempHighCX100 ≤ cfg.tempLowCX100 then false
  else if 10000 < cfg.humidityHighX100 then false
  else if cfg.batteryLowMv < 1800 ∨ 3300 < cfg.batteryLowMv then false
  else if cfg.reportMaxIntervalS < 60 ∨ 43200 < cfg.reportMaxIntervalS then false
  else if cfg.bleServiceWindowS < 10 ∨ 3600 < cfg.bleServiceWindowS then false
  else if tagModeShipping < cfg.operatingMode then false
  else if 1 < cfg.ledEnabled ∨ 1 < cfg.sensorHistoryEnabled then false
  else true

/-- The ranges an accepted configuration is in. -/
structure TagConfig.InRange (cfg : TagConfig) : Prop where
  samplingInterval : 1 ≤ cfg.samplingIntervalS ∧ cfg.samplingIntervalS ≤ 3600
  motionTimeout : 1 ≤ cfg.motionTimeoutS ∧ cfg.motionTimeoutS ≤ 3600
  motionThreshold : 20 ≤ cfg.motionThresholdMg ∧ cfg.motionThresholdMg ≤ 4000
  shockThreshold : 500 ≤ cfg.shockThresholdMg ∧ cfg.shockThresholdMg ≤ 16000
  freeFallThreshold : cfg.freeFallThresholdMg ≤ 900
  temp : cfg.tempLowCX100 < cfg.tempHighCX100
  humidity : cfg.humidityHighX100 ≤ 10000
  battery : 1800 ≤ cfg.batteryLowMv ∧ cfg.batteryLowMv ≤ 3300
  reportMaxInterval : 60 ≤ cfg.reportMaxIntervalS ∧ cfg.reportMaxIntervalS ≤ 43200
  bleServiceWindow : 10 ≤ cfg.bleServiceWindowS ∧ cfg.bleServiceWindowS ≤ 3600
  operatingMode : cfg.operatingMode ≤ tagModeShipping
  flags : cfg.ledEnabled ≤ 1 ∧ cfg.sensorHistoryEnabled ≤ 1

theorem appConfigValidate_iff (cfg : TagConfig) : appConfigValidate cfg = true ↔ cfg.InRange := by
  simp only [appConfigValidate, Bool.if_false_left, Bool.and_eq_true, Bool.not_eq_true',
    decide_eq_false_iff_not, not_or, UInt16.not_lt, UInt8.not_lt, Int16.not_le, and_true]
  constructor
  · intro h
    obtain ⟨h1, h2, h3, h4, h5, h6, h7, h8, h9, h10, h11, h12⟩ := h
    exact ⟨h1, h2, h3, h4, h5, h6, h7, h8, h9, h10, h11, h12⟩
  · intro h
    exact ⟨h.samplingInterval, h.motionTimeout, h.motionThreshold, h.shockThreshold,
      h.freeFallThreshold, h.temp, h.humidity, h.battery, h.reportMaxInterval,
      h.bleServiceWindow, h.operatingMode, h.flags⟩

/-- `TAG_CONFIG_DEFAULTS` passes its own check. -/
theorem appConfigValidate_defaults : appConfigValidate TagConfig.defaults = true := by decide

/-- A configuration that has passed the check. -/
structure AcceptedConfig where
  config : TagConfig
  accepted : appConfigValidate config = true

def AcceptedConfig.defaults : AcceptedConfig := ⟨TagConfig.defaults, appConfigValidate_defaults⟩

theorem AcceptedConfig.inRange (c : AcceptedConfig) : c.config.InRange :=
  (appConfigValidate_iff c.config).1 c.accepted

/-! ## The configuration in force -/

/-- The tag, with the statics of `app_config.c`, of the motion manager and of the LED that a
configuration reaches. -/
structure Device where
  /-- The `config` of `app_config.c`. -/
  config : TagConfig
  motion : MotionManager
  /-- The `enabled` of `led_manager.c`. -/
  ledEnabled : Bool
  tag : Tag

def appConfigInit (storage : ConfigStorage) : TagConfig :=
  let stored := configStorageLoad storage
  if ¬ appConfigValidate stored then TagConfig.defaults else stored

def appConfigGet (device : Device) : TagConfig := device.config

namespace Device

/-- The locked section of `app_config_set`. -/
def assignConfig (input : TagConfig) (device : Device) : Device := { device with config := input }

/-- The call of `motion_manager_update_config`. -/
def updateMotion (applied : TagConfig) (device : Device) : Device :=
  { device with motion := motionManagerUpdateConfig applied device.motion }

/-- The call of `led_manager_set_enabled`. -/
def setLed (applied : TagConfig) (device : Device) : Device :=
  { device with ledEnabled := decide (applied.ledEnabled ≠ 0) }

/-- The call of `config_storage_save`. -/
def saveConfig (applied : TagConfig) (device : Device) : Int × Device :=
  let (err, storage) := configStorageSave applied device.tag.storage
  (err, { device with tag := { device.tag with storage := storage } })

end Device

def appConfigSet (input : TagConfig) (device : Device) : Int × Device :=
  if ¬ appConfigValidate input then (-EINVAL, device)
  else
    let device := device.assignConfig input
    let applied := device.config
    ((device.updateMotion applied).setLed applied).saveConfig applied

def appConfigSetMode (mode : UInt32) (device : Device) : Int × Device :=
  let updated := appConfigGet device
  let updated := { updated with operatingMode := mode.toUInt8 }
  appConfigSet updated device

def appConfigSetSamplingInterval (seconds : UInt16) (device : Device) : Int × Device :=
  let updated := appConfigGet device
  let updated := { updated with samplingIntervalS := seconds }
  appConfigSet updated device

def appConfigReset (device : Device) : Int × Device := appConfigSet TagConfig.defaults device

/-- What `main` sets up from the settings stored, up to the first event: `readOk` says which of
the values `read_cb` hands over. -/
def Device.boot (readOk : SettingsKey → Bool) (tag : Tag) : Device :=
  let storage := settingsLoadSubtree readOk (.atReset tag.storage.nvs)
  let config := appConfigInit storage
  { config := config
    motion := motionManagerInit config
    ledEnabled := decide (config.ledEnabled ≠ 0)
    tag :=
      { app := appStateInit storage .atReset
        storage := storage
        eventLog := powerOn tag.eventLog
        sensorLog := powerOn tag.sensorLog } }

/-! ## What a configuration reaches -/

theorem appConfigSet_rejected {input : TagConfig} (h : appConfigValidate input = false)
    (device : Device) : appConfigSet input device = (-EINVAL, device) := by
  rw [appConfigSet, h]
  rfl

/-- An accepted configuration is in force and copied everywhere, whatever the save returns. -/
theorem appConfigSet_accepted {input : TagConfig} (h : appConfigValidate input = true)
    (device : Device) :
    appConfigSet input device =
      let saved := configStorageSave input device.tag.storage
      (saved.1,
        { config := input
          motion := { device.motion with config := input }
          ledEnabled := decide (input.ledEnabled ≠ 0)
          tag := { device.tag with storage := saved.2 } }) := by
  rw [appConfigSet, h]
  rfl

theorem appConfigSet_config (input : TagConfig) (device : Device) :
    (appConfigSet input device).2.config =
      if appConfigValidate input then input else device.config := by
  by_cases h : appConfigValidate input = true
  · rw [appConfigSet_accepted h, if_pos h]
  · rw [if_neg h, appConfigSet_rejected (by simpa using h)]

theorem validate_appConfigInit (storage : ConfigStorage) :
    appConfigValidate (appConfigInit storage) = true := by
  unfold appConfigInit
  dsimp only
  split_ifs with h
  · exact h
  · exact appConfigValidate_defaults

/-- The configuration after a boot is valid, whatever is stored. -/
theorem validate_boot (readOk : SettingsKey → Bool) (tag : Tag) :
    appConfigValidate (Device.boot readOk tag).config = true := validate_appConfigInit _

end SmartTag
