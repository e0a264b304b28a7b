import SmartTag.App.AppConfig
import SmartTag.App.BootEpoch

/-!
# Settings across a reboot

The settings are saved one value at a time, and a save can fail. `Saves` is a device with the
values of the last saves that succeeded: the abstract contents of the settings. A run of saves
keeps them under their keys, and a boot restores them.

* `saved_settings_survive_reboot`: what a boot finds after any run of saves.
-/

namespace SmartTag

/-- A call that writes to the settings. -/
inductive SettingsCall where
  | setConfig (config : TagConfig)
  | saveStatistics (stats : TagStatistics)
  | factoryReset

/-- A device and the last values saved. -/
structure Saves where
  device : Device
  config : Option TagConfig
  stats : Option TagStatistics

namespace Saves

/-- One call: a value saved replaces the one before, a failed save does not. -/
def step (w : Saves) : SettingsCall → Saves
  | .setConfig config =>
    let (err, device) := appConfigSet config w.device
    { w with device := device, config := if err = 0 then some config else w.config }
  | .saveStatistics stats =>
    let (err, storage) := configStorageSaveStatistics stats w.device.tag.storage
    { w with
      device := { w.device with tag := { w.device.tag with storage := storage } }
      stats := if err = 0 then some stats else w.stats }
  | .factoryReset =>
    let (_, storage) := configStorageFactoryReset w.device.tag.storage
    { device := { w.device with tag := { w.device.tag with storage := storage } }
      config := none
      stats := none }

/-- The last values saved are the ones stored. -/
structure Stored (w : Saves) : Prop where
  config : ∀ config, w.config = some config → appConfigValidate config = true ∧
    w.device.tag.storage.nvs.stored .config = some (tagConfigEncode config settingsBlobMax)
  stats : ∀ stats, w.stats = some stats →
    w.device.tag.storage.nvs.stored .stats = some (tagStatsEncode stats settingsBlobMax)

theorem Stored.setConfig {w : Saves} (h : w.Stored) (config : TagConfig) :
    (w.step (.setConfig config)).Stored := by
  by_cases hvalid : appConfigValidate config = true
  · have hset := appConfigSet_accepted hvalid w.device
    rw [configStorageSave_eq, settingsSaveOne] at hset
    simp only [step, hset]
    refine ⟨?_, fun stats hstats => (stored_put_other (by decide)).trans (h.stats stats hstats)⟩
    intro config' heq
    split_ifs at heq with herr
    · cases heq
      exact ⟨hvalid, stored_put_self herr⟩
    · obtain ⟨hvalid', hstored⟩ := h.config config' heq
      exact ⟨hvalid', (stored_put_failed herr .config).trans hstored⟩
  · have hset := appConfigSet_rejected (by simpa using hvalid) w.device
    simp only [step, hset]
    exact ⟨fun config' heq => h.config config' (by simpa [EINVAL] using heq), h.stats⟩

theorem Stored.saveStatistics {w : Saves} (h : w.Stored) (stats : TagStatistics) :
    (w.step (.saveStatistics stats)).Stored := by
  simp only [step, configStorageSaveStatistics_eq, settingsSaveOne]
  refine ⟨?_, ?_⟩
  · intro config hconfig
    obtain ⟨hvalid, hstored⟩ := h.config config hconfig
    exact ⟨hvalid, (stored_put_other (by decide)).trans hstored⟩
  · intro stats' heq
    split_ifs at heq with herr
    · cases heq
      exact stored_put_self herr
    · exact (stored_put_failed herr .stats).trans (h.stats stats' heq)

theorem Stored.step {w : Saves} (h : w.Stored) (call : SettingsCall) : (w.step call).Stored := by
  cases call with
  | setConfig config => exact h.setConfig config
  | saveStatistics stats => exact h.saveStatistics stats
  | factoryReset => exact ⟨by simp [Saves.step], by simp [Saves.step]⟩

theorem Stored.final {w : Saves} (h : w.Stored) (calls : List SettingsCall) :
    (Run.final Saves.step w calls).Stored :=
  Run.final_preserves (fun _ call hw => hw.step call) h calls

end Saves

/-- After any run of saves, whatever they return: the configuration in force after a reboot is the
last one that was accepted and saved, and the statistics are the last ones saved with one more
boot. -/
theorem saved_settings_survive_reboot (device : Device) (calls : List SettingsCall) :
    let w := Run.final Saves.step { device := device, config := none, stats := none } calls
    let rebooted := Device.boot (fun _ => true) w.device.tag
    (∀ config, w.config = some config → appConfigGet rebooted = config) ∧
      (∀ stats, w.stats = some stats →
        rebooted.tag.app.statistics = { stats with bootCount := stats.bootCount + 1 }) := by
  intro w rebooted
  have hstored : w.Stored := Saves.Stored.final ⟨by simp, by simp⟩ calls
  refine ⟨?_, ?_⟩
  · intro config hconfig
    obtain ⟨hvalid, hblob⟩ := hstored.config config hconfig
    have hload : configStorageLoad w.device.tag.storage.powerOn = config :=
      storedConfig_powerOn hblob
    have hinit : appConfigGet rebooted = appConfigInit w.device.tag.storage.powerOn := rfl
    rw [hinit, appConfigInit, hload, hvalid]
    rfl
  · intro stats hstats
    have hload : w.device.tag.storage.persisted = stats :=
      persisted_of_stored (hstored.stats stats hstats)
    have hinit : rebooted.tag.app.statistics =
        { w.device.tag.storage.persisted with
          bootCount := w.device.tag.storage.persisted.bootCount + 1 } := rfl
    rw [hinit, hload]

/-- A new tag after its first boot. -/
def newDevice : Device := Device.boot (fun _ => true) newTag

/-- A run of saves: the last value rejected. -/
def fewSaves : List SettingsCall :=
  [.setConfig TagConfig.defaults, .setConfig { TagConfig.defaults with samplingIntervalS := 300 },
    .saveStatistics { TagStatistics.zero with bootCount := 4294967295, shockCount := 7 },
    .setConfig { TagConfig.defaults with samplingIntervalS := 0 }]

/-- The values saved are restored; the boot count wraps. -/
theorem saved_settings_new_device :
    let w := Run.final Saves.step { device := newDevice, config := none, stats := none } fewSaves
    let rebooted := Device.boot (fun _ => true) w.device.tag
    appConfigGet rebooted = { TagConfig.defaults with samplingIntervalS := 300 } ∧
      rebooted.tag.app.statistics = { TagStatistics.zero with bootCount := 0, shockCount := 7 } :=
  ⟨(saved_settings_survive_reboot newDevice fewSaves).1 _ (by decide +kernel),
    (saved_settings_survive_reboot newDevice fewSaves).2
      { TagStatistics.zero with bootCount := 4294967295, shockCount := 7 } (by decide +kernel)⟩

end SmartTag
