import Mathlib.Logic.Function.Basic
import SmartTag.Storage.ConfigMigrate

/-!
# Configuration storage

The persistent copies of the configuration and the statistics, following
`src/storage/config_storage.c`. The RAM copies are filled at boot from the settings subsystem and
written through on every save.

The settings subsystem is `SettingsBackend`: it hands back the last value stored under a key. It
says how the coming calls end: `results` lists their return codes, and an exhausted list means
success. A call that returns an error leaves the stored values as they were.

* `ConfigStorage.persisted`: the statistics the next boot restores.
* `persisted_configStorageSaveStatistics`: they are those of the last save that succeeded.
-/

namespace SmartTag

/-! ## The settings subsystem -/

/-- The two keys under the root: `SETTINGS_KEY_CONFIG` and `SETTINGS_KEY_STATS`. -/
inductive SettingsKey where
  | config | stats
deriving DecidableEq, Repr

structure SettingsBackend where
  stored : SettingsKey → Option (List UInt8)
  /-- Return codes of the coming save and delete calls. -/
  results : List Int

/-- Store or remove the value under a key, unless the call fails. -/
def SettingsBackend.put (nvs : SettingsBackend) (key : SettingsKey)
    (value : Option (List UInt8)) : Int × SettingsBackend :=
  let err := nvs.results.headD 0
  let nvs := { nvs with results := nvs.results.tail }
  if err ≠ 0 then (err, nvs)
  else (0, { nvs with stored := Function.update nvs.stored key value })

theorem SettingsBackend.put_stored (nvs : SettingsBackend) (key : SettingsKey)
    (value : Option (List UInt8)) :
    (nvs.put key value).2.stored =
      if (nvs.put key value).1 = 0 then Function.update nvs.stored key value else nvs.stored := by
  unfold SettingsBackend.put
  dsimp only
  split_ifs <;> first | rfl | contradiction

section

variable {nvs : SettingsBackend} {key : SettingsKey} {value : Option (List UInt8)}

theorem stored_put_self (h : (nvs.put key value).1 = 0) :
    (nvs.put key value).2.stored key = value := by
  rw [nvs.put_stored, if_pos h, Function.update_self]

theorem stored_put_failed (h : (nvs.put key value).1 ≠ 0) (other : SettingsKey) :
    (nvs.put key value).2.stored other = nvs.stored other := by
  rw [nvs.put_stored, if_neg h]

theorem stored_put_other {other : SettingsKey} (h : other ≠ key) :
    (nvs.put key value).2.stored other = nvs.stored other := by
  rw [nvs.put_stored]
  split_ifs
  · exact Function.update_of_ne h _ _
  · rfl

end

theorem put_quiet {nvs : SettingsBackend} (h : nvs.results = []) (key : SettingsKey)
    (value : Option (List UInt8)) :
    nvs.put key value = (0, { nvs with stored := Function.update nvs.stored key value }) := by
  simp [SettingsBackend.put, h]

/-- `settings_save_one`. -/
def settingsSaveOne (nvs : SettingsBackend) (key : SettingsKey) (blob : List UInt8) :
    Int × SettingsBackend :=
  nvs.put key (some blob)

/-- `settings_delete`. -/
def settingsDelete (nvs : SettingsBackend) (key : SettingsKey) : Int × SettingsBackend :=
  nvs.put key none

/-! ## The stored copies -/

def settingsBlobMax : Nat := 64

/-- The statics of the module, and the settings subsystem they are written through to. -/
structure ConfigStorage where
  storedConfig : TagConfig
  storedStats : TagStatistics
  nvs : SettingsBackend

/-- `settings_set`: takes over the value found under a key. `readOk` says whether `read_cb` hands
over all of it. -/
def settingsSet (key : SettingsKey) (blob : List UInt8) (readOk : Bool) (cs : ConfigStorage) :
    Int × ConfigStorage :=
  if blob.length = 0 ∨ settingsBlobMax < blob.length then (0, cs)
  else if ¬ readOk then (- EIO, cs)
  else
    match key with
    | .config =>
      let (err, config) := tagConfigDecode blob cs.storedConfig
      if err ≠ 0 then (0, { cs with storedConfig := TagConfig.defaults })
      else (0, { cs with storedConfig := config })
    | .stats =>
      let (err, stats) := tagStatsDecode blob cs.storedStats
      if err ≠ 0 then (0, { cs with storedStats := TagStatistics.zero })
      else (0, { cs with storedStats := stats })

/-- What `settings_load_subtree` does with one key of the root. -/
def loadKey (readOk : SettingsKey → Bool) (cs : ConfigStorage) (key : SettingsKey) :
    ConfigStorage :=
  match cs.nvs.stored key with
  | none => cs
  | some blob => (settingsSet key blob (readOk key) cs).2

/-- `settings_load_subtree` on the root: `settings_set` for every value stored. -/
def settingsLoadSubtree (readOk : SettingsKey → Bool) (cs : ConfigStorage) : ConfigStorage :=
  [SettingsKey.config, SettingsKey.stats].foldl (loadKey readOk) cs

def configStorageLoad (cs : ConfigStorage) : TagConfig := cs.storedConfig

def configStorageSave (config : TagConfig) (cs : ConfigStorage) : Int × ConfigStorage :=
  let cs := { cs with storedConfig := config }
  let blob := tagConfigEncode config settingsBlobMax
  if blob.length = 0 then (-ENOMEM, cs)
  else
    let (err, nvs) := settingsSaveOne cs.nvs .config blob
    (err, { cs with nvs := nvs })

def configStorageLoadStatistics (cs : ConfigStorage) : TagStatistics := cs.storedStats

def configStorageSaveStatistics (stats : TagStatistics) (cs : ConfigStorage) :
    Int × ConfigStorage :=
  let cs := { cs with storedStats := stats }
  let blob := tagStatsEncode stats settingsBlobMax
  if blob.length = 0 then (-ENOMEM, cs)
  else
    let (err, nvs) := settingsSaveOne cs.nvs .stats blob
    (err, { cs with nvs := nvs })

def configStorageFactoryReset (cs : ConfigStorage) : Int × ConfigStorage :=
  let cs := { cs with storedStats := TagStatistics.zero, storedConfig := TagConfig.defaults }
  let (_, nvs) := settingsDelete cs.nvs .config
  let (_, nvs) := settingsDelete nvs .stats
  (0, { cs with nvs := nvs })

/-- The statics before the settings are loaded: what a boot starts from. -/
def ConfigStorage.atReset (nvs : SettingsBackend) : ConfigStorage where
  storedConfig := TagConfig.defaults
  storedStats := TagStatistics.zero
  nvs := nvs

/-- What the next boot finds: the settings survive, the RAM copies are loaded from them. -/
def ConfigStorage.powerOn (cs : ConfigStorage) : ConfigStorage :=
  settingsLoadSubtree (fun _ => true) (.atReset cs.nvs)

/-! ## What a boot restores -/

/-- The statistics the next boot restores. -/
def ConfigStorage.persisted (cs : ConfigStorage) : TagStatistics := cs.powerOn.storedStats

theorem settingsSet_nvs (key : SettingsKey) (blob : List UInt8) (readOk : Bool)
    (cs : ConfigStorage) : (settingsSet key blob readOk cs).2.nvs = cs.nvs := by
  unfold settingsSet
  cases key <;> dsimp only <;> split_ifs <;> rfl

@[simp] theorem loadKey_nvs (readOk : SettingsKey → Bool) (cs : ConfigStorage) (key : SettingsKey) :
    (loadKey readOk cs key).nvs = cs.nvs := by
  unfold loadKey
  split
  · rfl
  · exact settingsSet_nvs _ _ _ _

/-- The configuration key does not matter to the statistics. -/
theorem loadKey_config_storedStats (readOk : SettingsKey → Bool) (cs : ConfigStorage) :
    (loadKey readOk cs .config).storedStats = cs.storedStats := by
  unfold loadKey settingsSet
  dsimp only
  split
  · rfl
  · split_ifs <;> rfl

theorem loadKey_stats_storedStats (cs : ConfigStorage) :
    (loadKey (fun _ => true) cs .stats).storedStats =
      match cs.nvs.stored .stats with
      | none => cs.storedStats
      | some blob =>
        if blob.length = 0 ∨ settingsBlobMax < blob.length then cs.storedStats
        else if (tagStatsDecode blob cs.storedStats).1 ≠ 0 then TagStatistics.zero
        else (tagStatsDecode blob cs.storedStats).2 := by
  unfold loadKey settingsSet
  dsimp only
  split
  · rfl
  · split_ifs <;> first | rfl | contradiction

@[simp] theorem powerOn_nvs (cs : ConfigStorage) : cs.powerOn.nvs = cs.nvs := by
  simp [ConfigStorage.powerOn, settingsLoadSubtree, ConfigStorage.atReset]

/-- The statistics restored are decoded from the value under their key, and nothing else. -/
theorem persisted_eq (cs : ConfigStorage) :
    cs.persisted =
      match cs.nvs.stored .stats with
      | none => TagStatistics.zero
      | some blob =>
        if blob.length = 0 ∨ settingsBlobMax < blob.length then TagStatistics.zero
        else if (tagStatsDecode blob .zero).1 ≠ 0 then TagStatistics.zero
        else (tagStatsDecode blob .zero).2 := by
  rw [ConfigStorage.persisted, ConfigStorage.powerOn, settingsLoadSubtree, List.foldl_cons,
    List.foldl_cons, List.foldl_nil, loadKey_stats_storedStats, loadKey_nvs,
    loadKey_config_storedStats, ConfigStorage.atReset]

theorem persisted_powerOn (cs : ConfigStorage) : cs.powerOn.persisted = cs.persisted := by
  rw [persisted_eq, persisted_eq, powerOn_nvs]

theorem length_tagStatsEncode (stats : TagStatistics) :
    (tagStatsEncode stats settingsBlobMax).length = 46 := by
  have hbody := stats.length_toBytes
  rw [tagStatsEncode, length_encode (by rw [hbody]; decide), hbody, TagSettingsHeader.size]

theorem persisted_of_stored {cs : ConfigStorage} {stats : TagStatistics}
    (h : cs.nvs.stored .stats = some (tagStatsEncode stats settingsBlobMax)) :
    cs.persisted = stats := by
  rw [persisted_eq, h]
  dsimp only
  rw [tagStatsDecode_tagStatsEncode (by decide), length_tagStatsEncode]
  rfl

theorem configStorageSaveStatistics_eq (stats : TagStatistics) (cs : ConfigStorage) :
    configStorageSaveStatistics stats cs =
      let saved := settingsSaveOne cs.nvs .stats (tagStatsEncode stats settingsBlobMax)
      (saved.1, { cs with storedStats := stats, nvs := saved.2 }) := by
  rw [configStorageSaveStatistics]
  dsimp only
  rw [if_neg (by rw [length_tagStatsEncode]; decide)]

/-- A save is what the next boot restores, unless it failed: then the last one still is. -/
theorem persisted_configStorageSaveStatistics (stats : TagStatistics) (cs : ConfigStorage) :
    (configStorageSaveStatistics stats cs).2.persisted =
      if (configStorageSaveStatistics stats cs).1 = 0 then stats else cs.persisted := by
  rw [configStorageSaveStatistics_eq, settingsSaveOne]
  dsimp only
  split_ifs with herr
  · exact persisted_of_stored (stored_put_self herr)
  · rw [persisted_eq, persisted_eq, stored_put_failed herr]

/-! ### The configuration a boot loads -/

theorem length_tagConfigEncode (config : TagConfig) :
    (tagConfigEncode config settingsBlobMax).length = 44 := by
  have hbody := config.length_toBytes
  rw [tagConfigEncode, length_encode (by rw [hbody]; decide), hbody, TagSettingsHeader.size]

theorem configStorageSave_eq (config : TagConfig) (cs : ConfigStorage) :
    configStorageSave config cs =
      let saved := settingsSaveOne cs.nvs .config (tagConfigEncode config settingsBlobMax)
      (saved.1, { cs with storedConfig := config, nvs := saved.2 }) := by
  rw [configStorageSave]
  dsimp only
  rw [if_neg (by rw [length_tagConfigEncode]; decide)]

/-- The statistics key does not matter to the configuration. -/
theorem loadKey_stats_storedConfig (readOk : SettingsKey → Bool) (cs : ConfigStorage) :
    (loadKey readOk cs .stats).storedConfig = cs.storedConfig := by
  unfold loadKey settingsSet
  dsimp only
  split
  · rfl
  · split_ifs <;> rfl

/-- A configuration stored under its key is the one loaded. -/
theorem storedConfig_powerOn {cs : ConfigStorage} {config : TagConfig}
    (h : cs.nvs.stored .config = some (tagConfigEncode config settingsBlobMax)) :
    cs.powerOn.storedConfig = config := by
  have hlen := length_tagConfigEncode config
  have hfits : ¬ ((tagConfigEncode config settingsBlobMax).length = 0 ∨
      settingsBlobMax < (tagConfigEncode config settingsBlobMax).length) := by
    rw [hlen]
    decide
  have hload : (loadKey (fun _ => true) (.atReset cs.nvs) .config).storedConfig = config := by
    rw [loadKey, ConfigStorage.atReset, h]
    dsimp only
    rw [settingsSet, if_neg hfits]
    dsimp only
    rw [tagConfigDecode_tagConfigEncode (by decide)]
    rfl
  rw [ConfigStorage.powerOn, settingsLoadSubtree, List.foldl_cons, List.foldl_cons, List.foldl_nil,
    loadKey_stats_storedConfig, hload]

end SmartTag
