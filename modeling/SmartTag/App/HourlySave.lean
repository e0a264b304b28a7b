import SmartTag.App.EventQueue
import SmartTag.App.SavedSettings

/-!
# The hourly save

Statistics live in RAM and reach the settings once an hour, following `flushIfDue`: often enough
for a power cut to cost little, rarely enough for the flash. Commands that change them save them
at once.

* `processSample_saves`: what a sample writes to the settings.
* `statistics_saved_hourly`: what is persisted is never an hour behind, and the settings are
  written once an hour, besides what is asked for.
-/

namespace SmartTag

/-- A tag in one of its boots, with the timestamp of the last sample. -/
structure Uptime where
  device : Device
  sampledAt : UInt32

/-- What reaches the statistics or the settings between two boots. -/
inductive UptimeCall where
  | sample (uptimeMs : Nat) (data : SensorData) (expectedValid : UInt8)
  | raise (uptimeMs : Nat) (type : EventType) (severity : EventSeverity) (value : Int16)
  /-- `app_state_set_time_utc` up to the event that it raises in the end. -/
  | storeEpoch (epoch : UInt32)
  | resetCounters
  /-- `app_state_flush_statistics`. -/
  | flush
  | configure (input : TagConfig)

/-- The calls that write to the settings whenever they are made. -/
def UptimeCall.saves : UptimeCall → Bool
  | .sample .. | .raise .. => false
  | .storeEpoch _ | .resetCounters | .flush | .configure _ => true

/-! ## What a call writes -/

/-- Calls still to be answered by the settings subsystem. -/
def Tag.answers (tag : Tag) : List Int := tag.storage.nvs.results

/-- The statistics the next boot restores. -/
def Tag.persisted (tag : Tag) : TagStatistics := tag.storage.persisted

theorem answers_put (nvs : SettingsBackend) (key : SettingsKey) (value : Option (List UInt8)) :
    (nvs.put key value).2.results = nvs.results.tail := by
  unfold SettingsBackend.put
  dsimp only
  split_ifs <;> rfl

theorem answers_flush (tag : Tag) : (appStateFlushStatistics tag).answers = tag.answers.tail := by
  rw [Tag.answers, appStateFlushStatistics, configStorageSaveStatistics_eq, settingsSaveOne]
  exact answers_put _ _ _

/-- A save that succeeds persists the statistics. -/
theorem persisted_flush {tag : Tag} (h : ∀ r ∈ tag.answers, r = 0) :
    (appStateFlushStatistics tag).persisted = tag.app.statistics := by
  have hnext : tag.storage.nvs.results.headD 0 = 0 := by
    cases hresults : tag.storage.nvs.results with
    | nil => rfl
    | cons r results => exact h r (by rw [Tag.answers, hresults]; exact List.mem_cons_self)
  rw [Tag.persisted, appStateFlushStatistics, persisted_configStorageSaveStatistics, if_pos]
  rw [configStorageSaveStatistics_eq, settingsSaveOne, SettingsBackend.put]
  dsimp only
  rw [if_neg (not_not.2 hnext)]

/-- A configuration is saved under its own key. -/
theorem persisted_configStorageSave (config : TagConfig) (cs : ConfigStorage) :
    (configStorageSave config cs).2.persisted = cs.persisted := by
  rw [configStorageSave_eq, persisted_eq, persisted_eq]
  dsimp only
  rw [settingsSaveOne, stored_put_other (by decide)]

theorem appConfigSet_app (input : TagConfig) (device : Device) :
    (appConfigSet input device).2.tag.app = device.tag.app := by
  by_cases h : appConfigValidate input = true
  · rw [appConfigSet_accepted h]
  · rw [appConfigSet_rejected (by simpa using h)]

theorem appConfigSet_saves (input : TagConfig) (device : Device) :
    (appConfigSet input device).2.tag.persisted = device.tag.persisted ∧
      ((appConfigSet input device).2.tag.answers = device.tag.answers ∨
        (appConfigSet input device).2.tag.answers = device.tag.answers.tail) := by
  by_cases h : appConfigValidate input = true
  · rw [appConfigSet_accepted h]
    refine ⟨persisted_configStorageSave input _, Or.inr ?_⟩
    show (configStorageSave input device.tag.storage).2.nvs.results = _
    rw [configStorageSave_eq]
    exact answers_put _ _ _
  · rw [appConfigSet_rejected (by simpa using h)]
    exact ⟨rfl, Or.inl rfl⟩

theorem timestamp_motionManagerProcess (data : SensorData) (manager : MotionManager) :
    (motionManagerProcess data manager).1.2.timestamp = data.timestamp := by
  unfold motionManagerProcess
  split_ifs <;> rfl

theorem lastStatsFlush_applySample (data : SensorData) (motion : MotionResult) (config : TagConfig)
    (expectedValid : UInt8) (st : AppState) :
    (applySample data motion config expectedValid st).lastStatsFlush = st.lastStatsFlush := by
  have hqueue : ∀ type severity value,
      Run.Preserves (fun st' => st'.lastStatsFlush = st.lastStatsFlush)
        (queueEvent type severity value) := by
    intro type severity value st' h
    unfold queueEvent
    split_ifs <;> exact h
  have hmotion : (applyMotionResult motion { st with lastSample := data }).lastStatsFlush =
      st.lastStatsFlush := by
    refine preserves_applyMotionResult (I := fun st' => st'.lastStatsFlush = st.lastStatsFlush)
      ?_ ?_ ?_ ?_ hqueue ?_ ?_ _ rfl
    · exact fun st' h => hqueue _ _ _ _ h
    · exact fun st' h => hqueue _ _ _ _ h
    · intro st' h
      rw [AppState.shockSeen]
      apply hqueue
      split_ifs <;> exact h
    · exact fun st' h => hqueue _ _ _ _ h
    · exact fun st' h => hqueue _ _ _ _ h
    · exact fun st' h => h
  refine preserves_checkThresholds (I := fun st' => st'.lastStatsFlush = st.lastStatsFlush)
    ?_ ?_ ?_ hqueue _ hmotion
  · exact fun flags st' h => h
  · exact fun st' h => h
  · intro st' h
    unfold noteBattery
    split_ifs <;> exact h

section

variable [Crc16]

theorem raiseBatch_saves (uptimeMs : Nat) (batch : List PendingEvent) (tag : Tag) :
    (raiseBatch uptimeMs batch tag).2.storage = tag.storage ∧
      (raiseBatch uptimeMs batch tag).2.app.lastStatsFlush = tag.app.lastStatsFlush := by
  induction batch generalizing tag with
  | nil => exact ⟨rfl, rfl⟩
  | cons e batch ih =>
      rw [raiseBatch]
      exact ih _

/-- A sample that is due saves the statistics it leaves; another one writes nothing. -/
theorem processSample_saves (uptimeMs : Nat) (data : SensorData) (expectedValid : UInt8)
    (device : Device) :
    let after := (device.processSample uptimeMs data expectedValid).2.tag
    if statsFlushIntervalS ≤ data.timestamp - device.tag.app.lastStatsFlush then
      after.app.lastStatsFlush = data.timestamp ∧
        ∃ tag : Tag, after = appStateFlushStatistics tag ∧ tag.storage = device.tag.storage
    else
      after.app.lastStatsFlush = device.tag.app.lastStatsFlush ∧
        after.storage = device.tag.storage := by
  intro after
  obtain ⟨logged, happ, hstorage, hcall⟩ := appProcessSensorData_eq uptimeMs
    (motionManagerProcess data device.motion).1.2 (motionManagerProcess data device.motion).1.1
    device.config expectedValid device.tag
  have hafter : after = flushIfDue data.timestamp (drainPendingEvents uptimeMs logged).2 := by
    rw [← timestamp_motionManagerProcess data device.motion]
    exact hcall
  obtain ⟨hsame, hlast⟩ := raiseBatch_saves uptimeMs logged.app.pending
    { logged with app := { logged.app with pending := [] } }
  have hlast : (drainPendingEvents uptimeMs logged).2.app.lastStatsFlush =
      device.tag.app.lastStatsFlush := by
    rw [drainPendingEvents, hlast, happ, lastStatsFlush_applySample]
  rw [hafter, flushIfDue, hlast]
  split_ifs
  · exact ⟨rfl, _, rfl, hsame.trans hstorage⟩
  · exact ⟨hlast, hsame.trans hstorage⟩

end

/-! ## One call -/

namespace Uptime

/-- What a boot leaves. -/
def boot (readOk : SettingsKey → Bool) (tag : Tag) : Uptime where
  device := .boot readOk tag
  sampledAt := 0

def statistics (u : Uptime) : TagStatistics := u.device.tag.app.statistics

def lastStatsFlush (u : Uptime) : UInt32 := u.device.tag.app.lastStatsFlush

/-- The uptime never goes back. -/
def Onward (u : Uptime) : UptimeCall → Prop
  | .sample _ data _ => u.sampledAt ≤ data.timestamp
  | _ => True

instance (u : Uptime) : (call : UptimeCall) → Decidable (u.Onward call)
  | .sample _ data _ => inferInstanceAs (Decidable (u.sampledAt ≤ data.timestamp))
  | .raise .. | .storeEpoch _ | .resetCounters | .flush | .configure _ =>
    inferInstanceAs (Decidable True)

section

variable [Crc16]

def step (u : Uptime) : UptimeCall → Uptime
  | .sample uptimeMs data expectedValid =>
    { device := (u.device.processSample uptimeMs data expectedValid).2
      sampledAt := data.timestamp }
  | .raise uptimeMs type severity value =>
    { u with device := { u.device with
        tag := (appRaiseEvent uptimeMs type severity value u.device.tag).2 } }
  | .storeEpoch epoch =>
    { u with device := { u.device with
        tag := appStateFlushStatistics { u.device.tag with
          app := { u.device.tag.app with
            statistics := { u.device.tag.app.statistics with bootEpochUtc := epoch } } } } }
  | .resetCounters => { u with device := u.device.resetCounters }
  | .flush =>
    { u with device := { u.device with tag := appStateFlushStatistics u.device.tag } }
  | .configure input => { u with device := (appConfigSet input u.device).2 }

/-- The next sample is not due before an hour has passed. -/
def Fresh (u : Uptime) : Prop :=
  u.lastStatsFlush.toNat ≤ u.sampledAt.toNat ∧
    u.sampledAt.toNat < u.lastStatsFlush.toNat + statsFlushIntervalS.toNat

/-- A call between two hourly saves. -/
structure Between (u : Uptime) (call : UptimeCall) (after : Uptime) : Prop where
  last : after.lastStatsFlush = u.lastStatsFlush
  fresh : after.Fresh
  answers : after.device.tag.answers = u.device.tag.answers ∨
    call.saves = true ∧ after.device.tag.answers = u.device.tag.answers.tail
  persisted : (∀ r ∈ u.device.tag.answers, r = 0) →
    after.device.tag.persisted = u.device.tag.persisted ∨
      after.device.tag.persisted = after.statistics

/-- A call that saves what the hour has brought. -/
structure Hourly (u after : Uptime) : Prop where
  last : after.lastStatsFlush = after.sampledAt
  late : u.lastStatsFlush.toNat + statsFlushIntervalS.toNat ≤ after.sampledAt.toNat
  answers : after.device.tag.answers = u.device.tag.answers.tail
  persisted : (∀ r ∈ u.device.tag.answers, r = 0) →
    after.device.tag.persisted = after.statistics

theorem step_sample {u : Uptime} (h : u.Fresh) (uptimeMs : Nat) {data : SensorData}
    (expectedValid : UInt8) (hmono : u.sampledAt ≤ data.timestamp) :
    u.Between (.sample uptimeMs data expectedValid) (u.step (.sample uptimeMs data expectedValid)) ∨
      u.Hourly (u.step (.sample uptimeMs data expectedValid)) := by
  have hsaves := processSample_saves uptimeMs data expectedValid u.device
  have hle : u.lastStatsFlush.toNat ≤ data.timestamp.toNat :=
    h.1.trans (UInt32.le_iff_toNat_le.1 hmono)
  have hsub : (data.timestamp - u.device.tag.app.lastStatsFlush).toNat =
      data.timestamp.toNat - u.lastStatsFlush.toNat :=
    UInt32.toNat_sub_of_le _ _ (UInt32.le_iff_toNat_le.2 hle)
  by_cases hdue : statsFlushIntervalS ≤ data.timestamp - u.device.tag.app.lastStatsFlush
  · rw [if_pos hdue] at hsaves
    obtain ⟨hlast, tag, hafter, hstorage⟩ := hsaves
    have hanswers : tag.answers = u.device.tag.answers := by rw [Tag.answers, hstorage, Tag.answers]
    have hlate := UInt32.le_iff_toNat_le.1 hdue
    refine Or.inr ⟨hlast, ?_, ?_, fun hok => ?_⟩
    · show u.lastStatsFlush.toNat + statsFlushIntervalS.toNat ≤ data.timestamp.toNat
      omega
    · rw [← hanswers, ← answers_flush]
      exact congrArg Tag.answers hafter
    · rw [← hanswers] at hok
      have hsaved := persisted_flush hok
      rw [step, Uptime.statistics]
      dsimp only
      rw [hafter]
      exact hsaved
  · rw [if_neg hdue] at hsaves
    obtain ⟨hlast, hstorage⟩ := hsaves
    have hearly := UInt32.lt_iff_toNat_lt.1 (UInt32.not_le.1 hdue)
    have hlast : (u.step (.sample uptimeMs data expectedValid)).lastStatsFlush =
        u.lastStatsFlush := hlast
    refine Or.inl ⟨hlast, ?_, Or.inl (congrArg (fun cs => cs.nvs.results) hstorage), fun _ =>
      Or.inl (congrArg ConfigStorage.persisted hstorage)⟩
    rw [Fresh, hlast]
    refine ⟨hle, ?_⟩
    show data.timestamp.toNat < _
    omega

theorem step_cases {u : Uptime} (h : u.Fresh) {call : UptimeCall} (hmono : u.Onward call) :
    u.Between call (u.step call) ∨ u.Hourly (u.step call) := by
  cases call with
  | sample uptimeMs data expectedValid => exact step_sample h uptimeMs expectedValid hmono
  | raise uptimeMs type severity value =>
      exact Or.inl ⟨rfl, h, Or.inl rfl, fun _ => Or.inl rfl⟩
  | storeEpoch epoch =>
      exact Or.inl ⟨rfl, h, Or.inr ⟨rfl, answers_flush _⟩, fun hok => Or.inr (persisted_flush hok)⟩
  | resetCounters =>
      exact Or.inl ⟨rfl, h, Or.inr ⟨rfl, answers_flush _⟩, fun hok => Or.inr (persisted_flush hok)⟩
  | flush =>
      exact Or.inl ⟨rfl, h, Or.inr ⟨rfl, answers_flush _⟩, fun hok => Or.inr (persisted_flush hok)⟩
  | configure input =>
      have happ := appConfigSet_app input u.device
      obtain ⟨hpersisted, hanswers⟩ := appConfigSet_saves input u.device
      have hlast : (u.step (.configure input)).lastStatsFlush = u.lastStatsFlush :=
        congrArg AppState.lastStatsFlush happ
      refine Or.inl ⟨hlast, ?_, ?_, fun _ => Or.inl hpersisted⟩
      · rw [Fresh, hlast]
        exact h
      · rcases hanswers with hsame | htail
        · exact Or.inl hsame
        · exact Or.inr ⟨rfl, htail⟩

/-! ## A boot -/

/-- Where the persisted statistics come from, after the calls `calls` of a boot. -/
structure Saves (start : Uptime) (calls : List UptimeCall) (u : Uptime) : Prop where
  fresh : u.Fresh
  answers : start.device.tag.answers.length ≤ u.device.tag.answers.length +
    (u.lastStatsFlush.toNat / statsFlushIntervalS.toNat + calls.countP UptimeCall.saves)
  succeed : (∀ r ∈ start.device.tag.answers, r = 0) → ∀ r ∈ u.device.tag.answers, r = 0
  persisted : (∀ r ∈ start.device.tag.answers, r = 0) →
    (u.lastStatsFlush = 0 ∧ u.device.tag.persisted = start.device.tag.persisted) ∨
      ∃ k ≤ calls.length, u.lastStatsFlush.toNat ≤
          (Run.final step start (calls.take k)).sampledAt.toNat ∧
        u.device.tag.persisted = (Run.final step start (calls.take k)).statistics

variable {start u : Uptime} {calls : List UptimeCall} {call : UptimeCall}

theorem Saves.between (h : Saves start calls u) (hu : u = Run.final step start calls)
    (hcall : u.Between call (u.step call)) : Saves start (calls ++ [call]) (u.step call) := by
  have hsucceed : (∀ r ∈ start.device.tag.answers, r = 0) →
      ∀ r ∈ (u.step call).device.tag.answers, r = 0 := by
    intro hok r hr
    rcases hcall.answers with hsame | ⟨-, htail⟩
    · exact h.succeed hok r (hsame ▸ hr)
    · exact h.succeed hok r (List.mem_of_mem_tail (htail ▸ hr))
  refine ⟨hcall.fresh, ?_, hsucceed, fun hok => ?_⟩
  · have hanswers := h.answers
    rw [hcall.last, List.countP_append, List.countP_singleton]
    rcases hcall.answers with hsame | ⟨hsaves, htail⟩
    · rw [hsame]
      omega
    · rw [htail, List.length_tail, if_pos hsaves]
      omega
  · rcases hcall.persisted (h.succeed hok) with hsame | hnow
    · rw [hcall.last, hsame]
      rcases h.persisted hok with hboot | ⟨k, hk, hlate, hpersisted⟩
      · exact Or.inl hboot
      · right
        refine ⟨k, ?_, ?_⟩
        · rw [List.length_append]
          omega
        · rw [List.take_append_of_le_length hk]
          exact ⟨hlate, hpersisted⟩
    · right
      refine ⟨(calls ++ [call]).length, le_rfl, ?_⟩
      rw [List.take_length, Run.final_concat, ← hu]
      exact ⟨hcall.fresh.1, hnow⟩

theorem Saves.hourly (h : Saves start calls u) (hu : u = Run.final step start calls)
    (hcall : u.Hourly (u.step call)) : Saves start (calls ++ [call]) (u.step call) := by
  refine ⟨⟨?_, ?_⟩, ?_, fun hok r hr => ?_, fun hok => ?_⟩
  · rw [hcall.last]
  · rw [hcall.last]
    exact Nat.lt_add_of_pos_right (by decide)
  · have hanswers := h.answers
    have hlate := hcall.late
    have hhour : (u.lastStatsFlush.toNat + statsFlushIntervalS.toNat) / statsFlushIntervalS.toNat ≤
        (u.step call).lastStatsFlush.toNat / statsFlushIntervalS.toNat := by
      rw [hcall.last]
      exact Nat.div_le_div_right hlate
    rw [Nat.add_div_right _ (by decide)] at hhour
    rw [hcall.answers, List.length_tail, List.countP_append]
    omega
  · rw [hcall.answers] at hr
    exact h.succeed hok r (List.mem_of_mem_tail hr)
  · right
    refine ⟨(calls ++ [call]).length, le_rfl, ?_⟩
    rw [List.take_length, Run.final_concat, ← hu]
    exact ⟨by rw [hcall.last], hcall.persisted (h.succeed hok)⟩

theorem saves_final (hfresh : start.Fresh) (hzero : start.lastStatsFlush = 0)
    (halong : Run.Along step Onward start calls) :
    Saves start calls (Run.final step start calls) := by
  induction calls using List.reverseRecOn with
  | nil => exact ⟨hfresh, Nat.le_add_right _ _, id, fun _ => Or.inl ⟨hzero, rfl⟩⟩
  | append_singleton calls call ih =>
      obtain ⟨hcalls, honward⟩ := Run.along_concat.1 halong
      have hsaves := ih hcalls
      rw [Run.final_concat]
      rcases step_cases hsaves.fresh honward with hbetween | hhourly
      · exact hsaves.between rfl hbetween
      · exact hsaves.hourly rfl hhourly

/-- In a boot whose samples come in the order of their uptimes: the settings are written at most
once for each hour of uptime, and for each call that asks for it. If the writes succeed, what the
next boot would restore is what the statistics were within the last hour, or what this boot restored
while it is younger than that. -/
theorem statistics_saved_hourly (readOk : SettingsKey → Bool) (tag : Tag)
    (calls : List UptimeCall) (honward : Run.Along step Onward (boot readOk tag) calls) :
    let start := boot readOk tag
    let u := Run.final step start calls
    start.device.tag.answers.length ≤ u.device.tag.answers.length +
        (u.sampledAt.toNat / 3600 + calls.countP UptimeCall.saves) ∧
      ((∀ r ∈ start.device.tag.answers, r = 0) →
        (u.sampledAt.toNat < 3600 ∧ u.device.tag.persisted = start.device.tag.persisted) ∨
          ∃ k ≤ calls.length, let saved := Run.final step start (calls.take k)
            u.sampledAt.toNat < saved.sampledAt.toNat + 3600 ∧
              u.device.tag.persisted = saved.statistics) := by
  intro start u
  have hsaves : Saves start calls u :=
    saves_final ⟨le_rfl, Nat.lt_add_of_pos_right (by decide)⟩ rfl honward
  have hfresh := hsaves.fresh
  have hhour : statsFlushIntervalS.toNat = 3600 := rfl
  obtain ⟨hle, hlt⟩ := hfresh
  rw [hhour] at hlt
  constructor
  · have hanswers := hsaves.answers
    have hdiv := Nat.div_le_div_right (c := 3600) hle
    rw [hhour] at hanswers
    omega
  · intro hok
    rcases hsaves.persisted hok with ⟨hzero, hboot⟩ | ⟨k, hk, hlate, hpersisted⟩
    · rw [hzero] at hlt
      exact Or.inl ⟨by simpa using hlt, hboot⟩
    · exact Or.inr ⟨k, hk, by omega, hpersisted⟩

end

/-- A tag fresh from the factory, whose next four saves succeed. -/
def fourSavesTag : Tag :=
  { newTag with storage := .atReset { stored := fun _ => none, results := [0, 0, 0, 0] } }

/-- Two samples in the first hour, one after it, and another one at the end of the second. -/
def twoHours : List UptimeCall :=
  [60, 3599, 3700, 7299].map fun timestamp =>
    .sample (timestamp * 1000)
      { AppState.atReset.lastSample with timestamp := UInt32.ofNat timestamp } 0

theorem statistics_saved_hourly_two_hours :
    let start := boot (fun _ => true) fourSavesTag
    let u := Run.final step start twoHours
    4 ≤ u.device.tag.answers.length + (u.sampledAt.toNat / 3600 + 0) ∧
      ((u.sampledAt.toNat < 3600 ∧ u.device.tag.persisted = start.device.tag.persisted) ∨
        ∃ k ≤ twoHours.length, let saved := Run.final step start (twoHours.take k)
          u.sampledAt.toNat < saved.sampledAt.toNat + 3600 ∧
            u.device.tag.persisted = saved.statistics) := by
  have h := statistics_saved_hourly (fun _ => true) fourSavesTag twoHours (by decide +kernel)
  exact ⟨h.1, h.2 (by decide +kernel)⟩

end Uptime

end SmartTag
