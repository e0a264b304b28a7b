import SmartTag.App.ConfigWrite
import SmartTag.Lib.ReadModifyWrite

/-!
# Concurrent configuration changes

`app_config_set` holds its lock for the assignment alone. Around it there are two races: callers
that change one field copy the configuration first and set it later, and the copies of a new
configuration are made after the lock is dropped.

* `no_update_lost_iff`: updates of single fields are all kept exactly when no copy is stale at its
  assignment.
* `copies_agree_iff`: the copies agree in the end exactly when the last caller to reach each one
  brings what the last one to assign has assigned.
-/

namespace SmartTag

/-! ## Updates of one field -/

/-- A change of one field. -/
inductive FieldUpdate where
  | operatingMode (mode : UInt8)
  | samplingInterval (seconds : UInt16)
  | gasLowThreshold (ohm : UInt32)
deriving DecidableEq, Repr

namespace FieldUpdate

def apply (config : TagConfig) : FieldUpdate → TagConfig
  | .operatingMode mode => { config with operatingMode := mode }
  | .samplingInterval seconds => { config with samplingIntervalS := seconds }
  | .gasLowThreshold ohm => { config with gasLowThresholdOhm := ohm }

def mode? : FieldUpdate → Option UInt8
  | .operatingMode mode => some mode
  | _ => none

def interval? : FieldUpdate → Option UInt16
  | .samplingInterval seconds => some seconds
  | _ => none

def gasLow? : FieldUpdate → Option UInt32
  | .gasLowThreshold ohm => some ohm
  | _ => none

end FieldUpdate

/-- The configuration that holds, for every field, the value of its last update. -/
def afterUpdates (config : TagConfig) (done : List FieldUpdate) : TagConfig :=
  { config with
    operatingMode := (done.filterMap FieldUpdate.mode?).getLastD config.operatingMode
    samplingIntervalS := (done.filterMap FieldUpdate.interval?).getLastD config.samplingIntervalS
    gasLowThresholdOhm := (done.filterMap FieldUpdate.gasLow?).getLastD config.gasLowThresholdOhm }

theorem foldl_apply_eq (config : TagConfig) (done : List FieldUpdate) :
    done.foldl FieldUpdate.apply config = afterUpdates config done := by
  induction done generalizing config with
  | nil => rfl
  | cons update done ih =>
      rw [List.foldl_cons, ih]
      cases update <;>
        simp only [afterUpdates, FieldUpdate.apply, FieldUpdate.mode?, FieldUpdate.interval?,
          FieldUpdate.gasLow?, List.filterMap_cons, List.getLastD_cons]

/-- The field a call updates, and the value it gives it. -/
def ConfigOp.update? (device : Device) : ConfigOp → Option FieldUpdate
  | .setMode mode => some (.operatingMode mode.toUInt8)
  | .setSamplingInterval seconds => some (.samplingInterval seconds)
  | .write _ (.bleSetMode argument) => some (.operatingMode argument.toUInt8)
  | .write _ (.zigbeeAttribute clusterId attrId value) =>
    if clusterId ≠ zclClusterIdTagMonitor then none
    else if attrId = tagAttrOperatingMode then some (.operatingMode value.toUInt8)
    else if attrId = tagAttrSamplingInterval then some (.samplingInterval value.toUInt16)
    else none
  | .write _ .gasSnapshot =>
    let sample := device.tag.app.lastSample
    if sample.valid &&& sensorValidGas = 0 ∨ sample.gasResistanceOhm = 0 then none
    else some (.gasLowThreshold (snapshotFloor sample))
  | _ => none

theorem ConfigOp.requested_of_update {device : Device} {op : ConfigOp} {update : FieldUpdate}
    (h : op.update? device = some update) :
    op.requested device = some (update.apply device.config) := by
  cases op with
  | set config => cases h
  | setMode mode => cases h; rfl
  | setSamplingInterval seconds => cases h; rfl
  | reset => cases h
  | write uptimeMs w =>
      cases w with
      | bleConfig buf offset => cases h
      | bleSetMode argument => cases h; rfl
      | zigbeeAttribute clusterId attrId value =>
          simp only [update?] at h
          simp only [requested, ConfigWrite.requested]
          split_ifs at h ⊢ <;> cases h <;> rfl
      | gasSnapshot =>
          simp only [update?] at h
          simp only [requested, ConfigWrite.requested]
          split_ifs at h ⊢
          cases h
          rfl

/-! ## Callers between their copy and their assignment -/

/-- The configuration in force, with the copies of the calls under way. -/
abbrev ConfigRace (ι : Type*) := ReadModifyWrite.State ι TagConfig

section

variable {ι : Type*}

/-- Every update that has taken effect is there, unless a later one of the same field is. -/
def ConfigRace.AllKept (updates : ι → FieldUpdate) (config : TagConfig) (race : ConfigRace ι) :
    Prop :=
  race.value = afterUpdates config (race.done.map updates)

/-- What a call does with its copy. -/
def changeCopy (updates : ι → FieldUpdate) (i : ι) (copy : TagConfig) : TagConfig :=
  (updates i).apply copy

theorem isSerial_iff_allKept (updates : ι → FieldUpdate) (config : TagConfig)
    (race : ConfigRace ι) :
    race.IsSerial (changeCopy updates) config ↔ race.AllKept updates config := by
  rw [ConfigRace.AllKept, ← foldl_apply_eq, List.foldl_map]
  exact Iff.rfl

variable [DecidableEq ι]

/-- One locked section: the copy of `app_config_get` or the assignment of `app_config_set`. -/
def ConfigRace.step (updates : ι → FieldUpdate) (race : ConfigRace ι)
    (locked : ReadModifyWrite.Section ι) : ConfigRace ι :=
  ReadModifyWrite.step (changeCopy updates) appConfigValidate race locked

/-- The copy an accepted assignment is made from is the configuration in force, but for the field
it updates. -/
def ConfigRace.NotStale (updates : ι → FieldUpdate) (race : ConfigRace ι)
    (locked : ReadModifyWrite.Section ι) : Prop :=
  ReadModifyWrite.Fresh (changeCopy updates) appConfigValidate race locked

/-- A call that meets no other one updates its field as the two sections do in a row. -/
theorem config_step_of_update [Crc16] {device : Device} {op : ConfigOp} {update : FieldUpdate}
    (h : op.update? device = some update) :
    (ConfigOp.step device op).config =
      (Run.final (ConfigRace.step fun _ : Unit => update) (.start device.config)
        [.read (), .write ()]).value := by
  rw [ConfigOp.config_step, ConfigOp.requested_of_update h, Option.filter_some]
  by_cases hvalid : appConfigValidate (update.apply device.config) = true
  · simp [ConfigRace.step, ReadModifyWrite.step, ReadModifyWrite.State.start, changeCopy, hvalid]
  · simp [ConfigRace.step, ReadModifyWrite.step, ReadModifyWrite.State.start, changeCopy, hvalid]

/-- For every interleaving of any number of updates: in every state each field has the value of
the last update of it that took effect, exactly when no assignment is made from a stale copy. That
is so when nobody assigns while another caller holds a copy. -/
theorem no_update_lost_iff (updates : ι → FieldUpdate) (config : TagConfig)
    (sections : List (ReadModifyWrite.Section ι)) :
    ((∀ m, (Run.final (ConfigRace.step updates) (.start config) (sections.take m)).AllKept
          updates config) ↔
        Run.Along (ConfigRace.step updates) (ConfigRace.NotStale updates) (.start config)
          sections) ∧
      (Run.Along (ConfigRace.step updates) ReadModifyWrite.Exclusive (.start config) sections →
        ∀ m, (Run.final (ConfigRace.step updates) (.start config) (sections.take m)).AllKept
          updates config) := by
  have hiff := ReadModifyWrite.value_eq_serial_iff (changeCopy updates) appConfigValidate config
    sections
  simp only [isSerial_iff_allKept] at hiff
  refine ⟨hiff, fun hexclusive => hiff.2 ?_⟩
  exact ReadModifyWrite.fresh_of_exclusive (fun i copy hcopy => by cases hcopy) hexclusive

end

/-- The phone sets the mode while the gateway sets the interval: both assignments are accepted, and
the mode is lost. -/
theorem update_lost :
    let updates : Bool → FieldUpdate := fun i =>
      if i then .operatingMode 2 else .samplingInterval 300
    let race := Run.final (ConfigRace.step updates) (.start TagConfig.defaults)
      [.read true, .read false, .write true, .write false]
    race.done = [true, false] ∧ race.value.operatingMode = 0 ∧
      ¬ race.AllKept updates TagConfig.defaults := by
  unfold ConfigRace.AllKept
  decide

/-- Callers that take turns. -/
theorem update_kept_in_turn :
    let updates : Bool → FieldUpdate := fun i =>
      if i then .operatingMode 2 else .samplingInterval 300
    (Run.final (ConfigRace.step updates) (.start TagConfig.defaults)
      ([ReadModifyWrite.Section.read true, .write true, .read false, .write false].take 4)).AllKept
        updates TagConfig.defaults := by
  apply (no_update_lost_iff _ _ _).2
  refine ⟨trivial, ?_, trivial, ?_, trivial⟩
  · intro j hj
    cases j <;> first | contradiction | rfl
  · intro j hj
    cases j <;> first | contradiction | rfl

/-! ## The copies of a new configuration -/

/-- The atomic steps of an accepted `app_config_set`. -/
inductive FanOut where
  | assign | motion | led | save
deriving DecidableEq, Repr

/-- The order in which a call takes them. -/
def fanOut : List FanOut := [.assign, .motion, .led, .save]

/-- All copies are those of the configuration in force, and so is the one the next boot loads. -/
def Device.Agrees (device : Device) : Prop :=
  device.copies = .all device.config ∧ device.tag.storage.powerOn.storedConfig = device.config

instance (device : Device) : Decidable device.Agrees := inferInstanceAs (Decidable (_ ∧ _))

theorem agrees_iff (device : Device) :
    device.Agrees ↔ device.motion.config = device.config ∧
      device.ledEnabled = decide (device.config.ledEnabled ≠ 0) ∧
      device.tag.storage.storedConfig = device.config ∧
      device.tag.storage.powerOn.storedConfig = device.config := by
  simp only [Device.Agrees, Device.copies, Copies.all, Copies.mk.injEq, appConfigGet,
    configStorageLoad, true_and, and_assoc]

section

variable {ι : Type*}

def fanOutStep (calls : ι → AcceptedConfig) (device : Device) (e : ι × FanOut) : Device :=
  let applied := (calls e.1).config
  match e.2 with
  | .assign => device.assignConfig applied
  | .motion => device.updateMotion applied
  | .led => device.setLed applied
  | .save => (device.saveConfig applied).2

/-- A call that meets no other one. -/
theorem appConfigSet_eq_fanOut (calls : ι → AcceptedConfig) (i : ι) (device : Device) :
    (appConfigSet (calls i).config device).2 =
      Run.final (fanOutStep calls) device (fanOut.map fun point => (i, point)) := by
  rw [appConfigSet, (calls i).accepted]
  rfl

/-- The calls that take a step, in order. -/
def callersAt (point : FanOut) (events : List (ι × FanOut)) : List ι :=
  (events.filter fun e => e.2 = point).map Prod.fst

/-- The last call to take a step. -/
def lastAt (point : FanOut) (events : List (ι × FanOut)) : Option ι :=
  (callersAt point events).getLast?

theorem lastAt_concat (point : FanOut) (events : List (ι × FanOut)) (e : ι × FanOut) :
    lastAt point (events ++ [e]) = if e.2 = point then some e.1 else lastAt point events := by
  by_cases h : e.2 = point
  · simp [lastAt, callersAt, h]
  · simp [lastAt, callersAt, h]

/-- Saves go on succeeding. -/
theorem results_fanOutStep (calls : ι → AcceptedConfig) {device : Device}
    (h : device.tag.storage.nvs.results = []) (e : ι × FanOut) :
    (fanOutStep calls device e).tag.storage.nvs.results = [] := by
  obtain ⟨i, point⟩ := e
  cases point with
  | save =>
      simp [fanOutStep, Device.saveConfig, configStorageSave_eq, settingsSaveOne, put_quiet h, h]
  | _ => exact h

/-- What one of the steps sets, and the others leave alone, is what the last call to take that step
has brought. -/
theorem final_eq_lastAt {α : Type*} (calls : ι → AcceptedConfig) (copy : Device → α)
    (point : FanOut) (brings : TagConfig → α)
    (hset : ∀ device i, device.tag.storage.nvs.results = [] →
      copy (fanOutStep calls device (i, point)) = brings (calls i).config)
    (hkeep : ∀ device i other, other ≠ point →
      copy (fanOutStep calls device (i, other)) = copy device)
    {before : Device} (hresults : before.tag.storage.nvs.results = [])
    (events : List (ι × FanOut)) :
    copy (Run.final (fanOutStep calls) before events) =
      (lastAt point events).elim (copy before) fun i => brings (calls i).config := by
  induction events using List.reverseRecOn with
  | nil => rfl
  | append_singleton events e ih =>
      have hok : (Run.final (fanOutStep calls) before events).tag.storage.nvs.results = [] :=
        Run.final_preserves (I := fun device : Device => device.tag.storage.nvs.results = [])
          (fun _ e h => results_fanOutStep calls h e) hresults events
      obtain ⟨i, other⟩ := e
      rw [Run.final_concat, lastAt_concat]
      by_cases h : other = point
      · subst h
        rw [if_pos rfl, hset _ _ hok]
        rfl
      · rw [if_neg h, hkeep _ _ _ h]
        exact ih

/-- Where the configuration and its copies come from. -/
structure CopiesFrom (calls : ι → AcceptedConfig) (before : Device) (events : List (ι × FanOut))
    (device : Device) : Prop where
  config : device.config =
    (lastAt .assign events).elim before.config fun i => (calls i).config
  motion : device.motion.config =
    (lastAt .motion events).elim before.motion.config fun i => (calls i).config
  led : device.ledEnabled =
    (lastAt .led events).elim before.ledEnabled fun i => decide ((calls i).config.ledEnabled ≠ 0)
  stored : device.tag.storage.storedConfig =
    (lastAt .save events).elim before.tag.storage.storedConfig fun i => (calls i).config
  persisted : device.tag.storage.powerOn.storedConfig =
    (lastAt .save events).elim before.tag.storage.powerOn.storedConfig fun i => (calls i).config

theorem persisted_saveConfig {device : Device} (h : device.tag.storage.nvs.results = [])
    (config : TagConfig) :
    (device.saveConfig config).2.tag.storage.powerOn.storedConfig = config := by
  apply storedConfig_powerOn
  simp [Device.saveConfig, configStorageSave_eq, settingsSaveOne, put_quiet h]

theorem copiesFrom_final (calls : ι → AcceptedConfig) {before : Device}
    (hresults : before.tag.storage.nvs.results = []) (events : List (ι × FanOut)) :
    CopiesFrom calls before events (Run.final (fanOutStep calls) before events) where
  config := by
    refine final_eq_lastAt calls Device.config .assign id (fun _ _ _ => rfl) ?_ hresults events
    intro device i other h
    cases other <;> first | contradiction | rfl
  motion := by
    refine final_eq_lastAt calls (fun device => device.motion.config) .motion id
      (fun _ _ _ => rfl) ?_ hresults events
    intro device i other h
    cases other <;> first | contradiction | rfl
  led := by
    refine final_eq_lastAt calls Device.ledEnabled .led
      (fun config => decide (config.ledEnabled ≠ 0)) (fun _ _ _ => rfl) ?_ hresults events
    intro device i other h
    cases other <;> first | contradiction | rfl
  stored := by
    refine final_eq_lastAt calls (fun device => device.tag.storage.storedConfig) .save id ?_ ?_
      hresults events
    · intro device i _
      simp [fanOutStep, Device.saveConfig, configStorageSave_eq]
    · intro device i other h
      cases other <;> first | contradiction | rfl
  persisted := by
    refine final_eq_lastAt calls (fun device => device.tag.storage.powerOn.storedConfig) .save id
      (fun device i h => persisted_saveConfig h _) ?_ hresults events
    intro device i other h
    cases other <;> first | contradiction | rfl

/-! ### When all have returned -/

/-- The last call to reach each copy brings what the last one to assign has assigned. -/
def LastCallsAgree (calls : ι → AcceptedConfig) (events : List (ι × FanOut)) : Prop :=
  ∀ a ∈ lastAt .assign events,
    (∀ i ∈ lastAt .motion events, (calls i).config = (calls a).config) ∧
    (∀ i ∈ lastAt .led events,
      ((calls i).config.ledEnabled ≠ 0 ↔ (calls a).config.ledEnabled ≠ 0)) ∧
    (∀ i ∈ lastAt .save events, (calls i).config = (calls a).config)

variable [DecidableEq ι]

/-- Each call has taken all of its steps in order, or none. -/
def AllReturned (events : List (ι × FanOut)) : Prop :=
  ∀ i, (events.filter fun e => e.1 = i).map Prod.snd ∈ [[], fanOut]

/-- If anyone has called, every step has been taken by someone. -/
theorem exists_lastAt {events : List (ι × FanOut)} (h : AllReturned events) (hne : events ≠ [])
    (point : FanOut) : ∃ i, lastAt point events = some i := by
  obtain ⟨e, hmem⟩ := List.exists_mem_of_ne_nil events hne
  have hsteps : (events.filter fun e' => e'.1 = e.1).map Prod.snd = fanOut := by
    have hmine : e ∈ events.filter fun e' => e'.1 = e.1 := List.mem_filter.2 ⟨hmem, by simp⟩
    have hnot : (events.filter fun e' => e'.1 = e.1).map Prod.snd ≠ [] := by
      intro hnil
      rw [List.map_eq_nil_iff] at hnil
      rw [hnil] at hmine
      cases hmine
    have hcases := h e.1
    simp only [List.mem_cons, List.not_mem_nil, or_false] at hcases
    exact hcases.resolve_left hnot
  have hpoint : point ∈ (events.filter fun e' => e'.1 = e.1).map Prod.snd := by
    rw [hsteps]
    cases point <;> decide
  obtain ⟨e', hmem', rfl⟩ := List.mem_map.1 hpoint
  have hcallers : e'.1 ∈ callersAt e'.2 events :=
    List.mem_map.2 ⟨e', List.mem_filter.2 ⟨(List.mem_filter.1 hmem').1, by simp⟩, rfl⟩
  exact ⟨_, List.getLast?_eq_some_getLast (List.ne_nil_of_mem hcallers)⟩

/-- For every interleaving of any number of accepted calls whose saves succeed: once all have
returned, the copies agree with the configuration in force exactly when the last call to reach each
of them brings what the last one to assign has assigned, and they agreed before if nobody has
called. That is so when the calls reach each copy in the order in which they took the lock. -/
theorem copies_agree_iff (calls : ι → AcceptedConfig) {before : Device}
    (hsaves : before.tag.storage.nvs.results = []) {events : List (ι × FanOut)}
    (hreturned : AllReturned events) :
    ((Run.final (fanOutStep calls) before events).Agrees ↔
        (events = [] → before.Agrees) ∧ LastCallsAgree calls events) ∧
      (events ≠ [] → (∀ point, callersAt point events = callersAt .assign events) →
        (Run.final (fanOutStep calls) before events).Agrees) := by
  have hiff : (Run.final (fanOutStep calls) before events).Agrees ↔
      (events = [] → before.Agrees) ∧ LastCallsAgree calls events := by
    by_cases hnil : events = []
    · subst hnil
      have hlast : LastCallsAgree calls [] := fun a ha => by cases ha
      simp [hlast]
    · obtain ⟨a, ha⟩ := exists_lastAt hreturned hnil .assign
      obtain ⟨m, hm⟩ := exists_lastAt hreturned hnil .motion
      obtain ⟨l, hl⟩ := exists_lastAt hreturned hnil .led
      obtain ⟨s, hs⟩ := exists_lastAt hreturned hnil .save
      obtain ⟨hconfig, hmotion, hled, hstored, hpersisted⟩ :=
        copiesFrom_final calls hsaves events
      simp only [ha, hm, hl, hs, Option.elim_some] at hconfig hmotion hled hstored hpersisted
      simp [agrees_iff, LastCallsAgree, hconfig, hmotion, hled, hstored, hpersisted, ha, hm, hl,
        hs, hnil, not_iff_not]
  refine ⟨hiff, fun hne horder => hiff.2 ⟨fun hnil => absurd hnil hne, ?_⟩⟩
  have hlast : ∀ point, lastAt point events = lastAt .assign events := by
    intro point
    rw [lastAt, horder point, lastAt]
  intro a ha
  simp only [hlast]
  refine ⟨?_, ?_, ?_⟩
  · intro i hi
    rw [Option.mem_unique hi ha]
  · intro i hi
    rw [Option.mem_unique hi ha]
  · intro i hi
    rw [Option.mem_unique hi ha]

end

/-- Two accepted configurations. -/
def twoCalls (i : Bool) : AcceptedConfig :=
  if i then { config := TagConfig.defaults, accepted := appConfigValidate_defaults }
  else
    { config := { TagConfig.defaults with shockThresholdMg := 2000, ledEnabled := 0 }
      accepted := by decide }

/-- The first caller is overtaken after its assignment: its configuration is in the motion manager,
the LED and the settings, the other one in force. -/
theorem copies_disagree :
    let events := [(true, FanOut.assign)] ++ fanOut.map (fun point => (false, point)) ++
      [(true, .motion), (true, .led), (true, .save)]
    let device := Run.final (fanOutStep twoCalls) newDevice events
    AllReturned events ∧ device.config.shockThresholdMg = 2000 ∧
      device.motion.config.shockThresholdMg = 4000 ∧ device.ledEnabled = true ∧
      device.tag.storage.storedConfig.shockThresholdMg = 4000 ∧ ¬ device.Agrees := by
  unfold AllReturned
  decide +kernel

/-- Calls that overlap but keep their order. -/
theorem copies_agree_in_order :
    (Run.final (fanOutStep twoCalls) newDevice
      [(true, .assign), (false, .assign), (true, .motion), (false, .motion), (true, .led),
        (false, .led), (true, .save), (false, .save)]).Agrees :=
  (copies_agree_iff twoCalls (by decide +kernel) (by unfold AllReturned; decide)).2 (by simp)
    (by intro point; cases point <;> decide)

end SmartTag
