import SmartTag.App.SavedSettings
import SmartTag.Storage.History

/-!
# Factory reset

`app_state_factory_reset` runs on one thread, clears the logs and the settings one after the other
and sleeps before it reboots; the sampling thread goes on meanwhile. `ResetRun` interleaves the two
at the calls they make, each of which is atomic.

* `appProcessSensorData_eq_sampler`: an iteration the reset does not interrupt is
  `appProcessSensorData`.
* `factory_reset_clean`: nothing is left behind where the sampling thread writes nothing that has
  been cleared before.
-/

namespace SmartTag

/-- `event_log_clear`. -/
def eventLogClear [Crc16] (log : FlashLog) : Int × FlashLog := flashLogErase log

/-- `sensor_log_clear`. -/
def sensorLogClear [Crc16] (log : FlashLog) : Int × FlashLog := flashLogErase log

/-! ## The reset -/

/-- The calls of `app_state_factory_reset` that write something. -/
inductive ResetOp where
  | raise | clearEvents | clearSensors | clearSettings | resetConfig
deriving DecidableEq, Repr

/-- Their order; the reboot follows. -/
def factoryReset : List ResetOp :=
  [.raise, .clearEvents, .clearSensors, .clearSettings, .resetConfig]

namespace Device

/-- Work on the tag alone. -/
def onTag (f : Tag → Tag) (device : Device) : Device := { device with tag := f device.tag }

end Device

def ResetOp.perform [Crc16] (uptimeMs : Nat) (device : Device) : ResetOp → Device
  | .raise => device.onTag fun tag => (appRaiseEvent uptimeMs .factoryReset .warning 0 tag).2
  | .clearEvents => device.onTag fun tag => { tag with eventLog := (eventLogClear tag.eventLog).2 }
  | .clearSensors =>
    device.onTag fun tag => { tag with sensorLog := (sensorLogClear tag.sensorLog).2 }
  | .clearSettings =>
    device.onTag fun tag => { tag with storage := (configStorageFactoryReset tag.storage).2 }
  | .resetConfig => (appConfigReset device).2

/-! ## The sampling thread -/

/-- The calls of an iteration of `app_process_sensor_data`. -/
inductive SampleOp where
  | analyse (data : SensorData) (config : TagConfig) (expectedValid : UInt8)
  | apply (data : SensorData) (motion : MotionResult) (config : TagConfig) (expectedValid : UInt8)
  | history (data : SensorData) (alarm : Bool)
  | take
  | raise (event : PendingEvent)
  | flush (timestamp : UInt32)

/-- One call, and the calls that follow from it. -/
def SampleOp.perform [Crc16] (uptimeMs : Nat) (device : Device) : SampleOp → Device × List SampleOp
  | .analyse data config expectedValid =>
    let ((motion, data), manager) := motionManagerProcess data device.motion
    ({ device with motion := manager }, [.apply data motion config expectedValid])
  | .apply data motion config expectedValid =>
    let app := applySample data motion config expectedValid device.tag.app
    let data := { data with orientation := app.status.orientation }
    let alarm : Bool := decide (app.status.alarmFlags ≠ 0)
    let logged := if config.sensorHistoryEnabled ≠ 0 then [SampleOp.history data alarm] else []
    (device.onTag fun tag => { tag with app := app }, logged ++ [.take, .flush data.timestamp])
  | .history data alarm =>
    (device.onTag fun tag =>
      { tag with sensorLog := (sensorLogAdd data alarm tag.sensorLog).2 }, [])
  | .take =>
    (device.onTag fun tag => { tag with app := { tag.app with pending := [] } },
      device.tag.app.pending.map .raise)
  | .raise e =>
    (device.onTag fun tag => (appRaiseEvent uptimeMs e.type e.severity e.value tag).2, [])
  | .flush timestamp => (device.onTag (flushIfDue timestamp), [])

/-! ## Both -/

/-- A reset under way: what is left of it and of the sampling thread's iteration. -/
structure ResetRun where
  device : Device
  reset : List ResetOp
  sampler : List SampleOp

/-- Who makes the next call. A sample begins an iteration when the one before is done. -/
inductive ResetEvent where
  | reset (uptimeMs : Nat)
  | sample (data : SensorData) (expectedValid : UInt8)
  | sampler (uptimeMs : Nat)

def ResetRun.step [Crc16] (s : ResetRun) : ResetEvent → ResetRun
  | .reset uptimeMs =>
    match s.reset with
    | [] => s
    | op :: rest => { s with device := op.perform uptimeMs s.device, reset := rest }
  | .sample data expectedValid =>
    match s.sampler with
    | [] => { s with sampler := [.analyse data (appConfigGet s.device) expectedValid] }
    | _ :: _ => s
  | .sampler uptimeMs =>
    match s.sampler with
    | [] => s
    | op :: rest =>
      let (device, more) := op.perform uptimeMs s.device
      { s with device := device, sampler := more ++ rest }

/-! ### An iteration on its own -/

section

variable [Crc16]

/-- The sampling thread's next calls. -/
def ResetRun.advance (uptimeMs calls : Nat) (s : ResetRun) : ResetRun :=
  Run.final ResetRun.step s (List.replicate calls (.sampler uptimeMs))

theorem advance_raises (uptimeMs : Nat) (batch : List PendingEvent) (device : Device)
    (reset : List ResetOp) (rest : List SampleOp) :
    ResetRun.advance uptimeMs batch.length
        { device := device, reset := reset, sampler := batch.map .raise ++ rest } =
      { device := device.onTag fun tag => (raiseBatch uptimeMs batch tag).2
        reset := reset
        sampler := rest } := by
  induction batch generalizing device with
  | nil => rfl
  | cons e batch ih => exact ih _

theorem advance_succ (uptimeMs calls : Nat) (device : Device) (reset : List ResetOp)
    (op : SampleOp) (rest : List SampleOp) :
    ResetRun.advance uptimeMs (calls + 1)
        { device := device, reset := reset, sampler := op :: rest } =
      ResetRun.advance uptimeMs calls
        { device := (op.perform uptimeMs device).1
          reset := reset
          sampler := (op.perform uptimeMs device).2 ++ rest } := rfl

theorem advance_add (uptimeMs m n : Nat) (s : ResetRun) :
    s.advance uptimeMs (m + n) = (s.advance uptimeMs m).advance uptimeMs n := by
  rw [ResetRun.advance, List.replicate_add, Run.final, List.foldl_append]
  rfl

/-- From taking the events to the end of the iteration. -/
theorem advance_take (uptimeMs : Nat) (timestamp : UInt32) (device : Device)
    (reset : List ResetOp) :
    ResetRun.advance uptimeMs (device.tag.app.pending.length + 2)
        { device := device, reset := reset, sampler := [.take, .flush timestamp] } =
      { device := device.onTag fun tag =>
          flushIfDue timestamp (drainPendingEvents uptimeMs tag).2
        reset := reset
        sampler := [] } := by
  rw [advance_succ, advance_add]
  have hraises := advance_raises uptimeMs device.tag.app.pending
    (device.onTag fun tag => { tag with app := { tag.app with pending := [] } }) reset
    [.flush timestamp]
  exact congrArg (ResetRun.advance uptimeMs 1) hraises

/-- From the locked section to the end of the iteration. -/
theorem advance_apply (uptimeMs : Nat) (data : SensorData) (motion : MotionResult)
    (config : TagConfig) (expectedValid : UInt8) (device : Device) (reset : List ResetOp) :
    ∃ calls,
      ResetRun.advance uptimeMs calls
          { device := device
            reset := reset
            sampler := [.apply data motion config expectedValid] } =
        { device := device.onTag fun tag =>
            (appProcessSensorData uptimeMs data motion config expectedValid tag).2
          reset := reset
          sampler := [] } := by
  let app := applySample data motion config expectedValid device.tag.app
  by_cases hlogged : config.sensorHistoryEnabled ≠ 0
  · refine ⟨app.pending.length + 2 + 1 + 1, ?_⟩
    rw [advance_succ]
    simp only [SampleOp.perform, appProcessSensorData, Device.onTag, if_pos hlogged,
      List.cons_append, List.nil_append, List.append_nil]
    exact advance_take uptimeMs data.timestamp _ reset
  · refine ⟨app.pending.length + 2 + 1, ?_⟩
    rw [advance_succ]
    simp only [SampleOp.perform, appProcessSensorData, Device.onTag, if_neg hlogged,
      List.nil_append, List.append_nil]
    exact advance_take uptimeMs data.timestamp _ reset

/-- An iteration that the reset does not interrupt. -/
theorem appProcessSensorData_eq_sampler (uptimeMs : Nat) (data : SensorData) (expectedValid : UInt8)
    (device : Device) (reset : List ResetOp) :
    ∃ calls,
      let analysed := motionManagerProcess data device.motion
      ResetRun.advance uptimeMs calls
          (ResetRun.step { device := device, reset := reset, sampler := [] }
            (.sample data expectedValid)) =
        { device :=
            { device with
              motion := analysed.2
              tag := (appProcessSensorData uptimeMs analysed.1.2 analysed.1.1
                (appConfigGet device) expectedValid device.tag).2 }
          reset := reset
          sampler := [] } := by
  obtain ⟨calls, hrun⟩ := advance_apply uptimeMs (motionManagerProcess data device.motion).1.2
    (motionManagerProcess data device.motion).1.1 (appConfigGet device) expectedValid
    { device with motion := (motionManagerProcess data device.motion).2 } reset
  exact ⟨calls + 1, hrun⟩

/-! ## What is left behind -/

/-- The log holds no record, now and after a reboot. -/
def LogEmpty (log : FlashLog) : Prop :=
  (flashLogGetInfo log).recordCount = 0 ∧ (flashLogGetInfo (powerOn log)).recordCount = 0

/-- Nothing of the old tag is left: the logs are empty, the configuration stored is absent or the
defaults, and no statistics are stored. -/
def Device.LeftClean (device : Device) : Prop :=
  LogEmpty device.tag.eventLog ∧ LogEmpty device.tag.sensorLog ∧
    (device.tag.storage.nvs.stored .config = none ∨
      device.tag.storage.nvs.stored .config =
        some (tagConfigEncode TagConfig.defaults settingsBlobMax)) ∧
    device.tag.storage.nvs.stored .stats = none

/-- The call of the reset that clears what a call of the sampling thread writes. -/
def SampleOp.clearedBy (device : Device) : SampleOp → Option ResetOp
  | .history _ _ => some .clearSensors
  | .raise _ => some .clearEvents
  | .flush timestamp =>
    if statsFlushIntervalS ≤ timestamp - device.tag.app.lastStatsFlush then some .clearSettings
    else none
  | _ => none

/-- What the sampling thread writes is still to be cleared. -/
def ResetRun.NoLateWrite (s : ResetRun) : ResetEvent → Prop
  | .sampler _ => ∀ op ∈ s.sampler.head?, ∀ clear ∈ op.clearedBy s.device, clear ∈ s.reset
  | _ => True

/-! ### What a call writes -/

namespace SampleOp

theorem perform_eventLog {op : SampleOp} {device : Device}
    (h : op.clearedBy device ≠ some .clearEvents) (uptimeMs : Nat) :
    (op.perform uptimeMs device).1.tag.eventLog = device.tag.eventLog := by
  cases op with
  | raise e => exact absurd rfl h
  | flush timestamp =>
      simp only [perform, Device.onTag, flushIfDue]
      split_ifs <;> rfl
  | _ => rfl

theorem perform_sensorLog {op : SampleOp} {device : Device}
    (h : op.clearedBy device ≠ some .clearSensors) (uptimeMs : Nat) :
    (op.perform uptimeMs device).1.tag.sensorLog = device.tag.sensorLog := by
  cases op with
  | history data alarm => exact absurd rfl h
  | flush timestamp =>
      simp only [perform, Device.onTag, flushIfDue]
      split_ifs <;> rfl
  | _ => rfl

theorem perform_nvs {op : SampleOp} {device : Device}
    (h : op.clearedBy device ≠ some .clearSettings) (uptimeMs : Nat) :
    (op.perform uptimeMs device).1.tag.storage.nvs = device.tag.storage.nvs := by
  cases op with
  | flush timestamp =>
      have hdue : ¬ statsFlushIntervalS ≤ timestamp - device.tag.app.lastStatsFlush := by
        intro hdue
        exact h (if_pos hdue)
      simp only [perform, Device.onTag, flushIfDue, if_neg hdue]
  | _ => rfl

end SampleOp

/-! ### The stores stay in order -/

/-- The log is open and its flash calls succeed. -/
structure LogReady (L : Layout) (log : FlashLog) : Prop where
  mounted : Mounted L log
  quiet : log.area.results = []

theorem LogReady.append {L : Layout} {log : FlashLog} (h : LogReady L log) (record : List UInt8) :
    LogReady L (flashLogAppend log record).2 := by
  obtain ⟨hmounted, -, hquiet⟩ := h.mounted.flashLogAppend record
  exact ⟨hmounted, hquiet h.quiet⟩

theorem LogReady.erase {L : Layout} {log : FlashLog} (h : LogReady L log) :
    LogReady L (flashLogErase log).2 ∧ Ring L [] 0 (flashLogErase log).2 := by
  obtain ⟨-, hring, -, hquiet⟩ := h.mounted.ring_erase (by rw [h.quiet, sectorsErased_nil])
  exact ⟨⟨hring.toMounted, hquiet h.quiet⟩, hring⟩

theorem logEmpty_of_ring_nil {L : Layout} {log : FlashLog} (h : Ring L [] 0 log) :
    LogEmpty log := by
  have hzero : (flashLogGetInfo log).recordCount = 0 := by
    rw [flashLogGetInfo, if_neg (by rw [h.ready]; simp)]
    exact h.used
  refine ⟨hzero, ?_⟩
  rw [h.powerOn (Or.inr rfl)]
  exact hzero

/-- All flash and settings calls to come succeed. -/
structure Device.StoresReady (L L' : Layout) (device : Device) : Prop where
  events : LogReady L device.tag.eventLog
  sensors : LogReady L' device.tag.sensorLog
  quiet : device.tag.storage.nvs.results = []

variable {L L' : Layout} {device : Device}

theorem Device.StoresReady.sample (h : device.StoresReady L L') (uptimeMs : Nat) (op : SampleOp) :
    (op.perform uptimeMs device).1.StoresReady L L' := by
  cases op with
  | history data alarm => exact ⟨h.events, h.sensors.append _, h.quiet⟩
  | raise e => exact ⟨h.events.append _, h.sensors, h.quiet⟩
  | flush timestamp =>
      simp only [SampleOp.perform, Device.onTag, flushIfDue]
      split_ifs
      · refine ⟨h.events, h.sensors, ?_⟩
        simp only [appStateFlushStatistics, configStorageSaveStatistics_eq, settingsSaveOne,
          put_quiet h.quiet, h.quiet]
      · exact h
  | _ => exact ⟨h.events, h.sensors, h.quiet⟩

/-- The reset of the configuration leaves the logs alone and stores the defaults. -/
theorem tag_resetConfig (hquiet : device.tag.storage.nvs.results = []) (uptimeMs : Nat) :
    (ResetOp.resetConfig.perform uptimeMs device).tag =
      { device.tag with storage :=
        { device.tag.storage with
          storedConfig := TagConfig.defaults
          nvs :=
            { device.tag.storage.nvs with
              stored := Function.update device.tag.storage.nvs.stored .config
                (some (tagConfigEncode TagConfig.defaults settingsBlobMax)) } } } := by
  rw [ResetOp.perform, appConfigReset, appConfigSet_accepted appConfigValidate_defaults,
    configStorageSave_eq, settingsSaveOne, put_quiet hquiet]

theorem Device.StoresReady.reset (h : device.StoresReady L L') (uptimeMs : Nat) (op : ResetOp) :
    (op.perform uptimeMs device).StoresReady L L' := by
  cases op with
  | raise => exact ⟨h.events.append _, h.sensors, h.quiet⟩
  | clearEvents => exact ⟨h.events.erase.1, h.sensors, h.quiet⟩
  | clearSensors => exact ⟨h.events, h.sensors.erase.1, h.quiet⟩
  | clearSettings =>
      refine ⟨h.events, h.sensors, ?_⟩
      simp [ResetOp.perform, Device.onTag, configStorageFactoryReset, settingsDelete,
        put_quiet, h.quiet]
  | resetConfig =>
      have htag := tag_resetConfig h.quiet uptimeMs
      generalize ResetOp.resetConfig.perform uptimeMs device = reset at htag ⊢
      refine ⟨?_, ?_, ?_⟩ <;> rw [htag]
      · exact h.events
      · exact h.sensors
      · exact h.quiet

/-! ### Runs -/

/-- After `k` calls of the reset: what has been cleared is empty. -/
structure ResetRun.Sound (L L' : Layout) (k : Nat) (s : ResetRun) : Prop where
  ready : s.device.StoresReady L L'
  reset : s.reset = factoryReset.drop k
  events : 2 ≤ k → Ring L [] 0 s.device.tag.eventLog
  sensors : 3 ≤ k → Ring L' [] 0 s.device.tag.sensorLog
  config : 4 ≤ k →
    s.device.tag.storage.nvs.stored .config = none ∨
      s.device.tag.storage.nvs.stored .config =
        some (tagConfigEncode TagConfig.defaults settingsBlobMax)
  stats : 4 ≤ k → s.device.tag.storage.nvs.stored .stats = none

omit [Crc16] in
theorem not_mem_drop_factoryReset {clear : ResetOp} {i k : Nat} (hle : i ≤ k)
    (h : clear ∉ factoryReset.drop i) : clear ∉ factoryReset.drop k := by
  obtain ⟨j, rfl⟩ := Nat.exists_eq_add_of_le hle
  rw [← List.drop_drop]
  exact fun hmem => h (List.mem_of_mem_drop hmem)

/-- A call of the sampling thread that writes nothing cleared before. -/
theorem ResetRun.Sound.sampler_step {s : ResetRun} {k : Nat} (h : s.Sound L L' k) (uptimeMs : Nat)
    (hlate : s.NoLateWrite (.sampler uptimeMs)) : (s.step (.sampler uptimeMs)).Sound L L' k := by
  cases hsampler : s.sampler with
  | nil =>
      rw [ResetRun.step, hsampler]
      exact h
  | cons op rest =>
      have hwrites : ∀ {clear i}, i ≤ k → clear ∉ factoryReset.drop i →
          op.clearedBy s.device ≠ some clear := by
        intro clear i hle hnot heq
        have hmem := hlate op (by rw [hsampler]; rfl) clear heq
        rw [h.reset] at hmem
        exact not_mem_drop_factoryReset hle hnot hmem
      rw [ResetRun.step, hsampler]
      refine ⟨h.ready.sample uptimeMs op, h.reset, ?_, ?_, ?_, ?_⟩
      · intro hk
        rw [SampleOp.perform_eventLog (hwrites hk (by decide))]
        exact h.events hk
      · intro hk
        rw [SampleOp.perform_sensorLog (hwrites hk (by decide))]
        exact h.sensors hk
      · intro hk
        rw [SampleOp.perform_nvs (hwrites hk (by decide))]
        exact h.config hk
      · intro hk
        rw [SampleOp.perform_nvs (hwrites hk (by decide))]
        exact h.stats hk

/-- A call of the reset: it clears one store and keeps the others. -/
theorem ResetRun.Sound.reset_step {s : ResetRun} {k : Nat} (h : s.Sound L L' k) (uptimeMs : Nat) :
    ∃ k', (s.step (.reset uptimeMs)).Sound L L' k' := by
  obtain ⟨hready, hreset, hevents, hsensors, hconfig, hstats⟩ := h
  rw [ResetRun.step]
  match k with
  | 0 =>
      rw [hreset]
      exact ⟨1, hready.reset uptimeMs .raise, rfl, by omega, by omega, by omega, by omega⟩
  | 1 =>
      rw [hreset]
      exact ⟨2, hready.reset uptimeMs .clearEvents, rfl, fun _ => hready.events.erase.2, by omega,
        by omega, by omega⟩
  | 2 =>
      rw [hreset]
      exact ⟨3, hready.reset uptimeMs .clearSensors, rfl, fun _ => hevents (by decide),
        fun _ => hready.sensors.erase.2, by omega, by omega⟩
  | 3 =>
      have hnone : ∀ key, (ResetOp.clearSettings.perform uptimeMs
          s.device).tag.storage.nvs.stored key = none := by
        intro key
        cases key <;> simp [ResetOp.perform, Device.onTag, configStorageFactoryReset,
          settingsDelete, put_quiet, hready.quiet]
      rw [hreset]
      exact ⟨4, hready.reset uptimeMs .clearSettings, rfl, fun _ => hevents (by decide),
        fun _ => hsensors (by decide), fun _ => Or.inl (hnone .config), fun _ => hnone .stats⟩
  | 4 =>
      have hready' := hready.reset uptimeMs .resetConfig
      have htag := tag_resetConfig hready.quiet uptimeMs
      rw [hreset]
      show ∃ k', ResetRun.Sound L L' k'
        { s with device := ResetOp.resetConfig.perform uptimeMs s.device, reset := [] }
      generalize ResetOp.resetConfig.perform uptimeMs s.device = device at hready' htag ⊢
      have hstored : device.tag.storage.nvs.stored = Function.update _ _ _ :=
        congrArg (fun tag : Tag => tag.storage.nvs.stored) htag
      refine ⟨5, hready', rfl, fun _ => ?_, fun _ => ?_, fun _ => Or.inr ?_, fun _ => ?_⟩
      · rw [htag]
        exact hevents (by decide)
      · rw [htag]
        exact hsensors (by decide)
      · rw [hstored, Function.update_self]
      · rw [hstored, Function.update_of_ne (by decide)]
        exact hstats (by decide)
  | k + 5 =>
      have hnil : s.reset = [] := hreset.trans (List.drop_eq_nil_of_le (Nat.le_add_left 5 k))
      rw [hnil]
      exact ⟨k + 5, hready, hreset, hevents, hsensors, hconfig, hstats⟩

theorem ResetRun.Sound.final {s : ResetRun} {k : Nat} (h : s.Sound L L' k)
    {events : List ResetEvent}
    (hlate : Run.Along ResetRun.step ResetRun.NoLateWrite s events) :
    ∃ k', (Run.final ResetRun.step s events).Sound L L' k' := by
  refine Run.final_invariant (I := fun s : ResetRun => ∃ k, s.Sound L L' k) ?_ ⟨k, h⟩ hlate
  intro s e hs hnow
  obtain ⟨k, hs⟩ := hs
  cases e with
  | reset uptimeMs => exact hs.reset_step uptimeMs
  | sample data expectedValid =>
      refine ⟨k, ?_⟩
      rw [ResetRun.step]
      split
      · exact ⟨hs.ready, hs.reset, hs.events, hs.sensors, hs.config, hs.stats⟩
      · exact hs
  | sampler uptimeMs => exact ⟨k, hs.sampler_step uptimeMs hnow⟩

/-- From any state of the tag and of an iteration under way, for every interleaving whose flash and
settings calls succeed: when the reset comes to its reboot nothing is left behind, provided that
the sampling thread writes nothing that has been cleared before. -/
theorem factory_reset_clean {s : ResetRun} (hbegins : s.reset = factoryReset)
    (hready : s.device.StoresReady L L') {events : List ResetEvent}
    (hlate : Run.Along ResetRun.step ResetRun.NoLateWrite s events)
    (hreboot : (Run.final ResetRun.step s events).reset = []) :
    (Run.final ResetRun.step s events).device.LeftClean := by
  have hsound : s.Sound L L' 0 :=
    ⟨hready, hbegins, by omega, by omega, by omega, by omega⟩
  obtain ⟨k, hfinal⟩ := hsound.final hlate
  have hk : 5 ≤ k := by
    have hnil := hfinal.reset
    rw [hreboot] at hnil
    exact List.drop_eq_nil_iff.1 hnil.symm
  exact ⟨logEmpty_of_ring_nil (hfinal.events (by omega)),
    logEmpty_of_ring_nil (hfinal.sensors (by omega)), hfinal.config (by omega),
    hfinal.stats (by omega)⟩

end

instance (s : ResetRun) (e : ResetEvent) : Decidable (s.NoLateWrite e) := by
  cases e <;> unfold ResetRun.NoLateWrite <;> infer_instance

instance (log : FlashLog) : Decidable (LogEmpty log) := inferInstanceAs (Decidable (_ ∧ _))

/-- The reset of a new tag, and one sample taken during the wait before the reboot. -/
def sampledDuringWait : ResetRun :=
  Run.final ResetRun.step { device := newDevice, reset := factoryReset, sampler := [] }
    (List.replicate 5 (.reset 1000) ++ [.sample AppState.atReset.lastSample 0, .sampler 1100,
      .sampler 1100, .sampler 1100])

/-- The configuration change of the reset wakes the sampling thread, whose sample is in the log at
the reboot. -/
theorem factory_reset_leaves_record :
    sampledDuringWait.reset = [] ∧
      (flashLogGetInfo sampledDuringWait.device.tag.sensorLog).recordCount = 1 ∧
      ¬ sampledDuringWait.device.LeftClean := by
  have hone : (flashLogGetInfo sampledDuringWait.device.tag.sensorLog).recordCount = 1 := by
    decide +kernel
  refine ⟨by decide +kernel, hone, ?_⟩
  intro h
  obtain ⟨-, hsensors, -, -⟩ := h
  exact absurd hsensors.1 (by rw [hone]; decide)

theorem storesReady_newDevice :
    newDevice.StoresReady ⟨1, 4, by decide, by decide, by decide⟩
      ⟨1, 4, by decide, by decide, by decide⟩ := by
  obtain ⟨-, hevents, hequiet, -⟩ := Layout.refines_blank
    ⟨1, 4, by decide, by decide, by decide⟩ (show 0 < 8 by decide) (by decide)
  obtain ⟨-, hsensors, hsquiet, -⟩ := Layout.refines_blank
    ⟨1, 4, by decide, by decide, by decide⟩ (show 0 < 17 by decide) (by decide)
  exact ⟨⟨hevents.toMounted, hequiet⟩, ⟨hsensors.toMounted, hsquiet⟩, rfl⟩

/-- A sample logged before the reset has cleared anything does no harm. -/
theorem factory_reset_clean_sampled_before :
    (Run.final ResetRun.step { device := newDevice, reset := factoryReset, sampler := [] }
      ([.sample AppState.atReset.lastSample 0, .sampler 900, .sampler 900, .sampler 900,
        .sampler 900, .sampler 900] ++ List.replicate 5 (.reset 1000))).device.LeftClean :=
  factory_reset_clean rfl storesReady_newDevice (by decide +kernel) (by decide +kernel)

end SmartTag
