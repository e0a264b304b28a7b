import SmartTag.App.AlarmLatch

/-!
# Alarm events are the rising edges

`app_alarms_eval` is a chain of checks, one a flag: a check raises its flag, clears it or leaves it,
and emits when it raises a flag that was down.

* `appAlarmsEval_eq_foldl`: the six checks, and the order of their events.
* `appAlarmsEval_edges`: an evaluation emits one event for each flag that went up, drops none,
  touches no other flag, and a second evaluation does nothing.
-/

namespace SmartTag

open Flags

/-- A check of one alarm flag on one sample. -/
structure AlarmCheck where
  flag : UInt16
  event : AppAlarmEvent
  trips : Bool
  clears : Bool

/-- One check. -/
def AlarmCheck.run (s : AlarmEval) (check : AlarmCheck) : AlarmEval :=
  if check.trips then s.trip check.flag check.event
  else if check.clears then s.clear check.flag
  else s

/-- The flag goes up between the two words. -/
def Rises (before after : UInt16) (check : AlarmCheck) : Prop :=
  ¬ Raised before check.flag ∧ Raised after check.flag

instance (before after : UInt16) (check : AlarmCheck) : Decidable (Rises before after check) :=
  inferInstanceAs (Decidable (_ ∧ _))

/-- The events of the flags that go up, in the order of the checks. -/
def risingEvents (before after : UInt16) (checks : List AlarmCheck) : List AppAlarmEvent :=
  (checks.filter fun check => Rises before after check).map (·.event)

/-! ## One check -/

namespace AlarmCheck

/-- A bit outside the flag is left as it is. -/
theorem and_run_of_disjoint {check : AlarmCheck} {mask : UInt16} (h : check.flag &&& mask = 0)
    (s : AlarmEval) : (check.run s).flags &&& mask = s.flags &&& mask := by
  unfold run AlarmEval.trip
  split_ifs
  · exact or_and_of_disjoint h s.flags
  · rfl
  · show s.flags &&& ~~~check.flag &&& mask = s.flags &&& mask
    rw [UInt16.and_assoc, not_and_of_disjoint h]
  · rfl

theorem raised_run_of_disjoint {check : AlarmCheck} {mask : UInt16} (h : check.flag &&& mask = 0)
    (s : AlarmEval) : Raised (check.run s).flags mask ↔ Raised s.flags mask := by
  rw [Raised, and_run_of_disjoint h]
  exact Iff.rfl

/-- The flag afterwards. -/
theorem raised_run {check : AlarmCheck} (h : check.flag ≠ 0) (s : AlarmEval) :
    Raised (check.run s).flags check.flag ↔
      check.trips ∨ ¬ check.clears ∧ Raised s.flags check.flag := by
  unfold run
  split_ifs with htrips hclears
  · exact iff_of_true (AlarmEval.raised_trip h s _) (Or.inl htrips)
  · have hdown := AlarmEval.not_raised_clear (UInt16.not_and_self (a := check.flag)) s
    simp [hdown, htrips, hclears]
  · simp [htrips, hclears]

/-- With room for one more, a check emits exactly when its flag goes up. -/
theorem events_run {check : AlarmCheck} (h : check.flag ≠ 0) {s : AlarmEval}
    (hroom : s.events.length < appAlarmMaxEvents) :
    (check.run s).events =
      s.events ++ if Rises s.flags (check.run s).flags check then [check.event] else [] := by
  have hafter := raised_run h s
  by_cases htrips : check.trips
  · have hraised : Raised (check.run s).flags check.flag := hafter.2 (Or.inl htrips)
    by_cases hdown : s.flags &&& check.flag = 0
    · have hrises : Rises s.flags (check.run s).flags check := ⟨not_not.2 hdown, hraised⟩
      rw [if_pos hrises, run, if_pos htrips, AlarmEval.trip, if_pos hdown]
      exact if_neg (Nat.not_le.2 hroom)
    · have hstays : ¬ Rises s.flags (check.run s).flags check := fun hrises => hrises.1 hdown
      rw [if_neg hstays, run, if_pos htrips, AlarmEval.trip, if_neg hdown, List.append_nil]
  · have hstays : ¬ Rises s.flags (check.run s).flags check := by
      intro hrises
      have hup := hafter.1 hrises.2
      simp only [htrips, Bool.false_eq_true, false_or] at hup
      exact hrises.1 hup.2
    rw [if_neg hstays, run, if_neg htrips, List.append_nil]
    split_ifs <;> rfl

/-- A check whose verdict the flags already show. -/
def Settled (flags : UInt16) (check : AlarmCheck) : Prop :=
  if check.trips then Raised flags check.flag
  else if check.clears then ¬ Raised flags check.flag
  else True

theorem run_of_settled {check : AlarmCheck} {s : AlarmEval} (h : Settled s.flags check) :
    check.run s = s := by
  unfold Settled at h
  unfold run
  split_ifs at h ⊢ with htrips hclears
  · rw [AlarmEval.trip, if_neg h]
  · have hdown : s.flags &&& check.flag = 0 := not_not.1 h
    have hkeeps : s.flags &&& ~~~check.flag = s.flags := by
      rw [UInt16.and_comm, not_and_of_disjoint (by rwa [UInt16.and_comm])]
    rw [AlarmEval.clear, hkeeps]
  · rfl

theorem settled_run {check : AlarmCheck} (h : check.flag ≠ 0) (s : AlarmEval) :
    Settled (check.run s).flags check := by
  unfold Settled
  rw [raised_run h]
  split_ifs with htrips hclears
  · exact Or.inl htrips
  · simp [htrips, hclears]

end AlarmCheck

/-! ## A chain of checks -/

/-- Each check has a flag of its own. -/
structure SeparateFlags (checks : List AlarmCheck) : Prop where
  nonzero : ∀ check ∈ checks, check.flag ≠ 0
  disjoint : checks.Pairwise fun a b => a.flag &&& b.flag = 0

theorem SeparateFlags.tail {check : AlarmCheck} {checks : List AlarmCheck}
    (h : SeparateFlags (check :: checks)) : SeparateFlags checks where
  nonzero := fun other hother => h.nonzero other (List.mem_cons_of_mem _ hother)
  disjoint := (List.pairwise_cons.1 h.disjoint).2

theorem and_foldl_run {mask : UInt16} {checks : List AlarmCheck}
    (h : ∀ check ∈ checks, check.flag &&& mask = 0) (s : AlarmEval) :
    (checks.foldl AlarmCheck.run s).flags &&& mask = s.flags &&& mask := by
  induction checks generalizing s with
  | nil => rfl
  | cons check checks ih =>
    rw [List.foldl_cons, ih (fun other hother => h other (List.mem_cons_of_mem _ hother))]
    exact AlarmCheck.and_run_of_disjoint (h check List.mem_cons_self) s

section

variable {check : AlarmCheck} {checks : List AlarmCheck} (h : SeparateFlags (check :: checks))
  (s : AlarmEval)

include h

/-- The later checks leave the flag of the first as it made it. -/
theorem raised_foldl_run :
    Raised (checks.foldl AlarmCheck.run (check.run s)).flags check.flag ↔
      Raised (check.run s).flags check.flag := by
  have hother : ∀ other ∈ checks, other.flag &&& check.flag = 0 := by
    intro other hmem
    rw [UInt16.and_comm]
    exact (List.pairwise_cons.1 h.disjoint).1 other hmem
  rw [Raised, and_foldl_run hother]
  exact Iff.rfl

/-- The first check leaves the flags of the later ones as they were. -/
theorem rises_run {other : AlarmCheck} (hmem : other ∈ checks) (after : UInt16) :
    Rises (check.run s).flags after other ↔ Rises s.flags after other := by
  have hdisjoint := (List.pairwise_cons.1 h.disjoint).1 other hmem
  unfold Rises
  rw [AlarmCheck.raised_run_of_disjoint hdisjoint]

end

theorem risingEvents_cons (before after : UInt16) (check : AlarmCheck) (checks : List AlarmCheck) :
    risingEvents before after (check :: checks) =
      (if Rises before after check then [check.event] else []) ++
        risingEvents before after checks := by
  unfold risingEvents
  split_ifs with hrises <;> simp [hrises]

/-- With room for all of them, a chain of checks emits the rising edges, in its order. -/
theorem events_foldl_run {checks : List AlarmCheck} (h : SeparateFlags checks) (s : AlarmEval)
    (hroom : s.events.length + checks.length ≤ appAlarmMaxEvents) :
    (checks.foldl AlarmCheck.run s).events =
      s.events ++ risingEvents s.flags (checks.foldl AlarmCheck.run s).flags checks := by
  induction checks generalizing s with
  | nil => simp [risingEvents]
  | cons check checks ih =>
    rw [List.length_cons] at hroom
    have hevents := AlarmCheck.events_run (h.nonzero check List.mem_cons_self)
      (s := s) (by omega)
    have hlength : (check.run s).events.length ≤ s.events.length + 1 := by
      rw [hevents, List.length_append]
      split_ifs <;> simp
    have hfirst : Rises s.flags (checks.foldl AlarmCheck.run (check.run s)).flags check ↔
        Rises s.flags (check.run s).flags check :=
      and_congr_right fun _ => raised_foldl_run h s
    have hlater : ∀ after, risingEvents (check.run s).flags after checks =
        risingEvents s.flags after checks := by
      intro after
      unfold risingEvents
      exact congrArg _ (List.filter_congr fun other hmem =>
        decide_eq_decide.2 (rises_run h s hmem after))
    rw [List.foldl_cons, ih h.tail _ (by omega), hevents, hlater, risingEvents_cons,
      List.append_assoc]
    simp only [hfirst]

theorem settled_foldl_run {checks : List AlarmCheck} (h : SeparateFlags checks) (s : AlarmEval) :
    ∀ check ∈ checks, (check.Settled (checks.foldl AlarmCheck.run s).flags) := by
  induction checks generalizing s with
  | nil => simp
  | cons check checks ih =>
    intro other hmem
    rcases List.mem_cons.1 hmem with rfl | hmem
    · have hsettled := AlarmCheck.settled_run (h.nonzero other List.mem_cons_self) s
      unfold AlarmCheck.Settled at hsettled ⊢
      rwa [List.foldl_cons, raised_foldl_run h s]
    · exact ih h.tail _ other hmem

theorem foldl_run_of_settled {checks : List AlarmCheck} {s : AlarmEval}
    (h : ∀ check ∈ checks, check.Settled s.flags) : checks.foldl AlarmCheck.run s = s := by
  induction checks with
  | nil => rfl
  | cons check checks ih =>
    rw [List.foldl_cons, AlarmCheck.run_of_settled (h check List.mem_cons_self)]
    exact ih fun other hother => h other (List.mem_cons_of_mem _ hother)

/-! ## The checks of `app_alarms_eval` -/

section

variable (data : SensorData) (config : TagConfig) (expectedValid : UInt8)

/-- The two sides of the temperature window: a reading above it does not count as below. -/
def tempChecks : List AlarmCheck :=
  let valid : Bool := data.valid &&& sensorValidTempRh ≠ 0
  let high : Bool := config.tempHighCX100 < data.temperatureCX100
  let low : Bool := data.temperatureCX100 < config.tempLowCX100
  [{ flag := alarmTempHigh
     event := ⟨.tempHigh, .alarm, data.temperatureCX100⟩
     trips := valid && high
     clears := valid && !low },
   { flag := alarmTempLow
     event := ⟨.tempLow, .alarm, data.temperatureCX100⟩
     trips := valid && !high && low
     clears := valid && !high }]

def humidityCheck : AlarmCheck where
  flag := alarmHumidityHigh
  event := ⟨.humidityHigh, .warning, data.humidityX100.toInt16⟩
  trips := data.valid &&& sensorValidTempRh ≠ 0 ∧ config.humidityHighX100 < data.humidityX100
  clears := data.valid &&& sensorValidTempRh ≠ 0

def gasCheck : AlarmCheck where
  flag := alarmGasLow
  event := ⟨.gasLow, .warning, (min (data.gasResistanceOhm / 1000) 32767).toUInt16.toInt16⟩
  trips := ¬ (data.valid &&& sensorValidGas = 0 ∨ config.gasLowThresholdOhm = 0) ∧
    data.gasResistanceOhm < config.gasLowThresholdOhm
  clears := ¬ (data.valid &&& sensorValidGas = 0 ∨ config.gasLowThresholdOhm = 0)

def batteryCheck : AlarmCheck where
  flag := alarmBatteryLow
  event := ⟨.batteryLow, .warning, data.batteryMv.toInt16⟩
  trips := data.valid &&& sensorValidBattery ≠ 0 ∧ data.batteryMv < config.batteryLowMv
  clears := data.valid &&& sensorValidBattery ≠ 0 ∧
    config.batteryLowMv + smartTagBatteryHysteresisMv ≤ data.batteryMv

def sensorFaultCheck : AlarmCheck where
  flag := alarmSensorFault
  event := ⟨.sensorFault, .warning, data.valid.toUInt16.toInt16⟩
  trips := data.valid &&& expectedValid ≠ expectedValid
  clears := true

/-- The six checks, in the order they are made. -/
def alarmChecks : List AlarmCheck :=
  tempChecks data config ++
    [humidityCheck data config, gasCheck data config, batteryCheck data config,
      sensorFaultCheck data expectedValid]

variable (s : AlarmEval)

theorem evalTempRh_eq_foldl :
    evalTempRh data config s =
      (tempChecks data config ++ [humidityCheck data config]).foldl AlarmCheck.run s := by
  by_cases hvalid : data.valid &&& sensorValidTempRh = 0
  · simp [evalTempRh_eq, tempChecks, humidityCheck, AlarmCheck.run, hvalid]
  · have hhumidity : ∀ s, evalHumidity data config s = (humidityCheck data config).run s := by
      intro s
      simp [evalHumidity, humidityCheck, AlarmCheck.run, hvalid]
    have htemp : evalTemp data config s = (tempChecks data config).foldl AlarmCheck.run s := by
      have hboth : s.clear (alarmTempHigh ||| alarmTempLow) =
          (s.clear alarmTempHigh).clear alarmTempLow := by
        show AlarmEval.mk _ _ = AlarmEval.mk _ _
        rw [AlarmEval.clear, UInt16.and_assoc]
        rfl
      by_cases hhigh : config.tempHighCX100 < data.temperatureCX100
      · simp [evalTemp, tempChecks, AlarmCheck.run, hvalid, hhigh]
      · by_cases hlow : data.temperatureCX100 < config.tempLowCX100
        · simp [evalTemp, tempChecks, AlarmCheck.run, hvalid, hhigh, hlow]
        · simp [evalTemp, tempChecks, AlarmCheck.run, hvalid, hhigh, hlow, hboth]
    rw [evalTempRh_eq, if_neg hvalid, htemp, hhumidity, List.foldl_concat]

theorem evalGas_eq : evalGas data config s = (gasCheck data config).run s := by
  unfold evalGas
  split_ifs with hskip hlow
  · simp [gasCheck, AlarmCheck.run, hskip]
  · simp only [gasCheck, AlarmCheck.run, hskip, hlow]
    rfl
  · simp only [gasCheck, AlarmCheck.run, hskip, hlow]
    rfl

theorem evalBattery_eq : evalBattery data config s = (batteryCheck data config).run s := by
  by_cases hvalid : data.valid &&& sensorValidBattery = 0 <;>
    simp [evalBattery, batteryCheck, AlarmCheck.run, hvalid]

theorem evalSensorFault_eq :
    evalSensorFault data expectedValid s = (sensorFaultCheck data expectedValid).run s := by
  simp [evalSensorFault, sensorFaultCheck, AlarmCheck.run]

theorem appAlarmsEval_eq_foldl (flags : UInt16) :
    appAlarmsEval data config expectedValid flags =
      (alarmChecks data config expectedValid).foldl AlarmCheck.run
        { flags := flags
          events := [] } := by
  show evalSensorFault data expectedValid (evalBattery data config (evalGas data config
    (evalTempRh data config _))) = _
  rw [evalTempRh_eq_foldl, evalGas_eq, evalBattery_eq, evalSensorFault_eq]
  rfl

theorem separateFlags_alarmChecks : SeparateFlags (alarmChecks data config expectedValid) where
  nonzero := by
    simp only [alarmChecks, tempChecks, humidityCheck, gasCheck, batteryCheck, sensorFaultCheck,
      List.forall_mem_append, List.forall_mem_cons]
    decide
  disjoint := by
    simp only [alarmChecks, tempChecks, humidityCheck, gasCheck, batteryCheck, sensorFaultCheck,
      List.cons_append, List.nil_append, List.pairwise_cons, List.forall_mem_cons]
    decide

end

/-- The flags that an evaluation may change. -/
def evaluatedFlags : UInt16 :=
  alarmTempHigh ||| alarmTempLow ||| alarmHumidityHigh ||| alarmGasLow ||| alarmBatteryLow |||
    alarmSensorFault

/-- For every sample, configuration, expected mask and flags: at most five of the eight slots are
used; the events are those of the flags that went up, one each, in the order of the checks; every
other bit is as it was; and the same evaluation again emits nothing and changes nothing. -/
theorem appAlarmsEval_edges (data : SensorData) (config : TagConfig) (expectedValid : UInt8)
    (flags : UInt16) :
    let after := appAlarmsEval data config expectedValid flags
    after.events.length ≤ 5 ∧
      after.events = risingEvents flags after.flags (alarmChecks data config expectedValid) ∧
      after.flags &&& ~~~evaluatedFlags = flags &&& ~~~evaluatedFlags ∧
      appAlarmsEval data config expectedValid after.flags =
        { flags := after.flags
          events := [] } := by
  have hseparate := separateFlags_alarmChecks data config expectedValid
  refine ⟨length_events_appAlarmsEval data config expectedValid flags, ?_, ?_, ?_⟩
  · rw [appAlarmsEval_eq_foldl, events_foldl_run hseparate ⟨flags, []⟩ (Nat.le_add_right 6 2)]
    rfl
  · rw [appAlarmsEval_eq_foldl]
    refine and_foldl_run ?_ _
    simp only [alarmChecks, tempChecks, humidityCheck, gasCheck, batteryCheck, sensorFaultCheck,
      List.forall_mem_append, List.forall_mem_cons]
    decide
  · rw [appAlarmsEval_eq_foldl _ _ _ flags, appAlarmsEval_eq_foldl]
    exact foldl_run_of_settled (settled_foldl_run hseparate _)

end SmartTag
