import Mathlib.Data.Nat.Sqrt
import SmartTag.App.AlarmLatch
import SmartTag.App.SavedSettings

/-!
# Pending events

A sample's events are queued under the lock and raised after it, and the queue takes eight. The
motion manager reports at most four events at once and the alarms five, so the queue is one short.

* `length_reportedEvents`: how many events the motion manager reports.
* `length_events_eq_five_iff`: when all five alarms are raised at once.
* `events_all_raised_iff`: every event detected is raised, unless there are nine at once.
-/

namespace SmartTag

open Flags

/-! ## The queue -/

/-- `f` queues the events, as far as there is room. -/
def Queues (f : AppState → AppState) (events : List PendingEvent) : Prop :=
  ∀ st, st.pending.length ≤ maxPendingEvents →
    (f st).pending = (st.pending ++ events).take maxPendingEvents

/-- `f` leaves the queue alone. -/
def KeepsQueue (f : AppState → AppState) : Prop := ∀ st, (f st).pending = st.pending

namespace Queues

variable {f g : AppState → AppState} {events events' : List PendingEvent}

theorem length_le (hf : Queues f events) {st : AppState}
    (h : st.pending.length ≤ maxPendingEvents) : (f st).pending.length ≤ maxPendingEvents := by
  rw [hf st h]
  exact List.length_take_le _ _

theorem take_take_append (n : Nat) (xs ys : List PendingEvent) :
    (xs.take n ++ ys).take n = (xs ++ ys).take n := by
  rcases Nat.le_total n xs.length with hle | hle
  · rw [List.take_append_of_le_length (by rw [List.length_take]; omega),
      List.take_append_of_le_length hle, List.take_take, Nat.min_self]
  · rw [List.take_of_length_le hle]

theorem comp (hf : Queues f events) (hg : Queues g events') :
    Queues (fun st => g (f st)) (events ++ events') := by
  intro st h
  rw [hg (f st) (hf.length_le h), hf st h, take_take_append, List.append_assoc]

theorem after (hf : Queues f events) (hg : KeepsQueue g) : Queues (fun st => g (f st)) events := by
  intro st h
  rw [hg, hf st h]

theorem before (hf : Queues f events) (hg : KeepsQueue g) : Queues (fun st => f (g st)) events := by
  intro st h
  rw [hf (g st) (by rw [hg]; exact h), hg]

theorem branch (hf : Queues f events) (c : Prop) [Decidable c] :
    Queues (fun st => if c then f st else st) (if c then events else []) := by
  intro st h
  split_ifs
  · exact hf st h
  · rw [List.append_nil, List.take_of_length_le h]

end Queues

theorem queues_queueEvent (type : EventType) (severity : EventSeverity) (value : Int16) :
    Queues (queueEvent type severity value) [⟨type, severity, value⟩] := by
  intro st h
  unfold queueEvent
  split_ifs with hfull
  · rw [List.take_append_of_le_length hfull, List.take_of_length_le h]
  · rw [List.take_of_length_le (by rw [List.length_append, List.length_singleton]; omega)]

theorem queues_foldl (events : List AppAlarmEvent) :
    Queues (fun st => events.foldl (fun st e => queueEvent e.type e.severity e.value st) st)
      (events.map fun e => ⟨e.type, e.severity, e.value⟩) := by
  induction events with
  | nil =>
      intro st h
      rw [List.map_nil, List.append_nil, List.take_of_length_le h]
      rfl
  | cons e events ih => exact (queues_queueEvent e.type e.severity e.value).comp ih

/-! ## What a sample queues -/

/-- The events of a motion result, in the order in which `applyMotionResult` takes its bits. -/
def reportedEvents (motion : MotionResult) : List PendingEvent :=
  (if motion.reports motionEventStart then [⟨.motionStart, .info, 0⟩] else []) ++
  (if motion.reports motionEventStop then
    [⟨.motionStop, .info, (min motion.movementDurationS 32767).toUInt16.toInt16⟩] else []) ++
  (if motion.reports motionEventShock then [⟨.shock, .alarm, motion.shockMg.toInt16⟩] else []) ++
  (if motion.reports motionEventFreeFall then [⟨.freeFall, .alarm, 0⟩] else []) ++
  (if motion.reports motionEventOrientation then
    [⟨.orientationChange, .info, motion.orientation.toUInt16.toInt16⟩] else []) ++
  (if motion.reports motionEventTamper then [⟨.tamper, .alarm, 0⟩] else [])

theorem queues_applyMotionResult (motion : MotionResult) :
    Queues (applyMotionResult motion) (reportedEvents motion) := by
  have hstart : Queues AppState.motionStarted _ :=
    (queues_queueEvent .motionStart .info 0).before fun _ => rfl
  have hstop : Queues (AppState.motionStopped motion) _ :=
    (queues_queueEvent .motionStop .info _).before fun _ => rfl
  have hshock : Queues (AppState.shockSeen motion) _ :=
    (queues_queueEvent .shock .alarm motion.shockMg.toInt16).before fun st => by
      dsimp only
      split_ifs <;> rfl
  have hfall : Queues AppState.freeFallSeen _ :=
    (queues_queueEvent .freeFall .alarm 0).before fun _ => rfl
  have horientation :=
    queues_queueEvent .orientationChange .info motion.orientation.toUInt16.toInt16
  have htamper : Queues AppState.tamperSeen _ :=
    (queues_queueEvent .tamper .alarm 0).before fun _ => rfl
  have hbranches :=
    (((((hstart.branch (motion.reports motionEventStart)).comp
      (hstop.branch (motion.reports motionEventStop))).comp
      (hshock.branch (motion.reports motionEventShock))).comp
      (hfall.branch (motion.reports motionEventFreeFall))).comp
      (horientation.branch (motion.reports motionEventOrientation))).comp
      (htamper.branch (motion.reports motionEventTamper))
  intro st h
  exact hbranches st h

/-! ## How many motion events there are -/

/-- A sample as the sensor manager hands it over: the magnitude is that of the axes. -/
structure MeasuredSample where
  data : SensorData
  magnitude : data.magnitudeMg.toNat = Nat.sqrt (data.accelXMg.toInt.natAbs ^ 2 +
    data.accelYMg.toInt.natAbs ^ 2 + data.accelZMg.toInt.natAbs ^ 2)

/-- An axis that says which way is up holds more than half a g. -/
theorem MeasuredSample.lt_magnitude (sample : MeasuredSample)
    (h : motionClassifierOrientation sample.data ≠ .unknown) :
    orientationMinMg < sample.data.magnitudeMg.toNat := by
  obtain ⟨data, hmagnitude⟩ := sample
  have haxis : ∀ {a s : Nat}, orientationMinMg < a → a ^ 2 ≤ s → orientationMinMg < Nat.sqrt s := by
    intro a s hlt hle
    exact hlt.trans_le (Nat.le_sqrt'.2 hle)
  rw [hmagnitude]
  unfold motionClassifierOrientation at h
  dsimp only at h
  split_ifs at h with hz hpos hy hpos hx hpos
  · exact haxis hz.2.2 (by omega)
  · exact haxis hz.2.2 (by omega)
  · exact haxis hy.2.2 (by omega)
  · exact haxis hy.2.2 (by omega)
  · exact haxis hx (by omega)
  · exact haxis hx (by omega)
  · exact absurd rfl h

namespace MotionEvents

def count (events : MotionEvents) : Nat :=
  events.start.toNat + events.stop.toNat + events.shock.toNat + events.freeFall.toNat +
    events.orientation.toNat + events.tamper.toNat

/-- Which events exclude each other. -/
structure Compatible (events : MotionEvents) : Prop where
  stop : events.stop = true → events.start = false
  tamper : events.tamper = true →
    events.shock = true ∧ events.orientation = true ∧ events.stop = false
  freeFall : events.freeFall = true → events.shock = true → events.orientation = false

/-- At most four at once: a shock that turns a settled tag and starts it moving. -/
theorem Compatible.count_le {events : MotionEvents} (h : events.Compatible) :
    events.count ≤ 4 ∧ (events.count = 4 ↔ events.start = true ∧ events.tamper = true) := by
  obtain ⟨hstop, htamper, hfall⟩ := h
  obtain ⟨start, stop, shock, freeFall, orientation, tamper⟩ := events
  cases tamper with
  | true =>
      obtain ⟨rfl, rfl, rfl⟩ := htamper rfl
      have hfree : freeFall = false := by
        cases freeFall with
        | true => exact absurd (hfall rfl rfl) (by simp)
        | false => rfl
      subst hfree
      cases start <;> simp [count]
  | false =>
      have hmove : start.toNat + stop.toNat ≤ 1 := by
        cases stop with
        | true => simp [show start = false from hstop rfl]
        | false => simpa using Bool.toNat_le start
      have hhit : shock.toNat + freeFall.toNat + orientation.toNat ≤ 2 := by
        cases shock <;> cases freeFall <;> cases orientation <;> simp_all
      have hle : count ⟨start, stop, shock, freeFall, orientation, false⟩ ≤ 3 := by
        simp only [count, Bool.toNat_false]
        omega
      exact ⟨hle.trans (by decide), by simp; omega⟩

end MotionEvents

theorem length_reportedEvents {motion : MotionResult} {events : MotionEvents}
    (h : motion.events = events.toUInt32) : (reportedEvents motion).length = events.count := by
  have hlength : ∀ (b : Bool) (e : PendingEvent),
      (if b = true then [e] else []).length = b.toNat := by
    intro b e
    cases b <;> rfl
  obtain ⟨hstart, hstop, hshock, hfall, horientation, htamper⟩ :=
    MotionEvents.toUInt32_reports h
  simp only [reportedEvents, hstart, hstop, hshock, hfall, horientation, htamper,
    List.length_append, hlength, MotionEvents.count]

theorem compatible_motionEventsOf (sample : MeasuredSample) {manager : MotionManager}
    (hconfig : manager.config.InRange) : (motionEventsOf sample.data manager).Compatible := by
  unfold motionEventsOf
  split_ifs
  · constructor <;> intro h <;> exact absurd h (by simp)
  · constructor
    · intro hstop
      simp_all
    · intro htamper
      obtain ⟨hturns, ⟨hsettled, hstruck⟩, -⟩ := of_decide_eq_true htamper
      refine ⟨decide_eq_true hstruck, decide_eq_true hturns, ?_⟩
      simp [hsettled.1]
    · intro hfall hshock
      have hlow := (of_decide_eq_true hfall).1
      have hhit := (of_decide_eq_true hshock).1
      have hmin := hconfig.shockThreshold.1
      have hmax := hconfig.freeFallThreshold
      rw [UInt16.lt_iff_toNat_lt] at hlow
      rw [UInt16.le_iff_toNat_le] at hmin hmax
      have hlight : ¬ orientationMinMg < sample.data.magnitudeMg.toNat := by
        simp only [motionClassifierDeviation, orientationMinMg, smartTagOneGMg] at hhit ⊢
        have h500 : 500 ≤ manager.config.shockThresholdMg.toNat := hmin
        have h900 : manager.config.freeFallThresholdMg.toNat ≤ 900 := hmax
        omega
      exact decide_eq_false fun hturns => hlight (sample.lt_magnitude hturns.1)

/-! ## How many alarms there are

When a sample raises an alarm that was down. -/

namespace NewAlarm

variable (data : SensorData) (config : TagConfig) (flags : UInt16)

def temp : Prop :=
  data.valid &&& sensorValidTempRh ≠ 0 ∧
    ((config.tempHighCX100 < data.temperatureCX100 ∧ ¬ Raised flags alarmTempHigh) ∨
      (¬ config.tempHighCX100 < data.temperatureCX100 ∧
        data.temperatureCX100 < config.tempLowCX100 ∧ ¬ Raised flags alarmTempLow))

def humidity : Prop :=
  data.valid &&& sensorValidTempRh ≠ 0 ∧ config.humidityHighX100 < data.humidityX100 ∧
    ¬ Raised flags alarmHumidityHigh

def gas : Prop :=
  data.valid &&& sensorValidGas ≠ 0 ∧ config.gasLowThresholdOhm ≠ 0 ∧
    data.gasResistanceOhm < config.gasLowThresholdOhm ∧ ¬ Raised flags alarmGasLow

def battery : Prop :=
  data.valid &&& sensorValidBattery ≠ 0 ∧ data.batteryMv < config.batteryLowMv ∧
    ¬ Raised flags alarmBatteryLow

def sensorFault (expectedValid : UInt8) : Prop :=
  data.valid &&& expectedValid ≠ expectedValid ∧ ¬ Raised flags alarmSensorFault

instance : Decidable (temp data config flags) := inferInstanceAs (Decidable (_ ∧ _))
instance : Decidable (humidity data config flags) := inferInstanceAs (Decidable (_ ∧ _))
instance : Decidable (gas data config flags) := inferInstanceAs (Decidable (_ ∧ _))
instance : Decidable (battery data config flags) := inferInstanceAs (Decidable (_ ∧ _))
instance (expectedValid : UInt8) : Decidable (sensorFault data flags expectedValid) :=
  inferInstanceAs (Decidable (_ ∧ _))

end NewAlarm

section

variable (data : SensorData) (config : TagConfig) (s : AlarmEval)

theorem length_trip (flag : UInt16) (event : AppAlarmEvent)
    (hroom : s.events.length < appAlarmMaxEvents) :
    (s.trip flag event).events.length =
      s.events.length + (decide (¬ Raised s.flags flag)).toNat := by
  unfold AlarmEval.trip emit
  split_ifs with hdown hfull
  · exact absurd hfull (Nat.not_le.2 hroom)
  · simp [and_eq_zero_iff.1 hdown]
  · have hup : Raised s.flags flag := hdown
    simp [hup]

theorem length_evalTempRh (hroom : s.events.length + 1 < appAlarmMaxEvents) :
    (evalTempRh data config s).events.length =
      s.events.length + (decide (NewAlarm.temp data config s.flags)).toNat +
        (decide (NewAlarm.humidity data config s.flags)).toNat := by
  rw [evalTempRh_eq]
  split_ifs with hvalid
  · simp [NewAlarm.temp, NewAlarm.humidity, hvalid]
  · have htemp : (evalTemp data config s).events.length =
        s.events.length + (decide (NewAlarm.temp data config s.flags)).toNat := by
      unfold evalTemp
      split_ifs with hhigh hlow
      · rw [length_trip s _ _ (by omega)]
        simp [NewAlarm.temp, hvalid, hhigh]
      · rw [length_trip s _ _ (by omega)]
        simp [NewAlarm.temp, hvalid, hhigh, hlow]
      · simp [NewAlarm.temp, hvalid, hhigh, hlow]
    have hframe := raised_evalTemp data config s (show _ &&& alarmHumidityHigh = 0 by decide)
    have hle := Bool.toNat_le (decide (NewAlarm.temp data config s.flags))
    rw [evalHumidity, ← htemp]
    split_ifs with hhigh
    · rw [length_trip _ _ _ (by omega)]
      simp [NewAlarm.humidity, hvalid, hhigh, hframe]
    · simp [NewAlarm.humidity, hhigh]

theorem length_evalGas (hroom : s.events.length < appAlarmMaxEvents) :
    (evalGas data config s).events.length =
      s.events.length + (decide (NewAlarm.gas data config s.flags)).toNat := by
  unfold evalGas
  split_ifs with hoff hlow
  · have hnone : ¬ NewAlarm.gas data config s.flags := fun h => hoff.elim h.1 h.2.1
    simp [hnone]
  · rw [length_trip s _ _ hroom]
    simp only [not_or] at hoff
    simp [NewAlarm.gas, hoff, hlow]
  · simp [NewAlarm.gas, hlow]

theorem length_evalBattery (hroom : s.events.length < appAlarmMaxEvents) :
    (evalBattery data config s).events.length =
      s.events.length + (decide (NewAlarm.battery data config s.flags)).toNat := by
  unfold evalBattery
  split_ifs with hvalid hlow
  · simp [NewAlarm.battery, hvalid]
  · rw [length_trip s _ _ hroom]
    simp [NewAlarm.battery, hvalid, hlow]
  · simp [NewAlarm.battery, hlow]
  · simp [NewAlarm.battery, hlow]

theorem length_evalSensorFault (expectedValid : UInt8)
    (hroom : s.events.length < appAlarmMaxEvents) :
    (evalSensorFault data expectedValid s).events.length =
      s.events.length + (decide (NewAlarm.sensorFault data s.flags expectedValid)).toNat := by
  unfold evalSensorFault
  split_ifs with hmissing
  · rw [length_trip s _ _ hroom]
    simp [NewAlarm.sensorFault, hmissing]
  · simp [NewAlarm.sensorFault, not_not.1 hmissing]

end

/-- All five at once: the two temperature alarms exclude each other. -/
def NewAlarm.All (data : SensorData) (config : TagConfig) (flags : UInt16)
    (expectedValid : UInt8) : Prop :=
  temp data config flags ∧ humidity data config flags ∧ gas data config flags ∧
    battery data config flags ∧ sensorFault data flags expectedValid

/-- No check touches the flag of a later one, so each alarm is counted on the flags before. -/
theorem length_events_eq (data : SensorData) (config : TagConfig) (expectedValid : UInt8)
    (flags : UInt16) :
    (appAlarmsEval data config expectedValid flags).events.length =
      (decide (NewAlarm.temp data config flags)).toNat +
        (decide (NewAlarm.humidity data config flags)).toNat +
        (decide (NewAlarm.gas data config flags)).toNat +
        (decide (NewAlarm.battery data config flags)).toNat +
        (decide (NewAlarm.sensorFault data flags expectedValid)).toNat := by
  let start : AlarmEval := { flags := flags, events := [] }
  let tempRh := evalTempRh data config start
  let gas := evalGas data config tempRh
  let battery := evalBattery data config gas
  have htempRh : tempRh.events.length = 0 + (decide (NewAlarm.temp data config flags)).toNat +
      (decide (NewAlarm.humidity data config flags)).toNat :=
    length_evalTempRh data config start (show 0 + 1 < appAlarmMaxEvents by decide)
  have hle1 := Bool.toNat_le (decide (NewAlarm.temp data config flags))
  have hle2 := Bool.toNat_le (decide (NewAlarm.humidity data config flags))
  have hgas : NewAlarm.gas data config tempRh.flags ↔ NewAlarm.gas data config flags := by
    rw [NewAlarm.gas, raised_evalTempRh data config start (by decide)]
    exact Iff.rfl
  have hbattery : NewAlarm.battery data config gas.flags ↔ NewAlarm.battery data config flags := by
    rw [NewAlarm.battery, raised_evalGas data config tempRh (by decide),
      raised_evalTempRh data config start (by decide)]
    exact Iff.rfl
  have hfault : NewAlarm.sensorFault data battery.flags expectedValid ↔
      NewAlarm.sensorFault data flags expectedValid := by
    rw [NewAlarm.sensorFault, raised_evalBattery data config gas (by decide),
      raised_evalGas data config tempRh (by decide),
      raised_evalTempRh data config start (by decide)]
    exact Iff.rfl
  have hgasLength := length_evalGas data config tempRh (by rw [appAlarmMaxEvents]; omega)
  have hle3 := Bool.toNat_le (decide (NewAlarm.gas data config tempRh.flags))
  have hbatteryLength := length_evalBattery data config gas (by
    rw [appAlarmMaxEvents, hgasLength]
    omega)
  have hle4 := Bool.toNat_le (decide (NewAlarm.battery data config gas.flags))
  have hfaultLength := length_evalSensorFault data battery expectedValid (by
    rw [appAlarmMaxEvents, hbatteryLength, hgasLength]
    omega)
  show (evalSensorFault data expectedValid battery).events.length = _
  rw [hfaultLength, hbatteryLength, hgasLength, htempRh]
  simp only [hgas, hbattery, hfault, zero_add]

theorem length_events_eq_five_iff (data : SensorData) (config : TagConfig) (expectedValid : UInt8)
    (flags : UInt16) :
    (appAlarmsEval data config expectedValid flags).events.length = 5 ↔
      NewAlarm.All data config flags expectedValid := by
  have hle : ∀ c : Prop, ∀ [Decidable c], (decide c).toNat ≤ 1 := fun c _ => Bool.toNat_le _
  have htemp := hle (NewAlarm.temp data config flags)
  have hhumidity := hle (NewAlarm.humidity data config flags)
  have hgas := hle (NewAlarm.gas data config flags)
  have hbattery := hle (NewAlarm.battery data config flags)
  have hfault := hle (NewAlarm.sensorFault data flags expectedValid)
  rw [length_events_eq]
  constructor
  · intro h
    have hone : ∀ {c : Prop} [Decidable c], (decide c).toNat = 1 → c := fun h =>
      of_decide_eq_true (Bool.toNat_eq_one.1 h)
    exact ⟨hone (by omega), hone (by omega), hone (by omega), hone (by omega), hone (by omega)⟩
  · intro h
    obtain ⟨htemp, hhumidity, hlow, hempty, hmissing⟩ := h
    simp [htemp, hhumidity, hlow, hempty, hmissing]

/-! ## A sample on the tag -/

/-- The record `app_raise_event` hands over for an event. -/
def PendingEvent.record (uptimeMs : Nat) (e : PendingEvent) : EventRecord where
  timestamp := uptimeS uptimeMs
  type := e.type.toUInt8
  severity := e.severity.toUInt8
  value := e.value

def AppAlarmEvent.pending (e : AppAlarmEvent) : PendingEvent := ⟨e.type, e.severity, e.value⟩

namespace Device

variable [Crc16]

/-- `app_process_sensor_data`, from the call of `motion_manager_process` on. -/
def processSample (uptimeMs : Nat) (data : SensorData) (expectedValid : UInt8) (device : Device) :
    (List EventRecord × SensorData) × Device :=
  let config := appConfigGet device
  let ((motion, data), manager) := motionManagerProcess data device.motion
  let (handed, tag) := appProcessSensorData uptimeMs data motion config expectedValid device.tag
  (handed, { device with motion := manager, tag := tag })

omit [Crc16] in
/-- What a sample brings up: the events reported and the alarms raised, in the order in which they
are queued. -/
def detected (data : SensorData) (expectedValid : UInt8) (device : Device) : List PendingEvent :=
  let ((motion, data), _) := motionManagerProcess data device.motion
  let st := applyMotionResult motion { device.tag.app with lastSample := data }
  reportedEvents motion ++
    (appAlarmsEval data device.config expectedValid st.status.alarmFlags).events.map
      AppAlarmEvent.pending

end Device

section

variable [Crc16]

theorem raiseBatch_records (uptimeMs : Nat) (batch : List PendingEvent) (tag : Tag) :
    (raiseBatch uptimeMs batch tag).1 = batch.map (PendingEvent.record uptimeMs) := by
  induction batch generalizing tag with
  | nil => rfl
  | cons e batch ih =>
      rw [raiseBatch, List.map_cons]
      exact congrArg _ (ih _)

theorem raiseBatch_pending (uptimeMs : Nat) (batch : List PendingEvent) (tag : Tag) :
    (raiseBatch uptimeMs batch tag).2.app.pending = tag.app.pending := by
  induction batch generalizing tag with
  | nil => rfl
  | cons e batch ih =>
      rw [raiseBatch]
      exact ih _

omit [Crc16] in
theorem flushIfDue_pending (timestamp : UInt32) (tag : Tag) :
    (flushIfDue timestamp tag).app.pending = tag.app.pending := by
  unfold flushIfDue
  split_ifs <;> rfl

theorem appProcessSensorData_records (uptimeMs : Nat) (data : SensorData) (motion : MotionResult)
    (config : TagConfig) (expectedValid : UInt8) (tag : Tag) :
    (appProcessSensorData uptimeMs data motion config expectedValid tag).1.1 =
      (applySample data motion config expectedValid tag.app).pending.map
        (PendingEvent.record uptimeMs) := by
  unfold appProcessSensorData drainPendingEvents
  dsimp only
  rw [raiseBatch_records]
  split_ifs <;> rfl

theorem appProcessSensorData_pending (uptimeMs : Nat) (data : SensorData) (motion : MotionResult)
    (config : TagConfig) (expectedValid : UInt8) (tag : Tag) :
    (appProcessSensorData uptimeMs data motion config expectedValid tag).2.app.pending = [] := by
  unfold appProcessSensorData drainPendingEvents
  dsimp only
  rw [flushIfDue_pending, raiseBatch_pending]

end

theorem checkThresholds_pending (data : SensorData) (config : TagConfig) (expectedValid : UInt8)
    {st : AppState} (h : st.pending.length ≤ maxPendingEvents) :
    (checkThresholds data config expectedValid st).pending =
      (st.pending ++ (appAlarmsEval data config expectedValid st.status.alarmFlags).events.map
        AppAlarmEvent.pending).take maxPendingEvents := by
  unfold checkThresholds
  dsimp only
  generalize hst' : noteBattery data _ = st'
  have hkeeps : st'.pending = st.pending := by
    rw [← hst']
    unfold noteBattery
    split_ifs <;> rfl
  rw [queues_foldl _ st' (by rw [hkeeps]; exact h), hkeeps]
  rfl

/-- The first eight events detected are queued. -/
theorem applySample_pending (data : SensorData) (motion : MotionResult) (config : TagConfig)
    (expectedValid : UInt8) {st : AppState} (h : st.pending = []) :
    (applySample data motion config expectedValid st).pending =
      (reportedEvents motion ++ (appAlarmsEval data config expectedValid
        (applyMotionResult motion { st with lastSample := data }).status.alarmFlags).events.map
          AppAlarmEvent.pending).take maxPendingEvents := by
  have hqueues := queues_applyMotionResult motion
  have hroom : ({ st with lastSample := data } : AppState).pending.length ≤ maxPendingEvents := by
    show st.pending.length ≤ maxPendingEvents
    rw [h]
    exact Nat.zero_le _
  show (checkThresholds data config expectedValid _).pending = _
  rw [checkThresholds_pending data config expectedValid (hqueues.length_le hroom),
    hqueues _ hroom, Queues.take_take_append]
  show List.take _ ((st.pending ++ _) ++ _) = _
  rw [h, List.nil_append]

/-! ## Nine at once -/

/-- A shock turns a settled tag and starts it moving, and all five alarms are raised. -/
structure Device.NineAtOnce (data : SensorData) (expectedValid : UInt8) (device : Device) :
    Prop where
  accel : data.valid &&& sensorValidAccel ≠ 0
  active : motionClassifierIsActive data device.motion.config.motionThresholdMg
  settled : device.motion.Settled data
  struck : device.motion.Struck data
  turns : device.motion.Turns data
  untouched : device.motion.tamper = false
  alarms : NewAlarm.All data device.config device.tag.app.status.alarmFlags expectedValid

/-- The motion events leave the flags of the thresholds alone. -/
theorem raised_applyMotionResult {flag : UInt16}
    (h : (alarmShock ||| alarmFreeFall ||| alarmTamper) &&& flag = 0) (motion : MotionResult)
    (st : AppState) :
    Raised (applyMotionResult motion st).status.alarmFlags flag ↔
      Raised st.status.alarmFlags flag := by
  rw [or_and, or_and, UInt16.or_eq_zero_iff, UInt16.or_eq_zero_iff] at h
  obtain ⟨⟨hshock, hfall⟩, htamper⟩ := h
  refine preserves_applyMotionResult
    (I := fun st' => Raised st'.status.alarmFlags flag ↔ Raised st.status.alarmFlags flag)
    ?_ ?_ ?_ ?_ ?_ ?_ ?_ st Iff.rfl
  · intro st' hst'
    rw [AppState.motionStarted, queueEvent_status]
    exact hst'
  · intro st' hst'
    rw [AppState.motionStopped, queueEvent_status]
    exact hst'
  · intro st' hst'
    rw [AppState.shockSeen, queueEvent_status]
    split_ifs <;> exact (raised_or_of_disjoint hshock _).trans hst'
  · intro st' hst'
    rw [AppState.freeFallSeen, queueEvent_status]
    exact (raised_or_of_disjoint hfall _).trans hst'
  · intro type severity value st' hst'
    rw [queueEvent_status]
    exact hst'
  · intro st' hst'
    rw [AppState.tamperSeen, queueEvent_status]
    exact (raised_or_of_disjoint htamper _).trans hst'
  · exact fun st' hst' => hst'

/-- The alarms see the readings as they were sampled. -/
theorem appAlarmsEval_motionManagerProcess (data : SensorData) (manager : MotionManager)
    (config : TagConfig) (expectedValid : UInt8) (flags : UInt16) :
    appAlarmsEval (motionManagerProcess data manager).1.2 config expectedValid flags =
      appAlarmsEval data config expectedValid flags := by
  unfold motionManagerProcess
  split_ifs <;> rfl

theorem newAlarm_all_congr {flags flags' : UInt16}
    (h : ∀ {flag}, (alarmShock ||| alarmFreeFall ||| alarmTamper) &&& flag = 0 →
      (Raised flags flag ↔ Raised flags' flag)) (data : SensorData) (config : TagConfig)
    (expectedValid : UInt8) :
    NewAlarm.All data config flags expectedValid ↔
      NewAlarm.All data config flags' expectedValid := by
  have htempHigh : Raised flags alarmTempHigh ↔ Raised flags' alarmTempHigh := h (by decide)
  have htempLow : Raised flags alarmTempLow ↔ Raised flags' alarmTempLow := h (by decide)
  have hhumidity : Raised flags alarmHumidityHigh ↔ Raised flags' alarmHumidityHigh :=
    h (by decide)
  have hgas : Raised flags alarmGasLow ↔ Raised flags' alarmGasLow := h (by decide)
  have hbattery : Raised flags alarmBatteryLow ↔ Raised flags' alarmBatteryLow := h (by decide)
  have hfault : Raised flags alarmSensorFault ↔ Raised flags' alarmSensorFault := h (by decide)
  simp only [NewAlarm.All, NewAlarm.temp, NewAlarm.humidity, NewAlarm.gas, NewAlarm.battery,
    NewAlarm.sensorFault, htempHigh, htempLow, hhumidity, hgas, hbattery, hfault]

/-- Four motion events and five alarms at most. -/
theorem length_detected (sample : MeasuredSample) (expectedValid : UInt8) {device : Device}
    (hconfig : device.motion.config.InRange) :
    (device.detected sample.data expectedValid).length ≤ 9 ∧
      ((device.detected sample.data expectedValid).length = 9 ↔
        device.NineAtOnce sample.data expectedValid) := by
  let motion := (motionManagerProcess sample.data device.motion).1.1
  let st := applyMotionResult motion
    { device.tag.app with lastSample := (motionManagerProcess sample.data device.motion).1.2 }
  let eval := appAlarmsEval sample.data device.config expectedValid st.status.alarmFlags
  have hmotion : (reportedEvents motion).length =
      (motionEventsOf sample.data device.motion).count :=
    length_reportedEvents (motionManagerProcess_events sample.data device.motion)
  have hlength : (device.detected sample.data expectedValid).length =
      (motionEventsOf sample.data device.motion).count + eval.events.length := by
    rw [← hmotion, Device.detected]
    dsimp only
    rw [appAlarmsEval_motionManagerProcess, List.length_append, List.length_map]
  obtain ⟨hcount, hfour⟩ := (compatible_motionEventsOf sample hconfig).count_le
  have hevents : eval.events.length ≤ 5 := length_events_appAlarmsEval _ _ _ _
  have hfive : eval.events.length = 5 ↔
      NewAlarm.All sample.data device.config device.tag.app.status.alarmFlags expectedValid :=
    (length_events_eq_five_iff _ _ _ _).trans
      (newAlarm_all_congr (fun h => raised_applyMotionResult h motion _) _ _ _)
  have hstart : ((motionEventsOf sample.data device.motion).start = true ∧
      (motionEventsOf sample.data device.motion).tamper = true) ↔
      sample.data.valid &&& sensorValidAccel ≠ 0 ∧
        motionClassifierIsActive sample.data device.motion.config.motionThresholdMg ∧
        device.motion.Settled sample.data ∧ device.motion.Struck sample.data ∧
        device.motion.Turns sample.data ∧ device.motion.tamper = false := by
    unfold motionEventsOf
    split_ifs with haccel
    · simp [haccel]
    · simp only [decide_eq_true_eq]
      constructor
      · intro h
        exact ⟨haccel, h.1.1, h.2.2.1.1, h.2.2.1.2, h.2.1, h.2.2.2⟩
      · intro h
        obtain ⟨-, hactive, hsettled, hstruck, hturns, huntouched⟩ := h
        exact ⟨⟨hactive, hsettled.1⟩, hturns, ⟨hsettled, hstruck⟩, huntouched⟩
  rw [hlength]
  refine ⟨Nat.add_le_add hcount hevents, ?_⟩
  constructor
  · intro h
    obtain ⟨haccel, hactive, hsettled, hstruck, hturns, huntouched⟩ :=
      hstart.1 (hfour.1 (by omega))
    exact ⟨haccel, hactive, hsettled, hstruck, hturns, huntouched, hfive.1 (by omega)⟩
  · intro h
    rw [hfour.2 (hstart.2 ⟨h.accel, h.active, h.settled, h.struck, h.turns, h.untouched⟩),
      hfive.2 h.alarms]

/-! ## Runs -/

/-- What decides the events of a sample, and what changes it. -/
inductive DeviceEvent where
  | sample (uptimeMs : Nat) (sample : MeasuredSample) (expectedValid : UInt8)
  | configure (config : AcceptedConfig)
  | resetCounters

namespace Device

variable [Crc16]

/-- `app_state_reset_counters`, with the motion manager's part. -/
def resetCounters (device : Device) : Device :=
  { device with
    motion := motionManagerClearTamper device.motion
    tag := appStateResetCounters device.tag }

def step (device : Device) : DeviceEvent → Device
  | .sample uptimeMs sample expectedValid =>
    (device.processSample uptimeMs sample.data expectedValid).2
  | .configure config => (appConfigSet config.config device).2
  | .resetCounters => device.resetCounters

/-- Every event detected in a sample is raised once, in the order of detection. -/
def AllRaised (device : Device) : DeviceEvent → Prop
  | .sample uptimeMs sample expectedValid =>
    (device.processSample uptimeMs sample.data expectedValid).1.1 =
      (device.detected sample.data expectedValid).map (PendingEvent.record uptimeMs)
  | _ => True

omit [Crc16] in
def TooMany (device : Device) : DeviceEvent → Prop
  | .sample _ sample expectedValid => device.NineAtOnce sample.data expectedValid
  | _ => False

omit [Crc16] in
/-- What holds between two events. -/
structure Idle (device : Device) : Prop where
  pending : device.tag.app.pending = []
  config : device.motion.config.InRange

theorem idle_step {device : Device} (h : device.Idle) (e : DeviceEvent) : (device.step e).Idle := by
  cases e with
  | sample uptimeMs sample expectedValid =>
      refine ⟨appProcessSensorData_pending _ _ _ _ _ _, ?_⟩
      show (motionManagerProcess sample.data device.motion).2.config.InRange
      rw [motionManagerProcess_config]
      exact h.config
  | configure config =>
      rw [step, appConfigSet_accepted config.accepted]
      exact ⟨h.pending, config.inRange⟩
  | resetCounters => exact ⟨h.pending, h.config⟩

theorem allRaised_iff {device : Device} (h : device.Idle) (e : DeviceEvent) :
    device.AllRaised e ↔ ¬ device.TooMany e := by
  cases e with
  | sample uptimeMs sample expectedValid =>
      obtain ⟨hle, hnine⟩ := length_detected sample expectedValid h.config
      have hrecords : (device.processSample uptimeMs sample.data expectedValid).1.1 =
          ((device.detected sample.data expectedValid).take maxPendingEvents).map
            (PendingEvent.record uptimeMs) := by
        rw [detected, ← applySample_pending _ _ _ _ h.pending]
        exact appProcessSensorData_records _ _ _ _ _ _
      rw [AllRaised, hrecords, TooMany, ← hnine]
      constructor
      · intro hall htoo
        have hlength := congrArg List.length hall
        rw [List.length_map, List.length_map, List.length_take, htoo] at hlength
        exact absurd hlength (by decide)
      · intro hfew
        rw [List.take_of_length_le (by rw [maxPendingEvents]; omega)]
  | configure config => exact iff_of_true trivial not_false
  | resetCounters => exact iff_of_true trivial not_false

omit [Crc16] in
theorem idle_boot (readOk : SettingsKey → Bool) (tag : Tag) : (boot readOk tag).Idle := by
  refine ⟨?_, (appConfigValidate_iff _).1 (validate_boot readOk tag)⟩
  rfl

end Device

/-- Over every run of a tag from a boot, with a configuration that may change between the samples:
all events are raised, unless nine are detected in one sample. -/
theorem events_all_raised_iff [Crc16] (readOk : SettingsKey → Bool) (tag : Tag)
    (events : List DeviceEvent) :
    Run.Along Device.step Device.AllRaised (Device.boot readOk tag) events ↔
      Run.Along Device.step (fun device e => ¬ device.TooMany e) (Device.boot readOk tag) events :=
  Run.along_congr (I := Device.Idle) (fun _ e h => Device.idle_step h e)
    (fun _ e h => Device.allRaised_iff h e)
    (Device.idle_boot readOk tag)

/-- A tag at rest on its back, with every reading in range. -/
def calmSample (timestamp : UInt32) : MeasuredSample where
  data := { AppState.atReset.lastSample with
    timestamp := timestamp
    valid := 0x1f
    temperatureCX100 := 2200
    humidityX100 := 4000
    pressurePa := 101325
    batteryMv := 3000
    gasResistanceOhm := 200000
    accelZMg := 1000
    magnitudeMg := 1000 }
  magnitude := show 1000 = Nat.sqrt (0 ^ 2 + 0 ^ 2 + 1000 ^ 2) by decide +kernel

/-- The tag is hit on its side in hot, damp and foul air, on a low battery. -/
def struckSample (timestamp : UInt32) : MeasuredSample where
  data := { AppState.atReset.lastSample with
    timestamp := timestamp
    valid := 0x1d
    temperatureCX100 := 4500
    humidityX100 := 9000
    batteryMv := 2000
    gasResistanceOhm := 20000
    accelXMg := 6000
    magnitudeMg := 6000 }
  magnitude := show 6000 = Nat.sqrt (6000 ^ 2 + 0 ^ 2 + 0 ^ 2) by decide +kernel

def gasFloorConfig : AcceptedConfig where
  config := { TagConfig.defaults with gasLowThresholdOhm := 50000 }
  accepted := rfl

/-- The tag at rest after its first sample. -/
def settledDevice : Device :=
  Run.final Device.step newDevice [.configure gasFloorConfig, .sample 1000 (calmSample 1) 0x1f]

/-- The ninth event is the sensor fault, for the pressure that is expected and missing. It is
dropped, and no later sample brings it up again. -/
theorem sensor_fault_dropped :
    let struck := settledDevice.processSample 400000 (struckSample 400).data 0x1f
    let fault : PendingEvent := ⟨.sensorFault, .warning, 29⟩
    fault ∈ settledDevice.detected (struckSample 400).data 0x1f ∧
      fault.record 400000 ∉ struck.1.1 ∧
      struck.2.detected (struckSample 401).data 0x1f = [] ∧
      ¬ Run.Along Device.step Device.AllRaised newDevice
        [.configure gasFloorConfig, .sample 1000 (calmSample 1) 0x1f,
          .sample 400000 (struckSample 400) 0x1f] := by
  intro struck fault
  refine ⟨by decide +kernel, by decide +kernel, by decide +kernel, ?_⟩
  intro h
  obtain ⟨-, -, hraised, -⟩ := h
  have hlength := congrArg List.length hraised
  exact absurd hlength (by decide +kernel)

end SmartTag
