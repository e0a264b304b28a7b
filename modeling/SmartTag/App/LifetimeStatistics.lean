import Mathlib.Order.Monotone.Basic
import SmartTag.App.Counters

/-!
# Lifetime statistics

The statistics outlive a boot: each boot restores what was last persisted and goes on from there.
Every field is kept by a rule of its own, a count, a maximum, a minimum or, for the uptime, the
time of the last sample. That time restarts at every boot, and so the lifetime uptime goes back.

A run is made of sections under the lock, saves of the statistics and reboots. Beside the tag it
is noted when this boot was last sampled and how often each counted thing has occurred.

* `TagStatistics.Grows`: what each persisted snapshot should be to the ones before it.
* `adds_run`: what a section adds to the statistics in RAM.
* `lifetime_statistics_grow_iff`: the snapshots grow exactly when no save comes at a time of this
  boot below the uptime persisted.
-/

namespace SmartTag

/-! ## Occurrences -/

/-- How often each counted thing has occurred; of the movement, how many seconds. -/
structure Occurrences where
  boots : Nat
  motions : Nat
  shocks : Nat
  freeFalls : Nat
  events : Nat
  movementS : Nat
  faults : Nat
deriving DecidableEq, Repr

namespace Occurrences

def none : Occurrences where
  boots := 0
  motions := 0
  shocks := 0
  freeFalls := 0
  events := 0
  movementS := 0
  faults := 0

def add (a b : Occurrences) : Occurrences where
  boots := a.boots + b.boots
  motions := a.motions + b.motions
  shocks := a.shocks + b.shocks
  freeFalls := a.freeFalls + b.freeFalls
  events := a.events + b.events
  movementS := a.movementS + b.movementS
  faults := a.faults + b.faults

/-- No counter of this width wraps. -/
structure Fits (n : Occurrences) : Prop where
  boots : n.boots < 2 ^ 32
  motions : n.motions < 2 ^ 32
  shocks : n.shocks < 2 ^ 32
  freeFalls : n.freeFalls < 2 ^ 32
  events : n.events < 2 ^ 32
  movementS : n.movementS < 2 ^ 32
  faults : n.faults < 2 ^ 16

instance (n : Occurrences) : Decidable n.Fits :=
  decidable_of_iff
    (n.boots < 2 ^ 32 ∧ n.motions < 2 ^ 32 ∧ n.shocks < 2 ^ 32 ∧ n.freeFalls < 2 ^ 32 ∧
      n.events < 2 ^ 32 ∧ n.movementS < 2 ^ 32 ∧ n.faults < 2 ^ 16)
    ⟨fun h => ⟨h.1, h.2.1, h.2.2.1, h.2.2.2.1, h.2.2.2.2.1, h.2.2.2.2.2.1, h.2.2.2.2.2.2⟩,
      fun h => ⟨h.boots, h.motions, h.shocks, h.freeFalls, h.events, h.movementS, h.faults⟩⟩

theorem add_none (n : Occurrences) : n.add none = n := rfl

theorem add_assoc (a b c : Occurrences) : (a.add b).add c = a.add (b.add c) := by
  simp only [add, Nat.add_assoc]

theorem Fits.of_add {a b : Occurrences} (h : (a.add b).Fits) : a.Fits where
  boots := (Nat.le_add_right _ _).trans_lt h.boots
  motions := (Nat.le_add_right _ _).trans_lt h.motions
  shocks := (Nat.le_add_right _ _).trans_lt h.shocks
  freeFalls := (Nat.le_add_right _ _).trans_lt h.freeFalls
  events := (Nat.le_add_right _ _).trans_lt h.events
  movementS := (Nat.le_add_right _ _).trans_lt h.movementS
  faults := (Nat.le_add_right _ _).trans_lt h.faults

end Occurrences

/-! ## What statistics are to older ones -/

namespace TagStatistics

/-- Nothing counted is lost, and the battery minimum does not rise once there is one. -/
structure Grows (old new : TagStatistics) : Prop where
  bootCount : old.bootCount ≤ new.bootCount
  totalUptimeS : old.totalUptimeS ≤ new.totalUptimeS
  motionCount : old.motionCount ≤ new.motionCount
  shockCount : old.shockCount ≤ new.shockCount
  freeFallCount : old.freeFallCount ≤ new.freeFallCount
  eventCount : old.eventCount ≤ new.eventCount
  movementDurationS : old.movementDurationS ≤ new.movementDurationS
  maxShockMg : old.maxShockMg ≤ new.maxShockMg
  sensorFaults : old.sensorFaults ≤ new.sensorFaults
  minBatteryMv : old.minBatteryMv ≠ 0 → new.minBatteryMv ≤ old.minBatteryMv

/-- The same but for the uptime; the battery minimum stays known, so that this is an order. -/
structure Accrues (old new : TagStatistics) : Prop where
  bootCount : old.bootCount ≤ new.bootCount
  motionCount : old.motionCount ≤ new.motionCount
  shockCount : old.shockCount ≤ new.shockCount
  freeFallCount : old.freeFallCount ≤ new.freeFallCount
  eventCount : old.eventCount ≤ new.eventCount
  movementDurationS : old.movementDurationS ≤ new.movementDurationS
  maxShockMg : old.maxShockMg ≤ new.maxShockMg
  sensorFaults : old.sensorFaults ≤ new.sensorFaults
  minBatteryMv : old.minBatteryMv ≠ 0 →
    new.minBatteryMv ≠ 0 ∧ new.minBatteryMv ≤ old.minBatteryMv

theorem Accrues.refl (s : TagStatistics) : s.Accrues s where
  bootCount := UInt32.le_refl _
  motionCount := UInt32.le_refl _
  shockCount := UInt32.le_refl _
  freeFallCount := UInt32.le_refl _
  eventCount := UInt32.le_refl _
  movementDurationS := UInt32.le_refl _
  maxShockMg := UInt16.le_refl _
  sensorFaults := UInt16.le_refl _
  minBatteryMv hne := ⟨hne, UInt16.le_refl _⟩

theorem Accrues.trans {s s' s'' : TagStatistics} (h : s.Accrues s') (h' : s'.Accrues s'') :
    s.Accrues s'' where
  bootCount := UInt32.le_trans h.bootCount h'.bootCount
  motionCount := UInt32.le_trans h.motionCount h'.motionCount
  shockCount := UInt32.le_trans h.shockCount h'.shockCount
  freeFallCount := UInt32.le_trans h.freeFallCount h'.freeFallCount
  eventCount := UInt32.le_trans h.eventCount h'.eventCount
  movementDurationS := UInt32.le_trans h.movementDurationS h'.movementDurationS
  maxShockMg := UInt16.le_trans h.maxShockMg h'.maxShockMg
  sensorFaults := UInt16.le_trans h.sensorFaults h'.sensorFaults
  minBatteryMv hne := by
    obtain ⟨hknown, hle⟩ := h.minBatteryMv hne
    obtain ⟨hknown', hle'⟩ := h'.minBatteryMv hknown
    exact ⟨hknown', UInt16.le_trans hle' hle⟩

theorem Accrues.grows {s s' : TagStatistics} (h : s.Accrues s')
    (huptime : s.totalUptimeS ≤ s'.totalUptimeS) : s.Grows s' where
  bootCount := h.bootCount
  totalUptimeS := huptime
  motionCount := h.motionCount
  shockCount := h.shockCount
  freeFallCount := h.freeFallCount
  eventCount := h.eventCount
  movementDurationS := h.movementDurationS
  maxShockMg := h.maxShockMg
  sensorFaults := h.sensorFaults
  minBatteryMv hne := (h.minBatteryMv hne).2

/-- What the statistics have counted. -/
def occurrences (s : TagStatistics) : Occurrences where
  boots := s.bootCount.toNat
  motions := s.motionCount.toNat
  shocks := s.shockCount.toNat
  freeFalls := s.freeFallCount.toNat
  events := s.eventCount.toNat
  movementS := s.movementDurationS.toNat
  faults := s.sensorFaults.toNat

/-- The statistics count no more than has occurred. -/
structure Within (s : TagStatistics) (total : Occurrences) : Prop where
  boots : s.bootCount.toNat ≤ total.boots
  motions : s.motionCount.toNat ≤ total.motions
  shocks : s.shockCount.toNat ≤ total.shocks
  freeFalls : s.freeFallCount.toNat ≤ total.freeFalls
  events : s.eventCount.toNat ≤ total.events
  movementS : s.movementDurationS.toNat ≤ total.movementS
  faults : s.sensorFaults.toNat ≤ total.faults

theorem Accrues.within {s s' : TagStatistics} {total : Occurrences} (h : s.Accrues s')
    (hs' : s'.Within total) : s.Within total where
  boots := (UInt32.le_iff_toNat_le.1 h.bootCount).trans hs'.boots
  motions := (UInt32.le_iff_toNat_le.1 h.motionCount).trans hs'.motions
  shocks := (UInt32.le_iff_toNat_le.1 h.shockCount).trans hs'.shocks
  freeFalls := (UInt32.le_iff_toNat_le.1 h.freeFallCount).trans hs'.freeFalls
  events := (UInt32.le_iff_toNat_le.1 h.eventCount).trans hs'.events
  movementS := (UInt32.le_iff_toNat_le.1 h.movementDurationS).trans hs'.movementS
  faults := (UInt16.le_iff_toNat_le.1 h.sensorFaults).trans hs'.faults

/-- `s'` is `s` with the occurrences counted in, modulo the width of the counters. -/
structure Adds (n : Occurrences) (s s' : TagStatistics) : Prop where
  boots : s'.bootCount = s.bootCount + UInt32.ofNat n.boots
  motions : s'.motionCount = s.motionCount + UInt32.ofNat n.motions
  shocks : s'.shockCount = s.shockCount + UInt32.ofNat n.shocks
  freeFalls : s'.freeFallCount = s.freeFallCount + UInt32.ofNat n.freeFalls
  events : s'.eventCount = s.eventCount + UInt32.ofNat n.events
  movementS : s'.movementDurationS = s.movementDurationS + UInt32.ofNat n.movementS
  faults : s'.sensorFaults = s.sensorFaults + UInt16.ofNat n.faults
  maxShockMg : s.maxShockMg ≤ s'.maxShockMg
  minBatteryMv : s.minBatteryMv ≠ 0 → s'.minBatteryMv ≠ 0 ∧ s'.minBatteryMv ≤ s.minBatteryMv

theorem Adds.none (s : TagStatistics) : s.Adds .none s where
  boots := (UInt32.add_zero _).symm
  motions := (UInt32.add_zero _).symm
  shocks := (UInt32.add_zero _).symm
  freeFalls := (UInt32.add_zero _).symm
  events := (UInt32.add_zero _).symm
  movementS := (UInt32.add_zero _).symm
  faults := (UInt16.add_zero _).symm
  maxShockMg := UInt16.le_refl _
  minBatteryMv hne := ⟨hne, UInt16.le_refl _⟩

/-- A counter that has room for what is added. -/
theorem count32 {x x' : UInt32} {n total : Nat} (h : x' = x + UInt32.ofNat n)
    (hx : x.toNat ≤ total) (hfits : total + n < 2 ^ 32) : x'.toNat ≤ total + n ∧ x ≤ x' := by
  have hn : (UInt32.ofNat n).toNat = n := by
    rw [UInt32.toNat_ofNat']
    exact Nat.mod_eq_of_lt (by omega)
  have hsum : x'.toNat = x.toNat + n := by
    rw [h, UInt32.toNat_add, hn]
    exact Nat.mod_eq_of_lt (by omega)
  rw [UInt32.le_iff_toNat_le]
  omega

theorem count16 {x x' : UInt16} {n total : Nat} (h : x' = x + UInt16.ofNat n)
    (hx : x.toNat ≤ total) (hfits : total + n < 2 ^ 16) : x'.toNat ≤ total + n ∧ x ≤ x' := by
  have hn : (UInt16.ofNat n).toNat = n := by
    rw [UInt16.toNat_ofNat']
    exact Nat.mod_eq_of_lt (by omega)
  have hsum : x'.toNat = x.toNat + n := by
    rw [h, UInt16.toNat_add, hn]
    exact Nat.mod_eq_of_lt (by omega)
  rw [UInt16.le_iff_toNat_le]
  omega

theorem Adds.within {n total : Occurrences} {s s' : TagStatistics} (h : s.Adds n s')
    (hs : s.Within total) (hfits : (total.add n).Fits) :
    s'.Within (total.add n) ∧ s.Accrues s' := by
  obtain ⟨hboots, hboots'⟩ := count32 h.boots hs.boots hfits.boots
  obtain ⟨hmotions, hmotions'⟩ := count32 h.motions hs.motions hfits.motions
  obtain ⟨hshocks, hshocks'⟩ := count32 h.shocks hs.shocks hfits.shocks
  obtain ⟨hfalls, hfalls'⟩ := count32 h.freeFalls hs.freeFalls hfits.freeFalls
  obtain ⟨hevents, hevents'⟩ := count32 h.events hs.events hfits.events
  obtain ⟨hmoved, hmoved'⟩ := count32 h.movementS hs.movementS hfits.movementS
  obtain ⟨hfaults, hfaults'⟩ := count16 h.faults hs.faults hfits.faults
  exact ⟨⟨hboots, hmotions, hshocks, hfalls, hevents, hmoved, hfaults⟩,
    ⟨hboots', hmotions', hshocks', hfalls', hevents', hmoved', h.maxShockMg, hfaults',
      h.minBatteryMv⟩⟩

end TagStatistics

/-! ## What a section adds -/

/-- A sensor fault comes up with the sample: the flag was down. -/
def raisesFault (data : SensorData) (config : TagConfig) (expectedValid : UInt8) (before : UInt16) :
    Prop :=
  (appAlarmsEval data config expectedValid before).flags &&& alarmSensorFault ≠ 0 ∧
    before &&& alarmSensorFault = 0

instance (data : SensorData) (config : TagConfig) (expectedValid : UInt8) (before : UInt16) :
    Decidable (raisesFault data config expectedValid before) := inferInstanceAs (Decidable (_ ∧ _))

/-- What occurs in a section. -/
def LockedSection.occurs (st : AppState) : LockedSection → Occurrences
  | .sample data motion config expectedValid =>
    { boots := 0
      motions := if motion.reports motionEventStart then 1 else 0
      shocks := if motion.reports motionEventShock then 1 else 0
      freeFalls := if motion.reports motionEventFreeFall then 1 else 0
      events := 0
      movementS :=
        if motion.reports motionEventStop then motion.movementDurationS.toNat else 0
      faults :=
        if raisesFault data config expectedValid
          (applyMotionResult motion { st with lastSample := data }).status.alarmFlags then 1
        else 0 }
  | .countEvent => { Occurrences.none with events := 1 }
  | _ => .none

theorem applyMotionResult_motionCount (motion : MotionResult) (st : AppState) :
    (applyMotionResult motion st).statistics.motionCount = st.statistics.motionCount +
      UInt32.ofNat (if motion.reports motionEventStart then 1 else 0) := by
  simp only [applyMotionResult, AppState.motionStarted, AppState.motionStopped,
    AppState.shockSeen, AppState.freeFallSeen, AppState.tamperSeen, queueEvent_statistics,
    apply_ite AppState.statistics, apply_ite TagStatistics.motionCount, ite_self]
  split_ifs <;> simp

/-- The boots, the battery and the faults are none of the motion result's business. -/
theorem applyMotionResult_frame (motion : MotionResult) (st : AppState) :
    (applyMotionResult motion st).statistics.bootCount = st.statistics.bootCount ∧
      (applyMotionResult motion st).statistics.minBatteryMv = st.statistics.minBatteryMv ∧
      (applyMotionResult motion st).statistics.sensorFaults = st.statistics.sensorFaults := by
  simp only [applyMotionResult, AppState.motionStarted, AppState.motionStopped,
    AppState.shockSeen, AppState.freeFallSeen, AppState.tamperSeen, queueEvent_statistics,
    apply_ite AppState.statistics, apply_ite TagStatistics.bootCount,
    apply_ite TagStatistics.minBatteryMv, apply_ite TagStatistics.sensorFaults, ite_self, and_self]

theorem foldl_queueEvent_statistics (events : List AppAlarmEvent) (st : AppState) :
    (events.foldl (fun st e => queueEvent e.type e.severity e.value st) st).statistics =
      st.statistics := by
  induction events generalizing st with
  | nil => rfl
  | cons e events ih => exact (ih _).trans (queueEvent_statistics _ _ _ _)

/-- The battery check looks at nothing but the statistics. -/
theorem noteBattery_congr {data : SensorData} {st st' : AppState}
    (h : st.statistics = st'.statistics) :
    (noteBattery data st).statistics = (noteBattery data st').statistics := by
  simp only [noteBattery, apply_ite AppState.statistics, h]

theorem checkThresholds_statistics (data : SensorData) (config : TagConfig)
    (expectedValid : UInt8) (st : AppState) :
    (checkThresholds data config expectedValid st).statistics = (noteBattery data
      (if raisesFault data config expectedValid st.status.alarmFlags then countFault st
      else st)).statistics := by
  unfold checkThresholds
  dsimp only
  rw [foldl_queueEvent_statistics]
  apply noteBattery_congr
  by_cases hfault : raisesFault data config expectedValid st.status.alarmFlags
  · rw [if_pos hfault]
    exact (congrArg AppState.statistics (if_pos hfault)).trans rfl
  · rw [if_neg hfault]
    exact (congrArg AppState.statistics (if_neg hfault)).trans rfl

theorem noteBattery_frame (data : SensorData) (st : AppState) :
    (noteBattery data st).statistics.bootCount = st.statistics.bootCount ∧
      (noteBattery data st).statistics.motionCount = st.statistics.motionCount ∧
      (noteBattery data st).statistics.sensorFaults = st.statistics.sensorFaults := by
  unfold noteBattery
  split_ifs <;> exact ⟨rfl, rfl, rfl⟩

/-- A reading above zero leaves the minimum known, and no higher than it was. -/
theorem noteBattery_minBatteryMv {data : SensorData}
    (hread : data.valid &&& sensorValidBattery ≠ 0 → data.batteryMv ≠ 0) (st : AppState)
    (hne : st.statistics.minBatteryMv ≠ 0) :
    (noteBattery data st).statistics.minBatteryMv ≠ 0 ∧
      (noteBattery data st).statistics.minBatteryMv ≤ st.statistics.minBatteryMv := by
  unfold noteBattery
  split_ifs with hlower
  · exact ⟨hread hlower.1, UInt16.le_of_lt (hlower.2.resolve_left hne)⟩
  · exact ⟨hne, UInt16.le_refl _⟩

theorem countFault_statistics_ite (raises : Prop) [Decidable raises] (st : AppState) :
    (if raises then countFault st else st).statistics =
      { st.statistics with
        sensorFaults := st.statistics.sensorFaults + UInt16.ofNat (if raises then 1 else 0) } := by
  split_ifs
  · rfl
  · have hzero : st.statistics.sensorFaults + UInt16.ofNat 0 = st.statistics.sensorFaults :=
      UInt16.add_zero _
    rw [hzero]

/-- A check of the thresholds counts its fault, and neither boots nor motions. -/
theorem checkThresholds_statistics_frame (data : SensorData) (config : TagConfig)
    (expectedValid : UInt8) (st : AppState) :
    (checkThresholds data config expectedValid st).statistics.bootCount =
        st.statistics.bootCount ∧
      (checkThresholds data config expectedValid st).statistics.motionCount =
        st.statistics.motionCount ∧
      (checkThresholds data config expectedValid st).statistics.sensorFaults =
        st.statistics.sensorFaults + UInt16.ofNat
          (if raisesFault data config expectedValid st.status.alarmFlags then 1 else 0) := by
  obtain ⟨hboots, hmotions, hfaults⟩ := noteBattery_frame data
    (if raisesFault data config expectedValid st.status.alarmFlags then countFault st else st)
  rw [countFault_statistics_ite] at hboots hmotions hfaults
  rw [checkThresholds_statistics]
  exact ⟨hboots, hmotions, hfaults⟩

theorem checkThresholds_minBatteryMv {data : SensorData} (config : TagConfig)
    (expectedValid : UInt8) (hread : data.valid &&& sensorValidBattery ≠ 0 → data.batteryMv ≠ 0)
    (st : AppState) (hne : st.statistics.minBatteryMv ≠ 0) :
    (checkThresholds data config expectedValid st).statistics.minBatteryMv ≠ 0 ∧
      (checkThresholds data config expectedValid st).statistics.minBatteryMv ≤
        st.statistics.minBatteryMv := by
  have hminimum := noteBattery_minBatteryMv hread
    (if raisesFault data config expectedValid st.status.alarmFlags then countFault st else st)
  rw [countFault_statistics_ite] at hminimum
  rw [checkThresholds_statistics]
  exact hminimum hne

/-- The battery readings of a section are above zero, as far as they are valid. -/
def LockedSection.BatteryRead : LockedSection → Prop
  | .sample data _ _ _ => data.valid &&& sensorValidBattery ≠ 0 → data.batteryMv ≠ 0
  | _ => True

theorem adds_applySample {data : SensorData} {motion : MotionResult} {config : TagConfig}
    {expectedValid : UInt8} {st : AppState} (hst : st.Mirrored)
    (hread : data.valid &&& sensorValidBattery ≠ 0 → data.batteryMv ≠ 0) :
    st.statistics.Adds ((LockedSection.sample data motion config expectedValid).occurs st)
      (applySample data motion config expectedValid st).statistics := by
  let moved := applyMotionResult motion { st with lastSample := data }
  obtain ⟨hboots, hbattery, hfaults⟩ : moved.statistics.bootCount = st.statistics.bootCount ∧
      moved.statistics.minBatteryMv = st.statistics.minBatteryMv ∧
      moved.statistics.sensorFaults = st.statistics.sensorFaults :=
    applyMotionResult_frame motion { st with lastSample := data }
  have hmotions : moved.statistics.motionCount = st.statistics.motionCount +
      UInt32.ofNat (if motion.reports motionEventStart then 1 else 0) :=
    applyMotionResult_motionCount motion { st with lastSample := data }
  obtain ⟨hboots', hmotions', hfaults'⟩ :=
    checkThresholds_statistics_frame data config expectedValid moved
  have hminimum := checkThresholds_minBatteryMv config expectedValid hread moved
  rw [hbattery] at hminimum
  -- the mirrored counters follow the status
  let counters := st.statistics.counters
  have hcounts : (applySample data motion config expectedValid st).statistics.counters =
      counters.note motion :=
    (acts_applySample data motion config expectedValid _ st
      (hst.counts (hst.counts rfl).statistics.symm)).statistics
  obtain ⟨hmax, hshock, hfall⟩ := Counters.run_grows (c := counters)
    (e := .sample data motion config expectedValid) nofun
  have hmoved := counters.note_movementDurationS motion
  have hseconds : UInt32.ofNat
      (if motion.reports motionEventStop then motion.movementDurationS.toNat else 0) =
      if motion.reports motionEventStop then motion.movementDurationS else 0 := by
    split_ifs
    · exact UInt32.ofNat_toNat
    · rfl
  refine ⟨?_, ?_, ?_, ?_, ?_, ?_, ?_, ?_, hminimum⟩
  · exact (hboots'.trans hboots).trans (UInt32.add_zero _).symm
  · exact hmotions'.trans hmotions
  · exact (congrArg Counters.shockCount hcounts).trans hshock
  · exact (congrArg Counters.freeFallCount hcounts).trans hfall
  · exact ((congrArg Counters.eventCount hcounts).trans (counters.note_eventCount motion)).trans
      (UInt32.add_zero _).symm
  · rw [← hseconds] at hmoved
    exact (congrArg Counters.movementDurationS hcounts).trans hmoved
  · rw [hfaults] at hfaults'
    exact hfaults'
  · have hmax' := congrArg Counters.maxShockMg hcounts
    exact UInt16.le_trans hmax (UInt16.le_of_eq hmax'.symm)

theorem adds_run {st : AppState} (hst : st.Mirrored) {e : LockedSection}
    (hreset : e ≠ .clearCounters) (hread : e.BatteryRead) :
    st.statistics.Adds (e.occurs st) (st.run e).statistics := by
  cases e with
  | sample data motion config expectedValid => exact adds_applySample hst hread
  | clearCounters => exact absurd rfl hreset
  | countEvent =>
      have h := TagStatistics.Adds.none st.statistics
      refine { h with events := ?_ }
      show st.status.eventCount + 1 = _
      rw [hst.eventCount]
      rfl
  | takePending => exact .none _
  | setEpoch epoch => exact { TagStatistics.Adds.none st.statistics with }
  | noteFlush timestamp => exact .none _

/-! ## Runs -/

/-- A tag over its life. When it was last sampled in this boot and what has occurred in all are
noted beside it. -/
structure Life where
  app : AppState
  storage : ConfigStorage
  sampledAt : Option UInt32
  total : Occurrences

inductive LifeEvent where
  | run (e : LockedSection)
  /-- `app_state_flush_statistics`. -/
  | flush
  | boot
deriving DecidableEq

def LockedSection.sampledAt : LockedSection → Option UInt32
  | .sample data _ _ _ => some data.timestamp
  | _ => none

namespace Life

def persisted (l : Life) : TagStatistics := l.storage.persisted

/-- One event. A boot is `app_state_init` on the statistics last persisted. -/
def step (l : Life) : LifeEvent → Life
  | .run e =>
    { l with
      app := l.app.run e
      sampledAt := e.sampledAt.or l.sampledAt
      total := l.total.add (e.occurs l.app) }
  | .flush => { l with storage := (configStorageSaveStatistics l.app.statistics l.storage).2 }
  | .boot =>
    { app := appStateInit l.storage.powerOn .atReset
      storage := l.storage.powerOn
      sampledAt := none
      total := l.total.add { Occurrences.none with boots := 1 } }

/-- The first boot on stored settings; what they count has occurred. -/
def start (storage : ConfigStorage) : Life :=
  step
    { app := .atReset
      storage := storage
      sampledAt := none
      total := storage.persisted.occurrences } .boot

/-- A save that is going to succeed comes when this boot has not been sampled yet, or was last
sampled at or after the uptime persisted. -/
def OutlastsSaved (l : Life) : LifeEvent → Prop
  | .flush => l.storage.nvs.results.headD 0 = 0 →
    ∀ t ∈ l.sampledAt, l.persisted.totalUptimeS ≤ t
  | _ => True

instance (l : Life) (e : LifeEvent) : Decidable (l.OutlastsSaved e) := by
  cases e <;> unfold OutlastsSaved <;> infer_instance

end Life

/-- Not a counter reset, and no battery reading of zero. -/
def LifeEvent.Counted : LifeEvent → Prop
  | .run e => e ≠ .clearCounters ∧ e.BatteryRead
  | _ => True

instance (e : LockedSection) : Decidable e.BatteryRead := by
  cases e <;> unfold LockedSection.BatteryRead <;> infer_instance

instance (e : LifeEvent) : Decidable e.Counted := by
  cases e <;> unfold LifeEvent.Counted <;> infer_instance

namespace Life

theorem persisted_flush (l : Life) :
    (l.step .flush).persisted =
      if l.storage.nvs.results.headD 0 = 0 then l.app.statistics else l.persisted := by
  have hsaved : (configStorageSaveStatistics l.app.statistics l.storage).1 = 0 ↔
      l.storage.nvs.results.headD 0 = 0 := by
    rw [configStorageSaveStatistics_eq, settingsSaveOne, SettingsBackend.put]
    dsimp only
    split_ifs with h <;> simp_all
  rw [persisted, step, persisted_configStorageSaveStatistics]
  by_cases h : l.storage.nvs.results.headD 0 = 0
  · rw [if_pos h, if_pos (hsaved.2 h)]
  · rw [if_neg h, if_neg fun h' => h (hsaved.1 h'), persisted]

theorem persisted_boot (l : Life) : (l.step .boot).persisted = l.persisted := persisted_powerOn _

/-! ### What holds in every state -/

structure Sound (l : Life) : Prop where
  mirrored : l.app.Mirrored
  within : l.app.statistics.Within l.total
  accrues : l.persisted.Accrues l.app.statistics
  unsampled : l.sampledAt = none → l.app.statistics.totalUptimeS = l.persisted.totalUptimeS
  sampled : ∀ t ∈ l.sampledAt, l.app.statistics.totalUptimeS = t

/-- A boot restores what was persisted and counts itself. -/
theorem sound_boot {l : Life} (hwithin : l.persisted.Within l.total)
    (hfits : (l.step .boot).total.Fits) : (l.step .boot).Sound := by
  have hadds : l.persisted.Adds { Occurrences.none with boots := 1 }
      (l.step .boot).app.statistics :=
    { TagStatistics.Adds.none l.persisted with boots := rfl }
  obtain ⟨hwithin', haccrues⟩ := hadds.within hwithin hfits
  refine ⟨(counts_appStateInit l.storage.powerOn .atReset).mirrored, hwithin', ?_, ?_, ?_⟩
  · rw [persisted_boot]
    exact haccrues
  · intro _
    rw [persisted_boot]
    rfl
  · intro t ht
    exact absurd ht (by simp [step])

theorem sound_start {storage : ConfigStorage} (hfits : (start storage).total.Fits) :
    (start storage).Sound :=
  sound_boot ⟨le_rfl, le_rfl, le_rfl, le_rfl, le_rfl, le_rfl, le_rfl⟩ hfits

/-- A section leaves the uptime alone, unless it is a sample. -/
theorem run_totalUptimeS (st : AppState) (e : LockedSection) :
    (st.run e).statistics.totalUptimeS = e.sampledAt.getD st.statistics.totalUptimeS := by
  cases e <;> rfl

theorem Sound.step {l : Life} (h : l.Sound) {e : LifeEvent} (hcounted : e.Counted)
    (hfits : (l.step e).total.Fits) : (l.step e).Sound := by
  cases e with
  | run e =>
      obtain ⟨hreset, hread⟩ := hcounted
      obtain ⟨hwithin, haccrues⟩ := (adds_run h.mirrored hreset hread).within h.within hfits
      refine ⟨(counts_step e (h.mirrored.counts rfl)).mirrored, hwithin,
        h.accrues.trans haccrues, ?_, ?_⟩
      · intro hnone
        obtain ⟨hnow, hbefore⟩ := Option.or_eq_none_iff.1 hnone
        refine (run_totalUptimeS l.app e).trans ?_
        rw [hnow]
        exact h.unsampled hbefore
      · intro t ht
        refine (run_totalUptimeS l.app e).trans ?_
        rcases Option.or_eq_some_iff.1 ht with hnow | ⟨hnow, hbefore⟩ <;> rw [hnow]
        · rfl
        · exact h.sampled t hbefore
  | flush =>
      refine ⟨h.mirrored, h.within, ?_, ?_, h.sampled⟩
      · rw [persisted_flush]
        split_ifs
        · exact .refl _
        · exact h.accrues
      · intro hnone
        rw [persisted_flush]
        split_ifs
        · rfl
        · exact h.unsampled hnone
  | boot => exact sound_boot (h.accrues.within h.within) hfits

/-- The persisted snapshot outlives the event: nothing in it goes back. -/
theorem accrues_step {l : Life} (h : l.Sound) (e : LifeEvent) :
    l.persisted.Accrues (l.step e).persisted := by
  cases e with
  | run e => exact .refl _
  | flush =>
      rw [persisted_flush]
      split_ifs
      · exact h.accrues
      · exact .refl _
  | boot =>
      rw [persisted_boot]
      exact .refl _

/-- Its uptime does not go back exactly when the save comes late enough. -/
theorem uptime_step {l : Life} (h : l.Sound) (e : LifeEvent) :
    l.persisted.totalUptimeS ≤ (l.step e).persisted.totalUptimeS ↔ l.OutlastsSaved e := by
  cases e with
  | run e => exact iff_of_true (UInt32.le_refl _) trivial
  | flush =>
      rw [persisted_flush, OutlastsSaved]
      split_ifs with hsaves
      · rw [forall_prop_of_true hsaves]
        rcases hnone : l.sampledAt with _ | t
        · rw [h.unsampled hnone]
          exact iff_of_true (UInt32.le_refl _) nofun
        · rw [h.sampled t hnone]
          simp
      · exact iff_of_true (UInt32.le_refl _) fun hsaves' => absurd hsaves' hsaves
  | boot =>
      rw [persisted_boot]
      exact iff_of_true (UInt32.le_refl _) trivial

/-! ### Headroom -/

theorem total_step (l : Life) (e : LifeEvent) : ∃ n, (l.step e).total = l.total.add n := by
  cases e with
  | run e => exact ⟨_, rfl⟩
  | flush => exact ⟨.none, (Occurrences.add_none _).symm⟩
  | boot => exact ⟨_, rfl⟩

theorem total_final (l : Life) (events : List LifeEvent) :
    ∃ n, (Run.final step l events).total = l.total.add n := by
  induction events generalizing l with
  | nil => exact ⟨.none, (Occurrences.add_none _).symm⟩
  | cons e events ih =>
      obtain ⟨n, hn⟩ := total_step l e
      obtain ⟨n', hn'⟩ := ih (l.step e)
      exact ⟨n.add n', by rw [Run.final_cons, hn', hn, Occurrences.add_assoc]⟩

/-- What does not wrap by the end of a run has wrapped nowhere on it. -/
theorem along_fits {l : Life} {events : List LifeEvent}
    (h : (Run.final step l events).total.Fits) :
    Run.Along step (fun l e => (l.step e).total.Fits) l events := by
  induction events generalizing l with
  | nil => trivial
  | cons e events ih =>
      obtain ⟨n, hn⟩ := total_final (l.step e) events
      rw [Run.final_cons, hn] at h
      exact ⟨h.of_add, ih (by rw [hn]; exact h)⟩

end Life

/-! ## Whole calls

What the application does with a tag, as events of its life. -/

namespace Life

/-- The statics and the settings of a tag. -/
def Shows (l : Life) (tag : Tag) : Prop := l.app = tag.app ∧ l.storage = tag.storage

section

variable {l : Life} {tag : Tag}

theorem shows_appStateFlushStatistics (h : l.Shows tag) :
    (l.step .flush).Shows (appStateFlushStatistics tag) := by
  obtain ⟨happ, hstorage⟩ := h
  refine ⟨happ, ?_⟩
  rw [step, appStateFlushStatistics, happ, hstorage]

variable [Crc16]

theorem shows_powerOn (h : l.Shows tag) : (l.step .boot).Shows tag.powerOn := by
  obtain ⟨-, hstorage⟩ := h
  rw [Shows, step, hstorage]
  exact ⟨rfl, rfl⟩

theorem shows_appRaiseEvent (h : l.Shows tag) (uptimeMs : Nat) (type : EventType)
    (severity : EventSeverity) (value : Int16) :
    (l.step (.run .countEvent)).Shows (appRaiseEvent uptimeMs type severity value tag).2 :=
  ⟨congrArg countEvent h.1, h.2⟩

theorem shows_raiseBatch (h : l.Shows tag) (uptimeMs : Nat) (batch : List PendingEvent) :
    (Run.final step l (batch.map fun _ => .run .countEvent)).Shows
      (raiseBatch uptimeMs batch tag).2 := by
  induction batch generalizing l tag with
  | nil => exact h
  | cons e batch ih => exact ih (shows_appRaiseEvent h uptimeMs e.type e.severity e.value)

/-- A sample is its section, the events it queued, and the hourly save if that is due. -/
theorem shows_appProcessSensorData (h : l.Shows tag) (uptimeMs : Nat) (data : SensorData)
    (motion : MotionResult) (config : TagConfig) (expectedValid : UInt8) :
    let batch := (applySample data motion config expectedValid tag.app).pending
    let raised := Run.final step l (.run (.sample data motion config expectedValid) ::
      .run .takePending :: batch.map fun _ => .run .countEvent)
    (if statsFlushIntervalS ≤ data.timestamp - raised.app.lastStatsFlush then
      (raised.step (.run (.noteFlush data.timestamp))).step .flush
    else raised).Shows (appProcessSensorData uptimeMs data motion config expectedValid tag).2 := by
  intro batch raised
  obtain ⟨logged, happ, hstorage, hcall⟩ :=
    appProcessSensorData_eq uptimeMs data motion config expectedValid tag
  have hlogged : (step l (.run (.sample data motion config expectedValid))).Shows logged := by
    refine ⟨?_, h.2.trans hstorage.symm⟩
    rw [happ, ← h.1]
    rfl
  have htaken : (step (step l (.run (.sample data motion config expectedValid)))
      (.run .takePending)).Shows { logged with app := { logged.app with pending := [] } } :=
    ⟨congrArg (fun st => AppState.run st .takePending) hlogged.1, hlogged.2⟩
  have hraised : raised.Shows (drainPendingEvents uptimeMs logged).2 := by
    have hbatch : logged.app.pending = batch := congrArg AppState.pending happ
    rw [drainPendingEvents, hbatch]
    exact shows_raiseBatch htaken uptimeMs batch
  rw [hcall, flushIfDue, hraised.1]
  split_ifs
  · apply shows_appStateFlushStatistics
    exact ⟨congrArg (fun st => AppState.run st (.noteFlush data.timestamp)) hraised.1, hraised.2⟩
  · exact hraised

end

end Life

/-! ## Every snapshot against every earlier one -/

/-- In every run without a counter reset, in which no counter wraps and no battery reading is
zero: the persisted snapshots grow exactly when every save that succeeds comes at a time of its
boot that is not below the uptime persisted, or before the boot's first sample. -/
theorem lifetime_statistics_grow_iff (storage : ConfigStorage) (events : List LifeEvent)
    (hcounted : ∀ e ∈ events, e.Counted)
    (hfits : (Run.final Life.step (Life.start storage) events).total.Fits) :
    (∀ i j, i ≤ j →
      (Run.final Life.step (Life.start storage) (events.take i)).persisted.Grows
        (Run.final Life.step (Life.start storage) (events.take j)).persisted) ↔
      Run.Along Life.step Life.OutlastsSaved (Life.start storage) events := by
  have hstart : (Life.start storage).Sound := by
    obtain ⟨n, hn⟩ := (Life.start storage).total_final events
    rw [hn] at hfits
    exact Life.sound_start hfits.of_add
  have hall : Run.Along Life.step (fun _ e => e.Counted) (Life.start storage) events :=
    Run.along_of_forall hcounted
  have hD := hall.and (Life.along_fits hfits)
  -- the order the snapshots keep: all fields but the uptime, and the uptime
  let After : Life → Life → Prop := fun l l' =>
    l.persisted.Accrues l'.persisted ∧ l.persisted.totalUptimeS ≤ l'.persisted.totalUptimeS
  have hrefl : ∀ l, After l l := fun l => ⟨.refl _, UInt32.le_refl _⟩
  have : Std.Refl After := ⟨hrefl⟩
  have : IsTrans Life After :=
    ⟨fun _ _ _ h h' => ⟨h.1.trans h'.1, UInt32.le_trans h.2 h'.2⟩⟩
  have hafter : Run.Along Life.step (fun l e => After l (l.step e)) (Life.start storage) events ↔
      Run.Along Life.step Life.OutlastsSaved (Life.start storage) events :=
    Run.along_congr_of (I := Life.Sound) (fun _ _ h hD => h.step hD.1 hD.2)
      (fun _ e h _ => ⟨fun h' => (Life.uptime_step h e).1 h'.2,
        fun h' => ⟨Life.accrues_step h e, (Life.uptime_step h e).2 h'⟩⟩) hstart hD
  have hgrows : Run.Along Life.step (fun l e => l.persisted.Grows (l.step e).persisted)
      (Life.start storage) events ↔
      Run.Along Life.step Life.OutlastsSaved (Life.start storage) events :=
    Run.along_congr_of (I := Life.Sound) (fun _ _ h hD => h.step hD.1 hD.2)
      (fun _ e h _ => ⟨fun h' => (Life.uptime_step h e).1 h'.totalUptimeS,
        fun h' => (Life.accrues_step h e).grows ((Life.uptime_step h e).2 h')⟩) hstart hD
  constructor
  · intro h
    rw [← hgrows]
    exact (Run.along_iff_forall_take (R := fun (l l' : Life) => l.persisted.Grows l'.persisted)
      fun _ => (TagStatistics.Accrues.refl _).grows (UInt32.le_refl _)).2
        fun m => h m (m + 1) (Nat.le_succ m)
  · intro h i j hij
    have hsteps := (Run.along_iff_forall_take hrefl).1 (hafter.2 h)
    obtain ⟨haccrues, huptime⟩ := Nat.rel_of_forall_rel_succ_of_le After hsteps hij
    exact haccrues.grows huptime

/-! ## Two boots of a new tag -/

namespace Life

/-- The first boot on empty settings. -/
def startNew : Life := start (.atReset { stored := fun _ => none, results := [] })

/-- A sample at this time, with nothing to report. -/
def quietSample (timestamp : UInt32) : LifeEvent :=
  .run (.sample { AppState.atReset.lastSample with timestamp := timestamp }
    { events := 0, shockMg := 0, orientation := 0, motionState := 0, movementDurationS := 0 }
    .defaults 0)

end Life

/-- Two hours into the first boot the statistics are saved; ten seconds into the second they are
saved again, with a lifetime uptime of ten seconds. -/
theorem lifetime_uptime_restarts :
    let events := [Life.quietSample 7200, .flush, .boot, Life.quietSample 10, .flush]
    let saved m := (Run.final Life.step Life.startNew (events.take m)).persisted
    (∀ e ∈ events, e.Counted) ∧
      (Run.final Life.step Life.startNew events).total.Fits ∧
      (saved 2).totalUptimeS = 7200 ∧ (saved 5).totalUptimeS = 10 ∧
      ¬ (saved 2).Grows (saved 5) := by
  intro events saved
  have hsaved : (saved 2).totalUptimeS = 7200 ∧ (saved 5).totalUptimeS = 10 := by
    decide +kernel
  refine ⟨by decide +kernel, by decide +kernel, hsaved.1, hsaved.2, ?_⟩
  intro h
  have huptime := h.totalUptimeS
  rw [hsaved.1, hsaved.2] at huptime
  exact absurd huptime (by decide)

/-- A second boot that runs longer than the first before it saves keeps the order. -/
theorem lifetime_statistics_grow_later :
    let events := [Life.quietSample 7200, .flush, .boot, Life.quietSample 9000, .flush]
    (Run.final Life.step Life.startNew (events.take 2)).persisted.Grows
      (Run.final Life.step Life.startNew (events.take 5)).persisted := by
  intro events
  exact (lifetime_statistics_grow_iff _ events (by decide +kernel) (by decide +kernel)).2
    (by decide +kernel) 2 5 (by decide)

end SmartTag
