import SmartTag.Zigbee.TagMonitor

/-!
# Quiet after a commit

A commit with the mask that the policy returned takes away every reason it had for a report. What
was reported is now the baseline and differs from it by nothing, what was not had no reason and
has none now, and the interval starts anew.

* `not_moved_commit`: no group has moved from the committed baseline.
* `zigbeeReportingEvaluate_commit`: evaluated again, the same sample is not reported.
-/

namespace SmartTag

variable {data : SensorData} {status : TagStatus} {config : TagConfig}

/-- A group that is held as it is read has not moved. -/
theorem Attribute.not_moved_of_held {baseline : Baseline} {a : Attribute}
    (hheld : a.held baseline = a.reading data) (hdelta : a.delta config ≠ 0) :
    ¬ Moved data status config baseline a.group := by
  have hdiff : (a.reading data - a.held baseline).natAbs = 0 := by
    rw [hheld, Int.sub_self]
    rfl
  have hfits : a.Fits data baseline := by
    rw [Attribute.Fits, hdiff]
    decide
  rw [Attribute.moved_group hfits status config, hdiff]
  intro hmoved
  exact hdelta (Nat.le_zero.mp hmoved.2)

/-- Whether a group has moved depends on what is held of it. -/
theorem Attribute.moved_congr {baseline baseline' : Baseline} {a : Attribute}
    (hheld : a.held baseline = a.held baseline') :
    Moved data status config baseline a.group ↔ Moved data status config baseline' a.group := by
  cases a with
  | temperature =>
    have hfield : baseline.temperature = baseline'.temperature := Int16.toInt_inj.mp hheld
    simp only [Attribute.group, Moved, TemperatureMoved, hfield]
  | humidity =>
    have hfield : baseline.humidity = baseline'.humidity :=
      UInt16.toNat_inj.mp (Int.ofNat_inj.mp hheld)
    simp only [Attribute.group, Moved, HumidityMoved, hfield]
  | pressure =>
    have hfield : baseline.pressure = baseline'.pressure := Int32.toInt_inj.mp hheld
    simp only [Attribute.group, Moved, PressureMoved, hfield]
  | battery =>
    have hfield : baseline.batteryPercent = baseline'.batteryPercent :=
      UInt8.toNat_inj.mp (Int.ofNat_inj.mp hheld)
    simp only [Attribute.group, Moved, BatteryMoved, hfield]

/-- The deltas that a configuration may set to zero are not. The battery's is a constant, and a
gas delta of zero switches the comparison off. -/
structure NonzeroDeltas (config : TagConfig) : Prop where
  temperature : config.reportTempDeltaCX100 ≠ 0
  humidity : config.reportHumidityDeltaX100 ≠ 0
  pressure : config.reportPressureDeltaPa ≠ 0

theorem NonzeroDeltas.delta_ne_zero (h : NonzeroDeltas config) (a : Attribute) :
    a.delta config ≠ 0 := by
  cases a with
  | temperature => exact fun hzero => h.temperature (UInt16.toNat_inj.mp hzero)
  | humidity => exact fun hzero => h.humidity (UInt16.toNat_inj.mp hzero)
  | pressure => exact fun hzero => h.pressure (UInt16.toNat_inj.mp hzero)
  | battery => exact Nat.one_ne_zero

section

variable (data status config) (baseline : Baseline)

/-- The baseline after the commit of what the policy returned. -/
def committed : Baseline :=
  zigbeeReportingCommit data status baseline (zigbeeReportingEvaluate data status config baseline)

variable {data status config baseline}

theorem Attribute.not_moved_committed (h : NonzeroDeltas config) (a : Attribute) :
    ¬ Moved data status config (committed data status config baseline) a.group := by
  have hheld := Attribute.held_commit data status baseline
    (zigbeeReportingEvaluate data status config baseline) a
  by_cases hin : Includes (zigbeeReportingEvaluate data status config baseline) a.group
  · rw [if_pos hin] at hheld
    exact Attribute.not_moved_of_held hheld (h.delta_ne_zero a)
  · rw [if_neg hin] at hheld
    rw [committed, Attribute.moved_congr hheld]
    exact fun hmoved => hin ((includes_evaluate data status config baseline _).mpr (.inr hmoved))

/-- The gas resistance is committed only where it was read, and compared only there. -/
theorem not_gasMoved_committed (hvalid : data.valid &&& sensorValidGas ≠ 0)
    (hdelta : config.reportGasDeltaOhm ≠ 0) :
    ¬ GasMoved data config (committed data status config baseline) := by
  have hgas := gasResistance_commit data status baseline
    (zigbeeReportingEvaluate data status config baseline)
  by_cases hin : Includes (zigbeeReportingEvaluate data status config baseline) .tagMonitor
  · rw [if_pos ⟨hin, hvalid⟩] at hgas
    have hpos : 0 < config.reportGasDeltaOhm.toNat :=
      Nat.pos_of_ne_zero fun hzero => hdelta (UInt32.toNat_inj.mp hzero)
    rw [not_gasMoved_iff, committed, hgas, Int.sub_self]
    exact hpos
  · rw [if_neg fun hboth => hin hboth.1] at hgas
    intro hmoved
    refine hin ((includes_evaluate data status config baseline _).mpr (.inr (.inl ?_)))
    refine ⟨⟨hvalid, hdelta⟩, ?_⟩
    simpa only [GasMoved, committed, hgas] using hmoved

theorem not_statusChanged_committed :
    ¬ StatusChanged status (committed data status config baseline) := by
  rw [statusChanged_iff, not_not, committed, monitored_commit]
  split_ifs with hin
  · rfl
  · by_contra hchanged
    exact hin ((includes_evaluate data status config baseline _).mpr
      (.inr (.inr ((statusChanged_iff status baseline).mpr hchanged))))

/-- **No group has moved from the committed baseline.** -/
theorem not_moved_commit (h : NonzeroDeltas config) (group : ReportGroup) :
    ¬ Moved data status config (committed data status config baseline) group := by
  cases group with
  | temperature => exact Attribute.not_moved_committed h .temperature
  | humidity => exact Attribute.not_moved_committed h .humidity
  | pressure => exact Attribute.not_moved_committed h .pressure
  | battery => exact Attribute.not_moved_committed h .battery
  | tagMonitor =>
    intro hmoved
    rcases hmoved with ⟨⟨hvalid, hdelta⟩, hgas⟩ | hstatus
    · exact not_gasMoved_committed hvalid hdelta hgas
    · exact not_statusChanged_committed hstatus

/-- A commit that sends anything starts the interval anew. -/
theorem not_sendsAll_commit (hinterval : config.reportMaxIntervalS ≠ 0)
    (hne : zigbeeReportingEvaluate data status config baseline ≠ 0) :
    ¬ SendsAll data config (committed data status config baseline) := by
  intro hall
  rcases hall with hinvalid | helapsed
  · rw [committed, valid_commit data status baseline hne] at hinvalid
    exact absurd hinvalid (by decide)
  · rw [IntervalElapsed, committed, lastReportTime_commit data status baseline hne,
      UInt32.sub_self, UInt32.le_iff_toNat_le] at helapsed
    exact hinterval (UInt16.toNat_inj.mp (Nat.le_zero.mp helapsed))

end

/-- **Committing a report makes the policy quiet**, whatever the baseline was: evaluated again,
the same sample, status and configuration give an empty mask. -/
theorem zigbeeReportingEvaluate_commit (data : SensorData) (status : TagStatus)
    (config : AcceptedConfig) (baseline : Baseline) (h : NonzeroDeltas config.config) :
    zigbeeReportingEvaluate data status config.config
      (zigbeeReportingCommit data status baseline
        (zigbeeReportingEvaluate data status config.config baseline)) = 0 := by
  have hinterval : config.config.reportMaxIntervalS ≠ 0 := by
    intro hzero
    have hrange := config.inRange.reportMaxInterval.1
    rw [hzero] at hrange
    exact absurd hrange (by decide)
  by_cases hzero : zigbeeReportingEvaluate data status config.config baseline = 0
  · rw [hzero, zigbeeReportingCommit, if_pos rfl, hzero]
  · by_contra hne
    obtain ⟨group, hin⟩ := exists_includes_evaluate data status config.config _ hne
    rcases (includes_evaluate data status config.config _ group).mp hin with hall | hmoved
    · exact not_sendsAll_commit hinterval hzero hall
    · exact not_moved_commit h group hmoved

/-- The first report after boot sends everything, and the same sample nothing more. -/
theorem zigbeeReportingEvaluate_commit_first :
    let data : SensorData :=
      { AppState.atReset.lastSample with
        valid := sensorValidTempRh ||| sensorValidGas
        temperatureCX100 := 2150
        gasResistanceOhm := 81234 }
    let status := AppState.atReset.status
    let config := AcceptedConfig.defaults
    zigbeeReportingEvaluate data status config.config zigbeeReportingInit = reportAll ∧
      zigbeeReportingEvaluate data status config.config
        (zigbeeReportingCommit data status zigbeeReportingInit
          (zigbeeReportingEvaluate data status config.config zigbeeReportingInit)) = 0 := by
  intro data status config
  have hdeltas : NonzeroDeltas config.config := ⟨by decide, by decide, by decide⟩
  exact ⟨rfl, zigbeeReportingEvaluate_commit data status config zigbeeReportingInit hdeltas⟩

end SmartTag
