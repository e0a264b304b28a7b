import SmartTag.Lib.Run
import SmartTag.Zigbee.Reporting

/-!
# The heartbeat

Every attribute is to be reported at the latest when the maximum interval has passed since it last
was. The policy has one `last_report_time` for all groups, and a report of one of them restarts it
for the others.

* `heartbeat_kept_iff`: the interval is kept for each attribute, exactly when none that is due is
  passed over because another group was reported since.
-/

namespace SmartTag

/-- All of `SENSOR_VALID_*`. -/
def sensorValidAll : UInt8 :=
  sensorValidTempRh ||| sensorValidPressure ||| sensorValidAccel ||| sensorValidBattery |||
    sensorValidGas ||| sensorValidGyro

/-- A sample with every reading valid, and the status read with it. -/
structure FullSample where
  data : SensorData
  valid : data.valid &&& sensorValidAll = sensorValidAll
  status : TagStatus

/-- The baseline, and when each group was last in a mask that was committed. -/
structure Reporter where
  baseline : Baseline
  last : ReportGroup → Option Nat

namespace Reporter

def start : Reporter where
  baseline := zigbeeReportingInit
  last := fun _ => none

section

variable (config : AcceptedConfig)

/-- The mask evaluated for a sample. -/
def mask (r : Reporter) (sample : FullSample) : UInt32 :=
  zigbeeReportingEvaluate sample.data sample.status config.config r.baseline

/-- An evaluation and the commit of its mask. -/
def step (r : Reporter) (sample : FullSample) : Reporter where
  baseline := zigbeeReportingCommit sample.data sample.status r.baseline (r.mask config sample)
  last := fun group =>
    if Includes (r.mask config sample) group then some sample.data.timestamp.toNat
    else r.last group

/-- The maximum interval has passed since the group was last reported. -/
def Due (r : Reporter) (sample : FullSample) (group : ReportGroup) : Prop :=
  ∃ last, r.last group = some last ∧
    last + config.config.reportMaxIntervalS.toNat ≤ sample.data.timestamp.toNat

/-- Each attribute that is due is in the mask. -/
def OnTime (r : Reporter) (sample : FullSample) : Prop :=
  ∀ a : Attribute, r.Due config sample a.group → Includes (r.mask config sample) a.group

/-- An attribute that is due and has not moved is not due alone: all groups are. -/
def DueTogether (r : Reporter) (sample : FullSample) : Prop :=
  ∀ a : Attribute, r.Due config sample a.group →
    ¬ Moved sample.data sample.status config.config r.baseline a.group →
      ∀ group, r.Due config sample group

/-! ## The timer -/

/-- The timer is at the latest report of any group. -/
structure Timed (r : Reporter) : Prop where
  invalid : r.baseline.valid = false → ∀ group, r.last group = none
  le : r.baseline.valid = true →
    ∀ group, ∃ last, r.last group = some last ∧ last ≤ r.baseline.lastReportTime.toNat
  attained : r.baseline.valid = true →
    ∃ group, r.last group = some r.baseline.lastReportTime.toNat

/-- The sample is not older than the last report. -/
def Follows (r : Reporter) (sample : FullSample) : Prop :=
  r.baseline.lastReportTime ≤ sample.data.timestamp

theorem timed_start : start.Timed := by
  refine ⟨fun _ _ => rfl, ?_, ?_⟩
  · intro h
    exact absurd h Bool.false_ne_true
  · intro h
    exact absurd h Bool.false_ne_true

variable {config} {r : Reporter} {sample : FullSample}

theorem timed_step (h : r.Timed) (hfollows : r.Follows sample) : (r.step config sample).Timed := by
  by_cases hzero : r.mask config sample = 0
  · have hquiet : r.step config sample = r := by
      rw [step, hzero, zigbeeReportingCommit, if_pos rfl]
      simp only [not_includes_zero, if_false]
    rw [hquiet]
    exact h
  · have hvalid : (r.step config sample).baseline.valid = true := valid_commit _ _ _ hzero
    have htime : (r.step config sample).baseline.lastReportTime = sample.data.timestamp :=
      lastReportTime_commit _ _ _ hzero
    have hlast : ∀ group, (r.step config sample).last group = _ := fun _ => rfl
    constructor
    · intro hfalse
      rw [hvalid] at hfalse
      exact absurd hfalse (by decide)
    · intro _ group
      rw [htime]
      by_cases hin : Includes (r.mask config sample) group
      · exact ⟨_, if_pos hin, le_rfl⟩
      · -- A group left out was reported before, so not after the sample.
        have hbaseline : r.baseline.valid = true := by
          apply Bool.eq_true_of_not_eq_false
          intro hfalse
          exact hin ((includes_evaluate _ _ _ _ group).2 (Or.inl (Or.inl hfalse)))
        obtain ⟨last, hsome, hle⟩ := h.le hbaseline group
        exact ⟨last, (if_neg hin).trans hsome, hle.trans (UInt32.le_iff_toNat_le.1 hfollows)⟩
    · intro _
      obtain ⟨group, hin⟩ := exists_includes_evaluate _ _ _ _ hzero
      rw [htime]
      exact ⟨group, if_pos hin⟩

theorem intervalElapsed_iff (hfollows : r.Follows sample) :
    IntervalElapsed sample.data config.config r.baseline ↔
      r.baseline.lastReportTime.toNat + config.config.reportMaxIntervalS.toNat ≤
        sample.data.timestamp.toNat := by
  have hle := UInt32.le_iff_toNat_le.1 hfollows
  rw [IntervalElapsed, UInt32.le_iff_toNat_le, UInt32.toNat_sub_of_le _ _ hfollows,
    UInt16.toNat_toUInt32]
  omega

/-- Everything is sent when all groups are due. -/
theorem sendsAll_iff (h : r.Timed) (hfollows : r.Follows sample)
    (hvalid : r.baseline.valid = true) :
    SendsAll sample.data config.config r.baseline ↔ ∀ group, r.Due config sample group := by
  rw [SendsAll, or_iff_right (by simp [hvalid]), intervalElapsed_iff hfollows]
  constructor
  · intro helapsed group
    obtain ⟨last, hsome, hle⟩ := h.le hvalid group
    exact ⟨last, hsome, (Nat.add_le_add_right hle _).trans helapsed⟩
  · intro hall
    obtain ⟨group, hattained⟩ := h.attained hvalid
    obtain ⟨last, hsome, hle⟩ := hall group
    obtain rfl := Option.some.inj (hattained.symm.trans hsome)
    exact hle

theorem onTime_iff (h : r.Timed) (hfollows : r.Follows sample) :
    r.OnTime config sample ↔ r.DueTogether config sample := by
  refine forall_congr' fun a => forall_congr' fun hdue => ?_
  have hvalid : r.baseline.valid = true := by
    apply Bool.eq_true_of_not_eq_false
    intro hfalse
    obtain ⟨last, hsome, -⟩ := hdue
    rw [h.invalid hfalse] at hsome
    exact absurd hsome (by simp)
  rw [mask, includes_evaluate, sendsAll_iff h hfollows hvalid]
  constructor
  · intro hin hmoved
    exact hin.resolve_right hmoved
  · intro htogether
    by_cases hmoved : Moved sample.data sample.status config.config r.baseline a.group
    · exact Or.inr hmoved
    · exact Or.inl (htogether hmoved)

/-- In a run with non-decreasing timestamps no sample is older than the last report. -/
theorem along_follows {samples : List FullSample}
    (hmono : samples.Pairwise fun s s' => s.data.timestamp ≤ s'.data.timestamp)
    (hfirst : ∀ sample ∈ samples, r.Follows sample) :
    Run.Along (step config) Follows r samples := by
  induction samples generalizing r with
  | nil => trivial
  | cons sample samples ih =>
      obtain ⟨hle, hmono⟩ := List.pairwise_cons.1 hmono
      refine ⟨hfirst sample List.mem_cons_self, ih hmono ?_⟩
      intro next hnext
      by_cases hzero : r.mask config sample = 0
      · have hkept : (r.step config sample).baseline = r.baseline := by
          rw [step, hzero, zigbeeReportingCommit, if_pos rfl]
        rw [Follows, hkept]
        exact hfirst next (List.mem_cons_of_mem _ hnext)
      · have htime : (r.step config sample).baseline.lastReportTime = sample.data.timestamp :=
          lastReportTime_commit _ _ _ hzero
        rw [Follows, htime]
        exact hle next hnext

end

end Reporter

/-- Over every run of evaluations and commits with non-decreasing timestamps under one accepted
configuration: each attribute whose interval has passed is in the next mask, exactly when none that
has not moved is due on its own. -/
theorem heartbeat_kept_iff (config : AcceptedConfig) (samples : List FullSample)
    (hmono : samples.Pairwise fun s s' => s.data.timestamp ≤ s'.data.timestamp) :
    Run.Along (Reporter.step config) (Reporter.OnTime config) Reporter.start samples ↔
      Run.Along (Reporter.step config) (Reporter.DueTogether config) Reporter.start samples :=
  Run.along_congr_of (I := Reporter.Timed) (fun _ _ h hfollows => Reporter.timed_step h hfollows)
    (fun _ _ h hfollows => Reporter.onTime_iff h hfollows) Reporter.timed_start
    (Reporter.along_follows hmono fun _ _ => UInt32.zero_le)

/-- A quiet sample, with a battery at this percentage. -/
def quietSample (timestamp : UInt32) (batteryPercent : UInt8) : FullSample where
  data := { AppState.atReset.lastSample with
    timestamp := timestamp
    valid := sensorValidAll
    temperatureCX100 := 2100
    batteryPercent := batteryPercent }
  valid := UInt8.and_self
  status := AppState.atReset.status

/-- Nothing changes between two heartbeats. -/
theorem heartbeat_kept_quiet :
    Run.Along (Reporter.step .defaults) (Reporter.OnTime .defaults) Reporter.start
      [quietSample 0 90, quietSample 1800 90] := by
  apply (heartbeat_kept_iff .defaults _ (by decide)).2
  refine ⟨?_, ?_, trivial⟩
  · intro a hdue
    obtain ⟨last, hsome, -⟩ := hdue
    exact absurd hsome (Option.some_ne_none last).symm
  · intro a _ _ group
    exact ⟨0, by cases group <;> decide +kernel, by decide⟩

/-- The battery falls by one percent after 1000 s, and its report restarts the timer. After 1800 s
the temperature is due, but it is not reported. -/
theorem heartbeat_missed :
    ¬ Run.Along (Reporter.step .defaults) (Reporter.OnTime .defaults) Reporter.start
      [quietSample 0 90, quietSample 1000 89, quietSample 1800 89] := by
  intro h
  obtain ⟨-, -, hontime, -⟩ := h
  have hdue := hontime .temperature ⟨0, by decide +kernel, by decide⟩
  exact absurd hdue (by decide +kernel)

end SmartTag
