import SmartTag.App.AppConfig
import SmartTag.App.Counters
import SmartTag.Motion.MotionRun

/-!
# Impacts

An impact is followed from the shock detector through the motion manager to the maximum in the
status. The detector reports it once and stays latched until the tag looks calm again; what of
the impact comes after the report is tracked by the detector and by nothing else.

* `rearms_at_rest_iff`: when a sample at rest is calm enough for both latches.
* `latched_step`: what a sample does to the maximum kept, from the latch it finds.
* `max_shock_true_iff`: when the maximum in the status is the true peak.
-/

namespace SmartTag

/-! ## Rest -/

theorem detectShock_freeFallLatched (data : SensorData) (shockThresholdMg : UInt16)
    (detector : ShockDetector) :
    (detectShock data shockThresholdMg detector).2.freeFallLatched = detector.freeFallLatched := by
  unfold detectShock
  dsimp only
  split_ifs <;> rfl

/-- At rest the deviation is nothing, and the shock latch is released. -/
theorem shockLatched_at_rest {rest : SensorData} (hrest : rest.magnitudeMg = 1000)
    (shockThresholdMg freeFallThresholdMg : UInt16) (detector : ShockDetector) :
    (shockDetectorProcess rest shockThresholdMg freeFallThresholdMg detector).2.shockLatched =
      false := by
  have hcalm : (motionClassifierDeviation rest).natAbs = 0 := by
    rw [motionClassifierDeviation, hrest]
    rfl
  show (detectShock rest shockThresholdMg _).2.shockLatched = false
  unfold detectShock
  dsimp only
  rw [hcalm, if_neg (Nat.not_lt_zero _), if_pos (by decide)]

/-- The free fall latch is released only at more than 300 mg above the threshold. -/
theorem freeFallLatched_at_rest {rest : SensorData} (hrest : rest.magnitudeMg = 1000)
    (shockThresholdMg : UInt16) {freeFallThresholdMg : UInt16} (hle : freeFallThresholdMg ≤ 900)
    (detector : ShockDetector) :
    (shockDetectorProcess rest shockThresholdMg freeFallThresholdMg detector).2.freeFallLatched =
      if freeFallThresholdMg < 700 then false else detector.freeFallLatched := by
  refine (detectShock_freeFallLatched _ _ _).trans ?_
  have hle' : freeFallThresholdMg.toNat ≤ 900 := UInt16.le_iff_toNat_le.1 hle
  have hmagnitude : rest.magnitudeMg.toNat = 1000 := by
    rw [hrest]
    rfl
  have hrearm : freeFallThresholdMg.toNat + rearmDeviationMg < rest.magnitudeMg.toNat ↔
      freeFallThresholdMg < 700 := by
    rw [hmagnitude, UInt16.lt_iff_toNat_lt]
    show freeFallThresholdMg.toNat + 300 < 1000 ↔ freeFallThresholdMg.toNat < 700
    omega
  have hhigh : ¬ rest.magnitudeMg < freeFallThresholdMg := by
    rw [UInt16.lt_iff_toNat_lt, hmagnitude]
    omega
  show (detectFreeFall rest freeFallThresholdMg detector).2.freeFallLatched = _
  unfold detectFreeFall
  rw [if_neg hhigh]
  simp only [hrearm]
  split_ifs <;> rfl

/-- A low sample latches the free fall, reported or not. -/
theorem freeFallLatched_of_low {data : SensorData} {freeFallThresholdMg : UInt16}
    (h : data.magnitudeMg < freeFallThresholdMg) (shockThresholdMg : UInt16)
    (detector : ShockDetector) :
    (shockDetectorProcess data shockThresholdMg freeFallThresholdMg detector).2.freeFallLatched =
      true := by
  refine (detectShock_freeFallLatched _ _ _).trans ?_
  show (detectFreeFall data freeFallThresholdMg detector).2.freeFallLatched = true
  unfold detectFreeFall
  rw [if_pos h]
  split_ifs with hlatched
  · exact hlatched
  · rfl

/-- The detector's statics after a sample, under a configuration. -/
def ShockDetector.sense (config : TagConfig) (detector : ShockDetector) (data : SensorData) :
    ShockDetector :=
  (shockDetectorProcess data config.shockThresholdMg config.freeFallThresholdMg detector).2

/-- After any sample at rest, the next one is reported if it is low enough or hard enough. -/
def RearmsAtRest (config : TagConfig) : Prop :=
  ∀ (samples : List SensorData) (rest next : SensorData), rest.magnitudeMg = 1000 →
    let rested := Run.final (ShockDetector.sense config) shockDetectorInit (samples ++ [rest])
    let result := (shockDetectorProcess next config.shockThresholdMg config.freeFallThresholdMg
      rested).1
    (next.magnitudeMg < config.freeFallThresholdMg → result.freeFall = true) ∧
      (config.shockThresholdMg.toNat < (motionClassifierDeviation next).natAbs →
        result.shock = true)

/-- Under an accepted configuration both detections are re-armed by rest exactly when the free
fall threshold is below 700 mg. -/
theorem rearms_at_rest_iff (config : AcceptedConfig) :
    RearmsAtRest config.config ↔ config.config.freeFallThresholdMg < 700 := by
  have hle := config.inRange.freeFallThreshold
  constructor
  · intro h
    by_contra hhigh
    -- two falls with a rest between them, and the second is not reported
    let fall := accel 0 0 0 0 0
    let rest := accel 1 0 0 1000 1000
    have hlow : fall.magnitudeMg < config.config.freeFallThresholdMg := by
      rw [UInt16.not_lt, UInt16.le_iff_toNat_le] at hhigh
      have hthreshold : (700 : UInt16).toNat = 700 := rfl
      rw [UInt16.lt_iff_toNat_lt]
      show 0 < config.config.freeFallThresholdMg.toNat
      omega
    have hreported := (h [fall] rest fall rfl).1 hlow
    have hrested := ((shockDetectorProcess_freeFall _ _ _ _).1 hreported).2
    have hlatched : (Run.final (ShockDetector.sense config.config) shockDetectorInit
        ([fall] ++ [rest])).freeFallLatched = true := by
      have hrest : rest.magnitudeMg = 1000 := rfl
      rw [Run.final_concat, ShockDetector.sense, freeFallLatched_at_rest hrest _ hle,
        if_neg hhigh]
      exact freeFallLatched_of_low hlow _ _
    exact absurd (hlatched.symm.trans hrested) (by simp)
  · intro hlow samples rest next hrest rested result
    have hlatches : rested.shockLatched = false ∧ rested.freeFallLatched = false := by
      dsimp only [rested]
      rw [Run.final_concat]
      refine ⟨shockLatched_at_rest hrest _ _ _, ?_⟩
      exact (freeFallLatched_at_rest hrest _ hle _).trans (if_pos hlow)
    refine ⟨fun hfalls => ?_, fun hstrikes => ?_⟩
    · exact (shockDetectorProcess_freeFall _ _ _ _).2 ⟨hfalls, hlatches.2⟩
    · exact (shockDetectorProcess_shock _ _ _ _).2 ⟨hstrikes, hlatches.1⟩

/-- Accepted, with a free fall threshold of 700 mg. -/
def highFreeFall : AcceptedConfig :=
  ⟨{ TagConfig.defaults with freeFallThresholdMg := 700 }, by decide⟩

/-- Two falls with a rest at 1 g between them: the second is not reported. -/
theorem second_fall_missed : ¬ RearmsAtRest highFreeFall.config := by
  intro h
  have hreported := (h [accel 0 0 0 50 50] (accel 1 0 0 1000 1000) (accel 2 0 0 50 50) rfl).1
    (by decide)
  exact absurd hreported (by decide)

/-! ## The peak -/

/-- How far the sample is from 1 g. -/
def excursion (data : SensorData) : Nat := (motionClassifierDeviation data).natAbs

/-- The sample is over the shock threshold in force. -/
def MotionManager.Over (data : SensorData) (manager : MotionManager) : Prop :=
  data.HasAccel ∧ manager.config.shockThresholdMg.toNat < excursion data

instance (data : SensorData) (manager : MotionManager) : Decidable (manager.Over data) :=
  inferInstanceAs (Decidable (_ ∧ _))

theorem excursion_lt (data : SensorData) : excursion data < 65535 := by
  have hlt := data.magnitudeMg.toNat_lt
  have honeG : (smartTagOneGMg : Int) = 1000 := rfl
  unfold excursion motionClassifierDeviation
  omega

theorem shockDetectorProcess_peakMg {data : SensorData} {shockThresholdMg : UInt16}
    (h : shockThresholdMg.toNat < excursion data) (freeFallThresholdMg : UInt16)
    (detector : ShockDetector) :
    (shockDetectorProcess data shockThresholdMg freeFallThresholdMg detector).1.peakMg.toNat =
      excursion data := by
  have hpeak : (UInt16.ofNat (min (excursion data) 65535)).toNat = excursion data := by
    rw [Nat.min_eq_left (Nat.le_of_lt (excursion_lt data)), UInt16.toNat_ofNat']
    exact Nat.mod_eq_of_lt ((excursion_lt data).trans (by decide))
  refine Eq.trans ?_ hpeak
  show (detectShock data shockThresholdMg _).1.2.toNat = _
  unfold detectShock
  dsimp only
  rw [if_pos (show shockThresholdMg.toNat < (motionClassifierDeviation data).natAbs from h)]
  split_ifs <;> rfl

/-- The peak handed on is that of the sample that is reported. -/
theorem shockMg_of_struck {data : SensorData} {manager : MotionManager} (haccel : data.HasAccel)
    (hstruck : manager.Struck data) :
    (motionManagerProcess data manager).1.1.shockMg.toNat = excursion data := by
  have hshock := (shockDetectorProcess_shock data manager.config.shockThresholdMg
    manager.config.freeFallThresholdMg manager.detector).2 hstruck
  rw [motionManagerProcess, if_neg haccel]
  exact (congrArg UInt16.toNat (if_pos hshock)).trans
    (shockDetectorProcess_peakMg hstruck.1 _ _)

/-- The tag, with the hardest excursion over the threshold since the counters were reset. -/
structure ImpactWatch where
  manager : MotionManager
  app : AppState
  hardest : Nat

/-- A sample comes with the configuration copy of the application and the expected sensors. -/
inductive ImpactEvent where
  | sample (data : SensorData) (config : TagConfig) (expectedValid : UInt8)
  | updateConfig (config : AcceptedConfig)
  | resetCounters

namespace ImpactWatch

def step (w : ImpactWatch) : ImpactEvent → ImpactWatch
  | .sample data config expectedValid =>
    let ((motion, flagged), manager) := motionManagerProcess data w.manager
    { manager := manager
      app := applySample flagged motion config expectedValid w.app
      hardest := if w.manager.Over data then max w.hardest (excursion data) else w.hardest }
  | .updateConfig config =>
    { w with manager := motionManagerUpdateConfig config.config w.manager }
  | .resetCounters =>
    { manager := motionManagerClearTamper w.manager
      app := clearCounters w.app
      hardest := 0 }

def start (config : AcceptedConfig) (storage : ConfigStorage) : ImpactWatch where
  manager := motionManagerInit config.config
  app := appStateInit storage .atReset
  hardest := 0

/-- The maximum in the status is no lower than the hardest excursion. -/
def TruePeak (w : ImpactWatch) : Prop := w.hardest ≤ w.app.status.maxShockMg.toNat

/-- A sample over the threshold that finds the latch set is no harder than the maximum kept. -/
def NoHarder (w : ImpactWatch) : ImpactEvent → Prop
  | .sample data _ _ => w.manager.Over data → w.manager.detector.shockLatched = true →
    excursion data ≤ w.app.status.maxShockMg.toNat
  | _ => True

instance (w : ImpactWatch) : Decidable w.TruePeak := inferInstanceAs (Decidable (_ ≤ _))

/-- The maximum after a sample. -/
theorem maxShockMg_sample {w : ImpactWatch} (h : w.app.Mirrored) (data : SensorData)
    (config : TagConfig) (expectedValid : UInt8) :
    (w.step (.sample data config expectedValid)).app.status.maxShockMg.toNat =
      if w.manager.Over data ∧ w.manager.detector.shockLatched = false then
        max w.app.status.maxShockMg.toNat (excursion data)
      else w.app.status.maxShockMg.toNat := by
  let motion := (motionManagerProcess data w.manager).1.1
  have hcounters : (w.step (.sample data config expectedValid)).app.status.counters =
      w.app.status.counters.note motion :=
    (acts_applySample _ motion config expectedValid _ _ (h.counts rfl)).status
  have hmax : (w.step (.sample data config expectedValid)).app.status.maxShockMg =
      (w.app.status.counters.note motion).maxShockMg := congrArg Counters.maxShockMg hcounters
  have hreports : motion.reports motionEventShock ↔
      w.manager.Over data ∧ w.manager.detector.shockLatched = false :=
    (motionManagerProcess_reports data w.manager).2.2.1.trans (and_assoc.symm)
  have hkept : w.app.status.counters.maxShockMg = w.app.status.maxShockMg := rfl
  rw [hmax, Counters.note_maxShockMg, hkept]
  simp only [hreports]
  by_cases hover : w.manager.Over data ∧ w.manager.detector.shockLatched = false
  · have hpeak : motion.shockMg.toNat = excursion data :=
      shockMg_of_struck hover.1.1 ⟨hover.1.2, hover.2⟩
    rw [if_pos hover]
    split_ifs with hharder
    · rw [hpeak]
      rw [UInt16.lt_iff_toNat_lt, hpeak] at hharder
      exact (Nat.max_eq_right (Nat.le_of_lt hharder.2)).symm
    · rw [UInt16.lt_iff_toNat_lt, hpeak] at hharder
      exact (Nat.max_eq_left (Nat.not_lt.1 fun hlt => hharder ⟨hover, hlt⟩)).symm
  · rw [if_neg hover, if_neg fun h => hover h.1]

/-- Both copies agree, and so far the maximum is the true peak. -/
structure Sound (w : ImpactWatch) : Prop where
  mirrored : w.app.Mirrored
  truePeak : w.TruePeak

theorem mirrored_step {w : ImpactWatch} (h : w.app.Mirrored) (e : ImpactEvent) :
    (w.step e).app.Mirrored := by
  cases e with
  | sample data config expectedValid =>
      exact (acts_applySample _ _ config expectedValid _ _ (h.counts rfl)).mirrored
  | updateConfig config => exact h
  | resetCounters => exact ⟨rfl, rfl, rfl, rfl, rfl⟩

theorem Sound.step {w : ImpactWatch} (h : w.Sound) {e : ImpactEvent} (hharder : w.NoHarder e) :
    (w.step e).Sound := by
  refine ⟨mirrored_step h.mirrored e, ?_⟩
  cases e with
  | sample data config expectedValid =>
      have hpeak : w.hardest ≤ w.app.status.maxShockMg.toNat := h.truePeak
      rw [TruePeak, maxShockMg_sample h.mirrored]
      show (if w.manager.Over data then max w.hardest (excursion data) else w.hardest) ≤ _
      by_cases hover : w.manager.Over data
      · rw [if_pos hover]
        cases hlatched : w.manager.detector.shockLatched with
        | false =>
            rw [if_pos ⟨hover, rfl⟩]
            exact max_le_max hpeak le_rfl
        | true =>
            rw [if_neg fun h => absurd h.2 (by simp)]
            exact max_le hpeak (hharder hover hlatched)
      · rw [if_neg hover, if_neg fun h => hover h.1]
        exact hpeak
  | updateConfig config => exact h.truePeak
  | resetCounters => exact Nat.zero_le _

theorem not_truePeak {w : ImpactWatch} (h : w.Sound) {e : ImpactEvent}
    (hharder : ¬ w.NoHarder e) : ¬ (w.step e).TruePeak := by
  cases e with
  | sample data config expectedValid =>
      rw [NoHarder, Classical.not_imp, Classical.not_imp, Nat.not_le] at hharder
      obtain ⟨hover, hlatched, hharder⟩ := hharder
      rw [TruePeak, maxShockMg_sample h.mirrored, if_neg fun h => absurd (hlatched.symm.trans h.2)
        (by simp)]
      show ¬ (if w.manager.Over data then max w.hardest (excursion data) else w.hardest) ≤ _
      rw [if_pos hover, Nat.not_le]
      exact hharder.trans_le (le_max_right _ _)
  | updateConfig config => exact absurd trivial hharder
  | resetCounters => exact absurd trivial hharder

end ImpactWatch

/-- For every run of samples, configuration updates and counter resets: the maximum in the status
is the true peak in every state exactly when no sample over the threshold finds the latch set and
is harder than the maximum kept. -/
theorem max_shock_true_iff (config : AcceptedConfig) (storage : ConfigStorage)
    (events : List ImpactEvent) :
    (∀ m, (Run.final ImpactWatch.step (.start config storage) (events.take m)).TruePeak) ↔
      Run.Along ImpactWatch.step ImpactWatch.NoHarder (.start config storage) events := by
  have hstart : (ImpactWatch.start config storage).Sound :=
    ⟨(counts_appStateInit storage .atReset).mirrored, Nat.zero_le _⟩
  exact Run.forall_prefix_iff_along_any (I := ImpactWatch.Sound) (fun _ h => h.truePeak)
    (fun _ _ h hharder => h.step hharder)
    (fun _ _ h hharder => ImpactWatch.not_truePeak h hharder) hstart

/-- An impact of two samples on a new tag, the second harder than the first: the detector has
tracked 8 g, and 5 g are surfaced. -/
theorem harder_sample_lost :
    let struck := Run.final ImpactWatch.step
      (.start .defaults (.atReset { stored := fun _ => none, results := [] }))
      [.sample (accel 60 0 0 6000 6000) .defaults 0, .sample (accel 61 0 0 9000 9000) .defaults 0]
    struck.hardest = 8000 ∧ struck.manager.detector.peakMg = 8000 ∧
      struck.app.status.maxShockMg = 5000 ∧ ¬ struck.TruePeak := by
  decide +kernel

end SmartTag
