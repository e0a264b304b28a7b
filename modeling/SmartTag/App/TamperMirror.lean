import SmartTag.App.AlarmEdges
import SmartTag.Motion.Tamper

/-!
# The tamper latch and its mirror

The motion manager latches a tamper, and the status shows it with a field and an alarm flag. A
sampling iteration sets the latch first and its mirror later, a counter reset clears the mirror
first and the latch later, and the two run on threads of their own. `TamperRun` interleaves them at
these four sections.

* `tamper_applySample`, `tamper_clearCounters`: what the two locked sections do to the mirror.
* `TamperRun.tamper_agrees_iff`: the latch and its mirror agree whenever both threads are done,
  exactly if no tamper is detected by an iteration that overlaps a reset.
-/

namespace SmartTag

open Flags

/-- `motion_manager_tamper`. -/
def motionManagerTamper (manager : MotionManager) : Bool := manager.tamper

/-! ## The mirror -/

/-- The status shows a tamper in both its places, or in neither of them. -/
def ShowsTamper (shown : Prop) (status : TagStatus) : Prop :=
  (status.tamper = 1 ↔ shown) ∧ (Raised status.alarmFlags alarmTamper ↔ shown)

theorem tamper_applyMotionResult (motion : MotionResult) (st : AppState) :
    (applyMotionResult motion st).status.tamper =
        (if motion.reports motionEventTamper then 1 else st.status.tamper) ∧
      (Raised (applyMotionResult motion st).status.alarmFlags alarmTamper ↔
        motion.reports motionEventTamper ∨ Raised st.status.alarmFlags alarmTamper) := by
  have hshock : ∀ word, Raised (word ||| alarmShock) alarmTamper ↔ Raised word alarmTamper :=
    raised_or_of_disjoint (by decide)
  have hfall : ∀ word, Raised (word ||| alarmFreeFall) alarmTamper ↔ Raised word alarmTamper :=
    raised_or_of_disjoint (by decide)
  have htamper : ∀ word, Raised (word ||| alarmTamper) alarmTamper := raised_or (by decide)
  constructor
  · simp only [applyMotionResult, AppState.motionStarted, AppState.motionStopped,
      AppState.shockSeen, AppState.freeFallSeen, AppState.tamperSeen, queueEvent_status,
      apply_ite AppState.status, apply_ite TagStatus.tamper, ite_self]
  · simp only [applyMotionResult, AppState.motionStarted, AppState.motionStopped,
      AppState.shockSeen, AppState.freeFallSeen, AppState.tamperSeen, queueEvent_status,
      apply_ite AppState.status, apply_ite TagStatus.alarmFlags, ite_self]
    split_ifs <;> simp_all

/-- The thresholds have flags of their own. -/
theorem raised_appAlarmsEval_tamper (data : SensorData) (config : TagConfig)
    (expectedValid : UInt8) (flags : UInt16) :
    Raised (appAlarmsEval data config expectedValid flags).flags alarmTamper ↔
      Raised flags alarmTamper := by
  have hdisjoint : ∀ check ∈ alarmChecks data config expectedValid,
      check.flag &&& alarmTamper = 0 := by
    simp only [alarmChecks, tempChecks, humidityCheck, gasCheck, batteryCheck, sensorFaultCheck,
      List.forall_mem_append, List.forall_mem_cons]
    decide
  rw [appAlarmsEval_eq_foldl, Raised, and_foldl_run hdisjoint]
  exact Iff.rfl

theorem foldl_queueEvent_status (events : List AppAlarmEvent) (st : AppState) :
    (events.foldl (fun st e => queueEvent e.type e.severity e.value st) st).status =
      st.status := by
  induction events generalizing st with
  | nil => rfl
  | cons e events ih => exact (ih _).trans (queueEvent_status _ _ _ _)

theorem checkThresholds_status (data : SensorData) (config : TagConfig) (expectedValid : UInt8)
    (st : AppState) :
    (checkThresholds data config expectedValid st).status =
      { st.status with
        alarmFlags :=
          (appAlarmsEval data config expectedValid st.status.alarmFlags).flags } := by
  unfold checkThresholds noteBattery
  dsimp only
  rw [foldl_queueEvent_status]
  split_ifs <;> rfl

/-- The locked section of a sample shows the tamper its result reports, and keeps the one shown. -/
theorem tamper_applySample {shown : Prop} {data : SensorData} {motion : MotionResult}
    {config : TagConfig} {expectedValid : UInt8} {st : AppState}
    (h : ShowsTamper shown st.status) :
    ShowsTamper (motion.reports motionEventTamper ∨ shown)
      (applySample data motion config expectedValid st).status := by
  obtain ⟨htamper, hflag⟩ := h
  obtain ⟨htamper', hflag'⟩ := tamper_applyMotionResult motion { st with lastSample := data }
  let moved := applyMotionResult motion { st with lastSample := data }
  have hstatus := checkThresholds_status data config expectedValid moved
  constructor
  · show (checkThresholds data config expectedValid moved).status.tamper = 1 ↔ _
    rw [hstatus]
    show (applyMotionResult motion { st with lastSample := data }).status.tamper = 1 ↔ _
    rw [htamper']
    split_ifs with hreports
    · exact iff_of_true rfl (.inl hreports)
    · exact htamper.trans (or_iff_right hreports).symm
  · show Raised (checkThresholds data config expectedValid moved).status.alarmFlags _ ↔ _
    rw [hstatus, ← hflag]
    exact (raised_appAlarmsEval_tamper _ _ _ _).trans hflag'

/-- The locked section of a reset shows no tamper. -/
theorem tamper_clearCounters (st : AppState) : ShowsTamper False (clearCounters st).status := by
  constructor
  · exact iff_of_false (show ¬ (0 : UInt8) = 1 by decide) not_false
  · exact iff_of_false (not_raised_andNot (by decide) _) not_false

theorem ShowsTamper.self {shown : Prop} {status : TagStatus} (h : ShowsTamper shown status) :
    ShowsTamper (status.tamper = 1) status :=
  ⟨Iff.rfl, h.2.trans h.1.symm⟩

/-! ## Two threads -/

/-- A sample between its analysis and the locked section. -/
structure AnalysedSample where
  data : SensorData
  motion : MotionResult
  config : TagConfig
  expectedValid : UInt8
deriving DecidableEq

/-- The latch and its mirror, and where the two threads are. -/
structure TamperRun where
  manager : MotionManager
  app : AppState
  /-- What the sampling thread has analysed and not applied. -/
  sampler : Option AnalysedSample
  /-- The work queue has cleared the status, and not yet the latch. -/
  resetting : Bool

/-- Who makes the next step. -/
inductive TamperStep where
  /-- `motion_manager_process`. -/
  | analyse (data : SensorData) (config : TagConfig) (expectedValid : UInt8)
  /-- The locked section of `app_process_sensor_data`. -/
  | apply
  /-- `drain_pending_events` takes its batch. -/
  | takePending
  /-- The locked section of `app_state_reset_counters`. -/
  | clearCounters
  /-- `motion_manager_clear_tamper`. -/
  | clearTamper
  /-- `motion_manager_update_config`. -/
  | updateConfig (config : TagConfig)

namespace TamperRun

/-- A step that its thread is not at does nothing. -/
def step (s : TamperRun) : TamperStep → TamperRun
  | .analyse data config expectedValid =>
    match s.sampler with
    | some _ => s
    | none =>
      let ((motion, data), manager) := motionManagerProcess data s.manager
      { s with
        manager := manager
        sampler := some
          { data := data, motion := motion, config := config, expectedValid := expectedValid } }
  | .apply =>
    match s.sampler with
    | none => s
    | some analysed =>
      { s with
        app := applySample analysed.data analysed.motion analysed.config analysed.expectedValid
          s.app
        sampler := none }
  | .takePending => { s with app := { s.app with pending := [] } }
  | .clearCounters =>
    if s.resetting then s
    else
      { s with
        app := SmartTag.clearCounters s.app
        resetting := true }
  | .clearTamper =>
    if s.resetting then
      { s with
        manager := motionManagerClearTamper s.manager
        resetting := false }
    else s
  | .updateConfig config => { s with manager := motionManagerUpdateConfig config s.manager }

/-- The two threads after a boot. -/
def boot (storage : ConfigStorage) (config : TagConfig) : TamperRun where
  manager := motionManagerInit config
  app := appStateInit storage .atReset
  sampler := none
  resetting := false

/-- Neither thread is in the middle of an operation. -/
def Idle (s : TamperRun) : Prop := s.sampler = none ∧ s.resetting = false

/-- The field, the alarm flag and the latch are equal. -/
def Agrees (s : TamperRun) : Prop :=
  (s.app.status.tamper = 1 ↔ Raised s.app.status.alarmFlags alarmTamper) ∧
    (Raised s.app.status.alarmFlags alarmTamper ↔ motionManagerTamper s.manager = true)

instance (s : TamperRun) : Decidable s.Idle := inferInstanceAs (Decidable (_ ∧ _))
instance (s : TamperRun) : Decidable s.Agrees := inferInstanceAs (Decidable (_ ∧ _))

/-- A step that brings an operation to its end. -/
def Completes : TamperStep → Prop
  | .apply | .clearTamper => True
  | _ => False

/-- Whenever both threads are done, now or as soon as they are, the three are equal. -/
def AgreesWhenIdle (s : TamperRun) : Prop :=
  ∀ rest : List TamperStep, (∀ e ∈ rest, Completes e) →
    (Run.final step s rest).Idle → (Run.final step s rest).Agrees

/-- The sample is taken for a tamper. -/
def Detects (data : SensorData) (manager : MotionManager) : Prop :=
  data.HasAccel ∧ manager.Turns data ∧ (manager.Settled data ∧ manager.Struck data) ∧
    manager.tamper = false

/-- A tamper has been detected and is not shown yet. -/
def Detected (s : TamperRun) : Prop :=
  ∃ analysed, s.sampler = some analysed ∧ analysed.motion.reports motionEventTamper

/-- No tamper is detected during a reset, and no reset begins while one waits to be shown. -/
def Separate (s : TamperRun) : TamperStep → Prop
  | .analyse data _ _ => s.sampler = none → s.resetting = true → ¬ Detects data s.manager
  | .clearCounters => s.resetting = false → ¬ s.Detected
  | _ => True

/-- What holds between two steps, as long as no tamper is detected across a reset. -/
structure Inv (s : TamperRun) : Prop where
  mirror : ShowsTamper (s.app.status.tamper = 1) s.app.status
  latched : s.resetting = false →
    (s.manager.tamper = true ↔ s.app.status.tamper = 1 ∨ s.Detected)
  cleared : s.resetting = true → s.app.status.tamper ≠ 1 ∧ ¬ s.Detected

theorem inv_boot (storage : ConfigStorage) (config : TagConfig) : Inv (boot storage config) where
  mirror := ⟨Iff.rfl, iff_of_false (show ¬ Raised 0 alarmTamper by decide)
    (show ¬ (0 : UInt8) = 1 by decide)⟩
  latched _ := by
    refine iff_of_false (show ¬ false = true by decide) ?_
    intro h
    obtain htamper | ⟨_, hsampler, -⟩ := h
    · exact absurd (show (0 : UInt8) = 1 from htamper) (by decide)
    · cases hsampler
  cleared h := by cases h

theorem not_detected {s : TamperRun} (h : s.sampler = none) : ¬ s.Detected := by
  intro hdetected
  obtain ⟨analysed, hsampler, -⟩ := hdetected
  rw [h] at hsampler
  cases hsampler

theorem detected_iff {s : TamperRun} {analysed : AnalysedSample} (h : s.sampler = some analysed) :
    s.Detected ↔ analysed.motion.reports motionEventTamper := by
  constructor
  · intro hdetected
    obtain ⟨other, hother, hreports⟩ := hdetected
    rw [h] at hother
    cases hother
    exact hreports
  · intro hreports
    exact ⟨analysed, h, hreports⟩

/-! ### Steps -/

section

variable {s : TamperRun}

/-- The analysis of a sample latches the tamper it detects. -/
theorem step_analyse (h : s.sampler = none) (data : SensorData) (config : TagConfig)
    (expectedValid : UInt8) :
    let after := s.step (.analyse data config expectedValid)
    after.app = s.app ∧ after.resetting = s.resetting ∧
      (after.manager.tamper = true ↔ s.manager.tamper = true ∨ after.Detected) ∧
      (after.Detected ↔ Detects data s.manager) := by
  intro after
  let result := motionManagerProcess data s.manager
  have hafter : after =
      { s with
        manager := result.2
        sampler := some
          { data := result.1.2
            motion := result.1.1
            config := config
            expectedValid := expectedValid } } := by
    simp only [after, step, h]
    rfl
  have hsampler : after.sampler = some
      { data := result.1.2
        motion := result.1.1
        config := config
        expectedValid := expectedValid } := by rw [hafter]
  have hdetected : after.Detected ↔ result.1.1.reports motionEventTamper := detected_iff hsampler
  rw [hdetected, hafter]
  exact ⟨rfl, rfl, motionManagerProcess_tamper data s.manager,
    (motionManagerProcess_reports data s.manager).2.2.2.2.2⟩

/-- The locked section of a sample shows the tamper that was detected. -/
theorem step_apply (h : ShowsTamper (s.app.status.tamper = 1) s.app.status) :
    let after := s.step .apply
    after.manager = s.manager ∧ after.resetting = s.resetting ∧ after.sampler = none ∧
      ShowsTamper (s.Detected ∨ s.app.status.tamper = 1) after.app.status := by
  intro after
  cases hsampler : s.sampler with
  | none =>
      have hafter : after = s := by simp only [after, step, hsampler]
      rw [hafter]
      refine ⟨rfl, rfl, hsampler, ?_⟩
      rw [or_iff_right (not_detected hsampler)]
      exact h
  | some analysed =>
      have hafter : after =
          { s with
            app := applySample analysed.data analysed.motion analysed.config
              analysed.expectedValid s.app
            sampler := none } := by
        simp only [after, step, hsampler]
      rw [detected_iff hsampler, hafter]
      exact ⟨rfl, rfl, rfl, tamper_applySample h⟩

theorem Inv.analyse (h : Inv s) {data : SensorData} {config : TagConfig} {expectedValid : UInt8}
    (he : Separate s (.analyse data config expectedValid)) :
    Inv (s.step (.analyse data config expectedValid)) := by
  cases hsampler : s.sampler with
  | some analysed =>
      have hsame : s.step (.analyse data config expectedValid) = s := by
        simp only [step, hsampler]
      rw [hsame]
      exact h
  | none =>
      obtain ⟨happ, hresetting, hlatch, hdetects⟩ :=
        step_analyse hsampler data config expectedValid
      constructor
      · rw [happ]
        exact h.mirror
      · intro hquiet
        rw [hresetting] at hquiet
        rw [hlatch, h.latched hquiet, happ, or_iff_left (not_detected hsampler)]
      · intro hreset
        rw [hresetting] at hreset
        rw [happ, hdetects]
        exact ⟨(h.cleared hreset).1, he hsampler hreset⟩

theorem Inv.apply (h : Inv s) : Inv (s.step .apply) := by
  obtain ⟨hmanager, hresetting, hsampler, hshows⟩ := step_apply h.mirror
  have hnone := not_detected hsampler
  constructor
  · exact hshows.self
  · intro hquiet
    rw [hresetting] at hquiet
    rw [hmanager, h.latched hquiet, or_iff_left hnone, hshows.1, or_comm]
  · intro hreset
    rw [hresetting] at hreset
    obtain ⟨hclear, hdetected⟩ := h.cleared hreset
    rw [Ne, hshows.1]
    exact ⟨not_or.2 ⟨hdetected, hclear⟩, hnone⟩

theorem step_clearCounters (h : s.resetting = false) :
    s.step .clearCounters =
      { s with
        app := SmartTag.clearCounters s.app
        resetting := true } := if_neg (by rw [h]; decide)

theorem Inv.clearCounters (h : Inv s) (he : Separate s .clearCounters) :
    Inv (s.step .clearCounters) := by
  cases hreset : s.resetting with
  | true =>
      have hsame : s.step .clearCounters = s := if_pos hreset
      rw [hsame]
      exact h
  | false =>
      have hshows := tamper_clearCounters s.app
      rw [step_clearCounters hreset]
      exact ⟨hshows.self, nofun, fun _ => ⟨fun htamper => hshows.1.1 htamper, he hreset⟩⟩

theorem Inv.clearTamper (h : Inv s) : Inv (s.step .clearTamper) := by
  cases hreset : s.resetting with
  | true =>
      have hafter : s.step .clearTamper =
          { s with
            manager := motionManagerClearTamper s.manager
            resetting := false } := if_pos hreset
      rw [hafter]
      refine ⟨h.mirror, fun _ => ?_, nofun⟩
      exact iff_of_false (show ¬ false = true by decide) (not_or.2 (h.cleared hreset))
  | false =>
      have hsame : s.step .clearTamper = s := if_neg (by rw [hreset]; decide)
      rw [hsame]
      exact h

theorem Inv.step (h : Inv s) {e : TamperStep} (he : Separate s e) : Inv (s.step e) := by
  cases e with
  | analyse data config expectedValid => exact h.analyse he
  | apply => exact h.apply
  | takePending => exact { h with }
  | clearCounters => exact h.clearCounters he
  | clearTamper => exact h.clearTamper
  | updateConfig config => exact { h with }

theorem Inv.agrees (h : Inv s) (hidle : s.Idle) : s.Agrees := by
  obtain ⟨hsampler, hreset⟩ := hidle
  refine ⟨h.mirror.2.symm, h.mirror.2.trans ?_⟩
  rw [motionManagerTamper, h.latched hreset, or_iff_left (not_detected hsampler)]

theorem separate_of_completes {e : TamperStep} (h : Completes e) : Separate s e := by
  cases e with
  | apply => trivial
  | clearTamper => trivial
  | analyse => exact h.elim
  | takePending => exact h.elim
  | clearCounters => exact h.elim
  | updateConfig => exact h.elim

theorem Inv.agreesWhenIdle (h : Inv s) : s.AgreesWhenIdle := by
  intro rest hrest hidle
  have hinv : Inv (Run.final TamperRun.step s rest) :=
    Run.final_invariant (P := fun _ e => Completes e)
      (fun _ _ hs he => hs.step (separate_of_completes he)) h (Run.along_of_forall hrest)
  exact hinv.agrees hidle

/-- A tamper that waits to be shown while the latch waits to be cleared: once both have been done,
the status shows a tamper that the latch does not have. -/
theorem not_agreesWhenIdle (hmirror : ShowsTamper (s.app.status.tamper = 1) s.app.status)
    (hdetected : s.Detected) (hreset : s.resetting = true) : ¬ s.AgreesWhenIdle := by
  intro hagrees
  obtain ⟨-, hresetting, hsampler, hshows⟩ := step_apply hmirror
  have hdone : Run.final step s [.apply, .clearTamper] =
      { s.step .apply with
        manager := motionManagerClearTamper (s.step .apply).manager
        resetting := false } := if_pos (hresetting.trans hreset)
  have hcompletes : ∀ e ∈ [TamperStep.apply, .clearTamper], Completes e := by
    simp [Completes]
  have hequal := hagrees _ hcompletes (by rw [hdone]; exact ⟨hsampler, rfl⟩)
  rw [hdone] at hequal
  have hlatched : false = true := hequal.2.1 (hshows.2.2 (.inl hdetected))
  exact absurd hlatched (by decide)

/-- A tamper detected across a reset waits to be shown while the latch waits to be cleared. -/
theorem Inv.not_agreesWhenIdle (h : Inv s) {e : TamperStep} (he : ¬ Separate s e) :
    ¬ (s.step e).AgreesWhenIdle := by
  cases e with
  | analyse data config expectedValid =>
      obtain ⟨hsampler, hlater⟩ := Classical.not_imp.1 he
      obtain ⟨hreset, hdetects⟩ := Classical.not_imp.1 hlater
      obtain ⟨happ, hresetting, -, hdetected⟩ :=
        step_analyse hsampler data config expectedValid
      refine TamperRun.not_agreesWhenIdle ?_ (hdetected.2 (not_not.1 hdetects))
        (hresetting.trans hreset)
      rw [happ]
      exact h.mirror
  | clearCounters =>
      obtain ⟨hreset, hdetected⟩ := Classical.not_imp.1 he
      rw [step_clearCounters hreset]
      exact TamperRun.not_agreesWhenIdle (tamper_clearCounters s.app).self (not_not.1 hdetected) rfl
  | apply => exact absurd trivial he
  | takePending => exact absurd trivial he
  | clearTamper => exact absurd trivial he
  | updateConfig => exact absurd trivial he

end

/-- Over every interleaving of samples and counter resets from a boot: whenever both threads are
done, now or once the operations under way are, the three are equal, exactly if no tamper is
detected by an iteration that overlaps a reset. -/
theorem tamper_agrees_iff (storage : ConfigStorage) (config : TagConfig)
    (steps : List TamperStep) :
    (∀ m, (Run.final step (boot storage config) (steps.take m)).AgreesWhenIdle) ↔
      Run.Along step Separate (boot storage config) steps :=
  Run.forall_prefix_iff_along_any (fun _ h => h.agreesWhenIdle) (fun _ _ h he => h.step he)
    (fun _ _ h he => h.not_agreesWhenIdle he) (inv_boot storage config)

/-- A tag at rest on its back is hit on its side, and the counters are reset between the analysis
of that sample and its locked section: the status goes on showing a tamper that has been cleared. -/
theorem tamper_shown_not_latched :
    let s := Run.final step
      (boot { storedConfig := .defaults, storedStats := .zero, nvs := ⟨fun _ => none, []⟩ }
        .defaults)
      [.analyse (accel 1 0 0 1000 1000) .defaults 0, .apply,
        .analyse (accel 400 6000 0 0 6000) .defaults 0, .clearCounters, .clearTamper, .apply]
    s.Idle ∧ s.app.status.tamper = 1 ∧ motionManagerTamper s.manager = false ∧ ¬ s.Agrees := by
  decide +kernel

end TamperRun

end SmartTag
