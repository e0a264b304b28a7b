import SmartTag.App.EventQueue
import SmartTag.Lib.Doorbell

/-!
# The sampling thread

The loop of `src/power/power_manager.c` beside the threads that reach it: those that want a sample
now, those that change the configuration, and the accelerometer's interrupt. All of them give the
same semaphore, and the thread's sleep is to take it with a timeout.

* `every_request_sampled`: a request is followed by a sample that begins after it, at most six steps
  of the thread later and before the thread sleeps, however the threads interleave.
* `sleeps_as_configured`: a thread that sleeps does so for the interval the configuration in force
  and the motion state ask for, once the calls of `app_config_set` have announced their assignment.

Both are doorbells: what is written is the number of requests, or the configuration.
-/

namespace SmartTag

def tagModeAsset : UInt8 := 1

/-- `mode_interval_divider`. -/
def modeIntervalDivider (mode : UInt8) : UInt16 :=
  if mode = tagModeShipping then 4 else if mode = tagModeAsset then 2 else 1

def appConfigEffectiveIntervalS (config : TagConfig) : UInt16 :=
  max (config.samplingIntervalS / modeIntervalDivider config.operatingMode) 1

/-- `sleep_interval_s`, from the motion state and the configuration it reads. -/
def sleepIntervalS (wakeSource : Bool) (motionState : UInt8) (config : TagConfig) : UInt16 :=
  if ¬ wakeSource then appConfigEffectiveIntervalS config
  else if motionState = motionStateMoving then appConfigEffectiveIntervalS config
  else max config.samplingIntervalS 1

theorem one_le_max (interval : UInt16) : 1 ≤ max interval 1 := by
  show 1 ≤ if interval ≤ 1 then 1 else interval
  split_ifs with h
  · exact UInt16.le_refl 1
  · exact UInt16.le_of_lt (UInt16.not_le.1 h)

theorem max_one_le {interval bound : UInt16} (h : interval ≤ bound) (hone : 1 ≤ bound) :
    max interval 1 ≤ bound := by
  show (if interval ≤ 1 then 1 else interval) ≤ bound
  split_ifs
  · exact hone
  · exact h

/-- An interval is never zero and never longer than the configured one. -/
theorem sleepIntervalS_bounds (wakeSource : Bool) (motionState : UInt8) {config : TagConfig}
    (h : config.InRange) :
    1 ≤ sleepIntervalS wakeSource motionState config ∧
      sleepIntervalS wakeSource motionState config ≤ config.samplingIntervalS := by
  have hone := h.samplingInterval.1
  have hdivided : config.samplingIntervalS / modeIntervalDivider config.operatingMode ≤
      config.samplingIntervalS := by
    rw [UInt16.le_iff_toNat_le, UInt16.toNat_div]
    exact Nat.div_le_self _ _
  rw [sleepIntervalS]
  split_ifs
  · exact ⟨one_le_max _, max_one_le hdivided hone⟩
  · exact ⟨one_le_max _, max_one_le (UInt16.le_refl _) hone⟩
  · exact ⟨one_le_max _, max_one_le hdivided hone⟩

/-! ## The threads -/

/-- Where the sampling thread is in its loop. -/
inductive SamplingPhase where
  | top
  /-- In `sensor_manager_read`. -/
  | sampling
  | processing (data : SensorData)
  /-- In `sleep_interval_s`, before it reads the motion state. -/
  | weighing
  /-- The same, before it reads the configuration. -/
  | dividing (motionState : UInt8)
  /-- At `k_sem_take`. -/
  | arming (intervalS : UInt16)
  | asleep (intervalS : UInt16)
deriving DecidableEq

namespace SamplingPhase

/-- The thread as the consumer of what is there when a sample begins. -/
def sampler : SamplingPhase → Doorbell.Consumer
  | .top => .reading
  | .asleep _ => .waiting
  | _ => .done

/-- The thread as the consumer of the configuration its interval is from. -/
def weigher : SamplingPhase → Doorbell.Consumer
  | .arming _ => .done
  | .asleep _ => .waiting
  | _ => .reading

/-- The steps until a sample begins, if the thread does not sleep before. -/
def stepsToSample : SamplingPhase → Nat
  | .top => 1
  | .arming _ => 2
  | .dividing _ => 3
  | .weighing => 4
  | .processing _ => 5
  | .sampling => 6
  | .asleep _ => 0

end SamplingPhase

/-- What a call of `app_config_set` does next, its assignment behind it. -/
inductive SetPoint where
  | motion | led | changed | save
deriving DecidableEq

/-- The statics of `power_manager.c` that the loop uses, with the device, the calls of
`app_config_set` under way and what they bring. `requested` counts the requests for a sample,
`served` those there were when the last sample began, and `weighed` is the configuration the thread
read last. -/
structure Sampler (ι : Type*) where
  device : Device
  wakeSource : Bool
  sampleNow : Bool
  motionPending : Bool
  phase : SamplingPhase
  callers : ι → Option (AcceptedConfig × SetPoint)
  requested : Nat
  served : Nat
  weighed : TagConfig

inductive SamplerEvent (ι : Type*) where
  /-- The thread takes a step: the sample it gets if it reads one, and the time of the events. -/
  | thread (data : SensorData) (expectedValid : UInt8) (uptimeMs : Nat)
  | timeout
  /-- `power_manager_sample_now`. -/
  | sampleNow
  /-- `power_manager_config_changed`, called once more. -/
  | configChanged
  | motionTrigger
  /-- A call of `app_config_set` assigns. -/
  | assign (i : ι) (config : AcceptedConfig)
  | advance (i : ι)
  | raise (uptimeMs : Nat) (type : EventType) (severity : EventSeverity) (value : Int16)
  | setTime (uptimeMs : Nat) (utcNow : UInt32)
  | resetCounters

namespace Sampler

variable {ι : Type*}

/-- `k_sem_give(&sample_now)`: a sleeping thread is handed the semaphore. -/
def kSemGive (s : Sampler ι) : Sampler ι :=
  match s.phase with
  | .asleep _ => { s with phase := .top }
  | _ => { s with sampleNow := true }

/-- Someone wants a sample. -/
def request (s : Sampler ι) : Sampler ι := { s with requested := s.requested + 1 }

variable [Crc16] [DecidableEq ι]

/-- A step of `sampling_thread_fn`. -/
def thread (data : SensorData) (expectedValid : UInt8) (uptimeMs : Nat) (s : Sampler ι) :
    Sampler ι :=
  match s.phase with
  | .top => { s with motionPending := false, served := s.requested, phase := .sampling }
  | .sampling => { s with phase := .processing data }
  | .processing data =>
    { s with device := (s.device.processSample uptimeMs data expectedValid).2, phase := .weighing }
  | .weighing => { s with phase := .dividing s.device.tag.app.status.motionState }
  | .dividing motionState =>
    let config := appConfigGet s.device
    { s with
      weighed := config
      phase := .arming (sleepIntervalS s.wakeSource motionState config) }
  | .arming intervalS =>
    if s.sampleNow then { s with sampleNow := false, phase := .top }
    else { s with phase := .asleep intervalS }
  | .asleep _ => s

/-- A call of `app_config_set` goes on. -/
def advance (i : ι) (s : Sampler ι) : Sampler ι :=
  match s.callers i with
  | none => s
  | some (applied, .motion) =>
    { s with
      device := s.device.updateMotion applied.config
      callers := Function.update s.callers i (some (applied, .led)) }
  | some (applied, .led) =>
    { s with
      device := s.device.setLed applied.config
      callers := Function.update s.callers i (some (applied, .changed)) }
  | some (applied, .changed) =>
    { s.kSemGive with callers := Function.update s.callers i (some (applied, .save)) }
  | some (applied, .save) =>
    { s with
      device := (s.device.saveConfig applied.config).2
      callers := Function.update s.callers i none }

def step (s : Sampler ι) : SamplerEvent ι → Sampler ι
  | .thread data expectedValid uptimeMs => s.thread data expectedValid uptimeMs
  | .timeout =>
    match s.phase with
    | .asleep _ => { s with phase := .top }
    | _ => s
  | .sampleNow => s.request.kSemGive
  | .configChanged => s.kSemGive
  | .motionTrigger =>
    if s.wakeSource then { s.request with motionPending := true }.kSemGive else s
  | .assign i config =>
    match s.callers i with
    | none =>
      { s with
        device := s.device.assignConfig config.config
        callers := Function.update s.callers i (some (config, .motion)) }
    | some _ => s
  | .advance i => s.advance i
  | .raise uptimeMs type severity value =>
    { s with device :=
      { s.device with tag := (appRaiseEvent uptimeMs type severity value s.device.tag).2 } }
  | .setTime uptimeMs utcNow =>
    { s with device :=
      { s.device with tag := (appStateSetTimeUtc uptimeMs utcNow s.device.tag).2 } }
  | .resetCounters => { s with device := s.device.resetCounters }

/-- What `power_manager_start` starts on a tag that has booted. -/
def start (wakeSource sampleNow : Bool) (readOk : SettingsKey → Bool) (tag : Tag) : Sampler ι where
  device := .boot readOk tag
  wakeSource := wakeSource
  sampleNow := sampleNow
  motionPending := false
  phase := .top
  callers := fun _ => none
  requested := 0
  served := 0
  weighed := appConfigInit (settingsLoadSubtree readOk (.atReset tag.storage.nvs))

theorem wakeSource_step (s : Sampler ι) (e : SamplerEvent ι) :
    (s.step e).wakeSource = s.wakeSource := by
  have hgive : ∀ s : Sampler ι, s.kSemGive.wakeSource = s.wakeSource := by
    intro s
    unfold kSemGive
    split <;> rfl
  cases e with
  | thread data expectedValid uptimeMs =>
      simp only [step, thread]
      split
      case h_6 => split_ifs <;> rfl
      all_goals rfl
  | timeout =>
      rw [step]
      split <;> rfl
  | sampleNow => exact hgive _
  | configChanged => exact hgive s
  | motionTrigger =>
      rw [step]
      split_ifs
      · exact hgive _
      · rfl
  | assign i config =>
      rw [step]
      split <;> rfl
  | advance i =>
      rw [step, advance]
      split <;> first | rfl | exact hgive s
  | raise uptimeMs type severity value => rfl
  | setTime uptimeMs utcNow => rfl
  | resetCounters => rfl

/-! ## Requests -/

section

/-- While the thread sleeps, the semaphore has not been given. -/
def Asleep (s : Sampler ι) : Prop := ∀ intervalS, s.phase = .asleep intervalS → s.sampleNow = false

omit [Crc16] [DecidableEq ι] in
theorem asleep_of_up {s : Sampler ι} (h : ∀ intervalS, s.phase ≠ .asleep intervalS) : s.Asleep :=
  fun intervalS hasleep => absurd hasleep (h intervalS)

omit [Crc16] [DecidableEq ι] in
theorem asleep_kSemGive (s : Sampler ι) : s.kSemGive.Asleep := by
  refine asleep_of_up fun intervalS => ?_
  unfold kSemGive
  split
  · simp
  · rename_i hup
    exact hup intervalS

/-- Only `k_sem_take` puts the thread to sleep. -/
theorem Asleep.step {s : Sampler ι} (h : s.Asleep) (e : SamplerEvent ι) : (s.step e).Asleep := by
  cases e with
  | thread data expectedValid uptimeMs =>
      rw [Sampler.step]
      cases hphase : s.phase with
      | arming intervalS =>
          simp only [Sampler.thread, hphase]
          split_ifs with hgiven
          · exact asleep_of_up (by simp)
          · exact fun _ _ => Bool.eq_false_of_not_eq_true hgiven
      | asleep intervalS =>
          simp only [Sampler.thread, hphase]
          exact h
      | top | sampling | processing data | weighing | dividing motionState =>
          simp only [Sampler.thread, hphase]
          exact asleep_of_up (by simp)
  | timeout =>
      rw [Sampler.step]
      split
      · exact asleep_of_up (by simp)
      · exact h
  | sampleNow => exact asleep_kSemGive _
  | configChanged => exact asleep_kSemGive _
  | motionTrigger =>
      rw [Sampler.step]
      split_ifs
      · exact asleep_kSemGive _
      · exact h
  | assign i config =>
      rw [Sampler.step]
      split <;> exact h
  | advance i =>
      rw [Sampler.step, Sampler.advance]
      split
      · exact h
      · exact h
      · exact h
      · exact asleep_kSemGive s
      · exact h
  | raise uptimeMs type severity value => exact h
  | setTime uptimeMs utcNow => exact h
  | resetCounters => exact h

/-- The requests, each of them written and rung at once. -/
def requests (s : Sampler ι) : Doorbell.State Unit Nat where
  value := s.requested
  seen := s.served
  attached := true
  writer := fun _ => .idle
  rung := s.sampleNow
  consumer := s.phase.sampler

def requestOps (s : Sampler ι) : SamplerEvent ι → List (Doorbell.Op Unit Nat)
  | .thread .. =>
    match s.phase with
    | .top => [.read]
    | .arming _ => [.rest, .wake]
    | _ => []
  | .timeout => [.timeout]
  | .sampleNow => [.write () (s.requested + 1), .ring (), .wake]
  | .configChanged => [.ring (), .wake]
  | .motionTrigger =>
    if s.wakeSource then [.write () (s.requested + 1), .ring (), .wake] else []
  | .advance i =>
    match s.callers i with
    | some (_, .changed) => [.ring (), .wake]
    | _ => []
  | _ => []

omit [Crc16] [DecidableEq ι] in
theorem requests_kSemGive {s : Sampler ι} (h : s.Asleep) :
    s.kSemGive.requests = Run.final Doorbell.step s.requests [.ring (), .wake] := by
  unfold kSemGive
  cases hphase : s.phase with
  | asleep intervalS =>
      simp [requests, Doorbell.step, hphase, SamplingPhase.sampler, h intervalS hphase]
  | top | sampling | processing data | weighing | dividing motionState | arming intervalS =>
      simp [requests, Doorbell.step, hphase, SamplingPhase.sampler]

omit [Crc16] [DecidableEq ι] in
theorem requests_requested {s : Sampler ι} (h : s.Asleep) (motionPending : Bool) :
    { s.request with motionPending := motionPending }.kSemGive.requests =
      Run.final Doorbell.step s.requests [.write () (s.requested + 1), .ring (), .wake] := by
  rw [requests_kSemGive (s := { s.request with motionPending := motionPending }) h]
  simp [requests, request, Doorbell.step]

theorem requests_step {s : Sampler ι} (h : s.Asleep) (e : SamplerEvent ι) :
    (s.step e).requests = Run.final Doorbell.step s.requests (s.requestOps e) := by
  cases e with
  | thread data expectedValid uptimeMs =>
      rw [step, requestOps]
      cases hphase : s.phase with
      | arming intervalS =>
          simp only [Sampler.thread, hphase]
          split_ifs with hgiven <;>
            simp [requests, Doorbell.step, hphase, SamplingPhase.sampler, hgiven]
      | top | sampling | processing data | weighing | dividing motionState | asleep intervalS =>
          simp [Sampler.thread, requests, Doorbell.step, hphase, SamplingPhase.sampler]
  | timeout =>
      rw [step, requestOps]
      cases hphase : s.phase <;> simp [requests, Doorbell.step, hphase, SamplingPhase.sampler]
  | sampleNow => exact requests_requested h s.motionPending
  | configChanged => exact requests_kSemGive h
  | motionTrigger =>
      rw [step, requestOps]
      split_ifs
      · exact requests_requested h true
      · rfl
  | assign i config =>
      rw [step]
      split <;> rfl
  | advance i =>
      simp only [step, advance, requestOps]
      rcases s.callers i with _ | ⟨applied, _ | _ | _ | _⟩
      · rfl
      · rfl
      · rfl
      · exact requests_kSemGive h
      · rfl
  | raise uptimeMs type severity value => rfl
  | setTime uptimeMs utcNow => rfl
  | resetCounters => rfl

/-- A request that a sample has not begun after yet: the thread is up, or will not fall asleep, and
has few steps to go. -/
def Serves (n steps : Nat) (s : Sampler ι) : Prop :=
  n ≤ s.requested ∧ (n ≤ s.served ∨ (s.sampleNow = true ∨ s.phase = .top) ∧
    (∀ intervalS, s.phase ≠ .asleep intervalS) ∧ s.phase.stepsToSample ≤ steps)

omit [Crc16] [DecidableEq ι] in
theorem Serves.kSemGive {n steps : Nat} {s : Sampler ι} (h : s.Serves n steps) :
    s.kSemGive.Serves n steps := by
  obtain ⟨hn, hserved | ⟨hgiven, hup, hsteps⟩⟩ := h
  · unfold Sampler.kSemGive
    split <;> exact ⟨hn, Or.inl hserved⟩
  · unfold Sampler.kSemGive
    split
    · rename_i hphase
      exact absurd hphase (hup _)
    · exact ⟨hn, Or.inr ⟨Or.inl rfl, hup, hsteps⟩⟩

omit [DecidableEq ι] in
theorem Serves.thread {n steps : Nat} {s : Sampler ι} (h : s.Serves n steps) (data : SensorData)
    (expectedValid : UInt8) (uptimeMs : Nat) :
    (s.thread data expectedValid uptimeMs).Serves n (steps - 1) := by
  obtain ⟨hn, hserved | ⟨hgiven, hup, hsteps⟩⟩ := h
  · cases hphase : s.phase with
    | top => simpa only [Sampler.thread, hphase] using ⟨hn, Or.inl hn⟩
    | arming intervalS =>
        simp only [Sampler.thread, hphase]
        split_ifs <;> exact ⟨hn, Or.inl hserved⟩
    | sampling | processing data | weighing | dividing motionState | asleep intervalS =>
        simp only [Sampler.thread, hphase]
        exact ⟨hn, Or.inl hserved⟩
  · cases hphase : s.phase with
    | top =>
        simp only [Sampler.thread, hphase]
        exact ⟨hn, Or.inl hn⟩
    | asleep intervalS => exact absurd hphase (hup intervalS)
    | sampling | processing data | weighing | dividing motionState | arming intervalS =>
        have hgiven' : s.sampleNow = true := by simpa [hphase] using hgiven
        simp only [Sampler.thread, hphase, SamplingPhase.stepsToSample] at hsteps ⊢
        simp only [hgiven', if_true]
        refine ⟨hn, Or.inr ⟨?_, by simp, ?_⟩⟩
        · simp
        · simp only [SamplingPhase.stepsToSample]
          omega

omit [Crc16] [DecidableEq ι] in
theorem Serves.request {n steps : Nat} {s : Sampler ι} (h : s.Serves n steps) :
    s.request.Serves n steps := ⟨h.1.trans (Nat.le_succ _), h.2⟩

end

end Sampler

/-- The steps the sampling thread takes itself. -/
def SamplerEvent.isThread {ι : Type*} : SamplerEvent ι → Bool
  | .thread .. => true
  | _ => false

namespace Sampler

variable {ι : Type*} [Crc16] [DecidableEq ι]

theorem Serves.step {n steps : Nat} {s : Sampler ι} (h : s.Serves n steps) {e : SamplerEvent ι}
    (he : e.isThread = false) : (s.step e).Serves n steps := by
  cases e with
  | thread data expectedValid uptimeMs => cases he
  | timeout =>
      obtain ⟨hn, hserved | ⟨-, hup, -⟩⟩ := id h
      · rw [Sampler.step]
        split
        · exact ⟨hn, Or.inl hserved⟩
        · exact h
      · rw [Sampler.step]
        split
        · rename_i hphase
          exact absurd hphase (hup _)
        · exact h
  | sampleNow => exact h.request.kSemGive
  | configChanged => exact h.kSemGive
  | motionTrigger =>
      rw [Sampler.step]
      split_ifs
      · exact Serves.kSemGive (s := { s.request with motionPending := true }) h.request
      · exact h
  | assign i config =>
      rw [Sampler.step]
      split <;> exact h
  | advance i =>
      rw [Sampler.step, Sampler.advance]
      split
      · exact h
      · exact h
      · exact h
      · exact h.kSemGive
      · exact h
  | raise uptimeMs type severity value => exact h
  | setTime uptimeMs utcNow => exact h
  | resetCounters => exact h

omit [Crc16] [DecidableEq ι] in
theorem serves_of_inv {s : Sampler ι} (h : s.Asleep) (hinv : Doorbell.Inv s.requests) :
    s.Serves s.requested 6 := by
  refine ⟨le_rfl, ?_⟩
  have hshort : s.phase.stepsToSample ≤ 6 := by
    cases s.phase <;> simp [SamplingPhase.stepsToSample]
  rcases hinv rfl with hseen | hrung | hreading | ⟨i, hi⟩
  · exact Or.inl (Eq.ge hseen)
  · refine Or.inr ⟨Or.inl hrung, fun intervalS hphase => ?_, hshort⟩
    exact absurd (hrung.symm.trans (h intervalS hphase)) (by simp)
  · have htop : s.phase = .top := by
      cases hphase : s.phase <;> simp_all [requests, SamplingPhase.sampler]
    exact Or.inr ⟨Or.inr htop, by simp [htop], hshort⟩
  · exact absurd rfl hi

/-- However the threads interleave: when the thread sleeps, a sample has begun after the last
request, and a request made at any time has a sample begin after it within six steps of the
thread. -/
theorem every_request_sampled (wakeSource sampleNow : Bool) (readOk : SettingsKey → Bool)
    (tag : Tag) (events more : List (SamplerEvent ι)) :
    let s := Run.final step (start wakeSource sampleNow readOk tag) events
    (∀ intervalS, s.phase = .asleep intervalS → s.served = s.requested) ∧
      (6 ≤ more.countP SamplerEvent.isThread → s.requested ≤ (Run.final step s more).served) := by
  intro s
  have hstart : Doorbell.Inv (start (ι := ι) wakeSource sampleNow readOk tag).requests :=
    fun _ => Or.inl rfl
  obtain ⟨hasleep, hinv⟩ := Run.final_invariant_of_image (I := Doorbell.Inv) (J := Asleep)
    (D := fun _ => True) (fun _ op h => h.step op) requests requestOps (fun _ e h _ => h.step e)
    (fun _ e h _ => requests_step h e) (asleep_of_up (by simp [start])) hstart
    (fun e (_ : e ∈ events) => trivial)
  constructor
  · intro intervalS hphase
    refine hinv.seen_eq_value ⟨rfl, ?_, hasleep intervalS hphase, fun _ => rfl⟩
    exact congrArg SamplingPhase.sampler hphase
  · intro hmany
    have hthread : ∀ (s' : Sampler ι) e steps, SamplerEvent.isThread e = true →
        s'.Serves s.requested steps → (s'.step e).Serves s.requested (steps - 1) := by
      intro s' e steps he h
      cases e with
      | thread data expectedValid uptimeMs => exact h.thread data expectedValid uptimeMs
      | _ => cases he
    have hserves := Run.final_countdown (I := fun steps s' => Serves s.requested steps s') hthread
      (fun _ _ _ he h => h.step he) (serves_of_inv hasleep hinv) more
    rw [Nat.sub_eq_zero_of_le hmany] at hserves
    rcases hserves.2 with hserved | ⟨-, hup, hsteps⟩
    · exact hserved
    · -- Only a thread that sleeps has no steps to go.
      cases hphase : (Run.final step s more).phase <;>
        simp_all [SamplingPhase.stepsToSample]

/-! ## Intervals -/

/-- A call is about to ring from its assignment to its `power_manager_config_changed`. -/
def writerOf : Option (AcceptedConfig × SetPoint) → Doorbell.Writer
  | none | some (_, .save) => .idle
  | some _ => .ringing

/-- The calls, with somebody who assigns nothing. -/
def writers (callers : ι → Option (AcceptedConfig × SetPoint)) : Option ι → Doorbell.Writer
  | none => .idle
  | some i => writerOf (callers i)

/-- The configuration, written by the calls of `app_config_set`. They ring, and so do others. -/
def configs (s : Sampler ι) : Doorbell.State (Option ι) TagConfig where
  value := s.device.config
  seen := s.weighed
  attached := true
  writer := writers s.callers
  rung := s.sampleNow
  consumer := s.phase.weigher

def configOps (s : Sampler ι) : SamplerEvent ι → List (Doorbell.Op (Option ι) TagConfig)
  | .thread .. =>
    match s.phase with
    | .dividing _ => [.read]
    | .arming _ => [.rest, .wake]
    | _ => []
  | .timeout => [.timeout]
  | .sampleNow => [.ring none, .wake]
  | .configChanged => [.ring none, .wake]
  | .motionTrigger => if s.wakeSource then [.ring none, .wake] else []
  | .assign i config =>
    match s.callers i with
    | none => [.write (some i) config.config, .look (some i)]
    | some _ => []
  | .advance i =>
    match s.callers i with
    | some (_, .changed) => [.ring (some i), .wake]
    | _ => []
  | _ => []

omit [Crc16] in
theorem configs_kSemGive {s : Sampler ι} (h : s.Asleep) (caller : Option ι) :
    { s.kSemGive.configs with writer := Function.update s.configs.writer caller .idle } =
      Run.final Doorbell.step s.configs [.ring caller, .wake] := by
  unfold kSemGive
  cases hphase : s.phase with
  | asleep intervalS =>
      simp [configs, Doorbell.step, hphase, SamplingPhase.weigher, h intervalS hphase]
  | top | sampling | processing data | weighing | dividing motionState | arming intervalS =>
      simp [configs, Doorbell.step, hphase, SamplingPhase.weigher]

omit [Crc16] in
theorem writers_update (callers : ι → Option (AcceptedConfig × SetPoint)) (i : ι)
    (call : Option (AcceptedConfig × SetPoint)) :
    writers (Function.update callers i call) =
      Function.update (writers callers) (some i) (writerOf call) := by
  funext caller
  rcases caller with _ | j
  · exact (Function.update_of_ne (by simp) _ _).symm
  · by_cases hj : j = i
    · subst hj
      simp [writers]
    · rw [Function.update_of_ne (by simpa using hj)]
      simp [writers, hj]

omit [Crc16] in
/-- A call that goes on without a ring owes what it owed. -/
theorem writers_kept {callers : ι → Option (AcceptedConfig × SetPoint)} {i : ι}
    (call : Option (AcceptedConfig × SetPoint)) (h : writerOf call = writerOf (callers i)) :
    writers (Function.update callers i call) = writers callers := by
  rw [writers_update, h]
  exact Function.update_eq_self (some i) (writers callers)

omit [Crc16] in
/-- A ring by somebody who has assigned nothing. -/
theorem configs_rung {s : Sampler ι} (h : s.Asleep) :
    s.kSemGive.configs = Run.final Doorbell.step s.configs [.ring none, .wake] := by
  rw [← configs_kSemGive h none]
  have hidle : Function.update s.configs.writer none .idle = s.configs.writer :=
    Function.update_eq_self none _
  rw [hidle]
  unfold kSemGive
  split <;> rfl

@[simp] theorem config_processSample (uptimeMs : Nat) (data : SensorData) (expectedValid : UInt8)
    (device : Device) :
    (device.processSample uptimeMs data expectedValid).2.config = device.config := rfl

theorem configs_step {s : Sampler ι} (h : s.Asleep) (e : SamplerEvent ι) :
    (s.step e).configs = Run.final Doorbell.step s.configs (s.configOps e) := by
  cases e with
  | thread data expectedValid uptimeMs =>
      rw [step, configOps]
      cases hphase : s.phase with
      | arming intervalS =>
          simp only [Sampler.thread, hphase]
          split_ifs with hgiven <;>
            simp [configs, Doorbell.step, hphase, SamplingPhase.weigher, hgiven]
      | top | sampling | processing data | weighing | dividing motionState | asleep intervalS =>
          simp [Sampler.thread, configs, Doorbell.step, hphase, SamplingPhase.weigher, appConfigGet]
  | timeout =>
      rw [step, configOps]
      cases hphase : s.phase <;> simp [configs, Doorbell.step, hphase, SamplingPhase.weigher]
  | sampleNow => exact configs_rung (s := s.request) h
  | configChanged => exact configs_rung h
  | motionTrigger =>
      rw [step, configOps]
      split_ifs
      · exact configs_rung (s := { s.request with motionPending := true }) h
      · rfl
  | assign i config =>
      simp only [step, configOps]
      cases hcaller : s.callers i with
      | some call => rfl
      | none =>
        simp [configs, Doorbell.step, writers_update, Device.assignConfig, writerOf]
  | advance i =>
      simp only [step, advance, configOps]
      rcases hcaller : s.callers i with _ | ⟨applied, _ | _ | _ | _⟩
      · rfl
      · have hkept := writers_kept (some (applied, .led))
          (congrArg writerOf hcaller).symm
        simp only [configs, hkept]
        rfl
      · have hkept := writers_kept (some (applied, .changed))
          (congrArg writerOf hcaller).symm
        simp only [configs, hkept]
        rfl
      · rw [← configs_kSemGive h (some i)]
        simp only [configs, writers_update]
        rfl
      · have hkept := writers_kept none (congrArg writerOf hcaller).symm
        simp only [configs, hkept]
        rfl
  | raise uptimeMs type severity value => rfl
  | setTime uptimeMs utcNow => rfl
  | resetCounters => rfl

/-- What the thread has worked out so far, from the motion state that only it changes. -/
structure Weighed (s : Sampler ι) : Prop where
  valid : appConfigValidate s.device.config = true
  dividing : ∀ motionState, s.phase = .dividing motionState →
    motionState = s.device.tag.app.status.motionState
  armed : ∀ intervalS, s.phase = .arming intervalS ∨ s.phase = .asleep intervalS →
    intervalS = sleepIntervalS s.wakeSource s.device.tag.app.status.motionState s.weighed

section

variable {s : Sampler ι} (h : s.Weighed)

include h

omit [Crc16] [DecidableEq ι]

/-- Where the thread is still to weigh anything, only the configuration matters. -/
theorem Weighed.of_early {s' : Sampler ι} (hconfig : s'.device.config = s.device.config)
    (hphase : s'.phase = .top ∨ s'.phase = .sampling ∨ (∃ data, s'.phase = .processing data) ∨
      s'.phase = .weighing) : s'.Weighed := by
  refine ⟨?_, ?_, ?_⟩
  · rw [hconfig]
    exact h.valid
  · rintro motionState hnow
    rcases hphase with hphase | hphase | ⟨data, hphase⟩ | hphase <;> simp [hphase] at hnow
  · rintro intervalS hnow
    rcases hphase with hphase | hphase | ⟨data, hphase⟩ | hphase <;> simp [hphase] at hnow

/-- Another thread changes nothing the thread has read, but for the configuration. -/
theorem Weighed.elsewhere (device : Device) (callers : ι → Option (AcceptedConfig × SetPoint))
    (hvalid : appConfigValidate device.config = true)
    (hmotion : device.tag.app.status.motionState = s.device.tag.app.status.motionState) :
    { s with device := device, callers := callers }.Weighed := by
  refine ⟨hvalid, ?_, ?_⟩
  · intro motionState hnow
    rw [h.dividing motionState hnow, hmotion]
  · intro intervalS hnow
    rw [h.armed intervalS hnow, hmotion]

theorem Weighed.kSemGive : s.kSemGive.Weighed := by
  unfold Sampler.kSemGive
  split
  · exact h.of_early rfl (Or.inl rfl)
  · exact ⟨h.valid, h.dividing, h.armed⟩

end

omit [DecidableEq ι] in
theorem Weighed.thread {s : Sampler ι} (h : s.Weighed) (data : SensorData) (expectedValid : UInt8)
    (uptimeMs : Nat) : (s.thread data expectedValid uptimeMs).Weighed := by
  cases hphase : s.phase with
  | weighing =>
      simp only [Sampler.thread, hphase]
      exact ⟨h.valid, by simp, by simp⟩
  | dividing motionState =>
      simp only [Sampler.thread, hphase]
      refine ⟨h.valid, by simp, ?_⟩
      rintro intervalS hnow
      obtain rfl : sleepIntervalS s.wakeSource motionState (appConfigGet s.device) = intervalS := by
        simpa using hnow
      rw [h.dividing motionState hphase]
  | arming intervalS =>
      simp only [Sampler.thread, hphase]
      split_ifs
      · exact h.of_early rfl (Or.inl rfl)
      · refine ⟨h.valid, by simp, ?_⟩
        rintro intervalS' hnow
        obtain rfl : intervalS = intervalS' := by simpa using hnow
        exact h.armed intervalS (Or.inl hphase)
  | asleep intervalS =>
      simp only [Sampler.thread, hphase]
      exact h
  | top | sampling | processing data =>
      simp only [Sampler.thread, hphase]
      exact h.of_early rfl (by simp)

theorem Weighed.step {s : Sampler ι} (h : s.Weighed) (e : SamplerEvent ι) : (s.step e).Weighed := by
  cases e with
  | thread data expectedValid uptimeMs => exact h.thread data expectedValid uptimeMs
  | timeout =>
      rw [Sampler.step]
      split
      · exact h.of_early rfl (Or.inl rfl)
      · exact h
  | sampleNow => exact Weighed.kSemGive (s := s.request) ⟨h.valid, h.dividing, h.armed⟩
  | configChanged => exact h.kSemGive
  | motionTrigger =>
      rw [Sampler.step]
      split_ifs
      · exact Weighed.kSemGive (s := { s.request with motionPending := true })
          ⟨h.valid, h.dividing, h.armed⟩
      · exact h
  | assign i config =>
      rw [Sampler.step]
      split
      · exact h.elsewhere (s.device.assignConfig config.config) _ config.accepted rfl
      · exact h
  | advance i =>
      rw [Sampler.step, Sampler.advance]
      split
      · exact h
      · exact h.elsewhere (s.device.updateMotion _) _ h.valid rfl
      · exact h.elsewhere (s.device.setLed _) _ h.valid rfl
      · exact h.kSemGive.elsewhere s.kSemGive.device _ h.kSemGive.valid rfl
      · exact h.elsewhere (s.device.saveConfig _).2 _ h.valid rfl
  | raise uptimeMs type severity value =>
      exact h.elsewhere { s.device with tag := _ } s.callers h.valid rfl
  | setTime uptimeMs utcNow =>
      refine h.elsewhere { s.device with tag := _ } s.callers h.valid ?_
      simp only [appStateSetTimeUtc]
      split_ifs <;> rfl
  | resetCounters => exact h.elsewhere s.device.resetCounters s.callers h.valid rfl

/-- However the threads interleave: a thread that sleeps after every call of `app_config_set` has
announced its assignment does so for the interval the configuration in force and the motion state
ask for, which is at least a second and at most the configured one. -/
theorem sleeps_as_configured (wakeSource sampleNow : Bool) (readOk : SettingsKey → Bool) (tag : Tag)
    (events : List (SamplerEvent ι)) :
    let s := Run.final step (start wakeSource sampleNow readOk tag) events
    ∀ intervalS, s.phase = .asleep intervalS → (∀ i, writerOf (s.callers i) = .idle) →
      intervalS = sleepIntervalS wakeSource s.device.tag.app.status.motionState s.device.config ∧
        1 ≤ intervalS ∧ intervalS ≤ s.device.config.samplingIntervalS := by
  intro s intervalS hphase hidle
  have hstart : Doorbell.Inv (start (ι := ι) wakeSource sampleNow readOk tag).configs :=
    fun _ => Or.inl rfl
  obtain ⟨hasleep, hinv⟩ := Run.final_invariant_of_image (I := Doorbell.Inv) (J := Asleep)
    (D := fun _ => True) (fun _ op h => h.step op) configs configOps (fun _ e h _ => h.step e)
    (fun _ e h _ => configs_step h e) (asleep_of_up (by simp [start])) hstart
    (fun e (_ : e ∈ events) => trivial)
  have hboot : (start (ι := ι) wakeSource sampleNow readOk tag).Weighed :=
    ⟨validate_boot readOk tag, by simp [start], by simp [start]⟩
  have hweighed : s.Weighed :=
    Run.final_preserves (I := Weighed) (fun _ e h => h.step e) hboot events
  have hseen : s.weighed = s.device.config := by
    refine hinv.seen_eq_value ⟨rfl, congrArg SamplingPhase.weigher hphase,
      hasleep intervalS hphase, ?_⟩
    rintro (_ | i)
    · rfl
    · exact hidle i
  have hsource : s.wakeSource = wakeSource :=
    Run.final_preserves (I := fun s : Sampler ι => s.wakeSource = wakeSource)
      (fun s e h => (s.wakeSource_step e).trans h) rfl events
  have hinterval := hweighed.armed intervalS (Or.inr hphase)
  rw [hseen, hsource] at hinterval
  rw [hinterval]
  exact ⟨rfl, sleepIntervalS_bounds _ _ ((appConfigValidate_iff _).1 hweighed.valid)⟩

end Sampler

namespace Sampler

/-- One time round the loop, up to the sleep, with a sample in which nothing is valid. -/
def oneLap : List (SamplerEvent Bool) :=
  List.replicate 6 (.thread AppState.atReset.lastSample 0 60000)

def shippingConfig : AcceptedConfig where
  config := { TagConfig.defaults with operatingMode := tagModeShipping }
  accepted := by decide

/-- The button is pressed while the thread sleeps. -/
theorem every_request_sampled_pressed :
    let s := Run.final step (start false false (fun _ => true) newTag) (oneLap ++ [.sampleNow])
    s.requested ≤ (Run.final step s oneLap).served := by
  have h := every_request_sampled (ι := Bool) false false (fun _ => true) newTag
    (oneLap ++ [.sampleNow]) oneLap
  exact h.2 (by decide)

/-- A call of `app_config_set` wakes the thread before it saves: from then on the interval is that
of the shipping mode. -/
theorem sleeps_as_configured_shipping :
    let shipping := .assign true shippingConfig :: List.replicate 3 (.advance true)
    let s := Run.final step (start false false (fun _ => true) newTag) (oneLap ++ shipping ++ oneLap)
    15 = sleepIntervalS false s.device.tag.app.status.motionState s.device.config := by
  have h := sleeps_as_configured (ι := Bool) false false (fun _ => true) newTag
    (oneLap ++ .assign true shippingConfig :: List.replicate 3 (.advance true) ++ oneLap)
  exact (h 15 (by decide +kernel) (by decide +kernel)).1

end Sampler

end SmartTag
