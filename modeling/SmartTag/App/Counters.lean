import SmartTag.App.AppState

/-!
# The counters

Five counters are kept twice, in the live status and in the lifetime statistics. The sampling
thread, any thread that raises an event and a counter reset update them by hand, each in its own
sections under the lock.

`Counters` is one copy of the five, with what each section should do to it. Whatever the order of
the sections, both copies of the tag run in step with it.

* `counts_step`: each section keeps both copies in step.
* `sections_appProcessSensorData`: a whole call as its sections.
* `counters_mirrored`: the copies agree in every reachable state, and between resets the maximum
  does not fall and the counts are exact.
-/

namespace SmartTag

/-! ## One copy -/

@[ext]
structure Counters where
  shockCount : UInt32
  freeFallCount : UInt32
  eventCount : UInt32
  maxShockMg : UInt16
  movementDurationS : UInt32
deriving DecidableEq, Repr

def TagStatus.counters (status : TagStatus) : Counters where
  shockCount := status.shockCount
  freeFallCount := status.freeFallCount
  eventCount := status.eventCount
  maxShockMg := status.maxShockMg
  movementDurationS := status.movementDurationS

def TagStatistics.counters (statistics : TagStatistics) : Counters where
  shockCount := statistics.shockCount
  freeFallCount := statistics.freeFallCount
  eventCount := statistics.eventCount
  maxShockMg := statistics.maxShockMg
  movementDurationS := statistics.movementDurationS

namespace Counters

def zero : Counters where
  shockCount := 0
  freeFallCount := 0
  eventCount := 0
  maxShockMg := 0
  movementDurationS := 0

def stopped (motion : MotionResult) (c : Counters) : Counters :=
  { c with movementDurationS := c.movementDurationS + motion.movementDurationS }

def struck (motion : MotionResult) (c : Counters) : Counters :=
  { c with
    shockCount := c.shockCount + 1
    maxShockMg := if c.maxShockMg < motion.shockMg then motion.shockMg else c.maxShockMg }

def fell (c : Counters) : Counters := { c with freeFallCount := c.freeFallCount + 1 }

/-- What a motion result is counted as. -/
def note (motion : MotionResult) (c : Counters) : Counters :=
  let c := if motion.reports motionEventStop then c.stopped motion else c
  let c := if motion.reports motionEventShock then c.struck motion else c
  if motion.reports motionEventFreeFall then c.fell else c

theorem note_shockCount (motion : MotionResult) (c : Counters) :
    (c.note motion).shockCount =
      c.shockCount + UInt32.ofNat (if motion.reports motionEventShock then 1 else 0) := by
  unfold note
  dsimp only
  split_ifs <;> simp [fell, struck, stopped]

theorem note_freeFallCount (motion : MotionResult) (c : Counters) :
    (c.note motion).freeFallCount =
      c.freeFallCount + UInt32.ofNat (if motion.reports motionEventFreeFall then 1 else 0) := by
  unfold note
  dsimp only
  split_ifs <;> simp [fell, struck, stopped]

theorem note_eventCount (motion : MotionResult) (c : Counters) :
    (c.note motion).eventCount = c.eventCount := by
  unfold note
  dsimp only
  split_ifs <;> rfl

theorem note_movementDurationS (motion : MotionResult) (c : Counters) :
    (c.note motion).movementDurationS = c.movementDurationS +
      if motion.reports motionEventStop then motion.movementDurationS else 0 := by
  unfold note
  dsimp only
  split_ifs <;> simp [fell, struck, stopped]

theorem note_maxShockMg (motion : MotionResult) (c : Counters) :
    (c.note motion).maxShockMg =
      if motion.reports motionEventShock ∧ c.maxShockMg < motion.shockMg then motion.shockMg
      else c.maxShockMg := by
  simp only [note, fell, struck, stopped, apply_ite Counters.maxShockMg, ite_self, ite_and]

end Counters

/-! ## Both copies of the tag -/

/-- Both copies are `c`. -/
structure AppState.Counts (c : Counters) (st : AppState) : Prop where
  status : st.status.counters = c
  statistics : st.statistics.counters = c

/-- The two copies agree. -/
structure AppState.Mirrored (st : AppState) : Prop where
  shockCount : st.status.shockCount = st.statistics.shockCount
  freeFallCount : st.status.freeFallCount = st.statistics.freeFallCount
  eventCount : st.status.eventCount = st.statistics.eventCount
  maxShockMg : st.status.maxShockMg = st.statistics.maxShockMg
  movementDurationS : st.status.movementDurationS = st.statistics.movementDurationS

theorem AppState.Counts.mirrored {c : Counters} {st : AppState} (h : st.Counts c) :
    st.Mirrored := by
  have heq : st.status.counters = st.statistics.counters := h.status.trans h.statistics.symm
  exact ⟨congrArg Counters.shockCount heq, congrArg Counters.freeFallCount heq,
    congrArg Counters.eventCount heq, congrArg Counters.maxShockMg heq,
    congrArg Counters.movementDurationS heq⟩

theorem AppState.Mirrored.counts {c : Counters} {st : AppState} (h : st.Mirrored)
    (hstatus : st.status.counters = c) : st.Counts c := by
  refine ⟨hstatus, Eq.trans ?_ hstatus⟩
  rw [TagStatistics.counters, ← h.shockCount, ← h.freeFallCount, ← h.eventCount, ← h.maxShockMg,
    ← h.movementDurationS]
  rfl

/-- `f` does to both copies what `g` does to one. -/
def Acts (f : AppState → AppState) (g : Counters → Counters) : Prop :=
  ∀ c st, AppState.Counts c st → AppState.Counts (g c) (f st)

theorem Acts.branch {f : AppState → AppState} {g : Counters → Counters} (h : Acts f g) (p : Prop)
    [Decidable p] : Acts (fun st => if p then f st else st) fun c => if p then g c else c := by
  intro c st hst
  dsimp only
  split_ifs
  · exact h c st hst
  · exact hst

theorem Acts.branch_id {f : AppState → AppState} (h : Acts f id) (p : Prop) [Decidable p] :
    Acts (fun st => if p then f st else st) id := by
  intro c st hst
  dsimp only
  split_ifs
  · exact h c st hst
  · exact hst

theorem acts_queueEvent (type : EventType) (severity : EventSeverity) (value : Int16) :
    Acts (queueEvent type severity value) id := by
  intro c st hst
  refine ⟨?_, ?_⟩
  · rw [queueEvent_status]
    exact hst.status
  · rw [queueEvent_statistics]
    exact hst.statistics

section

open Run

variable {c : Counters}

theorem counts_noteBattery (data : SensorData) :
    Preserves (AppState.Counts c) (noteBattery data) := by
  intro st hst
  unfold noteBattery
  split_ifs
  · exact ⟨hst.status, hst.statistics⟩
  · exact hst

theorem counts_checkThresholds (data : SensorData) (config : TagConfig) (expectedValid : UInt8) :
    Preserves (AppState.Counts c) (checkThresholds data config expectedValid) :=
  preserves_checkThresholds (fun _ _ hst => ⟨hst.status, hst.statistics⟩)
    (fun _ hst => ⟨hst.status, hst.statistics⟩) (counts_noteBattery data)
    fun type severity value => acts_queueEvent type severity value c

end

namespace AppState

theorem acts_motionStarted : Acts motionStarted id := by
  intro c st hst
  apply acts_queueEvent
  exact ⟨hst.status, hst.statistics⟩

theorem acts_motionStopped (motion : MotionResult) :
    Acts (motionStopped motion) (Counters.stopped motion) := by
  intro c st hst
  apply acts_queueEvent
  have h := hst.mirrored
  obtain ⟨rfl, -⟩ := hst
  exact Mirrored.counts ⟨h.shockCount, h.freeFallCount, h.eventCount, h.maxShockMg, rfl⟩ rfl

theorem acts_shockSeen (motion : MotionResult) :
    Acts (shockSeen motion) (Counters.struck motion) := by
  intro c st hst
  apply acts_queueEvent
  have h := hst.mirrored
  obtain ⟨rfl, -⟩ := hst
  show Counts _ (if st.status.maxShockMg < motion.shockMg then _ else _)
  by_cases hharder : st.status.maxShockMg < motion.shockMg
  · rw [if_pos hharder]
    refine Mirrored.counts ⟨rfl, h.freeFallCount, h.eventCount, rfl, h.movementDurationS⟩ ?_
    exact Counters.ext rfl rfl rfl (if_pos hharder).symm rfl
  · rw [if_neg hharder]
    refine Mirrored.counts
      ⟨rfl, h.freeFallCount, h.eventCount, h.maxShockMg, h.movementDurationS⟩ ?_
    exact Counters.ext rfl rfl rfl (if_neg hharder).symm rfl

theorem acts_freeFallSeen : Acts freeFallSeen Counters.fell := by
  intro c st hst
  apply acts_queueEvent
  have h := hst.mirrored
  obtain ⟨rfl, -⟩ := hst
  exact Mirrored.counts ⟨h.shockCount, rfl, h.eventCount, h.maxShockMg, h.movementDurationS⟩ rfl

theorem acts_tamperSeen : Acts tamperSeen id := by
  intro c st hst
  apply acts_queueEvent
  exact ⟨hst.status, hst.statistics⟩

end AppState

theorem acts_applyMotionResult (motion : MotionResult) :
    Acts (applyMotionResult motion) (Counters.note motion) := by
  intro c st hst
  have hstart := AppState.acts_motionStarted.branch_id (motion.reports motionEventStart) c st hst
  have hstop := (AppState.acts_motionStopped motion).branch
    (motion.reports motionEventStop) _ _ hstart
  have hshock := (AppState.acts_shockSeen motion).branch
    (motion.reports motionEventShock) _ _ hstop
  have hfall := AppState.acts_freeFallSeen.branch
    (motion.reports motionEventFreeFall) _ _ hshock
  have hturn := (acts_queueEvent .orientationChange .info
    motion.orientation.toUInt16.toInt16).branch_id (motion.reports motionEventOrientation) _ _ hfall
  have htamper := AppState.acts_tamperSeen.branch_id (motion.reports motionEventTamper) _ _ hturn
  exact ⟨htamper.status, htamper.statistics⟩

theorem acts_applySample (data : SensorData) (motion : MotionResult) (config : TagConfig)
    (expectedValid : UInt8) :
    Acts (applySample data motion config expectedValid) (Counters.note motion) := by
  intro c st hst
  have hmotion := acts_applyMotionResult motion c { st with lastSample := data }
    ⟨hst.status, hst.statistics⟩
  have hcheck := counts_checkThresholds data config expectedValid _ hmotion
  exact ⟨hcheck.status, hcheck.statistics⟩

/-! ## Sections -/

/-- What a thread does to the statics between taking the lock and releasing it. -/
inductive LockedSection where
  | sample (data : SensorData) (motion : MotionResult) (config : TagConfig) (expectedValid : UInt8)
  /-- `drain_pending_events` takes its batch. -/
  | takePending
  | countEvent
  | setEpoch (epoch : UInt32)
  | clearCounters
  /-- `last_stats_flush`, which only the sampling thread uses and writes without the lock. -/
  | noteFlush (timestamp : UInt32)
deriving DecidableEq

def AppState.run (st : AppState) : LockedSection → AppState
  | .sample data motion config expectedValid => applySample data motion config expectedValid st
  | .takePending => { st with pending := [] }
  | .countEvent => SmartTag.countEvent st
  | .setEpoch epoch => { st with statistics := { st.statistics with bootEpochUtc := epoch } }
  | .clearCounters => SmartTag.clearCounters st
  | .noteFlush timestamp => { st with lastStatsFlush := timestamp }

/-- What a section should do to one copy. -/
def Counters.run (c : Counters) : LockedSection → Counters
  | .sample _ motion _ _ => c.note motion
  | .countEvent => { c with eventCount := c.eventCount + 1 }
  | .clearCounters => .zero
  | _ => c

theorem counts_step {st : AppState} {c : Counters} (e : LockedSection) (h : st.Counts c) :
    (st.run e).Counts (c.run e) := by
  cases e with
  | sample data motion config expectedValid =>
      exact acts_applySample data motion config expectedValid c st h
  | countEvent =>
      have hm := h.mirrored
      obtain ⟨rfl, -⟩ := h
      exact AppState.Mirrored.counts
        ⟨hm.shockCount, hm.freeFallCount, rfl, hm.maxShockMg, hm.movementDurationS⟩ rfl
  | clearCounters => exact ⟨rfl, rfl⟩
  | takePending => exact ⟨h.status, h.statistics⟩
  | setEpoch epoch => exact ⟨h.status, h.statistics⟩
  | noteFlush timestamp => exact ⟨h.status, h.statistics⟩

theorem counts_final {st : AppState} {c : Counters} (h : st.Counts c)
    (events : List LockedSection) :
    (Run.final AppState.run st events).Counts (Run.final Counters.run c events) :=
  Run.final_simulation (R := fun st c => AppState.Counts c st) (fun _ _ e h => counts_step e h)
    h events

/-- The boot copies the stored counters into the status. -/
theorem counts_appStateInit (storage : ConfigStorage) (st : AppState) :
    (appStateInit storage st).Counts (configStorageLoadStatistics storage).counters :=
  ⟨rfl, rfl⟩

/-! ### Whole calls -/

section

variable [Crc16]

theorem sections_appRaiseEvent (uptimeMs : Nat) (type : EventType) (severity : EventSeverity)
    (value : Int16) (tag : Tag) :
    (appRaiseEvent uptimeMs type severity value tag).2.app = tag.app.run .countEvent :=
  rfl

theorem sections_raiseBatch (uptimeMs : Nat) (batch : List PendingEvent) (tag : Tag) :
    (raiseBatch uptimeMs batch tag).2.app =
      Run.final AppState.run tag.app (batch.map fun _ => .countEvent) := by
  induction batch generalizing tag with
  | nil => rfl
  | cons e batch ih => exact ih _

/-- A sample is one section, the events it queued are taken in another, and each of them is raised
in one of its own; the hour of the last flush may be written after that. -/
theorem sections_appProcessSensorData (uptimeMs : Nat) (data : SensorData) (motion : MotionResult)
    (config : TagConfig) (expectedValid : UInt8) (tag : Tag) :
    let batch := (applySample data motion config expectedValid tag.app).pending
    let drained := Run.final AppState.run tag.app
      (.sample data motion config expectedValid :: .takePending ::
        batch.map fun _ => LockedSection.countEvent)
    let after := (appProcessSensorData uptimeMs data motion config expectedValid tag).2.app
    after = drained ∨ after = drained.run (.noteFlush data.timestamp) := by
  intro batch drained after
  have hflush : ∀ raised : Tag, (flushIfDue data.timestamp raised).app = raised.app ∨
      (flushIfDue data.timestamp raised).app = raised.app.run (.noteFlush data.timestamp) := by
    intro raised
    unfold flushIfDue
    split_ifs
    · exact Or.inr rfl
    · exact Or.inl rfl
  obtain ⟨logged, happ, -, hcall⟩ :=
    appProcessSensorData_eq uptimeMs data motion config expectedValid tag
  have hdrained : (drainPendingEvents uptimeMs logged).2.app = drained := by
    rw [drainPendingEvents, sections_raiseBatch, happ]
    rfl
  have hafter := hflush (drainPendingEvents uptimeMs logged).2
  rw [hdrained, ← hcall] at hafter
  exact hafter

end

theorem sections_appStateResetCounters (tag : Tag) :
    (appStateResetCounters tag).app = tag.app.run .clearCounters :=
  rfl

/-! ## Every interleaving -/

/-- A section hands the bit to `apply_motion_result`. -/
def LockedSection.hands (event : UInt32) : LockedSection → Nat
  | .sample _ motion _ _ => if motion.reports event then 1 else 0
  | _ => 0

def handed (event : UInt32) (sections : List LockedSection) : Nat :=
  (sections.map (LockedSection.hands event)).sum

theorem handed_cons (event : UInt32) (e : LockedSection) (sections : List LockedSection) :
    handed event (e :: sections) = e.hands event + handed event sections := by
  rw [handed, List.map_cons, List.sum_cons, handed]

theorem Counters.run_grows {c : Counters} {e : LockedSection} (h : e ≠ .clearCounters) :
    c.maxShockMg ≤ (c.run e).maxShockMg ∧
      (c.run e).shockCount = c.shockCount + UInt32.ofNat (e.hands motionEventShock) ∧
      (c.run e).freeFallCount = c.freeFallCount + UInt32.ofNat (e.hands motionEventFreeFall) := by
  cases e with
  | sample data motion config expectedValid =>
      refine ⟨?_, c.note_shockCount motion, c.note_freeFallCount motion⟩
      rw [run, note_maxShockMg]
      split_ifs with hharder
      · exact UInt16.le_of_lt hharder.2
      · exact UInt16.le_refl _
  | clearCounters => exact absurd rfl h
  | _ => exact ⟨UInt16.le_refl _, (UInt32.add_zero _).symm, (UInt32.add_zero _).symm⟩

theorem Counters.final_grows {since : List LockedSection} (h : LockedSection.clearCounters ∉ since)
    (c : Counters) :
    c.maxShockMg ≤ (Run.final run c since).maxShockMg ∧
      (Run.final run c since).shockCount =
        c.shockCount + UInt32.ofNat (handed motionEventShock since) ∧
      (Run.final run c since).freeFallCount =
        c.freeFallCount + UInt32.ofNat (handed motionEventFreeFall since) := by
  induction since generalizing c with
  | nil => exact ⟨UInt16.le_refl _, (UInt32.add_zero _).symm, (UInt32.add_zero _).symm⟩
  | cons e since ih =>
      rw [List.mem_cons, not_or] at h
      obtain ⟨hmax, hshock, hfall⟩ := run_grows (c := c) (Ne.symm h.1)
      obtain ⟨hmax', hshock', hfall'⟩ := ih h.2 (c.run e)
      refine ⟨UInt16.le_trans hmax hmax', ?_, ?_⟩
      · rw [Run.final_cons, hshock', hshock, handed_cons, UInt32.ofNat_add, UInt32.add_assoc]
      · rw [Run.final_cons, hfall', hfall, handed_cons, UInt32.ofNat_add, UInt32.add_assoc]

/-- The copies agree in every reachable state, whatever the order in which threads take the lock.
Between resets the maximum does not fall, and the two counts grow by what was handed in. -/
theorem counters_mirrored (storage : ConfigStorage) (events since : List LockedSection)
    (hsince : LockedSection.clearCounters ∉ since) :
    let st := Run.final AppState.run (appStateInit storage .atReset) events
    let st' := Run.final AppState.run st since
    st.Mirrored ∧ st.status.maxShockMg ≤ st'.status.maxShockMg ∧
      st'.status.shockCount =
        st.status.shockCount + UInt32.ofNat (handed motionEventShock since) ∧
      st'.status.freeFallCount =
        st.status.freeFallCount + UInt32.ofNat (handed motionEventFreeFall since) := by
  intro st st'
  have hst : st.Mirrored :=
    (counts_final (counts_appStateInit storage .atReset) events).mirrored
  have hst' := counts_final (hst.counts rfl) since
  have hgrows := Counters.final_grows hsince st.status.counters
  rw [← hst'.status] at hgrows
  exact ⟨hst, hgrows⟩

/-- A shock between a boot on empty settings and a reset. -/
theorem counters_mirrored_shock :
    let motion : MotionResult :=
      { events := motionEventShock, shockMg := 5000, orientation := 0, motionState := 1
        movementDurationS := 0 }
    let since := [.sample AppState.atReset.lastSample motion .defaults 0, .takePending,
      LockedSection.countEvent]
    let st := appStateInit (.atReset { stored := fun _ => none, results := [] }) .atReset
    let st' := Run.final AppState.run st since
    st'.status.shockCount = st.status.shockCount + UInt32.ofNat (handed motionEventShock since) ∧
      handed motionEventShock since = 1 ∧ st'.status.maxShockMg = 5000 := by
  intro motion since st st'
  obtain ⟨-, -, hshock, -⟩ :=
    counters_mirrored (.atReset { stored := fun _ => none, results := [] }) [] since (by decide)
  exact ⟨hshock, by decide, by decide +kernel⟩

end SmartTag
