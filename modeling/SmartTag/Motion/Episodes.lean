import SmartTag.Motion.MotionRun

/-!
# Motion episodes

An episode begins with the active sample that finds the tag stationary and ends with the first
quiet one: inactive, and at least the timeout after the last active sample. Both are read off the
inputs here, and the manager's times are shown to follow them.

* `follows_step`: the times of the manager are those of the episode that is open.
* `reports_stop_iff`: a motion stops where its episode ends.
* `episodes_well_formed`: the episodes of a run, their durations and the total.
-/

namespace SmartTag

namespace MotionRun

variable (r : MotionRun)

/-! ## Episodes in the inputs -/

/-- `a` is the last active input from `s` on and before `n`. -/
structure LastActive (s n a : Nat) : Prop where
  from_start : s ≤ a
  before : a < n
  active : r.Active a
  last : ∀ k, a < k → k < n → ¬ r.Active k

/-- Input `n` is an inactive sample, the timeout or more after the last active one from `s` on. -/
def Quiet (s n : Nat) : Prop :=
  ∃ data a active, r.Sampled n data ∧ data.HasAccel ∧
    ¬ motionClassifierIsActive data (r.before n).config.motionThresholdMg ∧
    r.LastActive s n a ∧ r.Sampled a active ∧
    active.timestamp.toNat + (r.before n).config.motionTimeoutS.toNat ≤ data.timestamp.toNat

/-- The episode that begins at `s` has not ended before `n`. -/
structure Open (s n : Nat) : Prop where
  start : r.Reports motionEventStart s
  lt : s < n
  not_quiet : ∀ k, s < k → k < n → ¬ r.Quiet s k

/-- It ends at `n`, its first quiet sample. -/
def Ends (s n : Nat) : Prop := r.Open s n ∧ r.Quiet s n

/-- It ends before `n`. -/
def Closed (s n : Nat) : Prop := ∃ k, s < k ∧ k < n ∧ r.Quiet s k

variable {r}

theorem LastActive.unique {s n a s' a' : Nat} (h : r.LastActive s n a)
    (h' : r.LastActive s' n a') : a = a' := by
  rcases Nat.lt_trichotomy a a' with hlt | heq | hgt
  · exact absurd h'.active (h.last a' hlt h'.before)
  · exact heq
  · exact absurd h.active (h'.last a hgt h.before)

theorem LastActive.succ {s n a : Nat} (h : r.LastActive s n a) (hn : ¬ r.Active n) :
    r.LastActive s (n + 1) a where
  from_start := h.from_start
  before := Nat.lt_succ_of_lt h.before
  active := h.active
  last k hlt hle := by
    rcases Nat.lt_succ_iff_lt_or_eq.1 hle with hbefore | rfl
    · exact h.last k hlt hbefore
    · exact hn

theorem Closed.succ {s n : Nat} (h : r.Closed s n) : r.Closed s (n + 1) := by
  obtain ⟨k, hlt, hle, hquiet⟩ := h
  exact ⟨k, hlt, Nat.lt_succ_of_lt hle, hquiet⟩

theorem Open.succ {s n : Nat} (h : r.Open s n) (hn : ¬ r.Quiet s n) : r.Open s (n + 1) where
  start := h.start
  lt := Nat.lt_succ_of_lt h.lt
  not_quiet k hlt hle := by
    rcases Nat.lt_succ_iff_lt_or_eq.1 hle with hbefore | rfl
    · exact h.not_quiet k hlt hbefore
    · exact hn

theorem Open.not_closed {s n : Nat} (h : r.Open s n) : ¬ r.Closed s n := by
  intro hclosed
  obtain ⟨k, hlt, hle, hquiet⟩ := hclosed
  exact h.not_quiet k hlt hle hquiet

/-! ## What the manager knows of them -/

variable (r)

/-- The open episode and its times. -/
structure Following (t : MotionTrack) (s n : Nat) : Prop where
  is_open : r.Open s n
  others : ∀ s' < n, r.Reports motionEventStart s' → s' ≠ s → r.Closed s' n
  started : ∀ data, r.Sampled s data → t.motionStartedTime = data.timestamp
  lastActive : ∃ a data, r.LastActive s n a ∧ r.Sampled a data ∧
    t.lastActiveTime = data.timestamp

/-- While the tag is stationary every episode has ended; while it moves, the last one is open. -/
structure Follows (n : Nat) (t : MotionTrack) : Prop where
  closed : t.state = .stationary → ∀ s < n, r.Reports motionEventStart s → r.Closed s n
  opened : t.state = .moving → ∃ s, r.Following t s n

variable {r}

/-- An input that neither starts nor carries on nor ends a motion. -/
theorem Follows.succ {n : Nat} {t : MotionTrack} (h : r.Follows n t) (hactive : ¬ r.Active n)
    (hstart : ¬ r.Reports motionEventStart n)
    (hquiet : ∀ s, r.Following t s n → ¬ r.Quiet s n) : r.Follows (n + 1) t where
  closed hstate s hs hreports := by
    rcases Nat.lt_succ_iff_lt_or_eq.1 hs with hlt | rfl
    · exact (h.closed hstate s hlt hreports).succ
    · exact absurd hreports hstart
  opened hstate := by
    obtain ⟨s, hs⟩ := h.opened hstate
    obtain ⟨a, data, ha, hdata, htime⟩ := hs.lastActive
    refine ⟨s, hs.is_open.succ (hquiet s hs), ?_, hs.started, a, data, ha.succ hactive, hdata,
      htime⟩
    intro s' hs' hreports hne
    rcases Nat.lt_succ_iff_lt_or_eq.1 hs' with hlt | rfl
    · exact (hs.others s' hlt hreports hne).succ
    · exact absurd hreports hstart

/-- The quiet sample is the one the manager stops at. -/
theorem Following.quiet_iff {n s : Nat} {data : SensorData} (hr : r.Chronological)
    (h : r.Following (r.before n).track s n) (hdata : r.Sampled n data) (haccel : data.HasAccel)
    (hstate : (r.before n).state = .moving) : r.Quiet s n ↔ (r.before n).Stops data := by
  obtain ⟨a, active, ha, hactive, htime⟩ := h.lastActive
  have hle : active.timestamp ≤ data.timestamp := hr.le (Nat.le_of_lt ha.before) hactive hdata
  have helapsed : (r.before n).config.motionTimeoutS.toUInt32 ≤
        data.timestamp - (r.before n).lastActiveTime ↔
      active.timestamp.toNat + (r.before n).config.motionTimeoutS.toNat ≤ data.timestamp.toNat := by
    have heq : (r.before n).lastActiveTime = active.timestamp := htime
    rw [heq, UInt32.le_iff_toNat_le, UInt32.toNat_sub_of_le _ _ hle, UInt16.toNat_toUInt32]
    have := UInt32.le_iff_toNat_le.1 hle
    omega
  constructor
  · intro hquiet
    obtain ⟨data', a', active', hdata', -, hinactive, ha', hactive', htimeout⟩ := hquiet
    obtain rfl := hdata.unique hdata'
    obtain rfl := ha.unique ha'
    obtain rfl := hactive.unique hactive'
    exact ⟨hinactive, hstate, helapsed.2 htimeout⟩
  · intro hstops
    obtain ⟨hinactive, -, htimeout⟩ := hstops
    exact ⟨data, a, active, hdata, haccel, hinactive, ha, hactive, helapsed.1 htimeout⟩

theorem reports_start_iff {n : Nat} {data : SensorData} (h : r.Sampled n data) :
    r.Reports motionEventStart n ↔ data.HasAccel ∧ (r.before n).Starts data :=
  (h.reports_iff _).trans (motionManagerProcess_reports data (r.before n)).1

/-- What is no sample, or has no accelerometer reading, is nothing to the motion state. -/
theorem Follows.skip {n : Nat} {t : MotionTrack} (h : r.Follows n t)
    (hskip : ∀ data, r.Sampled n data → ¬ data.HasAccel) : r.Follows (n + 1) t := by
  refine h.succ (not_active hskip) ?_ ?_
  · intro hstart
    obtain ⟨data, hdata, -⟩ := id hstart
    exact hskip data hdata ((reports_start_iff hdata).1 hstart).1
  · intro s _ hquiet
    obtain ⟨data, -, -, hdata, haccel, -⟩ := hquiet
    exact hskip data hdata haccel

theorem follows_sample {n : Nat} {data : SensorData} (hr : r.Chronological)
    (h : r.Follows n (r.before n).track) (hdata : r.Sampled n data) (haccel : data.HasAccel) :
    r.Follows (n + 1) ((r.before n).nextTrack data) := by
  have hstart := reports_start_iff hdata
  have hactive := hdata.active_iff
  unfold MotionManager.nextTrack
  split_ifs with hstarts hstops hmoves
  · -- a motion starts: every earlier episode is over
    refine ⟨nofun, fun _ => ⟨n, ?_, ?_, ?_, n, data, ?_, hdata, rfl⟩⟩
    · exact ⟨hstart.2 ⟨haccel, hstarts⟩, Nat.lt_succ_self n,
        fun k hlt hle => absurd hlt (Nat.not_lt.2 (Nat.le_of_lt_succ hle))⟩
    · intro s hs hreports hne
      exact (h.closed hstarts.2 s (Nat.lt_of_le_of_ne (Nat.le_of_lt_succ hs) hne) hreports).succ
    · intro data' hdata'
      rw [hdata.unique hdata']
    · exact ⟨le_rfl, Nat.lt_succ_self n, hactive.2 ⟨haccel, hstarts.1⟩,
        fun k hlt hle => absurd hlt (Nat.not_lt.2 (Nat.le_of_lt_succ hle))⟩
  · -- the one that is open ends
    obtain ⟨s, hs⟩ := h.opened hstops.2.1
    refine ⟨fun _ s' hs' hreports => ?_, nofun⟩
    rcases Nat.lt_succ_iff_lt_or_eq.1 hs' with hlt | rfl
    · by_cases hne : s' = s
      · rw [hne]
        exact ⟨n, hs.is_open.lt, Nat.lt_succ_self n,
          (hs.quiet_iff hr hdata haccel hstops.2.1).2 hstops⟩
      · exact (hs.others s' hlt hreports hne).succ
    · exact absurd (hstart.1 hreports).2 hstarts
  · -- it goes on
    have hmoving : (r.before n).state = .moving := by
      cases hstate : (r.before n).state with
      | stationary => exact absurd ⟨hmoves, hstate⟩ hstarts
      | moving => rfl
    obtain ⟨s, hs⟩ := h.opened hmoving
    have hnot : ¬ r.Quiet s n := fun hquiet =>
      hstops ((hs.quiet_iff hr hdata haccel hmoving).1 hquiet)
    refine ⟨fun hstate => ?_, fun _ => ⟨s, hs.is_open.succ hnot, ?_, hs.started, n, data, ?_,
      hdata, rfl⟩⟩
    · exact absurd (hmoving.symm.trans hstate) nofun
    · intro s' hs' hreports hne
      rcases Nat.lt_succ_iff_lt_or_eq.1 hs' with hlt | rfl
      · exact (hs.others s' hlt hreports hne).succ
      · exact absurd (hstart.1 hreports).2 hstarts
    · exact ⟨Nat.le_of_lt hs.is_open.lt, Nat.lt_succ_self n, hactive.2 ⟨haccel, hmoves⟩,
        fun k hlt hle => absurd hlt (Nat.not_lt.2 (Nat.le_of_lt_succ hle))⟩
  · -- an inactive sample, and no quiet one
    refine h.succ (fun hact => hmoves (hactive.1 hact).2) (fun hrep => hstarts (hstart.1 hrep).2) ?_
    intro s hs hquiet
    cases hstate : (r.before n).state with
    | stationary =>
        exact hs.is_open.not_closed (h.closed hstate s hs.is_open.lt hs.is_open.start)
    | moving => exact hstops ((hs.quiet_iff hr hdata haccel hstate).1 hquiet)

theorem follows_step {n : Nat} {input : MotionInput} (hr : r.Chronological)
    (hinput : r.inputs[n]? = some input) (h : r.Follows n (r.before n).track) :
    r.Follows (n + 1) ((r.before n).step input).track := by
  rcases step_track_cases hinput with ⟨data, hdata, haccel, htrack⟩ | ⟨hskip, htrack⟩
  · rw [htrack]
    exact follows_sample hr h hdata haccel
  · rw [htrack]
    exact h.skip hskip

theorem follows {n : Nat} (hr : r.Chronological) (hn : n ≤ r.inputs.length) :
    r.Follows n (r.before n).track :=
  induction (I := fun n manager => r.Follows n manager.track)
    ⟨fun _ s hs => absurd hs (Nat.not_lt_zero s), nofun⟩
    (fun _ _ hinput h => follows_step hr hinput h) hn

/-! ## Where a motion starts and stops -/

theorem reports_start_iff_active {n : Nat} :
    r.Reports motionEventStart n ↔ r.Active n ∧ (r.before n).state = .stationary := by
  constructor
  · intro hstart
    obtain ⟨data, hdata, -⟩ := id hstart
    obtain ⟨haccel, hactive, hstate⟩ := (reports_start_iff hdata).1 hstart
    exact ⟨⟨data, hdata, haccel, hactive⟩, hstate⟩
  · intro h
    obtain ⟨⟨data, hdata, haccel, hactive⟩, hstate⟩ := h
    exact (reports_start_iff hdata).2 ⟨haccel, hactive, hstate⟩

/-- The episode that ends is the one the manager follows: the others have ended before. -/
theorem Ends.following {s n : Nat} (hr : r.Chronological) (h : r.Ends s n) :
    (r.before n).state = .moving ∧ r.Following (r.before n).track s n := by
  obtain ⟨hopen, hquiet⟩ := h
  obtain ⟨data, -, -, hdata, -⟩ := hquiet
  have hfollows := follows hr (Nat.le_of_lt hdata.lt)
  have hmoving : (r.before n).state = .moving := by
    cases hstate : (r.before n).state with
    | stationary => exact absurd (hfollows.closed hstate s hopen.lt hopen.start) hopen.not_closed
    | moving => rfl
  obtain ⟨s', hs'⟩ := hfollows.opened hmoving
  have heq : s = s' := by
    by_contra hne
    exact hopen.not_closed (hs'.others s hopen.lt hopen.start hne)
  subst heq
  exact ⟨hmoving, hs'⟩

theorem reports_stop_iff {n : Nat} (hr : r.Chronological) :
    r.Reports motionEventStop n ↔ ∃ s, r.Ends s n := by
  have hstops : ∀ data, r.Sampled n data →
      (r.Reports motionEventStop n ↔ data.HasAccel ∧ (r.before n).Stops data) := fun data hdata =>
    (hdata.reports_iff _).trans (motionManagerProcess_reports data (r.before n)).2.1
  constructor
  · intro hstop
    obtain ⟨data, hdata, -⟩ := id hstop
    obtain ⟨haccel, hstop⟩ := (hstops data hdata).1 hstop
    obtain ⟨s, hs⟩ := (follows hr (Nat.le_of_lt hdata.lt)).opened hstop.2.1
    exact ⟨s, hs.is_open, (hs.quiet_iff hr hdata haccel hstop.2.1).2 hstop⟩
  · intro hends
    obtain ⟨s, hends⟩ := hends
    obtain ⟨hmoving, hs⟩ := hends.following hr
    obtain ⟨data, -, -, hdata, haccel, -⟩ := id hends.2
    exact (hstops data hdata).2 ⟨haccel, (hs.quiet_iff hr hdata haccel hmoving).1 hends.2⟩

/-- The duration reported is the time from the start to the last active sample. -/
theorem Ends.duration {s n a : Nat} {data started active : SensorData} (hr : r.Chronological)
    (h : r.Ends s n) (ha : r.LastActive s n a) (hdata : r.Sampled n data)
    (hstarted : r.Sampled s started) (hactive : r.Sampled a active) :
    (motionManagerProcess data (r.before n)).1.1.movementDurationS.toNat +
      started.timestamp.toNat = active.timestamp.toNat := by
  obtain ⟨hmoving, hs⟩ := h.following hr
  obtain ⟨data', -, -, hdata', haccel, -⟩ := id h.2
  obtain rfl := hdata.unique hdata'
  have hstops := (hs.quiet_iff hr hdata haccel hmoving).1 h.2
  obtain ⟨a', active', ha', hactive', hlast⟩ := hs.lastActive
  obtain rfl := ha.unique ha'
  obtain rfl := hactive.unique hactive'
  have hle : started.timestamp ≤ active.timestamp :=
    hr.le ha.from_start hstarted hactive
  have hduration : (r.before n).lastActiveTime - (r.before n).motionStartedTime =
      active.timestamp - started.timestamp :=
    congrArg₂ (· - ·) hlast (hs.started started hstarted)
  rw [motionManagerProcess_duration haccel, if_pos hstops, hduration,
    UInt32.toNat_sub_of_le _ _ hle]
  exact Nat.sub_add_cancel (UInt32.le_iff_toNat_le.1 hle)

end MotionRun

/-! ## What is reported over a run -/

/-- The list goes `b`, `!b`, `b` and so on. -/
def Alternates : Bool → List Bool → Prop
  | _, [] => True
  | b, e :: edges => e = b ∧ Alternates (!b) edges

/-- The one to come next. -/
def nextEdge (b : Bool) (edges : List Bool) : Bool := edges.foldl (fun b _ => !b) b

theorem Alternates.concat {b : Bool} {edges : List Bool} (h : Alternates b edges) :
    Alternates b (edges ++ [nextEdge b edges]) := by
  induction edges generalizing b with
  | nil => exact ⟨rfl, trivial⟩
  | cons e edges ih => exact ⟨h.1, ih h.2⟩

theorem nextEdge_concat (b e : Bool) (edges : List Bool) :
    nextEdge b (edges ++ [e]) = !nextEdge b edges := by
  rw [nextEdge, List.foldl_append]
  rfl

namespace MotionManager

/-- The starts (`true`) and stops (`false`) an input reports. -/
def edges (manager : MotionManager) : MotionInput → List Bool
  | .sample data =>
    let motion := (motionManagerProcess data manager).1.1
    (if motion.reports motionEventStart then [true] else []) ++
      if motion.reports motionEventStop then [false] else []
  | _ => []

/-- The duration it reports. -/
def durations (manager : MotionManager) : MotionInput → List UInt32
  | .sample data => [(motionManagerProcess data manager).1.1.movementDurationS]
  | _ => []

end MotionManager

namespace MotionRun

variable (r : MotionRun)

def edges (n : Nat) : List Bool :=
  Run.outputs MotionManager.step MotionManager.edges (motionManagerInit r.config) (r.inputs.take n)

def durations (n : Nat) : List UInt32 :=
  Run.outputs MotionManager.step MotionManager.durations (motionManagerInit r.config)
    (r.inputs.take n)

variable {r}

/-- One input turns the state over and reports it, or leaves it. -/
theorem edges_cases (manager : MotionManager) (input : MotionInput) :
    (manager.edges input = [true] ∧ manager.state = .stationary ∧
        (manager.step input).state = .moving) ∨
      (manager.edges input = [false] ∧ manager.state = .moving ∧
        (manager.step input).state = .stationary) ∨
      (manager.edges input = [] ∧ (manager.step input).state = manager.state) := by
  cases input with
  | sample data =>
      obtain ⟨hstart, hstop, -⟩ := motionManagerProcess_reports data manager
      simp only [MotionManager.edges, hstart, hstop]
      by_cases haccel : data.HasAccel
      · have hstate : (manager.step (.sample data)).state = (manager.nextTrack data).state :=
          congrArg MotionTrack.state (motionManagerProcess_track haccel manager)
        rw [hstate, MotionManager.nextTrack]
        by_cases hstarts : manager.Starts data
        · have hnot : ¬ manager.Stops data := fun hstops => hstops.1 hstarts.1
          simp [haccel, hstarts, hnot, hstarts.2]
        · by_cases hstops : manager.Stops data
          · simp [haccel, hstarts, hstops, hstops.2.1]
          · refine Or.inr (Or.inr ⟨by simp [hstarts, hstops], ?_⟩)
            rw [if_neg hstarts, if_neg hstops]
            split_ifs <;> rfl
      · refine Or.inr (Or.inr ⟨by simp [haccel], ?_⟩)
        rw [MotionManager.step, motionManagerProcess_of_not_hasAccel haccel]
  | updateConfig config => exact Or.inr (Or.inr ⟨rfl, rfl⟩)
  | clearTamper => exact Or.inr (Or.inr ⟨rfl, rfl⟩)

/-- The starts and stops alternate, and the state tells which comes next. -/
theorem alternates_edges {n : Nat} (hn : n ≤ r.inputs.length) :
    Alternates true (r.edges n) ∧
      (nextEdge true (r.edges n) = true ↔ (r.before n).state = .stationary) := by
  refine induction (r := r) (I := fun n manager => Alternates true (r.edges n) ∧
    (nextEdge true (r.edges n) = true ↔ manager.state = .stationary))
    ⟨trivial, iff_of_true rfl rfl⟩ ?_ hn
  intro n input hinput h
  obtain ⟨halternates, hnext⟩ := h
  have hedges : r.edges (n + 1) = r.edges n ++ (r.before n).edges input :=
    Run.outputs_take_succ _ _ hinput _
  rw [hedges]
  rcases edges_cases (r.before n) input with
    ⟨hedge, hstate, hstate'⟩ | ⟨hedge, hstate, hstate'⟩ | ⟨hedge, hstate'⟩
  · have htrue : nextEdge true (r.edges n) = true := hnext.2 hstate
    have hconcat := halternates.concat
    rw [htrue] at hconcat
    rw [hedge, nextEdge_concat, htrue, hstate']
    exact ⟨hconcat, by simp⟩
  · have hfalse : nextEdge true (r.edges n) = false := by
      rw [hstate] at hnext
      simpa using hnext
    have hconcat := halternates.concat
    rw [hfalse] at hconcat
    rw [hedge, nextEdge_concat, hfalse, hstate']
    exact ⟨hconcat, by simp⟩
  · rw [hedge, List.append_nil, hstate']
    exact ⟨halternates, hnext⟩

theorem step_totalMovementS (manager : MotionManager) (input : MotionInput) :
    (manager.step input).totalMovementS.toNat =
      (manager.totalMovementS.toNat +
        ((manager.durations input).map UInt32.toNat).sum) % 2 ^ 32 := by
  have hkept : manager.totalMovementS.toNat = manager.totalMovementS.toNat % 2 ^ 32 :=
    (Nat.mod_eq_of_lt manager.totalMovementS.toNat_lt).symm
  cases input with
  | sample data =>
      simp only [MotionManager.durations, List.map_cons, List.map_nil, List.sum_singleton]
      by_cases haccel : data.HasAccel
      · have htotal : (manager.step (.sample data)).totalMovementS =
            (manager.nextTrack data).totalMovementS :=
          congrArg MotionTrack.totalMovementS (motionManagerProcess_track haccel manager)
        rw [htotal, motionManagerProcess_duration haccel, ← UInt32.toNat_add]
        unfold MotionManager.nextTrack
        split_ifs with hstarts hstops
        · exact absurd hstarts.1 hstops.1
        · rw [UInt32.add_zero]
          rfl
        · rfl
        · rw [UInt32.add_zero]
          rfl
        · rw [UInt32.add_zero]
          rfl
      · rw [MotionManager.step, motionManagerProcess_of_not_hasAccel haccel]
        exact hkept
  | updateConfig config => exact hkept
  | clearTamper => exact hkept

/-- The total is the sum of what has been reported. -/
theorem totalMovementS_eq {n : Nat} (hn : n ≤ r.inputs.length) :
    (r.before n).totalMovementS.toNat =
      ((r.durations n).map UInt32.toNat).sum % 2 ^ 32 := by
  refine induction (r := r) (I := fun n manager => manager.totalMovementS.toNat =
    ((r.durations n).map UInt32.toNat).sum % 2 ^ 32) rfl ?_ hn
  intro n input hinput h
  have hdurations : r.durations (n + 1) = r.durations n ++ (r.before n).durations input :=
    Run.outputs_take_succ _ _ hinput _
  have hadds : ((r.before n).step input).totalMovementS.toNat =
      ((r.before n).totalMovementS.toNat +
        (((r.before n).durations input).map UInt32.toNat).sum) % 2 ^ 32 :=
    step_totalMovementS _ _
  rw [hdurations, List.map_append, List.sum_append, hadds, h, Nat.mod_add_mod]

/-- For every run with timestamps that do not go back, whatever becomes of the configuration on
the way: starts and stops alternate, a start comes first; a motion starts at the active samples
that find the tag stationary, and stops at the first quiet sample of its episode; its duration is
the time from its start to its last active sample, and the total is the sum of the durations;
samples without the accelerometer do nothing. -/
theorem episodes_well_formed (r : MotionRun) (hr : r.Chronological) :
    (∀ n ≤ r.inputs.length, Alternates true (r.edges n) ∧
      (r.before n).totalMovementS.toNat = ((r.durations n).map UInt32.toNat).sum % 2 ^ 32) ∧
      (∀ n, r.Reports motionEventStart n ↔ r.Active n ∧ (r.before n).state = .stationary) ∧
      (∀ n, r.Reports motionEventStop n ↔ ∃ s, r.Ends s n) ∧
      (∀ s n a data started active, r.Ends s n → r.LastActive s n a → r.Sampled n data →
        r.Sampled s started → r.Sampled a active →
        (motionManagerProcess data (r.before n)).1.1.movementDurationS.toNat +
          started.timestamp.toNat = active.timestamp.toNat) ∧
      ∀ n data, r.Sampled n data → ¬ data.HasAccel →
        (motionManagerProcess data (r.before n)).1.1.events = 0 ∧
          r.before (n + 1) = r.before n := by
  refine ⟨?_, fun n => reports_start_iff_active, fun n => reports_stop_iff hr, ?_, ?_⟩
  · intro n hn
    exact ⟨(alternates_edges hn).1, totalMovementS_eq hn⟩
  · intro s n a data started active hends ha hdata hstarted hactive
    exact hends.duration hr ha hdata hstarted hactive
  · intro n data hdata haccel
    rw [hdata.before_succ, motionManagerProcess_of_not_hasAccel haccel]
    exact ⟨rfl, rfl⟩

/-- Two active samples ten seconds apart, and a quiet one half a minute after the second. -/
def oneEpisode : MotionRun where
  config := .defaults
  inputs :=
    [.sample (accel 5 0 0 1400 1400), .sample (accel 15 0 0 1300 1300),
      .sample (accel 45 0 0 1000 1000)]

theorem episodes_well_formed_one :
    oneEpisode.edges 3 = [true, false] ∧ Alternates true (oneEpisode.edges 3) ∧
      (oneEpisode.before 3).totalMovementS.toNat = 10 := by
  have h := (episodes_well_formed oneEpisode (by decide)).1 3 (by decide)
  have hdurations : oneEpisode.durations 3 = [0, 0, 10] := by decide +kernel
  rw [hdurations] at h
  exact ⟨by decide +kernel, h.1, h.2⟩

end MotionRun

end SmartTag
