import SmartTag.Motion.MotionRun

/-!
# Tamper

There is no tamper switch: that the tag was prised off is inferred from a shock after a long rest
and another way up after it. The three conditions come from three parts of the manager, which put
them together in one sample only. So tamper is never raised without cause, but it is missed when
the tag turns in a later sample than that of the shock.

* `rested_step`: while the tag is stationary, no sample after `stationary_since` was active.
* `tamper_has_cause`: what a tamper event says of the run before it.
* `tamper_latched_iff`: when a strike that ends in another way up is taken for tamper.
-/

namespace SmartTag

/-! ## The latch -/

theorem trackOrientation_tamper (data : SensorData) (struck : Bool) (manager : MotionManager) :
    (trackOrientation data struck manager).2.tamper =
      (manager.tamper || (trackOrientation data struck manager).1.2) := by
  unfold trackOrientation
  dsimp only
  split_ifs <;> simp

/-- Tamper is latched by the event that reports it. -/
theorem motionManagerProcess_tamper (data : SensorData) (manager : MotionManager) :
    (motionManagerProcess data manager).2.tamper = true ↔ manager.tamper = true ∨
      (motionManagerProcess data manager).1.1.reports motionEventTamper := by
  by_cases haccel : data.HasAccel
  · let result := shockDetectorProcess data manager.config.shockThresholdMg
      manager.config.freeFallThresholdMg manager.detector
    let detected : MotionManager := { manager with detector := result.2 }
    let tracked := (trackMotion data detected).2
    let turned := trackOrientation data
      (decide (manager.Settled data) && result.1.shock) tracked
    have hprocess : (motionManagerProcess data manager).2 = turned.2 := by
      rw [motionManagerProcess, if_neg haccel]
      rfl
    have hreports : (motionManagerProcess data manager).1.1.reports motionEventTamper ↔
        turned.1.2 = true := by
      let events : MotionEvents :=
        { start := (trackMotion data detected).1.1
          stop := (trackMotion data detected).1.2.1
          shock := result.1.shock
          freeFall := result.1.freeFall
          orientation := turned.1.1
          tamper := turned.1.2 }
      have hmask : (motionManagerProcess data manager).1.1.events = events.toUInt32 := by
        rw [motionManagerProcess, if_neg haccel]
        rfl
      exact (MotionEvents.toUInt32_reports hmask).2.2.2.2.2
    have htracked : tracked.tamper = manager.tamper := (trackMotion_frame data detected).2
    rw [hprocess, hreports, trackOrientation_tamper, htracked, Bool.or_eq_true]
  · have hreports := (motionManagerProcess_reports data manager).2.2.2.2.2
    rw [motionManagerProcess_of_not_hasAccel haccel] at hreports ⊢
    simp only [hreports, haccel, false_and, or_false]

theorem trackOrientation_orientation {data : SensorData} {manager : MotionManager}
    (h : manager.Turns data) (struck : Bool) :
    (trackOrientation data struck manager).2.orientation = motionClassifierOrientation data := by
  unfold trackOrientation
  dsimp only
  rw [if_pos ⟨h.1, h.2.1⟩]
  split_ifs <;> rfl

theorem motionManagerProcess_orientation {data : SensorData} {manager : MotionManager}
    (haccel : data.HasAccel) (h : manager.Turns data) :
    (motionManagerProcess data manager).2.orientation = motionClassifierOrientation data := by
  rw [motionManagerProcess, if_neg haccel]
  apply trackOrientation_orientation
  rw [MotionManager.Turns, (trackMotion_frame _ _).1]
  exact h

namespace MotionRun

variable {r : MotionRun}

theorem reports_tamper_iff {n : Nat} {data : SensorData} (h : r.Sampled n data) :
    r.Reports motionEventTamper n ↔ data.HasAccel ∧ (r.before n).Turns data ∧
      ((r.before n).Settled data ∧ (r.before n).Struck data) ∧ (r.before n).tamper = false :=
  (h.reports_iff _).trans (motionManagerProcess_reports data (r.before n)).2.2.2.2.2

theorem reports_shock_iff {n : Nat} {data : SensorData} (h : r.Sampled n data) :
    r.Reports motionEventShock n ↔ data.HasAccel ∧ (r.before n).Struck data :=
  (h.reports_iff _).trans (motionManagerProcess_reports data (r.before n)).2.2.1

theorem reports_orientation_iff {n : Nat} {data : SensorData} (h : r.Sampled n data) :
    r.Reports motionEventOrientation n ↔ data.HasAccel ∧ (r.before n).Turns data :=
  (h.reports_iff _).trans (motionManagerProcess_reports data (r.before n)).2.2.2.2.1

/-- An input other than a clear keeps tamper latched, and a tamper event latches it. -/
theorem tamper_succ {n : Nat} {input : MotionInput} (hinput : r.inputs[n]? = some input)
    (hclear : input ≠ .clearTamper) :
    (r.before (n + 1)).tamper = true ↔
      (r.before n).tamper = true ∨ r.Reports motionEventTamper n := by
  rw [before_succ hinput]
  cases input with
  | sample data =>
      have hdata : r.Sampled n data := hinput
      rw [hdata.reports_iff]
      exact motionManagerProcess_tamper data (r.before n)
  | updateConfig config =>
      have hnot : ¬ r.Reports motionEventTamper n := by
        intro h
        obtain ⟨data, hdata, -⟩ := h
        exact not_sampled hinput (by simp) data hdata
      simp only [hnot, or_false]
      rfl
  | clearTamper => exact absurd rfl hclear

/-! ## The rest before a tamper -/

variable (r) in
/-- The manager's rest began at no later sample than those to come, and while the tag is
stationary no sample after its beginning was active. -/
structure Rested (n : Nat) (t : MotionTrack) : Prop where
  since : ∀ m ≥ n, ∀ data, r.Sampled m data → t.stationarySince ≤ data.timestamp
  quiet : t.state = .stationary → ∀ k < n, ∀ data, r.Sampled k data → r.Active k →
    data.timestamp ≤ t.stationarySince

theorem Rested.succ {n : Nat} {t : MotionTrack} (h : r.Rested n t) (hactive : ¬ r.Active n) :
    r.Rested (n + 1) t where
  since m hm := h.since m (Nat.le_of_succ_le hm)
  quiet hstate k hk data hdata hk' := by
    rcases Nat.lt_succ_iff_lt_or_eq.1 hk with hlt | rfl
    · exact h.quiet hstate k hlt data hdata hk'
    · exact absurd hk' hactive

theorem rested_step {n : Nat} {input : MotionInput} (hr : r.Chronological)
    (hinput : r.inputs[n]? = some input) (h : r.Rested n (r.before n).track) :
    r.Rested (n + 1) ((r.before n).step input).track := by
  rcases step_track_cases hinput with ⟨data, hdata, -, htrack⟩ | ⟨hskip, htrack⟩
  · rw [htrack]
    unfold MotionManager.nextTrack
    split_ifs with hstarts hstops hmoves
    · exact ⟨fun m hm => h.since m (Nat.le_of_succ_le hm), nofun⟩
    · -- the rest begins with this sample
      refine ⟨fun m hm _ hlater => hr.le (Nat.le_of_succ_le hm) hdata hlater, ?_⟩
      intro _ k hk _ hearlier _
      exact hr.le (Nat.le_of_lt_succ hk) hearlier hdata
    · refine ⟨fun m hm => h.since m (Nat.le_of_succ_le hm), fun hstate => ?_⟩
      exact absurd ⟨hmoves, hstate⟩ hstarts
    · exact h.succ fun hactive => hmoves (hdata.active_iff.1 hactive).2
  · rw [htrack]
    exact h.succ (not_active hskip)

theorem rested {n : Nat} (hr : r.Chronological) (hn : n ≤ r.inputs.length) :
    r.Rested n (r.before n).track :=
  induction (I := fun n manager => r.Rested n manager.track)
    ⟨fun _ _ _ _ => UInt32.zero_le, fun _ _ hk => absurd hk (Nat.not_lt_zero _)⟩
    (fun _ _ hinput h => rested_step hr hinput h) hn

/-! ## One tamper at a time -/

variable (r) in
/-- Tamper is latched since the last event, unless it was cleared after it. -/
def Latched (n : Nat) (tamper : Bool) : Prop :=
  ∀ k < n, r.Reports motionEventTamper k →
    tamper = true ∨ ∃ c, k < c ∧ c < n ∧ r.inputs[c]? = some .clearTamper

theorem latched_step {n : Nat} {input : MotionInput} (hinput : r.inputs[n]? = some input)
    (h : r.Latched n (r.before n).tamper) : r.Latched (n + 1) ((r.before n).step input).tamper := by
  intro k hk hreports
  by_cases hclear : input = .clearTamper
  · subst hclear
    refine Or.inr ⟨n, ?_, Nat.lt_succ_self n, hinput⟩
    apply Nat.lt_of_le_of_ne (Nat.le_of_lt_succ hk)
    rintro rfl
    obtain ⟨data, hdata, -⟩ := hreports
    exact not_sampled hinput (by simp) data hdata
  · have hsucc := tamper_succ hinput hclear
    rw [before_succ hinput] at hsucc
    rcases Nat.lt_succ_iff_lt_or_eq.1 hk with hlt | rfl
    · rcases h k hlt hreports with hlatched | ⟨c, hkc, hcn, hc⟩
      · exact Or.inl (hsucc.2 (Or.inl hlatched))
      · exact Or.inr ⟨c, hkc, Nat.lt_succ_of_lt hcn, hc⟩
    · exact Or.inl (hsucc.2 (Or.inr hreports))

theorem latched {n : Nat} (hn : n ≤ r.inputs.length) : r.Latched n (r.before n).tamper :=
  induction (I := fun n manager => r.Latched n manager.tamper)
    (fun _ hk => absurd hk (Nat.not_lt_zero _)) (fun _ _ hinput h => latched_step hinput h) hn

/-- A tamper event comes with a shock and a turn from one known way up to another, at rest for
five minutes in which no sample was active, and after the last one was cleared. -/
theorem tamper_has_cause (r : MotionRun) (hr : r.Chronological) (n : Nat)
    (htamper : r.Reports motionEventTamper n) :
    r.Reports motionEventShock n ∧ r.Reports motionEventOrientation n ∧
      ((r.before n).orientation ≠ .unknown ∧ (r.before (n + 1)).orientation ≠ .unknown ∧
        (r.before (n + 1)).orientation ≠ (r.before n).orientation) ∧
      (∀ data, r.Sampled n data → 300 ≤ data.timestamp.toNat ∧
        ∀ k < n, ∀ earlier, r.Sampled k earlier →
          data.timestamp.toNat - 300 < earlier.timestamp.toNat → ¬ r.Active k) ∧
      ∀ k < n, r.Reports motionEventTamper k →
        ∃ c, k < c ∧ c < n ∧ r.inputs[c]? = some .clearTamper := by
  obtain ⟨data, hdata, -⟩ := id htamper
  have hn : n ≤ r.inputs.length := Nat.le_of_lt hdata.lt
  obtain ⟨haccel, hturns, ⟨hsettled, hstruck⟩, hclear⟩ := (reports_tamper_iff hdata).1 htamper
  have hturned : (r.before (n + 1)).orientation = motionClassifierOrientation data := by
    rw [hdata.before_succ]
    exact motionManagerProcess_orientation haccel hturns
  refine ⟨(reports_shock_iff hdata).2 ⟨haccel, hstruck⟩,
    (reports_orientation_iff hdata).2 ⟨haccel, hturns⟩, ?_, ?_, ?_⟩
  · rw [hturned]
    exact ⟨hturns.2.2, hturns.1, hturns.2.1⟩
  · intro data' hdata'
    obtain rfl := hdata.unique hdata'
    have hrested := rested hr hn
    have hsince : (r.before n).stationarySince ≤ data.timestamp := hrested.since n le_rfl data hdata
    -- the subtraction of the timer does not wrap
    have hrest : 300 ≤ data.timestamp.toNat - (r.before n).stationarySince.toNat := by
      rw [← UInt32.toNat_sub_of_le _ _ hsince]
      exact UInt32.le_iff_toNat_le.1 hsettled.2
    refine ⟨hrest.trans (Nat.sub_le _ _), fun k hk earlier hearlier hlate hactive => ?_⟩
    have hquiet : earlier.timestamp ≤ (r.before n).stationarySince :=
      hrested.quiet hsettled.1 k hk earlier hearlier hactive
    have := UInt32.le_iff_toNat_le.1 hquiet
    omega
  · intro k hk hreports
    rcases latched hn k hk hreports with htrue | hcleared
    · exact absurd (htrue.symm.trans hclear) (by simp)
    · exact hcleared

/-- Five minutes at rest, and a sample that has both the shock and the other way up. -/
def struckAndTurned : MotionRun where
  config := .defaults
  inputs := [.sample (accel 0 0 0 1000 1000), .sample (accel 300 6000 0 0 6000)]

theorem tamper_has_cause_at_once :
    struckAndTurned.Reports motionEventShock 1 ∧
      struckAndTurned.Reports motionEventOrientation 1 := by
  have h := tamper_has_cause struckAndTurned (by decide) 1 ⟨_, rfl, by decide +kernel⟩
  exact ⟨h.1, h.2.1⟩

/-! ## A strike that ends in another way up -/

variable (r) in
/-- The tag has rested for five minutes before input `i`, is struck there, moves from then on, and
faces another way at input `j`. -/
structure Strike (i j : Nat) : Prop where
  le : i ≤ j
  settled : ∃ data, r.Sampled i data ∧ (r.before i).Settled data
  shock : r.Reports motionEventShock i
  moving : ∀ k, i ≤ k → k ≤ j → (r.before (k + 1)).state = .moving
  turned : r.Reports motionEventOrientation j

/-- A latched tamper stays latched as long as nothing clears it. -/
theorem tamper_mono (hclear : MotionInput.clearTamper ∉ r.inputs) {m n : Nat} (hmn : m ≤ n)
    (hn : n ≤ r.inputs.length) (h : (r.before m).tamper = true) : (r.before n).tamper = true := by
  induction hmn with
  | refl => exact h
  | @step n hmn ih =>
      have hget : r.inputs[n]? = some r.inputs[n] := List.getElem?_eq_getElem hn
      have hne : r.inputs[n] ≠ .clearTamper := fun heq => hclear (heq ▸ List.getElem_mem hn)
      exact (tamper_succ hget hne).2 (Or.inl (ih (Nat.le_of_succ_le hn)))

/-- Once the tag moves, no turn is taken for tamper. -/
theorem Strike.not_latched {i j : Nat} (h : r.Strike i j)
    (hclear : MotionInput.clearTamper ∉ r.inputs) (hbefore : ¬ (r.before i).tamper = true)
    (hturn : ¬ r.Reports motionEventOrientation i) {k : Nat} (hik : i ≤ k) (hkj : k ≤ j) :
    ¬ (r.before (k + 1)).tamper = true := by
  have hlt : ∀ k ≤ j, k < r.inputs.length := fun k hk => Nat.lt_of_le_of_lt hk h.turned.lt
  have hsucc : ∀ k ≤ j, (r.before (k + 1)).tamper = true ↔
      (r.before k).tamper = true ∨ r.Reports motionEventTamper k := by
    intro k hk
    have hlen := hlt k hk
    have hget : r.inputs[k]? = some r.inputs[k] := List.getElem?_eq_getElem hlen
    exact tamper_succ hget fun heq => hclear (heq ▸ List.getElem_mem hlen)
  induction hik with
  | refl =>
      rw [hsucc i h.le, not_or]
      refine ⟨hbefore, fun htamper => hturn ?_⟩
      obtain ⟨data, hdata, -⟩ := id htamper
      obtain ⟨haccel, hturns, -⟩ := (reports_tamper_iff hdata).1 htamper
      exact (reports_orientation_iff hdata).2 ⟨haccel, hturns⟩
  | @step k hik ih =>
      rw [hsucc (k + 1) hkj, not_or]
      refine ⟨ih (Nat.le_of_succ_le hkj), fun htamper => ?_⟩
      obtain ⟨data, hdata, -⟩ := id htamper
      obtain ⟨-, -, ⟨hsettled, -⟩, -⟩ := (reports_tamper_iff hdata).1 htamper
      exact absurd (hsettled.1.symm.trans (h.moving k hik (Nat.le_of_succ_le hkj))) nofun

/-- A strike is taken for tamper exactly when the very sample of the shock has the tag another way
up, or tamper was latched before. -/
theorem tamper_latched_iff (r : MotionRun) (hclear : MotionInput.clearTamper ∉ r.inputs)
    (i j : Nat) (h : r.Strike i j) :
    (r.before (j + 1)).tamper = true ↔
      (r.before i).tamper = true ∨ r.Reports motionEventOrientation i := by
  constructor
  · intro hlatched
    by_contra hnone
    rw [not_or] at hnone
    exact h.not_latched hclear hnone.1 hnone.2 h.le le_rfl hlatched
  · intro hcause
    have hlen : j + 1 ≤ r.inputs.length := h.turned.lt
    have hi : (r.before (i + 1)).tamper = true := by
      obtain ⟨data, hdata, hsettled⟩ := h.settled
      refine (tamper_succ hdata fun heq => hclear (heq ▸ List.mem_of_getElem? hdata)).2 ?_
      by_cases hbefore : (r.before i).tamper = true
      · exact Or.inl hbefore
      · obtain ⟨haccel, hturns⟩ := (reports_orientation_iff hdata).1 (hcause.resolve_left hbefore)
        obtain ⟨-, hstruck⟩ := (reports_shock_iff hdata).1 h.shock
        exact Or.inr ((reports_tamper_iff hdata).2
          ⟨haccel, hturns, ⟨hsettled, hstruck⟩, by simpa using hbefore⟩)
    exact tamper_mono hclear (Nat.succ_le_succ h.le) hlen hi

/-- Five minutes at rest, then a shock that leaves the tag as it lies, then a turn. -/
def struckThenTurned : MotionRun where
  config := .defaults
  inputs :=
    [.sample (accel 0 0 0 1000 1000), .sample (accel 300 0 0 6000 6000),
      .sample (accel 301 1300 0 0 1300)]

/-- The turn comes a second after the shock, and nothing is reported. -/
theorem tamper_missed :
    struckThenTurned.Chronological ∧ struckThenTurned.Strike 1 2 ∧
      (struckThenTurned.before 3).tamper = false := by
  refine ⟨by decide, ⟨by decide, ⟨_, rfl, ?_⟩, ⟨_, rfl, ?_⟩, ?_, ⟨_, rfl, ?_⟩⟩, ?_⟩
  · decide +kernel
  · decide +kernel
  · intro k hik hkj
    have hk : k = 1 ∨ k = 2 := by omega
    rcases hk with rfl | rfl <;> decide +kernel
  · decide +kernel
  · decide +kernel

theorem tamper_latched_at_once : (struckAndTurned.before 2).tamper = true := by
  refine (tamper_latched_iff struckAndTurned (by decide) 1 1
    ⟨le_rfl, ⟨_, rfl, ?_⟩, ⟨_, rfl, ?_⟩, ?_, ⟨_, rfl, ?_⟩⟩).2 (Or.inr ⟨_, rfl, ?_⟩)
  · decide +kernel
  · decide +kernel
  · intro k hik hkj
    obtain rfl := Nat.le_antisymm hkj hik
    decide +kernel
  · decide +kernel
  · decide +kernel

end MotionRun

end SmartTag
