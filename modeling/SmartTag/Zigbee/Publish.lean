import SmartTag.Lib.Run
import SmartTag.Zigbee.Clusters

/-!
# Publishing

What a gateway reads while the tag is joined, following `publish_attributes` of
`src/zigbee/zigbee_manager.c`: the sample is evaluated, the groups in the mask are written, and the
baseline moves to what the mask says was sent.

The cluster layer writes a reading only if it is valid, but the baseline takes it in any case. When
everything is sent and a sensor has dropped out, the two disagree.

* `shows_written`: the attributes show the readings last written.
* `gateway_value_fresh`: a reading that is valid whenever everything is sent is never stale by its
  delta.
-/

namespace SmartTag

/-- What `publish_attributes` reads. -/
structure Snapshot where
  data : SensorData
  status : TagStatus
  config : AcceptedConfig
  logRecordCount : UInt32
  bootEpoch : UInt32

/-- The statics `publish_attributes` works on. -/
structure Publisher where
  joined : Bool
  baseline : Baseline
  ctx : DeviceCtx

/-- `zigbee_reporting_evaluate` on what is read. -/
def Snapshot.report (snap : Snapshot) (z : Publisher) : UInt32 :=
  zigbeeReportingEvaluate snap.data snap.status snap.config.config z.baseline

def publishAttributes (snap : Snapshot) (z : Publisher) : Publisher :=
  if ¬ z.joined then z
  else
    let report := snap.report z
    if report = 0 then z
    else
      { z with
        ctx := zigbeeClustersUpdate snap.data snap.status snap.logRecordCount snap.config.config
          snap.bootEpoch report z.ctx
        baseline := zigbeeReportingCommit snap.data snap.status z.baseline report }

/-! ## One publish -/

section

variable (snap : Snapshot) {z : Publisher}

theorem joined_publishAttributes : (publishAttributes snap z).joined = z.joined := by
  unfold publishAttributes
  dsimp only
  split_ifs <;> rfl

/-- The baseline after a publish: a commit of nothing leaves it alone. -/
theorem baseline_publishAttributes (h : z.joined = true) :
    (publishAttributes snap z).baseline =
      zigbeeReportingCommit snap.data snap.status z.baseline (snap.report z) := by
  unfold publishAttributes
  rw [if_neg (by simp [h])]
  by_cases hzero : snap.report z = 0
  · rw [hzero, zigbeeReportingCommit, if_pos rfl]
    rfl
  · dsimp only
    rw [if_neg hzero]

/-- The publish writes the attribute. -/
def Snapshot.Writes (z : Publisher) (a : Attribute) : Prop :=
  z.joined = true ∧ a.Written snap.data (snap.report z)

instance (a : Attribute) : Decidable (snap.Writes z a) := inferInstanceAs (Decidable (_ ∧ _))

variable {snap} {a : Attribute}

theorem shows_publishAttributes (h : snap.Writes z a) :
    a.Shows (publishAttributes snap z).ctx (a.reading snap.data) := by
  have hsome : snap.report z ≠ 0 := by
    intro hzero
    have hnone := h.2.1
    rw [hzero] at hnone
    exact not_includes_zero _ hnone
  unfold publishAttributes
  dsimp only
  rw [if_neg (by simp [h.1]), if_neg hsome]
  exact shows_update _ _ _ _ _ h.2

theorem shows_publishAttributes_kept (h : ¬ snap.Writes z a) (reading : Int) :
    a.Shows (publishAttributes snap z).ctx reading ↔ a.Shows z.ctx reading := by
  unfold publishAttributes
  dsimp only
  split_ifs with hjoined hzero
  · exact Iff.rfl
  · exact shows_update_kept snap.status snap.logRecordCount snap.config.config snap.bootEpoch z.ctx
      (fun hwritten => h ⟨hjoined, hwritten⟩) reading
  · exact Iff.rfl

end

/-! ## Runs -/

/-- A publish, under report deltas that are not zero, or a `zigbee_reporting_force`. -/
inductive PublishEvent where
  | publish (snap : Snapshot) (deltas : ∀ a : Attribute, 0 < a.delta snap.config.config)
  | force

/-- The tag with the readings it last wrote. -/
structure Gateway where
  publisher : Publisher
  written : Attribute → Option Int

namespace Gateway

/-- A tag that has joined, before its first report. -/
def start (config : TagConfig) : Gateway where
  publisher :=
    { joined := true
      baseline := zigbeeReportingInit
      ctx := zigbeeClustersInit config }
  written := fun _ => none

def step (g : Gateway) : PublishEvent → Gateway
  | .publish snap _ =>
    { publisher := publishAttributes snap g.publisher
      written := fun a =>
        if snap.Writes g.publisher a then some (a.reading snap.data) else g.written a }
  | .force =>
    { g with publisher :=
      { g.publisher with baseline := zigbeeReportingForce g.publisher.baseline } }

theorem shows_step {g : Gateway} (h : ∀ a reading, g.written a = some reading →
    a.Shows g.publisher.ctx reading) (e : PublishEvent) (a : Attribute) (reading : Int)
    (hwritten : (g.step e).written a = some reading) :
    a.Shows (g.step e).publisher.ctx reading := by
  cases e with
  | force => exact h a reading hwritten
  | publish snap deltas =>
      rw [step] at hwritten
      dsimp only at hwritten
      split_ifs at hwritten with hwrites
      · obtain rfl := Option.some.inj hwritten
        exact shows_publishAttributes hwrites
      · exact (shows_publishAttributes_kept hwrites reading).2 (h a reading hwritten)

end Gateway

/-- The attributes show the readings last written. -/
theorem shows_written (config : TagConfig) (events : List PublishEvent) (a : Attribute)
    {reading : Int} :
    let g := Run.final Gateway.step (Gateway.start config) events
    g.written a = some reading → a.Shows g.publisher.ctx reading := by
  have hstart : ∀ a reading, (Gateway.start config).written a = some reading →
      a.Shows (Gateway.start config).publisher.ctx reading :=
    fun _ reading h => absurd h (Option.some_ne_none reading).symm
  exact Run.final_preserves (I := fun g : Gateway => ∀ a reading, g.written a = some reading →
    a.Shows g.publisher.ctx reading) (fun _ e h => Gateway.shows_step h e) hstart events a reading

/-! ## Staleness -/

namespace Gateway

/-- After a publish, the reading last written is closer to a valid one than the delta. -/
def Fresh (a : Attribute) (g : Gateway) : PublishEvent → Prop
  | .publish snap deltas =>
    snap.data.valid &&& a.validBit ≠ 0 →
      ∃ reading, (g.step (.publish snap deltas)).written a = some reading ∧
        (a.reading snap.data - reading).natAbs < a.delta snap.config.config
  | .force => True

/-- When everything is sent, the reading is valid. Else, if it is valid, the comparison with the
baseline does not overflow. -/
def Covered (a : Attribute) (g : Gateway) : PublishEvent → Prop
  | .publish snap _ =>
    if SendsAll snap.data snap.config.config g.publisher.baseline then
      snap.data.valid &&& a.validBit ≠ 0
    else snap.data.valid &&& a.validBit ≠ 0 → a.Fits snap.data g.publisher.baseline
  | .force => True

/-- The baseline has what was last written. -/
structure Tracks (a : Attribute) (g : Gateway) : Prop where
  joined : g.publisher.joined = true
  held : g.publisher.baseline.valid = true → g.written a = some (a.held g.publisher.baseline)

theorem tracks_start (a : Attribute) (config : TagConfig) : (start config).Tracks a := by
  refine ⟨rfl, ?_⟩
  intro h
  exact absurd h Bool.false_ne_true

theorem tracks_step {a : Attribute} {g : Gateway} (h : g.Tracks a) {e : PublishEvent}
    (hcovered : g.Covered a e) : (g.step e).Tracks a ∧ g.Fresh a e := by
  cases e with
  | force =>
      refine ⟨⟨h.joined, ?_⟩, trivial⟩
      intro hvalid
      exact absurd hvalid Bool.false_ne_true
  | publish snap deltas =>
      let g' := g.step (.publish snap deltas)
      have hjoined : g'.publisher.joined = true :=
        (joined_publishAttributes snap).trans h.joined
      have hheld : a.held g'.publisher.baseline =
          if Includes (snap.report g.publisher) a.group then a.reading snap.data
          else a.held g.publisher.baseline :=
        (congrArg a.held (baseline_publishAttributes snap h.joined)).trans
          (Attribute.held_commit _ _ _ _ a)
      have hincludes : Includes (snap.report g.publisher) a.group ↔ _ :=
        includes_evaluate snap.data snap.status snap.config.config g.publisher.baseline a.group
      by_cases hin : Includes (snap.report g.publisher) a.group
      · -- In the mask: the reading is valid, so it is written.
        have hvalid : snap.data.valid &&& a.validBit ≠ 0 := by
          by_cases hall : SendsAll snap.data snap.config.config g.publisher.baseline
          · rw [Covered, if_pos hall] at hcovered
            exact hcovered
          · exact Attribute.valid_of_moved ((hincludes.1 hin).resolve_left hall)
        have hnow : g'.written a = some (a.reading snap.data) :=
          if_pos ⟨h.joined, hin, hvalid⟩
        rw [if_pos hin] at hheld
        refine ⟨⟨hjoined, fun _ => ?_⟩, fun _ => ⟨_, hnow, ?_⟩⟩
        · rw [hheld]
          exact hnow
        · rw [sub_self]
          exact deltas a
      · -- Not in the mask: the baseline was valid, and the reading is close to it.
        rw [hincludes, not_or] at hin
        obtain ⟨hall, hmoved⟩ := hin
        have hbaseline : g.publisher.baseline.valid = true :=
          Bool.eq_true_of_not_eq_false fun hfalse => hall (Or.inl hfalse)
        have hout : ¬ Includes (snap.report g.publisher) a.group := by
          rw [hincludes, not_or]
          exact ⟨hall, hmoved⟩
        have hkept : g'.written a = g.written a := if_neg fun hwrites => hout hwrites.2.1
        rw [if_neg hout] at hheld
        refine ⟨⟨hjoined, fun _ => ?_⟩, fun hvalid => ⟨_, hkept.trans (h.held hbaseline), ?_⟩⟩
        · rw [hheld]
          exact hkept.trans (h.held hbaseline)
        · rw [Covered, if_neg hall] at hcovered
          rw [Attribute.moved_group (hcovered hvalid), not_and] at hmoved
          exact Nat.lt_of_not_le (hmoved hvalid)

end Gateway

/-- Over every run of publishes and forced reports, with samples, statuses and accepted
configurations that may change at each step: if, whenever everything is sent, the reading of an
attribute is valid, then the reading last written is never off by the delta. -/
theorem gateway_value_fresh (config : TagConfig) (a : Attribute) {events : List PublishEvent}
    (h : Run.Along Gateway.step (Gateway.Covered a) (Gateway.start config) events) :
    Run.Along Gateway.step (Gateway.Fresh a) (Gateway.start config) events :=
  Run.along_imp (I := Gateway.Tracks a)
    (fun _ _ htracks hcovered => Gateway.tracks_step htracks hcovered)
    (Gateway.tracks_start a config) h

instance (a : Attribute) (g : Gateway) (e : PublishEvent) : Decidable (g.Covered a e) := by
  cases e <;> unfold Gateway.Covered <;> infer_instance

theorem delta_defaults_pos (a : Attribute) : 0 < a.delta TagConfig.defaults := by
  cases a <;> decide

/-- A publish under the defaults of a sample with nothing but a temperature. -/
def temperatureAt (timestamp : UInt32) (valid : UInt8) (temperature : Int16) : PublishEvent :=
  .publish
    { data := { AppState.atReset.lastSample with
        timestamp := timestamp, valid := valid, temperatureCX100 := temperature }
      status := AppState.atReset.status
      config := .defaults
      logRecordCount := 0
      bootEpoch := 0 }
    delta_defaults_pos

/-- The sensor drops out between two heartbeats. -/
theorem gateway_value_fresh_dropout :
    Run.Along Gateway.step (Gateway.Fresh .temperature) (Gateway.start TagConfig.defaults)
      [temperatureAt 0 sensorValidTempRh 2100, temperatureAt 60 0 0,
        temperatureAt 120 sensorValidTempRh 2200, temperatureAt 1920 sensorValidTempRh 2190] :=
  gateway_value_fresh TagConfig.defaults .temperature (by decide +kernel)

/-- The sensor drops out at a heartbeat: a gateway that was told 21 degrees is not told of 0.3. -/
theorem gateway_value_stale :
    ¬ Run.Along Gateway.step (Gateway.Fresh .temperature) (Gateway.start TagConfig.defaults)
      [temperatureAt 0 sensorValidTempRh 2100, temperatureAt 1800 0 0,
        temperatureAt 1860 sensorValidTempRh 30] := by
  intro h
  obtain ⟨-, -, hfresh, -⟩ := h
  obtain ⟨reading, hwritten, hclose⟩ := hfresh (by decide)
  have hlast : reading = 2100 := by
    apply Option.some.inj
    rw [← hwritten]
    decide +kernel
  subst hlast
  exact absurd hclose (by decide)

end SmartTag
