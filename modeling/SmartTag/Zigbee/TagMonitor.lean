import SmartTag.Zigbee.Publish

/-!
# The Tag Monitor cluster

The part of the status a gateway must not miss goes through three functions: the change test, the
cluster layer's writes and the baseline's copy. Six fields are reported on any change, and the gas
resistance by its delta.

* `tag_monitor_current`: after every publish the attributes are those of the status just read, and
  the gas resistance is off by less than its delta.
-/

namespace SmartTag

/-- The fields of the status that are reported on any change. -/
@[ext]
structure Monitored where
  motionState : UInt8
  orientation : UInt8
  tamper : UInt8
  alarmFlags : UInt16
  shockCount : UInt32
  freeFallCount : UInt32
deriving DecidableEq, Repr

def TagStatus.monitored (status : TagStatus) : Monitored where
  motionState := status.motionState
  orientation := status.orientation
  tamper := status.tamper
  alarmFlags := status.alarmFlags
  shockCount := status.shockCount
  freeFallCount := status.freeFallCount

def TagMonitorAttrs.monitored (tag : TagMonitorAttrs) : Monitored where
  motionState := tag.motionState
  orientation := tag.orientation
  tamper := tag.tamperState
  alarmFlags := tag.alarmFlags
  shockCount := tag.shockCount
  freeFallCount := tag.freeFallCount

def Baseline.monitored (baseline : Baseline) : Monitored where
  motionState := baseline.motionState
  orientation := baseline.orientation
  tamper := baseline.tamper
  alarmFlags := baseline.alarmFlags
  shockCount := baseline.shockCount
  freeFallCount := baseline.freeFallCount

/-! ## The three functions -/

section

variable (data : SensorData) (status : TagStatus) (baseline : Baseline) (report : UInt32)

/-- The change test looks at all of them. -/
theorem statusChanged_iff : StatusChanged status baseline ↔ status.monitored ≠ baseline.monitored := by
  rw [Ne, Monitored.ext_iff]
  simp only [StatusChanged, TagStatus.monitored, Baseline.monitored]
  tauto

/-- A commit copies all of them. -/
theorem monitored_commit :
    (zigbeeReportingCommit data status baseline report).monitored =
      if Includes report .tagMonitor then status.monitored else baseline.monitored := by
  unfold zigbeeReportingCommit
  by_cases hzero : report = 0
  · rw [if_pos hzero, hzero, if_neg (not_includes_zero _)]
  · rw [if_neg hzero]
    by_cases hin : Includes report .tagMonitor
    · simp only [if_pos hin]
      split_ifs <;> rfl
    · simp only [if_neg hin]
      split_ifs <;> rfl

theorem gasResistance_commit :
    (zigbeeReportingCommit data status baseline report).gasResistance =
      if Includes report .tagMonitor ∧ data.valid &&& sensorValidGas ≠ 0 then data.gasResistanceOhm
      else baseline.gasResistance := by
  unfold zigbeeReportingCommit
  by_cases hzero : report = 0
  · rw [if_pos hzero, hzero, if_neg fun h => not_includes_zero _ h.1]
  · rw [if_neg hzero]
    simp only [apply_ite Baseline.gasResistance, ite_self]
    by_cases hin : Includes report .tagMonitor
    · simp [hin]
    · simp [hin]

variable (logRecordCount : UInt32) (config : TagConfig) (bootEpoch : UInt32) (tag : TagMonitorAttrs)

/-- An update writes all of them. -/
theorem monitored_updateTagMonitor :
    (updateTagMonitor data status logRecordCount config bootEpoch report tag).monitored =
      if Includes report .tagMonitor then status.monitored else tag.monitored := by
  unfold updateTagMonitor
  by_cases hin : Includes report .tagMonitor
  · rw [if_neg (not_not.2 hin), if_pos hin]
    rfl
  · rw [if_pos hin, if_neg hin]

theorem gasResistance_updateTagMonitor :
    (updateTagMonitor data status logRecordCount config bootEpoch report tag).gasResistance =
      if Includes report .tagMonitor ∧ data.valid &&& sensorValidGas ≠ 0 then data.gasResistanceOhm
      else tag.gasResistance := by
  unfold updateTagMonitor
  by_cases hin : Includes report .tagMonitor
  · rw [if_neg (not_not.2 hin)]
    simp [hin]
  · rw [if_pos hin, if_neg fun h => hin h.1]

end

/-- The gas test on numbers. -/
theorem not_gasMoved_iff (data : SensorData) (config : TagConfig) (baseline : Baseline) :
    ¬ GasMoved data config baseline ↔
      ((data.gasResistanceOhm.toNat : Int) - baseline.gasResistance.toNat).natAbs <
        config.reportGasDeltaOhm.toNat := by
  simp only [GasMoved]
  split_ifs with hlt
  · rw [UInt32.le_iff_toNat_le, UInt32.toNat_sub_of_le _ _ (UInt32.le_of_lt hlt)]
    rw [UInt32.lt_iff_toNat_lt] at hlt
    omega
  · have hle := UInt32.not_lt.1 hlt
    rw [UInt32.le_iff_toNat_le, UInt32.toNat_sub_of_le _ _ hle]
    rw [UInt32.le_iff_toNat_le] at hle
    omega

/-! ## A publish -/

section

variable (snap : Snapshot)

/-- The publish writes the gas resistance. -/
def Snapshot.WritesGas (z : Publisher) : Prop :=
  Includes (snap.report z) .tagMonitor ∧ snap.data.valid &&& sensorValidGas ≠ 0

instance (z : Publisher) : Decidable (snap.WritesGas z) := inferInstanceAs (Decidable (_ ∧ _))

variable {z : Publisher} (h : z.joined = true)

include h

theorem tag_publishAttributes :
    (publishAttributes snap z).ctx.tag =
      updateTagMonitor snap.data snap.status snap.logRecordCount snap.config.config snap.bootEpoch
        (snap.report z) z.ctx.tag := by
  unfold publishAttributes
  rw [if_neg (by simp [h])]
  by_cases hzero : snap.report z = 0
  · rw [hzero, updateTagMonitor, if_pos (not_includes_zero _)]
    rfl
  · dsimp only
    rw [if_neg hzero]
    rfl

theorem monitored_publishAttributes :
    (publishAttributes snap z).ctx.tag.monitored =
      if Includes (snap.report z) .tagMonitor then snap.status.monitored
      else z.ctx.tag.monitored := by
  rw [tag_publishAttributes snap h, monitored_updateTagMonitor]

theorem gasResistance_publishAttributes :
    (publishAttributes snap z).ctx.tag.gasResistance =
      if snap.WritesGas z then snap.data.gasResistanceOhm else z.ctx.tag.gasResistance := by
  rw [tag_publishAttributes snap h, gasResistance_updateTagMonitor]
  rfl

theorem monitored_baseline_publishAttributes :
    (publishAttributes snap z).baseline.monitored =
      if Includes (snap.report z) .tagMonitor then snap.status.monitored
      else z.baseline.monitored := by
  rw [baseline_publishAttributes snap h, monitored_commit]

theorem gasResistance_baseline_publishAttributes :
    (publishAttributes snap z).baseline.gasResistance =
      if snap.WritesGas z then snap.data.gasResistanceOhm else z.baseline.gasResistance := by
  rw [baseline_publishAttributes snap h, gasResistance_commit]
  rfl

end

/-! ## Runs -/

/-- A publish, or a `zigbee_reporting_force`. -/
inductive MonitorEvent where
  | publish (snap : Snapshot)
  | force

/-- A tag that has joined, and whether it has ever written its gas resistance. -/
structure TagMonitor where
  publisher : Publisher
  gasWritten : Bool

namespace TagMonitor

/-- After `zigbee_reporting_init`, with any attributes. -/
def start (ctx : DeviceCtx) : TagMonitor where
  publisher :=
    { joined := true
      baseline := zigbeeReportingInit
      ctx := ctx }
  gasWritten := false

def step (m : TagMonitor) : MonitorEvent → TagMonitor
  | .publish snap =>
    { publisher := publishAttributes snap m.publisher
      gasWritten := m.gasWritten || decide (snap.WritesGas m.publisher) }
  | .force =>
    { m with publisher :=
      { m.publisher with baseline := zigbeeReportingForce m.publisher.baseline } }

/-- After a publish, the attributes are those of the status it read. A gas reading that is compared
is off from the attribute by less than the delta, or below the delta if the attribute was never
written. -/
def Current (m : TagMonitor) : MonitorEvent → Prop
  | .publish snap =>
    let m' := m.step (.publish snap)
    let delta := snap.config.config.reportGasDeltaOhm
    m'.publisher.ctx.tag.monitored = snap.status.monitored ∧
      (snap.data.valid &&& sensorValidGas ≠ 0 → delta ≠ 0 →
        (m'.gasWritten = true ∨ snap.data.gasResistanceOhm < delta) ∧
        (m'.gasWritten = true →
          ((snap.data.gasResistanceOhm.toNat : Int) -
            m'.publisher.ctx.tag.gasResistance.toNat).natAbs < delta.toNat))
  | .force => True

/-- The baseline has what was last written. -/
structure Inv (m : TagMonitor) : Prop where
  joined : m.publisher.joined = true
  monitored : m.publisher.baseline.valid = true →
    m.publisher.ctx.tag.monitored = m.publisher.baseline.monitored
  gas : m.publisher.baseline.gasResistance =
    if m.gasWritten then m.publisher.ctx.tag.gasResistance else 0

theorem inv_start (ctx : DeviceCtx) : Inv (start ctx) where
  joined := rfl
  monitored := nofun
  gas := rfl

section

variable {m : TagMonitor} (h : Inv m) (snap : Snapshot)

include h

/-- A publish that leaves the cluster out finds the status in the baseline, and the gas resistance
close to it. -/
theorem Inv.quiet (hout : ¬ Includes (snap.report m.publisher) .tagMonitor) :
    m.publisher.ctx.tag.monitored = snap.status.monitored ∧
      (snap.data.valid &&& sensorValidGas ≠ 0 → snap.config.config.reportGasDeltaOhm ≠ 0 →
        ¬ GasMoved snap.data snap.config.config m.publisher.baseline) := by
  have hincludes : Includes (snap.report m.publisher) .tagMonitor ↔ _ :=
    includes_evaluate snap.data snap.status snap.config.config m.publisher.baseline .tagMonitor
  rw [hincludes, not_or] at hout
  obtain ⟨hall, hmoved⟩ := hout
  obtain ⟨hgas, hstatus⟩ := not_or.1 hmoved
  have hvalid : m.publisher.baseline.valid = true :=
    Bool.eq_true_of_not_eq_false fun hfalse => hall (Or.inl hfalse)
  rw [statusChanged_iff, not_not] at hstatus
  exact ⟨(h.monitored hvalid).trans hstatus.symm, fun hreal hdelta hmoved =>
    hgas ⟨⟨hreal, hdelta⟩, hmoved⟩⟩

theorem Inv.publish : Inv (m.step (.publish snap)) := by
  constructor
  · exact (joined_publishAttributes snap).trans h.joined
  · intro _
    rw [step, monitored_publishAttributes snap h.joined,
      monitored_baseline_publishAttributes snap h.joined]
    split_ifs with hin
    · rfl
    · have hincludes : Includes (snap.report m.publisher) .tagMonitor ↔ _ :=
        includes_evaluate snap.data snap.status snap.config.config m.publisher.baseline .tagMonitor
      rw [hincludes, not_or] at hin
      exact h.monitored (Bool.eq_true_of_not_eq_false fun hfalse => hin.1 (Or.inl hfalse))
  · rw [step, gasResistance_publishAttributes snap h.joined,
      gasResistance_baseline_publishAttributes snap h.joined]
    by_cases hwrites : snap.WritesGas m.publisher
    · simp [hwrites]
    · simpa [hwrites] using h.gas

theorem Inv.current : m.Current (.publish snap) := by
  have hshown := monitored_publishAttributes snap h.joined
  have hgas := gasResistance_publishAttributes snap h.joined
  by_cases hin : Includes (snap.report m.publisher) .tagMonitor
  · rw [if_pos hin] at hshown
    refine ⟨hshown, fun hreal hdelta => ?_⟩
    have hwrites : snap.WritesGas m.publisher := ⟨hin, hreal⟩
    rw [if_pos hwrites] at hgas
    rw [step, hgas]
    refine ⟨Or.inl (by simp [hwrites]), fun _ => ?_⟩
    rw [sub_self]
    exact Nat.pos_of_ne_zero fun hzero => hdelta (UInt32.toNat_inj.1 hzero)
  · obtain ⟨hstatus, hquiet⟩ := h.quiet snap hin
    have hwrites : ¬ snap.WritesGas m.publisher := fun hwrites => hin hwrites.1
    rw [if_neg hin] at hshown
    rw [if_neg hwrites] at hgas
    refine ⟨hshown.trans hstatus, fun hreal hdelta => ?_⟩
    have hclose := (not_gasMoved_iff _ _ _).1 (hquiet hreal hdelta)
    rw [h.gas] at hclose
    rw [step, hgas]
    simp only [hwrites, decide_false, Bool.or_false]
    cases hwritten : m.gasWritten with
    | true =>
      rw [hwritten, if_pos rfl] at hclose
      exact ⟨Or.inl rfl, fun _ => hclose⟩
    | false =>
      rw [hwritten, if_neg (by decide)] at hclose
      refine ⟨Or.inr ?_, nofun⟩
      rw [UInt32.lt_iff_toNat_lt]
      simpa using hclose

end

theorem Inv.step {m : TagMonitor} (h : Inv m) (e : MonitorEvent) : Inv (m.step e) := by
  cases e with
  | publish snap => exact h.publish snap
  | force =>
    exact {
      joined := h.joined
      monitored := nofun
      gas := h.gas }

end TagMonitor

/-- Over every run of publishes and forced reports of a tag that has joined, from
`zigbee_reporting_init`, with samples, statuses and accepted configurations that may change at each
step: after each publish the attributes are those of the status just read, and the gas resistance is
off by less than its delta. -/
theorem tag_monitor_current (ctx : DeviceCtx) (events : List MonitorEvent) :
    Run.Along TagMonitor.step TagMonitor.Current (TagMonitor.start ctx) events := by
  have halong : Run.Along TagMonitor.step (fun _ _ => True) (TagMonitor.start ctx) events :=
    Run.along_of_forall fun _ _ => trivial
  refine Run.along_imp (I := TagMonitor.Inv) (fun m e h _ => ⟨h.step e, ?_⟩)
    (TagMonitor.inv_start ctx) halong
  cases e with
  | publish snap => exact h.current snap
  | force => trivial

end SmartTag
