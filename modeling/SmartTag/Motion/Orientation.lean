import SmartTag.Motion.ShockDetector

/-!
# Dominant axis

Which axis the classifier of `src/motion/motion_classifier.c` chooses, and what the sign of that
axis makes of it. The choice looks at absolute values only, so turning the tag over keeps it.

* `motionClassifierOrientation_dominant`: an axis of greatest absolute value, up or down by its
  sign, and the other way once the tag is turned over.
-/

namespace SmartTag

namespace Axis

def up : Axis → Orientation
  | .x => .xUp
  | .y => .yUp
  | .z => .zUp

def down : Axis → Orientation
  | .x => .xDown
  | .y => .yDown
  | .z => .zDown

/-- The orientation that an axis stands for, by the sign of its reading. -/
def facing (value : Int16) (axis : Axis) : Orientation := if 0 < value then axis.up else axis.down

theorem facing_ne_unknown (value : Int16) (axis : Axis) : axis.facing value ≠ .unknown := by
  unfold facing
  split_ifs <;> cases axis <;> decide

@[simp] theorem up_inj {a b : Axis} : a.up = b.up ↔ a = b := by
  cases a <;> cases b <;> decide

@[simp] theorem down_inj {a b : Axis} : a.down = b.down ↔ a = b := by
  cases a <;> cases b <;> decide

@[simp] theorem up_ne_down (a b : Axis) : a.up ≠ b.down := by
  cases a <;> cases b <;> decide

@[simp] theorem down_ne_up (a b : Axis) : a.down ≠ b.up := (up_ne_down b a).symm

@[simp] theorem unknown_ne_up (axis : Axis) : Orientation.unknown ≠ axis.up := by
  cases axis <;> decide

@[simp] theorem unknown_ne_down (axis : Axis) : Orientation.unknown ≠ axis.down := by
  cases axis <;> decide

theorem facing_eq_up_iff {value : Int16} {a b : Axis} :
    a.facing value = b.up ↔ a = b ∧ 0 < value := by
  unfold facing
  split_ifs <;> simp_all

theorem facing_eq_down_iff {value : Int16} {a b : Axis} :
    a.facing value = b.down ↔ a = b ∧ ¬ 0 < value := by
  unfold facing
  split_ifs <;> simp_all

end Axis

/-! ## The choice -/

/-- The axis that the classifier's three guards choose, from the absolute values. -/
def dominantAxis (absMg : Axis → Nat) : Option Axis :=
  if absMg .x ≤ absMg .z ∧ absMg .y ≤ absMg .z ∧ orientationMinMg < absMg .z then some .z
  else if absMg .x ≤ absMg .y ∧ absMg .z ≤ absMg .y ∧ orientationMinMg < absMg .y then some .y
  else if orientationMinMg < absMg .x then some .x
  else none

theorem dominantAxis_eq_none_iff (absMg : Axis → Nat) :
    dominantAxis absMg = none ↔ ∀ axis, absMg axis ≤ orientationMinMg := by
  rw [Axis.forall_iff]
  unfold dominantAxis
  split_ifs <;> simp <;> omega

/-- The last guard tests one axis only: the earlier guards have failed, and so neither of the
other two axes can exceed it. -/
theorem le_of_dominantAxis {absMg : Axis → Nat} {axis : Axis} (h : dominantAxis absMg = some axis) :
    orientationMinMg < absMg axis ∧ ∀ other, absMg other ≤ absMg axis := by
  rw [Axis.forall_iff]
  unfold dominantAxis at h
  split_ifs at h with hz hy hx
  all_goals
    cases h
    omega

theorem Axis.reading_ne_zero {data : SensorData} {axis : Axis}
    (h : orientationMinMg < Axis.absMg data axis) : axis.reading data ≠ 0 := by
  intro hzero
  rw [Axis.absMg, hzero] at h
  exact absurd h (by decide)

theorem Axis.reading_pos_or_neg {data : SensorData} {axis : Axis}
    (h : orientationMinMg < Axis.absMg data axis) :
    0 < axis.reading data ∨ axis.reading data < 0 := by
  have hne : (axis.reading data).toInt ≠ 0 := fun hzero =>
    Axis.reading_ne_zero h (Int16.toInt_inj.mp hzero)
  rw [Int16.lt_iff_toInt_lt, Int16.lt_iff_toInt_lt, Int16.toInt_zero]
  omega

/-- **The classifier is the choice of an axis and the sign of its reading.** -/
theorem motionClassifierOrientation_eq (data : SensorData) :
    motionClassifierOrientation data =
      match dominantAxis (Axis.absMg data) with
      | none => .unknown
      | some axis => axis.facing (axis.reading data) := by
  unfold motionClassifierOrientation dominantAxis Axis.absMg Axis.reading
  dsimp only
  split_ifs <;> simp_all [Axis.facing, Axis.up, Axis.down]

theorem motionClassifierOrientation_unknown_iff (data : SensorData) :
    motionClassifierOrientation data = .unknown ↔
      ∀ axis, Axis.absMg data axis ≤ orientationMinMg := by
  rw [motionClassifierOrientation_eq, ← dominantAxis_eq_none_iff]
  cases h : dominantAxis (Axis.absMg data) with
  | none => simp
  | some axis => simp [Axis.facing_ne_unknown]

/-! ## Turning the tag over -/

/-- The sample of the same tag upside down. -/
def SensorData.turned (data : SensorData) : SensorData :=
  { data with
    accelXMg := -data.accelXMg
    accelYMg := -data.accelYMg
    accelZMg := -data.accelZMg }

theorem Axis.reading_turned (data : SensorData) (axis : Axis) :
    axis.reading data.turned = -axis.reading data := by
  cases axis <;> rfl

theorem toInt_neg_of_ne {value : Int16} (h : value ≠ -32768) : (-value).toInt = -value.toInt := by
  refine BitVec.toInt_neg_of_ne_intMin ?_
  intro hmin
  exact h (Int16.toBitVec_inj.mp hmin)

theorem Axis.absMg_turned {data : SensorData} (h : ∀ axis : Axis, axis.reading data ≠ -32768) :
    Axis.absMg data.turned = Axis.absMg data := by
  funext axis
  rw [Axis.absMg, Axis.absMg, Axis.reading_turned, toInt_neg_of_ne (h axis), Int.natAbs_neg]

theorem neg_pos_iff {value : Int16} (hmin : value ≠ -32768) (hzero : value ≠ 0) :
    0 < -value ↔ ¬ 0 < value := by
  have hne : value.toInt ≠ 0 := fun h => hzero (Int16.toInt_inj.mp h)
  rw [Int16.lt_iff_toInt_lt, Int16.lt_iff_toInt_lt, toInt_neg_of_ne hmin, Int16.toInt_zero]
  omega

/-- What the classifier answers: unknown exactly when no axis exceeds half a g, and otherwise the
orientation of an axis of greatest absolute value. -/
structure DominantOrientation (data : SensorData) (orientation : Orientation) : Prop where
  unknown : orientation = .unknown ↔ ∀ axis, Axis.absMg data axis ≤ orientationMinMg
  dominant :
    orientation ≠ .unknown →
      ∃ axis : Axis, (∀ other, Axis.absMg data other ≤ Axis.absMg data axis) ∧
        (0 < axis.reading data ∧ orientation = axis.up ∨
          axis.reading data < 0 ∧ orientation = axis.down)

theorem dominantOrientation (data : SensorData) :
    DominantOrientation data (motionClassifierOrientation data) where
  unknown := motionClassifierOrientation_unknown_iff data
  dominant := by
    intro hne
    rw [motionClassifierOrientation_eq] at hne ⊢
    cases h : dominantAxis (Axis.absMg data) with
    | none => simp [h] at hne
    | some axis =>
      obtain ⟨hfloor, hle⟩ := le_of_dominantAxis h
      refine ⟨axis, hle, ?_⟩
      rcases Axis.reading_pos_or_neg hfloor with hpos | hneg
      · exact .inl ⟨hpos, if_pos hpos⟩
      · exact .inr ⟨hneg, if_neg (by simpa using Int16.le_of_lt hneg)⟩

/-- **The orientation is that of the dominant axis, and turning the tag over turns it over.** -/
theorem motionClassifierOrientation_dominant (data : SensorData) :
    DominantOrientation data (motionClassifierOrientation data) ∧
      ((∀ axis : Axis, axis.reading data ≠ -32768) →
        ∀ axis : Axis,
          (motionClassifierOrientation data = axis.up ↔
            motionClassifierOrientation data.turned = axis.down) ∧
          (motionClassifierOrientation data = axis.down ↔
            motionClassifierOrientation data.turned = axis.up)) := by
  refine ⟨dominantOrientation data, ?_⟩
  intro hmin axis
  rw [motionClassifierOrientation_eq, motionClassifierOrientation_eq, Axis.absMg_turned hmin]
  cases h : dominantAxis (Axis.absMg data) with
  | none => simp
  | some chosen =>
    have hne := Axis.reading_ne_zero (le_of_dominantAxis h).1
    simp only [Axis.reading_turned, Axis.facing_eq_up_iff, Axis.facing_eq_down_iff,
      neg_pos_iff (hmin chosen) hne, not_not, and_self]

end SmartTag
