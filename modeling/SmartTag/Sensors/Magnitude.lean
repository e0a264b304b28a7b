import Mathlib.Logic.Function.Iterate
import SmartTag.App.Types
import SmartTag.Lib.DigitSqrt

/-!
# Acceleration magnitude

The integer square root of `src/sensors/sensor_manager.c` and the function that stores the three
axes with their magnitude. The loop is the square root by digits: `root` is held doubled, `rest`
is what the root leaves of the digits shifted out of `value` so far.

* `toNat_isqrt32`: the root is exact, and no step of the loop leaves 32 bits.
* `sensorBoardApplyAccel_exact`: the stored magnitude is that of the three axes.
-/

namespace SmartTag

/-! ## The square root -/

/-- The variables of the loop of `isqrt32`. -/
structure IsqrtState where
  rest : UInt32
  root : UInt32
  value : UInt32
deriving DecidableEq, Repr

namespace IsqrtState

/-- What the loop starts from. -/
def start (value : UInt32) : IsqrtState where
  rest := 0
  root := 0
  value := value

/-- The body of the loop. -/
def next (s : IsqrtState) : IsqrtState :=
  let root := s.root <<< 1
  let rest := (s.rest <<< 2) ||| (s.value >>> 30)
  let value := s.value <<< 2
  if root < rest then
    { rest := rest - (root ||| 1)
      root := root + 2
      value := value }
  else
    { rest := rest
      root := root
      value := value }

end IsqrtState

def isqrt32 (value : UInt32) : UInt32 :=
  (IsqrtState.next^[16] (IsqrtState.start value)).root >>> 1

namespace IsqrtState

/-- No operation on `root` or `rest` in the body of the loop leaves 32 bits: both shifts and the
addition give the number meant, and the subtraction takes no more than there is. -/
structure NoWrap (s : IsqrtState) : Prop where
  root : (s.root <<< 1).toNat = 2 * s.root.toNat
  rest :
    ((s.rest <<< 2) ||| (s.value >>> 30)).toNat = 4 * s.rest.toNat + (s.value >>> 30).toNat
  sub :
    s.root <<< 1 < (s.rest <<< 2) ||| (s.value >>> 30) →
      (s.root <<< 1) ||| (1 : UInt32) ≤ (s.rest <<< 2) ||| (s.value >>> 30)
  add :
    s.root <<< 1 < (s.rest <<< 2) ||| (s.value >>> 30) →
      ((s.root <<< 1) + 2).toNat = (s.root <<< 1).toNat + 2

/-- After `i` steps: `value` has its digits shifted out, and `root` and `rest` are those of the
number they make up. -/
structure Loop (radicand : UInt32) (i : Nat) (s : IsqrtState) : Prop where
  value : s.value.toNat = radicand.toNat * 4 ^ i % 2 ^ 32
  digits : DigitSqrt.Represents (radicand.toNat / 4 ^ (16 - i)) ⟨s.root.toNat, s.rest.toNat⟩

variable {s : IsqrtState} {radicand : UInt32} {i : Nat}

theorem loop_start (radicand : UInt32) : Loop radicand 0 (start radicand) where
  value := by
    rw [Nat.pow_zero, Nat.mul_one, Nat.mod_eq_of_lt radicand.toNat_lt]
    rfl
  digits := by
    rw [Nat.div_eq_of_lt (by exact radicand.toNat_lt)]
    exact DigitSqrt.represents_zero

theorem toNat_digit (s : IsqrtState) : (s.value >>> 30).toNat = s.value.toNat / 2 ^ 30 := by
  rw [UInt32.toNat_shiftRight]
  exact Nat.shiftRight_eq_div_pow _ _

theorem digit_lt (s : IsqrtState) : (s.value >>> 30).toNat < 4 := by
  have hlt := s.value.toNat_lt
  rw [toNat_digit]
  omega

/-- The top digit of what is left is the next digit of the number. -/
theorem Loop.digit (h : Loop radicand i s) (hi : i < 16) :
    radicand.toNat / 4 ^ (16 - (i + 1)) =
      4 * (radicand.toNat / 4 ^ (16 - i)) + (s.value >>> 30).toNat := by
  obtain ⟨m, hm⟩ : ∃ m, 15 = i + m := ⟨15 - i, by omega⟩
  have hsplit : (2 : Nat) ^ 30 = 4 ^ i * 4 ^ m := by
    rw [← Nat.pow_add, ← hm]
    decide
  have hdigit : (s.value >>> 30).toNat = radicand.toNat / 4 ^ m % 4 := by
    rw [toNat_digit, h.value, show (2 : Nat) ^ 32 = 2 ^ 30 * 4 from rfl,
      Nat.mod_mul_right_div_self, hsplit, Nat.mul_comm radicand.toNat,
      Nat.mul_div_mul_left _ _ (Nat.pow_pos (by decide))]
  have hnext : radicand.toNat / 4 ^ (16 - i) = radicand.toNat / 4 ^ m / 4 := by
    rw [show 16 - i = m + 1 by omega, Nat.pow_succ, Nat.div_div_eq_div_mul]
  rw [hdigit, hnext, show 16 - (i + 1) = m by omega, Nat.div_add_mod]

/-- Half the bits at most have been read before the last step, and so the root is small. -/
theorem Loop.root_lt (h : Loop radicand i s) (hi : i < 16) : s.root.toNat < 2 ^ 16 := by
  have hread : radicand.toNat / 4 ^ (16 - i) < 2 ^ 15 * 2 ^ 15 := by
    have hlt := radicand.toNat_lt
    have hpow : 4 ^ 1 ≤ 4 ^ (16 - i) := Nat.pow_le_pow_right (by decide) (by omega)
    have hle := Nat.div_le_div_left (a := radicand.toNat) hpow (by decide)
    omega
  have hsqrt := Nat.sqrt_lt.mpr hread
  have hroot := h.digits.root
  dsimp only at hroot
  omega

theorem Loop.toNat_root (h : Loop radicand i s) (hi : i < 16) :
    (s.root <<< 1).toNat = 2 * s.root.toNat := by
  have hlt := h.root_lt hi
  rw [UInt32.toNat_shiftLeft]
  simp only [UInt32.toNat_one, Nat.one_mod, Nat.shiftLeft_eq]
  omega

theorem Loop.toNat_rest (h : Loop radicand i s) (hi : i < 16) :
    ((s.rest <<< 2) ||| (s.value >>> 30)).toNat = 4 * s.rest.toNat + (s.value >>> 30).toNat := by
  have hrest := h.digits.rest_le
  have hlt := h.root_lt hi
  dsimp only at hrest
  have hshift : (s.rest <<< 2).toNat = 2 ^ 2 * s.rest.toNat := by
    rw [UInt32.toNat_shiftLeft]
    simp [Nat.shiftLeft_eq]
    omega
  rw [UInt32.toNat_or, hshift, ← Nat.two_pow_add_eq_or_of_lt (digit_lt s)]

/-- The shifted root is even, so that setting its low bit adds one. -/
theorem Loop.toNat_odd (h : Loop radicand i s) (hi : i < 16) :
    ((s.root <<< 1) ||| (1 : UInt32)).toNat = 2 * s.root.toNat + 1 := by
  rw [UInt32.toNat_or, h.toNat_root hi]
  exact (Nat.two_pow_add_eq_or_of_lt (i := 1) (b := 1) (by decide) s.root.toNat).symm

theorem Loop.noWrap (h : Loop radicand i s) (hi : i < 16) : NoWrap s where
  root := h.toNat_root hi
  rest := h.toNat_rest hi
  sub := by
    intro hlt
    rw [UInt32.lt_iff_toNat_lt, h.toNat_root hi] at hlt
    rw [UInt32.le_iff_toNat_le, h.toNat_odd hi]
    exact hlt
  add := by
    intro _
    have hlt := h.root_lt hi
    rw [UInt32.toNat_add, h.toNat_root hi]
    exact Nat.mod_eq_of_lt (show 2 * s.root.toNat + 2 < 2 ^ 32 by omega)

/-- The body of the loop is a step of the square root by digits. -/
theorem Loop.toNat_next (h : Loop radicand i s) (hi : i < 16) :
    (⟨s.next.root.toNat, s.next.rest.toNat⟩ : DigitSqrt.State) =
      DigitSqrt.step (s.value >>> 30).toNat ⟨s.root.toNat, s.rest.toNat⟩ := by
  have hwrap := h.noWrap hi
  have hcond : s.root <<< 1 < (s.rest <<< 2) ||| (s.value >>> 30) ↔
      2 * s.root.toNat < 4 * s.rest.toNat + (s.value >>> 30).toNat := by
    rw [UInt32.lt_iff_toNat_lt, hwrap.root, hwrap.rest]
  unfold next DigitSqrt.step
  dsimp only
  by_cases hlt : s.root <<< 1 < (s.rest <<< 2) ||| (s.value >>> 30)
  · rw [if_pos hlt, if_pos (hcond.mp hlt)]
    dsimp only
    rw [hwrap.add hlt, hwrap.root, UInt32.toNat_sub_of_le _ _ (hwrap.sub hlt), hwrap.rest,
      h.toNat_odd hi]
  · rw [if_neg hlt, if_neg fun hlt' => hlt (hcond.mpr hlt')]
    dsimp only
    rw [hwrap.root, hwrap.rest]

theorem value_next (s : IsqrtState) : s.next.value = s.value <<< 2 := by
  unfold next
  dsimp only
  split_ifs <;> rfl

/-- **A step of the loop.** -/
theorem Loop.next (h : Loop radicand i s) (hi : i < 16) : Loop radicand (i + 1) s.next where
  value := by
    rw [value_next, UInt32.toNat_shiftLeft, h.value, Nat.shiftLeft_eq, Nat.mod_mul_mod,
      pow_succ 4, ← Nat.mul_assoc]
    rfl
  digits := by
    rw [h.digit hi, h.toNat_next hi]
    exact h.digits.step (digit_lt s)

theorem loop_iterate (radicand : UInt32) (hi : i ≤ 16) :
    Loop radicand i (IsqrtState.next^[i] (start radicand)) := by
  induction i with
  | zero => exact loop_start radicand
  | succ i ih =>
    rw [Function.iterate_succ_apply']
    exact (ih (Nat.le_of_succ_le hi)).next hi

end IsqrtState

/-- **The square root is exact.** -/
theorem toNat_isqrt32 (value : UInt32) : (isqrt32 value).toNat = value.toNat.sqrt := by
  have hroot := (IsqrtState.loop_iterate value (Nat.le_refl 16)).digits.root
  rw [Nat.sub_self, Nat.pow_zero, Nat.div_one] at hroot
  dsimp only at hroot
  rw [isqrt32, UInt32.toNat_shiftRight, hroot]
  simp [Nat.shiftRight_eq_div_pow]

/-! ## The three axes -/

/-- `struct sensor_value`. -/
structure SensorValue where
  val1 : Int32
  val2 : Int32
deriving DecidableEq, Repr

/-- The unit conversions of the sensor layer: `sensor_value_to_double`, a factor and a cast. They
are floating point, and nothing here rests on what they compute. -/
structure Units where
  milliG : SensorValue → Int16
  celsiusX100 : SensorValue → Int16
  percentX100 : SensorValue → UInt16
  pascal : SensorValue → Int32
  dpsX10 : SensorValue → Int16

/-- `sensor_board_apply_accel`. The sum passes `INT32_MAX` when the axes are near their limits;
what is taken of it are its bits, as an unsigned number. -/
def sensorBoardApplyAccel (units : Units) (axes : Axis → SensorValue) (data : SensorData) :
    SensorData :=
  let data :=
    { data with
      accelXMg := units.milliG (axes .x)
      accelYMg := units.milliG (axes .y)
      accelZMg := units.milliG (axes .z) }
  let sum :=
    data.accelXMg.toInt32 * data.accelXMg.toInt32 +
      data.accelYMg.toInt32 * data.accelYMg.toInt32 +
      data.accelZMg.toInt32 * data.accelZMg.toInt32
  { data with
    magnitudeMg := (min (isqrt32 sum.toUInt32) 65535).toUInt16
    valid := data.valid ||| sensorValidAccel }

/-- The sum of the squares of the axes. -/
def sumOfSquares (data : SensorData) : Nat :=
  Axis.absMg data .x ^ 2 + Axis.absMg data .y ^ 2 + Axis.absMg data .z ^ 2

theorem Axis.absMg_le (data : SensorData) (axis : Axis) : axis.absMg data ≤ 2 ^ 15 := by
  have hlt := (axis.reading data).toInt_lt
  have hle := (axis.reading data).le_toInt
  rw [Axis.absMg]
  omega

theorem sumOfSquares_le (data : SensorData) : sumOfSquares data ≤ 3 * 2 ^ 30 := by
  have hsq (axis : Axis) : axis.absMg data ^ 2 ≤ (2 ^ 15) ^ 2 :=
    Nat.pow_le_pow_left (axis.absMg_le data) 2
  have hx := hsq .x
  have hy := hsq .y
  have hz := hsq .z
  unfold sumOfSquares
  omega

theorem Axis.sq_le_sumOfSquares (data : SensorData) (axis : Axis) :
    axis.absMg data ^ 2 ≤ sumOfSquares data := by
  unfold sumOfSquares
  cases axis <;> omega

theorem toInt_toUInt32 (a : Int32) : (a.toUInt32.toNat : Int) = a.toInt % 2 ^ 32 := by
  have hbits : a.toInt = (a.toUInt32.toNat : Int).bmod (2 ^ 32) :=
    BitVec.toInt_eq_toNat_bmod a.toBitVec
  have hlt := a.toUInt32.toNat_lt
  have hmod := Int.bmod_emod (x := (a.toUInt32.toNat : Int)) (m := 2 ^ 32)
  rw [← hbits] at hmod
  omega

/-- The bits of the 32-bit sum are those of the sum, which they have room for. -/
theorem toNat_sum (data : SensorData) :
    (data.accelXMg.toInt32 * data.accelXMg.toInt32 +
      data.accelYMg.toInt32 * data.accelYMg.toInt32 +
      data.accelZMg.toInt32 * data.accelZMg.toInt32).toUInt32.toNat = sumOfSquares data := by
  have hle := sumOfSquares_le data
  have hbits := toInt_toUInt32
    (data.accelXMg.toInt32 * data.accelXMg.toInt32 +
      data.accelYMg.toInt32 * data.accelYMg.toInt32 +
      data.accelZMg.toInt32 * data.accelZMg.toInt32)
  have hsum : (sumOfSquares data : Int) =
      data.accelXMg.toInt * data.accelXMg.toInt + data.accelYMg.toInt * data.accelYMg.toInt +
        data.accelZMg.toInt * data.accelZMg.toInt := by
    simp [sumOfSquares, Axis.absMg, Axis.reading, pow_two]
  have hmod := Int.bmod_emod (x := (sumOfSquares data : Int)) (m := 2 ^ 32)
  simp only [Int32.toInt_add, Int32.toInt_mul, Int16.toInt_toInt32, Int.add_bmod_bmod,
    Int.bmod_add_bmod, ← hsum] at hbits
  omega

/-- The magnitude of the sample is that of its axes. -/
structure ExactMagnitude (data : SensorData) : Prop where
  sum_le : sumOfSquares data ≤ 3 * 2 ^ 30
  magnitude : data.magnitudeMg.toNat = (sumOfSquares data).sqrt
  axis_le : ∀ axis : Axis, axis.absMg data ≤ data.magnitudeMg.toNat

theorem exactMagnitude_of_eq {data : SensorData}
    (h : data.magnitudeMg.toNat = (sumOfSquares data).sqrt) : ExactMagnitude data where
  sum_le := sumOfSquares_le data
  magnitude := h
  axis_le := by
    intro axis
    rw [h]
    exact Nat.le_sqrt'.mpr (axis.sq_le_sumOfSquares data)

/-- A root of the sum fits 16 bits, and the clamp changes nothing. -/
theorem toNat_clamped {data : SensorData} {root : UInt32}
    (h : root.toNat = (sumOfSquares data).sqrt) :
    (min root 65535).toUInt16.toNat = (sumOfSquares data).sqrt := by
  have hle := sumOfSquares_le data
  have hlt : (sumOfSquares data).sqrt < 2 ^ 16 := Nat.sqrt_lt.mpr (by omega)
  have hmin : min root 65535 = root := by
    refine if_pos (UInt32.le_iff_toNat_le.mpr ?_)
    rw [h]
    exact Nat.le_of_lt_succ hlt
  rw [hmin, UInt32.toNat_toUInt16, h, Nat.mod_eq_of_lt hlt]

section

variable (units : Units) (axes : Axis → SensorValue) (data : SensorData)

theorem reading_sensorBoardApplyAccel (axis : Axis) :
    axis.reading (sensorBoardApplyAccel units axes data) = units.milliG (axes axis) := by
  cases axis <;> rfl

theorem exactMagnitude_sensorBoardApplyAccel :
    ExactMagnitude (sensorBoardApplyAccel units axes data) := by
  refine exactMagnitude_of_eq (toNat_clamped ?_)
  rw [toNat_isqrt32, toNat_sum]
  rfl

end

/-- **The magnitude is exact.** The root the loop finds is exact for every value, no step of it
leaves 32 bits, and what is stored is the magnitude of the axes stored with it. -/
theorem sensorBoardApplyAccel_exact (value : UInt32) (units : Units) (axes : Axis → SensorValue)
    (data : SensorData) :
    ((isqrt32 value).toNat = value.toNat.sqrt ∧
      ∀ i, i < 16 → IsqrtState.NoWrap (IsqrtState.next^[i] (IsqrtState.start value))) ∧
    ((∀ axis : Axis,
        axis.reading (sensorBoardApplyAccel units axes data) = units.milliG (axes axis)) ∧
      ExactMagnitude (sensorBoardApplyAccel units axes data)) := by
  refine ⟨⟨toNat_isqrt32 value, ?_⟩, ?_, exactMagnitude_sensorBoardApplyAccel units axes data⟩
  · intro i hi
    exact (IsqrtState.loop_iterate value hi.le).noWrap hi
  · exact reading_sensorBoardApplyAccel units axes data

end SmartTag
