import Mathlib.Data.Nat.Sqrt

/-!
# Square root by digits

The integer square root taken two bits at a time from the top, as one does it by hand. What is
carried from digit to digit is twice the root found so far, so that the odd number to subtract is
one above it, and the part of the number the root does not account for.

* `Represents.step`: a digit more keeps the root and the rest those of the number read so far.
* `Represents.rest_le`: the rest never exceeds twice the root, and so neither grows out of hand.
-/

namespace DigitSqrt

structure State where
  /-- Twice the root. -/
  root : Nat
  rest : Nat

/-- The next base-four digit. -/
def step (digit : Nat) (s : State) : State :=
  let root := 2 * s.root
  let rest := 4 * s.rest + digit
  if root < rest then ⟨root + 2, rest - (root + 1)⟩ else ⟨root, rest⟩

/-- The state is that of the number `n`. -/
structure Represents (n : Nat) (s : State) : Prop where
  root : s.root = 2 * n.sqrt
  rest : n.sqrt * n.sqrt + s.rest = n

theorem represents_zero : Represents 0 ⟨0, 0⟩ := ⟨rfl, rfl⟩

variable {n digit : Nat} {s : State}

theorem Represents.rest_le (h : Represents n s) : s.rest ≤ s.root := by
  have hle := n.sqrt_le_add
  have hroot := h.root
  have hrest := h.rest
  omega

/-- The squares of the two roots a digit can lead to, and of the one above them. -/
theorem even_sq (m : Nat) : 2 * m * (2 * m) = 4 * (m * m) := Nat.mul_mul_mul_comm 2 m 2 m

theorem odd_sq (m : Nat) : (2 * m + 1) * (2 * m + 1) = 4 * (m * m) + 4 * m + 1 := by
  rw [Nat.mul_add_one, Nat.add_one_mul, even_sq]
  omega

theorem next_sq (m : Nat) :
    (2 * m + 1 + 1) * (2 * m + 1 + 1) = 4 * (m * m) + 8 * m + 4 := by
  rw [Nat.mul_add_one, Nat.add_one_mul, odd_sq]
  omega

/-- A digit makes the doubled root odd when the number reaches the odd square. -/
theorem sqrt_of_lt (h : Represents n s) (hdigit : digit < 4)
    (hlt : 2 * s.root < 4 * s.rest + digit) : (4 * n + digit).sqrt = 2 * n.sqrt + 1 := by
  have hroot := h.root
  have hrest := h.rest
  have hle := h.rest_le
  symm
  rw [Nat.eq_sqrt, odd_sq, next_sq]
  omega

theorem sqrt_of_le (h : Represents n s) (hle : 4 * s.rest + digit ≤ 2 * s.root) :
    (4 * n + digit).sqrt = 2 * n.sqrt := by
  have hroot := h.root
  have hrest := h.rest
  symm
  rw [Nat.eq_sqrt, even_sq, odd_sq]
  omega

/-- **A step takes the square root one digit further.** -/
theorem Represents.step (h : Represents n s) (hdigit : digit < 4) :
    Represents (4 * n + digit) (step digit s) := by
  have hroot := h.root
  have hrest := h.rest
  unfold DigitSqrt.step
  dsimp only
  split_ifs with hlt
  · have hsqrt := sqrt_of_lt h hdigit hlt
    constructor
    · rw [hsqrt]
      dsimp only
      omega
    · rw [hsqrt, odd_sq]
      dsimp only
      omega
  · have hsqrt := sqrt_of_le h (Nat.not_lt.mp hlt)
    constructor
    · rw [hsqrt]
      dsimp only
      omega
    · rw [hsqrt, even_sq]
      dsimp only
      omega

end DigitSqrt
