import Mathlib.Algebra.Group.Nat.Defs

/-!
# Machine integers and error numbers

Counters of the firmware are natural numbers; where a C expression can wrap, the model reduces
it with `u32` or `u16`. Error numbers are the RTOS's, and a call fails by returning one negated.
-/

namespace SmartTag

/-- An unsigned 32-bit value. -/
def u32 (n : Nat) : Nat := n % 2 ^ 32

/-- An unsigned 16-bit value. -/
def u16 (n : Nat) : Nat := n % 2 ^ 16

/-- The largest unsigned 32-bit value. -/
def uint32Max : Nat := 2 ^ 32 - 1

theorem u32_of_lt {n : Nat} (h : n < 2 ^ 32) : u32 n = n := Nat.mod_eq_of_lt h

theorem u16_of_lt {n : Nat} (h : n < 2 ^ 16) : u16 n = n := Nat.mod_eq_of_lt h

def ENOENT : Int := 2
def EIO : Int := 5
def EAGAIN : Int := 11
def ENOMEM : Int := 12
def EACCES : Int := 13
def ENODEV : Int := 19
def EINVAL : Int := 22
def ENOTSUP : Int := 134

end SmartTag
