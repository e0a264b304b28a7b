import Mathlib.Logic.Basic

/-!
# Flag words

Bits of a 16-bit word that are set and cleared by masks. `Raised` says that a flag is set; the
lemmas say what setting or clearing a mask does to a flag inside the mask and to one outside.
-/

namespace Flags

/-- The flag is set. -/
def Raised (word flag : UInt16) : Prop := word &&& flag ≠ 0

instance (word flag : UInt16) : Decidable (Raised word flag) := inferInstanceAs (Decidable (_ ≠ _))

theorem and_eq_zero_iff {word flag : UInt16} : word &&& flag = 0 ↔ ¬ Raised word flag :=
  not_not.symm

/-! ## Masks -/

theorem or_and (a b c : UInt16) : (a ||| b) &&& c = (a &&& c) ||| (b &&& c) :=
  UInt16.toBitVec_inj.1 BitVec.and_or_distrib_right

theorem uint8_or_and (a b c : UInt8) : (a ||| b) &&& c = (a &&& c) ||| (b &&& c) :=
  UInt8.toBitVec_inj.1 BitVec.and_or_distrib_right

theorem or_and_of_disjoint {mask flag : UInt16} (h : mask &&& flag = 0) (word : UInt16) :
    (word ||| mask) &&& flag = word &&& flag := by
  rw [or_and, h, UInt16.or_zero]

theorem not_and_of_disjoint {mask flag : UInt16} (h : mask &&& flag = 0) :
    ~~~mask &&& flag = flag := by
  have hall : (mask ||| ~~~mask) &&& flag = flag := by
    rw [UInt16.or_not_self, UInt16.neg_one_and]
  rwa [or_and, h, UInt16.zero_or] at hall

/-! ## Setting and clearing -/

theorem raised_or {flag : UInt16} (h : flag ≠ 0) (word : UInt16) : Raised (word ||| flag) flag := by
  rw [Raised, or_and, UInt16.and_self]
  intro hzero
  exact h (UInt16.or_eq_zero_iff.1 hzero).2

theorem raised_or_of_disjoint {mask flag : UInt16} (h : mask &&& flag = 0) (word : UInt16) :
    Raised (word ||| mask) flag ↔ Raised word flag := by
  rw [Raised, or_and_of_disjoint h]
  exact Iff.rfl

theorem not_raised_andNot {mask flag : UInt16} (h : ~~~mask &&& flag = 0) (word : UInt16) :
    ¬ Raised (word &&& ~~~mask) flag := by
  rw [← and_eq_zero_iff, UInt16.and_assoc, h, UInt16.and_zero]

theorem raised_andNot_of_disjoint {mask flag : UInt16} (h : mask &&& flag = 0)
    (word : UInt16) : Raised (word &&& ~~~mask) flag ↔ Raised word flag := by
  rw [Raised, UInt16.and_assoc, not_and_of_disjoint h]
  exact Iff.rfl

end Flags
