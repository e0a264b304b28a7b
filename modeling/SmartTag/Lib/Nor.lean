import Mathlib.Data.List.Basic
import Mathlib.Data.List.Range

/-!
# NOR flash

A byte-addressed medium on which programming can only clear bits and erasing sets every bit
of a range. Besides the three operations the file gives their frame rules, and the order
`Covers` on byte strings: a location that covers a value can still be programmed to it.

* `read_program_self`: programming a range ANDs the new bytes into the old ones.
* `read_program_of_disjoint`, `read_erase_of_disjoint`: the frame rules.
-/

namespace Nor

/-- The bytes of the medium, by address. -/
abbrev Memory := Nat → UInt8

/-- The value of an erased byte. -/
def erased : UInt8 := 0xff

/-- The `len` bytes from address `off` on. -/
def read (m : Memory) (off len : Nat) : List UInt8 := (List.range len).map fun j => m (off + j)

/-- AND the bytes `bs` into the medium from address `off` on. -/
def program (m : Memory) (off : Nat) (bs : List UInt8) : Memory := fun a =>
  if off ≤ a ∧ a < off + bs.length then m a &&& bs.getD (a - off) erased else m a

/-- Set `len` bytes from address `off` on to the erased value. -/
def erase (m : Memory) (off len : Nat) : Memory := fun a =>
  if off ≤ a ∧ a < off + len then erased else m a

/-- Bytewise AND. -/
def and (as bs : List UInt8) : List UInt8 := List.zipWith (· &&& ·) as bs

/-- Every bit set in `bs` is set in `as`: programming `bs` over `as` gives `bs`. -/
def Covers (as bs : List UInt8) : Prop := and as bs = bs

instance (as bs : List UInt8) : Decidable (Covers as bs) :=
  inferInstanceAs (Decidable (and as bs = bs))

/-- A run of `len` erased bytes. -/
def blank (len : Nat) : List UInt8 := List.replicate len erased

@[simp] theorem length_read (m : Memory) (off len : Nat) : (read m off len).length = len := by
  simp [read]

@[simp] theorem length_blank (len : Nat) : (blank len).length = len := List.length_replicate

@[simp] theorem length_and (as bs : List UInt8) :
    (and as bs).length = min as.length bs.length := List.length_zipWith

theorem getElem_read {m : Memory} {off len j : Nat} (h : j < (read m off len).length) :
    (read m off len)[j] = m (off + j) := by
  simp [read]

theorem erased_and (b : UInt8) : erased &&& b = b := by
  have h : erased = -1 := rfl
  rw [h, UInt8.neg_one_and]

theorem read_congr {m m' : Memory} {off len : Nat}
    (h : ∀ a, off ≤ a → a < off + len → m a = m' a) : read m off len = read m' off len := by
  refine List.map_congr_left fun j hj => h _ (Nat.le_add_right _ _) ?_
  have := List.mem_range.1 hj
  omega

/-! ## Programming -/

theorem read_program_self (m : Memory) (off : Nat) (bs : List UInt8) :
    read (program m off bs) off bs.length = and (read m off bs.length) bs := by
  refine List.ext_getElem (by simp) fun j hj hj' => ?_
  have hlt : j < bs.length := by simpa using hj
  have hin : off ≤ off + j ∧ off + j < off + bs.length := by omega
  have hget : bs.getD (off + j - off) erased = bs[j] := by simp [hlt]
  rw [getElem_read, program, if_pos hin, hget]
  simp [and, getElem_read]

theorem read_program_of_disjoint (m : Memory) {off off' len : Nat} {bs : List UInt8}
    (h : off' + len ≤ off ∨ off + bs.length ≤ off') :
    read (program m off bs) off' len = read m off' len :=
  read_congr fun a ha ha' => by
    rw [program, if_neg (by omega)]

/-! ## Erasing -/

theorem read_erase_of_subset (m : Memory) {off len off' len' : Nat} (h : off ≤ off')
    (h' : off' + len' ≤ off + len) : read (erase m off len) off' len' = blank len' := by
  refine List.ext_getElem (by simp) fun j hj hj' => ?_
  have hlt : j < len' := by simpa using hj
  rw [getElem_read, erase, if_pos (by omega)]
  simp [blank]

theorem read_erase_of_disjoint (m : Memory) {off len off' len' : Nat}
    (h : off' + len' ≤ off ∨ off + len ≤ off') :
    read (erase m off len) off' len' = read m off' len' :=
  read_congr fun a ha ha' => by
    rw [erase, if_neg (by omega)]

/-! ## Covering -/

theorem blank_covers (bs : List UInt8) : Covers (blank bs.length) bs := by
  refine List.ext_getElem (by simp) fun j hj hj' => ?_
  simp [and, blank, erased_and]

end Nor
