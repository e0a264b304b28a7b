import SmartTag.Lib.LittleEndian

/-!
# Packed structures

A packed structure is stored as the little-endian bytes of its fields, one after the other with
no padding. `pack` lays the fields out, each given as its width and its value, and `field` reads
one at its offset.

* `length_pack`: the size is the sum of the widths.
* `getU32_head`, `getU16_head`, `getU8_head`: the first field reads back as it was.
* `getU32_tail`, `getU16_tail`, `getU8_tail`: reading past the first field.
* `getU16_append`, `getU8_append`: what follows a structure does not matter to reading it.
* `pack_getU32`, `pack_getU16`, `pack_getU8`: fields read one after the other lay out as they were.
* `array_flatten`: an array of structures of one size reads back as its elements.
-/

namespace Packed

/-- The bytes of a structure. -/
def pack (fields : List (Nat × Nat)) : List UInt8 :=
  fields.flatMap fun f => LittleEndian.toBytes f.1 f.2

/-- The field of `width` bytes at `offset`. -/
def field (bs : List UInt8) (offset width : Nat) : Nat :=
  LittleEndian.ofBytes ((bs.drop offset).take width)

def getU32 (bs : List UInt8) (offset : Nat) : UInt32 := UInt32.ofNat (field bs offset 4)
def getU16 (bs : List UInt8) (offset : Nat) : UInt16 := UInt16.ofNat (field bs offset 2)
def getU8 (bs : List UInt8) (offset : Nat) : UInt8 := UInt8.ofNat (field bs offset 1)

theorem pack_cons (w n : Nat) (fields : List (Nat × Nat)) :
    pack ((w, n) :: fields) = LittleEndian.toBytes w n ++ pack fields := rfl

theorem length_pack (fields : List (Nat × Nat)) :
    (pack fields).length = (fields.map Prod.fst).sum := by
  simp [pack, List.length_flatMap]

theorem field_pack_head {w n : Nat} (h : n < 256 ^ w) (fields : List (Nat × Nat)) :
    field (pack ((w, n) :: fields)) 0 w = n := by
  rw [field, pack_cons, List.drop_zero, List.take_left' (LittleEndian.length_toBytes w n),
    LittleEndian.ofBytes_toBytes_of_lt h]

theorem field_pack_tail {w offset : Nat} (h : w ≤ offset) (n : Nat) (fields : List (Nat × Nat))
    (width : Nat) :
    field (pack ((w, n) :: fields)) offset width = field (pack fields) (offset - w) width := by
  obtain ⟨rest, rfl⟩ := Nat.exists_eq_add_of_le h
  rw [field, pack_cons, ← List.drop_drop, List.drop_left' (LittleEndian.length_toBytes w n),
    Nat.add_sub_cancel_left, field]

@[simp] theorem getU32_head (x : UInt32) (fields : List (Nat × Nat)) :
    getU32 (pack ((4, x.toNat) :: fields)) 0 = x := by
  rw [getU32, field_pack_head x.toNat_lt, UInt32.ofNat_toNat]

@[simp] theorem getU16_head (x : UInt16) (fields : List (Nat × Nat)) :
    getU16 (pack ((2, x.toNat) :: fields)) 0 = x := by
  rw [getU16, field_pack_head x.toNat_lt, UInt16.ofNat_toNat]

@[simp] theorem getU8_head (x : UInt8) (fields : List (Nat × Nat)) :
    getU8 (pack ((1, x.toNat) :: fields)) 0 = x := by
  rw [getU8, field_pack_head x.toNat_lt, UInt8.ofNat_toNat]

@[simp] theorem getU32_tail {w offset : Nat} (h : w ≤ offset) (n : Nat)
    (fields : List (Nat × Nat)) :
    getU32 (pack ((w, n) :: fields)) offset = getU32 (pack fields) (offset - w) := by
  rw [getU32, field_pack_tail h, getU32]

@[simp] theorem getU16_tail {w offset : Nat} (h : w ≤ offset) (n : Nat)
    (fields : List (Nat × Nat)) :
    getU16 (pack ((w, n) :: fields)) offset = getU16 (pack fields) (offset - w) := by
  rw [getU16, field_pack_tail h, getU16]

@[simp] theorem getU8_tail {w offset : Nat} (h : w ≤ offset) (n : Nat)
    (fields : List (Nat × Nat)) :
    getU8 (pack ((w, n) :: fields)) offset = getU8 (pack fields) (offset - w) := by
  rw [getU8, field_pack_tail h, getU8]

theorem field_append {as : List UInt8} {offset width : Nat} (h : offset + width ≤ as.length)
    (bs : List UInt8) : field (as ++ bs) offset width = field as offset width := by
  have hdrop : width ≤ (as.drop offset).length := by
    rw [List.length_drop]
    omega
  rw [field, List.drop_append_of_le_length (by omega), List.take_append_of_le_length hdrop, field]

theorem getU16_append {as : List UInt8} {offset : Nat} (h : offset + 2 ≤ as.length)
    (bs : List UInt8) : getU16 (as ++ bs) offset = getU16 as offset := by
  rw [getU16, field_append h, getU16]

theorem getU8_append {as : List UInt8} {offset : Nat} (h : offset + 1 ≤ as.length)
    (bs : List UInt8) : getU8 (as ++ bs) offset = getU8 as offset := by
  rw [getU8, field_append h, getU8]

theorem getU32_append {as : List UInt8} {offset : Nat} (h : offset + 4 ≤ as.length)
    (bs : List UInt8) : getU32 (as ++ bs) offset = getU32 as offset := by
  rw [getU32, field_append h, getU32]

/-! ## Arrays -/

/-- The first `count` structures of an array of structures of `size` bytes. -/
def array (size : Nat) : Nat → List UInt8 → List (List UInt8)
  | 0, _ => []
  | count + 1, bs => bs.take size :: array size count (bs.drop size)

theorem array_flatten {size : Nat} {elements : List (List UInt8)}
    (h : ∀ element ∈ elements, element.length = size) (rest : List UInt8) :
    array size elements.length (elements.flatten ++ rest) = elements := by
  induction elements with
  | nil => rfl
  | cons element elements ih =>
      have hsize := h element List.mem_cons_self
      have htail := ih fun e he => h e (List.mem_cons_of_mem _ he)
      rw [List.length_cons, List.flatten_cons, List.append_assoc, array, List.take_left' hsize,
        List.drop_left' hsize, htail]

/-! ## Laying out what was read -/

theorem pack_field {bs : List UInt8} {offset w n : Nat} {fields : List (Nat × Nat)}
    (h : offset + w ≤ bs.length) (hn : n = field bs offset w)
    (hrest : pack fields = bs.drop (offset + w)) : pack ((w, n) :: fields) = bs.drop offset := by
  have hlength : ((bs.drop offset).take w).length = w := by
    rw [List.length_take, List.length_drop]
    omega
  have hbytes := LittleEndian.toBytes_ofBytes ((bs.drop offset).take w)
  rw [hlength] at hbytes
  rw [pack_cons, hrest, hn, field, hbytes, ← List.drop_drop, List.take_append_drop]

theorem field_lt {bs : List UInt8} {offset w : Nat} : field bs offset w < 256 ^ w :=
  (LittleEndian.ofBytes_lt _).trans_le
    (Nat.pow_le_pow_right (by decide) (List.length_take_le _ _))

variable {bs : List UInt8} {offset : Nat} {fields : List (Nat × Nat)}

theorem pack_getU32 (h : offset + 4 ≤ bs.length) (hrest : pack fields = bs.drop (offset + 4)) :
    pack ((4, (getU32 bs offset).toNat) :: fields) = bs.drop offset :=
  pack_field h (UInt32.toNat_ofNat_of_lt' field_lt) hrest

theorem pack_getU16 (h : offset + 2 ≤ bs.length) (hrest : pack fields = bs.drop (offset + 2)) :
    pack ((2, (getU16 bs offset).toNat) :: fields) = bs.drop offset :=
  pack_field h (UInt16.toNat_ofNat_of_lt' field_lt) hrest

theorem pack_getU8 (h : offset + 1 ≤ bs.length) (hrest : pack fields = bs.drop (offset + 1)) :
    pack ((1, (getU8 bs offset).toNat) :: fields) = bs.drop offset :=
  pack_field h (UInt8.toNat_ofNat_of_lt' field_lt) hrest

end Packed
