import SmartTag.Lib.LittleEndian

/-!
# Byte memory

A block of memory as the list of its bytes, read and written one byte at a time. An access outside
the block has no result, so a program over these operations has a result only if it stays inside.

* `load_eq`, `store_append`: inside the block, a load is a slice and a store replaces one.
-/

namespace ByteMemory

/-- The `n` bytes from `offset` on. -/
def load (mem : List UInt8) (offset : Nat) : Nat → Option (List UInt8)
  | 0 => some []
  | n + 1 => mem[offset]?.bind fun b => (load mem (offset + 1) n).map (b :: ·)

/-- Write `bytes` from `offset` on. -/
def store (mem : List UInt8) (offset : Nat) : List UInt8 → Option (List UInt8)
  | [] => some mem
  | b :: bytes => if offset < mem.length then store (mem.set offset b) (offset + 1) bytes else none

def loadU16 (mem : List UInt8) (offset : Nat) : Option UInt16 :=
  (load mem offset 2).map fun bytes => UInt16.ofNat (LittleEndian.ofBytes bytes)

theorem load_eq {mem : List UInt8} {offset n : Nat} (h : offset + n ≤ mem.length) :
    load mem offset n = some ((mem.drop offset).take n) := by
  induction n generalizing offset with
  | zero => simp [load]
  | succ n ih =>
    have hlt : offset < mem.length := by omega
    have hrest : load mem (offset + 1) n = some ((mem.drop (offset + 1)).take n) := ih (by omega)
    rw [load, List.getElem?_eq_getElem hlt, hrest, List.drop_eq_getElem_cons hlt,
      List.take_succ_cons]
    rfl

example : load [1, 2] 1 2 = none := rfl

theorem store_append (front : List UInt8) {mem bytes : List UInt8}
    (h : bytes.length ≤ mem.length) :
    store (front ++ mem) front.length bytes = some (front ++ bytes ++ mem.drop bytes.length) := by
  induction bytes generalizing front mem with
  | nil => simp [store]
  | cons b bytes ih =>
    cases mem with
    | nil => simp at h
    | cons a mem =>
      have hlength : (front ++ [b]).length = front.length + 1 := by simp
      have hset : (front ++ a :: mem).set front.length b = (front ++ [b]) ++ mem := by simp
      have hrest : store ((front ++ [b]) ++ mem) (front ++ [b]).length bytes =
          some ((front ++ [b]) ++ bytes ++ mem.drop bytes.length) := ih _ (by simpa using h)
      rw [store, if_pos (by simp), hset, ← hlength, hrest]
      simp

/-- A store at the start of a block. -/
theorem store_zero {mem bytes : List UInt8} (h : bytes.length ≤ mem.length) :
    store mem 0 bytes = some (bytes ++ mem.drop bytes.length) :=
  store_append [] h

end ByteMemory
