import Mathlib.Data.List.Basic
import Mathlib.Tactic.Ring

/-!
# Little-endian byte strings

Packed structures store every integer as its little-endian bytes. `toBytes w n` is the low
`w` bytes of `n` and `ofBytes` reads a byte string back.

* `ofBytes_toBytes`: reading back gives `n` modulo `256 ^ w`.
* `toBytes_ofBytes`: every byte string is the encoding of its value.
* `ofBytes_and_le`: clearing bits never makes a value larger.
-/

namespace LittleEndian

/-- The low `w` bytes of `n`, least significant first. -/
def toBytes : Nat → Nat → List UInt8
  | 0, _ => []
  | w + 1, n => UInt8.ofNat n :: toBytes w (n / 256)

/-- The value of a byte string, least significant byte first. -/
def ofBytes : List UInt8 → Nat
  | [] => 0
  | b :: bs => b.toNat + 256 * ofBytes bs

@[simp] theorem length_toBytes (w n : Nat) : (toBytes w n).length = w := by
  induction w generalizing n with
  | zero => rfl
  | succ w ih => simp [toBytes, ih]

theorem ofBytes_toBytes (w n : Nat) : ofBytes (toBytes w n) = n % 256 ^ w := by
  induction w generalizing n with
  | zero => simp [toBytes, ofBytes, Nat.mod_one]
  | succ w ih =>
      have hbyte : (UInt8.ofNat n).toNat = n % 256 := by simp
      rw [toBytes, ofBytes, ih, hbyte, pow_succ', Nat.mod_mul]

theorem ofBytes_toBytes_of_lt {w n : Nat} (h : n < 256 ^ w) : ofBytes (toBytes w n) = n := by
  rw [ofBytes_toBytes, Nat.mod_eq_of_lt h]

theorem ofBytes_lt (bs : List UInt8) : ofBytes bs < 256 ^ bs.length := by
  induction bs with
  | nil => simp [ofBytes]
  | cons b bs ih =>
      have hb : b.toNat < 256 := b.toNat_lt
      simp only [ofBytes, List.length_cons, pow_succ']
      omega

theorem toBytes_ofBytes (bs : List UInt8) : toBytes bs.length (ofBytes bs) = bs := by
  induction bs with
  | nil => rfl
  | cons b bs ih =>
      have hb : b.toNat < 256 := b.toNat_lt
      have hdiv : (b.toNat + 256 * ofBytes bs) / 256 = ofBytes bs := by omega
      have hbyte : UInt8.ofNat (b.toNat + 256 * ofBytes bs) = b := by
        apply UInt8.toNat_inj.1
        simp only [UInt8.toNat_ofNat', Nat.add_mul_mod_self_left]
        exact Nat.mod_eq_of_lt hb
      simp only [List.length_cons, toBytes, ofBytes, hdiv, hbyte, ih]

theorem ofBytes_and_le (as bs : List UInt8) (hlen : as.length = bs.length) :
    ofBytes (List.zipWith (· &&& ·) as bs) ≤ ofBytes bs := by
  induction as generalizing bs with
  | nil => simp [ofBytes]
  | cons a as ih =>
      cases bs with
      | nil => simp at hlen
      | cons b bs =>
          have hle : (a &&& b).toNat ≤ b.toNat := by
            rw [UInt8.toNat_and]
            exact Nat.and_le_right
          have htail := ih bs (by simpa using hlen)
          simp only [List.zipWith_cons_cons, ofBytes]
          omega

end LittleEndian
