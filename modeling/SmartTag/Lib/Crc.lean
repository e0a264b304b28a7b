import Mathlib.Algebra.Group.Nat.Defs
import Mathlib.Data.List.Basic
import Mathlib.Logic.Function.Iterate

/-!
# Cyclic redundancy checks

The shift register of a CRC, most significant bit first, over words of any width and any odd
polynomial. A shift is linear in exclusive or and loses nothing, so a register tells any two of
its states apart for ever; and two neighbouring symbols that fit the register side by side are
shifted through it as one word. Together: what differs in two neighbouring symbols at most has
different checks.

* `shifts_injective`: shifting loses nothing.
* `push_push`: two symbols are pushed as one word.
* `foldl_eq_of_window`: the same check and the same symbols outside a window of two, the same list.
-/

namespace Crc

/-! ## Lists that differ in a window -/

section

variable {σ β : Type*} {f : σ → β → σ}

/-- `f` tells any two states apart, and any two pairs of symbols that it takes from one state. -/
structure Detects (f : σ → β → σ) : Prop where
  state : ∀ {s s' : σ} {b : β}, f s b = f s' b → s = s'
  pair : ∀ {s : σ} {a b a' b' : β}, f (f s a) b = f (f s a') b' → a = a' ∧ b = b'

theorem Detects.foldl (h : Detects f) (bs : List β) {s s' : σ}
    (heq : bs.foldl f s = bs.foldl f s') : s = s' := by
  induction bs generalizing s s' with
  | nil => exact heq
  | cons b bs ih => exact h.state (ih heq)

/-- `xs` and `ys` are the same but for what they hold at `i` and `i + 1`. -/
structure SameOutside (i : Nat) (xs ys : List β) : Prop where
  length : xs.length = ys.length
  inside : i + 1 < xs.length
  same : ∀ j, j ≠ i → j ≠ i + 1 → xs[j]? = ys[j]?

theorem SameOutside.split {i : Nat} {xs ys : List β} (h : SameOutside i xs ys) :
    ∃ before after a b a' b', xs = before ++ a :: b :: after ∧ ys = before ++ a' :: b' :: after := by
  have hxs := h.inside
  have hys : i + 1 < ys.length := h.length ▸ hxs
  have hsplit (zs : List β) (hzs : i + 1 < zs.length) :
      zs = zs.take i ++ zs[i] :: zs[i + 1] :: zs.drop (i + 2) := by
    rw [List.getElem_cons_drop, List.getElem_cons_drop, List.take_append_drop]
  refine ⟨xs.take i, xs.drop (i + 2), xs[i], xs[i + 1], ys[i], ys[i + 1], hsplit xs hxs, ?_⟩
  have hbefore : xs.take i = ys.take i := by
    refine List.ext_getElem? fun j => ?_
    rw [List.getElem?_take, List.getElem?_take]
    split_ifs with hj
    · exact h.same j (by omega) (by omega)
    · rfl
  have hafter : xs.drop (i + 2) = ys.drop (i + 2) := by
    refine List.ext_getElem? fun j => ?_
    rw [List.getElem?_drop, List.getElem?_drop]
    exact h.same _ (by omega) (by omega)
  rw [hbefore, hafter]
  exact hsplit ys hys

/-- **A change within the window changes the check.** -/
theorem foldl_eq_of_window (h : Detects f) {i : Nat} {xs ys : List β} (hsame : SameOutside i xs ys)
    {s : σ} (heq : xs.foldl f s = ys.foldl f s) : xs = ys := by
  obtain ⟨before, after, a, b, a', b', rfl, rfl⟩ := hsame.split
  rw [List.foldl_append, List.foldl_append] at heq
  obtain ⟨ha, hb⟩ := h.pair (h.foldl after heq)
  rw [ha, hb]

end

/-! ## The shift register -/

variable {w : Nat} (poly : BitVec w)

/-- One shift. The bit that falls out is divided away. -/
def shift (c : BitVec w) : BitVec w := if c.msb then c <<< 1 ^^^ poly else c <<< 1

theorem shift_xor (c d : BitVec w) : shift poly (c ^^^ d) = shift poly c ^^^ shift poly d := by
  have hcancel : c <<< 1 ^^^ poly ^^^ (d <<< 1 ^^^ poly) = c <<< 1 ^^^ d <<< 1 := by
    calc
      c <<< 1 ^^^ poly ^^^ (d <<< 1 ^^^ poly) = c <<< 1 ^^^ d <<< 1 ^^^ (poly ^^^ poly) := by
        ac_rfl
      _ = c <<< 1 ^^^ d <<< 1 := by rw [BitVec.xor_self, BitVec.xor_zero]
  unfold shift
  rw [BitVec.msb_xor, BitVec.shiftLeft_xor_distrib]
  cases c.msb <;> cases d.msb <;> simp
  · ac_rfl
  · ac_rfl
  · exact hcancel.symm

/-- An odd polynomial puts the bit that fell out where a shift leaves a zero. -/
theorem eq_zero_of_shift (hodd : poly.getLsbD 0 = true) {c : BitVec w}
    (h : shift poly c = 0#w) : c = 0#w := by
  unfold shift at h
  cases hmsb : c.msb with
  | true =>
    rw [hmsb, if_pos rfl, BitVec.xor_eq_zero_iff] at h
    rw [← h] at hodd
    simp at hodd
  | false =>
    rw [hmsb, if_neg Bool.false_ne_true] at h
    ext i hi
    by_cases hlast : i + 1 < w
    · have hbit := congrArg (fun d => d.getLsbD (i + 1)) h
      simpa [hlast] using hbit
    · rw [BitVec.msb_eq_getLsbD_last, show w - 1 = i by omega] at hmsb
      simpa [hi] using hmsb

theorem shift_injective (hodd : poly.getLsbD 0 = true) : Function.Injective (shift poly) := by
  intro c d h
  have hzero : shift poly (c ^^^ d) = 0#w := by rw [shift_xor, h, BitVec.xor_self]
  exact BitVec.xor_eq_zero_iff.mp (eq_zero_of_shift poly hodd hzero)

/-- `n` shifts. -/
def shifts (n : Nat) : BitVec w → BitVec w := (shift poly)^[n]

theorem shifts_xor (n : Nat) (c d : BitVec w) :
    shifts poly n (c ^^^ d) = shifts poly n c ^^^ shifts poly n d := by
  unfold shifts
  induction n generalizing c d with
  | zero => rfl
  | succ n ih =>
    rw [Function.iterate_succ_apply, shift_xor, ih]
    rfl

theorem shifts_injective (hodd : poly.getLsbD 0 = true) (n : Nat) :
    Function.Injective (shifts poly n) := (shift_injective poly hodd).iterate n

/-- Nothing falls out of a word whose top bits are clear. -/
theorem shifts_of_lt {n : Nat} {c : BitVec w} (h : c.toNat * 2 ^ n < 2 ^ w) :
    shifts poly n c = c <<< n := by
  unfold shifts
  induction n generalizing c with
  | zero => simp
  | succ n ih =>
    rw [Nat.pow_succ, Nat.mul_comm (2 ^ n), ← Nat.mul_assoc] at h
    have hdouble : c.toNat * 2 < 2 ^ w :=
      Nat.lt_of_le_of_lt (Nat.le_mul_of_pos_right _ (Nat.two_pow_pos n)) h
    have hmsb : c.msb = false := by
      rw [BitVec.msb_eq_decide, decide_eq_false_iff_not]
      cases w with
      | zero =>
        rw [Nat.pow_zero] at hdouble
        omega
      | succ w =>
        rw [Nat.pow_succ] at hdouble
        rw [Nat.add_sub_cancel]
        omega
    have htoNat : (c <<< 1).toNat = c.toNat * 2 := by
      rw [BitVec.toNat_shiftLeft, Nat.shiftLeft_eq, Nat.pow_one, Nat.mod_eq_of_lt hdouble]
    have hshift : shift poly c = c <<< 1 := by simp [shift, hmsb]
    rw [Function.iterate_succ_apply, hshift, ih (by rwa [htoNat]), ← BitVec.shiftLeft_add,
      Nat.add_comm]

/-! ## Symbols -/

/-- A symbol of `n` bits as the top of a word. -/
def top (n : Nat) (b : BitVec n) : BitVec w := b.setWidth w <<< (w - n)

/-- The same below the top symbol. -/
def below (n : Nat) (b : BitVec n) : BitVec w := b.setWidth w <<< (w - 2 * n)

/-- Push a symbol of `n` bits. -/
def push (n : Nat) (c : BitVec w) (b : BitVec n) : BitVec w := shifts poly n (c ^^^ top n b)

/-- A symbol moves from below to the top. -/
theorem shifts_below {n : Nat} (hn : 2 * n ≤ w) (b : BitVec n) :
    shifts poly n (below n b) = (top n b : BitVec w) := by
  have hroom : b.toNat * 2 ^ (w - 2 * n) * 2 ^ n < 2 ^ w := by
    calc
      b.toNat * 2 ^ (w - 2 * n) * 2 ^ n < 2 ^ n * 2 ^ (w - 2 * n) * 2 ^ n :=
        Nat.mul_lt_mul_of_pos_right
          (Nat.mul_lt_mul_of_pos_right b.isLt (Nat.two_pow_pos _)) (Nat.two_pow_pos n)
      _ = 2 ^ w := by
        rw [← Nat.pow_add, ← Nat.pow_add]
        congr 1
        omega
  have hle : (below n b : BitVec w).toNat ≤ b.toNat * 2 ^ (w - 2 * n) := by
    rw [below, BitVec.toNat_shiftLeft, BitVec.toNat_setWidth, Nat.shiftLeft_eq]
    exact Nat.le_trans (Nat.mod_le _ _) (Nat.mul_le_mul_right _ (Nat.mod_le _ _))
  have hshift : shifts poly n (below n b) = below n b <<< n :=
    shifts_of_lt poly (Nat.lt_of_le_of_lt (Nat.mul_le_mul_right _ hle) hroom)
  rw [hshift, below, top, ← BitVec.shiftLeft_add, show w - 2 * n + n = w - n by omega]

/-- **Two symbols are pushed as one word.** -/
theorem push_push {n : Nat} (hn : 2 * n ≤ w) (c : BitVec w) (a b : BitVec n) :
    push poly n (push poly n c a) b =
      shifts poly n (shifts poly n (c ^^^ (top n a ^^^ below n b))) := by
  unfold push
  rw [← shifts_below poly hn b, ← shifts_xor, BitVec.xor_assoc]

/-- The bits of a word of two symbols are those of the symbols. -/
theorem getLsbD_word_top {n : Nat} (hn : 2 * n ≤ w) (a b : BitVec n) {i : Nat} (hi : i < n) :
    (top n a ^^^ below n b : BitVec w).getLsbD (w - n + i) = a.getLsbD i := by
  have htop : (top n a : BitVec w).getLsbD (w - n + i) = a.getLsbD i := by
    simp [top, show w - n + i < w by omega]
  have hbelow : (below n b : BitVec w).getLsbD (w - n + i) = false := by
    simp only [below, BitVec.getLsbD_shiftLeft, BitVec.getLsbD_setWidth]
    rw [BitVec.getLsbD_of_ge b _ (by omega), Bool.and_false, Bool.and_false]
  rw [BitVec.getLsbD_xor, htop, hbelow, Bool.xor_false]

theorem getLsbD_word_below {n : Nat} (hn : 2 * n ≤ w) (a b : BitVec n) {i : Nat} (hi : i < n) :
    (top n a ^^^ below n b : BitVec w).getLsbD (w - 2 * n + i) = b.getLsbD i := by
  have htop : (top n a : BitVec w).getLsbD (w - 2 * n + i) = false := by
    simp only [top, BitVec.getLsbD_shiftLeft]
    rw [decide_eq_true (show w - 2 * n + i < w - n by omega), Bool.not_true, Bool.and_false,
      Bool.false_and]
  have hbelow : (below n b : BitVec w).getLsbD (w - 2 * n + i) = b.getLsbD i := by
    simp [below, show w - 2 * n + i < w by omega]
  rw [BitVec.getLsbD_xor, htop, hbelow, Bool.false_xor]

/-- A word of two symbols determines them. -/
theorem eq_of_word {n : Nat} (hn : 2 * n ≤ w) {a b a' b' : BitVec n}
    (h : (top n a ^^^ below n b : BitVec w) = top n a' ^^^ below n b') : a = a' ∧ b = b' := by
  constructor
  · refine BitVec.eq_of_getLsbD_eq fun i hi => ?_
    rw [← getLsbD_word_top hn a b hi, h, getLsbD_word_top hn a' b' hi]
  · refine BitVec.eq_of_getLsbD_eq fun i hi => ?_
    rw [← getLsbD_word_below hn a b hi, h, getLsbD_word_below hn a' b' hi]

/-- **The register detects changes in two neighbouring symbols.** -/
theorem detects_push (hodd : poly.getLsbD 0 = true) {n : Nat} (hn : 2 * n ≤ w) :
    Detects (push poly n) where
  state := by
    intro c d b h
    exact (BitVec.xor_left_inj _).mp (shifts_injective poly hodd n h)
  pair := by
    intro c a b a' b' h
    rw [push_push poly hn, push_push poly hn] at h
    have hword := shifts_injective poly hodd n (shifts_injective poly hodd n h)
    exact eq_of_word hn ((BitVec.xor_right_inj _).mp hword)

end Crc
