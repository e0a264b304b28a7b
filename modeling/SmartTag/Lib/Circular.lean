import Mathlib.Data.List.Nodup
import Mathlib.Data.List.Range
import Mathlib.Data.List.Perm.Basic
import Mathlib.Data.Nat.ModEq

/-!
# Positions in a ring of sectors

Items numbered `0, 1, 2, …` are laid out on a ring of `T` positions, item `j` at position
`j % T`. At any time the ring holds a window `lo, …, n - 1` of at most `T` items. The ring is
cut into `k` sectors of `s` positions each, so `T = k * s`.

* `mod_window`: the position of an item, relative to that of an earlier item of the window.
* `mod_inj`: two items of one window never share a position.
* `countP_survivors`, `countP_window`: items of a window occupy as many positions.
* `aligned_gap`, `sector_room`: what sector alignment of `lo` and `n` gives.
-/

namespace Circular

/-- Moving `b - a < T` positions on from item `a` either stays within the lap or wraps once. -/
theorem mod_window {a b T : Nat} (h : a ≤ b) (hb : b < a + T) :
    (b % T = a % T + (b - a) ∧ a % T + (b - a) < T) ∨ b % T + T = a % T + (b - a) := by
  have hT : 0 < T := by omega
  have ha : a % T < T := Nat.mod_lt _ hT
  have hsum : b % T = (a % T + (b - a)) % T := by
    rw [Nat.mod_add_mod]
    congr 1
    omega
  by_cases hlt : a % T + (b - a) < T
  · exact Or.inl ⟨hsum.trans (Nat.mod_eq_of_lt hlt), hlt⟩
  · right
    have hwrap : (a % T + (b - a)) % T = a % T + (b - a) - T := by
      rw [Nat.mod_eq_sub_mod (Nat.le_of_not_lt hlt), Nat.mod_eq_of_lt (by omega)]
    omega

theorem mod_inj {lo a b T : Nat} (ha : lo ≤ a) (ha' : a < lo + T) (hb : lo ≤ b)
    (hb' : b < lo + T) (h : a % T = b % T) : a = b := by
  rcases Nat.le_total a b with hab | hab
  · rcases mod_window hab (by omega : b < a + T) with h' | h' <;> omega
  · rcases mod_window hab (by omega : a < b + T) with h' | h' <;> omega

/-- Going once round the ring comes back to the same position. -/
theorem mod_lap {a b T : Nat} (h : b = a + T) : b % T = a % T := by
  rw [h, Nat.add_mod_right]

/-- The next position after item `a`'s. -/
theorem mod_succ (a T : Nat) : (a % T + 1) % T = (a + 1) % T := Nat.mod_add_mod a T 1

/-! ## Counting -/

/-- The survivors `V` of a window of at most `T` items occupy exactly as many positions. -/
theorem countP_survivors {lo n T : Nat} (hn : n ≤ lo + T) {p V : Nat → Bool}
    (hp : ∀ i < T, p i = true ↔ ∃ j, lo ≤ j ∧ j < n ∧ V j = true ∧ i = j % T) :
    (List.range T).countP p = (List.range' lo (n - lo)).countP V := by
  have hperm : ((List.range T).filter p).Perm
      (((List.range' lo (n - lo)).filter V).map (· % T)) := by
    refine (List.perm_ext_iff_of_nodup (List.nodup_range.filter _) ?_).2 fun i => ?_
    · refine List.Nodup.map_on (fun a ha b hb hab => ?_) (List.Nodup.filter _ List.nodup_range')
      have ha := List.mem_range'_1.1 (List.mem_of_mem_filter ha)
      have hb := List.mem_range'_1.1 (List.mem_of_mem_filter hb)
      exact mod_inj ha.1 (by omega) hb.1 (by omega) hab
    · simp only [List.mem_filter, List.mem_range, List.mem_map, List.mem_range'_1]
      constructor
      · intro hmem
        obtain ⟨hi, hpi⟩ := hmem
        obtain ⟨j, hj, hjn, hV, rfl⟩ := (hp i hi).1 hpi
        exact ⟨j, ⟨by omega, hV⟩, rfl⟩
      · intro hmem
        obtain ⟨j, ⟨hj, hV⟩, rfl⟩ := hmem
        have hlt : j % T < T := Nat.mod_lt _ (by omega)
        exact ⟨hlt, (hp _ hlt).2 ⟨j, hj.1, by omega, hV, rfl⟩⟩
  rw [List.countP_eq_length_filter, List.countP_eq_length_filter, hperm.length_eq,
    List.length_map]

/-- A window of at most `T` items occupies exactly as many positions. -/
theorem countP_window {lo n T : Nat} (hn : n ≤ lo + T) {p : Nat → Bool}
    (hp : ∀ i < T, p i = true ↔ ∃ j, lo ≤ j ∧ j < n ∧ i = j % T) :
    (List.range T).countP p = n - lo := by
  have hall : ∀ i < T, p i = true ↔ ∃ j, lo ≤ j ∧ j < n ∧ true = true ∧ i = j % T := by
    intro i hi
    simp only [hp i hi, true_and]
  rw [countP_survivors (V := fun _ => true) hn hall, List.countP_true, List.length_range']

/-- Survivors all between items `a` and `b` can be counted there. -/
theorem countP_between {lo n a b : Nat} (ha : lo ≤ a) (hab : a ≤ b) (hb : b < n) {V : Nat → Bool}
    (hV : ∀ j, V j = true → a ≤ j ∧ j ≤ b) :
    (List.range' lo (n - lo)).countP V = (List.range' a (b + 1 - a)).countP V := by
  have hsplit : List.range' lo (n - lo) =
      List.range' lo (a - lo) ++
        (List.range' a (b + 1 - a) ++ List.range' (b + 1) (n - (b + 1))) := by
    have h1 := @List.range'_append_1 a (b + 1 - a) (n - (b + 1))
    have h2 := @List.range'_append_1 lo (a - lo) (n - a)
    rw [show a + (b + 1 - a) = b + 1 by omega,
      show b + 1 - a + (n - (b + 1)) = n - a by omega] at h1
    rw [show lo + (a - lo) = a by omega, show a - lo + (n - a) = n - lo by omega] at h2
    rw [h1, h2]
  have hlow : (List.range' lo (a - lo)).countP V = 0 := by
    rw [List.countP_eq_zero]
    intro j hj hVj
    have := List.mem_range'_1.1 hj
    have := hV j hVj
    omega
  have hhigh : (List.range' (b + 1) (n - (b + 1))).countP V = 0 := by
    rw [List.countP_eq_zero]
    intro j hj hVj
    have := List.mem_range'_1.1 hj
    have := hV j hVj
    omega
  rw [hsplit, List.countP_append, List.countP_append, hlow, hhigh, Nat.zero_add, Nat.add_zero]

/-! ## Sectors -/

variable {k s lo n : Nat}

theorem mod_sector (n : Nat) : n % (k * s) % s = n % s :=
  Nat.mod_mod_of_dvd _ (Nat.dvd_mul_left s k)

/-- Two sector boundaries less than a ring apart are at least a sector short of a full ring. -/
theorem aligned_gap (hlo : lo % s = 0) (hn : n % s = 0) (h : n < lo + k * s) :
    n + s ≤ lo + k * s := by
  obtain ⟨a, rfl⟩ := Nat.dvd_of_mod_eq_zero hlo
  obtain ⟨b, rfl⟩ := Nat.dvd_of_mod_eq_zero hn
  have hlt : b < a + k := by
    by_contra hge
    have := Nat.mul_le_mul_left s (Nat.le_of_not_lt hge)
    rw [Nat.mul_add, Nat.mul_comm s k] at this
    omega
  have := Nat.mul_le_mul_left s (Nat.succ_le_of_lt hlt)
  rw [Nat.mul_add, Nat.mul_succ, Nat.mul_comm s k] at this
  omega

/-- A sector that starts on the ring ends on the ring. -/
theorem sector_room (hk : 0 < k) (hs : 0 < s) (hn : n % s = 0) : n % (k * s) + s ≤ k * s := by
  have hlt : n % (k * s) < k * s := Nat.mod_lt _ (Nat.mul_pos hk hs)
  have := @aligned_gap k s 0 (n % (k * s)) (Nat.zero_mod s) ((mod_sector n).trans hn)
    (by omega)
  omega

/-- Inside a sector, the next position is in the same sector or starts the next one. -/
theorem mod_succ_sector (hs : 0 < s) (n : Nat) :
    (n + 1) % s = n % s + 1 ∧ n % s + 1 < s ∨ (n + 1) % s = 0 ∧ n % s + 1 = s := by
  have hlt : n % s < s := Nat.mod_lt _ hs
  have h : (n + 1) % s = (n % s + 1) % s := (mod_succ n s).symm
  by_cases hend : n % s + 1 = s
  · right
    rw [h, hend, Nat.mod_self]
    exact ⟨rfl, rfl⟩
  · left
    rw [h, Nat.mod_eq_of_lt (by omega)]
    omega

end Circular
