import Mathlib.Data.List.Basic

/-!
# Numbered lists

`xs.zipIdx m` numbers the elements of `xs` consecutively from `m` on. In such a list a filter by
number is a seek: the elements numbered at least `start` are a suffix, those up to a number a
prefix.
-/

namespace Numbered

variable {α β : Type*}

/-- Skipping everything numbered below `start` is dropping a prefix. -/
theorem filter_ge (xs : List α) (m start : Nat) :
    (xs.zipIdx m).filter (fun p => decide (start ≤ p.2)) = (xs.zipIdx m).drop (start - m) := by
  induction xs generalizing m with
  | nil => simp
  | cons x xs ih =>
      rw [List.zipIdx_cons]
      by_cases hm : start ≤ m
      · rw [List.filter_cons_of_pos (by simpa using hm), ih, Nat.sub_eq_zero_of_le hm,
          Nat.sub_eq_zero_of_le (by omega), List.drop_zero, List.drop_zero]
      · rw [List.filter_cons_of_neg (by simpa using hm), ih,
          show start - m = start - (m + 1) + 1 by omega, List.drop_succ_cons]

/-- Stopping before number `stop` is taking a prefix. -/
theorem filter_lt (xs : List α) (m stop : Nat) :
    (xs.zipIdx m).filter (fun p => decide (p.2 < stop)) = (xs.zipIdx m).take (stop - m) := by
  induction xs generalizing m with
  | nil => simp
  | cons x xs ih =>
      rw [List.zipIdx_cons]
      by_cases hm : m < stop
      · rw [List.filter_cons_of_pos (by simpa using hm), ih,
          show stop - m = stop - (m + 1) + 1 by omega, List.take_succ_cons]
      · rw [List.filter_cons_of_neg (by simpa using hm), ih, show stop - m = 0 by omega,
          show stop - (m + 1) = 0 by omega, List.take_zero, List.take_zero]

theorem drop_zipIdx (xs : List α) (m n : Nat) :
    (xs.zipIdx m).drop n = (xs.drop n).zipIdx (m + n) := by
  induction n generalizing xs m with
  | zero => simp
  | succ n ih =>
      cases xs with
      | nil => simp
      | cons x xs =>
          rw [List.zipIdx_cons, List.drop_succ_cons, ih, List.drop_succ_cons]
          congr 1
          omega

/-- The elements numbered `start` up to `start + k` are a slice. -/
theorem filter_between (xs : List α) {m start : Nat} (h : m ≤ start) (k : Nat) :
    (xs.zipIdx m).filter (fun p => decide (start ≤ p.2 ∧ p.2 < start + k)) =
      ((xs.zipIdx m).drop (start - m)).take k := by
  have hsplit : (xs.zipIdx m).filter (fun p => decide (start ≤ p.2 ∧ p.2 < start + k)) =
      ((xs.zipIdx m).filter fun p => decide (start ≤ p.2)).filter fun p =>
        decide (p.2 < start + k) := by
    rw [List.filter_filter]
    refine List.filter_congr fun p _ => ?_
    rw [Bool.decide_and, Bool.and_comm]
  rw [hsplit, filter_ge, drop_zipIdx, filter_lt]
  congr 1
  omega

theorem map_fst (xs : List α) (m : Nat) : (xs.zipIdx m).map Prod.fst = xs := by
  simp [List.zipIdx_eq_zip_range', List.map_fst_zip]

theorem map_snd (xs : List α) (m : Nat) :
    (xs.zipIdx m).map Prod.snd = List.range' m xs.length := by
  simp [List.zipIdx_eq_zip_range', List.map_snd_zip]

theorem take_range' (m n k : Nat) :
    (List.range' m n).take k = List.range' m (min k n) := by
  rcases Nat.le_total n k with h | h
  · rw [List.take_range'_of_length_le h, Nat.min_eq_right h]
  · rw [List.take_range'_of_length_ge h, Nat.min_eq_left h]

/-- Walking offsets `first, …` of a numbered list visits its suffix. -/
theorem map_range' {xs : List α} {m first : Nat} {g : Nat → β} {f : α × Nat → β}
    (h : ∀ i x, xs[i]? = some x → g i = f (x, m + i)) :
    (List.range' first (xs.length - first)).map g = ((xs.zipIdx m).drop first).map f := by
  refine List.ext_getElem (by simp) fun i hi hi' => ?_
  have hlt : first + i < xs.length := by
    simp only [List.length_map, List.length_range'] at hi
    omega
  simp only [List.getElem_map, List.getElem_range', List.getElem_drop, List.getElem_zipIdx,
    Nat.one_mul]
  exact h _ _ (List.getElem?_eq_getElem hlt)

end Numbered
