import SmartTag.Lib.Run

/-!
# Latches with hysteresis

A latch is set by the events that trip it and released by those that re-arm it; in between it stays
as it is. It fires when it is tripped while it is released, so an event that lasts fires once.

* `latched_iff`: a set latch has fired and has not been re-armed since.
* `fires_iff`: when an event fires, from the last one that did and what came after it.
-/

namespace Hysteresis

variable {ε : Type*} (trips rearms : ε → Prop) [DecidablePred trips] [DecidablePred rearms]

/-- One event. -/
def latch (latched : Bool) (e : ε) : Bool :=
  if trips e then true else if rearms e then false else latched

/-- Event `i` trips a latch that is released. -/
def Fires (events : List ε) (i : Nat) : Prop :=
  ∃ e, events[i]? = some e ∧ trips e ∧
    Run.final (latch trips rearms) false (events.take i) = false

/-- An event strictly between `j` and `i` re-arms. -/
def RearmedBetween (events : List ε) (j i : Nat) : Prop :=
  ∃ k e, j < k ∧ k < i ∧ events[k]? = some e ∧ rearms e

/-- `j` is the last before `i` with the property. -/
structure LastBefore (P : Nat → Prop) (i j : Nat) : Prop where
  before : j < i
  holds : P j
  last : ∀ k, j < k → k < i → ¬ P k

theorem exists_lastBefore {P : Nat → Prop} {i j : Nat} (hj : j < i) (h : P j) :
    ∃ k, LastBefore P i k := by
  induction i with
  | zero => exact absurd hj (Nat.not_lt_zero j)
  | succ i ih =>
    by_cases hi : P i
    · exact ⟨i, Nat.lt_succ_self i, hi, fun k hk hlt => absurd hlt (by omega)⟩
    · have hne : j ≠ i := by
        rintro rfl
        exact hi h
      obtain ⟨k, hk⟩ := ih (by omega)
      refine ⟨k, Nat.lt_succ_of_lt hk.before, hk.holds, fun l hl hlt => ?_⟩
      rcases Nat.lt_succ_iff_lt_or_eq.1 hlt with hlt' | rfl
      · exact hk.last l hl hlt'
      · exact hi

variable {trips rearms} {events : List ε}

omit [DecidablePred rearms] in
/-- One event more can re-arm. -/
theorem rearmedBetween_succ {e : ε} {j n : Nat} (hget : events[n]? = some e) (hj : j < n) :
    RearmedBetween rearms events j (n + 1) ↔ RearmedBetween rearms events j n ∨ rearms e := by
  constructor
  · rintro ⟨k, e', hjk, hkn, hk, hrearms⟩
    rcases Nat.lt_succ_iff_lt_or_eq.1 hkn with hlt | rfl
    · exact Or.inl ⟨k, e', hjk, hlt, hk, hrearms⟩
    · rw [hget] at hk
      exact Or.inr (Option.some.inj hk ▸ hrearms)
  · rintro (⟨k, e', hjk, hkn, hk, hrearms⟩ | hrearms)
    · exact ⟨k, e', hjk, Nat.lt_succ_of_lt hkn, hk, hrearms⟩
    · exact ⟨n, e, hj, Nat.lt_succ_self n, hget, hrearms⟩

omit [DecidablePred rearms] in
theorem not_rearmedBetween_succ_self (n : Nat) : ¬ RearmedBetween rearms events n (n + 1) := by
  rintro ⟨k, -, hnk, hkn, -⟩
  omega

theorem trips_of_fires {e : ε} {n : Nat} (hget : events[n]? = some e)
    (h : Fires trips rearms events n) : trips e := by
  obtain ⟨e', he, htrips, -⟩ := h
  rw [hget] at he
  exact Option.some.inj he ▸ htrips

/-- Fired and not re-armed since, one event later: that event does not re-arm, or it fires. -/
theorem fired_succ {e : ε} {n : Nat} (hget : events[n]? = some e) :
    (∃ j < n + 1, Fires trips rearms events j ∧ ¬ RearmedBetween rearms events j (n + 1)) ↔
      (¬ rearms e ∧ ∃ j < n, Fires trips rearms events j ∧ ¬ RearmedBetween rearms events j n) ∨
        Fires trips rearms events n := by
  constructor
  · rintro ⟨j, hj, hfires, hquiet⟩
    rcases Nat.lt_succ_iff_lt_or_eq.1 hj with hlt | rfl
    · rw [rearmedBetween_succ hget hlt, not_or] at hquiet
      exact Or.inl ⟨hquiet.2, j, hlt, hfires, hquiet.1⟩
    · exact Or.inr hfires
  · rintro (⟨hrearms, j, hlt, hfires, hquiet⟩ | hfires)
    · refine ⟨j, Nat.lt_succ_of_lt hlt, hfires, ?_⟩
      rw [rearmedBetween_succ hget hlt, not_or]
      exact ⟨hquiet, hrearms⟩
    · exact ⟨n, Nat.lt_succ_self n, hfires, not_rearmedBetween_succ_self n⟩

/-- A set latch has fired, and nothing has re-armed it since. -/
theorem latched_iff (hdisjoint : ∀ e, trips e → ¬ rearms e) {n : Nat} (hn : n ≤ events.length) :
    Run.final (latch trips rearms) false (events.take n) = true ↔
      ∃ j < n, Fires trips rearms events j ∧ ¬ RearmedBetween rearms events j n := by
  induction n with
  | zero => simp
  | succ n ih =>
    have hget : events[n]? = some events[n] := List.getElem?_eq_getElem hn
    rw [fired_succ hget, ← ih (Nat.le_of_succ_le hn), Run.final_take_succ _ hget]
    unfold latch
    split_ifs with htrips hrearms
    · refine iff_of_true rfl ?_
      by_cases hset : Run.final (latch trips rearms) false (events.take n) = true
      · exact Or.inl ⟨hdisjoint _ htrips, hset⟩
      · exact Or.inr ⟨_, hget, htrips, by simpa using hset⟩
    · refine iff_of_false (by simp) ?_
      rintro (⟨hquiet, -⟩ | hfires)
      · exact hquiet hrearms
      · exact htrips (trips_of_fires hget hfires)
    · constructor
      · exact fun hset => Or.inl ⟨hrearms, hset⟩
      · rintro (⟨-, hset⟩ | hfires)
        · exact hset
        · exact absurd (trips_of_fires hget hfires) htrips

/-- An event fires when it trips the latch and none has fired before it, or something has re-armed
the latch since the last that did. -/
theorem fires_iff (hdisjoint : ∀ e, trips e → ¬ rearms e) {i : Nat} :
    Fires trips rearms events i ↔
      ∃ e, events[i]? = some e ∧ trips e ∧
        ((∀ j < i, ¬ Fires trips rearms events j) ∨
          ∃ j, LastBefore (Fires trips rearms events) i j ∧ RearmedBetween rearms events j i) := by
  refine exists_congr fun e => and_congr_right fun he => and_congr_right fun _ => ?_
  obtain ⟨hi, -⟩ := List.getElem?_eq_some_iff.1 he
  rw [← Bool.not_eq_true, latched_iff hdisjoint (Nat.le_of_lt hi)]
  constructor
  · intro hreleased
    by_cases hfired : ∃ j < i, Fires trips rearms events j
    · obtain ⟨j, hj, hfires⟩ := hfired
      obtain ⟨k, hk⟩ := exists_lastBefore hj hfires
      refine Or.inr ⟨k, hk, ?_⟩
      by_contra hquiet
      exact hreleased ⟨k, hk.before, hk.holds, hquiet⟩
    · exact Or.inl fun j hj hfires => hfired ⟨j, hj, hfires⟩
  · rintro (hnone | ⟨k, hk, l, e', hkl, hli, hget, hrearms⟩) ⟨j, hj, hfires, hquiet⟩
    · exact hnone j hj hfires
    · have hjk : j ≤ k := by
        by_contra hlt
        exact hk.last j (by omega) hj hfires
      exact hquiet ⟨l, e', by omega, hli, hget, hrearms⟩

end Hysteresis
