import Mathlib.Data.List.Basic

/-!
# Bounded queues

A first-in first-out queue of fixed capacity. `put` fails on a full queue and `get` on an empty
one. `offer` gives up when the queue is full; `push` makes room by dropping the oldest item.
Neither ever reorders: what they leave is a sublist of what an unbounded queue would hold.
-/

/-- The items of a queue, the oldest first. -/
structure BoundedQueue (α : Type*) (capacity : Nat) where
  items : List α
  length_le : items.length ≤ capacity
deriving DecidableEq, Repr

namespace BoundedQueue

variable {α : Type*} {capacity : Nat}

def empty : BoundedQueue α capacity := ⟨[], Nat.zero_le capacity⟩

def put (q : BoundedQueue α capacity) (x : α) : Option (BoundedQueue α capacity) :=
  if h : q.items.length < capacity then
    some ⟨q.items ++ [x], by rw [List.length_append]; exact h⟩
  else none

def get : BoundedQueue α capacity → Option (α × BoundedQueue α capacity)
  | ⟨[], _⟩ => none
  | ⟨x :: rest, h⟩ => some (x, ⟨rest, Nat.le_of_succ_le h⟩)

/-- A put whose failure is ignored. -/
def offer (q : BoundedQueue α capacity) (x : α) : BoundedQueue α capacity := (q.put x).getD q

/-- A get whose result is ignored. -/
def discard (q : BoundedQueue α capacity) : BoundedQueue α capacity := (q.get.map Prod.snd).getD q

/-- A put that drops the oldest item of a full queue first. -/
def push (q : BoundedQueue α capacity) (x : α) : BoundedQueue α capacity :=
  (q.put x).getD (q.discard.offer x)

/-! ## Items -/

theorem put_eq_none {q : BoundedQueue α capacity} {x : α} :
    q.put x = none ↔ q.items.length = capacity := by
  have hle := q.length_le
  unfold put
  split_ifs with hlt
  · simp [Nat.ne_of_lt hlt]
  · simp [Nat.le_antisymm hle (Nat.le_of_not_lt hlt)]

theorem put_eq_some {q q' : BoundedQueue α capacity} {x : α} (h : q.put x = some q') :
    q'.items = q.items ++ [x] := by
  unfold put at h
  split_ifs at h
  cases h
  rfl

theorem get_eq_none {q : BoundedQueue α capacity} : q.get = none ↔ q.items = [] := by
  obtain ⟨items, h⟩ := q
  cases items <;> simp [get]

theorem get_eq_some {q q' : BoundedQueue α capacity} {x : α} (h : q.get = some (x, q')) :
    q.items = x :: q'.items := by
  obtain ⟨items, hle⟩ := q
  cases items with
  | nil => cases h
  | cons y rest =>
      cases h
      rfl

theorem offer_items_of_full {q : BoundedQueue α capacity} (h : q.items.length = capacity) (x : α) :
    (q.offer x).items = q.items := by
  rw [offer, put_eq_none.2 h, Option.getD_none]

theorem offer_items_of_ne {q : BoundedQueue α capacity} (h : q.items.length ≠ capacity) (x : α) :
    (q.offer x).items = q.items ++ [x] := by
  cases hput : q.put x with
  | none => exact absurd (put_eq_none.1 hput) h
  | some q' => rw [offer, hput, Option.getD_some, put_eq_some hput]

theorem discard_items (q : BoundedQueue α capacity) : q.discard.items = q.items.tail := by
  obtain ⟨items, h⟩ := q
  cases items <;> rfl

/-! ## Order -/

theorem offer_sublist (q : BoundedQueue α capacity) (x : α) :
    (q.offer x).items.Sublist (q.items ++ [x]) := by
  by_cases h : q.items.length = capacity
  · rw [offer_items_of_full h]
    exact List.sublist_append_left q.items [x]
  · rw [offer_items_of_ne h]

theorem push_sublist (q : BoundedQueue α capacity) (x : α) :
    (q.push x).items.Sublist (q.items ++ [x]) := by
  cases hput : q.put x with
  | none =>
      rw [push, hput, Option.getD_none]
      have htail : (q.discard.items ++ [x]).Sublist (q.items ++ [x]) := by
        rw [discard_items]
        exact (List.tail_sublist q.items).append_right [x]
      exact (offer_sublist q.discard x).trans htail
  | some q' => rw [push, hput, Option.getD_some, put_eq_some hput]

end BoundedQueue
