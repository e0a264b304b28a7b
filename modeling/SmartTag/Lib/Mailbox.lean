import SmartTag.Lib.Run

/-!
# Mailboxes

A mailbox has room for one item. Whoever puts an item in replaces the one there; whoever takes it
leaves the box empty.

* `Inv.taken_sublist`: no item is taken twice or out of turn.
* `Inv.getLast?_taken`: the last item put in is never lost, only the ones before it. Once the box is
  empty it is the last one taken.
-/

namespace Mailbox

variable {α : Type*}

/-- The item in the box, the items put in and the items taken. -/
structure State (α : Type*) where
  box : Option α
  put : List α
  taken : List α

inductive Op (α : Type*) where
  | put (x : α)
  | take

def step (s : State α) : Op α → State α
  | .put x => { s with box := some x, put := s.put ++ [x] }
  | .take => { s with box := none, taken := s.taken ++ s.box.toList }

/-- The items taken, and then the one that can still be. -/
def State.stream (s : State α) : List α := s.taken ++ s.box.toList

structure Inv (s : State α) : Prop where
  sublist : s.stream.Sublist s.put
  getLast? : s.stream.getLast? = s.put.getLast?

theorem stream_take (s : State α) : (step s .take).stream = s.stream := by
  simp [step, State.stream]

theorem Inv.step {s : State α} (h : Inv s) (op : Op α) : Inv (step s op) := by
  cases op with
  | put x =>
      have htaken : s.taken.Sublist s.put := (List.sublist_append_left _ _).trans h.sublist
      exact ⟨htaken.append_right [x], by simp [Mailbox.step, State.stream]⟩
  | take =>
      constructor
      · rw [stream_take]
        exact h.sublist
      · rw [stream_take]
        exact h.getLast?

theorem Inv.taken_sublist {s : State α} (h : Inv s) : s.taken.Sublist s.put :=
  (List.sublist_append_left _ _).trans h.sublist

theorem Inv.getLast?_taken {s : State α} (h : Inv s) (hbox : s.box = none) :
    s.taken.getLast? = s.put.getLast? := by
  simpa [State.stream, hbox] using h.getLast?

end Mailbox
