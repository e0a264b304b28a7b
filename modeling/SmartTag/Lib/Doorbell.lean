import Mathlib.Logic.Function.Basic
import SmartTag.Lib.Run

/-!
# Doorbells

Writers change a value and then ring; one consumer sleeps until the bell rings, and reads the value
when it is up. The bell is a single bit: any number of rings while the consumer is up are one. A
writer may look first whether the consumer is attached, and keep quiet if it is not; whoever
attaches the consumer rings then.

* `Inv`: while the consumer is attached, it has seen the value, or is going to read it, or a ring
  is on its way.
* `Inv.seen_eq_value`: no update is missed. When the consumer rests and nobody is about to ring, it
  has seen the value.
-/

namespace Doorbell

variable {ι α : Type*}

/-- Where a writer is. -/
inductive Writer where
  | idle
  /-- It has written, and has not looked yet. -/
  | wrote
  /-- It is going to ring. -/
  | ringing
deriving DecidableEq

/-- Where the consumer is. -/
inductive Consumer where
  /-- It is up and has not read yet. -/
  | reading
  /-- It has read. -/
  | done
  | waiting
deriving DecidableEq

@[ext]
structure State (ι α : Type*) where
  value : α
  /-- What the consumer read last. -/
  seen : α
  attached : Bool
  writer : ι → Writer
  rung : Bool
  consumer : Consumer

inductive Op (ι α : Type*) where
  | write (i : ι) (v : α)
  | look (i : ι)
  | ring (i : ι)
  | attach (i : ι)
  | detach
  /-- The consumer takes the ring that is there. -/
  | wake
  /-- The consumer gets up without one. -/
  | timeout
  | read
  /-- The consumer goes back without reading: it is not attached, or the bell has rung again. -/
  | skip
  | rest

/-- An attached consumer has seen the value, or it will be told to read. -/
def Inv (s : State ι α) : Prop :=
  s.attached = true →
    s.seen = s.value ∨ s.rung = true ∨ s.consumer = .reading ∨ ∃ i, s.writer i ≠ .idle

/-- The consumer is asleep, and neither is a ring there nor anybody about to ring. -/
structure Quiet (s : State ι α) : Prop where
  attached : s.attached = true
  waiting : s.consumer = .waiting
  unrung : s.rung = false
  idle : ∀ i, s.writer i = .idle

theorem Inv.seen_eq_value {s : State ι α} (h : Inv s) (hquiet : Quiet s) : s.seen = s.value := by
  rcases h hquiet.attached with hseen | hrung | hreading | ⟨i, hi⟩
  · exact hseen
  · exact absurd (hrung.symm.trans hquiet.unrung) (by simp)
  · exact absurd (hreading.symm.trans hquiet.waiting) (by simp)
  · exact absurd (hquiet.idle i) hi

/-- A writer that is not idle keeps the invariant on its own. -/
theorem inv_of_writer {s : State ι α} {i : ι} (h : s.writer i ≠ .idle) : Inv s :=
  fun _ => Or.inr (Or.inr (Or.inr ⟨i, h⟩))

variable [DecidableEq ι]

def step (s : State ι α) : Op ι α → State ι α
  | .write i v => { s with value := v, writer := Function.update s.writer i .wrote }
  | .look i =>
    { s with writer := Function.update s.writer i (if s.attached then .ringing else .idle) }
  | .ring i => { s with rung := true, writer := Function.update s.writer i .idle }
  | .attach i => { s with attached := true, writer := Function.update s.writer i .ringing }
  | .detach => { s with attached := false }
  | .wake =>
    if s.rung ∧ s.consumer = .waiting then { s with rung := false, consumer := .reading } else s
  | .timeout => if s.consumer = .waiting then { s with consumer := .reading } else s
  | .read => if s.consumer = .reading then { s with seen := s.value, consumer := .done } else s
  | .skip =>
    if s.consumer = .reading ∧ (s.attached = false ∨ s.rung = true) then
      { s with consumer := .waiting }
    else s
  | .rest => if s.consumer = .done then { s with consumer := .waiting } else s

theorem Inv.step {s : State ι α} (h : Inv s) (op : Op ι α) : Inv (step s op) := by
  cases op with
  | write i v =>
      refine inv_of_writer (i := i) ?_
      simp [Doorbell.step]
  | look i =>
      rw [Doorbell.step]
      split_ifs with hattached
      · refine inv_of_writer (i := i) ?_
        simp
      · -- Nobody listens, so nothing is owed.
        exact fun hyes => absurd hyes hattached
  | ring i => exact fun _ => Or.inr (Or.inl rfl)
  | attach i =>
      refine inv_of_writer (i := i) ?_
      simp [Doorbell.step]
  | detach => exact fun hyes => absurd hyes (by simp [Doorbell.step])
  | wake =>
      rw [Doorbell.step]
      split_ifs
      · exact fun _ => Or.inr (Or.inr (Or.inl rfl))
      · exact h
  | timeout =>
      rw [Doorbell.step]
      split_ifs
      · exact fun _ => Or.inr (Or.inr (Or.inl rfl))
      · exact h
  | read =>
      rw [Doorbell.step]
      split_ifs
      · exact fun _ => Or.inl rfl
      · exact h
  | skip =>
      rw [Doorbell.step]
      split_ifs with hskip
      · intro hattached
        rcases hskip.2 with hnot | hrung
        · exact absurd (hattached.symm.trans hnot) (by simp)
        · exact Or.inr (Or.inl hrung)
      · exact h
  | rest =>
      rw [Doorbell.step]
      split_ifs with hdone
      · intro hattached
        rcases h hattached with hseen | hrung | hreading | hwriter
        · exact Or.inl hseen
        · exact Or.inr (Or.inl hrung)
        · rw [hdone] at hreading
          cases hreading
        · exact Or.inr (Or.inr (Or.inr hwriter))
      · exact h

end Doorbell
