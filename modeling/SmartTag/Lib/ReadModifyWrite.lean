import SmartTag.Lib.Run

/-!
# Concurrent read, modify, write

Callers change a shared value by taking a copy, changing the copy and writing it back. The read
and the write are atomic, the time in between is not. `step` is one of the two; a write that is
not accepted ends the call and leaves the value alone.

* `value_eq_serial_iff`: the value is always what the updates make of it one after the other,
  exactly when no copy written back is stale.
* `fresh_of_exclusive`: no copy is stale if nobody writes while another caller holds a copy.
-/

namespace ReadModifyWrite

variable {ι σ : Type*}

/-- The shared value, the copies held, and the updates that have taken effect, in order. -/
structure State (ι σ : Type*) where
  value : σ
  copies : ι → Option σ
  done : List ι

/-- Nobody has called yet. -/
def State.start (value : σ) : State ι σ where
  value := value
  copies := fun _ => none
  done := []

/-- One atomic section of the call `i`. -/
inductive Section (ι : Type*) where
  | read (i : ι)
  | write (i : ι)
deriving DecidableEq

variable (update : ι → σ → σ) (accept : σ → Bool)

/-- The updates applied one after the other. -/
def serial (value : σ) (done : List ι) : σ := done.foldl (fun value i => update i value) value

theorem serial_concat (value : σ) (done : List ι) (i : ι) :
    serial update value (done ++ [i]) = update i (serial update value done) := by
  rw [serial, List.foldl_append]
  rfl

/-- The value is what the updates done make of the first one. -/
def State.IsSerial (value : σ) (s : State ι σ) : Prop := s.value = serial update value s.done

variable [DecidableEq ι]

def step (s : State ι σ) : Section ι → State ι σ
  | .read i => { s with copies := Function.update s.copies i (some s.value) }
  | .write i =>
    match s.copies i with
    | none => s
    | some copy =>
      let copies := Function.update s.copies i none
      if accept (update i copy) then
        { value := update i copy, copies := copies, done := s.done ++ [i] }
      else { s with copies := copies }

/-- A copy written back becomes what the update makes of the value itself. -/
def Fresh (s : State ι σ) : Section ι → Prop
  | .read _ => True
  | .write i => ∀ copy ∈ s.copies i, accept (update i copy) = true →
      update i copy = update i s.value

/-- Nobody else holds a copy at a write. -/
def Exclusive (s : State ι σ) : Section ι → Prop
  | .read _ => True
  | .write i => ∀ j, j ≠ i → s.copies j = none

variable {update accept}

/-- What a write does when the caller holds a copy that is accepted. -/
theorem step_write {s : State ι σ} {i : ι} {copy : σ} (h : s.copies i = some copy)
    (haccept : accept (update i copy) = true) :
    step update accept s (.write i) =
      { value := update i copy
        copies := Function.update s.copies i none
        done := s.done ++ [i] } := by
  rw [step, h]
  dsimp only
  rw [if_pos haccept]

/-- Any other write ends the call. -/
theorem step_write_rejected {s : State ι σ} {i : ι}
    (h : ∀ copy ∈ s.copies i, accept (update i copy) = false) :
    step update accept s (.write i) =
      { s with copies := Function.update s.copies i none } := by
  cases hcopy : s.copies i with
  | none =>
      have hsame : Function.update s.copies i none = s.copies := by
        rw [← hcopy, Function.update_eq_self]
      rw [step, hcopy, hsame]
  | some copy =>
      rw [step, hcopy]
      dsimp only
      rw [h copy hcopy]
      rfl

theorem serial_step {value : σ} {s : State ι σ} (hs : s.IsSerial update value) {e : Section ι}
    (hfresh : Fresh update accept s e) : (step update accept s e).IsSerial update value := by
  cases e with
  | read i => exact hs
  | write i =>
      by_cases h : ∃ copy ∈ s.copies i, accept (update i copy) = true
      · obtain ⟨copy, hcopy, haccept⟩ := h
        rw [step_write hcopy haccept, State.IsSerial, serial_concat]
        exact (hfresh copy hcopy haccept).trans (congrArg (update i) hs)
      · rw [step_write_rejected (by simpa using h)]
        exact hs

theorem not_serial_step {value : σ} {s : State ι σ} (hs : s.IsSerial update value)
    {e : Section ι} (hstale : ¬ Fresh update accept s e) :
    ¬ (step update accept s e).IsSerial update value := by
  cases e with
  | read i => exact absurd trivial hstale
  | write i =>
      simp only [Fresh, not_forall] at hstale
      obtain ⟨copy, hcopy, haccept, hne⟩ := hstale
      rw [step_write hcopy haccept, State.IsSerial, serial_concat]
      intro hsame
      exact hne (hsame.trans (congrArg (update i) hs.symm))

variable (update accept) in
theorem value_eq_serial_iff (value : σ) (sections : List (Section ι)) :
    (∀ m, (Run.final (step update accept) (.start value) (sections.take m)).IsSerial
        update value) ↔
      Run.Along (step update accept) (Fresh update accept) (.start value) sections := by
  have hstart : (State.start value : State ι σ).IsSerial update value := rfl
  exact Run.forall_prefix_iff_along_any (P := Fresh update accept) (fun _ hs => hs)
    (fun _ _ hs hfresh => serial_step hs hfresh)
    (fun _ _ hs hstale => not_serial_step hs hstale) hstart

/-! ## Callers that take turns -/

/-- Every copy held is the value. -/
def State.Current (s : State ι σ) : Prop := ∀ i, ∀ copy ∈ s.copies i, copy = s.value

theorem current_step {s : State ι σ} (hs : s.Current) {e : Section ι} (h : Exclusive s e) :
    (step update accept s e).Current := by
  cases e with
  | read i =>
      intro j copy hcopy
      by_cases hj : j = i
      · subst hj
        simp only [step, Function.update_self, Option.mem_some_iff] at hcopy
        exact hcopy.symm
      · simp only [step, Function.update_of_ne hj] at hcopy
        exact hs j copy hcopy
  | write i =>
      have hnone : Function.update s.copies i none = fun _ => none := by
        funext j
        by_cases hj : j = i
        · rw [hj, Function.update_self]
        · rw [Function.update_of_ne hj]
          exact h j hj
      by_cases haccept : ∃ copy ∈ s.copies i, accept (update i copy) = true
      · obtain ⟨copy, hcopy, haccept⟩ := haccept
        rw [step_write hcopy haccept, hnone]
        intro j copy hmem
        cases hmem
      · rw [step_write_rejected (by simpa using haccept), hnone]
        intro j copy hmem
        cases hmem

theorem fresh_of_exclusive {s : State ι σ} (hs : s.Current) {sections : List (Section ι)}
    (h : Run.Along (step update accept) Exclusive s sections) :
    Run.Along (step update accept) (Fresh update accept) s sections := by
  induction sections generalizing s with
  | nil => trivial
  | cons e sections ih =>
      obtain ⟨hnow, hlater⟩ := h
      refine ⟨?_, ih (current_step hs hnow) hlater⟩
      cases e with
      | read i => trivial
      | write i =>
          intro copy hcopy _
          rw [hs i copy hcopy]

end ReadModifyWrite
