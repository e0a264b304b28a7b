import Mathlib.Data.List.Basic

/-!
# Runs of a step function

A system is a state and a function taking it one event further. This module has the rules the
run theorems rest on: an invariant kept by every step holds after every run, the same for the
runs whose steps all meet a condition on the state they are taken from, and the same for a
relation between two systems.

* `Preserves`: a transformer that keeps an invariant, with the rules for branches and folds.
* `final_simulation`: the rule for two machines in step.
* `final_invariant`: the invariant rule for runs under a condition.
* `forall_prefix_iff_along`: the same as an equivalence, for the states of the whole run.
-/

namespace Run

variable {σ ε : Type*}

/-! ## State transformers -/

/-- `f` keeps the invariant `I`. -/
def Preserves (I : σ → Prop) (f : σ → σ) : Prop := ∀ s, I s → I (f s)

theorem Preserves.branch {I : σ → Prop} {f : σ → σ} (hf : Preserves I f) (c : Prop) [Decidable c] :
    Preserves I fun s => if c then f s else s := by
  intro s hs
  dsimp only
  split_ifs
  · exact hf s hs
  · exact hs

theorem Preserves.foldl {I : σ → Prop} {f : σ → ε → σ} (hf : ∀ e, Preserves I fun s => f s e)
    (events : List ε) : Preserves I fun s => events.foldl f s := by
  induction events with
  | nil => exact fun s hs => hs
  | cons e events ih => exact fun s hs => ih (f s e) (hf e s hs)

/-! ## Runs -/

variable (step : σ → ε → σ)

/-- The state a run ends in. -/
def final (s : σ) (events : List ε) : σ := events.foldl step s

@[simp] theorem final_nil (s : σ) : final step s [] = s := rfl

@[simp] theorem final_cons (s : σ) (e : ε) (events : List ε) :
    final step s (e :: events) = final step (step s e) events := rfl

theorem final_concat (s : σ) (events : List ε) (e : ε) :
    final step s (events ++ [e]) = step (final step s events) e := by
  rw [final, List.foldl_append]
  rfl

theorem final_append (s : σ) (events events' : List ε) :
    final step s (events ++ events') = final step (final step s events) events' :=
  List.foldl_append

/-- The state after event `n`, from the one before it. -/
theorem final_take_succ {events : List ε} {n : Nat} {e : ε} (h : events[n]? = some e) (s : σ) :
    final step s (events.take (n + 1)) = step (final step s (events.take n)) e := by
  rw [List.take_add_one, h, Option.toList_some, final_concat]

/-- Induction over the events of a run, for a property of the state and of what led to it. -/
theorem final_take_induction {events : List ε} {s : σ} {I : Nat → σ → Prop} (hs : I 0 s)
    (hstep : ∀ n e, events[n]? = some e → I n (final step s (events.take n)) →
      I (n + 1) (step (final step s (events.take n)) e)) {n : Nat} (hn : n ≤ events.length) :
    I n (final step s (events.take n)) := by
  induction n with
  | zero => exact hs
  | succ n ih =>
      have hget : events[n]? = some events[n] := List.getElem?_eq_getElem hn
      rw [final_take_succ step hget]
      exact hstep n _ hget (ih (Nat.le_of_succ_le hn))

/-- What the steps of a run put out, in their order. -/
def outputs {α : Type*} (out : σ → ε → List α) : σ → List ε → List α
  | _, [] => []
  | s, e :: events => out s e ++ outputs out (step s e) events

theorem outputs_concat {α : Type*} (out : σ → ε → List α) (s : σ) (events : List ε) (e : ε) :
    outputs step out s (events ++ [e]) =
      outputs step out s events ++ out (final step s events) e := by
  induction events generalizing s with
  | nil => simp [outputs]
  | cons e' events ih => simp [outputs, ih]

theorem outputs_take_succ {α : Type*} (out : σ → ε → List α) {events : List ε} {n : Nat} {e : ε}
    (h : events[n]? = some e) (s : σ) :
    outputs step out s (events.take (n + 1)) =
      outputs step out s (events.take n) ++ out (final step s (events.take n)) e := by
  rw [List.take_add_one, h, Option.toList_some, outputs_concat]

/-- Every event of the run meets `P` in the state it is taken from. -/
def Along (P : σ → ε → Prop) : σ → List ε → Prop
  | _, [] => True
  | s, e :: events => P s e ∧ Along P (step s e) events

instance Along.decidable (P : σ → ε → Prop) [∀ s e, Decidable (P s e)] :
    ∀ (s : σ) (events : List ε), Decidable (Along step P s events)
  | _, [] => inferInstanceAs (Decidable True)
  | s, e :: events =>
    haveI := Along.decidable P (step s e) events
    inferInstanceAs (Decidable (P s e ∧ Along step P (step s e) events))

variable {step} {P : σ → ε → Prop}

/-- A condition that every event meets in any state. -/
theorem along_of_forall {D : ε → Prop} {events : List ε} (h : ∀ e ∈ events, D e) {s : σ} :
    Along step (fun _ e => D e) s events := by
  induction events generalizing s with
  | nil => trivial
  | cons e events ih =>
      exact ⟨h e List.mem_cons_self, ih fun e' he' => h e' (List.mem_cons_of_mem _ he')⟩

theorem along_append {s : σ} {events events' : List ε} (h : Along step P s events)
    (h' : Along step P (final step s events) events') : Along step P s (events ++ events') := by
  induction events generalizing s with
  | nil => exact h'
  | cons e events ih => exact ⟨h.1, ih h.2 h'⟩

theorem along_concat {s : σ} {events : List ε} {e : ε} :
    Along step P s (events ++ [e]) ↔ Along step P s events ∧ P (final step s events) e := by
  induction events generalizing s with
  | nil => simp [Along]
  | cons e' events ih => simp [Along, ih, and_assoc]

/-- Event `n` of the run, in the state that it is taken from. -/
theorem Along.get {s : σ} {events : List ε} (h : Along step P s events) {n : Nat} {e : ε}
    (hget : events[n]? = some e) : P (final step s (events.take n)) e := by
  induction events generalizing s n with
  | nil => exact absurd hget (by simp)
  | cons e' events ih =>
      cases n with
      | zero =>
          obtain rfl := Option.some.inj hget
          exact h.1
      | succ n => exact ih h.2 hget

theorem Along.and {Q : σ → ε → Prop} {s : σ} {events : List ε} (h : Along step P s events)
    (h' : Along step Q s events) : Along step (fun s e => P s e ∧ Q s e) s events := by
  induction events generalizing s with
  | nil => trivial
  | cons e events ih => exact ⟨⟨h.1, h'.1⟩, ih h.2 h'.2⟩

/-- A condition on the steps keeps an invariant and gives `Q` at each step. -/
theorem along_imp {I : σ → Prop} {Q : σ → ε → Prop}
    (h : ∀ s e, I s → P s e → I (step s e) ∧ Q s e) {s : σ} (hs : I s) {events : List ε}
    (halong : Along step P s events) : Along step Q s events := by
  induction events generalizing s with
  | nil => trivial
  | cons e events ih =>
      obtain ⟨hI, hQ⟩ := h s e hs halong.1
      exact ⟨hQ, ih hI halong.2⟩

/-- Conditions that agree wherever an invariant holds, in a run of events that can happen. -/
theorem along_congr_of {I : σ → Prop} {D Q : σ → ε → Prop}
    (hstep : ∀ s e, I s → D s e → I (step s e)) (h : ∀ s e, I s → D s e → (P s e ↔ Q s e)) {s : σ}
    (hs : I s) {events : List ε} (hD : Along step D s events) :
    Along step P s events ↔ Along step Q s events := by
  induction events generalizing s with
  | nil => exact Iff.rfl
  | cons e events ih => exact and_congr (h s e hs hD.1) (ih (hstep s e hs hD.1) hD.2)

/-- Conditions that agree wherever an invariant holds. -/
theorem along_congr {I : σ → Prop} {Q : σ → ε → Prop} (hstep : ∀ s e, I s → I (step s e))
    (h : ∀ s e, I s → (P s e ↔ Q s e)) {s : σ} (hs : I s) {events : List ε} :
    Along step P s events ↔ Along step Q s events :=
  along_congr_of (D := fun _ _ => True) (fun s e hs _ => hstep s e hs) (fun s e hs _ => h s e hs)
    hs (along_of_forall fun _ _ => trivial)

/-- Conditions that agree wherever an invariant holds that the steps meeting them keep. -/
theorem along_congr_while {I : σ → Prop} {Q : σ → ε → Prop}
    (hstep : ∀ s e, I s → P s e → I (step s e)) (h : ∀ s e, I s → (P s e ↔ Q s e)) {s : σ}
    (hs : I s) {events : List ε} : Along step P s events ↔ Along step Q s events := by
  induction events generalizing s with
  | nil => exact Iff.rfl
  | cons e events ih =>
      constructor
      · intro halong
        obtain ⟨hP, hrest⟩ := halong
        exact ⟨(h s e hs).1 hP, (ih (hstep s e hs hP)).1 hrest⟩
      · intro halong
        obtain ⟨hQ, hrest⟩ := halong
        have hP := (h s e hs).2 hQ
        exact ⟨hP, (ih (hstep s e hs hP)).2 hrest⟩

/-- Forward simulation: a relation kept by every step relates the states two runs end in. -/
theorem final_simulation {τ : Type*} {stepT : τ → ε → τ} {R : σ → τ → Prop}
    (hstep : ∀ s t e, R s t → R (step s e) (stepT t e)) {s : σ} {t : τ} (h : R s t)
    (events : List ε) : R (final step s events) (final stepT t events) := by
  induction events generalizing s t with
  | nil => exact h
  | cons e events ih => exact ih (hstep s t e h)

theorem final_invariant {I : σ → Prop} (hstep : ∀ s e, I s → P s e → I (step s e)) {s : σ}
    (hs : I s) {events : List ε} (h : Along step P s events) : I (final step s events) := by
  induction events generalizing s with
  | nil => exact hs
  | cons e events ih => exact ih (hstep s e hs h.1) h.2

/-- An invariant that every event keeps. -/
theorem final_preserves {I : σ → Prop} (hstep : ∀ s e, I s → I (step s e)) {s : σ} (hs : I s)
    (events : List ε) : I (final step s events) :=
  Preserves.foldl (fun e s hs => hstep s e hs) events s hs

/-- A system whose every step is, through `image`, a run of another one keeps its invariants. `J`
is what the image may rely on, and `D` says which events happen. -/
theorem final_invariant_of_image {τ δ : Type*} {stepT : τ → δ → τ} {I : τ → Prop}
    (hI : ∀ t d, I t → I (stepT t d)) {J : σ → Prop} {D : ε → Prop} (image : σ → τ)
    (ops : σ → ε → List δ) (hJ : ∀ s e, J s → D e → J (step s e))
    (hstep : ∀ s e, J s → D e → image (step s e) = final stepT (image s) (ops s e)) {s : σ}
    (hs : J s) (himage : I (image s)) {events : List ε} (h : ∀ e ∈ events, D e) :
    J (final step s events) ∧ I (image (final step s events)) := by
  refine final_invariant (I := fun s => J s ∧ I (image s)) (P := fun _ e => D e)
    (fun s e hs he => ?_) ⟨hs, himage⟩ (along_of_forall h)
  refine ⟨hJ s e hs.1 he, ?_⟩
  rw [hstep s e hs.1 he]
  exact final_preserves hI hs.2 _

/-- The same when the image relies on nothing, for all events. -/
theorem final_preserves_of_image {τ δ : Type*} {stepT : τ → δ → τ} {I : τ → Prop}
    (hI : ∀ t d, I t → I (stepT t d)) (image : σ → τ) (ops : σ → ε → List δ)
    (hstep : ∀ s e, image (step s e) = final stepT (image s) (ops s e)) {s : σ}
    (himage : I (image s)) (events : List ε) : I (image (final step s events)) :=
  (final_invariant_of_image (J := fun _ => True) (D := fun _ => True) hI image ops
    (fun _ _ _ _ => trivial) (fun s e _ _ => hstep s e) trivial himage fun _ _ => trivial).2

/-- What each event of a kind brings one nearer, and no other puts off, is there once there have
been enough of them. -/
theorem final_countdown {I : Nat → σ → Prop} {counts : ε → Bool}
    (hcounts : ∀ s e n, counts e = true → I n s → I (n - 1) (step s e))
    (hother : ∀ s e n, counts e = false → I n s → I n (step s e)) {n : Nat} {s : σ} (hs : I n s)
    (events : List ε) : I (n - events.countP counts) (final step s events) := by
  induction events generalizing n s with
  | nil => exact hs
  | cons e events ih =>
      cases he : counts e with
      | true =>
          have hstep := ih (hcounts s e n he hs)
          rw [Nat.sub_sub, Nat.add_comm 1] at hstep
          rw [List.countP_cons_of_pos he]
          exact hstep
      | false =>
          rw [List.countP_cons_of_neg (by simp [he])]
          exact ih (hother s e n he hs)

/-- Steps taken one at a time are the states of the prefixes taken two at a time. -/
theorem along_iff_forall_take {R : σ → σ → Prop} (hrefl : ∀ s, R s s) {s : σ} {events : List ε} :
    Along step (fun s e => R s (step s e)) s events ↔
      ∀ m, R (final step s (events.take m)) (final step s (events.take (m + 1))) := by
  induction events generalizing s with
  | nil =>
      simp only [List.take_nil, final_nil, Along, true_iff]
      exact fun _ => hrefl s
  | cons e events ih =>
      constructor
      · intro halong m
        obtain ⟨hnow, hrest⟩ := halong
        cases m with
        | zero => exact hnow
        | succ m => exact ih.1 hrest m
      · intro h
        exact ⟨h 0, ih.2 fun m => h (m + 1)⟩

/-- When each good step keeps the invariant and each bad one breaks `Good`, the states of a run
are all good exactly when its steps are. `D` says which events can happen at all. -/
theorem forall_prefix_iff_along {I Good : σ → Prop} {D : σ → ε → Prop}
    (hgood : ∀ s, I s → Good s) (hstep : ∀ s e, I s → D s e → P s e → I (step s e))
    (hbad : ∀ s e, I s → D s e → ¬ P s e → ¬ Good (step s e)) {s : σ} (hs : I s)
    {events : List ε} (hD : Along step D s events) :
    (∀ m, Good (final step s (events.take m))) ↔ Along step P s events := by
  induction events generalizing s with
  | nil =>
      simp only [List.take_nil, final_nil, Along, iff_true]
      exact fun _ => hgood s hs
  | cons e events ih =>
      obtain ⟨hDe, hDs⟩ := hD
      constructor
      · intro h
        have hP : P s e := by
          by_contra hP
          exact hbad s e hs hDe hP (h 1)
        exact ⟨hP, (ih (hstep s e hs hDe hP) hDs).1 fun m => h (m + 1)⟩
      · intro halong m
        obtain ⟨hP, hPs⟩ := halong
        cases m with
        | zero => exact hgood s hs
        | succ m => exact (ih (hstep s e hs hDe hP) hDs).2 hPs m

/-- The same where every event can happen. -/
theorem forall_prefix_iff_along_any {I Good : σ → Prop} (hgood : ∀ s, I s → Good s)
    (hstep : ∀ s e, I s → P s e → I (step s e))
    (hbad : ∀ s e, I s → ¬ P s e → ¬ Good (step s e)) {s : σ} (hs : I s) {events : List ε} :
    (∀ m, Good (final step s (events.take m))) ↔ Along step P s events :=
  forall_prefix_iff_along (D := fun _ _ => True) hgood (fun s e hs _ hP => hstep s e hs hP)
    (fun s e hs _ hP => hbad s e hs hP) hs (along_of_forall fun _ _ => trivial)

end Run
