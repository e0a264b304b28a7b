import Mathlib.Data.Finset.Card
import SmartTag.App.EventQueue

/-!
# Events as logged and as delivered

`app_raise_event` logs an event, counts it under the lock and hands it to the subscribers. Any
number of threads may be in it at once, and the clock goes on between the three. The record that
is logged and the record that is delivered are built separately, each with its own reading of the
clock.

* `raise_alone`: a call that no other interrupts, while the clock stands still, is
  `appRaiseEvent`.
* `deliver_prefix_iff`: a delivery is in turn exactly when it carries the log on.
* `delivered_as_logged_iff`: every subscriber is handed what is logged exactly when the events are
  delivered in the order in which they were logged, each within the second in which it was.
-/

namespace SmartTag

/-! ## Records -/

theorem EventType.toUInt8_injective : Function.Injective EventType.toUInt8 := by
  intro a b h
  cases a <;> cases b <;> first | rfl | exact absurd h (by decide)

theorem EventSeverity.toUInt8_injective : Function.Injective EventSeverity.toUInt8 := by
  intro a b h
  cases a <;> cases b <;> first | rfl | exact absurd h (by decide)

/-- A record tells the event and the second apart. -/
theorem PendingEvent.record_eq_iff {e e' : PendingEvent} {t t' : Nat} :
    e.record t = e'.record t' ↔ e = e' ∧ uptimeS t = uptimeS t' := by
  constructor
  · intro h
    simp only [record, EventRecord.mk.injEq] at h
    obtain ⟨htime, htype, hseverity, hvalue⟩ := h
    refine ⟨?_, htime⟩
    cases e
    cases e'
    rw [PendingEvent.mk.injEq]
    exact ⟨EventType.toUInt8_injective htype, EventSeverity.toUInt8_injective hseverity, hvalue⟩
  · intro h
    obtain ⟨rfl, htime⟩ := h
    rw [record, record, htime]

/-! ## Calls in parallel -/

/-- How far a thread is in `app_raise_event`; `uptimeMs` is the clock its record was built with. -/
inductive RaiseCall where
  | idle
  | logged (event : PendingEvent)
  | counted (event : PendingEvent) (uptimeMs : Nat)
deriving DecidableEq, Repr

/-- The tag with the threads `ι` that raise events and the records each subscriber of `κ` was
handed. `appended` has the events logged, with the clock at the time, and `delivered` counts the
rounds of the subscriber loop. -/
structure RaiseRun (ι κ : Type*) where
  uptimeMs : Nat
  tag : Tag
  calls : ι → RaiseCall
  inbox : κ → List EventRecord
  appended : List (PendingEvent × Nat)
  delivered : Nat

inductive RaiseStep (ι : Type*) where
  | tick (ms : Nat)
  | log (i : ι) (event : PendingEvent)
  | count (i : ι)
  | deliver (i : ι)
deriving DecidableEq

namespace RaiseRun

variable {ι κ : Type*}

/-- Nobody has raised anything yet. -/
def start (uptimeMs : Nat) (tag : Tag) : RaiseRun ι κ where
  uptimeMs := uptimeMs
  tag := tag
  calls := fun _ => .idle
  inbox := fun _ => []
  appended := []
  delivered := 0

/-- The records in the event log. -/
def logRecords (s : RaiseRun ι κ) : List EventRecord := s.appended.map fun p => p.1.record p.2

/-- The subscriber has the records of the event log, or the first of them while calls are under
way. -/
def Matches (k : κ) (s : RaiseRun ι κ) : Prop :=
  s.inbox k <+: s.logRecords ∧ ((∀ i, s.calls i = .idle) → s.inbox k = s.logRecords)

/-- The call that delivers raised the event that is next in the log, and built its record within
the second in which that was logged. -/
def InTurn (s : RaiseRun ι κ) : RaiseStep ι → Prop
  | .deliver i => ∀ event uptimeMs, s.calls i = .counted event uptimeMs →
      ∃ loggedMs, s.appended[s.delivered]? = some (event, loggedMs) ∧
        uptimeS loggedMs = uptimeS uptimeMs
  | _ => True

/-! ## What is in flight -/

/-- The subscriber has the first records of the log, one for each round of the loop, and every
other one belongs to a call under way. -/
structure Sound (k : κ) (s : RaiseRun ι κ) : Prop where
  inOrder : s.inbox k <+: s.logRecords
  rounds : (s.inbox k).length = s.delivered
  inFlight : ∃ busy : Finset ι, (∀ i, i ∈ busy ↔ s.calls i ≠ .idle) ∧
    busy.card + s.delivered = s.appended.length

theorem sound_start (k : κ) (uptimeMs : Nat) (tag : Tag) :
    (start uptimeMs tag : RaiseRun ι κ).Sound k where
  inOrder := List.prefix_refl []
  rounds := rfl
  inFlight := ⟨∅, by simp [start], rfl⟩

theorem Sound.matches {k : κ} {s : RaiseRun ι κ} (h : s.Sound k) : s.Matches k := by
  refine ⟨h.inOrder, ?_⟩
  intro hidle
  obtain ⟨busy, hbusy, hcard⟩ := h.inFlight
  have hempty : busy = ∅ := by
    apply Finset.eq_empty_of_forall_notMem
    intro i hi
    exact (hbusy i).1 hi (hidle i)
  refine h.inOrder.eq_of_length ?_
  rw [h.rounds, logRecords, List.length_map, ← hcard, hempty, Finset.card_empty, Nat.zero_add]

theorem concat_prefix_iff {α : Type*} {xs ys : List α} {x : α} :
    xs ++ [x] <+: ys ↔ xs <+: ys ∧ ys[xs.length]? = some x := by
  constructor
  · intro h
    obtain ⟨rest, rfl⟩ := h
    exact ⟨(List.prefix_append xs [x]).trans (List.prefix_append _ rest), by simp⟩
  · intro h
    obtain ⟨⟨rest, rfl⟩, hx⟩ := h
    rw [List.getElem?_append_right (Nat.le_refl _), Nat.sub_self] at hx
    cases rest with
    | nil => cases hx
    | cons y rest =>
        cases hx
        exact (List.prefix_append_right_inj xs).2 (List.prefix_append [x] rest)

/-- A delivery carries the log on exactly when it is in turn. -/
theorem deliver_prefix_iff {k : κ} {s : RaiseRun ι κ} (h : s.Sound k) {i : ι}
    {event : PendingEvent} {uptimeMs : Nat} (hcall : s.calls i = .counted event uptimeMs) :
    s.inbox k ++ [event.record uptimeMs] <+: s.logRecords ↔ s.InTurn (.deliver i) := by
  rw [concat_prefix_iff, h.rounds, logRecords, List.getElem?_map, Option.map_eq_some_iff]
  constructor
  · intro hnext
    obtain ⟨_, ⟨event', loggedMs⟩, hget, hrecord⟩ := hnext
    obtain ⟨hevent, htime⟩ := PendingEvent.record_eq_iff.1 hrecord
    intro event'' uptimeMs'' hcall''
    rw [hcall] at hcall''
    cases hcall''
    cases hevent
    exact ⟨loggedMs, hget, htime⟩
  · intro hturn
    obtain ⟨loggedMs, hget, htime⟩ := hturn event uptimeMs hcall
    exact ⟨h.inOrder, (event, loggedMs), hget, PendingEvent.record_eq_iff.2 ⟨rfl, htime⟩⟩

/-! ### Threads under way -/

section

variable [DecidableEq ι]

theorem mem_insert_busy {calls : ι → RaiseCall} {busy : Finset ι}
    (hbusy : ∀ j, j ∈ busy ↔ calls j ≠ .idle) (i : ι) {call : RaiseCall} (hcall : call ≠ .idle)
    (j : ι) : j ∈ insert i busy ↔ Function.update calls i call j ≠ .idle := by
  by_cases hj : j = i
  · subst hj
    simp [hcall]
  · simp [hj, hbusy]

theorem mem_erase_busy {calls : ι → RaiseCall} {busy : Finset ι}
    (hbusy : ∀ j, j ∈ busy ↔ calls j ≠ .idle) (i j : ι) :
    j ∈ busy.erase i ↔ Function.update calls i .idle j ≠ .idle := by
  by_cases hj : j = i
  · subst hj
    simp
  · simp [hj, hbusy]

end

/-! ## The steps of a call -/

section

variable [Crc16]

/-- Logging succeeds. -/
def Logs (s : RaiseRun ι κ) : RaiseStep ι → Prop
  | .log i event => s.calls i = .idle →
      (eventLogAdd s.uptimeMs event.type event.severity event.value s.tag.eventLog).1.isOk = true
  | _ => True

instance (s : RaiseRun ι κ) (e : RaiseStep ι) : Decidable (s.Logs e) := by
  cases e <;> unfold Logs <;> infer_instance

variable [DecidableEq ι]

/-- The three atomic parts of `app_raise_event`. The record is built before the count. -/
def step (s : RaiseRun ι κ) : RaiseStep ι → RaiseRun ι κ
  | .tick ms => { s with uptimeMs := s.uptimeMs + ms }
  | .log i event =>
    match s.calls i with
    | .idle =>
      let (logged, eventLog) :=
        eventLogAdd s.uptimeMs event.type event.severity event.value s.tag.eventLog
      { s with
        tag := { s.tag with eventLog := eventLog }
        calls := Function.update s.calls i (.logged event)
        appended :=
          if logged.isOk then s.appended ++ [(event, s.uptimeMs)] else s.appended }
    | _ => s
  | .count i =>
    match s.calls i with
    | .logged event =>
      { s with
        tag := { s.tag with app := countEvent s.tag.app }
        calls := Function.update s.calls i (.counted event s.uptimeMs) }
    | _ => s
  | .deliver i =>
    match s.calls i with
    | .counted event uptimeMs =>
      { s with
        calls := Function.update s.calls i .idle
        inbox := fun k => s.inbox k ++ [event.record uptimeMs]
        delivered := s.delivered + 1 }
    | _ => s

/-- A call that meets no other one. -/
theorem raise_alone {s : RaiseRun ι κ} {i : ι} (hidle : s.calls i = .idle) (event : PendingEvent) :
    let t := Run.final step s [.log i event, .count i, .deliver i]
    let raised := appRaiseEvent s.uptimeMs event.type event.severity event.value s.tag
    t.tag = raised.2 ∧ t.calls = s.calls ∧ ∀ k, t.inbox k = s.inbox k ++ [raised.1.2] := by
  intro t raised
  have ht : t = ((s.step (.log i event)).step (.count i)).step (.deliver i) := rfl
  simp only [step, hidle, Function.update_self, Function.update_idem] at ht
  have hcalls : Function.update s.calls i .idle = s.calls := by
    rw [← hidle, Function.update_eq_self]
  rw [hcalls] at ht
  rw [ht]
  exact ⟨rfl, rfl, fun k => rfl⟩

/-! ## One step -/

theorem sound_log {k : κ} {s : RaiseRun ι κ} (h : s.Sound k) {i : ι} {event : PendingEvent}
    (hlogs : s.Logs (.log i event)) : (s.step (.log i event)).Sound k := by
  unfold step
  dsimp only
  split
  · next hidle =>
      rw [if_pos (hlogs hidle)]
      obtain ⟨busy, hbusy, hcard⟩ := h.inFlight
      -- one more call under way, one more record in the log
      have hnotMem : i ∉ busy := fun hi => (hbusy i).1 hi hidle
      refine ⟨?_, h.rounds, insert i busy, mem_insert_busy hbusy i (by simp), ?_⟩
      · have hgrow : s.logRecords <+: (s.appended ++ [(event, s.uptimeMs)]).map
            fun p => p.1.record p.2 := (List.prefix_append _ _).map _
        exact h.inOrder.trans hgrow
      · simp only [Finset.card_insert_of_notMem hnotMem, List.length_append, List.length_singleton]
        omega
  · exact h

theorem sound_count {k : κ} {s : RaiseRun ι κ} (h : s.Sound k) (i : ι) :
    (s.step (.count i)).Sound k := by
  unfold step
  dsimp only
  split
  · next event hlogged =>
      obtain ⟨busy, hbusy, hcard⟩ := h.inFlight
      have hmem : i ∈ busy := (hbusy i).2 (by simp [hlogged])
      refine ⟨h.inOrder, h.rounds, insert i busy, mem_insert_busy hbusy i (by simp), ?_⟩
      rw [Finset.insert_eq_of_mem hmem]
      exact hcard
  · exact h

theorem sound_deliver {k : κ} {s : RaiseRun ι κ} (h : s.Sound k) {i : ι}
    (hturn : s.InTurn (.deliver i)) : (s.step (.deliver i)).Sound k := by
  unfold step
  dsimp only
  split
  · next event uptimeMs hcall =>
      obtain ⟨busy, hbusy, hcard⟩ := h.inFlight
      have hmem : i ∈ busy := (hbusy i).2 (by simp [hcall])
      refine ⟨(deliver_prefix_iff h hcall).2 hturn, ?_, busy.erase i, mem_erase_busy hbusy i, ?_⟩
      · rw [List.length_append, h.rounds, List.length_singleton]
      · have herase := Finset.card_erase_add_one hmem
        dsimp only
        omega
  · exact h

theorem sound_step {k : κ} {s : RaiseRun ι κ} {e : RaiseStep ι} (h : s.Sound k) (hlogs : s.Logs e)
    (hturn : s.InTurn e) : (s.step e).Sound k := by
  cases e with
  | tick ms => exact ⟨h.inOrder, h.rounds, h.inFlight⟩
  | log i event => exact sound_log h hlogs
  | count i => exact sound_count h i
  | deliver i => exact sound_deliver h hturn

theorem not_matches_of_not_inTurn {k : κ} {s : RaiseRun ι κ} {e : RaiseStep ι} (h : s.Sound k)
    (hturn : ¬ s.InTurn e) : ¬ (s.step e).Matches k := by
  cases e with
  | tick | log | count => exact absurd trivial hturn
  | deliver i =>
      intro hmatches
      have hturn' := hturn
      simp only [InTurn, not_forall] at hturn'
      obtain ⟨event, uptimeMs, hcall, _⟩ := hturn'
      have hprefix := hmatches.1
      simp only [step, hcall] at hprefix
      exact hturn ((deliver_prefix_iff h hcall).1 hprefix)

/-- For every interleaving of calls in which logging succeeds: in every state each subscriber has
been handed the records of the event log, or the first of them while calls are under way, exactly
when every call that delivers raised the event that is next in the log, in the second in which it
was logged. -/
theorem delivered_as_logged_iff (k : κ) (uptimeMs : Nat) (tag : Tag) (steps : List (RaiseStep ι))
    (hlogs : Run.Along step Logs (start uptimeMs tag : RaiseRun ι κ) steps) :
    (∀ m, (Run.final step (start uptimeMs tag : RaiseRun ι κ) (steps.take m)).Matches k) ↔
      Run.Along step InTurn (start uptimeMs tag : RaiseRun ι κ) steps :=
  Run.forall_prefix_iff_along (fun _ h => h.matches)
    (fun _ _ h hlog hturn => sound_step h hlog hturn)
    (fun _ _ h _ hturn => not_matches_of_not_inTurn h hturn) (sound_start k uptimeMs tag) hlogs

end

/-- Two threads one after the other, with the clock going on in between. -/
theorem delivered_as_logged_in_turn :
    (Run.final step (start 900 newDevice.tag : RaiseRun Bool Unit)
      ([RaiseStep.log true ⟨.shock, .warning, 1800⟩, .tick 50, .count true, .deliver true,
        .tick 100, .log false ⟨.timeSet, .info, 0⟩, .count false, .deliver false].take 8)).Matches
          () := by
  refine (delivered_as_logged_iff () 900 newDevice.tag _ ?_).2 ?_ 8
  · decide +kernel
  · refine ⟨trivial, trivial, trivial, ?_, trivial, trivial, trivial, ?_, trivial⟩
    · intro event uptimeMs hcall
      cases hcall
      exact ⟨900, by decide +kernel, rfl⟩
    · intro event uptimeMs hcall
      cases hcall
      exact ⟨1050, by decide +kernel, rfl⟩

/-- The clock goes into the next second while the event is written to flash. -/
theorem delivered_a_second_late :
    let run : RaiseRun Bool Unit := start 980 newDevice.tag
    let steps : List (RaiseStep Bool) :=
      [.log true ⟨.shock, .warning, 1800⟩, .tick 50, .count true, .deliver true]
    Run.Along step Logs run steps ∧ ¬ (Run.final step run steps).Matches () := by
  intro run steps
  refine ⟨by decide +kernel, ?_⟩
  intro h
  exact absurd h.1 (by decide +kernel)

end RaiseRun

end SmartTag
