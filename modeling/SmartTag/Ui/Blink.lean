import SmartTag.Lib.Run
import SmartTag.Ui.LedManager

/-!
# The blinking light

What the pins show over every run of the LED manager of `src/ui/led_manager.c`: the calls of its
interface, its two work items, in any order. The colour on the pins, `light_on`, the pending
flashes and the active indications are all written in different places, and what keeps them
together is the work item: whoever leaves the light on leaves it scheduled.

* `topState_spec`: the state shown is the active one of highest priority.
* `ledManager_light`: the light is never left on, shows the right colour, and stays off while the
  LED is disabled.
-/

namespace SmartTag

/-! ## The state shown -/

theorem LedState.byPriority_pairwise :
    LedState.byPriority.Pairwise fun first second => second.ctorIdx < first.ctorIdx := by
  decide

theorem LedState.mem_byPriority {state : LedState} (h : state ≠ .idle) :
    state ∈ LedState.byPriority := by
  cases state <;> first | exact absurd rfl h | decide

/-- `state` is active, and of the active ones it has the highest number. -/
structure HighestActive (activeMask : LedState → Bool) (state : LedState) : Prop where
  active : activeMask state = true
  highest : ∀ other, activeMask other = true → other.ctorIdx ≤ state.ctorIdx

/-- **The state shown is the active one of highest priority.** -/
theorem topState_spec {led : LedManager} (h : topState led ≠ .idle) :
    HighestActive led.activeMask (topState led) := by
  cases hfind : LedState.byPriority.find? led.activeMask with
  | none => exact absurd (by rw [topState, hfind]; rfl) h
  | some state =>
    have htop : topState led = state := by rw [topState, hfind]; rfl
    rw [htop] at h ⊢
    obtain ⟨hactive, before, after, hlist, hbefore⟩ := List.find?_eq_some_iff_append.mp hfind
    refine ⟨hactive, ?_⟩
    intro other hother
    by_cases hidle : other = .idle
    · rw [hidle]
      exact Nat.zero_le _
    have hmem := LedState.mem_byPriority hidle
    have hsorted := LedState.byPriority_pairwise
    rw [hlist] at hmem hsorted
    rcases List.mem_append.mp hmem with hin | hin
    · exact absurd hother (by simpa using hbefore other hin)
    rcases List.mem_cons.mp hin with rfl | hin
    · exact Nat.le_refl _
    · exact Nat.le_of_lt (List.rel_of_pairwise_cons (List.pairwise_append.mp hsorted).2.1 hin)

/-! ## Runs -/

/-- What can happen to the manager: a call of its interface, or one of its work items running. -/
inductive LedEvent where
  | set (state : LedState) (active : Bool)
  | identify (durationS : UInt16)
  | flash (state : LedState) (count : UInt8)
  | setEnabled (value : Bool)
  | identifyTimeout
  | blink
deriving DecidableEq, Repr

section

variable (colour : UInt8) (led : LedManager)

@[simp] theorem ready_drive : (drive colour led).ready = led.ready := by
  unfold drive
  split_ifs <;> rfl

@[simp] theorem enabled_drive : (drive colour led).enabled = led.enabled := by
  unfold drive
  split_ifs <;> rfl

@[simp] theorem driven_drive :
    (drive colour led).driven = if led.ready then colour else led.driven := by
  unfold drive
  split_ifs <;> simp_all

theorem enabled_ledManagerSet (state : LedState) (active : Bool) :
    (ledManagerSet state active led).enabled = led.enabled := by
  unfold ledManagerSet
  split_ifs <;> rfl

end

namespace LedManager

/-- One event. A work item that runs is no longer pending. -/
def step (led : LedManager) : LedEvent → LedManager
  | .set state active => ledManagerSet state active led
  | .identify durationS => ledManagerIdentify durationS led
  | .flash state count => ledManagerFlash state count led
  | .setEnabled value => ledManagerSetEnabled value led
  | .identifyTimeout =>
    identifyTimeoutFn
      { led with
        identifyTimeoutWork := none }
  | .blink =>
    blinkWorkFn
      { led with
        blinkWork := none }

/-- What every reachable state keeps. -/
structure Inv (led : LedManager) : Prop where
  ready : led.ready = true
  scheduled : led.driven ≠ colourOff → led.blinkWork.isSome
  disabled : led.enabled = false → led.driven = colourOff

theorem inv_init (led : LedManager) : Inv (ledManagerInit true led).2 where
  ready := rfl
  scheduled h := absurd rfl h
  disabled _ := rfl

variable {led : LedManager}

/-! The invariant, one event at a time. -/

theorem Inv.set (h : Inv led) (state : LedState) (active : Bool) :
    Inv (ledManagerSet state active led) := by
  rw [ledManagerSet, if_neg (by simp [h.ready])]
  exact ⟨h.ready, fun _ => rfl, h.disabled⟩

theorem Inv.identify (h : Inv led) (durationS : UInt16) :
    Inv (ledManagerIdentify durationS led) := by
  rw [ledManagerIdentify, if_neg (by simp [h.ready])]
  have hset := h.set .identify true
  exact ⟨hset.ready, hset.scheduled, hset.disabled⟩

theorem Inv.flash (h : Inv led) (state : LedState) (count : UInt8) :
    Inv (ledManagerFlash state count led) := by
  unfold ledManagerFlash
  split_ifs with hrefused
  · exact h
  · exact ⟨h.ready, fun _ => rfl, h.disabled⟩

theorem Inv.setEnabled (h : Inv led) (value : Bool) : Inv (ledManagerSetEnabled value led) := by
  unfold ledManagerSetEnabled
  cases value with
  | true => exact ⟨h.ready, fun _ => rfl, fun hoff => absurd hoff (by simp)⟩
  | false => exact ⟨by simp [h.ready], fun hon => absurd hon (by simp [h.ready]), by simp [h.ready]⟩

/-- What a run of the blink work can leave on the pins: a colour other than off only while the
LED is enabled and with the work scheduled again, the flash colour while a flash is pending, and
the colour of the state shown otherwise. -/
structure Blinked (led led' : LedManager) : Prop where
  ready : led'.ready = led.ready
  enabled : led'.enabled = led.enabled
  scheduled : led'.driven ≠ colourOff → led.enabled = true ∧ led'.blinkWork.isSome
  flashing : led'.driven ≠ colourOff → 0 < led.flashRemaining → led'.driven = led.flashColour
  steady :
    led'.driven ≠ colourOff → led.flashRemaining = 0 →
      ∃ state, HighestActive led.activeMask state ∧ led'.driven = (patterns state).colour

theorem blinked_of_off {led' : LedManager} (hready : led'.ready = led.ready)
    (henabled : led'.enabled = led.enabled) (h : led'.driven = colourOff) : Blinked led led' where
  ready := hready
  enabled := henabled
  scheduled hon := absurd h hon
  flashing hon := absurd h hon
  steady hon := absurd h hon

/-- **The branches of the blink work.** -/
theorem blinked_blinkWorkFn (h : led.ready = true) : Blinked led (blinkWorkFn led) := by
  unfold blinkWorkFn
  dsimp only
  split_ifs with henabled hflash hon hidle hlight
  · -- A pending flash, lit.
    refine ⟨by simp, by simp, fun _ => ⟨henabled, rfl⟩, fun _ _ => by simp [h], ?_⟩
    intro _ hnone
    exact absurd hflash (by simp [hnone])
  · exact blinked_of_off (by simp) (by simp) (by simp [h])
  · exact blinked_of_off (by simp) (by simp) (by simp [h])
  · exact blinked_of_off (by simp) (by simp) (by simp [h])
  · -- The steady pattern, lit.
    refine ⟨by simp, by simp, fun _ => ⟨henabled, rfl⟩, ?_, ?_⟩
    · intro _ hpending
      exact absurd hpending hflash
    · intro _ _
      exact ⟨topState led, topState_spec fun htop => hidle (.inl htop), by simp [h]⟩
  · exact blinked_of_off (by simp) (by simp) (by simp [h])

theorem blinked_step (h : led.ready = true) : Blinked led (led.step .blink) := by
  let due : LedManager :=
    { led with
      blinkWork := none }
  have hblinked : Blinked due (blinkWorkFn due) := blinked_blinkWorkFn h
  exact ⟨hblinked.ready, hblinked.enabled, hblinked.scheduled, hblinked.flashing, hblinked.steady⟩

theorem Inv.blink (h : Inv led) : Inv (led.step .blink) := by
  have hblinked := blinked_step h.ready
  refine ⟨hblinked.ready.trans h.ready, fun hon => (hblinked.scheduled hon).2, ?_⟩
  intro hoff
  by_contra hon
  rw [hblinked.enabled, (hblinked.scheduled hon).1] at hoff
  exact absurd hoff (by simp)

theorem Inv.step (h : Inv led) (event : LedEvent) : Inv (led.step event) := by
  cases event with
  | set state active => exact h.set state active
  | identify durationS => exact h.identify durationS
  | flash state count => exact h.flash state count
  | setEnabled value => exact h.setEnabled value
  | identifyTimeout =>
    have hdue : Inv { led with identifyTimeoutWork := none } :=
      ⟨h.ready, h.scheduled, h.disabled⟩
    exact hdue.set .identify false
  | blink => exact h.blink

/-! ## Disabled -/

theorem enabled_step {event : LedEvent} (h : Inv led) (hdisabled : led.enabled = false)
    (hevent : event ≠ .setEnabled true) : (led.step event).enabled = false := by
  cases event with
  | set state active => rw [step, enabled_ledManagerSet, hdisabled]
  | identify durationS =>
    rw [step, ledManagerIdentify, if_neg (by simp [h.ready]), enabled_ledManagerSet, hdisabled]
  | flash state count =>
    rw [step, ledManagerFlash, if_pos (by simp [hdisabled]), hdisabled]
  | setEnabled value =>
    cases value with
    | true => exact absurd rfl hevent
    | false => simp [step, ledManagerSetEnabled]
  | identifyTimeout => rw [step, identifyTimeoutFn, enabled_ledManagerSet, hdisabled]
  | blink => rw [(blinked_step h.ready).enabled, hdisabled]

/-- The LED stays off until it is enabled again. -/
theorem Inv.off_while_disabled (h : Inv led) {events : List LedEvent}
    (hevents : ∀ event ∈ events, event ≠ .setEnabled true) :
    (Run.final LedManager.step (led.step (.setEnabled false)) events).driven = colourOff := by
  have hdark : Inv (Run.final LedManager.step (led.step (.setEnabled false)) events) ∧
      (Run.final LedManager.step (led.step (.setEnabled false)) events).enabled = false := by
    refine Run.final_invariant (I := fun led => Inv led ∧ led.enabled = false)
      (P := fun _ event => event ≠ .setEnabled true) ?_ ?_ (Run.along_of_forall hevents)
    · intro led event hinv hevent
      exact ⟨hinv.1.step event, enabled_step hinv.1 hinv.2 hevent⟩
    · exact ⟨h.step _, by simp [LedManager.step, ledManagerSetEnabled]⟩
  exact hdark.1.disabled hdark.2

end LedManager

/-- What a user can rely on in a state: a light that is on has its work scheduled, the work turns
it on in the colour of the pending flash or else of the highest active state, and switching the
LED off keeps it off until it is switched on again. -/
structure LightGuarded (led : LedManager) : Prop where
  scheduled : led.driven ≠ colourOff → led.blinkWork.isSome
  flashing :
    (led.step .blink).driven ≠ colourOff → 0 < led.flashRemaining →
      (led.step .blink).driven = led.flashColour
  steady :
    (led.step .blink).driven ≠ colourOff → led.flashRemaining = 0 →
      ∃ state, HighestActive led.activeMask state ∧ (led.step .blink).driven = (patterns state).colour
  disabled :
    ∀ events : List LedEvent, (∀ event ∈ events, event ≠ .setEnabled true) →
      (Run.final LedManager.step (led.step (.setEnabled false)) events).driven = colourOff

theorem LedManager.Inv.guarded {led : LedManager} (h : LedManager.Inv led) : LightGuarded led where
  scheduled := h.scheduled
  flashing := (LedManager.blinked_step h.ready).flashing
  steady := (LedManager.blinked_step h.ready).steady
  disabled _ hevents := h.off_while_disabled hevents

/-- **The light is never left on.** It holds after every run from a successful start, whatever the
statics were before it. -/
theorem ledManager_light (led : LedManager) (events : List LedEvent) :
    LightGuarded (Run.final LedManager.step (ledManagerInit true led).2 events) :=
  (Run.final_preserves (I := LedManager.Inv) (fun _ event h => h.step event)
    (LedManager.inv_init led) events).guarded

end SmartTag
