import SmartTag.Power.ServiceWindow

/-!
# Start-up

The steps `main` of `src/app/app_main.c` takes from `APP_STATE_ZIGBEE_START` on, with the button live
from before. The state variable freezes the list of subscribers from `RUNNING` on, and says whether
the service window is open.

* `start_up_registers_iff`: both stacks are registered and the state tells the window, exactly when
  no window has opened by the time the Zigbee stack registers, and none is open when the sampling
  starts.
-/

namespace SmartTag

/-- The subscribers that protocol stacks register. -/
inductive Subscriber where
  | ble | zigbee
deriving DecidableEq, Repr

/-- The next step of `main`. -/
inductive StartStep where
  | zigbeeStart | bleGattInit | bleReady | zigbeeInit | powerStart | done
deriving DecidableEq, Repr

structure StartUp where
  window : ServiceWindow
  subscribers : List Subscriber
  /-- The `started` of `power_manager.c`. -/
  started : Bool
  next : StartStep
  /-- A press has opened a window: only recorded. -/
  opened : Bool

/-- `app_state_subscribe`: refused from `RUNNING` on. -/
def appStateSubscribe (subscriber : Subscriber) (s : StartUp) : StartUp :=
  if AppPhase.running.ctorIdx ≤ s.window.state.ctorIdx then s
  else { s with subscribers := s.subscribers ++ [subscriber] }

/-- `power_manager_start`. -/
def powerManagerStart (s : StartUp) : StartUp :=
  if s.started then s
  else
    { s with
      started := true
      window := appStateSet .running s.window }

namespace StartUp

/-- One step of `main`. `ble_manager_init` registers first, and has the stack ready at its end. -/
def main (s : StartUp) : StartUp :=
  match s.next with
  | .zigbeeStart =>
    { s with
      window := appStateSet .zigbeeStart s.window
      next := .bleGattInit }
  | .bleGattInit => { appStateSubscribe .ble s with next := .bleReady }
  | .bleReady =>
    { s with
      window := { s.window with stackReady := true }
      next := .zigbeeInit }
  | .zigbeeInit => { appStateSubscribe .zigbee s with next := .powerStart }
  | .powerStart => { powerManagerStart s with next := .done }
  | .done => s

end StartUp

/-- A step of `main`, or a work item that runs between two. -/
inductive StartEvent where
  | main
  | press (windowS : UInt16) (err : Int)
  | timeout

namespace StartUp

/-- The event opens a window. -/
def opens (s : StartUp) : StartEvent → Bool
  | .press _ err => s.window.stackReady && !s.window.serviceMode && err == 0
  | .main | .timeout => false

/-- One event. -/
def step (s : StartUp) (e : StartEvent) : StartUp :=
  match e with
  | .main => s.main
  | .press windowS err =>
    { s with
      window := s.window.step (.request windowS err)
      opened := s.opened || s.opens (.press windowS err) }
  | .timeout => { s with window := s.window.step .timeout }

/-- Before `APP_STATE_ZIGBEE_START`, with the button live. -/
def begin (led : LedManager) : StartUp where
  window := ServiceWindow.closed .init false led
  subscribers := []
  started := false
  next := .zigbeeStart
  opened := false

/-- What `main` has registered is registered, and once it is done the state tells the window. -/
structure Registered (s : StartUp) : Prop where
  ble : StartStep.bleGattInit.ctorIdx < s.next.ctorIdx → Subscriber.ble ∈ s.subscribers
  zigbee : StartStep.zigbeeInit.ctorIdx < s.next.ctorIdx → Subscriber.zigbee ∈ s.subscribers
  service : s.next = .done → (s.window.state = .service ↔ s.window.serviceMode = true)

instance (s : StartUp) : Decidable (Registered s) :=
  decidable_of_iff (_ ∧ _ ∧ _) ⟨fun h => ⟨h.1, h.2.1, h.2.2⟩, fun h => ⟨h.ble, h.zigbee, h.service⟩⟩

/-- No window has opened when the Zigbee stack registers, and none is open when the sampling
starts. -/
def Undisturbed (s : StartUp) : StartEvent → Prop
  | .main =>
    (s.next = .zigbeeInit → s.opened = false) ∧
      (s.next = .powerStart → s.window.serviceMode = false)
  | .press _ _ | .timeout => True

instance (s : StartUp) : (e : StartEvent) → Decidable (s.Undisturbed e)
  | .main => inferInstanceAs (Decidable (_ ∧ _))
  | .press _ _ | .timeout => inferInstanceAs (Decidable True)

/-! ## What a step keeps -/

/-- The window but for the stack that is not up yet, the progress of `main` in the statics, and the
state variable. -/
structure Inv (s : StartUp) : Prop where
  window : ServiceWindow.Inv { s.window with stackReady := true }
  ready : s.window.stackReady = decide (StartStep.zigbeeInit.ctorIdx ≤ s.next.ctorIdx)
  idle : s.window.stackReady = false → s.window.serviceMode = false ∧ s.opened = false
  started : s.started = decide (s.next = .done)
  subscribers : s.subscribers =
    (if StartStep.bleGattInit.ctorIdx < s.next.ctorIdx then [.ble] else []) ++
      if StartStep.zigbeeInit.ctorIdx < s.next.ctorIdx then [.zigbee] else []
  service : s.window.state = .service ↔ s.window.serviceMode = true
  frozen : s.next ≠ .done →
    (AppPhase.running.ctorIdx ≤ s.window.state.ctorIdx ↔ s.opened = true)

theorem inv_begin (led : LedManager) : Inv (begin led) where
  window := ServiceWindow.inv_closed .init led
  ready := rfl
  idle := fun _ => ⟨rfl, rfl⟩
  started := rfl
  subscribers := rfl
  service := ⟨nofun, nofun⟩
  frozen := fun _ => iff_of_false (show ¬ 3 ≤ 1 by decide) nofun

section

variable {s : StartUp} (h : Inv s)

include h

theorem Inv.registered : Registered s := by
  constructor
  · intro hble
    rw [h.subscribers, if_pos hble]
    simp
  · intro hzigbee
    rw [h.subscribers, if_pos hzigbee]
    simp
  · exact fun _ => h.service

/-- Once the stack is up the window is as its own invariant says. -/
theorem Inv.window_of_ready (hready : s.window.stackReady = true) : s.window.Inv := by
  have hwindow := h.window
  rwa [← hready] at hwindow

/-! ### Presses and timeouts -/

/-- A press that opens no window at most extends one. -/
theorem Inv.press_eq_of_not_opens {windowS : UInt16} {err : Int}
    (hopens : s.opens (.press windowS err) = false) :
    s.step (.press windowS err) =
      { s with
        window := if s.window.serviceMode then
            { s.window with serviceTimeoutWork := some windowS }
          else s.window } := by
  have hwindow : powerManagerRequestServiceMode windowS err s.window =
      if s.window.serviceMode then { s.window with serviceTimeoutWork := some windowS }
      else s.window := by
    split_ifs with hopen
    · exact request_of_open windowS err hopen
    · rw [Bool.not_eq_true] at hopen
      by_cases hready : s.window.stackReady = true
      · have hidle := (h.window_of_ready hready).advertising.trans hopen
        refine request_of_error windowS hopen hready hidle fun herr => ?_
        simp [opens, hready, hopen, herr] at hopens
      · exact request_of_not_ready windowS err hopen (by simpa using hready)
  rw [step, hopens, Bool.or_false, ServiceWindow.step, hwindow]

theorem Inv.press (windowS : UInt16) (err : Int) : Inv (s.step (.press windowS err)) := by
  cases hopens : s.opens (.press windowS err) with
  | false =>
    rw [h.press_eq_of_not_opens hopens]
    split_ifs with hopen
    · exact { h with
        window :=
          { h.window with
            bounded := hopen.symm } }
    · exact h
  | true =>
    simp only [opens, Bool.and_eq_true, Bool.not_eq_true', beq_iff_eq] at hopens
    obtain ⟨⟨hready, hclosed⟩, rfl⟩ := hopens
    have hwindow := (h.window_of_ready hready).request windowS 0
    have hidle := (h.window_of_ready hready).advertising.trans hclosed
    have hopens : s.opens (.press windowS 0) = true := by simp [opens, hready, hclosed]
    rw [request_of_closed windowS hclosed hready hidle] at hwindow
    rw [step, hopens, Bool.or_true, ServiceWindow.step,
      request_of_closed windowS hclosed hready hidle]
    exact { h with
      window :=
        { hwindow with
          stackReady := rfl }
      idle := fun hnot => absurd (hready.symm.trans hnot) (by decide)
      service := iff_of_true rfl rfl
      frozen := fun _ => iff_of_true (show 3 ≤ 4 by decide) rfl }

theorem Inv.timeout : Inv (s.step .timeout) := by
  have hbounded := h.window.bounded
  cases hopen : s.window.serviceMode with
  | false =>
    have hnone : ¬ s.window.serviceTimeoutWork.isSome = true := by
      rw [show s.window.serviceTimeoutWork.isSome = false from hbounded.trans hopen]
      decide
    rw [step, ServiceWindow.step, if_neg hnone]
    exact h
  | true =>
    have hready : s.window.stackReady = true := by
      by_contra hnot
      rw [Bool.not_eq_true] at hnot
      exact absurd ((h.idle hnot).1.symm.trans hopen) (by decide)
    have hwindow := h.window_of_ready hready
    rw [step, hwindow.timeout_eq]
    cases hconn : s.window.currentConn with
    | true =>
      rw [end_of_connected hopen hconn]
      exact { h with
        window :=
          { h.window with
            bounded := hopen.symm } }
    | false =>
      have hended := hwindow.endServiceMode
      have heq := end_of_advertising hopen hconn (hwindow.advertising.trans hopen)
      rw [heq] at hended ⊢
      have hservice := h.service.2 hopen
      exact { h with
        window :=
          { hended with
            stackReady := rfl }
        idle := fun hnot => absurd (hready.symm.trans hnot) (by decide)
        service := iff_of_false (show AppPhase.running ≠ .service by decide) Bool.false_ne_true
        frozen := fun hnext => by
          have hfrozen := h.frozen hnext
          rw [hservice] at hfrozen
          exact iff_of_true (show 3 ≤ 3 by decide) (hfrozen.1 (show 3 ≤ 4 by decide)) }

/-! ### The steps of `main` -/

theorem Inv.subscribe (subscriber : Subscriber) (hnext : s.next ≠ .done) :
    appStateSubscribe subscriber s =
      if s.opened then s else { s with subscribers := s.subscribers ++ [subscriber] } := by
  have hfrozen := h.frozen hnext
  unfold appStateSubscribe
  simp only [hfrozen]

/-- Before a window has opened, a subscriber is added and `main` goes on to the next step. -/
theorem Inv.subscribed {subscriber : Subscriber} {next : StartStep} (hdone : s.next ≠ .done)
    (hopened : s.opened = false)
    (hready : s.window.stackReady = decide (StartStep.zigbeeInit.ctorIdx ≤ next.ctorIdx))
    (hstarted : s.started = decide (next = .done))
    (hsubscribers : s.subscribers ++ [subscriber] =
      (if StartStep.bleGattInit.ctorIdx < next.ctorIdx then [.ble] else []) ++
        if StartStep.zigbeeInit.ctorIdx < next.ctorIdx then [.zigbee] else []) :
    Inv { appStateSubscribe subscriber s with next := next } := by
  have haccepted := h.subscribe subscriber hdone
  rw [if_neg (by simp [hopened])] at haccepted
  rw [haccepted]
  exact {
    window := h.window
    ready := hready
    idle := h.idle
    started := hstarted
    subscribers := hsubscribers
    service := h.service
    frozen := fun _ => h.frozen hdone }

theorem Inv.powerManagerStart_eq (hnext : s.next = .powerStart) :
    powerManagerStart s =
      { s with
        started := true
        window := appStateSet .running s.window } := by
  have hstarted := h.started
  rw [hnext] at hstarted
  exact if_neg (by simp [hstarted])

theorem Inv.main (hquiet : s.Undisturbed .main) : Inv s.main := by
  have hready := h.ready
  have hstarted := h.started
  have hsubscribers := h.subscribers
  unfold StartUp.main
  cases hnext : s.next with
  | zigbeeStart =>
    rw [hnext] at hready hstarted hsubscribers
    obtain ⟨hclosed, hopened⟩ := h.idle hready
    exact {
      window := { h.window with }
      ready := hready
      idle := h.idle
      started := hstarted
      subscribers := hsubscribers
      service := iff_of_false (show AppPhase.zigbeeStart ≠ .service by decide) (by simp [hclosed])
      frozen := fun _ => iff_of_false (show ¬ 3 ≤ 2 by decide) (by simp [hopened]) }
  | bleGattInit =>
    rw [hnext] at hready hstarted hsubscribers
    refine h.subscribed (by simp [hnext]) (h.idle hready).2 hready hstarted ?_
    rw [hsubscribers]
    rfl
  | bleReady =>
    rw [hnext] at hready hstarted hsubscribers
    exact {
      window := h.window
      ready := rfl
      idle := nofun
      started := hstarted
      subscribers := hsubscribers
      service := h.service
      frozen := fun _ => h.frozen (by simp [hnext]) }
  | zigbeeInit =>
    rw [hnext] at hready hstarted hsubscribers
    refine h.subscribed (by simp [hnext]) (hquiet.1 hnext) hready hstarted ?_
    rw [hsubscribers]
    rfl
  | powerStart =>
    rw [hnext] at hready hstarted hsubscribers
    have hclosed := hquiet.2 hnext
    rw [h.powerManagerStart_eq hnext]
    exact {
      window := { h.window with }
      ready := hready
      idle := h.idle
      started := rfl
      subscribers := hsubscribers
      service := iff_of_false (show AppPhase.running ≠ .service by decide) (by simp [hclosed])
      frozen := fun hnot => absurd rfl hnot }
  | done => exact h

theorem Inv.step {e : StartEvent} (he : s.Undisturbed e) : Inv (s.step e) := by
  cases e with
  | main => exact h.main he
  | press windowS err => exact h.press windowS err
  | timeout => exact h.timeout

/-- A window that has opened keeps the Zigbee stack out, and `RUNNING` hides one that is open. -/
theorem Inv.not_registered {e : StartEvent} (he : ¬ s.Undisturbed e) : ¬ Registered (s.step e) := by
  cases e with
  | main =>
    intro hregistered
    rcases not_and_or.1 he with hzigbee | hpower
    · obtain ⟨hnext, hopened⟩ := Classical.not_imp.1 hzigbee
      have hrefused := h.subscribe .zigbee (by simp [hnext])
      rw [if_pos (by simpa using hopened)] at hrefused
      have hsubscribers := h.subscribers
      have hmem := hregistered.zigbee
      simp only [StartUp.step, StartUp.main, hnext, hrefused] at hmem hsubscribers
      have hin := hmem (show 3 < 4 by decide)
      rw [hsubscribers] at hin
      exact absurd hin (by decide)
    · obtain ⟨hnext, hopen⟩ := Classical.not_imp.1 hpower
      have hservice := hregistered.service
      simp only [StartUp.step, StartUp.main, hnext, h.powerManagerStart_eq hnext] at hservice
      have hstate : AppPhase.running = .service := (hservice trivial).2 (by simpa using hopen)
      exact absurd hstate (by decide)
  | press | timeout => exact absurd trivial he

end

/-- Over every interleaving of the start-up steps with presses and timeouts, whatever
`bt_le_adv_start` returns: both stacks are registered and the state tells the window, exactly when
no window has opened by the time the Zigbee stack registers, and none is open when the sampling
starts. -/
theorem start_up_registers_iff (led : LedManager) (events : List StartEvent) :
    (∀ m, Registered (Run.final step (begin led) (events.take m))) ↔
      Run.Along step Undisturbed (begin led) events :=
  Run.forall_prefix_iff_along_any (I := Inv) (fun _ h => h.registered) (fun _ _ h he => h.step he)
    (fun _ _ h he => h.not_registered he) (inv_begin led)

/-- A press while the Zigbee stack is about to start: its subscriber is refused, and the tag is
`RUNNING` with its window open. -/
theorem start_up_refuses :
    let events : List StartEvent := [.main, .main, .main, .press 120 0, .main, .main]
    let s := Run.final step (begin LedManager.atReset) events
    s.next = .done ∧ s.subscribers = [.ble] ∧ s.window.state = .running ∧
      s.window.serviceMode = true ∧ ¬ Registered s := by
  decide

end StartUp

end SmartTag
