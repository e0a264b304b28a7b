import SmartTag.App.AppState
import SmartTag.Lib.Run
import SmartTag.Ui.LedManager
import SmartTag.Zigbee.Reporting

/-!
# Network state

What the stack signals do to the network state, following `zboss_signal_handler` of
`src/zigbee/zigbee_manager.c`. The state is told three times: by the flags `joined` and `joining`,
by two indications of the LED, and by the events raised.

* `network_coherent_iff`: the three agree after every signal, exactly when no commissioning fails
  on a tag that has joined and no leave comes to one that has not.
-/

namespace SmartTag

/-- `zb_zdo_app_signal_type_t`, as far as the handler tells the signals apart. -/
inductive StackSignal where
  | deviceFirstStart | deviceReboot | steering | leave
  | other (code : UInt8)
deriving DecidableEq, Repr

/-- `RET_OK`. -/
def retOk : Int := 0

/-- The statics of `zigbee_manager.c`, the LED and the reporting baseline. `published` counts the
callbacks scheduled for `publish_attributes`, and `raised` lists the events raised. -/
structure Network where
  joined : Bool
  joining : Bool
  led : LedManager
  baseline : Baseline
  published : Nat
  raised : List PendingEvent

/-- The network part of `zigbee_manager_init`. -/
def zigbeeManagerInit (led : LedManager) : Network where
  joined := false
  joining := true
  led := ledManagerSet .zigbeeJoining true led
  baseline := zigbeeReportingInit
  published := 0
  raised := []

/-- The branch of a commissioning signal. -/
def commissioned (status : Int) (z : Network) : Network :=
  if status = retOk then
    { z with
      raised := if z.joined then z.raised else z.raised ++ [⟨.zigbeeJoined, .info, 0⟩]
      joined := true
      joining := false
      led := ledManagerSet .zigbeeConnected true (ledManagerSet .zigbeeJoining false z.led)
      -- A full snapshot is sent as soon as the tag is up.
      baseline := zigbeeReportingForce z.baseline
      published := z.published + 1 }
  else
    { z with
      joining := true
      led := ledManagerSet .zigbeeConnected false (ledManagerSet .zigbeeJoining true z.led) }

/-- `zboss_signal_handler`. -/
def zbossSignalHandler (signal : StackSignal) (status : Int) (z : Network) : Network :=
  match signal with
  | .deviceFirstStart | .deviceReboot | .steering => commissioned status z
  | .leave =>
    { z with
      joined := false
      joining := true
      led := ledManagerSet .zigbeeJoining true (ledManagerSet .zigbeeConnected false z.led)
      raised := z.raised ++ [⟨.zigbeeLeft, .warning, 0⟩] }
  | .other _ => z

/-! ## Events in turn -/

/-- The list has `a` and `b` in turn, from `a`. -/
def Alternate {α : Type} (a b : α) : List α → Prop
  | [] => True
  | x :: xs => x = a ∧ Alternate b a xs

instance Alternate.decidable {α : Type} [DecidableEq α] (a b : α) :
    (xs : List α) → Decidable (Alternate a b xs)
  | [] => inferInstanceAs (Decidable True)
  | x :: xs =>
    haveI := Alternate.decidable b a xs
    inferInstanceAs (Decidable (x = a ∧ Alternate b a xs))

/-- The next one in turn is `a` after an even number and `b` after an odd one. -/
theorem alternate_concat {α : Type} (a b : α) (xs : List α) (x : α) :
    Alternate a b (xs ++ [x]) ↔
      Alternate a b xs ∧ x = if xs.length % 2 = 0 then a else b := by
  induction xs generalizing a b with
  | nil => simp [Alternate]
  | cons y ys ih =>
    have hparity : (if (y :: ys).length % 2 = 0 then a else b) =
        if ys.length % 2 = 0 then b else a := by
      rw [List.length_cons]
      split_ifs <;> first | rfl | omega
    rw [List.cons_append, Alternate, Alternate, ih, hparity, and_assoc]

/-! ## Runs -/

namespace Network

/-- A signal with its status. -/
structure Signal where
  signal : StackSignal
  status : Int

def step (z : Network) (e : Signal) : Network := zbossSignalHandler e.signal e.status z

/-- The flags, the indications and the events agree. -/
structure Coherent (z : Network) : Prop where
  exclusive : z.joined = !z.joining
  connected : z.led.activeMask .zigbeeConnected = z.joined
  joining : z.led.activeMask .zigbeeJoining = z.joining
  alternate : Alternate .zigbeeJoined .zigbeeLeft (z.raised.map (·.type))

instance (z : Network) : Decidable (Coherent z) :=
  decidable_of_iff (_ ∧ _ ∧ _ ∧ _)
    ⟨fun h => ⟨h.1, h.2.1, h.2.2.1, h.2.2.2⟩, fun h => ⟨h.1, h.2, h.3, h.4⟩⟩

/-- No commissioning fails on a tag that has joined, and only such a tag leaves. -/
def Expected (z : Network) (e : Signal) : Prop :=
  match e.signal with
  | .deviceFirstStart | .deviceReboot | .steering => e.status ≠ retOk → z.joined = false
  | .leave => z.joined = true
  | .other _ => True

/-- The tag has joined after an odd number of events. -/
structure Inv (z : Network) : Prop where
  coherent : Coherent z
  ready : z.led.ready = true
  parity : z.joined = decide (z.raised.length % 2 = 1)

theorem inv_init {led : LedManager} (hready : led.ready = true)
    (hconnected : led.activeMask .zigbeeConnected = false) : Inv (zigbeeManagerInit led) where
  coherent :=
    { exclusive := rfl
      connected := by
        rw [zigbeeManagerInit, activeMask_ledManagerSet _ _ hready]
        exact (Function.update_of_ne (by decide) _ _).trans hconnected
      joining := by
        rw [zigbeeManagerInit, activeMask_ledManagerSet _ _ hready]
        exact Function.update_self _ _ _
      alternate := trivial }
  ready := by
    rw [zigbeeManagerInit, ready_ledManagerSet, hready]
  parity := rfl

/-- Two indications set one after the other. -/
theorem activeMask_set_set {led : LedManager} (h : led.ready = true) {first second : LedState}
    (hne : first ≠ second) (a b : Bool) :
    let mask := (ledManagerSet second b (ledManagerSet first a led)).activeMask
    mask first = a ∧ mask second = b := by
  intro mask
  have hmask : mask = Function.update (Function.update led.activeMask first a) second b := by
    show (ledManagerSet second b (ledManagerSet first a led)).activeMask = _
    rw [activeMask_ledManagerSet _ _ ((ready_ledManagerSet _ _ _).trans h),
      activeMask_ledManagerSet _ _ h]
  rw [hmask]
  exact ⟨(Function.update_of_ne hne _ _).trans (Function.update_self _ _ _),
    Function.update_self _ _ _⟩

section

variable {z : Network} (h : Inv z)

include h

theorem Inv.joined_ok : Inv (commissioned retOk z) := by
  have hmask := activeMask_set_set h.ready (show LedState.zigbeeJoining ≠ .zigbeeConnected by decide)
    false true
  have hparity := h.parity
  rw [commissioned, if_pos rfl]
  constructor
  · constructor
    · rfl
    · exact hmask.2
    · exact hmask.1
    · cases hjoined : z.joined with
      | true => simpa using h.coherent.alternate
      | false =>
        rw [hjoined] at hparity
        have heven : z.raised.length % 2 = 0 := by
          have hnot := of_decide_eq_false hparity.symm
          omega
        rw [if_neg (by simp), List.map_append, List.map_singleton, alternate_concat,
          List.length_map, if_pos heven]
        exact ⟨h.coherent.alternate, rfl⟩
  · simp [h.ready]
  · cases hjoined : z.joined with
    | true =>
      rw [hjoined] at hparity
      simpa using hparity
    | false =>
      rw [hjoined] at hparity
      have hnot := of_decide_eq_false hparity.symm
      simp
      omega

theorem Inv.commissioning_failed {status : Int} (hstatus : status ≠ retOk)
    (hjoined : z.joined = false) : Inv (commissioned status z) := by
  have hmask := activeMask_set_set h.ready (show LedState.zigbeeJoining ≠ .zigbeeConnected by decide)
    true false
  rw [commissioned, if_neg hstatus]
  constructor
  · constructor
    · exact hjoined
    · exact hmask.2.trans hjoined.symm
    · exact hmask.1
    · exact h.coherent.alternate
  · simp [h.ready]
  · exact h.parity

theorem Inv.left (status : Int) (hjoined : z.joined = true) :
    Inv (zbossSignalHandler .leave status z) := by
  have hmask := activeMask_set_set h.ready (show LedState.zigbeeConnected ≠ .zigbeeJoining by decide)
    false true
  have hparity := h.parity
  rw [hjoined] at hparity
  have hodd := of_decide_eq_true hparity.symm
  rw [zbossSignalHandler]
  constructor
  · constructor
    · rfl
    · exact hmask.1
    · exact hmask.2
    · rw [List.map_append, List.map_singleton, alternate_concat, List.length_map, if_neg (by omega)]
      exact ⟨h.coherent.alternate, rfl⟩
  · simp [h.ready]
  · simp
    omega

theorem Inv.step {e : Signal} (he : Expected z e) : Inv (z.step e) := by
  have hcommissioned : (e.status ≠ retOk → z.joined = false) → Inv (commissioned e.status z) := by
    intro hfails
    by_cases hstatus : e.status = retOk
    · rw [hstatus]
      exact h.joined_ok
    · exact h.commissioning_failed hstatus (hfails hstatus)
  obtain ⟨signal, status⟩ := e
  cases signal with
  | deviceFirstStart => exact hcommissioned he
  | deviceReboot => exact hcommissioned he
  | steering => exact hcommissioned he
  | leave => exact h.left status he
  | other => exact h

/-- A commissioning that fails leaves a joined tag joined and joining, and a tag that has not
joined leaves all the same. -/
theorem Inv.not_coherent {e : Signal} (he : ¬ Expected z e) : ¬ Coherent (z.step e) := by
  have hcommissioned : ¬ (e.status ≠ retOk → z.joined = false) →
      ¬ Coherent (commissioned e.status z) := by
    intro hfails hcoherent
    obtain ⟨hstatus, hjoined⟩ := Classical.not_imp.1 hfails
    have hexclusive := hcoherent.exclusive
    rw [commissioned, if_neg hstatus] at hexclusive
    exact hjoined hexclusive
  obtain ⟨signal, status⟩ := e
  cases signal with
  | deviceFirstStart => exact hcommissioned he
  | deviceReboot => exact hcommissioned he
  | steering => exact hcommissioned he
  | leave =>
    intro hcoherent
    have hjoined : z.joined = false := by simpa [Expected] using he
    have hparity := h.parity
    rw [hjoined] at hparity
    have heven := of_decide_eq_false hparity.symm
    have halternate := hcoherent.alternate
    rw [Network.step, zbossSignalHandler, List.map_append, List.map_singleton, alternate_concat,
      List.length_map, if_pos (by omega)] at halternate
    exact absurd halternate.2 (by decide)
  | other => exact absurd trivial he

end

/-- The network state after `zigbee_manager_init` on a tag whose LED came up or not. -/
def start (gpioReady : Bool) : Network :=
  zigbeeManagerInit (ledManagerInit gpioReady LedManager.atReset).2

/-- Without the LED no indication is ever active. -/
theorem not_coherent_of_no_led (e : Signal) : ¬ Coherent ((start false).step e) := by
  have hled : ∀ state active, ledManagerSet state active LedManager.atReset = LedManager.atReset :=
    fun state active => ledManagerSet_of_not_ready state active rfl
  have hstart : (start false).led = LedManager.atReset := hled .zigbeeJoining true
  have hstep : ((start false).step e).led = LedManager.atReset := by
    have hcommissioned : (commissioned e.status (start false)).led = LedManager.atReset := by
      unfold commissioned
      split_ifs <;> simp only [hstart, hled]
    obtain ⟨signal, status⟩ := e
    cases signal with
    | deviceFirstStart => exact hcommissioned
    | deviceReboot => exact hcommissioned
    | steering => exact hcommissioned
    | leave => simp only [step, zbossSignalHandler, hstart, hled]
    | other => exact hstart
  intro hcoherent
  have hconnected := hcoherent.connected
  have hjoining := hcoherent.joining
  have hexclusive := hcoherent.exclusive
  rw [hstep] at hconnected hjoining
  rw [← hconnected, ← hjoining] at hexclusive
  exact absurd hexclusive (by decide)

/-- Over every sequence of signals after `zigbee_manager_init`: the flags, the indications and the
events agree after each, exactly when the LED is there to indicate, no commissioning fails on a tag
that has joined and no leave comes to one that has not. -/
theorem network_coherent_iff (gpioReady : Bool) (signals : List Signal) :
    Run.Along step (fun z e => Coherent (z.step e)) (start gpioReady) signals ↔
      (signals = [] ∨ gpioReady = true) ∧ Run.Along step Expected (start gpioReady) signals := by
  cases gpioReady with
  | true =>
    have hcongr : Run.Along step Expected (start true) signals ↔
        Run.Along step (fun z e => Coherent (z.step e)) (start true) signals :=
      Run.along_congr_while (I := Inv) (fun _ _ h he => h.step he)
        (fun _ _ h => ⟨fun he => (h.step he).coherent, fun hcoherent => by
          by_contra he
          exact h.not_coherent he hcoherent⟩)
        (inv_init rfl rfl)
    simp [hcongr]
  | false =>
    cases signals with
    | nil => simp [Run.Along]
    | cons e signals => simp [Run.Along, not_coherent_of_no_led e]

/-- A steering that fails after the tag has joined: it is joined and joining. -/
theorem network_joined_and_joining :
    let signals : List Signal := [⟨.steering, 0⟩, ⟨.steering, -1⟩]
    let z := Run.final step (start true) signals
    z.joined = true ∧ z.joining = true ∧ z.led.activeMask .zigbeeConnected = false ∧
      ¬ Run.Along step (fun z e => Coherent (z.step e)) (start true) signals := by
  decide

end Network

end SmartTag
