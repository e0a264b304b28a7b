import SmartTag.Lib.Run
import SmartTag.Ui.LedManager

/-!
# The BLE service window

The window in which a phone can reach the tag: opened by a press, held open by a connection, ended
by its timeout. Its state is spread over `src/power/power_manager.c`, `src/ble/ble_manager.c`, the
timeout work and the radio.

* `service_window_usable_iff`: an open window has a timeout and can be reached, and a closed one is
  silent, exactly when advertising starts again after every disconnect.
-/

namespace SmartTag

/-- `app_state_t`. -/
inductive AppPhase where
  | boot | init | zigbeeStart | running | service | sleep
deriving DecidableEq, Repr

/-- The statics the window is spread over, and the radio. -/
structure ServiceWindow where
  /-- The `state` of `app_state.c`. -/
  state : AppPhase
  serviceMode : Bool
  /-- The delay `service_timeout_work` was last scheduled with, in seconds, while it is pending. -/
  serviceTimeoutWork : Option UInt16
  stackReady : Bool
  advertising : Bool
  /-- `current_conn != NULL`. -/
  currentConn : Bool
  /-- The controller is advertising. -/
  radio : Bool
  led : LedManager

/-- `app_state_set`. -/
def appStateSet (newState : AppPhase) (w : ServiceWindow) : ServiceWindow :=
  { w with state := newState }

@[simp] theorem serviceMode_appStateSet (newState : AppPhase) (w : ServiceWindow) :
    (appStateSet newState w).serviceMode = w.serviceMode := rfl

/-! ## `ble_manager.c` -/

/-- `ble_manager_start_advertising`, where `bt_le_adv_start` returns `err`. -/
def bleManagerStartAdvertising (err : Int) (w : ServiceWindow) : Int × ServiceWindow :=
  if ¬ w.stackReady then (-EAGAIN, w)
  else if w.advertising then (0, w)
  else if err ≠ 0 then (err, w)
  else
    (0,
      { w with
        radio := true
        advertising := true
        led := ledManagerSet .bleAdvertising true w.led })

/-- `ble_manager_stop_advertising`. What `bt_conn_disconnect` asks for comes back as a callback. -/
def bleManagerStopAdvertising (w : ServiceWindow) : ServiceWindow :=
  if ¬ w.advertising then w
  else
    { w with
      advertising := false
      radio := false
      led := ledManagerSet .bleAdvertising false w.led }

/-- `connected`. -/
def connected (err : UInt8) (w : ServiceWindow) : ServiceWindow :=
  if err ≠ 0 then w
  else
    { w with
      currentConn := true
      led := ledManagerSet .bleAdvertising false w.led }

/-- `disconnected`, where `bt_le_adv_start` returns `err`: the error is not looked at. -/
def disconnected (err : Int) (w : ServiceWindow) : ServiceWindow :=
  let w := { w with currentConn := false }
  if w.advertising then (bleManagerStartAdvertising err { w with advertising := false }).2 else w

/-! ## `power_manager.c` -/

/-- `power_manager_request_service_mode`, under a window of `windowS` seconds. -/
def powerManagerRequestServiceMode (windowS : UInt16) (err : Int) (w : ServiceWindow) :
    ServiceWindow :=
  if ¬ w.serviceMode then
    let started := bleManagerStartAdvertising err { w with serviceMode := true }
    if started.1 ≠ 0 then { started.2 with serviceMode := false }
    else { appStateSet .service started.2 with serviceTimeoutWork := some windowS }
  -- A request in an open window extends it.
  else { w with serviceTimeoutWork := some windowS }

/-- `power_manager_end_service_mode`. -/
def powerManagerEndServiceMode (w : ServiceWindow) : ServiceWindow :=
  if ¬ w.serviceMode then w
  else
    let w := { w with serviceTimeoutWork := none }
    if w.currentConn then { w with serviceTimeoutWork := some 30 }
    else appStateSet .running (bleManagerStopAdvertising { w with serviceMode := false })

/-- `service_timeout_fn`. -/
def serviceTimeoutFn (w : ServiceWindow) : ServiceWindow := powerManagerEndServiceMode w

/-! ## Runs -/

/-- What happens to the window. A press and a disconnect come with what `bt_le_adv_start` returns
if it is called. -/
inductive WindowEvent where
  | request (windowS : UInt16) (err : Int)
  | timeout
  | endServiceMode
  | connected (err : UInt8)
  | disconnected (err : Int)

namespace ServiceWindow

/-- One event. The timeout runs only if it is pending; a peer connects only while the radio
advertises, and a connection ends that; only an open connection ends. -/
def step (w : ServiceWindow) : WindowEvent → ServiceWindow
  | .request windowS err => powerManagerRequestServiceMode windowS err w
  | .timeout =>
    if w.serviceTimeoutWork.isSome then serviceTimeoutFn { w with serviceTimeoutWork := none } else w
  | .endServiceMode => powerManagerEndServiceMode w
  | .connected err =>
    if w.radio then SmartTag.connected err { w with radio := w.radio && err != 0 } else w
  | .disconnected err => if w.currentConn then SmartTag.disconnected err w else w

/-- The statics before the first request, with the stack up or not. -/
def closed (state : AppPhase) (stackReady : Bool) (led : LedManager) : ServiceWindow where
  state := state
  serviceMode := false
  serviceTimeoutWork := none
  stackReady := stackReady
  advertising := false
  currentConn := false
  radio := false
  led := led

/-- An open window is bounded and can be reached; a closed one is silent. -/
structure Usable (w : ServiceWindow) : Prop where
  bounded : w.serviceMode → w.serviceTimeoutWork.isSome
  reachable : w.serviceMode → w.radio ∨ w.currentConn
  silent : ¬ w.serviceMode → ¬ w.advertising ∧ ¬ w.radio
  ended : ¬ w.serviceMode → w.serviceTimeoutWork = none ∧ ¬ w.currentConn

instance (w : ServiceWindow) : Decidable (Usable w) :=
  decidable_of_iff ((w.serviceMode → w.serviceTimeoutWork.isSome) ∧
      (w.serviceMode → w.radio ∨ w.currentConn) ∧
      (¬ w.serviceMode → ¬ w.advertising ∧ ¬ w.radio) ∧
      (¬ w.serviceMode → w.serviceTimeoutWork = none ∧ ¬ w.currentConn))
    ⟨fun h => ⟨h.1, h.2.1, h.2.2.1, h.2.2.2⟩, fun h => ⟨h.1, h.2, h.3, h.4⟩⟩

/-- The restart of advertising after a disconnect does not fail. -/
def Restarts (w : ServiceWindow) : WindowEvent → Prop
  | .disconnected err => w.currentConn → err = 0
  | _ => True

instance (w : ServiceWindow) : (e : WindowEvent) → Decidable (w.Restarts e)
  | .disconnected _ => inferInstanceAs (Decidable (_ → _))
  | .request _ _ | .timeout | .endServiceMode | .connected _ => inferInstanceAs (Decidable True)

end ServiceWindow

/-! ## What the functions do -/

section

variable {w : ServiceWindow} (windowS : UInt16) (err : Int)

theorem bleManagerStartAdvertising_ready (hready : w.stackReady = true)
    (hidle : w.advertising = false) :
    bleManagerStartAdvertising err w =
      if err ≠ 0 then (err, w)
      else
        (0,
          { w with
            radio := true
            advertising := true
            led := ledManagerSet .bleAdvertising true w.led }) := by
  rw [bleManagerStartAdvertising, if_neg (by simp [hready]), if_neg (by simp [hidle])]

/-- A request in an open window extends it. -/
theorem request_of_open (h : w.serviceMode = true) :
    powerManagerRequestServiceMode windowS err w =
      { w with serviceTimeoutWork := some windowS } := by
  rw [powerManagerRequestServiceMode, if_neg (by simp [h])]

/-- Before the stack is up a request changes nothing. -/
theorem request_of_not_ready (h : w.serviceMode = false) (hready : w.stackReady = false) :
    powerManagerRequestServiceMode windowS err w = w := by
  have hstart : bleManagerStartAdvertising err { w with serviceMode := true } =
      (-EAGAIN, { w with serviceMode := true }) := by
    rw [bleManagerStartAdvertising, if_pos (by simp [hready])]
  rw [powerManagerRequestServiceMode, if_pos (by simp [h]), hstart]
  show ServiceWindow.mk _ _ _ _ _ _ _ _ = w
  rw [← h]

/-- A request whose advertising does not start changes nothing. -/
theorem request_of_error (h : w.serviceMode = false) (hready : w.stackReady = true)
    (hidle : w.advertising = false) {err : Int} (herr : err ≠ 0) :
    powerManagerRequestServiceMode windowS err w = w := by
  have hstart := bleManagerStartAdvertising_ready (w := { w with serviceMode := true }) err hready
    hidle
  rw [if_pos herr] at hstart
  rw [powerManagerRequestServiceMode, if_pos (by simp [h]), hstart]
  dsimp only
  rw [if_pos herr, ← h]

/-- A request opens the window. -/
theorem request_of_closed (h : w.serviceMode = false) (hready : w.stackReady = true)
    (hidle : w.advertising = false) :
    powerManagerRequestServiceMode windowS 0 w =
      { w with
        state := .service
        serviceMode := true
        serviceTimeoutWork := some windowS
        advertising := true
        radio := true
        led := ledManagerSet .bleAdvertising true w.led } := by
  have hstart := bleManagerStartAdvertising_ready (w := { w with serviceMode := true }) 0 hready
    hidle
  rw [if_neg (by simp)] at hstart
  rw [powerManagerRequestServiceMode, if_pos (by simp [h]), hstart]
  rfl

theorem end_of_closed (h : w.serviceMode = false) : powerManagerEndServiceMode w = w := by
  rw [powerManagerEndServiceMode, if_pos (by simp [h])]

/-- A connection holds the window open. -/
theorem end_of_connected (h : w.serviceMode = true) (hconn : w.currentConn = true) :
    powerManagerEndServiceMode w = { w with serviceTimeoutWork := some 30 } := by
  rw [powerManagerEndServiceMode, if_neg (by simp [h])]
  dsimp only
  rw [if_pos hconn]

theorem end_of_advertising (h : w.serviceMode = true) (hconn : w.currentConn = false)
    (hadvertising : w.advertising = true) :
    powerManagerEndServiceMode w =
      { w with
        state := .running
        serviceMode := false
        serviceTimeoutWork := none
        advertising := false
        radio := false
        led := ledManagerSet .bleAdvertising false w.led } := by
  rw [powerManagerEndServiceMode, if_neg (by simp [h])]
  dsimp only
  rw [if_neg (by simp [hconn]), bleManagerStopAdvertising, if_neg (by simp [hadvertising])]
  rfl

/-- After a disconnect in a window, advertising is on again if it starts. -/
theorem disconnected_of_advertising (hready : w.stackReady = true) (h : w.advertising = true) :
    disconnected err w =
      { w with
        currentConn := false
        advertising := err == 0
        radio := if err = 0 then true else w.radio
        led := if err = 0 then ledManagerSet .bleAdvertising true w.led else w.led } := by
  unfold disconnected
  dsimp only
  rw [if_pos h, bleManagerStartAdvertising_ready err (w := { w with
    currentConn := false
    advertising := false }) hready rfl]
  by_cases herr : err = 0 <;> simp [herr]

end

namespace ServiceWindow

/-! ## What a step keeps -/

/-- The state of the window once the stack is up. An open window keeps the flag `advertising`
through a connection, during which the radio is silent. -/
structure Inv (w : ServiceWindow) : Prop where
  stackReady : w.stackReady = true
  bounded : w.serviceTimeoutWork.isSome = w.serviceMode
  advertising : w.advertising = w.serviceMode
  radio : w.radio = (w.serviceMode && !w.currentConn)
  connection : w.currentConn = true → w.serviceMode = true

theorem inv_closed (state : AppPhase) (led : LedManager) : Inv (closed state true led) where
  stackReady := rfl
  bounded := rfl
  advertising := rfl
  radio := rfl
  connection := nofun

section

variable {w : ServiceWindow} (h : Inv w)

include h

theorem Inv.usable : Usable w := by
  obtain ⟨-, hbounded, hadvertising, hradio, hconn⟩ := h
  constructor
  · intro hopen
    rw [hbounded, hopen]
  · intro hopen
    rw [hradio, hopen]
    cases w.currentConn <;> simp
  · intro hclosed
    rw [hadvertising, hradio]
    simp [hclosed]
  · intro hclosed
    have hnone := hclosed
    rw [← hbounded, Option.not_isSome_iff_eq_none] at hnone
    exact ⟨hnone, fun hconn' => hclosed (hconn hconn')⟩

theorem Inv.appStateSet (newState : AppPhase) : Inv (appStateSet newState w) := { h with }

theorem Inv.request (windowS : UInt16) (err : Int) :
    Inv (powerManagerRequestServiceMode windowS err w) := by
  have hready := h.stackReady
  have hadvertising := h.advertising
  by_cases hopen : w.serviceMode = true
  · rw [request_of_open windowS err hopen]
    exact { h with bounded := hopen.symm }
  · rw [Bool.not_eq_true] at hopen
    rw [hopen] at hadvertising
    by_cases herr : err = 0
    · rw [herr, request_of_closed windowS hopen hready hadvertising]
      have hconn : w.currentConn = false := by
        rw [← Bool.not_eq_true]
        intro hconn
        rw [h.connection hconn] at hopen
        exact absurd hopen (by decide)
      constructor <;> simp [hready, hconn]
    · rw [request_of_error windowS hopen hready hadvertising herr]
      exact h

theorem Inv.endServiceMode : Inv (powerManagerEndServiceMode w) := by
  by_cases hopen : w.serviceMode = true
  · by_cases hconn : w.currentConn = true
    · rw [end_of_connected hopen hconn]
      exact { h with bounded := hopen.symm }
    · rw [Bool.not_eq_true] at hconn
      rw [end_of_advertising hopen hconn (h.advertising.trans hopen)]
      constructor <;> simp [h.stackReady, hconn]
  · rw [end_of_closed (by simpa using hopen)]
    exact h

/-- The timeout is pending as long as the window is open, and ends it. -/
theorem Inv.timeout_eq : w.step .timeout = powerManagerEndServiceMode w := by
  have hbounded := h.bounded
  cases hopen : w.serviceMode with
  | false =>
    rw [hopen] at hbounded
    rw [step, if_neg (by simp [hbounded]), end_of_closed hopen]
  | true =>
    rw [step, if_pos (hbounded.trans hopen)]
    simp only [serviceTimeoutFn, powerManagerEndServiceMode, hopen, not_true, if_false]

theorem Inv.connected (err : UInt8) : Inv (w.step (.connected err)) := by
  have hradio := h.radio
  rw [step]
  split_ifs with hon
  · rw [hon, Bool.true_eq, Bool.and_eq_true] at hradio
    unfold SmartTag.connected
    split_ifs with herr
    · rw [bne_iff_ne.2 herr, Bool.and_true]
      exact h
    · rw [not_not] at herr
      constructor
      · exact h.stackReady
      · exact h.bounded
      · exact h.advertising
      · simp [herr]
      · exact fun _ => hradio.1
  · exact h

/-- A connection is open only in a window, and the radio is silent meanwhile. -/
theorem Inv.disconnected_eq (hconn : w.currentConn = true) (err : Int) :
    w.step (.disconnected err) =
      { w with
        currentConn := false
        advertising := err == 0
        radio := err == 0
        led := if err = 0 then ledManagerSet .bleAdvertising true w.led else w.led } := by
  have hopen := h.connection hconn
  have hradio := h.radio
  rw [hopen, hconn] at hradio
  rw [step, if_pos hconn, disconnected_of_advertising err h.stackReady (h.advertising.trans hopen)]
  by_cases herr : err = 0 <;> simp [herr, hradio]

theorem Inv.step {e : WindowEvent} (he : w.Restarts e) : Inv (w.step e) := by
  cases e with
  | request windowS err => exact h.request windowS err
  | timeout =>
    rw [h.timeout_eq]
    exact h.endServiceMode
  | endServiceMode => exact h.endServiceMode
  | connected err => exact h.connected err
  | disconnected err =>
    by_cases hconn : w.currentConn = true
    · have hopen := h.connection hconn
      rw [h.disconnected_eq hconn err, he hconn]
      constructor
      · exact h.stackReady
      · exact h.bounded
      · exact hopen.symm
      · simp [hopen]
      · exact nofun
    · rw [ServiceWindow.step, if_neg hconn]
      exact h

/-- Advertising that does not start again leaves an open window that cannot be reached. -/
theorem Inv.not_usable {e : WindowEvent} (he : ¬ w.Restarts e) : ¬ Usable (w.step e) := by
  cases e with
  | disconnected err =>
    obtain ⟨hconn, herr⟩ := Classical.not_imp.1 he
    intro husable
    have hreach := husable.reachable
    rw [h.disconnected_eq hconn err] at hreach
    rcases hreach (h.connection hconn) with hradio | hconn'
    · exact herr (beq_iff_eq.1 hradio)
    · exact absurd hconn' (by simp)
  | request | timeout | endServiceMode | connected => exact absurd trivial he

end

/-- Over every run from the end of `ble_manager_init`, in any order and with any failure of
`bt_le_adv_start`: an open window always has a timeout and can be reached, and a closed one is
silent, exactly when advertising starts again after every disconnect. -/
theorem service_window_usable_iff (state : AppPhase) (led : LedManager)
    (events : List WindowEvent) :
    (∀ m, Usable (Run.final step (closed state true led) (events.take m))) ↔
      Run.Along step Restarts (closed state true led) events :=
  Run.forall_prefix_iff_along_any (I := Inv) (fun _ h => h.usable) (fun _ _ h he => h.step he)
    (fun _ _ h he => h.not_usable he) (inv_closed state led)

/-- A press opens a window, a phone connects, and advertising does not start again when it leaves:
the window stays open, and the tag cannot be reached. -/
theorem service_window_unreachable :
    let events : List WindowEvent := [.request 120 0, .connected 0, .disconnected (-ENOMEM)]
    let w := Run.final step (closed .running true LedManager.atReset) events
    w.serviceMode = true ∧ w.radio = false ∧ w.currentConn = false ∧ ¬ Usable w := by
  decide

end ServiceWindow

end SmartTag
