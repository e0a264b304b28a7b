import Mathlib.Data.List.Basic
import Mathlib.Logic.Function.Basic
import SmartTag.Basic

/-!
# LED manager

The set of active indications and the pattern shown, following `src/ui/led_manager.c`. Several
indications can be active at once, and the one of highest priority is shown.
-/

namespace SmartTag

/-- `led_state_t`, from low to high priority. -/
inductive LedState where
  | idle | bleAdvertising | zigbeeJoining | zigbeeConnected | ota | alarm | identify
deriving DecidableEq, Repr

def colourOff : UInt8 := 0x0
def colourRed : UInt8 := 0x1
def colourGreen : UInt8 := 0x2
def colourBlue : UInt8 := 0x4
def colourYellow : UInt8 := colourRed ||| colourGreen
def colourPurple : UInt8 := colourRed ||| colourBlue
def colourWhite : UInt8 := colourRed ||| colourGreen ||| colourBlue

/-- `struct led_pattern`. -/
structure LedPattern where
  colour : UInt8
  onMs : UInt16
  periodMs : UInt16
deriving DecidableEq, Repr

/-- `patterns`. -/
def patterns : LedState → LedPattern
  | .idle => ⟨colourOff, 0, 0⟩
  | .bleAdvertising => ⟨colourBlue, 30, 2000⟩
  | .zigbeeJoining => ⟨colourYellow, 100, 500⟩
  | .zigbeeConnected => ⟨colourGreen, 20, 5000⟩
  | .ota => ⟨colourPurple, 100, 300⟩
  | .alarm => ⟨colourRed, 100, 1000⟩
  | .identify => ⟨colourWhite, 250, 500⟩

/-- The statics of `led_manager.c`. A work item is the delay it was last scheduled with, in
milliseconds, while it is pending; `driven` is the colour on the pins. -/
structure LedManager where
  ready : Bool
  enabled : Bool
  /-- A bit for each `led_state_t`. -/
  activeMask : LedState → Bool
  blinkWork : Option Nat
  identifyTimeoutWork : Option Nat
  flashRemaining : UInt8
  flashColour : UInt8
  lightOn : Bool
  driven : UInt8

/-- The statics at reset. -/
def LedManager.atReset : LedManager where
  ready := false
  enabled := true
  activeMask := fun _ => false
  blinkWork := none
  identifyTimeoutWork := none
  flashRemaining := 0
  flashColour := 0
  lightOn := false
  driven := colourOff

def drive (colour : UInt8) (led : LedManager) : LedManager :=
  if ¬ led.ready then led else { led with driven := colour }

/-- The states that `top_state` looks at, from the highest priority down. -/
def LedState.byPriority : List LedState :=
  [.identify, .alarm, .ota, .zigbeeConnected, .zigbeeJoining, .bleAdvertising]

def topState (led : LedManager) : LedState :=
  (LedState.byPriority.find? led.activeMask).getD .idle

/-- `led_manager_init`. -/
def ledManagerInit (gpioReady : Bool) (led : LedManager) : Int × LedManager :=
  if ¬ gpioReady then (-ENODEV, led)
  else
    (0,
      { led with
        driven := colourOff
        blinkWork := none
        identifyTimeoutWork := none
        ready := true })

/-- `led_manager_set`. -/
def ledManagerSet (state : LedState) (active : Bool) (led : LedManager) : LedManager :=
  if ¬ led.ready then led
  else
    { led with
      activeMask := Function.update led.activeMask state active
      lightOn := false
      blinkWork := some 0 }

/-- `led_manager_identify`. -/
def ledManagerIdentify (durationS : UInt16) (led : LedManager) : LedManager :=
  if ¬ led.ready then led
  else
    { ledManagerSet .identify true led with
      identifyTimeoutWork := some (durationS.toNat * 1000) }

/-- `led_manager_flash`. -/
def ledManagerFlash (state : LedState) (count : UInt8) (led : LedManager) : LedManager :=
  if ¬ led.ready ∨ ¬ led.enabled ∨ count = 0 then led
  else
    { led with
      flashColour := (patterns state).colour
      flashRemaining := UInt8.ofNat (min (count.toNat * 2) 255)
      lightOn := false
      blinkWork := some 0 }

/-- `led_manager_set_enabled`. -/
def ledManagerSetEnabled (value : Bool) (led : LedManager) : LedManager :=
  let led := { led with enabled := value }
  if ¬ led.enabled then
    drive colourOff
      { led with
        flashRemaining := 0
        lightOn := false }
  else { led with blinkWork := some 0 }

/-- `blink_work_fn`, on work that is no longer pending. -/
def blinkWorkFn (led : LedManager) : LedManager :=
  if ¬ led.enabled then drive colourOff led
  -- Acknowledgement flashes pre-empt the steady pattern.
  else if 0 < led.flashRemaining then
    let led := { led with lightOn := !led.lightOn }
    let led := drive (if led.lightOn then led.flashColour else colourOff) led
    { led with
      flashRemaining := led.flashRemaining - 1
      blinkWork := some 80 }
  else
    let state := topState led
    let pattern := patterns state
    if state = .idle ∨ pattern.periodMs = 0 then drive colourOff { led with lightOn := false }
    else if led.lightOn then
      { drive colourOff { led with lightOn := false } with
        blinkWork := some (pattern.periodMs.toNat - pattern.onMs.toNat) }
    else
      { drive pattern.colour { led with lightOn := true } with
        blinkWork := some pattern.onMs.toNat }

/-- `identify_timeout_fn`. -/
def identifyTimeoutFn (led : LedManager) : LedManager := ledManagerSet .identify false led

/-! ## The indications -/

section

variable (state : LedState) (active : Bool) (led : LedManager)

@[simp] theorem ready_ledManagerSet : (ledManagerSet state active led).ready = led.ready := by
  unfold ledManagerSet
  split_ifs <;> rfl

theorem activeMask_ledManagerSet {led : LedManager} (h : led.ready = true) :
    (ledManagerSet state active led).activeMask =
      Function.update led.activeMask state active := by
  rw [ledManagerSet, if_neg (by simp [h])]

theorem ledManagerSet_of_not_ready {led : LedManager} (h : led.ready = false) :
    ledManagerSet state active led = led := by
  rw [ledManagerSet, if_pos (by simp [h])]

end

end SmartTag
