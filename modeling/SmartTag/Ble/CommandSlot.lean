import SmartTag.App.ConfigWrite

/-!
# The command slot

A write to the Command characteristic leaves the request in `pending_command` and submits a work
item; `command_work_fn` copies the request when it starts and then carries it out, which may take
seconds. Writes arrive at any time. The response sent at the end is not part of the model.

* `sound_step`: as long as no waiting request is overwritten, what has been executed and what
  waits are what was accepted.
* `commands_executed_once_iff`: every accepted command is executed once and in order exactly when
  no write is accepted while another command waits.
-/

namespace SmartTag

/-! ## Requests -/

/-! ### `ble_cmd_t` -/

namespace BleCmd

@[match_pattern] def identify : UInt8 := 0x01
@[match_pattern] def clearEventLog : UInt8 := 0x02
@[match_pattern] def clearSensorLog : UInt8 := 0x03
@[match_pattern] def resetCounters : UInt8 := 0x04
@[match_pattern] def factoryReset : UInt8 := 0x05
@[match_pattern] def sampleNow : UInt8 := 0x06
@[match_pattern] def setMode : UInt8 := 0x07
@[match_pattern] def clearAlarms : UInt8 := 0x08
@[match_pattern] def reboot : UInt8 := 0x09
@[match_pattern] def startCalibration : UInt8 := 0x0a
@[match_pattern] def setTime : UInt8 := 0x0b
@[match_pattern] def snapshotGasBaseline : UInt8 := 0x0c

end BleCmd

/-- `struct ble_cmd_request`. -/
structure BleCmdRequest where
  opcode : UInt8
  reserved : UInt8
  argument : UInt32
deriving DecidableEq, Repr

/-- `sizeof(pending_command)`. -/
def cmdRequestSize : Nat := 6

/-- The request that `buf` leaves in a cleared slot. -/
def BleCmdRequest.ofBytes (buf : List UInt8) : BleCmdRequest :=
  let image := buf ++ List.replicate (cmdRequestSize - buf.length) 0
  { opcode := Packed.getU8 image 0
    reserved := Packed.getU8 image 1
    argument := Packed.getU32 image 2 }

def BleCmdRequest.toBytes (r : BleCmdRequest) : List UInt8 :=
  Packed.pack [(1, r.opcode.toNat), (1, r.reserved.toNat), (4, r.argument.toNat)]

/-- A whole request is read as it was written. -/
theorem BleCmdRequest.ofBytes_toBytes (r : BleCmdRequest) : ofBytes r.toBytes = r := by
  have hlen : r.toBytes.length = cmdRequestSize := by
    simp [toBytes, Packed.length_pack, cmdRequestSize]
  rw [ofBytes, hlen, Nat.sub_self, List.replicate_zero, List.append_nil]
  simp [toBytes]

/-- The opcode is the first byte, however short the payload is. -/
theorem BleCmdRequest.opcode_ofBytes_cons (opcode : UInt8) (rest : List UInt8) :
    (ofBytes (opcode :: rest)).opcode = opcode := by
  simp [ofBytes, Packed.getU8, Packed.field, LittleEndian.ofBytes]

/-- `IDENTIFY_DURATION_S`. -/
def identifyDurationS : Nat := 10

/-- What `command_work_fn` calls to carry a request out. -/
inductive CommandCall where
  | ledManagerIdentify (durationS : Nat)
  | bleLogAbort
  | eventLogClear
  | sensorLogClear
  | appStateResetCounters
  | powerManagerSampleNow
  | appConfigSetMode (mode : UInt32)
  | appStateSetTimeUtc (utcNow : UInt32)
  | appStateSnapshotGasBaseline
  | appStateFactoryReset
  | appStateFlushStatistics
  | sysReboot
deriving DecidableEq, Repr

/-- The switch of `command_work_fn`. -/
def commandCalls (cmd : BleCmdRequest) : List CommandCall :=
  match cmd.opcode with
  | BleCmd.identify => [.ledManagerIdentify identifyDurationS]
  | BleCmd.clearEventLog => [.bleLogAbort, .eventLogClear]
  | BleCmd.clearSensorLog => [.bleLogAbort, .sensorLogClear]
  | BleCmd.resetCounters => [.appStateResetCounters]
  | BleCmd.clearAlarms => [.appStateResetCounters]
  | BleCmd.sampleNow => [.powerManagerSampleNow]
  | BleCmd.setMode => [.appConfigSetMode cmd.argument]
  | BleCmd.startCalibration => []
  | BleCmd.setTime => [.appStateSetTimeUtc cmd.argument]
  | BleCmd.snapshotGasBaseline => [.appStateSnapshotGasBaseline]
  | BleCmd.factoryReset => [.appStateFactoryReset]
  | BleCmd.reboot => [.appStateFlushStatistics, .sysReboot]
  | _ => []

/-- The request ends in a reboot; `app_state_factory_reset` does. -/
def BleCmdRequest.Reboots (cmd : BleCmdRequest) : Prop :=
  .appStateFactoryReset ∈ commandCalls cmd ∨ .sysReboot ∈ commandCalls cmd

instance (cmd : BleCmdRequest) : Decidable cmd.Reboots :=
  inferInstanceAs (Decidable (_ ∨ _))

/-! ## The slot -/

/-- The static request, the work item with the copy its handler runs on, and the requests accepted
and executed since the device started. -/
structure CommandSlot where
  pendingCommand : BleCmdRequest
  queued : Bool
  running : Option BleCmdRequest
  rebooted : Bool
  accepted : List BleCmdRequest
  executed : List BleCmdRequest
deriving DecidableEq, Repr

inductive CommandStep where
  | write (buf : List UInt8) (offset : UInt16)
  | start
  | finish
deriving DecidableEq, Repr

namespace CommandSlot

def init : CommandSlot where
  pendingCommand := .ofBytes []
  queued := false
  running := none
  rebooted := false
  accepted := []
  executed := []

/-- `ble_config_write_command`. Submitting a queued work item leaves it as it is. -/
def bleConfigWriteCommand (buf : List UInt8) (offset : UInt16) (s : CommandSlot) :
    Int × CommandSlot :=
  if offset ≠ 0 then (btGattErr btAttErrInvalidOffset, s)
  else if buf.length < 1 ∨ cmdRequestSize < buf.length then
    (btGattErr btAttErrInvalidAttributeLen, s)
  else
    (buf.length,
      { s with
        pendingCommand := .ofBytes buf
        queued := true
        accepted := s.accepted ++ [.ofBytes buf] })

/-- The work queue enters `command_work_fn`. -/
def start (s : CommandSlot) : CommandSlot :=
  if s.queued = true ∧ s.running = none then
    { s with
      queued := false
      running := some s.pendingCommand
      executed := s.executed ++ [s.pendingCommand] }
  else s

/-- `command_work_fn` is done. A reboot clears the statics. -/
def finish (s : CommandSlot) : CommandSlot :=
  match s.running with
  | none => s
  | some cmd =>
    if cmd.Reboots then
      { init with
        rebooted := true
        accepted := s.accepted
        executed := s.executed }
    else { s with running := none }

def perform (s : CommandSlot) : CommandStep → CommandSlot
  | .write buf offset => (s.bleConfigWriteCommand buf offset).2
  | .start => s.start
  | .finish => s.finish

/-- A run ends with the reboot. -/
def step (s : CommandSlot) (e : CommandStep) : CommandSlot :=
  if s.rebooted = true then s else s.perform e

theorem step_rebooted {s : CommandSlot} (h : s.rebooted = true) (e : CommandStep) :
    s.step e = s := if_pos h

theorem step_perform {s : CommandSlot} (h : s.rebooted = false) (e : CommandStep) :
    s.step e = s.perform e := if_neg (by simp [h])

/-- The work queue is left to itself: it finishes the command it runs and starts the one that
waits. -/
def catchUp (s : CommandSlot) : CommandSlot := (s.step .finish).step .start

/-- The commands executed are the first of those accepted, and all of them when the work queue has
caught up, unless a command reboots the device before. -/
def ExecutesOnce (s : CommandSlot) : Prop :=
  s.executed <+: s.accepted ∧ (s.catchUp.rebooted = false → s.catchUp.executed = s.accepted)

instance (s : CommandSlot) : Decidable s.ExecutesOnce := inferInstanceAs (Decidable (_ ∧ _))

/-- A payload that is answered with success. -/
def Accepts (buf : List UInt8) (offset : UInt16) : Prop :=
  offset = 0 ∧ 1 ≤ buf.length ∧ buf.length ≤ cmdRequestSize

/-- The command that is running ends in a reboot. -/
def Rebooting (s : CommandSlot) : Prop := ∃ cmd, s.running = some cmd ∧ cmd.Reboots

/-- A write is accepted only while no command waits, or the device is about to reboot. -/
def SlotFree (s : CommandSlot) : CommandStep → Prop
  | .write buf offset => Accepts buf offset → s.queued = true → s.Rebooting
  | _ => True

/-! ## What is executed and what waits -/

/-- The request that waits. -/
def waiting (s : CommandSlot) : List BleCmdRequest :=
  if s.queued = true then [s.pendingCommand] else []

structure Sound (s : CommandSlot) : Prop where
  inOrder : s.executed <+: s.accepted
  all : s.rebooted = false → ¬ s.Rebooting → s.executed ++ s.waiting = s.accepted
  cleared : s.rebooted = true → s.queued = false

theorem sound_init : init.Sound where
  inOrder := List.prefix_refl []
  all := fun _ _ => rfl
  cleared := fun _ => rfl

theorem write_accepted {buf : List UInt8} {offset : UInt16} (h : Accepts buf offset)
    (s : CommandSlot) :
    (s.bleConfigWriteCommand buf offset).2 =
      { s with
        pendingCommand := .ofBytes buf
        queued := true
        accepted := s.accepted ++ [.ofBytes buf] } := by
  obtain ⟨hoffset, hne, hle⟩ := h
  have hlen : ¬ (buf.length < 1 ∨ cmdRequestSize < buf.length) := by omega
  rw [bleConfigWriteCommand, if_neg (not_not.2 hoffset), if_neg hlen]

theorem write_refused {buf : List UInt8} {offset : UInt16} (h : ¬ Accepts buf offset)
    (s : CommandSlot) : (s.bleConfigWriteCommand buf offset).2 = s := by
  unfold bleConfigWriteCommand
  split_ifs with hoffset hlen
  · rfl
  · rfl
  · refine absurd ⟨not_not.1 hoffset, ?_⟩ h
    omega

theorem sound_write {buf : List UInt8} {offset : UInt16} {s : CommandSlot} (h : s.Sound)
    (hrun : s.rebooted = false) (hfree : s.SlotFree (.write buf offset)) :
    (s.bleConfigWriteCommand buf offset).2.Sound := by
  by_cases haccepts : Accepts buf offset
  · rw [write_accepted haccepts]
    refine ⟨h.inOrder.trans (List.prefix_append _ _), ?_, ?_⟩
    · intro _ hnot
      have hempty : s.queued = false := by
        by_contra hqueued
        exact hnot (hfree haccepts (Bool.of_not_eq_false hqueued))
      have hall := h.all hrun hnot
      rw [waiting, if_neg (by simp [hempty]), List.append_nil] at hall
      simp [waiting, hall]
    · intro hrebooted
      exact absurd (hrun.symm.trans hrebooted) (by decide)
  · rw [write_refused haccepts]
    exact h

theorem sound_start {s : CommandSlot} (h : s.Sound) (hrun : s.rebooted = false) :
    s.start.Sound := by
  unfold start
  split_ifs with hstart
  · obtain ⟨hqueued, hidle⟩ := hstart
    have hnot : ¬ s.Rebooting := by
      intro hrebooting
      obtain ⟨cmd, hcmd, _⟩ := hrebooting
      exact Option.some_ne_none cmd (hcmd.symm.trans hidle)
    have hall := h.all hrun hnot
    rw [waiting, if_pos hqueued] at hall
    refine ⟨?_, ?_, fun _ => rfl⟩
    · exact ⟨[], (List.append_nil _).trans hall⟩
    · intro _ _
      simp [waiting, hall]
  · exact h

theorem sound_finish {s : CommandSlot} (h : s.Sound) (hrun : s.rebooted = false) :
    s.finish.Sound := by
  unfold finish
  split
  · exact h
  · next cmd hcmd =>
      split_ifs with hreboots
      · exact ⟨h.inOrder, (fun hrebooted => nomatch hrebooted), fun _ => rfl⟩
      · have hnot : ¬ s.Rebooting := by
          intro hrebooting
          obtain ⟨cmd', hcmd', hreboots'⟩ := hrebooting
          rw [hcmd] at hcmd'
          cases hcmd'
          exact hreboots hreboots'
        exact ⟨h.inOrder, fun _ _ => h.all hrun hnot, h.cleared⟩

theorem sound_step {s : CommandSlot} {e : CommandStep} (h : s.Sound) (hfree : s.SlotFree e) :
    (s.step e).Sound := by
  cases hrun : s.rebooted with
  | true =>
      rw [step_rebooted hrun]
      exact h
  | false =>
      rw [step_perform hrun]
      cases e with
      | write buf offset => exact sound_write h hrun hfree
      | start => exact sound_start h hrun
      | finish => exact sound_finish h hrun

/-! ## Catching up -/

/-- A device that is not about to reboot executes what waits. -/
theorem catchUp_executed {s : CommandSlot} (hrun : s.rebooted = false) (hnot : ¬ s.Rebooting) :
    s.catchUp.rebooted = false ∧ s.catchUp.executed = s.executed ++ s.waiting := by
  have hfinish : s.step .finish = { s with running := none } := by
    rw [step_perform hrun, perform, finish]
    split
    · next hidle => rw [← hidle]
    · next cmd hcmd => rw [if_neg fun hreboots => hnot ⟨cmd, hcmd, hreboots⟩]
  have hidle : ({ s with running := none } : CommandSlot).rebooted = false := hrun
  rw [catchUp, hfinish, step_perform hidle, perform, start, waiting]
  dsimp only
  split_ifs with hwaits hqueued hqueued
  · exact ⟨hrun, rfl⟩
  · exact absurd hwaits.1 hqueued
  · exact absurd ⟨hqueued, rfl⟩ hwaits
  · exact ⟨hrun, (List.append_nil _).symm⟩

theorem catchUp_rebooted {s : CommandSlot} (h : s.rebooted = true ∨ s.Rebooting) :
    s.catchUp.rebooted = true := by
  have hfinish : (s.step .finish).rebooted = true := by
    cases hrun : s.rebooted with
    | true =>
        rw [step_rebooted hrun]
        exact hrun
    | false =>
        obtain hrebooted | ⟨cmd, hcmd, hreboots⟩ := h
        · exact absurd (hrun.symm.trans hrebooted) (by decide)
        · rw [step_perform hrun, perform, finish, hcmd]
          exact congrArg rebooted (if_pos hreboots)
  rw [catchUp, step_rebooted hfinish]
  exact hfinish

theorem Sound.executesOnce {s : CommandSlot} (h : s.Sound) : s.ExecutesOnce := by
  refine ⟨h.inOrder, ?_⟩
  intro hcaught
  have hup : ¬ (s.rebooted = true ∨ s.Rebooting) := by
    intro hdown
    exact absurd ((catchUp_rebooted hdown).symm.trans hcaught) (by decide)
  obtain ⟨hrun, hnot⟩ := not_or.1 hup
  have hrun : s.rebooted = false := Bool.eq_false_of_not_eq_true hrun
  rw [(catchUp_executed hrun hnot).2]
  exact h.all hrun hnot

/-- A request overwritten while it waits is never executed. -/
theorem not_executesOnce_of_not_slotFree {s : CommandSlot} {e : CommandStep} (h : s.Sound)
    (hfree : ¬ s.SlotFree e) : ¬ (s.step e).ExecutesOnce := by
  cases e with
  | start | finish => exact absurd trivial hfree
  | write buf offset =>
      simp only [SlotFree, Classical.not_imp] at hfree
      obtain ⟨haccepts, hqueued, hnot⟩ := hfree
      have hrun : s.rebooted = false := by
        by_contra hrebooted
        have hempty := h.cleared (Bool.of_not_eq_false hrebooted)
        exact absurd (hqueued.symm.trans hempty) (by decide)
      have hwrite : s.step (.write buf offset) =
          { s with
            pendingCommand := .ofBytes buf
            queued := true
            accepted := s.accepted ++ [.ofBytes buf] } := by
        rw [step_perform hrun, perform, write_accepted haccepts]
      have hall := h.all hrun hnot
      rw [waiting, if_pos hqueued] at hall
      rw [hwrite]
      intro hexecutes
      obtain ⟨hcaught, hexecuted⟩ := catchUp_executed (s := s.step (.write buf offset))
        (by rw [hwrite]; exact hrun) (by rw [hwrite]; exact hnot)
      rw [hwrite] at hcaught hexecuted
      have hsame := hexecuted.symm.trans (hexecutes.2 hcaught)
      have hlen := congrArg List.length hsame
      rw [← hall] at hlen
      simp [waiting] at hlen

/-- In every state of a run the commands executed are the first of those accepted, and all of them
when the work queue catches up before a reboot, exactly when every write accepted in the run finds
no other command waiting, or a device about to reboot. -/
theorem commands_executed_once_iff (steps : List CommandStep) :
    (∀ m, (Run.final step init (steps.take m)).ExecutesOnce) ↔
      Run.Along step SlotFree init steps :=
  Run.forall_prefix_iff_along_any (fun _ h => h.executesOnce)
    (fun _ _ h hfree => sound_step h hfree)
    (fun _ _ h hfree => not_executesOnce_of_not_slotFree h hfree) sound_init

/-- Identify and then Sample Now, both before the work queue gets to run: only the second is
executed. -/
theorem command_overwritten :
    ¬ (Run.final step init [.write [0x01] 0, .write [0x06] 0]).ExecutesOnce := by
  decide +kernel

end CommandSlot

end SmartTag
