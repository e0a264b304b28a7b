import SmartTag.App.FactoryReset
import SmartTag.App.HourlySave
import SmartTag.Ble.CommandSlot
import SmartTag.Ble.LogStream

/-!
# Commands and their responses

A client writes a command and is notified of a response, following `src/ble/ble_config.c`. The
command is carried out by a work item, and samples, events and other writes to the configuration
come at any time between its steps. The response is notified once: where `ble_gatt_notify` refuses
it, it is lost.

* `BleCmdResponse.ofBytes_toBytes`: the client reads the response that was sent.
* `commandPerform`, `commandResponse`: what a command does, and what is said about it.
* `CommandSession.step_orderly`: what has been accepted, executed and answered.
* `CommandSession.Truthful.step`: every response goes back to a command that was carried out.
* `commands_answered`: a client that waits for its responses has each command answered, in order,
  until one is lost.
-/

namespace SmartTag

/-! ## Responses -/

/-- The size of the payload of `struct ble_cmd_response`. -/
def cmdPayloadMax : Nat := 32

/-- `struct ble_cmd_response`, with the part of the payload that is sent. -/
@[ext]
structure BleCmdResponse where
  opcode : UInt8
  /-- 0 or a negated error number, as far as it fits. -/
  status : Int8
  payload : List UInt8
deriving DecidableEq, Repr

namespace BleCmdResponse

def toBytes (r : BleCmdResponse) : List UInt8 :=
  Packed.pack [(1, r.opcode.toNat), (1, r.status.toUInt8.toNat), (2, r.payload.length)] ++ r.payload

/-- What a client makes of the bytes. -/
def ofBytes (bs : List UInt8) : BleCmdResponse where
  opcode := Packed.getU8 bs 0
  status := (Packed.getU8 bs 1).toInt8
  payload := (bs.drop 4).take (Packed.getU16 bs 2).toNat

theorem ofBytes_toBytes {r : BleCmdResponse} (h : r.payload.length ≤ cmdPayloadMax) :
    ofBytes r.toBytes = r := by
  have hlen : (Packed.pack
      [(1, r.opcode.toNat), (1, r.status.toUInt8.toNat), (2, r.payload.length)]).length = 4 := by
    simp [Packed.length_pack]
  have hfits : r.payload.length < 2 ^ 16 := lt_of_le_of_lt h (by decide)
  have hcount : (UInt16.ofNat r.payload.length).toNat = r.payload.length :=
    UInt16.toNat_ofNat_of_lt' hfits
  unfold toBytes
  ext1
  · show Packed.getU8 _ 0 = _
    rw [Packed.getU8_append (by omega), Packed.getU8_head]
  · show (Packed.getU8 _ 1).toInt8 = _
    rw [Packed.getU8_append (by omega), Packed.getU8_tail (by omega), Packed.getU8_head]
    exact Int8.toInt8_toUInt8 _
  · show (List.drop 4 _).take (Packed.getU16 _ 2).toNat = _
    rw [List.drop_left' hlen, Packed.getU16_append (by omega), ← hcount,
      Packed.getU16_tail (by omega), Packed.getU16_tail (by omega), Packed.getU16_head, hcount,
      List.take_length]

end BleCmdResponse

/-- `send_response`, up to the notification. -/
def sendResponse (opcode : UInt8) (status : Int8) (payload : List UInt8) : BleCmdResponse where
  opcode := opcode
  status := status
  payload := payload.take cmdPayloadMax

theorem sendResponse_payload_le (opcode : UInt8) (status : Int8) (payload : List UInt8) :
    (sendResponse opcode status payload).payload.length ≤ cmdPayloadMax := List.length_take_le _ _

/-! ## What a command does -/

/-- What the switch of `command_work_fn` leaves. -/
structure CommandOutcome where
  err : Int
  /-- The floor of the gas alarm, where a baseline was taken. -/
  floor : UInt32
  device : Device

section

variable [Crc16]

/-- The switch of `command_work_fn`, as far as it comes to the device: the lamp and the sampling
thread are told to do their part, and what ends in a reboot is done after the response. -/
def commandPerform (uptimeMs : Nat) (cmd : BleCmdRequest) (device : Device) : CommandOutcome :=
  match cmd.opcode with
  | BleCmd.identify | BleCmd.sampleNow => ⟨0, 0, device⟩
  | BleCmd.clearEventLog =>
    let (err, log) := eventLogClear device.tag.eventLog
    ⟨err, 0, device.onTag fun tag => { tag with eventLog := log }⟩
  | BleCmd.clearSensorLog =>
    let (err, log) := sensorLogClear device.tag.sensorLog
    ⟨err, 0, device.onTag fun tag => { tag with sensorLog := log }⟩
  | BleCmd.resetCounters | BleCmd.clearAlarms => ⟨0, 0, device.resetCounters⟩
  | BleCmd.setMode =>
    let (err, device) := appConfigSetMode cmd.argument device
    ⟨err, 0, device⟩
  | BleCmd.startCalibration => ⟨-ENOTSUP, 0, device⟩
  | BleCmd.setTime =>
    let (err, tag) := appStateSetTimeUtc uptimeMs cmd.argument device.tag
    ⟨err, 0, { device with tag := tag }⟩
  | BleCmd.snapshotGasBaseline =>
    let floor := snapshotFloor device.tag.app.lastSample
    let (err, device) := appStateSnapshotGasBaseline uptimeMs device
    ⟨err, if err = 0 then floor else 0, device⟩
  | BleCmd.factoryReset | BleCmd.reboot => ⟨0, 0, device⟩
  | _ => ⟨-ENOTSUP, 0, device⟩

/-- What is left to do after the response. -/
def commandConclude (uptimeMs : Nat) (cmd : BleCmdRequest) (device : Device) : Device :=
  match cmd.opcode with
  | BleCmd.factoryReset => factoryReset.foldl (fun device op => op.perform uptimeMs device) device
  | BleCmd.reboot => device.onTag appStateFlushStatistics
  | _ => device

end

/-- The response of `command_work_fn`, with the statistics as they are when it is sent. -/
def commandResponse (cmd : BleCmdRequest) (err : Int) (floor : UInt32)
    (statistics : TagStatistics) : BleCmdResponse :=
  if cmd.opcode = BleCmd.snapshotGasBaseline ∧ err = 0 then
    sendResponse cmd.opcode 0 (LittleEndian.toBytes 4 floor.toNat)
  else if cmd.opcode = BleCmd.factoryReset ∨ cmd.opcode = BleCmd.reboot then
    sendResponse cmd.opcode 0 []
  else if cmd.opcode = BleCmd.resetCounters ∧ err = 0 then
    sendResponse cmd.opcode 0 statistics.toBytes
  else if cmd.opcode = BleCmd.setTime ∧ err = 0 then
    sendResponse cmd.opcode 0 (LittleEndian.toBytes 4 statistics.bootEpochUtc.toNat)
  else sendResponse cmd.opcode (Int8.ofInt err) []

theorem commandResponse_payload_le (cmd : BleCmdRequest) (err : Int) (floor : UInt32)
    (statistics : TagStatistics) :
    (commandResponse cmd err floor statistics).payload.length ≤ cmdPayloadMax := by
  unfold commandResponse
  split_ifs <;> exact sendResponse_payload_le _ _ _

theorem commandResponse_status {cmd : BleCmdRequest} {err : Int}
    (h : cmd.opcode = BleCmd.factoryReset ∨ cmd.opcode = BleCmd.reboot → err = 0) (floor : UInt32)
    (statistics : TagStatistics) :
    (commandResponse cmd err floor statistics).status = Int8.ofInt err := by
  unfold commandResponse
  split_ifs with hfloor hreboots hcounters hepoch
  · rw [hfloor.2]
    rfl
  · rw [h hreboots]
    rfl
  · rw [hcounters.2]
    rfl
  · rw [hepoch.2]
    rfl
  · rfl

/-- What ends in a reboot is not refused. -/
theorem commandPerform_err_of_reboots [Crc16] {cmd : BleCmdRequest}
    (h : cmd.opcode = BleCmd.factoryReset ∨ cmd.opcode = BleCmd.reboot) (uptimeMs : Nat)
    (device : Device) : (commandPerform uptimeMs cmd device).err = 0 := by
  rw [commandPerform]
  rcases h with hopcode | hopcode <;> rw [hopcode] <;> rfl

/-- The error number loses all but its low byte. -/
theorem int8_ofInt_eq_zero_iff (err : Int) : Int8.ofInt err = 0 ↔ 256 ∣ err := by
  rw [← Int8.toInt_inj, Int8.toInt_ofInt]
  exact Int.dvd_iff_bmod_eq_zero.symm

/-! ## The session -/

/-- How far `command_work_fn` has come with its copy of the request. -/
inductive CommandPhase where
  | idle
  | entered (cmd : BleCmdRequest)
  | performed (cmd : BleCmdRequest) (err : Int) (floor : UInt32)
  | responded (cmd : BleCmdRequest)
deriving DecidableEq, Repr

/-- The request it works on. -/
def CommandPhase.cmd : CommandPhase → Option BleCmdRequest
  | .idle => none
  | .entered cmd | .performed cmd _ _ | .responded cmd => some cmd

/-- The responses that are still owed for it. -/
def CommandPhase.owed : CommandPhase → Nat
  | .entered _ | .performed .. => 1
  | .idle | .responded _ => 0

/-- The slot of the requests, the work item and the device, with the notifications that
`ble_gatt_notify` took and the number of those that it refused. -/
structure CommandSession where
  slot : CommandSlot
  phase : CommandPhase
  uptime : Uptime
  responses : List (List UInt8)
  lost : Nat

inductive CommandEvent where
  /-- A write to the Command characteristic. -/
  | write (buf : List UInt8) (offset : UInt16)
  /-- The work queue takes its next step, the client's side of the Command characteristic as it is
  then. -/
  | work (uptimeMs : Nat) (link : Link)
  /-- Anything else that happens to the device. -/
  | other (call : UptimeCall)

def CommandEvent.isWork : CommandEvent → Bool
  | .work .. => true
  | .write .. | .other _ => false

/-- Where the step sends a response, `ble_gatt_notify` takes it. -/
def CommandEvent.Takes : CommandEvent → Prop
  | .work _ link => bleGattNotify link = 0
  | .write .. | .other _ => True

namespace CommandSession

def device (s : CommandSession) : Device := s.uptime.device

def begin (readOk : SettingsKey → Bool) (tag : Tag) : CommandSession where
  slot := .init
  phase := .idle
  uptime := .boot readOk tag
  responses := []
  lost := 0

section

variable [Crc16]

/-- The next step of the work queue. -/
def work (uptimeMs : Nat) (link : Link) (s : CommandSession) : CommandSession :=
  match s.phase with
  | .idle =>
    let slot := s.slot.step .start
    match slot.running with
    | none => s
    | some cmd => { s with slot := slot, phase := .entered cmd }
  | .entered cmd =>
    let did := commandPerform uptimeMs cmd s.device
    { s with
      phase := .performed cmd did.err did.floor
      uptime := { s.uptime with device := did.device } }
  | .performed cmd err floor =>
    let response := commandResponse cmd err floor s.uptime.statistics
    if bleGattNotify link = 0 then
      { s with phase := .responded cmd, responses := s.responses ++ [response.toBytes] }
    else
      -- What `ble_gatt_notify` returns is not looked at.
      { s with phase := .responded cmd, lost := s.lost + 1 }
  | .responded cmd =>
    { s with
      slot := s.slot.step .finish
      phase := .idle
      uptime := { s.uptime with device := commandConclude uptimeMs cmd s.device } }

/-- A run ends with the reboot. -/
def step (s : CommandSession) (e : CommandEvent) : CommandSession :=
  if s.slot.rebooted = true then s
  else
    match e with
    | .write buf offset => { s with slot := s.slot.step (.write buf offset) }
    | .work uptimeMs link => s.work uptimeMs link
    | .other call => { s with uptime := s.uptime.step call }

end

/-- The client writes no command before it has all its responses. -/
def Waits (s : CommandSession) : CommandEvent → Prop
  | .write buf offset =>
    CommandSlot.Accepts buf offset → s.slot.accepted.length ≤ s.responses.length
  | .work .. | .other _ => True

/-! ## What has been accepted, executed and answered -/

/-- At most one command is unanswered, and it is the last one. -/
structure Orderly (s : CommandSession) : Prop where
  sound : s.slot.Sound
  linked : s.slot.running = s.phase.cmd
  answered : s.phase.owed + s.responses.length + s.lost = s.slot.executed.length
  outstanding : s.slot.accepted.length ≤ s.responses.length + 1
  current : ∀ cmd ∈ s.phase.cmd, s.slot.executed.getLast? = some cmd

theorem orderly_begin (readOk : SettingsKey → Bool) (tag : Tag) : (begin readOk tag).Orderly where
  sound := CommandSlot.sound_init
  linked := rfl
  answered := rfl
  outstanding := Nat.zero_le _
  current := nofun

/-- Nothing has been lost while a response is owed. -/
theorem Orderly.length_executed {s : CommandSession} (h : s.Orderly) (howed : s.phase.owed = 1) :
    s.slot.executed.length = s.responses.length + 1 := by
  have hanswered := h.answered
  have hexecuted := h.sound.inOrder.length_le
  have houtstanding := h.outstanding
  omega

/-- A client that waits leaves the slot to the command that waits in it. -/
theorem Orderly.slotFree {s : CommandSession} (h : s.Orderly) (hup : s.slot.rebooted = false)
    {buf : List UInt8} {offset : UInt16} (hwaits : s.Waits (.write buf offset)) :
    s.slot.SlotFree (.write buf offset) := by
  intro haccepts hqueued
  by_contra hnot
  have hall := congrArg List.length (h.sound.all hup hnot)
  rw [CommandSlot.waiting, if_pos hqueued, List.length_append, List.length_singleton] at hall
  have hanswered := h.answered
  have hnone := hwaits haccepts
  omega

/-- A write that is accepted overwrites the request and submits the work item. -/
theorem slot_write_accepted {s : CommandSlot} (hup : s.rebooted = false) {buf : List UInt8}
    {offset : UInt16} (h : CommandSlot.Accepts buf offset) :
    s.step (.write buf offset) =
      { s with
        pendingCommand := BleCmdRequest.ofBytes buf
        queued := true
        accepted := s.accepted ++ [BleCmdRequest.ofBytes buf] } := by
  rw [CommandSlot.step_perform hup, CommandSlot.perform, CommandSlot.write_accepted h]

theorem slot_write_refused (s : CommandSlot) {buf : List UInt8} {offset : UInt16}
    (h : ¬ CommandSlot.Accepts buf offset) : s.step (.write buf offset) = s := by
  cases hup : s.rebooted with
  | true => exact CommandSlot.step_rebooted hup _
  | false => rw [CommandSlot.step_perform hup, CommandSlot.perform, CommandSlot.write_refused h]

theorem Orderly.write {s : CommandSession} (h : s.Orderly) (hup : s.slot.rebooted = false)
    {buf : List UInt8} {offset : UInt16} (hwaits : s.Waits (.write buf offset)) :
    ({ s with slot := s.slot.step (.write buf offset) } : CommandSession).Orderly := by
  have hsound := CommandSlot.sound_step h.sound (h.slotFree hup hwaits)
  by_cases haccepts : CommandSlot.Accepts buf offset
  · rw [slot_write_accepted hup haccepts] at hsound ⊢
    refine ⟨hsound, h.linked, h.answered, ?_, h.current⟩
    have hnone := hwaits haccepts
    simp only [List.length_append, List.length_singleton]
    omega
  · rw [slot_write_refused _ haccepts]
    exact h

/-- The work queue enters the handler with a copy of the request that waits. -/
theorem slot_start {s : CommandSlot} (hup : s.rebooted = false) (hidle : s.running = none) :
    s.queued = false ∧ s.step .start = s ∨
      s.queued = true ∧ s.step .start =
        { s with
          queued := false
          running := some s.pendingCommand
          executed := s.executed ++ [s.pendingCommand] } := by
  rw [CommandSlot.step_perform hup, CommandSlot.perform, CommandSlot.start]
  cases hqueued : s.queued with
  | true => exact Or.inr ⟨rfl, if_pos ⟨rfl, hidle⟩⟩
  | false => exact Or.inl ⟨rfl, if_neg (by simp)⟩

theorem slot_finish {s : CommandSlot} (hup : s.rebooted = false) {cmd : BleCmdRequest}
    (hcmd : s.running = some cmd) :
    (s.step .finish).running = none ∧ (s.step .finish).accepted = s.accepted ∧
      (s.step .finish).executed = s.executed := by
  rw [CommandSlot.step_perform hup, CommandSlot.perform, CommandSlot.finish, hcmd]
  dsimp only
  split_ifs <;> exact ⟨rfl, rfl, rfl⟩

theorem slot_finish_queued {s : CommandSlot} (hup : s.rebooted = false) {cmd : BleCmdRequest}
    (hcmd : s.running = some cmd) :
    (s.step .finish).rebooted = true ∨
      ¬ cmd.Reboots ∧ (s.step .finish).queued = s.queued := by
  rw [CommandSlot.step_perform hup, CommandSlot.perform, CommandSlot.finish, hcmd]
  dsimp only
  split_ifs with hreboots
  · exact Or.inl rfl
  · exact Or.inr ⟨hreboots, rfl⟩

theorem slot_write (s : CommandSlot) (buf : List UInt8) (offset : UInt16) :
    (s.step (.write buf offset)).executed = s.executed ∧
      (s.step (.write buf offset)).running = s.running ∧
      (s.step (.write buf offset)).rebooted = s.rebooted ∧
      (s.queued = true → (s.step (.write buf offset)).queued = true) := by
  by_cases haccepts : CommandSlot.Accepts buf offset
  · cases hrun : s.rebooted with
    | true =>
        rw [CommandSlot.step_rebooted hrun]
        exact ⟨rfl, rfl, hrun, id⟩
    | false =>
        rw [slot_write_accepted hrun haccepts]
        exact ⟨rfl, rfl, hrun, fun _ => rfl⟩
  · rw [slot_write_refused s haccepts]
    exact ⟨rfl, rfl, rfl, id⟩

section

variable [Crc16] {s : CommandSession} {cmd : BleCmdRequest} (uptimeMs : Nat) (link : Link)

/-! One step of the work queue, by how far it has come. -/

theorem work_idle (hup : s.slot.rebooted = false) (hphase : s.phase = .idle)
    (hidle : s.slot.running = none) :
    s.slot.queued = false ∧ s.work uptimeMs link = s ∨
      s.slot.queued = true ∧ s.work uptimeMs link =
        { s with
          slot := s.slot.step .start
          phase := .entered s.slot.pendingCommand } ∧
        (s.slot.step .start).running = some s.slot.pendingCommand ∧
        (s.slot.step .start).accepted = s.slot.accepted ∧
        (s.slot.step .start).executed = s.slot.executed ++ [s.slot.pendingCommand] := by
  rcases slot_start hup hidle with ⟨hqueued, hstart⟩ | ⟨hqueued, hstart⟩
  · refine Or.inl ⟨hqueued, ?_⟩
    rw [work, hphase]
    dsimp only
    rw [hstart, hidle]
  · refine Or.inr ⟨hqueued, ?_, by rw [hstart], by rw [hstart], by rw [hstart]⟩
    rw [work, hphase]
    dsimp only
    rw [hstart]

theorem work_entered (hphase : s.phase = .entered cmd) :
    s.work uptimeMs link =
      { s with
        phase := .performed cmd (commandPerform uptimeMs cmd s.device).err
          (commandPerform uptimeMs cmd s.device).floor
        uptime := { s.uptime with device := (commandPerform uptimeMs cmd s.device).device } } := by
  rw [work, hphase]

theorem work_taken {err : Int} {floor : UInt32} (hphase : s.phase = .performed cmd err floor)
    (hlink : bleGattNotify link = 0) :
    s.work uptimeMs link =
      { s with
        phase := .responded cmd
        responses := s.responses ++
          [(commandResponse cmd err floor s.uptime.statistics).toBytes] } := by
  rw [work, hphase]
  exact if_pos hlink

theorem work_lost {err : Int} {floor : UInt32} (hphase : s.phase = .performed cmd err floor)
    (hlink : bleGattNotify link ≠ 0) :
    s.work uptimeMs link = { s with phase := .responded cmd, lost := s.lost + 1 } := by
  rw [work, hphase]
  exact if_neg hlink

theorem work_responded (hphase : s.phase = .responded cmd) :
    s.work uptimeMs link =
      { s with
        slot := s.slot.step .finish
        phase := .idle
        uptime := { s.uptime with device := commandConclude uptimeMs cmd s.device } } := by
  rw [work, hphase]

theorem Orderly.work (h : s.Orderly) (hup : s.slot.rebooted = false) :
    (s.work uptimeMs link).Orderly := by
  obtain ⟨hsound, hlinked, hanswered, houtstanding, hcurrent⟩ := h
  cases hphase : s.phase with
  | idle =>
      rw [hphase] at hlinked hanswered
      rcases work_idle uptimeMs link hup hphase hlinked with
        ⟨-, hwork⟩ | ⟨-, hwork, hrunning, haccepted, hexecuted⟩
      · rw [hwork]
        exact ⟨hsound, by rw [hlinked, hphase], by rw [hphase, hanswered], houtstanding, hcurrent⟩
      · rw [hwork]
        refine ⟨CommandSlot.sound_step hsound trivial, hrunning, ?_, haccepted ▸ houtstanding, ?_⟩
        · rw [hexecuted, List.length_append, ← hanswered, CommandPhase.owed, CommandPhase.owed]
          simp only [List.length_singleton]
          omega
        · intro cmd hcmd
          obtain rfl := Option.some.inj hcmd
          rw [hexecuted]
          exact List.getLast?_concat
  | entered cmd =>
      rw [hphase] at hlinked hanswered hcurrent
      rw [work_entered uptimeMs link hphase]
      exact ⟨hsound, hlinked, hanswered, houtstanding, hcurrent⟩
  | performed cmd err floor =>
      rw [hphase] at hlinked hanswered hcurrent
      by_cases hlink : bleGattNotify link = 0
      · rw [work_taken uptimeMs link hphase hlink]
        refine ⟨hsound, hlinked, ?_, ?_, hcurrent⟩
        · rw [← hanswered, CommandPhase.owed, CommandPhase.owed, List.length_append]
          simp only [List.length_singleton]
          omega
        · rw [List.length_append]
          exact houtstanding.trans (Nat.le_succ _)
      · rw [work_lost uptimeMs link hphase hlink]
        refine ⟨hsound, hlinked, ?_, houtstanding, hcurrent⟩
        show 0 + s.responses.length + (s.lost + 1) = s.slot.executed.length
        rw [← hanswered, CommandPhase.owed]
        omega
  | responded cmd =>
      rw [hphase] at hlinked hanswered
      obtain ⟨hrunning, haccepted, hexecuted⟩ := slot_finish hup hlinked
      rw [work_responded uptimeMs link hphase]
      exact ⟨CommandSlot.sound_step hsound trivial, hrunning, by rw [hexecuted]; exact hanswered,
        haccepted ▸ houtstanding, nofun⟩

theorem step_orderly {e : CommandEvent} (h : s.Orderly) (hwaits : s.Waits e) :
    (s.step e).Orderly := by
  unfold step
  split_ifs with hrebooted
  · exact h
  · have hup := Bool.eq_false_of_not_eq_true hrebooted
    cases e with
    | write buf offset => exact h.write hup hwaits
    | work uptimeMs link => exact h.work uptimeMs link hup
    | other call => exact ⟨h.sound, h.linked, h.answered, h.outstanding, h.current⟩

/-! ## What the responses say -/

section

variable (start : CommandSession) (events : List CommandEvent)

/-- Step `i` of the run carries a command out, as the `m`th one, and this is what comes of it. -/
def CarriesOut (m : Nat) (cmd : BleCmdRequest) (err : Int) (floor : UInt32) (i : Nat) : Prop :=
  let before := Run.final step start (events.take i)
  ∃ uptimeMs link, events[i]? = some (.work uptimeMs link) ∧ before.phase = .entered cmd ∧
    before.slot.executed.length = m + 1 ∧ (commandPerform uptimeMs cmd before.device).err = err ∧
    (commandPerform uptimeMs cmd before.device).floor = floor

/-- What has been responded by step `n` of the run, and is about to be. -/
structure Truthful (n : Nat) (s : CommandSession) : Prop where
  performed : ∀ cmd err floor, s.phase = .performed cmd err floor →
    ∃ i < n, CarriesOut start events s.responses.length cmd err floor i
  responses : ∀ m response, s.responses[m]? = some response → ∃ cmd err floor i j,
    s.slot.executed[m]? = some cmd ∧ i < j ∧ j < n ∧ CarriesOut start events m cmd err floor i ∧
      response = (commandResponse cmd err floor
        (Run.final step start (events.take j)).uptime.statistics).toBytes

end

variable {start : CommandSession} {events : List CommandEvent} {n : Nat} {s s' : CommandSession}

/-- A step that sends nothing. -/
theorem Truthful.quiet (h : Truthful start events n s) (hresponses : s'.responses = s.responses)
    (hexecuted : s.slot.executed <+: s'.slot.executed)
    (hperformed : ∀ cmd err floor, s'.phase = .performed cmd err floor →
      ∃ i < n + 1, CarriesOut start events s.responses.length cmd err floor i) :
    Truthful start events (n + 1) s' := by
  refine ⟨?_, ?_⟩
  · rw [hresponses]
    exact hperformed
  · intro m response hget
    rw [hresponses] at hget
    obtain ⟨cmd, err, floor, i, j, hcmd, hij, hj, hcarries, hresponse⟩ :=
      h.responses m response hget
    obtain ⟨later, hlater⟩ := hexecuted
    refine ⟨cmd, err, floor, i, j, ?_, hij, Nat.lt_succ_of_lt hj, hcarries, hresponse⟩
    rw [← hlater, List.getElem?_append_left (List.getElem?_eq_some_iff.1 hcmd).1]
    exact hcmd

/-- A step that leaves the handler where it is. -/
theorem Truthful.stay (h : Truthful start events n s) (hresponses : s'.responses = s.responses)
    (hexecuted : s'.slot.executed = s.slot.executed) (hphase : s'.phase = s.phase) :
    Truthful start events (n + 1) s' := by
  refine h.quiet hresponses (hexecuted ▸ List.prefix_refl _) fun cmd err floor hperformed => ?_
  obtain ⟨i, hi, hcarries⟩ := h.performed cmd err floor (hphase ▸ hperformed)
  exact ⟨i, Nat.lt_succ_of_lt hi, hcarries⟩

theorem Truthful.work (h : Truthful start events n s)
    (hs : s = Run.final step start (events.take n)) {uptimeMs : Nat} {link : Link}
    (hget : events[n]? = some (.work uptimeMs link)) (horderly : s.Orderly)
    (hup : s.slot.rebooted = false) : Truthful start events (n + 1) (s.work uptimeMs link) := by
  have hexecuted := horderly.length_executed
  obtain ⟨-, hlinked, -, -, hcurrent⟩ := horderly
  cases hphase : s.phase with
  | idle =>
      rw [hphase] at hlinked
      rcases work_idle uptimeMs link hup hphase hlinked with
        ⟨-, hwork⟩ | ⟨-, hwork, -, -, hexecuted⟩
      · rw [hwork]
        exact h.stay rfl rfl rfl
      · rw [hwork]
        refine h.quiet rfl ?_ nofun
        rw [hexecuted]
        exact List.prefix_append _ _
  | entered cmd =>
      rw [work_entered uptimeMs link hphase]
      refine h.quiet rfl (List.prefix_refl _) fun cmd' err floor hperformed => ?_
      obtain ⟨rfl, rfl, rfl⟩ := CommandPhase.performed.inj hperformed
      refine ⟨n, Nat.lt_succ_self n, uptimeMs, link, hget, ?_⟩
      rw [← hs]
      exact ⟨hphase, hexecuted (by rw [hphase]; rfl), rfl, rfl⟩
  | performed cmd err floor =>
      by_cases hlink : bleGattNotify link = 0
      · rw [hphase] at hcurrent
        obtain ⟨i, hi, hcarries⟩ := h.performed cmd err floor hphase
        have hlast : s.slot.executed[s.responses.length]? = some cmd := by
          have hlast := hcurrent cmd rfl
          rw [List.getLast?_eq_getElem?, hexecuted (by rw [hphase]; rfl), Nat.add_sub_cancel]
            at hlast
          exact hlast
        rw [work_taken uptimeMs link hphase hlink]
        refine ⟨nofun, fun m response hm => ?_⟩
        rcases Nat.lt_or_ge m s.responses.length with hold | hnew
        · rw [List.getElem?_append_left hold] at hm
          obtain ⟨cmd', err', floor', i', j, hcmd, hij, hj, hrest⟩ := h.responses m response hm
          exact ⟨cmd', err', floor', i', j, hcmd, hij, Nat.lt_succ_of_lt hj, hrest⟩
        · rw [List.getElem?_append_right hnew, List.getElem?_singleton] at hm
          obtain ⟨hzero, hresponse⟩ := Option.ite_none_right_eq_some.1 hm
          obtain rfl : m = s.responses.length := by omega
          refine ⟨cmd, err, floor, i, n, hlast, hi, Nat.lt_succ_self n, hcarries, ?_⟩
          rw [← hs]
          exact (Option.some.inj hresponse).symm
      · rw [work_lost uptimeMs link hphase hlink]
        exact h.quiet rfl (List.prefix_refl _) nofun
  | responded cmd =>
      rw [hphase] at hlinked
      obtain ⟨-, -, hexecuted⟩ := slot_finish hup hlinked
      rw [work_responded uptimeMs link hphase]
      exact h.quiet rfl (hexecuted ▸ List.prefix_refl _) nofun

theorem Truthful.step {e : CommandEvent} (h : Truthful start events n s)
    (hs : s = Run.final step start (events.take n)) (hget : events[n]? = some e)
    (horderly : s.Orderly) : Truthful start events (n + 1) (s.step e) := by
  unfold CommandSession.step
  split_ifs with hrebooted
  · exact h.stay rfl rfl rfl
  · cases e with
    | write buf offset => exact h.stay rfl (slot_write s.slot buf offset).1 rfl
    | work uptimeMs link => exact h.work hs hget horderly (Bool.eq_false_of_not_eq_true hrebooted)
    | other call => exact h.stay rfl rfl rfl

/-! ## No command is left unanswered -/

/-- The work queue is about to answer, in that many steps, or to reboot. -/
def Pending (steps : Nat) (s : CommandSession) : Prop :=
  match s.phase with
  | .performed .. => 1 ≤ steps
  | .entered _ => 2 ≤ steps
  | .idle => s.slot.queued = true ∧ 3 ≤ steps
  | .responded cmd => (cmd.Reboots ∨ s.slot.queued = true) ∧ 4 ≤ steps

/-- The tag has rebooted, or a response was lost, or there are `n` of them. -/
def Settled (n : Nat) (s : CommandSession) : Prop :=
  s.slot.rebooted = true ∨ 0 < s.lost ∨ n ≤ s.responses.length

/-- It has come to that after at most `steps` steps of the work queue. -/
def Serves (n steps : Nat) (s : CommandSession) : Prop :=
  s.slot.running = s.phase.cmd ∧
    (s.Settled n ∨ n ≤ s.responses.length + 1 ∧ s.Pending steps)

omit [Crc16] in
/-- No step is left. -/
theorem Serves.done {n : Nat} (h : Serves n 0 s) : s.Settled n := by
  refine h.2.resolve_right ?_
  rintro ⟨-, hpending⟩
  unfold Pending at hpending
  cases hphase : s.phase <;> simp [hphase] at hpending

theorem Settled.work {n : Nat} (h : s.Settled n) (hup : s.slot.rebooted = false) (uptimeMs : Nat)
    (link : Link) : (s.work uptimeMs link).Settled n := by
  have h := h.resolve_left (by simp [hup])
  refine Or.inr ?_
  unfold CommandSession.work
  cases hphase : s.phase with
  | idle =>
      dsimp only
      cases (s.slot.step .start).running <;> exact h
  | entered cmd => exact h
  | performed cmd err floor =>
      dsimp only
      split_ifs
      · refine h.imp_right fun hn => hn.trans ?_
        rw [List.length_append]
        exact Nat.le_add_right _ _
      · exact Or.inl (Nat.succ_pos _)
  | responded cmd => exact h

theorem Serves.work {n steps : Nat} (h : Serves n steps s) (hup : s.slot.rebooted = false)
    (uptimeMs : Nat) (link : Link) : Serves n (steps - 1) (s.work uptimeMs link) := by
  obtain ⟨hlinked, hserves⟩ := h
  have hsettled (hs : s.Settled n) := hs.work hup uptimeMs link
  unfold Pending at hserves
  cases hphase : s.phase with
  | idle =>
      rw [hphase] at hlinked hserves
      rcases work_idle uptimeMs link hup hphase hlinked with
        ⟨hqueued, hwork⟩ | ⟨-, hwork, hrunning, -, -⟩
      · rw [hwork] at hsettled ⊢
        refine ⟨by rw [hlinked, hphase], Or.inl ?_⟩
        rcases hserves with hdone | ⟨-, hwaiting, -⟩
        · exact hdone
        · exact absurd (hqueued.symm.trans hwaiting) (by decide)
      · rw [hwork] at hsettled ⊢
        refine ⟨hrunning, hserves.imp hsettled ?_⟩
        rintro ⟨hone, -, hsteps⟩
        exact ⟨hone, show 2 ≤ steps - 1 by omega⟩
  | entered cmd =>
      rw [hphase] at hlinked hserves
      rw [work_entered uptimeMs link hphase] at hsettled ⊢
      refine ⟨hlinked, hserves.imp hsettled ?_⟩
      rintro ⟨hone, hsteps⟩
      exact ⟨hone, show 1 ≤ steps - 1 by omega⟩
  | performed cmd err floor =>
      rw [hphase] at hlinked hserves
      by_cases hlink : bleGattNotify link = 0
      · rw [work_taken uptimeMs link hphase hlink] at hsettled ⊢
        refine ⟨hlinked, Or.inl (hserves.elim hsettled ?_)⟩
        rintro ⟨hone, -⟩
        refine Or.inr (Or.inr ?_)
        rw [List.length_append, List.length_singleton]
        exact hone
      · rw [work_lost uptimeMs link hphase hlink]
        exact ⟨hlinked, Or.inl (Or.inr (Or.inl (Nat.succ_pos _)))⟩
  | responded cmd =>
      rw [hphase] at hlinked hserves
      rw [work_responded uptimeMs link hphase] at hsettled ⊢
      refine ⟨(slot_finish hup hlinked).1, ?_⟩
      rcases slot_finish_queued hup hlinked with hreboots | ⟨hstays, hqueued⟩
      · exact Or.inl (Or.inl hreboots)
      · refine hserves.imp hsettled ?_
        rintro ⟨hone, hcause, hsteps⟩
        exact ⟨hone, hqueued.trans (hcause.resolve_left hstays), show 3 ≤ steps - 1 by omega⟩

/-- Each step of the work queue brings the response nearer. -/
theorem Serves.sooner {n steps : Nat} (h : Serves n steps s) {e : CommandEvent}
    (he : e.isWork = true) : Serves n (steps - 1) (s.step e) := by
  cases e with
  | write buf offset => exact absurd he (by simp [CommandEvent.isWork])
  | work uptimeMs link =>
      unfold CommandSession.step
      split_ifs with hrebooted
      · exact ⟨h.1, Or.inl (Or.inl hrebooted)⟩
      · exact h.work (Bool.eq_false_of_not_eq_true hrebooted) uptimeMs link
  | other call => exact absurd he (by simp [CommandEvent.isWork])

/-- No other step puts the response off. -/
theorem Serves.other {n steps : Nat} (h : Serves n steps s) {e : CommandEvent}
    (he : e.isWork = false) : Serves n steps (s.step e) := by
  unfold CommandSession.step
  split_ifs
  · exact h
  · cases e with
    | write buf offset =>
        obtain ⟨hlinked, hserves⟩ := h
        obtain ⟨-, hrunning, hrebooted, hqueued⟩ := slot_write s.slot buf offset
        refine ⟨hrunning.trans hlinked, hserves.imp ?_ (And.imp_right ?_)⟩
        · exact Or.imp_left hrebooted.trans
        · unfold Pending
          cases s.phase with
          | idle => exact And.imp_left hqueued
          | responded cmd => exact And.imp_left (Or.imp_right hqueued)
          | entered cmd | performed cmd err floor => exact id
    | work uptimeMs link => exact absurd he (by simp [CommandEvent.isWork])
    | other call => exact h

omit [Crc16] in
theorem Orderly.serves (h : s.Orderly) : Serves s.slot.accepted.length 4 s := by
  obtain ⟨hsound, hlinked, hanswered, houtstanding, -⟩ := h
  refine ⟨hlinked, ?_⟩
  rw [or_iff_not_imp_left]
  intro hopen
  obtain ⟨hup, hnone, hmore⟩ := (not_or.trans (and_congr_right' not_or)).1 hopen
  refine ⟨houtstanding, ?_⟩
  have hqueued (hnot : ¬ s.slot.Rebooting) (howed : s.phase.owed = 0) : s.slot.queued = true := by
    by_contra hqueued
    have hall := congrArg List.length (hsound.all (Bool.eq_false_of_not_eq_true hup) hnot)
    rw [CommandSlot.waiting, if_neg hqueued, List.append_nil] at hall
    omega
  unfold Pending
  cases hphase : s.phase with
  | idle =>
      rw [hphase] at hlinked hqueued
      refine ⟨hqueued ?_ rfl, by decide⟩
      rintro ⟨cmd, hcmd, -⟩
      exact absurd (hcmd.symm.trans hlinked) (Option.some_ne_none cmd)
  | entered cmd | performed cmd err floor => exact Nat.le_of_ble_eq_true rfl
  | responded cmd =>
      rw [hphase] at hlinked hqueued
      refine ⟨?_, by decide⟩
      rw [or_iff_not_imp_left]
      intro hstays
      refine hqueued ?_ rfl
      rintro ⟨cmd', hcmd', hreboots⟩
      obtain rfl := Option.some.inj (hlinked.symm.trans hcmd')
      exact hstays hreboots

theorem step_lost {e : CommandEvent} (h : e.Takes) : (s.step e).lost = s.lost := by
  unfold CommandSession.step
  split_ifs
  · rfl
  · cases e with
    | write buf offset => rfl
    | work uptimeMs link =>
        dsimp only
        unfold CommandSession.work
        cases s.phase with
        | idle =>
            dsimp only
            cases (s.slot.step .start).running <;> rfl
        | entered cmd => rfl
        | performed cmd err floor =>
            dsimp only
            rw [if_pos (show bleGattNotify link = 0 from h)]
        | responded cmd => rfl
    | other call => rfl

/-- **A client that waits for its responses has each command answered**, as long as none of them is
lost. Over every run in which it does, with anything else on the device in between: the commands
accepted are executed in their order and none twice, at most the last of them is unanswered, and
that one has its response after at most four steps of the work queue, unless the device reboots or
`ble_gatt_notify` refuses a response, as it does without a subscription or a buffer. The client
reads in the `m`th response what the `m`th command came to, with the statistics at the time of the
response; status 0 tells success as long as error numbers fit a byte. -/
theorem commands_answered (readOk : SettingsKey → Bool) (tag : Tag) (events : List CommandEvent)
    (hwaits : Run.Along step Waits (begin readOk tag) events) :
    let start := begin readOk tag
    let s := Run.final step start events
    s.slot.executed <+: s.slot.accepted ∧ s.responses.length ≤ s.slot.executed.length ∧
      s.slot.accepted.length ≤ s.responses.length + 1 ∧
      (∀ m response, s.responses[m]? = some response → ∃ cmd err floor i j,
        s.slot.executed[m]? = some cmd ∧ i < j ∧ j < events.length ∧
          CarriesOut start events m cmd err floor i ∧
          BleCmdResponse.ofBytes response = commandResponse cmd err floor
            (Run.final step start (events.take j)).uptime.statistics ∧
          ((BleCmdResponse.ofBytes response).status = 0 ↔ 256 ∣ err)) ∧
      ∀ later : List CommandEvent,
        let t := Run.final step s later
        (4 ≤ later.countP CommandEvent.isWork →
          t.slot.rebooted = true ∨ 0 < t.lost ∨ s.slot.accepted.length ≤ t.responses.length) ∧
        ((∀ e ∈ events ++ later, e.Takes) → t.lost = 0) := by
  intro start s
  obtain ⟨horderly, htruthful⟩ : s.Orderly ∧ Truthful start events events.length s := by
    have hrun (n : Nat) (hn : n ≤ events.length) :
        (Run.final step start (events.take n)).Orderly ∧
          Truthful start events n (Run.final step start (events.take n)) := by
      refine Run.final_take_induction step (I := fun n s => s.Orderly ∧ Truthful start events n s)
        ?_ ?_ hn
      · exact ⟨orderly_begin readOk tag, nofun, nofun⟩
      · intro n e hget h
        exact ⟨step_orderly h.1 (hwaits.get hget), h.2.step rfl hget h.1⟩
    have hall := hrun events.length le_rfl
    rwa [List.take_length] at hall
  have hanswered := horderly.answered
  refine ⟨horderly.sound.inOrder, by omega, horderly.outstanding, ?_, ?_⟩
  · intro m response hm
    obtain ⟨cmd, err, floor, i, j, hcmd, hij, hj, hcarries, hresponse⟩ :=
      htruthful.responses m response hm
    have hread : BleCmdResponse.ofBytes response = commandResponse cmd err floor
        (Run.final step start (events.take j)).uptime.statistics := by
      rw [hresponse]
      exact BleCmdResponse.ofBytes_toBytes (commandResponse_payload_le _ _ _ _)
    have herr : cmd.opcode = BleCmd.factoryReset ∨ cmd.opcode = BleCmd.reboot → err = 0 := by
      intro hreboots
      obtain ⟨uptimeMs, -, -, -, -, herr, -⟩ := hcarries
      rw [← herr]
      exact commandPerform_err_of_reboots hreboots uptimeMs _
    refine ⟨cmd, err, floor, i, j, hcmd, hij, hj, hcarries, hread, ?_⟩
    rw [hread, commandResponse_status herr]
    exact int8_ofInt_eq_zero_iff err
  · intro later t
    constructor
    · intro hlater
      have hserves : Serves s.slot.accepted.length (4 - later.countP CommandEvent.isWork) t :=
        Run.final_countdown (fun _ _ _ he h => h.sooner he) (fun _ _ _ he h => h.other he)
          horderly.serves later
      rw [Nat.sub_eq_zero_of_le hlater] at hserves
      exact hserves.done
    · intro htakes
      have hlost : (Run.final step start (events ++ later)).lost = 0 :=
        Run.final_invariant (I := fun s : CommandSession => s.lost = 0)
          (P := fun _ e => CommandEvent.Takes e) (fun s e hs he => (step_lost he).trans hs) rfl
          (Run.along_of_forall htakes)
      rwa [Run.final_append] at hlost

end

instance (s : CommandSession) : (e : CommandEvent) → Decidable (s.Waits e)
  | .write buf offset =>
    inferInstanceAs (Decidable ((offset = 0 ∧ 1 ≤ buf.length ∧ buf.length ≤ cmdRequestSize) → _))
  | .work .. | .other _ => inferInstanceAs (Decidable True)

/-- A client switches the operating mode, and sets the counters back when it has its response; the
work queue takes three steps to a response and one to its end. A shock is raised meanwhile. -/
def modeThenCounters : List CommandEvent :=
  [.write [0x07, 0, 1, 0, 0, 0] 0, .work 1000 ⟨true, 0⟩, .work 1001 ⟨true, 0⟩,
    .work 1002 ⟨true, 0⟩, .write [0x04] 0, .work 1003 ⟨true, 0⟩, .work 1100 ⟨true, 0⟩,
    .other (.raise 1100 .shock .warning 4200), .work 1101 ⟨true, 0⟩, .work 1102 ⟨true, 0⟩]

theorem commands_answered_mode_then_counters :
    let start := begin (fun _ => true) Uptime.fourSavesTag
    let s := Run.final step start modeThenCounters
    s.responses.length = 2 ∧ s.slot.accepted.length ≤ s.responses.length + 1 ∧
      ∀ m response, s.responses[m]? = some response → ∃ cmd err floor i j,
        s.slot.executed[m]? = some cmd ∧ i < j ∧ j < modeThenCounters.length ∧
          CarriesOut start modeThenCounters m cmd err floor i ∧
          BleCmdResponse.ofBytes response = commandResponse cmd err floor
            (Run.final step start (modeThenCounters.take j)).uptime.statistics ∧
          ((BleCmdResponse.ofBytes response).status = 0 ↔ 256 ∣ err) := by
  have h := commands_answered (fun _ => true) Uptime.fourSavesTag modeThenCounters
    (by decide +kernel)
  exact ⟨by decide +kernel, h.2.2.1, h.2.2.2.1⟩

end CommandSession

end SmartTag
