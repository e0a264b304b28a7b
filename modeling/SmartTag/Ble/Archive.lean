import SmartTag.App.EventQueue
import SmartTag.App.FactoryReset
import SmartTag.Ble.LogWire
import SmartTag.Storage.Records

/-!
# The history a phone reads

From the sensors to the phone: the tag runs, its logs fill, wrap and are cleared, it reboots, and
a phone then reads Log Information, asks for one of the logs on Log Control and puts together what
it is notified of on Log Data.

`Archive` is a tag with what it has handed its subscribers since each of the logs was cleared. Its
steps are the calls of the application; the flash calls of the two logs succeed, those of the
settings need not.

* `LogKeeps.phoneDownload`: the download of a log that keeps its records.
* `Archive.Kept.step`: every call keeps both logs.
* `phone_reads_history`: what the phone decodes is the end of what the tag has told.
-/

namespace SmartTag

section

variable [Crc16] {L : Layout} {records : List (List UInt8)} {log : FlashLog}

/-! ## One download -/

/-- A phone with the log service: it reads Log Information, writes START for everything from the
oldest record on, and every chunk it is then notified of is accepted. -/
def phoneDownload (logs : Logs) (link : Link) (logId : UInt8) (executions : Nat) (s : LogStream) :
    LogStream :=
  let info := BleLogInfo.ofBytes (bleLogGetInfo logs s).toBytes
  let request : BleLogRequest :=
    { opcode := bleLogOpStart
      logId := logId
      startSeq := info.oldestSeq logId
      maxRecords := 0 }
  streamRun logs (bleLogWriteControl logs link request.toBytes 0 s).2
    (List.replicate executions true)

/-- The request of the phone starts at the oldest record. -/
theorem startSeq_phone {hist : List (List UInt8)} {lo : Nat} (h : Span L hist lo log) :
    (UInt32.ofNat (flashLogGetInfo log).oldestSeq).toNat = lo + 1 ∨ lo = hist.length := by
  have hle := h.lo_le
  have hn := h.numbered
  rw [h.oldestSeq]
  split_ifs with hne
  · exact Or.inl (UInt32.toNat_ofNat_of_lt' (show lo + 1 < 2 ^ 32 by omega))
  · exact Or.inr (by omega)

/-- The download of a log that keeps its records: the last of them arrive, in order. -/
theorem LogKeeps.phoneDownload {logs : Logs} {logId : UInt8}
    (h : LogKeeps L (recordSize logId) records (logs.get logId))
    (hn : records.length < 2 ^ 32 - 1) (hid : logId ≤ bleLogIdSensor) {link : Link}
    (hsub : link.subscribed = true) (s : LogStream) {executions : Nat}
    (hexec : L.kept records.length < executions) :
    (phoneDownload logs link logId executions s).stream.active = false ∧
      (phoneDownload logs link logId executions s).received =
        records.drop (records.length - L.kept records.length) ∧
      (phoneDownload logs link logId executions s).Flagged := by
  obtain ⟨H, rfl, htight, href⟩ := h.holds hn
  have hspan := href.toRing.toSpan
  have hkept := History.length_held htight
  have hsized : ∀ r ∈ H.records, r.length = (logs.get logId).payloadSize := by
    rw [h.payloadSize]
    exact h.sized
  have hstart := startSeq_phone hspan
  rw [SmartTag.phoneDownload, BleLogInfo.ofBytes_toBytes, oldestSeq_bleLogGetInfo]
  simp only [bleLogWriteControl_toBytes]
  generalize hrequest : BleLogRequest.mk _ _ _ _ = request
  have hlimit : limitOf logs request = H.records.length - H.dropped := by
    rw [← hrequest]
    exact hspan.recordCount
  have hrequested : requested H.records H.dropped request = H.records.drop H.dropped := by
    rw [requested, ← hrequest, List.drop_drop]
    rcases hstart with hseq | hnone
    · rw [hseq, Nat.sub_self, Nat.add_zero]
    · rw [List.drop_eq_nil_of_le (by omega), List.drop_eq_nil_of_le hnone.ge]
  have hid' : request.logId = logId := by rw [← hrequest]
  have hop : request.opcode = bleLogOpStart := by rw [← hrequest]
  rw [← hid'] at hspan hsized
  have hsize : (logs.get request.logId).payloadSize = recordSize request.logId := by
    rw [hid']
    exact h.payloadSize
  have hold : H.dropped + 1 ≤ request.startSeq.toNat ∨ H.dropped = H.records.length := by
    rw [← hrequest]
    exact hstart.imp_left Eq.ge
  have hlong : limitOf logs request < executions := by
    rw [hlimit, hkept]
    exact hexec
  obtain ⟨hidle, hreceived, hflagged⟩ :=
    received_eq_requested s hspan hsize hsized hop (hid'.trans_le hid) hsub hold hlong
  refine ⟨hidle, ?_, hflagged⟩
  have hle := H.dropped_le
  have hall : (H.records.drop H.dropped).length ≤ H.records.length - H.dropped :=
    (List.length_drop).le
  rw [hreceived, hlimit, hrequested, List.take_of_length_le hall]
  congr 1
  omega

/-! ## What a call does to the logs -/

omit [Crc16] in
theorem appConfigSet_logs (input : TagConfig) (device : Device) :
    (appConfigSet input device).2.tag.eventLog = device.tag.eventLog ∧
      (appConfigSet input device).2.tag.sensorLog = device.tag.sensorLog := by
  by_cases haccepted : appConfigValidate input = true
  · rw [appConfigSet_accepted haccepted]
    exact ⟨rfl, rfl⟩
  · rw [appConfigSet_rejected (by simpa using haccepted)]
    exact ⟨rfl, rfl⟩

/-- The events of a batch are logged as they are handed over. -/
theorem raiseBatch_logs (uptimeMs : Nat) (batch : List PendingEvent) (tag : Tag) :
    (raiseBatch uptimeMs batch tag).2.eventLog =
        ((raiseBatch uptimeMs batch tag).1.map EventRecord.toBytes).foldl
          (fun log record => (flashLogAppend log record).2) tag.eventLog ∧
      (raiseBatch uptimeMs batch tag).2.sensorLog = tag.sensorLog ∧
      (raiseBatch uptimeMs batch tag).2.app.status.alarmFlags = tag.app.status.alarmFlags := by
  induction batch generalizing tag with
  | nil => exact ⟨rfl, rfl, rfl⟩
  | cons e batch ih => exact ih (appRaiseEvent uptimeMs e.type e.severity e.value tag).2

omit [Crc16] in
theorem flushIfDue_logs (timestamp : UInt32) (tag : Tag) :
    (flushIfDue timestamp tag).eventLog = tag.eventLog ∧
      (flushIfDue timestamp tag).sensorLog = tag.sensorLog ∧
      (flushIfDue timestamp tag).app.status = tag.app.status := by
  rw [flushIfDue]
  split_ifs <;> exact ⟨rfl, rfl, rfl⟩

/-- A sample logs the events it hands over and, with the history on, the sample, with the alarm
that is up afterwards. -/
theorem appProcessSensorData_logs (uptimeMs : Nat) (data : SensorData) (motion : MotionResult)
    (config : TagConfig) (expectedValid : UInt8) (tag : Tag) :
    let sampled := appProcessSensorData uptimeMs data motion config expectedValid tag
    sampled.2.eventLog =
        (sampled.1.1.map EventRecord.toBytes).foldl
          (fun log record => (flashLogAppend log record).2) tag.eventLog ∧
      sampled.2.sensorLog =
        if config.sensorHistoryEnabled ≠ 0 then
          (flashLogAppend tag.sensorLog (smartTagFillLogRecord sampled.1.2
            (decide (sampled.2.app.status.alarmFlags ≠ 0))).toBytes).2
        else tag.sensorLog := by
  intro sampled
  obtain ⟨logged, happ, hevents, hsensors, hsampled⟩ : ∃ logged : Tag,
      logged.app = applySample data motion config expectedValid tag.app ∧
      logged.eventLog = tag.eventLog ∧
      (logged.sensorLog =
        if config.sensorHistoryEnabled ≠ 0 then
          (flashLogAppend tag.sensorLog (smartTagFillLogRecord sampled.1.2
            (decide ((applySample data motion config expectedValid tag.app).status.alarmFlags ≠
              0))).toBytes).2
        else tag.sensorLog) ∧
      sampled = (((drainPendingEvents uptimeMs logged).1, sampled.1.2),
        flushIfDue data.timestamp (drainPendingEvents uptimeMs logged).2) := by
    refine ⟨_, ?_, ?_, ?_, rfl⟩ <;> split_ifs <;> rfl
  obtain ⟨hraised, hkept, halarm⟩ := raiseBatch_logs uptimeMs logged.app.pending
    { logged with app := { logged.app with pending := [] } }
  obtain ⟨hflushed, hflushed', hstatus⟩ :=
    flushIfDue_logs data.timestamp (drainPendingEvents uptimeMs logged).2
  have halarms : sampled.2.app.status.alarmFlags =
      (applySample data motion config expectedValid tag.app).status.alarmFlags := by
    rw [hsampled]
    exact (congrArg TagStatus.alarmFlags hstatus).trans
      (halarm.trans (congrArg (fun app => app.status.alarmFlags) happ))
  rw [halarms]
  constructor
  · rw [← hevents, hsampled]
    exact hflushed.trans hraised
  · rw [← hsensors, hsampled]
    exact hflushed'.trans hkept

end

/-! ## Runs -/

/-- A tag with what it has told its subscribers: the events since the event log was cleared, and
the samples taken with the history on since the sensor log was. -/
structure Archive where
  device : Device
  events : List EventRecord
  samples : List SensorLogRecord

/-- A call of the application. `raise` is an event raised outside a sample. -/
inductive TagCall where
  | sample (uptimeMs : Nat) (data : SensorData) (expectedValid : UInt8)
  | raise (uptimeMs : Nat) (type : EventType) (severity : EventSeverity) (value : Int16)
  | configure (input : TagConfig)
  | setTime (uptimeMs : Nat) (utcNow : UInt32)
  | resetCounters
  | clearEvents
  | clearSensors
  | factoryReset (uptimeMs : Nat) (readOk : SettingsKey → Bool)
  | reboot (readOk : SettingsKey → Bool)

namespace Archive

def step (a : Archive) : TagCall → Archive
  | .sample uptimeMs data expectedValid =>
    let ((records, data), device) := a.device.processSample uptimeMs data expectedValid
    let alarm : Bool := decide (device.tag.app.status.alarmFlags ≠ 0)
    { device := device
      events := a.events ++ records
      samples :=
        if a.device.config.sensorHistoryEnabled ≠ 0 then
          a.samples ++ [smartTagFillLogRecord data alarm]
        else a.samples }
  | .raise uptimeMs type severity value =>
    let ((_, record), tag) := appRaiseEvent uptimeMs type severity value a.device.tag
    { a with device := { a.device with tag := tag }, events := a.events ++ [record] }
  | .configure input => { a with device := (appConfigSet input a.device).2 }
  | .setTime uptimeMs utcNow =>
    let (err, tag) := appStateSetTimeUtc uptimeMs utcNow a.device.tag
    let record := PendingEvent.record uptimeMs ⟨.timeSet, .info, 0⟩
    { a with
      device := { a.device with tag := tag }
      events := if err = 0 then a.events ++ [record] else a.events }
  | .resetCounters => { a with device := a.device.resetCounters }
  | .clearEvents => { a with device := ResetOp.clearEvents.perform 0 a.device, events := [] }
  | .clearSensors => { a with device := ResetOp.clearSensors.perform 0 a.device, samples := [] }
  | .factoryReset uptimeMs readOk =>
    let cleared := SmartTag.factoryReset.foldl (fun device op => op.perform uptimeMs device) a.device
    { device := .boot readOk cleared.tag, events := [], samples := [] }
  | .reboot readOk => { a with device := .boot readOk a.device.tag }

/-- Each log keeps what the tag has told. -/
structure Kept (L L' : Layout) (a : Archive) : Prop where
  events : LogKeeps L eventRecordSize (a.events.map EventRecord.toBytes) a.device.tag.eventLog
  sensors : LogKeeps L' sensorLogRecordSize (a.samples.map SensorLogRecord.toBytes)
    a.device.tag.sensorLog

variable {L L' : Layout} {a : Archive}

theorem Kept.raise (h : a.Kept L L') (record : EventRecord) :
    LogKeeps L eventRecordSize ((a.events ++ [record]).map EventRecord.toBytes)
      (flashLogAppend a.device.tag.eventLog record.toBytes).2 := by
  rw [List.map_append, List.map_singleton]
  exact h.events.append record.length_toBytes

theorem Kept.sample (h : a.Kept L L') (uptimeMs : Nat) (data : SensorData)
    (expectedValid : UInt8) : (a.step (.sample uptimeMs data expectedValid)).Kept L L' := by
  obtain ⟨hevents, hsensors⟩ := appProcessSensorData_logs uptimeMs
    (motionManagerProcess data a.device.motion).1.2 (motionManagerProcess data a.device.motion).1.1
    a.device.config expectedValid a.device.tag
  have hrecords : ∀ records : List EventRecord,
      ∀ r ∈ records.map EventRecord.toBytes, r.length = eventRecordSize := by
    intro records r hr
    obtain ⟨record, -, rfl⟩ := List.mem_map.1 hr
    exact record.length_toBytes
  refine ⟨?_, ?_⟩ <;> simp only [Archive.step, Device.processSample, appConfigGet]
  · rw [List.map_append, hevents]
    exact h.events.appends (hrecords _)
  · rw [hsensors]
    split_ifs
    · rw [List.map_append, List.map_singleton]
      exact h.sensors.append (SensorLogRecord.length_toBytes _)
    · exact h.sensors

theorem Kept.step (h : a.Kept L L') (hk : 2 ≤ L.sectors) (hk' : 2 ≤ L'.sectors) (call : TagCall) :
    (a.step call).Kept L L' := by
  cases call with
  | sample uptimeMs data expectedValid => exact h.sample uptimeMs data expectedValid
  | raise uptimeMs type severity value => exact ⟨h.raise _, h.sensors⟩
  | configure input =>
      obtain ⟨hevents, hsensors⟩ := appConfigSet_logs input a.device
      refine ⟨?_, ?_⟩ <;> simp only [Archive.step]
      · rw [hevents]
        exact h.events
      · rw [hsensors]
        exact h.sensors
  | setTime uptimeMs utcNow =>
      simp only [Archive.step, appStateSetTimeUtc]
      by_cases hzero : smartTagBootEpochUtc utcNow (uptimeS uptimeMs) = 0
      · have hne : ¬ -EINVAL = 0 := by decide
        simp only [hzero, if_true, hne, if_false]
        exact ⟨h.events, h.sensors⟩
      · simp only [hzero, if_false, if_true]
        exact ⟨h.raise _, h.sensors⟩
  | resetCounters => exact ⟨h.events, h.sensors⟩
  | clearEvents => exact ⟨h.events.erase, h.sensors⟩
  | clearSensors => exact ⟨h.events, h.sensors.erase⟩
  | factoryReset uptimeMs readOk =>
      have hcleared : ∀ device : Device, LogKeeps L eventRecordSize [] device.tag.eventLog →
          LogKeeps L' sensorLogRecordSize [] device.tag.sensorLog →
          (Archive.mk (.boot readOk ((ResetOp.resetConfig.perform uptimeMs
            (ResetOp.clearSettings.perform uptimeMs device)).tag)) [] []).Kept L L' := by
        intro device hevents hsensors
        obtain ⟨hconfig, hconfig'⟩ := appConfigSet_logs TagConfig.defaults
          (ResetOp.clearSettings.perform uptimeMs device)
        refine ⟨?_, ?_⟩
        · show LogKeeps L eventRecordSize [] (powerOn (appConfigSet _ _).2.tag.eventLog)
          rw [hconfig]
          exact hevents.powerOn hk
        · show LogKeeps L' sensorLogRecordSize [] (powerOn (appConfigSet _ _).2.tag.sensorLog)
          rw [hconfig']
          exact hsensors.powerOn hk'
      exact hcleared _ (h.raise _).erase h.sensors.erase
  | reboot readOk => exact ⟨h.events.powerOn hk, h.sensors.powerOn hk'⟩

/-- A tag booted for the first time, its partitions blank, and the calls since. -/
def run (readOk : SettingsKey → Bool) (tag : Tag) (calls : List TagCall) : Archive :=
  Run.final step { device := .boot readOk tag, events := [], samples := [] } calls

def logs (a : Archive) : Logs := ⟨a.device.tag.eventLog, a.device.tag.sensorLog⟩

end Archive

/-- A tag with two sectors or more for each log, on flash whose calls succeed, runs from its first
boot through any calls, with reboots, clears and wraps. A phone that then downloads a log, with
every notification accepted and the log left alone meanwhile, reads the last of the events handed
to the subscribers since the event log was cleared, or of the samples taken with the history on
since the sensor log was: as many as the ring keeps. -/
theorem phone_reads_history (L L' : Layout) (hk : 2 ≤ L.sectors) (hk' : 2 ≤ L'.sectors)
    (readOk : SettingsKey → Bool) (tag : Tag)
    (hevents : tag.eventLog = FlashLog.declare eventRecordSize L.blankArea)
    (hsensors : tag.sensorLog = FlashLog.declare sensorLogRecordSize L'.blankArea)
    (calls : List TagCall) (link : Link) (hsub : link.subscribed = true) (s : LogStream)
    (executions : Nat) :
    let a := Archive.run readOk tag calls
    let events := phoneDownload a.logs link bleLogIdEvent executions s
    let samples := phoneDownload a.logs link bleLogIdSensor executions s
    (a.events.length < 2 ^ 32 - 1 → L.kept a.events.length < executions →
      events.received.map EventRecord.ofBytes =
          a.events.drop (a.events.length - L.kept a.events.length) ∧
        events.stream.active = false ∧ events.Flagged) ∧
    (a.samples.length < 2 ^ 32 - 1 → L'.kept a.samples.length < executions →
      samples.received.map SensorLogRecord.ofBytes =
          a.samples.drop (a.samples.length - L'.kept a.samples.length) ∧
        samples.stream.active = false ∧ samples.Flagged) := by
  intro a events samples
  have hboot : (Archive.mk (.boot readOk tag) [] []).Kept L L' := by
    refine ⟨?_, ?_⟩ <;> simp only [Device.boot]
    · rw [hevents]
      exact logKeeps_blank L (by decide) (by decide)
    · rw [hsensors]
      exact logKeeps_blank L' (by decide) (by decide)
  have hkept : a.Kept L L' := Run.final_preserves (fun _ call h => h.step hk hk' call) hboot calls
  constructor
  · intro hn hexec
    have hlog : LogKeeps L (recordSize bleLogIdEvent) _ (a.logs.get bleLogIdEvent) := hkept.events
    obtain ⟨hidle, hreceived, hflagged⟩ := hlog.phoneDownload (by rw [List.length_map]; exact hn)
      (by decide) hsub s (by rw [List.length_map]; exact hexec)
    refine ⟨?_, hidle, hflagged⟩
    rw [hreceived, List.length_map, ← List.map_drop, List.map_map]
    exact (List.map_congr_left fun r _ => r.ofBytes_toBytes).trans (List.map_id _)
  · intro hn hexec
    have hlog : LogKeeps L' (recordSize bleLogIdSensor) _ (a.logs.get bleLogIdSensor) :=
      hkept.sensors
    obtain ⟨hidle, hreceived, hflagged⟩ := hlog.phoneDownload (by rw [List.length_map]; exact hn)
      (by decide) hsub s (by rw [List.length_map]; exact hexec)
    refine ⟨?_, hidle, hflagged⟩
    rw [hreceived, List.length_map, ← List.map_drop, List.map_map]
    exact (List.map_congr_left fun r _ => r.ofBytes_toBytes).trans (List.map_id _)

/-! ## A wrapped log -/

def twoSectorTag : Tag where
  app := .atReset
  storage := .atReset { stored := fun _ => none, results := [] }
  eventLog := FlashLog.declare eventRecordSize twoSectors.blankArea
  sensorLog := FlashLog.declare sensorLogRecordSize twoSectors.blankArea

/-- Five events, a time that is refused and a reboot: the phone reads the last three events, the
first two having made way. -/
theorem phone_reads_history_wrapped :
    let a := Archive.run (fun _ => true) twoSectorTag
      [.raise 1000 .boot .info 0, .raise 9000 .bleConnected .info 0, .setTime 10000 5,
        .raise 20000 .batteryLow .warning 2300, .reboot fun _ => true, .raise 1000 .boot .info 0,
        .raise 2000 .zigbeeJoined .info 0]
    (phoneDownload a.logs (linkOf true) bleLogIdEvent 4 ⟨⟨false, 0, 0, 0, 0⟩, []⟩).received.map
        EventRecord.ofBytes =
      [⟨20, 10, 1, 2300⟩, ⟨1, 0, 0, 0⟩, ⟨2, 13, 0, 0⟩] :=
  ((phone_reads_history twoSectors twoSectors (by decide) (by decide) (fun _ => true) twoSectorTag
    rfl rfl _ (linkOf true) rfl ⟨⟨false, 0, 0, 0, 0⟩, []⟩ 4).1 (by decide +kernel)
    (by decide +kernel)).1.trans (by decide +kernel)

end SmartTag
