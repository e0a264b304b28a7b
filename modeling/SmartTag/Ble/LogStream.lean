import SmartTag.Storage.Contents

/-!
# The log download

A phone writes a request to Log Control and the tag streams numbered chunks over Log Data,
following `src/ble/ble_log.c`. One execution of `stream_work_fn` sends at most one chunk.

The two logs are read as they are at the time of the execution. The Bluetooth stack is the
`Link`: whether the client is subscribed, and what a notification returns. A chunk is accepted
when `ble_gatt_notify` returns 0.

* `streamWorkFn_idle`, `streamWorkFn_end`, `streamWorkFn_accepted`, `streamWorkFn_refused`: what
  one execution does.
* `bleLogHandleRequest_start`: the stream an accepted request starts.
-/

namespace SmartTag

/-! ## Requests and chunks -/

def bleLogIdEvent : UInt8 := 0
def bleLogIdSensor : UInt8 := 1

def bleLogOpStart : UInt8 := 1
def bleLogOpAbort : UInt8 := 2

/-- `CHUNK_PAYLOAD_MAX`. -/
def chunkPayloadMax : Nat := 180

/-- `BLE_LOG_CHUNK_FLAG_LAST`. -/
def bleLogChunkFlagLast : Nat := 1

/-- `sizeof(sensor_log_record_t)`. -/
def sensorLogRecordSize : Nat := 17

/-- `sizeof(event_record_t)`. -/
def eventRecordSize : Nat := 8

/-- `struct ble_log_request`. -/
structure BleLogRequest where
  opcode : UInt8
  logId : UInt8
  startSeq : UInt32
  maxRecords : UInt16
deriving DecidableEq, Repr

/-- `struct ble_log_chunk_header`. -/
structure ChunkHeader where
  chunkIndex : Nat
  logId : UInt8
  recordCount : Nat
  flags : Nat
  recordSize : Nat
  firstSeq : Nat
deriving DecidableEq, Repr

/-- One notification on Log Data. The sequence numbers its records have on flash do not go over
the air. -/
structure Chunk where
  header : ChunkHeader
  payload : List (List UInt8)
  seqs : List Nat
deriving DecidableEq, Repr

/-- The chunk carries `FLAG_LAST`. -/
def Chunk.isLast (c : Chunk) : Bool := c.header.flags == bleLogChunkFlagLast

/-- `struct stream_state`. -/
structure StreamState where
  active : Bool
  logId : UInt8
  chunkIndex : Nat
  nextSeq : Nat
  remaining : Nat
deriving DecidableEq, Repr

/-- The stream, and the chunks of the transfer that `ble_gatt_notify` has accepted. -/
structure LogStream where
  stream : StreamState
  sent : List Chunk
deriving DecidableEq, Repr

/-! ## What the stream talks to -/

/-- The two log instances. -/
structure Logs where
  event : FlashLog
  sensor : FlashLog

def Logs.get (logs : Logs) (logId : UInt8) : FlashLog :=
  if logId = bleLogIdSensor then logs.sensor else logs.event

/-- The client's side of a characteristic during one execution. -/
structure Link where
  subscribed : Bool
  /-- What `bt_gatt_notify` returns. -/
  notifyErr : Int
deriving DecidableEq, Repr

/-- `ble_gatt_is_subscribed`. -/
def bleGattIsSubscribed (link : Link) : Bool := link.subscribed

/-- `ble_gatt_notify`. -/
def bleGattNotify (link : Link) : Int :=
  if ¬ bleGattIsSubscribed link then -EACCES else link.notifyErr

/-- `record_size`. -/
def recordSize (logId : UInt8) : Nat :=
  if logId = bleLogIdSensor then sensorLogRecordSize else eventRecordSize

/-- The records that fit in one chunk. -/
def chunkCapacity (logId : UInt8) : Nat := chunkPayloadMax / recordSize logId

theorem chunkCapacity_pos (logId : UInt8) : 0 < chunkCapacity logId := by
  rw [chunkCapacity, recordSize]
  split_ifs <;> decide

theorem chunkCapacity_le (logId : UInt8) : chunkCapacity logId ≤ 22 := by
  rw [chunkCapacity, recordSize]
  split_ifs <;> decide

section

variable [Crc16]

/-- `read_records`. -/
def readRecords (logs : Logs) (logId : UInt8) (startSeq max : Nat) :
    Except Int (List (List UInt8)) :=
  flashLogRead (logs.get logId) startSeq max

/-- The slots whose payloads `read_records` copies out. -/
def foundSlots (logs : Logs) (logId : UInt8) (startSeq max : Nat) : List Slot :=
  if (logs.get logId).ready then readSlots (logs.get logId) startSeq max else []

/-! ## The stream -/

/-- The chunks accepted once `c` has been handed to `ble_gatt_notify`. -/
def notifyChunk (link : Link) (sent : List Chunk) (c : Chunk) : List Chunk :=
  if bleGattNotify link = 0 then sent ++ [c] else sent

def streamWorkFn (logs : Logs) (link : Link) (s : LogStream) : LogStream :=
  let st := s.stream
  if ¬ st.active then s
  else if ¬ bleGattIsSubscribed link then { s with stream := { st with active := false } }
  else
    let size := recordSize st.logId
    let want := min st.remaining (chunkPayloadMax / size)
    let records := readRecords logs st.logId st.nextSeq want
    let got : Int :=
      match records with
      | .ok rs => rs.length
      | .error err => err
    let header : ChunkHeader :=
      { chunkIndex := st.chunkIndex
        logId := st.logId
        recordCount := (max got 0).toNat % 2 ^ 8
        flags := 0
        recordSize := size
        firstSeq := st.nextSeq }
    if got ≤ 0 ∨ want = 0 then
      -- Nothing left: an empty terminating chunk, whose outcome is not looked at.
      let header := { header with recordCount := 0, flags := bleLogChunkFlagLast }
      { stream := { st with active := false }
        sent := notifyChunk link s.sent { header := header, payload := [], seqs := [] } }
    else
      let got := got.toNat
      let st := { st with remaining := st.remaining - min st.remaining got }
      let header :=
        if st.remaining = 0 then { header with flags := bleLogChunkFlagLast } else header
      let payload :=
        match records with
        | .ok rs => rs
        | .error _ => []
      let sent := notifyChunk link s.sent
        { header := header
          payload := payload
          seqs := (foundSlots logs st.logId st.nextSeq want).map fun slot => slot.seq.toNat }
      if bleGattNotify link = -ENOMEM then
        -- Out of buffers: the work is scheduled again. `remaining` has already gone down.
        { stream := st, sent := sent }
      else if bleGattNotify link ≠ 0 then { stream := { st with active := false }, sent := sent }
      else
        let st := { st with
          chunkIndex := u16 (st.chunkIndex + 1)
          nextSeq := u32 (st.nextSeq + got) }
        if st.remaining = 0 then { stream := { st with active := false }, sent := sent }
        else { stream := st, sent := sent }

def bleLogAbort (s : LogStream) : LogStream :=
  { s with stream := { s.stream with active := false } }

/-- `ble_log_handle_request`. An accepted START begins a new transfer. -/
def bleLogHandleRequest (logs : Logs) (link : Link) (request : BleLogRequest) (s : LogStream) :
    Int × LogStream :=
  if request.opcode = bleLogOpAbort then (0, bleLogAbort s)
  else if request.opcode ≠ bleLogOpStart then (-ENOTSUP, s)
  else if bleLogIdSensor < request.logId then (-EINVAL, s)
  else if ¬ bleGattIsSubscribed link then (-EACCES, s)
  else
    let info := flashLogGetInfo (logs.get request.logId)
    (0,
      { stream :=
          { active := true
            logId := request.logId
            chunkIndex := 0
            nextSeq := request.startSeq.toNat
            remaining :=
              if request.maxRecords = 0 then info.recordCount else request.maxRecords.toNat }
        sent := [] })

/-! ## One execution -/

/-- The slots the next execution reads. -/
def LogStream.found (s : LogStream) (logs : Logs) : List Slot :=
  foundSlots logs s.stream.logId s.stream.nextSeq
    (min s.stream.remaining (chunkCapacity s.stream.logId))

/-- The empty chunk that ends a transfer. -/
def LogStream.endChunk (s : LogStream) : Chunk where
  header :=
    { chunkIndex := s.stream.chunkIndex
      logId := s.stream.logId
      recordCount := 0
      flags := bleLogChunkFlagLast
      recordSize := recordSize s.stream.logId
      firstSeq := s.stream.nextSeq }
  payload := []
  seqs := []

/-- What is left of the limit once the records found are in a chunk. -/
def LogStream.left (s : LogStream) (logs : Logs) : Nat :=
  s.stream.remaining - (s.found logs).length

/-- The chunk with the records found. -/
def LogStream.dataChunk (s : LogStream) (logs : Logs) : Chunk where
  header :=
    { chunkIndex := s.stream.chunkIndex
      logId := s.stream.logId
      recordCount := (s.found logs).length
      flags := if s.left logs = 0 then bleLogChunkFlagLast else 0
      recordSize := recordSize s.stream.logId
      firstSeq := s.stream.nextSeq }
  payload := (s.found logs).map fun slot => slot.payload.take (logs.get s.stream.logId).payloadSize
  seqs := (s.found logs).map fun slot => slot.seq.toNat

theorem length_foundSlots_le (logs : Logs) (logId : UInt8) (startSeq max : Nat) :
    (foundSlots logs logId startSeq max).length ≤ max := by
  rw [foundSlots, readSlots_eq]
  split_ifs
  · exact List.length_take_le _ _
  · exact Nat.zero_le _

theorem LogStream.length_found_le (s : LogStream) (logs : Logs) :
    (s.found logs).length ≤ s.stream.remaining ∧
      (s.found logs).length ≤ chunkCapacity s.stream.logId := by
  have h := length_foundSlots_le logs s.stream.logId s.stream.nextSeq
    (min s.stream.remaining (chunkCapacity s.stream.logId))
  exact le_min_iff.1 h

/-- What `read_records` returns, by the slots found. -/
theorem readRecords_eq (logs : Logs) (logId : UInt8) (startSeq max : Nat) :
    readRecords logs logId startSeq max =
      if (logs.get logId).ready then
        .ok ((foundSlots logs logId startSeq max).map fun slot =>
          slot.payload.take (logs.get logId).payloadSize)
      else .error (-ENODEV) := by
  rw [readRecords, flashLogRead, foundSlots]
  by_cases h : (logs.get logId).ready = true <;> simp [h]

theorem streamWorkFn_idle {logs : Logs} {link : Link} {s : LogStream}
    (h : s.stream.active = false) : streamWorkFn logs link s = s := by
  rw [streamWorkFn]
  simp [h]

/-- With nothing found, the transfer ends on an empty chunk. -/
theorem streamWorkFn_end {logs : Logs} {link : Link} {s : LogStream}
    (hactive : s.stream.active = true) (hsub : link.subscribed = true) (h : s.found logs = []) :
    streamWorkFn logs link s =
      { stream := { s.stream with active := false }
        sent := notifyChunk link s.sent s.endChunk } := by
  have hfound : foundSlots logs s.stream.logId s.stream.nextSeq
      (min s.stream.remaining (chunkPayloadMax / recordSize s.stream.logId)) = [] := h
  rw [streamWorkFn]
  simp only [hactive, bleGattIsSubscribed, hsub, readRecords_eq, hfound, not_true_eq_false,
    if_false]
  by_cases hready : (logs.get s.stream.logId).ready = true
  · simp [hready, LogStream.endChunk]
  · simp [hready, LogStream.endChunk, ENODEV]

/-- With records found, they are sent in one chunk. -/
theorem streamWorkFn_data {logs : Logs} {link : Link} {s : LogStream}
    (hactive : s.stream.active = true) (hsub : link.subscribed = true) (h : s.found logs ≠ []) :
    streamWorkFn logs link s =
      if link.notifyErr = 0 then
        { stream := { s.stream with
            active := decide (s.left logs ≠ 0)
            remaining := s.left logs
            chunkIndex := u16 (s.stream.chunkIndex + 1)
            nextSeq := u32 (s.stream.nextSeq + (s.found logs).length) }
          sent := s.sent ++ [s.dataChunk logs] }
      else if link.notifyErr = -ENOMEM then
        { stream := { s.stream with remaining := s.left logs }, sent := s.sent }
      else
        { stream := { s.stream with active := false, remaining := s.left logs }
          sent := s.sent } := by
  have hfound : foundSlots logs s.stream.logId s.stream.nextSeq
      (min s.stream.remaining (chunkPayloadMax / recordSize s.stream.logId)) = s.found logs := rfl
  have hpos : 0 < (s.found logs).length := List.length_pos_iff.2 h
  obtain ⟨hrem, hcap⟩ := s.length_found_le logs
  have hlt : (s.found logs).length < 256 := by
    have := chunkCapacity_le s.stream.logId
    omega
  have hready : (logs.get s.stream.logId).ready = true := by
    by_contra hne
    rw [LogStream.found, foundSlots, if_neg hne] at h
    exact h rfl
  have hwant : ¬ min s.stream.remaining (chunkPayloadMax / recordSize s.stream.logId) = 0 := by
    rw [chunkCapacity] at hcap
    omega
  have hgot : ¬ ((s.found logs).length : Int) ≤ 0 := by omega
  have hleft : s.stream.remaining - min s.stream.remaining (s.found logs).length = s.left logs := by
    rw [Nat.min_eq_right hrem]
    rfl
  have hcount : (max ((s.found logs).length : Int) 0).toNat % 2 ^ 8 = (s.found logs).length := by
    rw [max_eq_left (by omega), Int.toNat_natCast]
    exact Nat.mod_eq_of_lt hlt
  have hchunk : s.dataChunk logs =
      { header := if s.left logs = 0 then
          { chunkIndex := s.stream.chunkIndex, logId := s.stream.logId
            recordCount := (s.found logs).length, flags := bleLogChunkFlagLast
            recordSize := recordSize s.stream.logId, firstSeq := s.stream.nextSeq }
          else
          { chunkIndex := s.stream.chunkIndex, logId := s.stream.logId
            recordCount := (s.found logs).length, flags := 0
            recordSize := recordSize s.stream.logId, firstSeq := s.stream.nextSeq }
        payload := (s.found logs).map fun slot =>
          slot.payload.take (logs.get s.stream.logId).payloadSize
        seqs := (s.found logs).map fun slot => slot.seq.toNat } := by
    rw [LogStream.dataChunk]
    split_ifs <;> rfl
  rw [streamWorkFn]
  simp only [hactive, bleGattIsSubscribed, hsub, readRecords_eq, hfound, hready, not_true_eq_false,
    if_true, if_false, List.length_map, hgot, hwant, or_self, Int.toNat_natCast, hleft, hcount,
    notifyChunk, bleGattNotify, ← hchunk]
  by_cases hok : link.notifyErr = 0
  · have hmem : ¬ (0 : Int) = -ENOMEM := by decide
    simp only [hok, hmem, if_true, if_false, ne_eq, not_true_eq_false]
    by_cases hzero : s.left logs = 0
    · simp [hzero]
    · simp [hzero]
  · by_cases hmem : link.notifyErr = -ENOMEM
    · have hmem' : ¬ (-ENOMEM : Int) = 0 := by decide
      simp [hmem, hmem']
    · simp [hok, hmem]

theorem streamWorkFn_accepted {logs : Logs} {link : Link} {s : LogStream}
    (hactive : s.stream.active = true) (hsub : link.subscribed = true)
    (herr : link.notifyErr = 0) (h : s.found logs ≠ []) :
    streamWorkFn logs link s =
      { stream := { s.stream with
          active := decide (s.left logs ≠ 0)
          remaining := s.left logs
          chunkIndex := u16 (s.stream.chunkIndex + 1)
          nextSeq := u32 (s.stream.nextSeq + (s.found logs).length) }
        sent := s.sent ++ [s.dataChunk logs] } := by
  rw [streamWorkFn_data hactive hsub h, if_pos herr]

/-- A refused chunk is read again later, but the limit has already gone down. -/
theorem streamWorkFn_refused {logs : Logs} {link : Link} {s : LogStream}
    (hactive : s.stream.active = true) (hsub : link.subscribed = true)
    (herr : link.notifyErr = -ENOMEM) (h : s.found logs ≠ []) :
    streamWorkFn logs link s =
      { stream := { s.stream with remaining := s.left logs }, sent := s.sent } := by
  have hne : ¬ link.notifyErr = 0 := by
    rw [herr]
    decide
  rw [streamWorkFn_data hactive hsub h, if_neg hne, if_pos herr]

/-- The stream an accepted START begins. -/
theorem bleLogHandleRequest_start {logs : Logs} {link : Link} {request : BleLogRequest}
    {s : LogStream} (hop : request.opcode = bleLogOpStart) (hid : request.logId ≤ bleLogIdSensor)
    (hsub : link.subscribed = true) :
    bleLogHandleRequest logs link request s =
      (0,
        { stream :=
            { active := true
              logId := request.logId
              chunkIndex := 0
              nextSeq := request.startSeq.toNat
              remaining :=
                if request.maxRecords = 0 then
                  (flashLogGetInfo (logs.get request.logId)).recordCount
                else request.maxRecords.toNat }
          sent := [] }) := by
  have hstart : ¬ bleLogOpStart = bleLogOpAbort := by decide
  rw [bleLogHandleRequest, hop, if_neg hstart, if_neg (not_not.2 rfl), if_neg (UInt8.not_lt.2 hid),
    if_neg (by simp [bleGattIsSubscribed, hsub])]

end

end SmartTag
