import SmartTag.App.ConfigWrite
import SmartTag.Ble.Delivery

/-!
# The log service on the wire

The bytes of the three log characteristics, following `src/ble/ble_log.c`: the request a client
writes to Log Control, the counts it reads from Log Information and the chunks it is notified of
on Log Data. The client's side is the reading of a chunk, `Chunk.read`, by its own header.

* `BleLogRequest.ofBytes_toBytes`, `BleLogInfo.ofBytes_toBytes`, `Chunk.read_toBytes`: the round
  trips.
* `Downloads.wellSized_run`: every chunk of a download says what it holds.
* `received_eq_requested`: what the client reads out of a download without refusals.
-/

namespace SmartTag

/-! ## Log Control -/

/-- `sizeof(struct ble_log_request)`. -/
def bleLogRequestSize : Nat := 8

def BleLogRequest.toBytes (r : BleLogRequest) : List UInt8 :=
  Packed.pack
    [(1, r.opcode.toNat), (1, r.logId.toNat), (4, r.startSeq.toNat), (2, r.maxRecords.toNat)]

def BleLogRequest.ofBytes (bs : List UInt8) : BleLogRequest where
  opcode := Packed.getU8 bs 0
  logId := Packed.getU8 bs 1
  startSeq := Packed.getU32 bs 2
  maxRecords := Packed.getU16 bs 6

theorem BleLogRequest.length_toBytes (r : BleLogRequest) :
    r.toBytes.length = bleLogRequestSize := by
  simp [toBytes, Packed.length_pack, bleLogRequestSize]

theorem BleLogRequest.ofBytes_toBytes (r : BleLogRequest) : ofBytes r.toBytes = r := by
  simp [ofBytes, toBytes]

/-- `ble_log_write_control`. -/
def bleLogWriteControl [Crc16] (logs : Logs) (link : Link) (buf : List UInt8) (offset : UInt16)
    (s : LogStream) : Int × LogStream :=
  if offset ≠ 0 then (btGattErr btAttErrInvalidOffset, s)
  else if buf.length ≠ bleLogRequestSize then (btGattErr btAttErrInvalidAttributeLen, s)
  else
    let (err, s) := bleLogHandleRequest logs link (BleLogRequest.ofBytes buf) s
    if err = -EINVAL ∨ err = -ENOTSUP then (btGattErr btAttErrValueNotAllowed, s)
    else if err ≠ 0 then (btGattErr btAttErrUnlikely, s)
    else (buf.length, s)

/-- A whole request is handled as `bleLogHandleRequest` says. -/
theorem bleLogWriteControl_toBytes [Crc16] (logs : Logs) (link : Link) (request : BleLogRequest)
    (s : LogStream) :
    (bleLogWriteControl logs link request.toBytes 0 s).2 =
      (bleLogHandleRequest logs link request s).2 := by
  rw [bleLogWriteControl, request.length_toBytes, request.ofBytes_toBytes]
  simp only [ne_eq, not_true_eq_false, if_false]
  split_ifs <;> rfl

/-! ## Log Information -/

/-- `struct ble_log_info`. -/
structure BleLogInfo where
  eventCount : UInt32
  eventOldestSeq : UInt32
  eventNewestSeq : UInt32
  sensorCount : UInt32
  sensorOldestSeq : UInt32
  sensorNewestSeq : UInt32
  eventRecordSize : UInt16
  sensorRecordSize : UInt16
  streaming : UInt8
  reserved : UInt8
deriving DecidableEq, Repr

namespace BleLogInfo

def toBytes (info : BleLogInfo) : List UInt8 :=
  Packed.pack
    [(4, info.eventCount.toNat), (4, info.eventOldestSeq.toNat), (4, info.eventNewestSeq.toNat),
      (4, info.sensorCount.toNat), (4, info.sensorOldestSeq.toNat),
      (4, info.sensorNewestSeq.toNat), (2, info.eventRecordSize.toNat),
      (2, info.sensorRecordSize.toNat), (1, info.streaming.toNat), (1, info.reserved.toNat)]

def ofBytes (bs : List UInt8) : BleLogInfo where
  eventCount := Packed.getU32 bs 0
  eventOldestSeq := Packed.getU32 bs 4
  eventNewestSeq := Packed.getU32 bs 8
  sensorCount := Packed.getU32 bs 12
  sensorOldestSeq := Packed.getU32 bs 16
  sensorNewestSeq := Packed.getU32 bs 20
  eventRecordSize := Packed.getU16 bs 24
  sensorRecordSize := Packed.getU16 bs 26
  streaming := Packed.getU8 bs 28
  reserved := Packed.getU8 bs 29

theorem ofBytes_toBytes (info : BleLogInfo) : ofBytes info.toBytes = info := by
  simp [ofBytes, toBytes]

/-- The number of the oldest record held, as the client reads it. -/
def oldestSeq (info : BleLogInfo) (logId : UInt8) : UInt32 :=
  if logId = bleLogIdSensor then info.sensorOldestSeq else info.eventOldestSeq

end BleLogInfo

/-- `ble_log_get_info`. -/
def bleLogGetInfo [Crc16] (logs : Logs) (s : LogStream) : BleLogInfo :=
  let events := flashLogGetInfo logs.event
  let sensors := flashLogGetInfo logs.sensor
  { eventCount := UInt32.ofNat events.recordCount
    eventOldestSeq := UInt32.ofNat events.oldestSeq
    eventNewestSeq := UInt32.ofNat events.newestSeq
    eventRecordSize := UInt16.ofNat events.recordSize
    sensorCount := UInt32.ofNat sensors.recordCount
    sensorOldestSeq := UInt32.ofNat sensors.oldestSeq
    sensorNewestSeq := UInt32.ofNat sensors.newestSeq
    sensorRecordSize := UInt16.ofNat sensors.recordSize
    streaming := if s.stream.active then 1 else 0
    reserved := 0 }

theorem oldestSeq_bleLogGetInfo [Crc16] (logs : Logs) (s : LogStream) (logId : UInt8) :
    (bleLogGetInfo logs s).oldestSeq logId =
      UInt32.ofNat (flashLogGetInfo (logs.get logId)).oldestSeq := by
  rw [BleLogInfo.oldestSeq, Logs.get]
  split_ifs <;> rfl

/-! ## Log Data -/

/-- `sizeof(struct ble_log_chunk_header)`. -/
def chunkHeaderSize : Nat := 10

/-- The notification of a chunk: the header, then the records. -/
def Chunk.toBytes (c : Chunk) : List UInt8 :=
  Packed.pack
    [(2, c.header.chunkIndex), (1, c.header.logId.toNat), (1, c.header.recordCount),
      (1, c.header.flags), (1, c.header.recordSize), (4, c.header.firstSeq)] ++
    c.payload.flatten

/-- The records a client finds in a notification, going by its header. -/
def Chunk.read (bs : List UInt8) : List (List UInt8) :=
  Packed.array (Packed.getU8 bs 5).toNat (Packed.getU8 bs 3).toNat (bs.drop chunkHeaderSize)

/-- The header says what the chunk holds. -/
structure Chunk.WellSized (c : Chunk) : Prop where
  count : c.header.recordCount = c.payload.length
  fits : c.payload.length < 256
  sizeFits : c.header.recordSize < 256
  size : ∀ r ∈ c.payload, r.length = c.header.recordSize

theorem Chunk.read_toBytes {c : Chunk} (h : c.WellSized) : Chunk.read c.toBytes = c.payload := by
  have hhead : ∀ fields : List (Nat × Nat), (fields.map Prod.fst).sum = chunkHeaderSize →
      ∀ rest, (Packed.pack fields ++ rest).drop chunkHeaderSize = rest := by
    intro fields hsum rest
    exact List.drop_left' ((Packed.length_pack fields).trans hsum)
  have hcount : (Packed.getU8 c.toBytes 3).toNat = c.payload.length := by
    have hlt := h.fits
    rw [toBytes, Packed.getU8, Packed.field_append (by simp [Packed.length_pack]), h.count,
      Packed.field_pack_tail (by decide), Packed.field_pack_tail (by decide),
      Packed.field_pack_head (by omega)]
    exact UInt8.toNat_ofNat_of_lt' hlt
  have hsize : (Packed.getU8 c.toBytes 5).toNat = c.header.recordSize := by
    have hlt := h.sizeFits
    rw [toBytes, Packed.getU8, Packed.field_append (by simp [Packed.length_pack]),
      Packed.field_pack_tail (by decide), Packed.field_pack_tail (by decide),
      Packed.field_pack_tail (by decide), Packed.field_pack_tail (by decide),
      Packed.field_pack_head (by omega)]
    exact UInt8.toNat_ofNat_of_lt' hlt
  rw [read, hcount, hsize, toBytes, hhead _ rfl]
  conv_lhs => rw [← List.append_nil c.payload.flatten]
  exact Packed.array_flatten h.size []

/-! ## The chunks of a download -/

section

variable [Crc16] {L : Layout} {hist : List (List UInt8)} {lo : Nat} {logId : UInt8} {logs : Logs}
  {s : LogStream} {t : Transfer (List UInt8)}

omit [Crc16] in
theorem recordSize_lt (logId : UInt8) : recordSize logId < 256 := by
  rw [recordSize]
  split_ifs <;> decide

omit [Crc16] in
theorem LogStream.wellSized_endChunk (s : LogStream) : s.endChunk.WellSized where
  count := rfl
  fits := by simp [endChunk]
  sizeFits := recordSize_lt _
  size := fun _ hr => absurd hr List.not_mem_nil

theorem LogStream.wellSized_dataChunk {s : LogStream}
    (hspan : Span L hist lo (logs.get s.stream.logId))
    (hsize : (logs.get s.stream.logId).payloadSize = recordSize s.stream.logId)
    (hsized : ∀ r ∈ hist, r.length = (logs.get s.stream.logId).payloadSize) :
    (s.dataChunk logs).WellSized := by
  have hpay : (s.dataChunk logs).payload =
      (chunkFrom logs s.stream.logId s.stream.nextSeq).take s.stream.remaining :=
    s.payload_found logs
  have hlen : (s.dataChunk logs).payload.length = (s.found logs).length := List.length_map _
  refine ⟨hlen.symm, ?_, recordSize_lt _, ?_⟩
  · have hfound := (s.length_found_le logs).2
    have hcap := chunkCapacity_le s.stream.logId
    omega
  · intro r hr
    rw [hpay, hspan.chunkFrom hsized] at hr
    have hmem := List.mem_of_mem_drop (List.mem_of_mem_drop (List.mem_of_mem_take
      (List.mem_of_mem_take hr)))
    show r.length = recordSize s.stream.logId
    rw [hsized r hmem, hsize]

/-- The records a client gets out of the notifications of a stream. -/
def LogStream.received (s : LogStream) : List (List UInt8) :=
  (s.sent.map Chunk.toBytes).flatMap Chunk.read

omit [Crc16] in
theorem LogStream.received_eq {s : LogStream} (h : ∀ c ∈ s.sent, c.WellSized) :
    s.received = s.delivered := by
  rw [received, delivered, List.flatMap_map]
  exact List.flatMap_congr fun c hc => Chunk.read_toBytes (h c hc)

/-- The last flag of the transfer is that of the stream. -/
theorem Downloads.flagged (h : Downloads logs logId s t) (hflagged : Transfer.Flagged t.sent) :
    s.Flagged := by
  intro _
  obtain ⟨body, c, hsent, hlast, hbody⟩ := hflagged
  obtain ⟨xs, ys, hsplit, hxs, hys⟩ := List.map_eq_append_iff.1 (h.sent.trans hsent)
  obtain ⟨y, rfl, hy⟩ := List.map_eq_singleton_iff.1 hys
  refine ⟨xs, y, hsplit, ?_, fun b hb => ?_⟩
  · rw [← hlast, ← hy]
  · exact hbody _ (by rw [← hxs]; exact List.mem_map_of_mem hb)

/-- A download whose notifications are all accepted: the client reads the records requested. -/
theorem received_eq_requested {link : Link} {request : BleLogRequest} (s : LogStream) {m : Nat}
    (hspan : Span L hist lo (logs.get request.logId))
    (hsize : (logs.get request.logId).payloadSize = recordSize request.logId)
    (hsized : ∀ r ∈ hist, r.length = (logs.get request.logId).payloadSize)
    (hop : request.opcode = bleLogOpStart) (hid : request.logId ≤ bleLogIdSensor)
    (hsub : link.subscribed = true)
    (hold : lo + 1 ≤ request.startSeq.toNat ∨ lo = hist.length) (hm : limitOf logs request < m) :
    let final := streamRun logs (bleLogHandleRequest logs link request s).2
      (List.replicate m true)
    final.stream.active = false ∧
      final.received = (requested hist lo request).take (limitOf logs request) ∧
      final.Flagged := by
  intro final
  have hstart := downloads_start logs s hop hid hsub
  have hrun := hstart.run (List.replicate m true)
  obtain ⟨hidle, hdelivered, hflagged⟩ := Transfer.run_accepted
    (t := Transfer.start (offered logs request.logId (limitOf logs request) request.startSeq.toNat)
      (offered_filled _ _ _ _) (limitOf logs request)) rfl nofun hm
  have hsent : ∀ c ∈ final.sent, c.WellSized := by
    refine hstart.forall_sent_run LogStream.wellSized_endChunk (fun s hs => ?_) ?_ _
    · rw [← hs] at hspan hsize hsized
      exact LogStream.wellSized_dataChunk hspan hsize hsized
    · rw [bleLogHandleRequest_start hop hid hsub]
      exact nofun
  refine ⟨hrun.active.trans hidle, ?_, hrun.flagged hflagged⟩
  rw [LogStream.received_eq hsent, hrun.delivered, hdelivered]
  exact hspan.offered hsized _ hold

end

end SmartTag
