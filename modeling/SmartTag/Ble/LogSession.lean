import SmartTag.Ble.LogWire

/-!
# Log downloads over connections

The log service from power-on on: clients connect, subscribe, ask for downloads, abort them and
go away, in any order, following `src/ble/ble_log.c`, `src/ble/ble_gatt.c` and
`src/ble/ble_manager.c`. Flash is slow, so that `stream_work_fn` is cut in two at `read_records`:
anything may happen between the read and the rest, which then finds the stream as it has become.

* `streamWorkFn_eq`: with nothing in between, the two halves are `streamWorkFn`.
* `log_session_in_order`: the chunks of every transfer are numbered one after another, at most the
  last one is flagged, and a stream that is active has its work to come.
* `log_session_refines`: when no client starts a transfer or connects during a read, every chunk
  goes to the client that asked for it, and is what the two halves in one would have sent.
-/

namespace SmartTag

/-! ## The two halves of an execution -/

/-- The locals of `stream_work_fn` once `read_records` has returned. -/
structure StreamRead where
  size : Nat
  want : Nat
  records : Except Int (List (List UInt8))
  seqs : List Nat

namespace StreamRead

/-- `got`. -/
def got (read : StreamRead) : Int :=
  match read.records with
  | .ok rs => rs.length
  | .error err => err

def payload (read : StreamRead) : List (List UInt8) :=
  match read.records with
  | .ok rs => rs
  | .error _ => []

end StreamRead

/-- `stream_work_fn` up to the return of `read_records`, when the stream is active. -/
def streamRead [Crc16] (logs : Logs) (st : StreamState) : StreamRead :=
  let size := recordSize st.logId
  let want := min st.remaining (chunkPayloadMax / size)
  { size := size
    want := want
    records := readRecords logs st.logId st.nextSeq want
    seqs := (foundSlots logs st.logId st.nextSeq want).map fun slot => slot.seq.toNat }

/-- The rest of `stream_work_fn`, on the stream as it is by then, and whether the work is scheduled
again. -/
def streamSend (link : Link) (read : StreamRead) (s : LogStream) : LogStream × Bool :=
  let st := s.stream
  let header : ChunkHeader :=
    { chunkIndex := st.chunkIndex
      logId := st.logId
      recordCount := (max read.got 0).toNat % 2 ^ 8
      flags := 0
      recordSize := read.size
      firstSeq := st.nextSeq }
  if read.got ≤ 0 ∨ read.want = 0 then
    let header := { header with recordCount := 0, flags := bleLogChunkFlagLast }
    ({ stream := { st with active := false }
       sent := notifyChunk link s.sent { header := header, payload := [], seqs := [] } }, false)
  else
    let got := read.got.toNat
    let st := { st with remaining := st.remaining - min st.remaining got }
    let header :=
      if st.remaining = 0 then { header with flags := bleLogChunkFlagLast } else header
    let sent := notifyChunk link s.sent
      { header := header, payload := read.payload, seqs := read.seqs }
    if bleGattNotify link = -ENOMEM then ({ stream := st, sent := sent }, true)
    else if bleGattNotify link ≠ 0 then
      ({ stream := { st with active := false }, sent := sent }, false)
    else
      let st := { st with
        chunkIndex := u16 (st.chunkIndex + 1)
        nextSeq := u32 (st.nextSeq + got) }
      if st.remaining = 0 then ({ stream := { st with active := false }, sent := sent }, false)
      else ({ stream := st, sent := sent }, true)

/-- With nothing between them, the two halves are the whole. -/
theorem streamWorkFn_eq [Crc16] (logs : Logs) (link : Link) (s : LogStream) :
    streamWorkFn logs link s =
      if ¬ s.stream.active then s
      else if ¬ bleGattIsSubscribed link then bleLogAbort s
      else (streamSend link (streamRead logs s.stream) s).1 := by
  by_cases hactive : s.stream.active = true
  · by_cases hsub : bleGattIsSubscribed link = true
    · simp only [streamWorkFn, streamSend, streamRead, StreamRead.got, StreamRead.payload,
        readRecords_eq, hactive, hsub, not_true_eq_false, if_false]
      by_cases hready : (logs.get s.stream.logId).ready = true
      · simp only [hready, if_true]
        split_ifs <;> rfl
      · simp only [hready, Bool.false_eq_true, if_false]
        split_ifs <;> rfl
    · simp [streamWorkFn, bleLogAbort, hactive, hsub]
  · simp [streamWorkFn, hactive]

/-! ### What the second half does -/

/-- What is left of the limit after the records read. -/
def StreamRead.left (read : StreamRead) (s : LogStream) : Nat :=
  s.stream.remaining - min s.stream.remaining read.got.toNat

/-- The chunk with the records read. -/
def StreamRead.dataChunk (read : StreamRead) (s : LogStream) : Chunk where
  header :=
    { chunkIndex := s.stream.chunkIndex
      logId := s.stream.logId
      recordCount := (max read.got 0).toNat % 2 ^ 8
      flags := if read.left s = 0 then bleLogChunkFlagLast else 0
      recordSize := read.size
      firstSeq := s.stream.nextSeq }
  payload := read.payload
  seqs := read.seqs

/-- The chunk that ends the transfer. -/
def StreamRead.endChunk (read : StreamRead) (s : LogStream) : Chunk where
  header :=
    { chunkIndex := s.stream.chunkIndex
      logId := s.stream.logId
      recordCount := 0
      flags := bleLogChunkFlagLast
      recordSize := read.size
      firstSeq := s.stream.nextSeq }
  payload := []
  seqs := []

@[simp] theorem StreamRead.isLast_endChunk (read : StreamRead) (s : LogStream) :
    (read.endChunk s).isLast = true := rfl

@[simp] theorem StreamRead.isLast_dataChunk (read : StreamRead) (s : LogStream) :
    (read.dataChunk s).isLast = decide (read.left s = 0) := by
  by_cases h : read.left s = 0 <;> simp [Chunk.isLast, dataChunk, h, bleLogChunkFlagLast]

section

variable {link : Link} {read : StreamRead} {s : LogStream}

theorem streamSend_end (h : read.got ≤ 0 ∨ read.want = 0) :
    streamSend link read s =
      ({ stream := { s.stream with active := false }
         sent := notifyChunk link s.sent (read.endChunk s) }, false) := by
  rw [streamSend, if_pos h]
  rfl

theorem streamSend_data (h : ¬ (read.got ≤ 0 ∨ read.want = 0)) :
    streamSend link read s =
      if bleGattNotify link = 0 then
        ({ stream := { s.stream with
             active := s.stream.active && decide (read.left s ≠ 0)
             remaining := read.left s
             chunkIndex := u16 (s.stream.chunkIndex + 1)
             nextSeq := u32 (s.stream.nextSeq + read.got.toNat) }
           sent := s.sent ++ [read.dataChunk s] }, decide (read.left s ≠ 0))
      else if bleGattNotify link = -ENOMEM then
        ({ stream := { s.stream with remaining := read.left s }, sent := s.sent }, true)
      else
        ({ stream := { s.stream with active := false, remaining := read.left s }
           sent := s.sent }, false) := by
  have hmem : ¬ (0 : Int) = -ENOMEM := by decide
  have hchunk : read.dataChunk s =
      { header := if read.left s = 0 then
          { chunkIndex := s.stream.chunkIndex, logId := s.stream.logId
            recordCount := (max read.got 0).toNat % 2 ^ 8, flags := bleLogChunkFlagLast
            recordSize := read.size, firstSeq := s.stream.nextSeq }
          else
          { chunkIndex := s.stream.chunkIndex, logId := s.stream.logId
            recordCount := (max read.got 0).toNat % 2 ^ 8, flags := 0
            recordSize := read.size, firstSeq := s.stream.nextSeq }
        payload := read.payload
        seqs := read.seqs } := by
    rw [StreamRead.dataChunk]
    split_ifs <;> rfl
  have hleft : s.stream.remaining - min s.stream.remaining read.got.toNat = read.left s := rfl
  rw [streamSend, if_neg h]
  simp only [hleft, ← hchunk, notifyChunk]
  by_cases hok : bleGattNotify link = 0
  · by_cases hzero : read.left s = 0 <;> simp [hok, hmem, hzero]
  · by_cases hno : bleGattNotify link = -ENOMEM
    · have hno' : ¬ (-ENOMEM : Int) = 0 := by decide
      simp [hno, hno']
    · simp [hok, hno]

/-- The second half adds a chunk, or nothing. -/
theorem streamSend_sent (link : Link) (read : StreamRead) (s : LogStream) :
    s.sent <+: (streamSend link read s).1.sent := by
  by_cases h : read.got ≤ 0 ∨ read.want = 0
  · rw [streamSend_end h]
    dsimp only [notifyChunk]
    split_ifs
    · exact List.prefix_append _ _
    · exact List.prefix_rfl
  · rw [streamSend_data h]
    split_ifs
    · exact List.prefix_append _ _
    · exact List.prefix_rfl
    · exact List.prefix_rfl

/-- A client that is not subscribed is sent nothing. -/
theorem streamSend_unsubscribed (hsub : link.subscribed = false) :
    (streamSend link read s).1.sent = s.sent := by
  have herr : ¬ bleGattNotify link = 0 := by
    simp [bleGattNotify, bleGattIsSubscribed, hsub, EACCES]
  by_cases h : read.got ≤ 0 ∨ read.want = 0
  · rw [streamSend_end h]
    exact if_neg herr
  · rw [streamSend_data h, if_neg herr]
    split_ifs <;> rfl

/-- A stream that stays active has its work scheduled again. -/
theorem streamSend_again (h : (streamSend link read s).1.stream.active = true) :
    (streamSend link read s).2 = true := by
  by_cases hend : read.got ≤ 0 ∨ read.want = 0
  · rw [streamSend_end hend] at h
    exact absurd h Bool.false_ne_true
  · rw [streamSend_data hend] at h ⊢
    split_ifs at h ⊢
    · exact (Bool.and_eq_true_iff.1 h).2
    · rfl

theorem streamSend_active (h : (streamSend link read s).1.stream.active = true) :
    s.stream.active = true := by
  by_cases hend : read.got ≤ 0 ∨ read.want = 0
  · rw [streamSend_end hend] at h
    exact absurd h Bool.false_ne_true
  · rw [streamSend_data hend] at h
    split_ifs at h
    · exact (Bool.and_eq_true_iff.1 h).1
    · exact h

/-- Of the link, only what `ble_gatt_notify` returns matters. -/
theorem streamSend_link (link : Link) (read : StreamRead) (s : LogStream) :
    streamSend ⟨true, bleGattNotify link⟩ read s = streamSend link read s := by
  have herr : bleGattNotify ⟨true, bleGattNotify link⟩ = bleGattNotify link := rfl
  rw [streamSend, streamSend, herr]
  rfl

/-- An abort during the read only means that no further execution follows. -/
theorem streamSend_abort (link : Link) (read : StreamRead) (s : LogStream) :
    (streamSend link read (bleLogAbort s)).1 = bleLogAbort (streamSend link read s).1 := by
  by_cases h : read.got ≤ 0 ∨ read.want = 0
  · rw [streamSend_end h, streamSend_end h]
    rfl
  · rw [streamSend_data h, streamSend_data h]
    have hleft : read.left (bleLogAbort s) = read.left s := rfl
    have hchunk : read.dataChunk (bleLogAbort s) = read.dataChunk s := rfl
    rw [hleft, hchunk]
    split_ifs <;> rfl

/-! ### The order of the chunks -/

/-- Chunks numbered from 0 on, with at most the last one flagged. -/
structure InOrder (chunks : List Chunk) : Prop where
  indices : chunks.map (fun c => c.header.chunkIndex) = (List.range chunks.length).map u16
  flags : ∀ c ∈ chunks.dropLast, c.isLast = false

/-- A stream that may go on has not flagged a chunk, and numbers the next one after them. -/
structure LogStream.Going (s : LogStream) : Prop where
  indices : s.sent.map (fun c => c.header.chunkIndex) = (List.range s.sent.length).map u16
  unflagged : ∀ c ∈ s.sent, c.isLast = false
  index : s.stream.chunkIndex = u16 s.sent.length

theorem LogStream.Going.inOrder (h : s.Going) : InOrder s.sent where
  indices := h.indices
  flags := fun c hc => h.unflagged c (List.dropLast_subset _ hc)

theorem LogStream.Going.inOrder_append (h : s.Going) {c : Chunk}
    (hc : c.header.chunkIndex = s.stream.chunkIndex) : InOrder (s.sent ++ [c]) where
  indices := indices_append h.indices (hc.trans h.index)
  flags := by
    rw [List.dropLast_concat]
    exact h.unflagged

/-- The second half keeps the order, whatever became of the stream during the read. -/
theorem LogStream.Going.send (h : s.Going) (link : Link) (read : StreamRead) :
    (streamSend link read s).1.Going ∨
      InOrder (streamSend link read s).1.sent ∧
        (streamSend link read s).1.stream.active = false := by
  by_cases hend : read.got ≤ 0 ∨ read.want = 0
  · rw [streamSend_end hend]
    dsimp only [notifyChunk]
    split_ifs
    · exact Or.inr ⟨h.inOrder_append rfl, rfl⟩
    · exact Or.inr ⟨h.inOrder, rfl⟩
  · rw [streamSend_data hend]
    split_ifs
    · have happ := h.inOrder_append (c := read.dataChunk s) rfl
      by_cases hleft : read.left s = 0
      · exact Or.inr ⟨happ, by simp [hleft]⟩
      · refine Or.inl ⟨happ.indices, ?_, ?_⟩
        · rw [List.forall_mem_append]
          refine ⟨h.unflagged, ?_⟩
          simp [hleft]
        · have hindex := h.index
          simp only [u16] at hindex ⊢
          simp only [List.length_append, List.length_singleton]
          omega
    · exact Or.inl ⟨h.indices, h.unflagged, h.index⟩
    · exact Or.inl ⟨h.indices, h.unflagged, h.index⟩

end

/-! ## The log service -/

/-- A download, as the client that started it sees it: its number among the connections, the logs
it found, what it asked for, and the logs and the link that each of the executions met. -/
structure LogTransfer where
  client : Nat
  logs : Logs
  request : BleLogRequest
  executions : List (Logs × Link)

/-- The statics behind the log service and its work item: `scheduled` says that the item is to run,
`execution` what a run of it has read, and from which logs, and `canceling` that it has been
cancelled during that run. `connections` counts the connections so far. `earlier` has the transfers
that another one has replaced with their chunks, `current` the one whose chunks are in
`stream.sent`, and `received` what reached each of the clients. -/
structure LogSession where
  currentConn : Option Nat
  connections : Nat
  subscribed : Bool
  logs : Logs
  stream : LogStream
  scheduled : Bool
  execution : Option (Logs × StreamRead)
  canceling : Bool
  earlier : List (LogTransfer × List Chunk)
  current : Option LogTransfer
  received : List (Nat × Chunk)

inductive LogSessionEvent
  | connected
  | disconnected
  /-- `log_data_ccc`. -/
  | logDataCcc (notify : Bool)
  /-- `ble_log_write_control`. -/
  | writeControl (buf : List UInt8) (offset : UInt16)
  /-- `ble_log_abort`, from a command. -/
  | abort
  /-- The work item starts, up to the return of `read_records`. -/
  | read
  /-- It goes on, `bt_gatt_notify` returning `err`. -/
  | send (err : Int)
  /-- Another thread appends to the logs or clears them. -/
  | setLogs (logs : Logs)

namespace LogSession

/-- What `ble_log_init` leaves. -/
def init (logs : Logs) : LogSession where
  currentConn := none
  connections := 0
  subscribed := false
  logs := logs
  stream :=
    { stream := { active := false, logId := 0, chunkIndex := 0, nextSeq := 0, remaining := 0 }
      sent := [] }
  scheduled := false
  execution := none
  canceling := false
  earlier := []
  current := none
  received := []

/-- All the transfers so far, with their chunks. -/
def transfers (s : LogSession) : List (LogTransfer × List Chunk) :=
  s.earlier ++ s.current.toList.map fun t => (t, s.stream.sent)

/-- The request in `buf` starts a transfer. -/
def Starts (s : LogSession) (buf : List UInt8) (offset : UInt16) : Prop :=
  offset = 0 ∧ buf.length = bleLogRequestSize ∧ (BleLogRequest.ofBytes buf).opcode = bleLogOpStart ∧
    (BleLogRequest.ofBytes buf).logId ≤ bleLogIdSensor ∧ s.subscribed = true

instance (s : LogSession) (buf : List UInt8) (offset : UInt16) : Decidable (s.Starts buf offset) :=
  inferInstanceAs (Decidable (_ ∧ _))

/-- `ble_log_abort`: the work is cancelled, also while it runs. -/
def abort (s : LogSession) : LogSession :=
  { s with
    stream := bleLogAbort s.stream
    scheduled := false
    canceling := s.canceling || s.execution.isSome }

section

variable [Crc16]

/-- `ble_log_write_control`, from client `client`. -/
def writeControl (s : LogSession) (client : Nat) (buf : List UInt8) (offset : UInt16) :
    LogSession :=
  let request := BleLogRequest.ofBytes buf
  if offset = 0 ∧ buf.length = bleLogRequestSize ∧ request.opcode = bleLogOpAbort then s.abort
  else if s.Starts buf offset then
    { s with
      stream := (bleLogWriteControl s.logs ⟨s.subscribed, 0⟩ buf offset s.stream).2
      -- A work item that is being cancelled cannot be submitted.
      scheduled := !s.canceling
      earlier := s.transfers
      current := some
        { client := client, logs := s.logs, request := request, executions := [] } }
  else s

/-- The first half of an execution. -/
def read (s : LogSession) : LogSession :=
  if s.execution.isSome ∨ ¬ s.scheduled then s
  else if ¬ s.stream.stream.active then { s with scheduled := false }
  else if ¬ s.subscribed then { s with scheduled := false, stream := bleLogAbort s.stream }
  else
    { s with
      scheduled := false
      execution := some (s.logs, streamRead s.logs s.stream.stream) }

/-- The second half. -/
def send (s : LogSession) (err : Int) : LogSession :=
  match s.execution with
  | none => s
  | some (logs, read) =>
    let link : Link := { subscribed := s.subscribed, notifyErr := err }
    let (stream, again) := streamSend link read s.stream
    { s with
      stream := stream
      scheduled := s.scheduled || again
      execution := none
      canceling := false
      current := s.current.map fun t =>
        { t with executions := t.executions ++
            [(logs, { subscribed := true, notifyErr := bleGattNotify link })] }
      received := s.received ++
        s.currentConn.toList.flatMap fun client =>
          (stream.sent.drop s.stream.sent.length).map fun c => (client, c) }

def step (s : LogSession) : LogSessionEvent → LogSession
  | .connected =>
    if s.currentConn.isSome then s
    else { s with currentConn := some s.connections, connections := s.connections + 1 }
  | .disconnected => { ({ s with subscribed := false }).abort with currentConn := none }
  | .logDataCcc notify => if s.currentConn.isSome then { s with subscribed := notify } else s
  | .writeControl buf offset =>
    match s.currentConn with
    | none => s
    | some client => s.writeControl client buf offset
  | .abort => s.abort
  | .read => s.read
  | .send err => s.send err
  | .setLogs logs => { s with logs := logs }

end

/-! ## Any order of events -/

/-- The client hears of every chunk, of the transfer in hand as of the ones before it. -/
structure Inv (s : LogSession) : Prop where
  client : s.subscribed = true → s.currentConn.isSome = true
  working : s.stream.stream.active = true → s.scheduled = true ∨ s.execution.isSome = true
  canceling : s.canceling = true → s.execution.isSome = true
  earlier : ∀ t ∈ s.earlier, InOrder t.2
  stream : s.stream.Going ∨
    InOrder s.stream.sent ∧ s.stream.stream.active = false ∧ s.execution = none
  received : s.received.map Prod.snd = s.transfers.flatMap Prod.snd
  begun : s.current = none →
    s.stream.sent = [] ∧ s.stream.stream.active = false ∧ s.execution = none

theorem inv_init (logs : Logs) : (init logs).Inv where
  client := fun h => absurd h Bool.false_ne_true
  working := fun h => absurd h Bool.false_ne_true
  canceling := fun h => absurd h Bool.false_ne_true
  earlier := fun _ ht => absurd ht List.not_mem_nil
  stream := Or.inl ⟨rfl, fun _ hc => absurd hc List.not_mem_nil, rfl⟩
  received := rfl
  begun := fun _ => ⟨rfl, rfl, rfl⟩

variable {s : LogSession}

theorem Inv.inOrder (h : s.Inv) : InOrder s.stream.sent := by
  rcases h.stream with h | h
  · exact h.inOrder
  · exact h.1

theorem Inv.abort (h : s.Inv) : s.abort.Inv where
  client := h.client
  working := fun hactive => absurd hactive Bool.false_ne_true
  canceling := fun hcancel => (Bool.or_eq_true_iff.1 hcancel).elim h.canceling id
  earlier := h.earlier
  stream := by
    rcases h.stream with hgoing | hover
    · exact Or.inl ⟨hgoing.indices, hgoing.unflagged, hgoing.index⟩
    · exact Or.inr ⟨hover.1, rfl, hover.2.2⟩
  received := h.received
  begun := fun hnone => ⟨(h.begun hnone).1, rfl, (h.begun hnone).2.2⟩

theorem Inv.disconnected (h : s.Inv) :
    ({ ({ s with subscribed := false }).abort with currentConn := none }).Inv where
  client := fun hsub => absurd hsub Bool.false_ne_true
  working := h.abort.working
  canceling := h.abort.canceling
  earlier := h.abort.earlier
  stream := h.abort.stream
  received := h.abort.received
  begun := h.abort.begun

theorem mem_transfers {t : LogTransfer × List Chunk} :
    t ∈ s.transfers ↔ t ∈ s.earlier ∨ ∃ u, s.current = some u ∧ t = (u, s.stream.sent) := by
  simp [transfers, eq_comm]

theorem Inv.mem_transfers (h : s.Inv) {t : LogTransfer × List Chunk} (ht : t ∈ s.transfers) :
    InOrder t.2 := by
  rcases LogSession.mem_transfers.1 ht with ht | ⟨u, -, rfl⟩
  · exact h.earlier t ht
  · exact h.inOrder

section

variable [Crc16]

/-- The stream is left as `bleLogWriteControl` leaves it. -/
theorem writeControl_stream (s : LogSession) (client : Nat) (buf : List UInt8) (offset : UInt16) :
    (s.writeControl client buf offset).stream =
      (bleLogWriteControl s.logs ⟨s.subscribed, 0⟩ buf offset s.stream).2 := by
  have hcontrol : ¬ offset ≠ 0 → ¬ buf.length ≠ bleLogRequestSize →
      (bleLogWriteControl s.logs ⟨s.subscribed, 0⟩ buf offset s.stream).2 =
        (bleLogHandleRequest s.logs ⟨s.subscribed, 0⟩ (.ofBytes buf) s.stream).2 := by
    intro hoffset hlen
    rw [bleLogWriteControl, if_neg hoffset, if_neg hlen]
    dsimp only
    split_ifs <;> rfl
  rw [writeControl]
  split_ifs with habort hstart
  · rw [hcontrol (not_not.2 habort.1) (not_not.2 habort.2.1), bleLogHandleRequest,
      if_pos habort.2.2]
    rfl
  · rfl
  · by_cases hoffset : offset = 0
    · by_cases hlen : buf.length = bleLogRequestSize
      · rw [hcontrol (not_not.2 hoffset) (not_not.2 hlen), bleLogHandleRequest,
          if_neg fun hop => habort ⟨hoffset, hlen, hop⟩]
        by_cases hop : (BleLogRequest.ofBytes buf).opcode = bleLogOpStart
        · rw [if_neg (not_not.2 hop)]
          by_cases hid : bleLogIdSensor < (BleLogRequest.ofBytes buf).logId
          · rw [if_pos hid]
          · rw [if_neg hid, if_pos]
            exact fun hsub => hstart ⟨hoffset, hlen, hop, UInt8.not_lt.1 hid, hsub⟩
        · rw [if_pos hop]
      · rw [bleLogWriteControl, if_neg (not_not.2 hoffset), if_pos hlen]
    · rw [bleLogWriteControl, if_pos hoffset]

/-- The stream of a transfer that has just been started. -/
theorem stream_of_starts {buf : List UInt8} {offset : UInt16} (h : s.Starts buf offset) :
    (bleLogWriteControl s.logs ⟨s.subscribed, 0⟩ buf offset s.stream).2 =
      (bleLogHandleRequest s.logs (linkOf true) (.ofBytes buf) s.stream).2 := by
  obtain ⟨hoffset, hlen, hop, hid, hsub⟩ := h
  rw [bleLogHandleRequest_start hop hid rfl, bleLogWriteControl, if_neg (not_not.2 hoffset),
    if_neg (not_not.2 hlen), bleLogHandleRequest_start hop hid hsub]
  rfl

theorem Inv.start (h : s.Inv) (client : Nat) {buf : List UInt8} {offset : UInt16}
    (hstart : s.Starts buf offset) :
    ({ s with
        stream := (bleLogWriteControl s.logs ⟨s.subscribed, 0⟩ buf offset s.stream).2
        scheduled := !s.canceling
        earlier := s.transfers
        current := some
          { client := client, logs := s.logs, request := .ofBytes buf
            executions := [] } } : LogSession).Inv := by
  obtain ⟨-, -, hop, hid, -⟩ := id hstart
  rw [stream_of_starts hstart, bleLogHandleRequest_start hop hid rfl]
  refine ⟨h.client, fun _ => ?_, h.canceling, fun t ht => h.mem_transfers ht, ?_, ?_, ?_⟩
  · cases hcancel : s.canceling with
    | false => exact Or.inl rfl
    | true => exact Or.inr (h.canceling hcancel)
  · exact Or.inl ⟨rfl, fun _ hc => absurd hc List.not_mem_nil, rfl⟩
  · rw [h.received]
    simp [transfers]
  · exact fun hnone => absurd hnone (by simp)

theorem Inv.read (h : s.Inv) : s.read.Inv := by
  rw [LogSession.read]
  by_cases hrun : s.execution.isSome = true ∨ ¬ s.scheduled = true
  · rw [if_pos hrun]
    exact h
  have hidle : s.execution = none := by
    rw [← Option.not_isSome_iff_eq_none]
    exact fun hsome => hrun (Or.inl hsome)
  rw [if_neg hrun]
  by_cases hactive : s.stream.stream.active = true
  · rw [if_neg (not_not.2 hactive)]
    by_cases hsub : s.subscribed = true
    · rw [if_neg (not_not.2 hsub)]
      refine { h with
        working := fun _ => Or.inr rfl
        canceling := fun _ => rfl
        stream := ?_
        begun := fun hnone => ?_ }
      · rcases h.stream with hgoing | hover
        · exact Or.inl hgoing
        · rw [hactive] at hover
          exact absurd hover.2.1 (by simp)
      · have hbegun := (h.begun hnone).2.1
        rw [hactive] at hbegun
        exact absurd hbegun (by simp)
    · rw [if_pos hsub]
      exact { h.abort with canceling := h.canceling }
  · rw [if_pos hactive]
    exact { h with working := fun hne => absurd hne hactive }

omit [Crc16] in
/-- What the second half hands on reaches the client there is. -/
theorem Inv.client_of_sent (h : s.Inv) {err : Int} {read : StreamRead} {new : List Chunk}
    (hnew : s.stream.sent ++ new = (streamSend ⟨s.subscribed, err⟩ read s.stream).1.sent) :
    new = [] ∨ ∃ client, s.currentConn = some client := by
  cases hsub : s.subscribed with
  | false =>
      rw [hsub, streamSend_unsubscribed rfl] at hnew
      exact Or.inl (by simpa using hnew)
  | true => exact Or.inr (Option.isSome_iff_exists.1 (h.client hsub))

omit [Crc16] in
theorem Inv.current_of_execution (h : s.Inv) {execution : Logs × StreamRead}
    (hexec : s.execution = some execution) : ∃ t, s.current = some t := by
  rw [← Option.isSome_iff_exists, Option.isSome_iff_ne_none]
  intro hnone
  have hidle := (h.begun hnone).2.2
  rw [hexec] at hidle
  exact absurd hidle (by simp)

omit [Crc16] in
theorem send_eq {logs : Logs} {read : StreamRead} (hexec : s.execution = some (logs, read))
    (err : Int) :
    s.send err =
      { s with
        stream := (streamSend ⟨s.subscribed, err⟩ read s.stream).1
        scheduled := s.scheduled || (streamSend ⟨s.subscribed, err⟩ read s.stream).2
        execution := none
        canceling := false
        current := s.current.map fun t =>
          { t with executions := t.executions ++
              [(logs, { subscribed := true, notifyErr := bleGattNotify ⟨s.subscribed, err⟩ })] }
        received := s.received ++ s.currentConn.toList.flatMap fun client =>
          ((streamSend ⟨s.subscribed, err⟩ read s.stream).1.sent.drop s.stream.sent.length).map
            fun c => (client, c) } := by
  rw [LogSession.send, hexec]

omit [Crc16] in
theorem Inv.send (h : s.Inv) (err : Int) : (s.send err).Inv := by
  cases hexec : s.execution with
  | none =>
      rw [LogSession.send, hexec]
      exact h
  | some execution =>
      obtain ⟨logs, read⟩ := execution
      obtain ⟨t, hcurrent⟩ := h.current_of_execution hexec
      have hgoing : s.stream.Going := by
        rcases h.stream with hgoing | hover
        · exact hgoing
        · rw [hexec] at hover
          exact absurd hover.2.2 (by simp)
      obtain ⟨new, hnew⟩ := streamSend_sent ⟨s.subscribed, err⟩ read s.stream
      rw [send_eq hexec]
      refine ⟨h.client, fun hactive => ?_, fun hne => absurd hne (by simp), h.earlier, ?_, ?_, ?_⟩
      · left
        dsimp only
        rw [streamSend_again hactive, Bool.or_true]
      · rcases hgoing.send ⟨s.subscribed, err⟩ read with hgoing | hover
        · exact Or.inl hgoing
        · exact Or.inr ⟨hover.1, hover.2, rfl⟩
      · have hreceived := h.received
        rw [transfers, hcurrent] at hreceived
        simp only [transfers, hcurrent, ← hnew, List.drop_left]
        rcases h.client_of_sent hnew with rfl | ⟨client, hclient⟩
        · cases s.currentConn <;> simpa using hreceived
        · simp [hreceived, hclient]
      · exact fun hnone => absurd hnone (by simp [hcurrent])

theorem Inv.step (h : s.Inv) (e : LogSessionEvent) : (s.step e).Inv := by
  cases e with
  | connected =>
      rw [LogSession.step]
      split_ifs
      · exact h
      · exact { h with client := fun _ => rfl }
  | disconnected => exact h.disconnected
  | logDataCcc notify =>
      rw [LogSession.step]
      split_ifs with hconn
      · exact { h with client := fun _ => hconn }
      · exact h
  | writeControl buf offset =>
      rw [LogSession.step]
      cases s.currentConn with
      | none => exact h
      | some client =>
          dsimp only
          rw [writeControl]
          split_ifs with habort hstart
          · exact h.abort
          · exact h.start client hstart
          · exact h
  | abort => exact h.abort
  | read => exact h.read
  | send err => exact h.send err
  | setLogs logs => exact { h with }

/-- From power-on on, with connections, subscriptions, requests, aborts, executions and changes of
the logs in any order, also during the read of an execution, and with `bt_gatt_notify` returning
anything: the chunks that reach clients are those of the transfers, one transfer after another.
Each transfer numbers its chunks from 0 on without a gap and flags none but its last one. A stream
that is active has an execution to come or going on, and one that has flagged a chunk is over. -/
theorem log_session_in_order (logs : Logs) (events : List LogSessionEvent) :
    let s := Run.final step (init logs) events
    s.received.map Prod.snd = s.transfers.flatMap Prod.snd ∧
      (∀ t ∈ s.transfers, InOrder t.2) ∧
      (s.stream.stream.active = true →
        (s.scheduled = true ∨ s.execution.isSome = true) ∧
          ∀ c ∈ s.stream.sent, c.isLast = false) := by
  intro s
  have hinv : s.Inv := Run.final_preserves (fun _ e h => h.step e) (inv_init logs) events
  refine ⟨hinv.received, fun t ht => hinv.mem_transfers ht, fun hactive => ⟨hinv.working hactive, ?_⟩⟩
  rcases hinv.stream with hgoing | hover
  · exact hgoing.unflagged
  · rw [hactive] at hover
    exact absurd hover.2.1 (by simp)

/-! ## Without a new transfer during a read -/

end

end LogSession

section

variable [Crc16]

/-- The stream the request starts. -/
def LogTransfer.begun (t : LogTransfer) : LogStream :=
  (bleLogHandleRequest t.logs (linkOf true) t.request ⟨⟨false, 0, 0, 0, 0⟩, []⟩).2

/-- The transfer with nothing between the halves of its executions. -/
def LogTransfer.run (t : LogTransfer) : LogStream :=
  Run.final (fun s e => streamWorkFn e.1 e.2 s) t.begun t.executions

theorem LogTransfer.run_concat (t : LogTransfer) (e : Logs × Link) :
    ({ t with executions := t.executions ++ [e] } : LogTransfer).run =
      streamWorkFn e.1 e.2 t.run := Run.final_concat _ _ _ _

namespace LogSession

/-- No client connects during a read, and none starts a transfer. -/
def Undisturbed (s : LogSession) : LogSessionEvent → Prop
  | .connected => s.execution = none
  | .writeControl buf offset => s.Starts buf offset → s.execution = none
  | _ => True

instance (s : LogSession) : (e : LogSessionEvent) → Decidable (s.Undisturbed e)
  | .connected => inferInstanceAs (Decidable (s.execution = none))
  | .writeControl buf offset =>
    inferInstanceAs (Decidable (s.Starts buf offset → s.execution = none))
  | .disconnected | .logDataCcc _ | .abort | .read | .send _ | .setLogs _ =>
    inferInstanceAs (Decidable True)

/-- The stream is where the transfer in hand has it, unless that one has been aborted. -/
structure Follows (s : LogSession) : Prop where
  inv : s.Inv
  earlier : ∀ t ∈ s.earlier, t.2 = t.1.run.sent
  stream : ∀ t, s.current = some t → s.stream = t.run ∨ s.stream = bleLogAbort t.run
  reading : ∀ t, s.current = some t → ∀ logs read, s.execution = some (logs, read) →
    t.run.stream.active = true ∧ read = streamRead logs t.run.stream
  client : ∀ t, s.current = some t → s.stream.stream.active = true →
    s.currentConn = some t.client
  reader : ∀ t, s.current = some t → s.execution.isSome = true →
    s.currentConn = none ∨ s.currentConn = some t.client
  received : s.received = s.transfers.flatMap fun t => t.2.map fun c => (t.1.client, c)

variable {s : LogSession}

theorem Follows.sent (h : s.Follows) {t : LogTransfer} (ht : s.current = some t) :
    s.stream.sent = t.run.sent := by
  rcases h.stream t ht with heq | heq <;> rw [heq]
  rfl

theorem Follows.mem_transfers (h : s.Follows) {t : LogTransfer × List Chunk}
    (ht : t ∈ s.transfers) : t.2 = t.1.run.sent := by
  rcases LogSession.mem_transfers.1 ht with ht | ⟨u, hu, rfl⟩
  · exact h.earlier t ht
  · exact h.sent hu

theorem Follows.abort (h : s.Follows) : s.abort.Follows where
  inv := h.inv.abort
  earlier := h.earlier
  stream := fun t ht => by
    right
    rcases h.stream t ht with heq | heq
    · exact congrArg bleLogAbort heq
    · exact (congrArg bleLogAbort heq).trans rfl
  reading := h.reading
  client := fun _ _ hactive => absurd hactive Bool.false_ne_true
  reader := h.reader
  received := h.received

theorem Follows.disconnected (h : s.Follows) :
    ({ ({ s with subscribed := false }).abort with currentConn := none }).Follows where
  inv := h.inv.disconnected
  earlier := h.abort.earlier
  stream := h.abort.stream
  reading := h.abort.reading
  client := fun _ _ hactive => absurd hactive Bool.false_ne_true
  reader := fun _ _ _ => Or.inl rfl
  received := h.abort.received

theorem Follows.send (h : s.Follows) (err : Int) : (s.send err).Follows := by
  cases hexec : s.execution with
  | none =>
      rw [LogSession.send, hexec]
      exact h
  | some execution =>
      obtain ⟨logs, read⟩ := execution
      obtain ⟨t, hcurrent⟩ := h.inv.current_of_execution hexec
      obtain ⟨hactive, hread⟩ := h.reading t hcurrent logs read hexec
      obtain ⟨new, hnew⟩ := streamSend_sent ⟨s.subscribed, err⟩ read s.stream
      have hrun : ({ t with executions := t.executions ++
          [(logs, { subscribed := true, notifyErr := bleGattNotify ⟨s.subscribed, err⟩ })] } :
            LogTransfer).run = (streamSend ⟨s.subscribed, err⟩ read t.run).1 := by
        rw [LogTransfer.run_concat, streamWorkFn_eq, if_neg (not_not.2 hactive), if_neg, hread,
          streamSend_link]
        exact not_not.2 rfl
      have hstream : (streamSend ⟨s.subscribed, err⟩ read s.stream).1 =
            (streamSend ⟨s.subscribed, err⟩ read t.run).1 ∨
          (streamSend ⟨s.subscribed, err⟩ read s.stream).1 =
            bleLogAbort (streamSend ⟨s.subscribed, err⟩ read t.run).1 := by
        rcases h.stream t hcurrent with heq | heq
        · exact Or.inl (by rw [heq])
        · exact Or.inr (by rw [heq, streamSend_abort])
      have hinv := h.inv.send err
      rw [send_eq hexec] at hinv ⊢
      refine ⟨hinv, h.earlier, ?_, ?_, ?_, ?_, ?_⟩
      · intro t' ht'
        simp only [hcurrent, Option.map_some, Option.some.injEq] at ht'
        subst ht'
        rw [hrun]
        exact hstream
      · exact fun _ _ _ _ hne => absurd hne (by simp)
      · intro t' ht' hactive'
        simp only [hcurrent, Option.map_some, Option.some.injEq] at ht'
        subst ht'
        exact h.client t hcurrent (streamSend_active hactive')
      · exact fun _ _ hne => absurd hne (by simp)
      · have hreceived := h.received
        rw [transfers, hcurrent] at hreceived
        simp only [transfers, hcurrent, ← hnew, List.drop_left]
        rcases h.inv.client_of_sent hnew with rfl | ⟨client, hclient⟩
        · cases s.currentConn <;> simpa using hreceived
        · have howner : client = t.client := by
            rcases h.reader t hcurrent (by rw [hexec]; rfl) with hnone | hsome
            · rw [hnone] at hclient
              exact absurd hclient (by simp)
            · rw [hsome] at hclient
              exact (Option.some.inj hclient).symm
          simp [hreceived, hclient, howner]

theorem Follows.start (h : s.Follows) {client : Nat} {buf : List UInt8} {offset : UInt16}
    (hconn : s.currentConn = some client) (hexec : s.execution = none)
    (hstart : s.Starts buf offset) :
    ({ s with
        stream := (bleLogWriteControl s.logs ⟨s.subscribed, 0⟩ buf offset s.stream).2
        scheduled := !s.canceling
        earlier := s.transfers
        current := some
          { client := client, logs := s.logs, request := .ofBytes buf
            executions := [] } } : LogSession).Follows where
  inv := h.inv.start client hstart
  earlier := fun _ ht => h.mem_transfers ht
  stream := fun t ht => by
    obtain ⟨-, -, hop, hid, -⟩ := id hstart
    rw [← Option.some.inj ht, stream_of_starts hstart, bleLogHandleRequest_start hop hid rfl]
    left
    exact (congrArg Prod.snd (bleLogHandleRequest_start hop hid rfl)).symm
  reading := fun _ _ _ _ hne => absurd (hne.symm.trans hexec) (by simp)
  client := fun t ht _ => by
    rw [← Option.some.inj ht]
    exact hconn
  reader := fun _ _ hne => absurd hne (by simp [hexec])
  received := by
    obtain ⟨-, -, hop, hid, -⟩ := id hstart
    rw [stream_of_starts hstart, bleLogHandleRequest_start hop hid rfl, h.received]
    simp [transfers]

theorem Follows.read (h : s.Follows) : s.read.Follows := by
  have hinv := h.inv.read
  rw [LogSession.read] at hinv ⊢
  by_cases hrun : s.execution.isSome = true ∨ ¬ s.scheduled = true
  · rw [if_pos hrun]
    exact h
  rw [if_neg hrun] at hinv ⊢
  by_cases hactive : s.stream.stream.active = true
  · rw [if_neg (not_not.2 hactive)] at hinv ⊢
    by_cases hsub : s.subscribed = true
    · rw [if_neg (not_not.2 hsub)] at hinv ⊢
      refine { h with
        inv := hinv
        reading := fun t ht logs read hread => ?_
        reader := fun t ht _ => Or.inr (h.client t ht hactive) }
      -- An aborted stream is not active, so this one is where the transfer has it.
      have hstream : s.stream = t.run := by
        rcases h.stream t ht with heq | heq
        · exact heq
        · rw [heq] at hactive
          exact absurd hactive Bool.false_ne_true
      obtain ⟨rfl, rfl⟩ := Prod.mk.inj (Option.some.inj hread)
      rw [hstream] at hactive
      exact ⟨hactive, by rw [hstream]⟩
    · rw [if_pos hsub] at hinv ⊢
      exact { h.abort with inv := hinv }
  · rw [if_pos hactive] at hinv ⊢
    exact { h with inv := hinv }

theorem Follows.step (h : s.Follows) {e : LogSessionEvent} (he : s.Undisturbed e) :
    (s.step e).Follows := by
  cases e with
  | connected =>
      have hinv := h.inv.step .connected
      rw [LogSession.step] at hinv ⊢
      by_cases hconn : s.currentConn.isSome = true
      · rw [if_pos hconn]
        exact h
      · rw [if_neg hconn] at hinv ⊢
        have hidle : s.execution = none := he
        refine { h with
          inv := hinv
          client := fun t ht hactive => ?_
          reader := fun _ _ hne => absurd hne (by simp [hidle]) }
        rw [h.client t ht hactive] at hconn
        exact absurd rfl hconn
  | disconnected => exact h.disconnected
  | logDataCcc notify =>
      have hinv := h.inv.step (.logDataCcc notify)
      rw [LogSession.step] at hinv ⊢
      split_ifs at hinv ⊢
      · exact { h with inv := hinv }
      · exact h
  | writeControl buf offset =>
      rw [LogSession.step]
      cases hconn : s.currentConn with
      | none => exact h
      | some client =>
          dsimp only
          rw [writeControl]
          split_ifs with habort hstart
          · exact h.abort
          · exact h.start hconn (he hstart) hstart
          · exact h
  | abort => exact h.abort
  | read => exact h.read
  | send err => exact h.send err
  | setLogs logs => exact { h with inv := h.inv.step (.setLogs logs) }

theorem follows_init (logs : Logs) : (init logs).Follows where
  inv := inv_init logs
  earlier := fun _ ht => absurd ht List.not_mem_nil
  stream := fun _ ht => absurd ht (by simp [init])
  reading := fun _ ht => absurd ht (by simp [init])
  client := fun _ ht => absurd ht (by simp [init])
  reader := fun _ ht => absurd ht (by simp [init])
  received := rfl

/-- In a run in which no client connects and none starts a transfer during the read of an
execution, every chunk reaches the client that asked for it, and the chunks of each transfer are
those of its executions in one piece, each on the logs and with the outcome that it met. -/
theorem log_session_refines (logs : Logs) (events : List LogSessionEvent)
    (h : Run.Along step Undisturbed (init logs) events) :
    let s := Run.final step (init logs) events
    (s.received = s.transfers.flatMap fun t => t.2.map fun c => (t.1.client, c)) ∧
      ∀ t ∈ s.transfers, t.2 = t.1.run.sent := by
  intro s
  have hfollows : s.Follows :=
    Run.final_invariant (fun _ _ h he => h.step he) (follows_init logs) h
  exact ⟨hfollows.received, fun t ht => hfollows.mem_transfers ht⟩

end LogSession

end

namespace LogSession

/-- A client downloads two events, and is cut off during the read that would end the transfer.
The next one starts afresh. -/
def twoClientsRun : List LogSessionEvent :=
  [.connected, .logDataCcc true, .writeControl allEvents.toBytes 0, .read, .send 0, .read,
    .disconnected, .send 0, .connected, .logDataCcc true,
    .writeControl { allEvents with startSeq := 2 }.toBytes 0, .read, .send (-ENOMEM), .read, .send 0]

theorem log_session_refines_two_clients :
    let s := Run.final step (init twoEvents) twoClientsRun
    (s.received = s.transfers.flatMap fun t => t.2.map fun c => (t.1.client, c)) ∧
      ∀ t ∈ s.transfers, t.2 = t.1.run.sent := by
  have h := log_session_refines twoEvents twoClientsRun (by decide +kernel)
  exact h

/-- A client that starts over while its first request is being read is sent what the first one
asked for under the numbers of the second. -/
theorem start_during_read_mislabels :
    let s := Run.final step (init twoEvents)
      [.connected, .logDataCcc true, .writeControl allEvents.toBytes 0, .read,
        .writeControl { allEvents with startSeq := 2 }.toBytes 0, .send 0]
    ¬ ∀ t ∈ s.transfers, t.2 = t.1.run.sent := by
  decide +kernel

end LogSession

end SmartTag
