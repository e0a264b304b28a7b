import Mathlib.Algebra.Order.BigOperators.Group.List
import SmartTag.Ble.LogStream
import SmartTag.Ble.Transfer
import SmartTag.Storage.History

/-!
# Downloads of a log that does not change

While its log does not change, the stream is a transfer of the chunks that it finds there one after
another (`Downloads`), one execution of `stream_work_fn` a step of it. On a log whose records are a
span from the tail, those chunks are the retained records from the requested number on. Where a slot
among them does not check, the next chunk can start before the end of the last one.

* `Downloads.step`, `Downloads.run`: the simulation.
* `Span.offered`: what is found on a span.
* `download_complete`: a download without refused notifications is complete and bounded.
* `back_pressure_transparent_iff`: after refused notifications, the same records arrive exactly
  when the limit leaves room for those of the refused chunks.
-/

namespace SmartTag

/-! ## Chunks -/

theorem chunkCapacity_mul_le (logId : UInt8) :
    chunkCapacity logId * recordSize logId ≤ chunkPayloadMax := Nat.div_mul_le_self _ _

/-- One more chunk, numbered after the ones before it. -/
theorem indices_append {sent : List Chunk} {c : Chunk}
    (h : sent.map (fun c => c.header.chunkIndex) = (List.range sent.length).map u16)
    (hc : c.header.chunkIndex = u16 sent.length) :
    (sent ++ [c]).map (fun c => c.header.chunkIndex) =
      (List.range (sent ++ [c]).length).map u16 := by
  rw [List.map_append, h, List.length_append, List.length_singleton, List.range_succ,
    List.map_append, List.map_singleton, List.map_singleton, hc]

/-- The records that have arrived. -/
def LogStream.delivered (s : LogStream) : List (List UInt8) := s.sent.flatMap Chunk.payload

/-! ## Requests -/

/-- The records a request asks for: those retained with a number from `startSeq` on. -/
def requested (hist : List (List UInt8)) (lo : Nat) (request : BleLogRequest) :
    List (List UInt8) :=
  (hist.drop lo).drop (request.startSeq.toNat - (lo + 1))

/-- Counting from the start of the request, the records of a limit are a slice. -/
theorem take_requested {hist : List (List UInt8)} {lo : Nat} {request : BleLogRequest}
    (hold : lo + 1 ≤ request.startSeq.toNat ∨ lo = hist.length) (limit : Nat) :
    (requested hist lo request).take limit =
      ((retained hist lo).filter fun p => decide (request.startSeq.toNat ≤ p.2 ∧
        p.2 < request.startSeq.toNat + limit)).map Prod.fst := by
  rw [requested, retained_eq]
  rcases hold with hold | rfl
  · rw [Numbered.filter_between _ hold, List.map_take, List.map_drop, Numbered.map_fst]
  · simp

section

variable [Crc16]

/-! ## Runs -/

/-- A subscribed client whose notification is accepted, or refused for lack of buffers. -/
def linkOf (accepted : Bool) : Link where
  subscribed := true
  notifyErr := if accepted then 0 else -ENOMEM

/-- The stream after a pattern of executions on logs that do not change. -/
def streamRun (logs : Logs) (s : LogStream) (pattern : List Bool) : LogStream :=
  Run.final (fun s accepted => streamWorkFn logs (linkOf accepted) s) s pattern

/-- How many records a request allows. -/
def limitOf (logs : Logs) (request : BleLogRequest) : Nat :=
  if request.maxRecords = 0 then (flashLogGetInfo (logs.get request.logId)).recordCount
  else request.maxRecords.toNat

/-! ## What the stream finds -/

/-- The records of a full chunk from `startSeq` on. -/
def chunkFrom (logs : Logs) (logId : UInt8) (startSeq : Nat) : List (List UInt8) :=
  (readRecords logs logId startSeq (chunkCapacity logId)).toOption.getD []

/-- The chunks found one after another, `n` of them at most. The next one starts as many numbers
further on as the one before it has records. -/
def offered (logs : Logs) (logId : UInt8) : Nat → Nat → List (List (List UInt8))
  | 0, _ => []
  | n + 1, startSeq =>
    let chunk := chunkFrom logs logId startSeq
    if chunk = [] then [] else chunk :: offered logs logId n (u32 (startSeq + chunk.length))

theorem offered_filled (logs : Logs) (logId : UInt8) (n startSeq : Nat) :
    ∀ c ∈ offered logs logId n startSeq, c ≠ [] := by
  induction n generalizing startSeq with
  | zero => exact fun c hc => absurd hc List.not_mem_nil
  | succ n ih =>
      intro c hc
      rw [offered] at hc
      split_ifs at hc with hnil
      · exact absurd hc List.not_mem_nil
      · rcases List.mem_cons.1 hc with rfl | hc
        · exact hnil
        · exact ih _ c hc

theorem headD_offered (logs : Logs) (logId : UInt8) (n startSeq : Nat) :
    (offered logs logId (n + 1) startSeq).headD [] = chunkFrom logs logId startSeq := by
  rw [offered]
  split_ifs with hnil
  · exact hnil.symm
  · rfl

theorem tail_offered {logs : Logs} {logId : UInt8} {n startSeq : Nat}
    (h : chunkFrom logs logId startSeq ≠ []) :
    (offered logs logId (n + 1) startSeq).tail =
      offered logs logId n (u32 (startSeq + (chunkFrom logs logId startSeq).length)) := by
  rw [offered, if_neg h]
  rfl

/-- The limit cuts the chunk. -/
theorem LogStream.payload_found (s : LogStream) (logs : Logs) :
    ((s.found logs).map fun slot => slot.payload.take (logs.get s.stream.logId).payloadSize) =
      (chunkFrom logs s.stream.logId s.stream.nextSeq).take s.stream.remaining := by
  rw [chunkFrom, readRecords_eq, found]
  by_cases hready : (logs.get s.stream.logId).ready = true
  · rw [if_pos hready, foundSlots, foundSlots, if_pos hready, if_pos hready, readSlots_eq,
      readSlots_eq, ← List.take_take, List.map_take]
    rfl
  · rw [if_neg hready, foundSlots, if_neg hready]
    exact List.take_nil.symm

/-! ## The simulation -/

/-- The stream is at the same point as the transfer. -/
structure Downloads (logs : Logs) (logId : UInt8) (s : LogStream)
    (t : Transfer (List UInt8)) : Prop where
  active : s.stream.active = t.active
  remaining : s.stream.remaining = t.remaining
  ofLog : s.stream.logId = logId
  todo : s.stream.active = true →
    ∃ n, s.stream.remaining ≤ n ∧ t.todo = offered logs logId n s.stream.nextSeq
  sent : s.sent.map (fun c => (c.payload, c.isLast)) = t.sent
  index : s.stream.active = true → s.stream.chunkIndex = u16 s.sent.length
  indices : s.sent.map (fun c => c.header.chunkIndex) = (List.range s.sent.length).map u16

variable {logId : UInt8} {logs : Logs} {s : LogStream} {t : Transfer (List UInt8)}

theorem Downloads.delivered (h : Downloads logs logId s t) : s.delivered = t.delivered := by
  rw [LogStream.delivered, Transfer.delivered, ← h.sent, List.flatMap_map]

/-- The records the next execution finds are the transfer's next chunk. -/
theorem Downloads.payload_found (h : Downloads logs logId s t)
    (hactive : s.stream.active = true) :
    ((s.found logs).map fun slot => slot.payload.take (logs.get s.stream.logId).payloadSize) =
      t.chunk := by
  obtain ⟨n, hn, htodo⟩ := h.todo hactive
  rw [s.payload_found, Transfer.chunk, htodo, h.ofLog, ← h.remaining]
  cases n with
  | zero => rw [Nat.le_zero.1 hn, List.take_zero, List.take_zero]
  | succ n => rw [headD_offered]

theorem Downloads.length_found (h : Downloads logs logId s t) (hactive : s.stream.active = true) :
    (s.found logs).length = t.chunk.length := by
  rw [← h.payload_found hactive, List.length_map]

theorem Downloads.chunk_eq_nil_iff (h : Downloads logs logId s t)
    (hactive : s.stream.active = true) : t.chunk = [] ↔ s.found logs = [] := by
  rw [← List.length_eq_zero_iff, ← h.length_found hactive, List.length_eq_zero_iff]

/-- Nothing is left: the end is sent, if the link takes it. -/
theorem Downloads.ended (h : Downloads logs logId s t) (hactive : s.stream.active = true)
    (hf : s.found logs = []) (accepted : Bool) :
    Downloads logs logId (streamWorkFn logs (linkOf accepted) s) (t.step accepted) := by
  have hc := (h.chunk_eq_nil_iff hactive).2 hf
  rw [streamWorkFn_end hactive rfl hf, Transfer.step_end (h.active.symm.trans hactive) hc]
  cases accepted with
  | true =>
      refine ⟨rfl, h.remaining, h.ofLog, nofun, ?_, nofun,
        indices_append h.indices (h.index hactive)⟩
      rw [if_pos rfl, ← h.sent]
      exact List.map_append
  | false => exact ⟨rfl, h.remaining, h.ofLog, nofun, h.sent, nofun, h.indices⟩

/-- A stream that goes on after a chunk has sent a full one. -/
theorem Downloads.todo_accepted (h : Downloads logs logId s t) (hactive : s.stream.active = true)
    (hf : s.found logs ≠ []) (hleft : s.left logs ≠ 0) :
    ∃ n, s.left logs ≤ n ∧
      t.todo.tail = offered logs logId n (u32 (s.stream.nextSeq + (s.found logs).length)) := by
  obtain ⟨n, hn, htodo⟩ := h.todo hactive
  have hpos := List.length_pos_iff.2 hf
  have hfound := congrArg List.length (s.payload_found logs)
  rw [List.length_map, List.length_take, h.ofLog] at hfound
  rw [LogStream.left] at hleft ⊢
  cases n with
  | zero => omega
  | succ n =>
      have hfull : (s.found logs).length = (chunkFrom logs logId s.stream.nextSeq).length := by
        omega
      refine ⟨n, by omega, ?_⟩
      rw [htodo, hfull, tail_offered]
      exact List.length_pos_iff.1 (hfull ▸ hpos)

/-- A chunk the link takes: the stream moves on past its records. -/
theorem Downloads.accepted (h : Downloads logs logId s t) (hactive : s.stream.active = true)
    (hf : s.found logs ≠ []) :
    Downloads logs logId (streamWorkFn logs (linkOf true) s) (t.step true) := by
  have hc : t.chunk ≠ [] := fun hc => hf ((h.chunk_eq_nil_iff hactive).1 hc)
  rw [streamWorkFn_accepted hactive rfl rfl hf,
    Transfer.step_accepted (h.active.symm.trans hactive) hc]
  have hleft : s.left logs = t.remaining - t.chunk.length := by
    rw [LogStream.left, h.length_found hactive, h.remaining]
  refine ⟨?_, hleft, h.ofLog, fun hon => ?_, ?_, fun _ => ?_, ?_⟩
  · rw [hleft]
    rfl
  · exact h.todo_accepted hactive hf (of_decide_eq_true hon)
  · have hpay := h.payload_found hactive
    show (s.sent ++ [s.dataChunk logs]).map _ = _
    rw [List.map_append, h.sent, Transfer.accept, ← hpay]
    refine congrArg (fun c => t.sent ++ [c]) (Prod.ext rfl ?_)
    show (s.dataChunk logs).isLast = _
    rw [hpay, ← hleft]
    by_cases hz : s.left logs = 0 <;>
      simp [Chunk.isLast, LogStream.dataChunk, hz, bleLogChunkFlagLast]
  · show u16 (s.stream.chunkIndex + 1) = u16 (s.sent ++ [s.dataChunk logs]).length
    rw [h.index hactive, List.length_append, List.length_singleton, u16, u16, u16,
      Nat.mod_add_mod]
  · exact indices_append h.indices (h.index hactive)

/-- A chunk the link refuses: its records are taken off the limit. -/
theorem Downloads.refused (h : Downloads logs logId s t) (hactive : s.stream.active = true)
    (hf : s.found logs ≠ []) :
    Downloads logs logId (streamWorkFn logs (linkOf false) s) (t.step false) := by
  have hc : t.chunk ≠ [] := fun hc => hf ((h.chunk_eq_nil_iff hactive).1 hc)
  rw [streamWorkFn_refused hactive rfl rfl hf,
    Transfer.step_refused (h.active.symm.trans hactive) hc]
  refine ⟨h.active, ?_, h.ofLog, fun _ => ?_, h.sent, h.index, h.indices⟩
  · show s.stream.remaining - (s.found logs).length = _
    rw [h.length_found hactive, h.remaining]
    rfl
  · obtain ⟨n, hn, htodo⟩ := h.todo hactive
    exact ⟨n, (Nat.sub_le _ _).trans hn, htodo⟩

/-- An execution is a step of the transfer. -/
theorem Downloads.step (h : Downloads logs logId s t) (accepted : Bool) :
    Downloads logs logId (streamWorkFn logs (linkOf accepted) s) (t.step accepted) := by
  by_cases hactive : s.stream.active = true
  · by_cases hf : s.found logs = []
    · exact h.ended hactive hf accepted
    · cases accepted with
      | true => exact h.accepted hactive hf
      | false => exact h.refused hactive hf
  · have hidle : s.stream.active = false := by simpa using hactive
    rw [streamWorkFn_idle hidle, Transfer.step_idle (h.active.symm.trans hidle)]
    exact h

theorem Downloads.run (h : Downloads logs logId s t) (pattern : List Bool) :
    Downloads logs logId (streamRun logs s pattern) (t.run pattern) := by
  induction pattern generalizing s t with
  | nil => exact h
  | cons accepted pattern ih => exact ih (h.step accepted)

/-- An accepted START begins the transfer of what there is from the requested number on. -/
theorem downloads_start (logs : Logs) (s : LogStream) {request : BleLogRequest} {link : Link}
    (hop : request.opcode = bleLogOpStart) (hid : request.logId ≤ bleLogIdSensor)
    (hsub : link.subscribed = true) :
    Downloads logs request.logId (bleLogHandleRequest logs link request s).2
      (Transfer.start (offered logs request.logId (limitOf logs request) request.startSeq.toNat)
        (offered_filled _ _ _ _) (limitOf logs request)) := by
  rw [bleLogHandleRequest_start hop hid hsub]
  exact ⟨rfl, rfl, rfl, fun _ => ⟨_, le_rfl, rfl⟩, rfl, fun _ => rfl, rfl⟩

/-! ## Every chunk -/

/-- What holds of every chunk that can be sent from the log holds of those that are. -/
theorem Downloads.forall_sent_run {P : Chunk → Prop} (h : Downloads logs logId s t)
    (hend : ∀ s : LogStream, P s.endChunk)
    (hdata : ∀ s : LogStream, s.stream.logId = logId → P (s.dataChunk logs))
    (hsent : ∀ c ∈ s.sent, P c) (pattern : List Bool) :
    ∀ c ∈ (streamRun logs s pattern).sent, P c := by
  have hmore : ∀ (s : LogStream) (c : Chunk), (∀ c' ∈ s.sent, P c') → P c →
      ∀ c' ∈ s.sent ++ [c], P c' := by
    intro s c hsent hc c' hmem
    rcases List.mem_append.1 hmem with hmem | hmem
    · exact hsent c' hmem
    · rw [List.mem_singleton.1 hmem]
      exact hc
  induction pattern generalizing s t with
  | nil => exact hsent
  | cons accepted pattern ih =>
      refine ih (h.step accepted) ?_
      show ∀ c ∈ (streamWorkFn logs (linkOf accepted) s).sent, P c
      by_cases hactive : s.stream.active = true
      · by_cases hf : s.found logs = []
        · rw [streamWorkFn_end hactive rfl hf]
          cases accepted with
          | true => exact hmore s _ hsent (hend s)
          | false => exact hsent
        · cases accepted with
          | true =>
              rw [streamWorkFn_accepted hactive rfl rfl hf]
              exact hmore s _ hsent (hdata s h.ofLog)
          | false =>
              rw [streamWorkFn_refused hactive rfl rfl hf]
              exact hsent
      · have hidle : s.stream.active = false := by simpa using hactive
        rw [streamWorkFn_idle hidle]
        exact hsent

/-- The records found fit into a chunk. -/
theorem LogStream.small_dataChunk (s : LogStream)
    (hsize : (logs.get s.stream.logId).payloadSize = recordSize s.stream.logId) :
    (s.dataChunk logs).payload.flatten.length ≤ chunkPayloadMax := by
  have hrecords : ∀ n ∈ (s.dataChunk logs).payload.map List.length,
      n ≤ recordSize s.stream.logId := by
    intro n hn
    obtain ⟨r, hr, rfl⟩ := List.mem_map.1 hn
    obtain ⟨slot, -, rfl⟩ := List.mem_map.1 hr
    exact hsize ▸ List.length_take_le _ _
  have hcount : (s.dataChunk logs).payload.length = (s.found logs).length := List.length_map _
  rw [List.length_flatten]
  refine (List.sum_le_card_nsmul _ _ hrecords).trans ?_
  rw [List.length_map, hcount]
  exact (Nat.mul_le_mul_right _ (s.length_found_le logs).2).trans (chunkCapacity_mul_le _)

/-! ## On a span -/

section

variable {L : Layout} {hist : List (List UInt8)} {lo : Nat}

theorem Span.chunkFrom (h : Span L hist lo (logs.get logId))
    (hsized : ∀ r ∈ hist, r.length = (logs.get logId).payloadSize) (startSeq : Nat) :
    chunkFrom logs logId startSeq =
      ((hist.drop lo).drop (startSeq - (lo + 1))).take (chunkCapacity logId) := by
  rw [SmartTag.chunkFrom, readRecords, h.flashLogRead hsized, retained_eq, Numbered.filter_ge,
    List.map_take, List.map_drop, Numbered.map_fst]
  rfl

/-- The chunks found are the retained records from the number on. -/
theorem Span.offered (h : Span L hist lo (logs.get logId))
    (hsized : ∀ r ∈ hist, r.length = (logs.get logId).payloadSize) (n : Nat) {startSeq : Nat}
    (hold : lo + 1 ≤ startSeq ∨ lo = hist.length) :
    (offered logs logId n startSeq).flatten.take n =
      ((hist.drop lo).drop (startSeq - (lo + 1))).take n := by
  induction n generalizing startSeq with
  | zero => rfl
  | succ n ih =>
      have hchunk := h.chunkFrom hsized startSeq
      have hlen := congrArg List.length hchunk
      rw [List.length_take, List.length_drop, List.length_drop] at hlen
      have hcap := chunkCapacity_pos logId
      have hnum := h.numbered
      rw [SmartTag.offered]
      generalize SmartTag.chunkFrom logs logId startSeq = chunk at hchunk hlen ⊢
      split_ifs with hnil
      · rw [hnil, List.length_nil] at hlen
        rw [List.drop_eq_nil_of_le (by rw [List.length_drop]; omega)]
        rfl
      · have hpos := List.length_pos_iff.2 hnil
        have hnext : u32 (startSeq + chunk.length) = startSeq + chunk.length :=
          u32_of_lt (by omega)
        have hold' : lo + 1 ≤ startSeq + chunk.length ∨ lo = hist.length := Or.inl (by omega)
        have hrest := congrArg (List.take (n + 1 - chunk.length)) (ih hold')
        rw [List.take_take, List.take_take, Nat.min_eq_left (by omega)] at hrest
        have hsplit : chunk ++ (hist.drop lo).drop (startSeq + chunk.length - (lo + 1)) =
            (hist.drop lo).drop (startSeq - (lo + 1)) := by
          rw [show startSeq + chunk.length - (lo + 1) = startSeq - (lo + 1) + chunk.length by omega,
            ← List.drop_drop]
          refine List.prefix_iff_eq_append.1 ?_
          rw [hchunk]
          exact List.take_prefix _ _
        rw [hnext, List.flatten_cons, List.take_append, hrest, ← List.take_append, hsplit]

theorem Span.recordCount {log : FlashLog} (h : Span L hist lo log) :
    (flashLogGetInfo log).recordCount = hist.length - lo := by
  rw [flashLogGetInfo, if_neg (by rw [h.ready]; simp)]
  exact h.used

/-- A download from a log whose records `lo + 1, …, hist.length` follow one another, all
notifications accepted: after more executions than the limit, the stream is inactive and the
chunks hold exactly the records from the requested number on, within the limit. -/
theorem download_complete (logs : Logs) (link : Link) (request : BleLogRequest) (s : LogStream)
    (L : Layout) (hist : List (List UInt8)) (lo m : Nat)
    (hspan : Span L hist lo (logs.get request.logId))
    (hsize : (logs.get request.logId).payloadSize = recordSize request.logId)
    (hsized : ∀ r ∈ hist, r.length = recordSize request.logId)
    (hop : request.opcode = bleLogOpStart) (hid : request.logId ≤ bleLogIdSensor)
    (hsub : link.subscribed = true)
    (hold : lo + 1 ≤ request.startSeq.toNat ∨ lo = hist.length)
    (hm : limitOf logs request < m) :
    let start := request.startSeq.toNat
    let limit := if request.maxRecords = 0 then hist.length - lo else request.maxRecords.toNat
    let final := streamRun logs (bleLogHandleRequest logs link request s).2
      (List.replicate m true)
    limitOf logs request = limit ∧
      final.stream.active = false ∧
      final.delivered = ((retained hist lo).filter fun p =>
        decide (start ≤ p.2 ∧ p.2 < start + limit)).map Prod.fst ∧
      (final.sent.length ≤ 65536 →
        final.sent.map (fun c => c.header.chunkIndex) = List.range final.sent.length) ∧
      (∃ body c, final.sent = body ++ [c] ∧ c.isLast = true ∧ ∀ b ∈ body, b.isLast = false) ∧
      ∀ c ∈ final.sent, c.payload.flatten.length ≤ chunkPayloadMax := by
  intro start limit final
  have hsized' : ∀ r ∈ hist, r.length = (logs.get request.logId).payloadSize := by
    intro r hr
    rw [hsized r hr, hsize]
  have hlimit : limitOf logs request = limit := by
    rw [limitOf, hspan.recordCount]
  have hstart := downloads_start logs s hop hid hsub
  have hrun := hstart.run (List.replicate m true)
  obtain ⟨hidle, hdel, body, c, hsent, hlast, hbody⟩ := Transfer.run_accepted
    (t := Transfer.start (offered logs request.logId (limitOf logs request) request.startSeq.toNat)
      (offered_filled _ _ _ _) (limitOf logs request)) rfl nofun hm
  have hsmall : ∀ c ∈ final.sent, c.payload.flatten.length ≤ chunkPayloadMax := by
    refine hstart.forall_sent_run (fun s => Nat.zero_le _) (fun s hs => ?_) ?_ _
    · exact s.small_dataChunk (by rw [hs, hsize])
    · rw [bleLogHandleRequest_start hop hid hsub]
      exact nofun
  refine ⟨hlimit, hrun.active.trans hidle, ?_, fun hshort => ?_, ?_, hsmall⟩
  · rw [← take_requested hold, ← hlimit, hrun.delivered, hdel]
    exact hspan.offered hsized' _ hold
  · refine Eq.trans hrun.indices ((List.map_congr_left fun i hi => ?_).trans (List.map_id _))
    have hi : i < final.sent.length := List.mem_range.1 hi
    exact u16_of_lt (by omega)
  · -- The flags are those of the transfer's chunks.
    have hflags := hrun.sent.trans hsent
    obtain ⟨xs, ys, hfinal, hxs, hys⟩ := List.map_eq_append_iff.1 hflags
    obtain ⟨y, rfl, hy⟩ := List.map_eq_singleton_iff.1 hys
    refine ⟨xs, y, hfinal, ?_, fun b hb => ?_⟩
    · rw [← hlast, ← hy]
    · exact hbody _ (by rw [← hxs]; exact List.mem_map_of_mem hb)

end

/-- On any log, any pattern of refused notifications, followed by accepted ones to the end: the
same records arrive as without refusals exactly when what the refused chunks use up fits in the
part of the limit beyond the records that there are. -/
theorem back_pressure_transparent_iff (logs : Logs) (link : Link) (request : BleLogRequest)
    (s : LogStream) (m : Nat) (pattern : List Bool) (hop : request.opcode = bleLogOpStart)
    (hid : request.logId ≤ bleLogIdSensor) (hsub : link.subscribed = true)
    (hm : limitOf logs request < m) :
    let begun := (bleLogHandleRequest logs link request s).2
    let limit := limitOf logs request
    let chunks := offered logs request.logId limit request.startSeq.toNat
    let available := chunks.flatten.length
    (streamRun logs begun (pattern ++ List.replicate m true)).delivered =
        (streamRun logs begun (List.replicate m true)).delivered ↔
      Transfer.refused (min limit available) chunks pattern ≤ limit - available := by
  intro begun limit chunks available
  have hstart := downloads_start logs s hop hid hsub
  have hfull := Transfer.run_accepted
    (t := Transfer.start chunks (offered_filled _ _ _ _) limit) rfl nofun hm
  rw [(hstart.run _).delivered, (hstart.run _).delivered, hfull.2.1]
  exact Transfer.delivered_eq_iff rfl (fun c hc => absurd hc List.not_mem_nil) hm pattern

end

/-! ## A log of two events -/

/-- The logs of a tag with two events and no sensor history. -/
def twoEvents : Logs where
  event :=
    (flashLogAppend (flashLogAppend (flashLogInit (FlashLog.declare 8 oneSector.blankArea)).2
      [1, 1, 1, 1, 1, 1, 1, 1]).2 [2, 2, 2, 2, 2, 2, 2, 2]).2
  sensor := FlashLog.declare 17 oneSector.blankArea

theorem span_twoEvents :
    Span oneSector [[1, 1, 1, 1, 1, 1, 1, 1], [2, 2, 2, 2, 2, 2, 2, 2]] 0
      (twoEvents.get bleLogIdEvent) := by
  obtain ⟨-, h0, hres0, -⟩ := oneSector.refines_blank (show 0 < 8 by decide) (by decide)
  obtain ⟨-, h1, hres1⟩ := h0.flashLogAppend hres0 (by decide) [1, 1, 1, 1, 1, 1, 1, 1]
  obtain ⟨-, h2, -⟩ := h1.flashLogAppend hres1 (by decide) [2, 2, 2, 2, 2, 2, 2, 2]
  exact h2.toSpan

/-- START for all events from number 1 on. -/
def allEvents : BleLogRequest where
  opcode := bleLogOpStart
  logId := bleLogIdEvent
  startSeq := 1
  maxRecords := 0

theorem download_complete_two_events :
    (streamRun twoEvents (bleLogHandleRequest twoEvents (linkOf true) allEvents
      ⟨⟨false, 0, 0, 0, 0⟩, []⟩).2 (List.replicate 3 true)).delivered =
      [[1, 1, 1, 1, 1, 1, 1, 1], [2, 2, 2, 2, 2, 2, 2, 2]] :=
  (download_complete twoEvents (linkOf true) allEvents ⟨⟨false, 0, 0, 0, 0⟩, []⟩ oneSector _ 0 3
    span_twoEvents rfl (by decide) rfl (by decide) rfl (Or.inl (by decide))
    (by decide +kernel)).2.2.1.trans (by decide)

/-- The one chunk is refused once. Its records count as sent, and the retry sends none. -/
theorem back_pressure_loses_records :
    let begun := (bleLogHandleRequest twoEvents (linkOf true) allEvents
      ⟨⟨false, 0, 0, 0, 0⟩, []⟩).2
    (streamRun twoEvents begun (List.replicate 3 true)).delivered =
        [[1, 1, 1, 1, 1, 1, 1, 1], [2, 2, 2, 2, 2, 2, 2, 2]] ∧
      (streamRun twoEvents begun ([false] ++ List.replicate 3 true)).delivered = [] := by
  decide +kernel

/-- With room in the limit for the refused chunk, both records arrive. -/
theorem back_pressure_transparent_two_events :
    (streamRun twoEvents (bleLogHandleRequest twoEvents (linkOf true)
        { allEvents with maxRecords := 4 } ⟨⟨false, 0, 0, 0, 0⟩, []⟩).2
        ([false] ++ List.replicate 5 true)).delivered =
      (streamRun twoEvents (bleLogHandleRequest twoEvents (linkOf true)
        { allEvents with maxRecords := 4 } ⟨⟨false, 0, 0, 0, 0⟩, []⟩).2
        (List.replicate 5 true)).delivered :=
  (back_pressure_transparent_iff twoEvents (linkOf true) { allEvents with maxRecords := 4 }
    ⟨⟨false, 0, 0, 0, 0⟩, []⟩ 5 [false] rfl (by decide) rfl (by decide)).2 (by decide +kernel)

end SmartTag
