import SmartTag.Ble.Download

/-!
# Chunk headers and the last flag

Downloads of a log that changes between the executions of `stream_work_fn`: each execution meets
logs of its own.

* `chunk_headers_truthful_iff`: the numbers in the headers are those of the records, and no
  record is sent twice, as long as the stream is never behind the oldest record.
* `last_flag_iff`: a transfer that has ended was flagged, unless the terminating chunk was
  refused.
-/

namespace SmartTag

/-! ## Sequence numbers -/

/-- Fewer than `2 ^ 32` numbers in a row are all different, also across the wrap. -/
theorem nodup_u32_range (start : Nat) {n : Nat} (hn : n ≤ 2 ^ 32) :
    ((List.range n).map fun i => u32 (start + i)).Nodup := by
  refine List.Nodup.map_on (fun i hi j hj hij => ?_) List.nodup_range
  have hi := List.mem_range.1 hi
  have hj := List.mem_range.1 hj
  simp only [u32] at hij
  omega

theorem pairwise_disjoint_of_nodup {sent : List Chunk} (h : (sent.flatMap Chunk.seqs).Nodup) :
    sent.Pairwise fun c d => c.seqs.Disjoint d.seqs := (List.nodup_flatMap.1 h).2

/-- Every data chunk names the number of its first record, and no record is in two chunks. -/
def LogStream.Truthful (s : LogStream) : Prop :=
  (∀ c ∈ s.sent, 0 < c.header.recordCount → c.seqs.head? = some c.header.firstSeq) ∧
    s.sent.Pairwise fun c d => c.seqs.Disjoint d.seqs

/-- A stream whose chunks hold the records numbered `start`, `start + 1`, … so far. -/
structure Sequential (logId : UInt8) (start limit : Nat) (s : LogStream) : Prop where
  logId : s.stream.logId = logId
  truthful : ∀ c ∈ s.sent, 0 < c.header.recordCount → c.seqs.head? = some c.header.firstSeq
  seqs : s.sent.flatMap Chunk.seqs =
    (List.range (s.sent.flatMap Chunk.seqs).length).map fun i => u32 (start + i)
  next : s.stream.active = true →
    s.stream.nextSeq = u32 (start + (s.sent.flatMap Chunk.seqs).length)
  bounded : (s.sent.flatMap Chunk.seqs).length + s.stream.remaining ≤ limit

theorem Sequential.good {logId : UInt8} {start limit : Nat} {s : LogStream}
    (h : Sequential logId start limit s) (hlimit : limit < 2 ^ 32) :
    s.Truthful := by
  refine ⟨h.truthful, pairwise_disjoint_of_nodup ?_⟩
  have hb := h.bounded
  rw [h.seqs]
  exact nodup_u32_range start (by omega)

theorem Sequential.ended {logId : UInt8} {start limit : Nat} {s : LogStream}
    (h : Sequential logId start limit s) :
    Sequential logId start limit
      { stream := { s.stream with active := false }, sent := s.sent ++ [s.endChunk] } := by
  have hseqs : (s.sent ++ [s.endChunk]).flatMap Chunk.seqs = s.sent.flatMap Chunk.seqs := by
    simp [LogStream.endChunk]
  refine ⟨h.logId, fun c hc hpos => ?_, ?_, fun hne => absurd hne (by simp), ?_⟩
  · rcases List.mem_append.1 hc with hc | hc
    · exact h.truthful c hc hpos
    · rw [List.mem_singleton.1 hc] at hpos
      exact absurd hpos (lt_irrefl 0)
  · simp only [hseqs]
    exact h.seqs
  · simp only [hseqs]
    exact h.bounded

section

variable [Crc16]

/-! ## Truthful headers -/

/-- One execution on the logs as they are then, its notification accepted. -/
def streamOn (s : LogStream) (logs : Logs) : LogStream := streamWorkFn logs (linkOf true) s

/-- The records found are numbered one after another from `next_seq` on. -/
def LogStream.InStep (s : LogStream) (logs : Logs) : Prop :=
  (s.found logs).map (fun slot => slot.seq.toNat) =
    List.range' s.stream.nextSeq (s.found logs).length

/-- If there is anything to send, the stream is not behind the oldest record. -/
def LogStream.NotOvertaken (s : LogStream) (logs : Logs) : Prop :=
  s.found logs = [] ∨
    (flashLogGetInfo (logs.get s.stream.logId)).oldestSeq ≤ s.stream.nextSeq

instance (s : LogStream) (logs : Logs) : Decidable (s.InStep logs) :=
  inferInstanceAs (Decidable (_ = _))

instance (s : LogStream) (logs : Logs) : Decidable (s.NotOvertaken logs) :=
  inferInstanceAs (Decidable (_ ∨ _))

variable {logId : UInt8} {start limit : Nat} {s : LogStream} {logs : Logs}

/-- The numbers of records in step continue the sequence. -/
theorem Sequential.seqs_found (h : Sequential logId start limit s)
    (hactive : s.stream.active = true) (hin : s.InStep logs) :
    (s.found logs).map (fun slot => slot.seq.toNat) =
      (List.range (s.found logs).length).map fun i =>
        u32 (start + ((s.sent.flatMap Chunk.seqs).length + i)) := by
  have hnext := h.next hactive
  rw [u32] at hnext
  rw [hin, List.range'_eq_map_range]
  refine List.map_congr_left fun i hi => ?_
  -- The record is on flash under this number, so the number has not wrapped.
  have hlt : s.stream.nextSeq + i < 2 ^ 32 := by
    have hmem : s.stream.nextSeq + i ∈ (s.found logs).map fun slot => slot.seq.toNat := by
      rw [hin]
      have := List.mem_range.1 hi
      exact List.mem_range'_1.2 (by omega)
    obtain ⟨slot, -, hslot⟩ := List.mem_map.1 hmem
    rw [← hslot]
    exact slot.seq.toNat_lt
  rw [u32]
  omega

theorem Sequential.extended (h : Sequential logId start limit s)
    (hactive : s.stream.active = true) (hf : s.found logs ≠ []) (hin : s.InStep logs) :
    Sequential logId start limit
      { stream := { s.stream with
          active := decide (s.left logs ≠ 0)
          remaining := s.left logs
          chunkIndex := u16 (s.stream.chunkIndex + 1)
          nextSeq := u32 (s.stream.nextSeq + (s.found logs).length) }
        sent := s.sent ++ [s.dataChunk logs] } := by
  have hpos := List.length_pos_iff.2 hf
  have hnext := h.next hactive
  have hle := (s.length_found_le logs).1
  have hb := h.bounded
  have hseqs : (s.sent ++ [s.dataChunk logs]).flatMap Chunk.seqs =
      s.sent.flatMap Chunk.seqs ++ (s.found logs).map fun slot => slot.seq.toNat := by
    rw [List.flatMap_append, List.flatMap_singleton]
    rfl
  have hlen : ((s.sent ++ [s.dataChunk logs]).flatMap Chunk.seqs).length =
      (s.sent.flatMap Chunk.seqs).length + (s.found logs).length := by
    rw [hseqs, List.length_append, List.length_map]
  refine ⟨h.logId, fun c hc hcount => ?_, ?_, fun _ => ?_, ?_⟩
  · rcases List.mem_append.1 hc with hc | hc
    · exact h.truthful c hc hcount
    · rw [List.mem_singleton.1 hc]
      show ((s.found logs).map fun slot => slot.seq.toNat).head? = some s.stream.nextSeq
      rw [hin]
      cases hg : (s.found logs).length with
      | zero => omega
      | succ g => rfl
  · show (s.sent ++ [s.dataChunk logs]).flatMap Chunk.seqs = _
    rw [hlen, hseqs, List.range_add, List.map_append, ← h.seqs, List.map_map,
      h.seqs_found hactive hin]
    rfl
  · show u32 (s.stream.nextSeq + (s.found logs).length) = _
    rw [hlen, hnext, u32, u32, u32]
    omega
  · show ((s.sent ++ [s.dataChunk logs]).flatMap Chunk.seqs).length + s.left logs ≤ limit
    rw [hlen, LogStream.left]
    omega

/-- An execution in step extends the sequence. -/
theorem Sequential.step (h : Sequential logId start limit s)
    (hin : s.stream.active = true → s.InStep logs) :
    Sequential logId start limit (streamOn s logs) := by
  by_cases hactive : s.stream.active = true
  · by_cases hf : s.found logs = []
    · rw [streamOn, streamWorkFn_end hactive rfl hf]
      exact h.ended
    · rw [streamOn, streamWorkFn_accepted hactive rfl rfl hf]
      exact h.extended hactive hf (hin hactive)
  · have hidle : s.stream.active = false := by simpa using hactive
    rw [streamOn, streamWorkFn_idle hidle]
    exact h

/-! ### Logs without holes -/

variable {L : Layout} {hist : List (List UInt8)} {lo : Nat}

theorem Span.oldestSeq {log : FlashLog} (h : Span L hist lo log) :
    (flashLogGetInfo log).oldestSeq = if lo < hist.length then lo + 1 else 0 := by
  rw [flashLogGetInfo, if_neg (by rw [h.ready]; simp)]
  by_cases hne : lo < hist.length
  · have hr := List.getElem?_eq_getElem hne
    rw [if_pos hne]
    simp only [h.used_pos_iff.2 hne, if_true, h.readValid_tail hr, seq_buildSlot _ (h.seq_lt hr)]
  · have hz : ¬ 0 < log.usedSlots := fun hc => hne (h.used_pos_iff.1 hc)
    rw [if_neg hne]
    simp only [hz, if_false]

/-- The numbers of the records found on a log without holes. -/
theorem LogStream.seqs_found (s : LogStream) (h : Span L hist lo (logs.get s.stream.logId)) :
    (s.found logs).map (fun slot => slot.seq.toNat) =
      List.range' (lo + 1 + (s.stream.nextSeq - (lo + 1))) (s.found logs).length := by
  have hlen : (s.found logs).length = ((s.found logs).map fun slot => slot.seq.toNat).length := by
    rw [List.length_map]
  rw [hlen, LogStream.found, foundSlots, if_pos h.ready, h.readSlots, List.map_map,
    List.map_congr_left (g := Prod.snd), retained_eq, Numbered.filter_ge, List.map_take,
    List.map_drop, Numbered.map_snd, List.drop_range', Numbered.take_range', List.length_range',
    Nat.mul_one]
  intro p hp
  exact h.seq_recordSlot (List.mem_of_mem_filter (List.mem_of_mem_take hp))

/-- On a log without holes, the stream is in step exactly when it has not been overtaken. -/
theorem LogStream.inStep_iff (s : LogStream) (h : Span L hist lo (logs.get s.stream.logId)) :
    s.InStep logs ↔ s.NotOvertaken logs := by
  rw [InStep, NotOvertaken, h.oldestSeq, s.seqs_found h]
  by_cases hf : s.found logs = []
  · rw [hf]
    exact iff_of_true rfl (Or.inl rfl)
  · obtain ⟨g, hg⟩ : ∃ g, (s.found logs).length = g + 1 :=
      Nat.exists_eq_succ_of_ne_zero (List.length_pos_iff.2 hf).ne'
    have hne : lo < hist.length := by
      by_contra hge
      refine hf ?_
      rw [found, foundSlots, if_pos h.ready, h.readSlots, retained_eq,
        List.drop_eq_nil_of_le (Nat.le_of_not_lt hge)]
      simp
    rw [hg, if_pos hne, or_iff_right hf]
    constructor
    · intro heq
      have := (List.cons.inj heq).1
      omega
    · intro hle
      rw [Nat.add_sub_cancel' hle]

/-- A stream that has been overtaken sends a header that is not true. -/
theorem LogStream.not_truthful_of_overtaken (s : LogStream)
    (h : Span L hist lo (logs.get s.stream.logId)) (hactive : s.stream.active = true)
    (hover : ¬ s.NotOvertaken logs) : ¬ (streamOn s logs).Truthful := by
  have hf : s.found logs ≠ [] := fun hf => hover (Or.inl hf)
  obtain ⟨g, hg⟩ : ∃ g, (s.found logs).length = g + 1 :=
    Nat.exists_eq_succ_of_ne_zero (List.length_pos_iff.2 hf).ne'
  rw [streamOn, streamWorkFn_accepted hactive rfl rfl hf]
  intro htruthful
  obtain ⟨htrue, -⟩ := htruthful
  have hhead := htrue (s.dataChunk logs) (List.mem_append_right _ (List.mem_singleton_self _))
    (List.length_pos_iff.2 hf)
  have hseqs : (s.dataChunk logs).seqs =
      List.range' (lo + 1 + (s.stream.nextSeq - (lo + 1))) (g + 1) := by
    rw [← hg]
    exact s.seqs_found h
  rw [hseqs] at hhead
  have hfirst : lo + 1 + (s.stream.nextSeq - (lo + 1)) = s.stream.nextSeq := Option.some.inj hhead
  refine hover (Or.inr ?_)
  rw [h.oldestSeq]
  split_ifs <;> omega

/-- Over any changing logs, a download whose executions are all in step names the right numbers
and sends no record twice. Over logs without holes, it does so in every state it reaches exactly
when no execution that finds records is behind the oldest one. -/
theorem chunk_headers_truthful_iff (atStart : Logs) (link : Link) (request : BleLogRequest)
    (s : LogStream) (executions : List Logs) (hop : request.opcode = bleLogOpStart)
    (hid : request.logId ≤ bleLogIdSensor) (hsub : link.subscribed = true)
    (hlimit : limitOf atStart request < 2 ^ 32) :
    let begun := (bleLogHandleRequest atStart link request s).2
    (Run.Along streamOn (fun s logs => s.stream.active = true → s.InStep logs) begun executions →
      (Run.final streamOn begun executions).Truthful) ∧
    ((∀ logs ∈ executions, ∃ L hist lo, Span L hist lo (logs.get request.logId)) →
      ((∀ m, (Run.final streamOn begun (executions.take m)).Truthful) ↔
        Run.Along streamOn (fun s logs => s.stream.active = true → s.NotOvertaken logs) begun
          executions)) := by
  intro begun
  have hbegun :
      Sequential request.logId request.startSeq.toNat (limitOf atStart request) begun := by
    rw [show begun = _ from congrArg Prod.snd (bleLogHandleRequest_start hop hid hsub)]
    refine ⟨rfl, fun c hc => absurd hc List.not_mem_nil, rfl, fun _ => ?_, ?_⟩
    · exact (u32_of_lt request.startSeq.toNat_lt).symm
    · exact (Nat.zero_add _).le
  constructor
  · intro halong
    have hfinal := Run.final_invariant (fun s logs h hin => Sequential.step h hin) hbegun halong
    exact hfinal.good hlimit
  · intro hspan
    refine Run.forall_prefix_iff_along
      (I := fun s => Sequential request.logId request.startSeq.toNat (limitOf atStart request) s)
      (D := fun _ logs => ∃ L hist lo, Span L hist lo (logs.get request.logId))
      (fun s h => h.good hlimit) ?_ ?_ hbegun (Run.along_of_forall hspan)
    · intro s logs h hlogs hnot
      obtain ⟨L, hist, lo, hlog⟩ := hlogs
      rw [← h.logId] at hlog
      exact h.step fun hactive => (s.inStep_iff hlog).2 (hnot hactive)
    · intro s logs h hlogs hnot
      obtain ⟨L, hist, lo, hlog⟩ := hlogs
      rw [← h.logId] at hlog
      obtain ⟨hactive, hover⟩ := Classical.not_imp.1 hnot
      exact s.not_truthful_of_overtaken hlog hactive hover

/-! ## The last flag -/

/-- What one execution meets: the logs, and whether its notification is accepted or refused for
lack of buffers. -/
structure Execution where
  logs : Logs
  accepted : Bool

def Execution.run (s : LogStream) (e : Execution) : LogStream :=
  streamWorkFn e.logs (linkOf e.accepted) s

/-- A stream that has ended flagged its last chunk, and no other. -/
def LogStream.Flagged (s : LogStream) : Prop :=
  s.stream.active = false →
    ∃ body c, s.sent = body ++ [c] ∧ c.isLast = true ∧ ∀ b ∈ body, b.isLast = false

/-- An execution that finds nothing left to send is not refused. -/
def Execution.EndAccepted (s : LogStream) (e : Execution) : Prop :=
  s.stream.active = true → s.found e.logs = [] → e.accepted = true

instance (s : LogStream) (e : Execution) : Decidable (e.EndAccepted s) :=
  inferInstanceAs (Decidable (_ → _ → _))

/-- Until it ends, a stream has not flagged any chunk. -/
structure Unflagged (s : LogStream) : Prop where
  body : s.stream.active = true → ∀ c ∈ s.sent, c.isLast = false
  flagged : s.Flagged

theorem Unflagged.step {s : LogStream} (h : Unflagged s) {e : Execution} (he : e.EndAccepted s) :
    Unflagged (e.run s) := by
  by_cases hactive : s.stream.active = true
  · have hbody := h.body hactive
    by_cases hf : s.found e.logs = []
    · rw [Execution.run, he hactive hf, streamWorkFn_end hactive rfl hf]
      exact ⟨fun hne => absurd hne (by simp), fun _ => ⟨s.sent, s.endChunk, rfl, rfl, hbody⟩⟩
    · cases hacc : e.accepted with
      | false =>
          rw [Execution.run, hacc, streamWorkFn_refused hactive rfl rfl hf]
          exact ⟨fun _ => hbody, fun hne => absurd hne (by simp [hactive])⟩
      | true =>
          rw [Execution.run, hacc, streamWorkFn_accepted hactive rfl rfl hf]
          have hlast : (s.dataChunk e.logs).isLast = decide (s.left e.logs = 0) := by
            by_cases hz : s.left e.logs = 0 <;>
              simp [Chunk.isLast, LogStream.dataChunk, hz, bleLogChunkFlagLast]
          constructor
          · intro hgo c hc
            rcases List.mem_append.1 hc with hc | hc
            · exact hbody c hc
            · rw [List.mem_singleton.1 hc, hlast]
              exact decide_eq_false (of_decide_eq_true hgo)
          · intro hend
            refine ⟨s.sent, _, rfl, ?_, hbody⟩
            rw [hlast]
            exact decide_eq_true (not_not.1 (of_decide_eq_false hend))
  · have hidle : s.stream.active = false := by simpa using hactive
    rw [Execution.run, streamWorkFn_idle hidle]
    exact h

/-- A refused terminating chunk ends the transfer without a flag. -/
theorem Unflagged.not_flagged {s : LogStream} (h : Unflagged s) {e : Execution}
    (he : ¬ e.EndAccepted s) : ¬ (e.run s).Flagged := by
  obtain ⟨hactive, he⟩ := Classical.not_imp.1 he
  obtain ⟨hf, hacc⟩ := Classical.not_imp.1 he
  have hacc : e.accepted = false := by simpa using hacc
  rw [Execution.run, hacc, streamWorkFn_end hactive rfl hf]
  intro hflagged
  obtain ⟨body, c, hsent, hlast, -⟩ := hflagged rfl
  have hsent : s.sent = body ++ [c] := hsent
  have hmem : c ∈ s.sent := by
    rw [hsent]
    exact List.mem_append_right _ (List.mem_singleton_self c)
  have hflag := h.body hactive c hmem
  rw [hlast] at hflag
  exact absurd hflag (by simp)

/-- Over any changing logs and any pattern of refused notifications: in every state a download
reaches, if it has ended then the last chunk accepted is the only flagged one, exactly when no
execution that finds nothing left is refused. -/
theorem last_flag_iff (atStart : Logs) (link : Link) (request : BleLogRequest) (s : LogStream)
    (executions : List Execution) (hop : request.opcode = bleLogOpStart)
    (hid : request.logId ≤ bleLogIdSensor) (hsub : link.subscribed = true) :
    let begun := (bleLogHandleRequest atStart link request s).2
    (∀ m, (Run.final Execution.run begun (executions.take m)).Flagged) ↔
      Run.Along Execution.run (fun s e => e.EndAccepted s) begun executions := by
  intro begun
  have hbegun : Unflagged begun := by
    rw [show begun = _ from congrArg Prod.snd (bleLogHandleRequest_start hop hid hsub)]
    exact ⟨fun _ c hc => absurd hc List.not_mem_nil, fun hne => absurd hne (by simp)⟩
  exact Run.forall_prefix_iff_along_any (fun s h => h.flagged) (fun s e h he => h.step he)
    (fun s e h he => h.not_flagged he) hbegun

end

/-! ## Requests on the log of two events -/

/-- START from number 0: the header names record 0, the first record is number 1. -/
theorem chunk_header_names_missing_record :
    ¬ (Run.final streamOn (bleLogHandleRequest twoEvents (linkOf true)
        { allEvents with startSeq := 0 } ⟨⟨false, 0, 0, 0, 0⟩, []⟩).2 [twoEvents]).Truthful := by
  intro htruthful
  obtain ⟨htrue, -⟩ := htruthful
  exact absurd htrue (by decide +kernel)

theorem chunk_headers_truthful_two_events :
    (Run.final streamOn (bleLogHandleRequest twoEvents (linkOf true) allEvents
        ⟨⟨false, 0, 0, 0, 0⟩, []⟩).2 [twoEvents, twoEvents]).Truthful :=
  (chunk_headers_truthful_iff twoEvents (linkOf true) allEvents ⟨⟨false, 0, 0, 0, 0⟩, []⟩
    [twoEvents, twoEvents] rfl (by decide) rfl (by decide +kernel)).1 (by decide +kernel)

/-- START after the newest record, with no buffer for the terminating chunk: the stream ends and
the client is never told. -/
theorem refused_end_is_not_flagged :
    ¬ (Run.final Execution.run (bleLogHandleRequest twoEvents (linkOf true)
        { allEvents with startSeq := 3 } ⟨⟨false, 0, 0, 0, 0⟩, []⟩).2
        [⟨twoEvents, false⟩]).Flagged := by
  intro hflagged
  obtain ⟨body, c, hsent, -⟩ := hflagged (by decide +kernel)
  have hnone : (Run.final Execution.run (bleLogHandleRequest twoEvents (linkOf true)
      { allEvents with startSeq := 3 } ⟨⟨false, 0, 0, 0, 0⟩, []⟩).2
      [⟨twoEvents, false⟩]).sent = [] := by decide +kernel
  rw [hnone] at hsent
  exact absurd hsent (by simp)

/-- A refused data chunk does not matter: the retry ends the transfer, flagged. -/
theorem last_flag_after_retry :
    (Run.final Execution.run (bleLogHandleRequest twoEvents (linkOf true) allEvents
        ⟨⟨false, 0, 0, 0, 0⟩, []⟩).2 [⟨twoEvents, false⟩, ⟨twoEvents, true⟩]).Flagged :=
  (last_flag_iff twoEvents (linkOf true) allEvents ⟨⟨false, 0, 0, 0, 0⟩, []⟩
    [⟨twoEvents, false⟩, ⟨twoEvents, true⟩] rfl (by decide) rfl).2 (by decide +kernel) 2

end SmartTag
