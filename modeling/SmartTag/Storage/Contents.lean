import SmartTag.Lib.Numbered
import SmartTag.Storage.Ring

/-!
# What a ring reports

On a log whose records are a span from the tail, the read functions are functions of the
retained records alone: `retained hist lo`, each with its sequence number.

* `readLoop_eq`: the loop of `flash_log_read` is a filter cut off at `max`.
* `Span.flashLogRead`: the seek by subtraction agrees with a linear filter by sequence number.
* `Span.flashLogGetOldest`, `Ring.flashLogGetInfo`.
-/

namespace SmartTag

/-- The records still held, oldest first, each with its sequence number. -/
def retained (hist : List (List UInt8)) (lo : Nat) : List (List UInt8 × Nat) :=
  (hist.zipIdx 1).drop lo

theorem retained_eq (hist : List (List UInt8)) (lo : Nat) :
    retained hist lo = (hist.drop lo).zipIdx (lo + 1) := by
  rw [retained, Numbered.drop_zipIdx, Nat.add_comm]

@[simp] theorem length_retained (hist : List (List UInt8)) (lo : Nat) :
    (retained hist lo).length = hist.length - lo := by
  simp [retained]

theorem mem_retained {hist : List (List UInt8)} {lo : Nat} {p : List UInt8 × Nat}
    (hp : p ∈ retained hist lo) : ∃ j, lo ≤ j ∧ hist[j]? = some p.1 ∧ p.2 = j + 1 := by
  obtain ⟨i, hi, rfl⟩ := List.mem_iff_getElem.1 hp
  have hlt : lo + i < hist.length := by
    simp only [length_retained] at hi
    omega
  refine ⟨lo + i, Nat.le_add_right lo i, ?_, ?_⟩ <;>
    simp only [retained, List.getElem_drop, List.getElem_zipIdx]
  · exact List.getElem?_eq_getElem hlt
  · omega

section

variable [Crc16]

/-- The slot `flash_log_read` finds at offset `i` from the tail, if it is to be returned. -/
def candidate (log : FlashLog) (startSeq i : Nat) : Option Slot :=
  (readValid log (u32 (log.tailSlot + i) % log.totalSlots)).filter fun s =>
    decide (startSeq ≤ s.seq.toNat)

/-- The loop of `flash_log_read` collects the candidates in order, up to `max` of them. -/
theorem readLoop_eq (log : FlashLog) (startSeq max : Nat) (is : List Nat) (found : List Slot)
    (h : found.length ≤ max) :
    readLoop log startSeq max is found =
      found ++ (is.filterMap (candidate log startSeq)).take (max - found.length) := by
  induction is generalizing found with
  | nil => simp [readLoop]
  | cons i is ih =>
      rw [readLoop]
      by_cases hlt : found.length < max
      · rw [if_pos hlt, List.filterMap_cons]
        cases hv : readValid log (u32 (log.tailSlot + i) % log.totalSlots) with
        | none =>
            have hc : candidate log startSeq i = none := by simp [candidate, hv]
            rw [hc]
            exact ih found h
        | some s =>
            by_cases hseq : s.seq.toNat < startSeq
            · have hc : candidate log startSeq i = none := by
                simp [candidate, hv, Option.filter, hseq]
              simp only [hseq, if_true, hc]
              exact ih found h
            · have hc : candidate log startSeq i = some s := by
                simp [candidate, hv, Option.filter, Nat.le_of_not_lt hseq]
              have hlen : (found ++ [s]).length = found.length + 1 := by simp
              simp only [hseq, if_false, hc]
              rw [ih _ (by omega), hlen, List.append_assoc,
                show max - found.length = max - (found.length + 1) + 1 by omega]
              rfl
      · rw [if_neg hlt, show max - found.length = 0 by omega]
        simp

theorem readSlots_eq (log : FlashLog) (startSeq max : Nat) :
    readSlots log startSeq max =
      ((List.range' (seekFirst log startSeq) (log.usedSlots - seekFirst log startSeq)).filterMap
        (candidate log startSeq)).take max := by
  rw [readSlots, readLoop_eq _ _ _ _ _ (Nat.zero_le max)]
  simp

variable {L : Layout} {hist : List (List UInt8)} {lo : Nat} {log : FlashLog}

/-- The slot holding a numbered record. -/
def recordSlot (log : FlashLog) (p : List UInt8 × Nat) : Slot :=
  buildSlot log.payloadSize p.2 p.1

theorem Span.seq_lt (h : Span L hist lo log) {j : Nat} {r : List UInt8} (hr : hist[j]? = some r) :
    j + 1 < 2 ^ 32 := by
  have hj := (List.getElem?_eq_some_iff.1 hr).1
  have := h.numbered
  omega

/-- The tail slot holds the oldest retained record. -/
theorem Span.readValid_tail (h : Span L hist lo log) {r : List UInt8} (hr : hist[lo]? = some r) :
    readValid log log.tailSlot = some (buildSlot log.payloadSize (lo + 1) r) := by
  rw [h.tail]
  exact h.readValid_held hr (le_refl lo)

theorem Span.used_pos_iff (h : Span L hist lo log) : 0 < log.usedSlots ↔ lo < hist.length := by
  rw [h.used]
  omega

theorem Span.seekFirst (h : Span L hist lo log) (startSeq : Nat) :
    seekFirst log startSeq = if lo < hist.length then startSeq - (lo + 1) else 0 := by
  rw [SmartTag.seekFirst]
  by_cases hne : lo < hist.length
  · have hr := List.getElem?_eq_getElem hne
    rw [if_pos (h.used_pos_iff.2 hne), if_pos hne, h.readValid_tail hr]
    simp only [seq_buildSlot _ (h.seq_lt hr)]
    split_ifs <;> omega
  · rw [if_neg (fun hc => hne (h.used_pos_iff.1 hc)), if_neg hne]

/-- The offset of a retained record from the tail leads to its slot. -/
theorem Span.readValid_offset (h : Span L hist lo log) {i : Nat} {r : List UInt8}
    (hr : hist[lo + i]? = some r) :
    readValid log (u32 (log.tailSlot + i) % log.totalSlots) =
      some (buildSlot log.payloadSize (lo + i + 1) r) := by
  have hlt := (List.getElem?_eq_some_iff.1 hr).1
  have hw := h.window
  have hfits := L.total_fits
  have hmod := L.mod_total_lt lo
  simp only [flashLogSlotSize] at hfits
  rw [h.tail, h.totalSlots, u32_of_lt (by omega), Nat.mod_add_mod]
  exact h.readValid_held hr (Nat.le_add_right lo i)

/-- The seek by subtraction agrees with a linear filter. -/
theorem Span.readSlots (h : Span L hist lo log) (startSeq max : Nat) :
    readSlots log startSeq max =
      (((retained hist lo).filter fun p => decide (startSeq ≤ p.2)).take max).map
        (recordSlot log) := by
  have hlen : hist.length - lo = (hist.drop lo).length := by simp
  rw [readSlots_eq, h.seekFirst, h.used, List.map_take, retained_eq, Numbered.filter_ge]
  by_cases hne : lo < hist.length
  · rw [if_pos hne, hlen]
    congr 1
    rw [← Numbered.map_range' (g := fun i =>
        buildSlot log.payloadSize (lo + i + 1) ((hist.drop lo).getD i []))]
    · rw [List.filterMap_eq_map_iff_forall_eq_some]
      intro i hi
      have hi := List.mem_range'_1.1 hi
      have hlt : i < (hist.drop lo).length := by omega
      have hr : hist[lo + i]? = some ((hist.drop lo).getD i []) := by
        rw [← List.getElem?_drop, List.getD_eq_getElem?_getD, List.getElem?_eq_getElem hlt]
        rfl
      rw [candidate, h.readValid_offset hr]
      simp only [Option.filter, seq_buildSlot _ (h.seq_lt hr)]
      rw [if_pos (by rw [decide_eq_true_iff]; omega)]
    · intro i r hr
      rw [recordSlot, List.getD_eq_getElem?_getD, hr, Nat.add_right_comm]
      rfl
  · rw [if_neg hne, List.drop_eq_nil_of_le (Nat.le_of_not_lt hne),
      Nat.sub_eq_zero_of_le (Nat.le_of_not_lt hne)]
    simp

theorem Span.seq_recordSlot (h : Span L hist lo log) {p : List UInt8 × Nat}
    (hp : p ∈ retained hist lo) : (recordSlot log p).seq.toNat = p.2 := by
  obtain ⟨j, -, hr, hp2⟩ := mem_retained hp
  rw [recordSlot, hp2, seq_buildSlot _ (h.seq_lt hr)]

/-- The slots a read visits come in strictly increasing order. -/
theorem Span.pairwise_readSlots (h : Span L hist lo log) (startSeq max : Nat) :
    (SmartTag.readSlots log startSeq max).Pairwise fun s t => s.seq.toNat < t.seq.toNat := by
  have hsorted : (retained hist lo).Pairwise fun p q => p.2 < q.2 := by
    rw [retained_eq, ← List.pairwise_map (f := Prod.snd) (R := (· < ·)), Numbered.map_snd]
    exact List.pairwise_lt_range'
  rw [h.readSlots, List.pairwise_map]
  refine ((hsorted.filter _).sublist (List.take_sublist _ _)).imp_of_mem fun hp hq hlt => ?_
  rw [h.seq_recordSlot (List.mem_of_mem_filter (List.mem_of_mem_take hp)),
    h.seq_recordSlot (List.mem_of_mem_filter (List.mem_of_mem_take hq))]
  exact hlt

/-- `flash_log_read` returns the first `max` retained records numbered `startSeq` or more. -/
theorem Span.flashLogRead (h : Span L hist lo log)
    (hsize : ∀ r ∈ hist, r.length = log.payloadSize) (startSeq max : Nat) :
    flashLogRead log startSeq max =
      .ok ((((retained hist lo).filter fun p => decide (startSeq ≤ p.2)).take max).map
        Prod.fst) := by
  rw [SmartTag.flashLogRead, if_neg (by rw [h.ready]; simp), h.readSlots, List.map_map]
  congr 1
  refine List.map_congr_left fun p hp => ?_
  obtain ⟨j, -, hr, -⟩ := mem_retained (List.mem_of_mem_filter (List.mem_of_mem_take hp))
  exact payload_buildSlot _ (hsize _ (List.mem_of_getElem? hr))

/-- Every retained record can be read back by its number. -/
theorem Span.flashLogRead_one (h : Span L hist lo log)
    (hsize : ∀ r ∈ hist, r.length = log.payloadSize) {j : Nat} {r : List UInt8}
    (hr : hist[j]? = some r) (hj : lo ≤ j) : SmartTag.flashLogRead log (j + 1) 1 = .ok [r] := by
  have hjn := (List.getElem?_eq_some_iff.1 hr).1
  have hskip : lo + (j + 1 - (lo + 1)) = j := by omega
  rw [h.flashLogRead hsize, retained_eq, Numbered.filter_ge, Numbered.drop_zipIdx, List.drop_drop,
    hskip, List.drop_eq_getElem_cons hjn, (List.getElem?_eq_some_iff.1 hr).2]
  rfl

theorem Span.flashLogGetOldest (h : Span L hist lo log)
    (hsize : ∀ r ∈ hist, r.length = log.payloadSize) :
    flashLogGetOldest log =
      match hist[lo]? with
      | some r => .ok r
      | none => .error (-ENOENT) := by
  rw [SmartTag.flashLogGetOldest, if_neg (by rw [h.ready]; simp)]
  cases hr : hist[lo]? with
  | none =>
      have hge := List.getElem?_eq_none_iff.1 hr
      rw [if_neg (by rw [h.used_pos_iff]; omega)]
  | some r =>
      have hlt := (List.getElem?_eq_some_iff.1 hr).1
      rw [if_pos (h.used_pos_iff.2 hlt), h.readValid_tail hr]
      exact congrArg Except.ok (payload_buildSlot _ (hsize r (List.mem_of_getElem? hr)))

theorem Ring.flashLogGetInfo (h : Ring L hist lo log) :
    flashLogGetInfo log =
      { recordCount := hist.length - lo
        capacity := L.total
        oldestSeq := if lo < hist.length then lo + 1 else 0
        newestSeq := if lo < hist.length then hist.length else 0
        recordSize := log.payloadSize
        ready := true } := by
  have hnum := h.numbered
  rw [SmartTag.flashLogGetInfo, if_neg (by rw [h.ready]; simp), h.used, h.totalSlots]
  by_cases hne : lo < hist.length
  · have hr := List.getElem?_eq_getElem hne
    have hnew : u32 (log.nextSeq + uint32Max) = hist.length := by
      rw [h.next, u32, uint32Max]
      omega
    have hpos : 0 < hist.length - lo := by omega
    simp only [hpos, hne, if_true, hnew, h.readValid_tail hr, seq_buildSlot _ (h.seq_lt hr)]
  · have hpos : ¬ 0 < hist.length - lo := by omega
    simp only [hpos, hne, if_false]

end

end SmartTag
