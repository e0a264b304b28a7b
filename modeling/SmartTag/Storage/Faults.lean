import SmartTag.Lib.Run
import SmartTag.Storage.History

/-!
# Failing flash calls

Runs of appends and erases in which any erase or write call of the flash driver may fail. An
append that fails leaves a ring. An erase of the log that fails keeps its counters although some
sectors are gone; that leaves a ring only as long as those sectors held nothing.

* `Refines.append_faulty`, `Refines.erase_faulty`: the step lemmas.
* `ring_survives_faults`: along a run in which no failing erase has already erased a record, the
  count never exceeds the capacity and every read is in strictly increasing order.
-/

namespace SmartTag

/-- A call of the log's owner, with the return codes its flash calls get. -/
inductive FaultyOp where
  | append (record : List UInt8) (results : List Int)
  | erase (results : List Int)
deriving DecidableEq, Repr

/-- The log with the return codes of its coming erase and write calls. -/
def FlashLog.withResults (log : FlashLog) (results : List Int) : FlashLog :=
  { log with area := { log.area with results := results } }

section

variable [Crc16]

def FaultyOp.run (log : FlashLog) : FaultyOp → FlashLog
  | .append record results => (flashLogAppend (log.withResults results) record).2
  | .erase results => (flashLogErase (log.withResults results)).2

/-- An append is safe while the sequence counter has not run out; an erase, if it gets through
or the sectors before the failing one hold no valid slot. -/
def FaultyOp.Safe (log : FlashLog) : FaultyOp → Prop
  | .append _ _ => log.nextSeq < uint32Max
  | .erase results =>
    (sectorsErased (log.totalSlots / log.slotsPerSector) results).2 = 0 ∨
      ∀ i < (sectorsErased (log.totalSlots / log.slotsPerSector) results).1 * log.slotsPerSector,
        readValid log i = none

instance FaultyOp.decidableSafe (log : FlashLog) : ∀ op : FaultyOp, Decidable (op.Safe log)
  | .append _ _ => inferInstanceAs (Decidable (_ < _))
  | .erase _ => inferInstanceAs (Decidable (_ ∨ _))

variable {L : Layout} {H : History L} {log : FlashLog}

theorem Refines.withResults (h : Refines H log) (results : List Int) :
    Refines H (log.withResults results) := ⟨h.toRing.setResults results, h.clear⟩

/-- Whatever its flash calls return, an append leaves a ring. -/
theorem Refines.append_faulty (h : Refines H log) (hn : log.nextSeq < uint32Max)
    (record : List UInt8) :
    ∃ H' : History L, Refines H' (SmartTag.flashLogAppend log record).2 := by
  have hn : H.records.length + 2 < 2 ^ 32 := by
    rw [h.next, uint32Max] at hn
    omega
  rw [h.toRing.flashLogAppend]
  by_cases hok : (SmartTag.makeRoom log).1 = 0
  · rw [if_neg (not_not.2 hok)]
    split_ifs with hwrite
    · exact ⟨H.enter, (h.makeRoom hok).withResults _⟩
    · have hroom := h.toRing.makeRoom_ok hok
      have hcov := covers_of_blank hroom.payload_le H.records.length record
        (h.makeRoom_blank hok)
      exact ⟨H.append record, hroom.written record hn hcov, hroom.headClear_written record⟩
  · rw [if_pos hok, h.toRing.makeRoom_err hok]
    exact ⟨H, h.withResults _⟩

/-- Sectors without a valid slot can be erased under a ring. -/
theorem Refines.erased (h : Refines H log) {area : FlashArea} {m : Nat}
    (hm : Mountable L log.payloadSize area)
    (himg : ∀ i, area.image i = if i < m then blankSlot else log.area.image i)
    (hnone : ∀ i < m, i < L.total → SmartTag.readValid log i = none) :
    Refines H { log with area := area } := by
  refine ⟨⟨⟨⟨hm, h.sectorSize, h.totalSlots, h.slotsPerSector, h.ready⟩, h.lo_le, h.window,
    h.numbered, h.tail, h.used, ?_⟩, h.aligned, h.head, h.next, ?_, ?_⟩, ?_⟩
  · intro j r hr hj
    have hout : ¬ j % L.total < m := by
      intro hlt
      have := hnone _ hlt (L.mod_total_lt j)
      rw [h.readValid_held hr hj] at this
      exact absurd this (by simp)
    rw [himg, if_neg hout]
    exact h.held j r hr hj
  · intro i hi hv
    rw [himg] at hv
    split_ifs at hv
    · rw [not_slotValid_blankSlot] at hv
      exact absurd hv (by simp)
    · exact h.only i hi hv
  · intro hmid i hi hi'
    rw [himg]
    split_ifs
    · rfl
    · exact h.ahead hmid i hi hi'
  · intro hmid
    rw [himg]
    split_ifs
    · rfl
    · exact h.clear hmid

/-- A safe erase of the log leaves a ring. -/
theorem Refines.erase_faulty (h : Refines H log)
    (hsafe : (FaultyOp.erase log.area.results).Safe log) :
    ∃ H' : History L, Refines H' (flashLogErase log).2 := by
  have hsectors : log.totalSlots / log.slotsPerSector = L.sectors := by
    rw [h.totalSlots, h.slotsPerSector, Layout.total, Nat.mul_div_cancel _ L.slots_pos]
  rw [FaultyOp.Safe, hsectors, h.slotsPerSector] at hsafe
  by_cases hok : (sectorsErased L.sectors log.area.results).2 = 0
  · exact ⟨History.empty L, Refines.of_ring_nil (h.toMounted.ring_erase hok).2.1⟩
  · obtain ⟨area, hm, -, himg, hrun⟩ := h.toMounted.flashLogErase
    rw [hrun, if_neg hok]
    exact ⟨H, h.erased hm himg fun i hi _ => hsafe.resolve_left hok i hi⟩

theorem Refines.run_faulty (h : Refines H log) (op : FaultyOp) (hsafe : op.Safe log) :
    ∃ H' : History L, Refines H' (op.run log) := by
  cases op with
  | append record results => exact (h.withResults results).append_faulty hsafe record
  | erase results => exact (h.withResults results).erase_faulty hsafe

/-- From a blank partition, along any run of appends and erases with failing flash calls in
which every operation was safe: the count is within the capacity, and the slots every read
visits come in strictly increasing order of their numbers. -/
theorem ring_survives_faults (L : Layout) (payloadSize : Nat) (hpos : 0 < payloadSize)
    (hle : payloadSize ≤ maxPayload) (ops : List FaultyOp)
    (hsafe : Run.Along FaultyOp.run (fun log op => op.Safe log)
      (flashLogInit (FlashLog.declare payloadSize L.blankArea)).2 ops) :
    let log := Run.final FaultyOp.run (flashLogInit (FlashLog.declare payloadSize L.blankArea)).2
      ops
    log.usedSlots ≤ log.totalSlots ∧
      ∀ startSeq max,
        (readSlots log startSeq max).Pairwise fun s t => s.seq.toNat < t.seq.toNat := by
  intro log
  obtain ⟨H, hH⟩ : ∃ H : History L, Refines H log := by
    refine Run.final_invariant (I := fun log => ∃ H : History L, Refines H log) ?_
      ⟨History.empty L, (L.refines_blank hpos hle).2.1⟩ hsafe
    intro log op hring hop
    obtain ⟨H, hH⟩ := hring
    exact hH.run_faulty op hop
  refine ⟨?_, fun startSeq max => hH.pairwise_readSlots startSeq max⟩
  have := H.window
  rw [hH.used, hH.totalSlots]
  omega

end

/-- Two one-slot sectors, both full. The erase of the log fails at the second sector; the next
append makes three records of two, and a read returns the newest one twice. -/
theorem faulty_erase_breaks_ring :
    let log := Run.final FaultyOp.run
      (flashLogInit (FlashLog.declare 1
        (Layout.mk 2 1 (by decide) (by decide) (by decide)).blankArea)).2
      [.append [1] [], .append [2] [], .erase [0, -5], .append [3] []]
    log.totalSlots < log.usedSlots ∧ (readSlots log 0 9).map (·.seq.toNat) = [3, 2, 3] := by
  decide +kernel

/-- The same run with an erase that fails at once. -/
theorem ring_survives_failed_erase :
    let log := Run.final FaultyOp.run
      (flashLogInit (FlashLog.declare 1
        (Layout.mk 2 1 (by decide) (by decide) (by decide)).blankArea)).2
      [.append [1] [], .append [2] [], .erase [-5], .append [3] [0, -5], .append [3] []]
    log.usedSlots ≤ log.totalSlots :=
  (ring_survives_faults ⟨2, 1, by decide, by decide, by decide⟩ 1 (by decide) (by decide)
    [.append [1] [], .append [2] [], .erase [-5], .append [3] [0, -5], .append [3] []]
    (by decide +kernel)).1

end SmartTag
