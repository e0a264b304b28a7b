import SmartTag.Lib.Run
import SmartTag.Storage.Boot

/-!
# The log refines a bounded history

What the log is for, with no slots and no counters: a `History` is the list of all records
appended since the last erase, of which a whole number of sectors has been dropped from the
front. `Refines` connects it to a log, and every operation of the flash manager commutes with
the operation on histories.

* `Refines.flashLogAppend`, `Mounted.flashLogAppend`, `Refines.of_ring_nil`: the simulation steps.
* `flashLog_refines_history`: after any run of appends and erases from a blank partition, the
  log reports exactly the last `Layout.kept` records, with their sequence numbers.
-/

namespace SmartTag

/-! ## Histories -/

/-- All records appended since the last erase, and how many of the oldest have been dropped. -/
structure History (L : Layout) where
  records : List (List UInt8)
  dropped : Nat
  dropped_le : dropped ≤ records.length
  window : records.length ≤ dropped + L.total
  aligned : dropped % L.slots = 0

namespace History

variable {L : Layout}

/-- The history of an erased log. -/
def empty (L : Layout) : History L where
  records := []
  dropped := 0
  dropped_le := le_refl 0
  window := Nat.zero_le _
  aligned := Nat.zero_mod _

/-- Entering a sector of a full ring drops the sector's records. -/
def enter (H : History L) : History L where
  records := H.records
  dropped := L.evict H.records.length H.dropped
  dropped_le := (L.evict_bounds H.dropped_le H.window H.aligned).1
  window := (L.evict_bounds H.dropped_le H.window H.aligned).2.2.2.le
  aligned := (L.evict_bounds H.dropped_le H.window H.aligned).2.1

/-- One more record. -/
def append (H : History L) (record : List UInt8) : History L where
  records := H.records ++ [record]
  dropped := L.evict H.records.length H.dropped
  dropped_le := by
    have := H.enter.dropped_le
    rw [List.length_append]
    exact le_trans this (Nat.le_add_right _ _)
  window := by
    rw [List.length_append]
    exact (L.evict_bounds H.dropped_le H.window H.aligned).2.2.2
  aligned := H.enter.aligned

/-- The records still held, each with its sequence number. -/
def held (H : History L) : List (List UInt8 × Nat) := retained H.records H.dropped

/-- Nothing is dropped before its sector is needed. -/
def Tight (H : History L) : Prop :=
  H.dropped = 0 ∨ H.dropped + L.total < H.records.length + L.slots

theorem tight_empty : (empty L).Tight := Or.inl rfl

theorem tight_append {H : History L} (h : H.Tight) (record : List UInt8) :
    (H.append record).Tight := by
  have hlen : (H.records ++ [record]).length = H.records.length + 1 := by simp
  have hev : (H.append record).dropped = L.evict H.records.length H.dropped := rfl
  rw [Tight, hev, Layout.evict]
  show _ ∨ _ < (H.records ++ [record]).length + L.slots
  rw [hlen]
  split_ifs with hfull
  · right
    omega
  · exact h.imp_right fun hlt => by omega

end History

/-- How many of `n` records the ring keeps: as many full sectors as fit beside the one being
filled. -/
def Layout.kept (L : Layout) (n : Nat) : Nat :=
  if n = 0 then 0 else min n (L.total - L.slots + ((n - 1) % L.slots + 1))

theorem History.length_held {L : Layout} {H : History L} (h : H.Tight) :
    H.records.length - H.dropped = L.kept H.records.length := by
  have hle := H.dropped_le
  have hw := H.window
  have hsl := L.slots_le_total
  rw [Layout.kept]
  split_ifs with hz
  · omega
  · -- `b` is the first record of the sector being filled.
    obtain ⟨b, hb, hbn⟩ : ∃ b, b % L.slots = 0 ∧
        b + (H.records.length - 1) % L.slots = H.records.length - 1 :=
      ⟨L.slots * ((H.records.length - 1) / L.slots), Nat.mul_mod_right _ _, Nat.div_add_mod _ _⟩
    have hr := L.mod_slots_lt (H.records.length - 1)
    have hgap := L.boundary_gap H.aligned hb (by omega)
    have hzero := fun hlt : b < 0 + L.total => L.boundary_gap (Nat.zero_mod _) hb hlt
    rcases h with h0 | hlt
    · have := hzero (by omega)
      omega
    · have hfull : H.dropped + L.total ≤ b + L.slots := by
        have hal : (H.dropped + L.total) % L.slots = 0 := by
          rw [Layout.total, Nat.add_mul_mod_self_right]
          exact H.aligned
        by_contra hc
        have hbs : (b + L.slots) % L.slots = 0 := by
          rw [Nat.add_mod_right]
          exact hb
        have hge := Circular.aligned_gap (k := 1) hbs hal (by omega)
        omega
      omega

/-! ## Calls -/

/-- One call of the log's owner. -/
inductive LogOp where
  | append (record : List UInt8)
  | erase
deriving DecidableEq, Repr

/-- The record is of the size the log was declared with. -/
def LogOp.Fits (payloadSize : Nat) : LogOp → Prop
  | .append record => record.length = payloadSize
  | .erase => True

/-- The records appended since the last erase. -/
def appended (ops : List LogOp) : List (List UInt8) :=
  ops.foldl (fun records op =>
    match op with
    | .append record => records ++ [record]
    | .erase => []) []

/-- The records of a run are of the declared size if the appended ones are. -/
theorem length_of_mem_appended {payloadSize : Nat} {ops : List LogOp}
    (hfits : ∀ op ∈ ops, op.Fits payloadSize) : ∀ r ∈ appended ops, r.length = payloadSize := by
  induction ops using List.reverseRecOn with
  | nil =>
      intro r hr
      exact absurd hr List.not_mem_nil
  | append_singleton ops op ih =>
      intro r hr
      have hrest := ih fun op' hop' => hfits op' (List.mem_append_left _ hop')
      have hlast := hfits op (List.mem_append_right _ (List.mem_singleton_self op))
      rw [appended, List.foldl_append] at hr
      cases op with
      | append record =>
          rcases List.mem_append.1 hr with hr | hr
          · exact hrest r hr
          · rw [List.mem_singleton.1 hr]
            exact hlast
      | erase => exact absurd hr List.not_mem_nil

theorem appended_map_append (records : List (List UInt8)) :
    appended (records.map LogOp.append) = records := by
  induction records using List.reverseRecOn with
  | nil => rfl
  | append_singleton records record ih =>
      rw [List.map_append, appended, List.foldl_append, ← appended, ih]
      rfl

/-! ## Refinement -/

section

variable [Crc16] {L : Layout} {H : History L} {log : FlashLog}

/-- The log holds the history, and the slot under the head can be written. -/
structure Refines (H : History L) (log : FlashLog) : Prop
    extends Ring L H.records H.dropped log where
  clear : HeadClear L H.records log

theorem Ring.makeRoom_quiet {hist : List (List UInt8)} {lo : Nat} (h : Ring L hist lo log)
    (hres : log.area.results = []) :
    (makeRoom log).1 = 0 ∧ (makeRoom log).2.area.results = [] := by
  by_cases hb : hist.length % L.slots = 0
  · rw [h.makeRoom_boundary hb, hres]
    simp [FlashLog.eraseHead, hres]
  · rw [h.makeRoom_mid hb]
    exact ⟨rfl, hres⟩

/-- When `make_room` succeeds the slot under the head is erased. -/
theorem Refines.makeRoom_blank (h : Refines H log) (hok : (makeRoom log).1 = 0) :
    (makeRoom log).2.area.image (H.records.length % L.total) = blankSlot := by
  by_cases hb : H.records.length % L.slots = 0
  · exact (h.makeRoom_ok hok).fresh hb
  · rw [h.makeRoom_mid hb]
    exact h.clear hb

theorem Refines.makeRoom (h : Refines H log) (hok : (makeRoom log).1 = 0) :
    Refines H.enter (makeRoom log).2 :=
  ⟨(h.makeRoom_ok hok).toRing, fun _ => h.makeRoom_blank hok⟩

/-- An append whose flash calls succeed gives the record the next number. -/
theorem Refines.flashLogAppend (h : Refines H log) (hres : log.area.results = [])
    (hn : H.records.length + 2 < 2 ^ 32) (record : List UInt8) :
    (flashLogAppend log record).1 = .ok (H.records.length + 1) ∧
      Refines (H.append record) (flashLogAppend log record).2 ∧
      (flashLogAppend log record).2.area.results = [] := by
  obtain ⟨hok, hres'⟩ := h.makeRoom_quiet hres
  have hroom := h.makeRoom_ok hok
  have hcov := covers_of_blank hroom.payload_le H.records.length record
    (h.makeRoom_blank hok)
  rw [h.toRing.flashLogAppend, if_neg (not_not.2 hok), hres', if_neg (by simp)]
  refine ⟨congrArg Except.ok hroom.next, ⟨hroom.written record hn hcov,
    hroom.headClear_written record⟩, ?_⟩
  show (SmartTag.makeRoom log).2.area.results.tail = []
  rw [hres']
  rfl

theorem Refines.of_ring_nil {log : FlashLog} (h : Ring L [] 0 log) :
    Refines (History.empty L) log :=
  ⟨h, fun hne => absurd (Nat.zero_mod _) hne⟩

/-- A log opened on a blank partition. -/
theorem Layout.refines_blank (L : Layout) {payloadSize : Nat} (hpos : 0 < payloadSize)
    (hle : payloadSize ≤ maxPayload) :
    (flashLogInit (FlashLog.declare payloadSize L.blankArea)).1 = 0 ∧
      Refines (History.empty L) (flashLogInit (FlashLog.declare payloadSize L.blankArea)).2 ∧
      (flashLogInit (FlashLog.declare payloadSize L.blankArea)).2.area.results = [] ∧
      (flashLogInit (FlashLog.declare payloadSize L.blankArea)).2.payloadSize = payloadSize := by
  have hm := L.mountable_blankArea hpos hle
  have hnone : ∀ i < L.total,
      slotValid (Slot.ofBytes ((L.mounted payloadSize L.blankArea).area.image i)) = false := by
    intro i _
    show slotValid (Slot.ofBytes (L.blankArea.image i)) = false
    rw [image_blankArea]
    exact not_slotValid_blankSlot
  have hholds : Holds L [] 0 (fun _ => False) (L.mounted payloadSize L.blankArea) := by
    refine ⟨hm.mounted, Nat.zero_le _, by simp, fun j hj => hj.elim, fun j r hj => hj.elim, ?_⟩
    intro i hi s hs
    rw [hm.mounted.readValid hi, if_neg (by rw [hnone i hi]; simp)] at hs
    exact absurd hs (by simp)
  rw [hm.flashLogInit, hholds.scan_nil fun _ => not_false]
  exact ⟨rfl, Refines.of_ring_nil (Mounted.ring_nil ⟨hm, rfl, rfl, rfl, rfl⟩ hnone rfl rfl rfl rfl),
    rfl, rfl⟩

/-! ## Runs -/

def LogOp.run (log : FlashLog) : LogOp → FlashLog
  | .append record => (SmartTag.flashLogAppend log record).2
  | .erase => (SmartTag.flashLogErase log).2

/-- The log after a sequence of calls. -/
def runOps (log : FlashLog) (ops : List LogOp) : FlashLog := Run.final LogOp.run log ops

theorem Mounted.makeRoom (h : Mounted L log) :
    Mounted L (SmartTag.makeRoom log).2 ∧
      (SmartTag.makeRoom log).2.payloadSize = log.payloadSize ∧
      (log.area.results = [] → (SmartTag.makeRoom log).2.area.results = []) := by
  have ht := touched_flashAreaErase log.area (log.headSlot * flashLogSlotSize) log.sectorSize
  have hm := h.toMountable.touched ht
  simp only [SmartTag.makeRoom]
  split_ifs
  · exact ⟨h, rfl, id⟩
  all_goals exact ⟨⟨hm, h.sectorSize, h.totalSlots, h.slotsPerSector, h.ready⟩, rfl, ht.results⟩

/-- A mounted log stays mounted, whatever its RAM and its medium hold. -/
theorem Mounted.flashLogAppend (h : Mounted L log) (record : List UInt8) :
    Mounted L (SmartTag.flashLogAppend log record).2 ∧
      (SmartTag.flashLogAppend log record).2.payloadSize = log.payloadSize ∧
      (log.area.results = [] → (SmartTag.flashLogAppend log record).2.area.results = []) := by
  obtain ⟨hmount, hps, hres⟩ := h.makeRoom
  have ht := touched_flashAreaWrite (SmartTag.makeRoom log).2.area
    ((SmartTag.makeRoom log).2.headSlot * flashLogSlotSize)
    (nextSlot (SmartTag.makeRoom log).2 record).toBytes
  have hm := hmount.toMountable.touched ht
  have hts := hmount.totalSlots
  simp only [SmartTag.flashLogAppend, h.ready, not_true_eq_false, if_false]
  split_ifs
  · exact ⟨hmount, hps, hres⟩
  all_goals exact ⟨⟨hm, hmount.sectorSize, hts, hmount.slotsPerSector, hmount.ready⟩, hps,
    fun hnil => ht.results (hres hnil)⟩

/-- The run lemma: as long as the numbers fit, a run keeps the refinement. -/
theorem runOps_refines (hm : Mounted L log) (hres : log.area.results = [])
    (href : Refines (History.empty L) log) (ops : List LogOp) :
    Mounted L (runOps log ops) ∧ (runOps log ops).area.results = [] ∧
      (runOps log ops).payloadSize = log.payloadSize ∧
      ((appended ops).length < 2 ^ 32 - 1 →
        ∃ H : History L, H.records = appended ops ∧ H.Tight ∧ Refines H (runOps log ops)) := by
  induction ops using List.reverseRecOn with
  | nil => exact ⟨hm, hres, rfl, fun _ => ⟨History.empty L, rfl, History.tight_empty, href⟩⟩
  | append_singleton ops op ih =>
      obtain ⟨hm', hres', hps, hih⟩ := ih
      have hrun : runOps log (ops ++ [op]) = LogOp.run (runOps log ops) op :=
        Run.final_concat LogOp.run log ops op
      rw [hrun]
      cases op with
      | append record =>
          have happ : appended (ops ++ [.append record]) = appended ops ++ [record] := by
            rw [appended, List.foldl_append]
            rfl
          obtain ⟨hm'', hps'', hres''⟩ := hm'.flashLogAppend record
          refine ⟨hm'', hres'' hres', hps''.trans hps, fun hlt => ?_⟩
          rw [happ, List.length_append, List.length_singleton] at hlt
          obtain ⟨H, hrec, htight, hH⟩ := hih (by omega)
          obtain ⟨-, hH', -⟩ := hH.flashLogAppend hres' (by rw [hrec]; omega) record
          refine ⟨H.append record, ?_, History.tight_append htight record, hH'⟩
          rw [happ, ← hrec]
          rfl
      | erase =>
          have happ : appended (ops ++ [.erase]) = [] := by
            rw [appended, List.foldl_append]
            rfl
          have hok : (sectorsErased L.sectors (runOps log ops).area.results).2 = 0 := by
            rw [hres', sectorsErased_nil]
          obtain ⟨-, hring, hps', hnil⟩ := hm'.ring_erase hok
          exact ⟨hring.toMounted, hnil hres', hps'.trans hps, fun _ =>
            ⟨History.empty L, happ.symm, History.tight_empty, Refines.of_ring_nil hring⟩⟩

/-- From a blank partition, after any sequence of appends and erases, the log holds exactly the
last `L.kept` of the records appended since the last erase, each under its number. -/
theorem flashLog_refines_history (L : Layout) (payloadSize : Nat) (hpos : 0 < payloadSize)
    (hle : payloadSize ≤ maxPayload) (ops : List LogOp)
    (hfits : ∀ op ∈ ops, op.Fits payloadSize) (hn : (appended ops).length < 2 ^ 32 - 1) :
    let boot := flashLogInit (FlashLog.declare payloadSize L.blankArea)
    let log := runOps boot.2 ops
    let n := (appended ops).length
    let u := L.kept n
    let held := ((appended ops).zipIdx 1).drop (n - u)
    boot.1 = 0 ∧
      (∀ startSeq max, flashLogRead log startSeq max =
        .ok (((held.filter fun p => decide (startSeq ≤ p.2)).take max).map Prod.fst)) ∧
      (flashLogGetOldest log =
        match held with
        | [] => .error (-ENOENT)
        | p :: _ => .ok p.1) ∧
      flashLogGetInfo log =
        { recordCount := u
          capacity := L.sectors * L.slots
          oldestSeq := if 0 < u then n - u + 1 else 0
          newestSeq := if 0 < u then n else 0
          recordSize := payloadSize
          ready := true } := by
  intro boot log n u held
  obtain ⟨hboot, href, hres, hps0⟩ := L.refines_blank hpos hle
  obtain ⟨-, -, hps, hrun⟩ := runOps_refines href.toMounted hres href ops
  obtain ⟨H, hrec, htight, hH⟩ := hrun hn
  -- The history's window is the last `u` records.
  have hlen : H.records.length = n := congrArg List.length hrec
  have hkept : H.dropped = n - u ∧ u ≤ n := by
    have hheld := History.length_held htight
    have := H.dropped_le
    rw [hlen] at hheld this
    omega
  have hsize : ∀ r ∈ H.records, r.length = (runOps boot.2 ops).payloadSize := by
    intro r hr
    rw [hps, hps0]
    rw [hrec] at hr
    exact length_of_mem_appended hfits r hr
  have hretained : retained H.records H.dropped = held := by
    rw [retained, hrec, hkept.1]
  refine ⟨hboot, fun startSeq max => ?_, ?_, ?_⟩
  · rw [← hretained]
    exact hH.toRing.flashLogRead hsize startSeq max
  · rw [hH.toRing.flashLogGetOldest hsize, ← hretained, retained_eq]
    cases hr : H.records[H.dropped]? with
    | none => rw [List.drop_eq_nil_of_le (List.getElem?_eq_none_iff.1 hr)]; rfl
    | some r =>
        obtain ⟨hlt, rfl⟩ := List.getElem?_eq_some_iff.1 hr
        rw [List.drop_eq_getElem_cons hlt]
        rfl
  · rw [hH.toRing.flashLogGetInfo, hlen, hkept.1, hps, hps0]
    have hu : n - (n - u) = u := by omega
    have hpos : n - u < n ↔ 0 < u := by omega
    simp only [hu, hpos]
    rfl

end

/-- A ring of two one-slot sectors, after three appends, an erase and three more appends. -/
theorem flashLog_refines_history_wrapped :
    flashLogRead (runOps (flashLogInit (FlashLog.declare 1
      (Layout.mk 2 1 (by decide) (by decide) (by decide)).blankArea)).2
      [.append [1], .append [2], .append [3], .erase, .append [4], .append [5], .append [6]]) 2 9 =
      .ok [[5], [6]] :=
  ((flashLog_refines_history ⟨2, 1, by decide, by decide, by decide⟩ 1 (by decide) (by decide)
    [.append [1], .append [2], .append [3], .erase, .append [4], .append [5], .append [6]]
    (by simp [LogOp.Fits]) (by decide)).2.1 2 9).trans (by decide)

end SmartTag
