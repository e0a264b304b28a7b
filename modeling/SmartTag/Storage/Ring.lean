import SmartTag.Lib.Circular
import SmartTag.Storage.FlashManager

/-!
# The ring invariant

`Ring L hist lo log` ties the RAM state of a log and the bytes on its partition to the list
`hist` of all records appended since the last erase, of which the first `lo` have been dropped:
record `j` of `hist` carries sequence number `j + 1` and sits in slot `j % L.total`, the
valid slots are exactly those of records `lo, …, hist.length - 1`, and the slots the head will
enter before its sector ends are erased.

`Span` is the part of it the read functions rest on. Nothing is said about the slot under the head
itself: a torn write may have left anything there that is not a valid record.
`HeadClear` is the missing half.

* `Ring.makeRoom_ok`: `make_room` drops at most one sector of old records and gives `Room`.
* `Room.written`: over a head slot that covers the new image, an append keeps the ring.
-/

namespace SmartTag

/-- The shape of a partition: `sectors` sectors of `slots` slots. -/
structure Layout where
  sectors : Nat
  slots : Nat
  sectors_pos : 0 < sectors
  slots_pos : 0 < slots
  fits : sectors * slots * flashLogSlotSize < 2 ^ 32

theorem four_slots_pos : 0 < 4 := by decide

theorem four_slots_fit : 1 * 4 * flashLogSlotSize < 2 ^ 32 := by decide

/-- One sector of four slots. -/
def oneSector : Layout := ⟨1, 4, Nat.one_pos, four_slots_pos, four_slots_fit⟩

namespace Layout

/-- The number of slots of the ring. -/
def total (L : Layout) : Nat := L.sectors * L.slots

theorem total_pos (L : Layout) : 0 < L.total := Nat.mul_pos L.sectors_pos L.slots_pos

theorem slots_le_total (L : Layout) : L.slots ≤ L.total :=
  Nat.le_mul_of_pos_left _ L.sectors_pos

theorem total_fits (L : Layout) : L.total * flashLogSlotSize < 2 ^ 32 := L.fits

theorem mod_total_lt (L : Layout) (n : Nat) : n % L.total < L.total := Nat.mod_lt _ L.total_pos

theorem mod_slots_lt (L : Layout) (n : Nat) : n % L.slots < L.slots := Nat.mod_lt _ L.slots_pos

theorem mod_total_mod_slots (L : Layout) (n : Nat) : n % L.total % L.slots = n % L.slots :=
  Circular.mod_sector n

/-- A slot on the ring lies within the partition. -/
theorem slot_end_le (L : Layout) {i : Nat} (hi : i < L.total) :
    i * flashLogSlotSize + flashLogSlotSize ≤ L.total * flashLogSlotSize := by
  simp only [flashLogSlotSize]
  omega

/-- The sector around item `n`'s position lies on the ring. -/
theorem sector_end_le (L : Layout) (n : Nat) :
    n % L.total - n % L.slots + L.slots ≤ L.total := by
  have hbase : (n - n % L.slots) % L.slots = 0 := by
    have := Nat.div_add_mod n L.slots
    rw [show n - n % L.slots = L.slots * (n / L.slots) by omega, Nat.mul_mod_right]
  have hroom := Circular.sector_room L.sectors_pos L.slots_pos hbase
  have hle : n % L.slots ≤ n % L.total := by
    rw [← L.mod_total_mod_slots]
    exact Nat.mod_le _ _
  have hpos := L.slots_le_total
  have hlt := L.mod_slots_lt n
  have hsub : n - (n - n % L.slots) = n % L.slots := by
    have := Nat.mod_le n L.slots
    omega
  change (n - n % L.slots) % L.total + L.slots ≤ L.total at hroom
  have hn : n - n % L.slots ≤ n := Nat.sub_le _ _
  rcases Circular.mod_window hn (by omega : n < n - n % L.slots + L.total) with h | h <;> omega

/-- From a sector boundary, the positions of a whole sector follow one another. -/
theorem sector_pos (L : Layout) {n d : Nat} (hb : n % L.slots = 0) (hd : d < L.slots) :
    (n + d) % L.total = n % L.total + d := by
  have hroom := Circular.sector_room L.sectors_pos L.slots_pos hb
  change n % L.total + L.slots ≤ L.total at hroom
  have hlt := L.mod_total_lt (n + d)
  rcases Circular.mod_window (Nat.le_add_right n d) (by omega : n + d < n + L.total) with h | h <;>
    omega

/-- The sector that starts at a boundary lies on the ring. -/
theorem boundary_end_le (L : Layout) {n : Nat} (hb : n % L.slots = 0) :
    n % L.total + L.slots ≤ L.total := Circular.sector_room L.sectors_pos L.slots_pos hb

/-- Two boundaries less than a ring apart leave a whole sector free. -/
theorem boundary_gap (L : Layout) {lo n : Nat} (hlo : lo % L.slots = 0) (hb : n % L.slots = 0)
    (h : n < lo + L.total) : n + L.slots ≤ lo + L.total := Circular.aligned_gap hlo hb h

/-- Within a sector, the next position is one further on. -/
theorem mod_succ_of_mid (L : Layout) {n : Nat} (h : (n + 1) % L.slots ≠ 0) :
    (n + 1) % L.total = n % L.total + 1 ∧ (n + 1) % L.slots = n % L.slots + 1 := by
  obtain ⟨hs, hlt⟩ | ⟨hs, -⟩ := Circular.mod_succ_sector L.slots_pos n
  · refine ⟨?_, hs⟩
    have hend := L.sector_end_le n
    have hle : n % L.slots ≤ n % L.total := by
      rw [← L.mod_total_mod_slots]
      exact Nat.mod_le _ _
    rw [← Circular.mod_succ n L.total, Nat.mod_eq_of_lt (by omega)]
  · exact absurd hs h

end Layout

/-! ## Eviction -/

/-- The oldest record kept once the head, at record `n`, has entered its sector: when the ring
is full, entering a sector drops the records in it. -/
def Layout.evict (L : Layout) (n lo : Nat) : Nat :=
  if n % L.slots = 0 ∧ n = lo + L.total then lo + L.slots else lo

theorem Layout.evict_bounds (L : Layout) {n lo : Nat} (hlo : lo ≤ n) (hw : n ≤ lo + L.total)
    (ha : lo % L.slots = 0) :
    L.evict n lo ≤ n ∧ L.evict n lo % L.slots = 0 ∧ lo ≤ L.evict n lo ∧
      n < L.evict n lo + L.total := by
  have hle := L.slots_le_total
  have hpos := L.slots_pos
  rw [Layout.evict]
  split_ifs with hfull
  · refine ⟨by omega, ?_, by omega, by omega⟩
    rw [Nat.add_mod_right]
    exact ha
  · refine ⟨hlo, ha, le_refl _, ?_⟩
    have hne : n ≠ lo + L.total := fun heq => hfull ⟨?_, heq⟩
    · omega
    · rw [heq, Layout.total, Nat.add_mul_mod_self_right]
      exact ha

/-! ## Slots on the medium -/

/-- The bytes of slot `i`. -/
def FlashArea.image (fa : FlashArea) (i : Nat) : List UInt8 :=
  Nor.read fa.mem (i * flashLogSlotSize) flashLogSlotSize

/-- A slot whose bytes are all erased. -/
def blankSlot : List UInt8 := Nor.blank flashLogSlotSize

@[simp] theorem length_image (fa : FlashArea) (i : Nat) :
    (fa.image i).length = flashLogSlotSize := Nor.length_read _ _ _

/-! ## Erasing and programming slots -/

theorem image_erase {fa fa' : FlashArea} {h n : Nat}
    (hmem : fa'.mem = Nor.erase fa.mem (h * flashLogSlotSize) (n * flashLogSlotSize)) (i : Nat) :
    fa'.image i = if h ≤ i ∧ i < h + n then blankSlot else fa.image i := by
  simp only [FlashArea.image, hmem, blankSlot]
  split_ifs with hin
  · refine Nor.read_erase_of_subset _ ?_ ?_ <;> simp only [flashLogSlotSize] <;> omega
  · refine Nor.read_erase_of_disjoint _ ?_
    simp only [flashLogSlotSize]
    omega

theorem image_program {fa fa' : FlashArea} {h : Nat} {bs : List UInt8}
    (hlen : bs.length = flashLogSlotSize)
    (hmem : fa'.mem = Nor.program fa.mem (h * flashLogSlotSize) bs) (i : Nat) :
    fa'.image i = if i = h then Nor.and (fa.image h) bs else fa.image i := by
  simp only [FlashArea.image, hmem]
  split_ifs with hih
  · subst hih
    rw [← hlen]
    exact Nor.read_program_self _ _ _
  · refine Nor.read_program_of_disjoint _ ?_
    rw [hlen]
    simp only [flashLogSlotSize]
    omega

theorem flashAreaErase_eq {fa : FlashArea} {off len : Nat} (h : ¬ fa.faSize < off + len) :
    flashAreaErase fa off len =
      if fa.results.headD 0 ≠ 0 then
        (fa.results.headD 0, { fa with results := fa.results.tail })
      else
        (0, { fa with results := fa.results.tail, mem := Nor.erase fa.mem off len }) := by
  simp only [flashAreaErase, if_neg h, FlashArea.takeResult]
  rfl

/-! ## Mounted logs -/

/-- A log of this payload size can be opened on the partition, whose layout is `L`. -/
structure Mountable (L : Layout) (payloadSize : Nat) (area : FlashArea) : Prop where
  payload_pos : 0 < payloadSize
  payload_le : payloadSize ≤ maxPayload
  faSize : area.faSize = L.total * flashLogSlotSize
  pageSize : area.pageSize = L.slots * flashLogSlotSize
  openErr : area.openErr = 0
  pageErr : area.pageErr = 0
  deviceReady : area.deviceReady = true

/-- The log has been initialised on a partition of layout `L`. -/
structure Mounted (L : Layout) (log : FlashLog) : Prop
    extends Mountable L log.payloadSize log.area where
  sectorSize : log.sectorSize = L.slots * flashLogSlotSize
  totalSlots : log.totalSlots = L.total
  slotsPerSector : log.slotsPerSector = L.slots
  ready : log.ready = true

theorem Mounted.readSlot {L : Layout} {log : FlashLog} (h : Mounted L log) {i : Nat}
    (hi : i < L.total) : readSlot log i = .ok (Slot.ofBytes (log.area.image i)) := by
  have hend := L.slot_end_le hi
  rw [SmartTag.readSlot, flashAreaRead, h.faSize, if_neg (by omega)]
  rfl

/-- Erase and write calls change the medium and use up return codes, nothing else. -/
def FlashArea.Touched (fa fa' : FlashArea) : Prop :=
  ∃ mem rs, fa' = { fa with mem := mem, results := rs } ∧ (fa.results = [] → rs = [])

theorem touched_flashAreaErase (fa : FlashArea) (off len : Nat) :
    fa.Touched (flashAreaErase fa off len).2 := by
  by_cases h : fa.faSize < off + len
  · rw [flashAreaErase, if_pos h]
    exact ⟨fa.mem, fa.results, rfl, id⟩
  · rw [flashAreaErase_eq h]
    split_ifs
    · exact ⟨fa.mem, fa.results.tail, rfl, fun hnil => by rw [hnil]; rfl⟩
    · exact ⟨_, fa.results.tail, rfl, fun hnil => by rw [hnil]; rfl⟩

theorem flashAreaWrite_eq {fa : FlashArea} {off : Nat} {bs : List UInt8}
    (h : ¬ fa.faSize < off + bs.length) :
    flashAreaWrite fa off bs =
      if fa.results.headD 0 ≠ 0 then
        (fa.results.headD 0, { fa with results := fa.results.tail })
      else
        (0, { fa with results := fa.results.tail, mem := Nor.program fa.mem off bs }) := by
  simp only [flashAreaWrite, if_neg h, FlashArea.takeResult]
  rfl

theorem touched_flashAreaWrite (fa : FlashArea) (off : Nat) (bs : List UInt8) :
    fa.Touched (flashAreaWrite fa off bs).2 := by
  by_cases h : fa.faSize < off + bs.length
  · rw [flashAreaWrite, if_pos h]
    exact ⟨fa.mem, fa.results, rfl, id⟩
  · rw [flashAreaWrite_eq h]
    split_ifs
    · exact ⟨fa.mem, fa.results.tail, rfl, fun hnil => by rw [hnil]; rfl⟩
    · exact ⟨_, fa.results.tail, rfl, fun hnil => by rw [hnil]; rfl⟩

theorem Mountable.touched {L : Layout} {payloadSize : Nat} {fa fa' : FlashArea}
    (h : Mountable L payloadSize fa) (ht : fa.Touched fa') : Mountable L payloadSize fa' := by
  obtain ⟨mem, rs, rfl, -⟩ := ht
  exact ⟨h.payload_pos, h.payload_le, h.faSize, h.pageSize, h.openErr, h.pageErr, h.deviceReady⟩

theorem FlashArea.Touched.results {fa fa' : FlashArea} (ht : fa.Touched fa')
    (h : fa.results = []) : fa'.results = [] := by
  obtain ⟨mem, rs, rfl, hrs⟩ := ht
  exact hrs h

section

variable [Crc16]

theorem not_slotValid_blankSlot : slotValid (Slot.ofBytes blankSlot) = false :=
  not_slotValid_blank

/-- The image of record `j` of the history. -/
def recordImage (log : FlashLog) (j : Nat) (record : List UInt8) : List UInt8 :=
  (buildSlot log.payloadSize (j + 1) record).toBytes

theorem slotValid_recordImage (log : FlashLog) (j : Nat) (record : List UInt8) :
    slotValid (Slot.ofBytes (recordImage log j record)) = true := by
  rw [recordImage, Slot.ofBytes_toBytes]
  exact slotValid_buildSlot _ _ _

/-! ## The invariant -/

/-- The log reaches the records `lo, …, hist.length - 1` of `hist`, in order from its tail. -/
structure Span (L : Layout) (hist : List (List UInt8)) (lo : Nat) (log : FlashLog) : Prop
    extends Mounted L log where
  lo_le : lo ≤ hist.length
  window : hist.length ≤ lo + L.total
  numbered : hist.length + 1 < 2 ^ 32
  tail : log.tailSlot = lo % L.total
  used : log.usedSlots = hist.length - lo
  held : ∀ j r, hist[j]? = some r → lo ≤ j → log.area.image (j % L.total) = recordImage log j r

/-- The log holds records `lo, …, hist.length - 1` of `hist`, in ring order. -/
structure Ring (L : Layout) (hist : List (List UInt8)) (lo : Nat) (log : FlashLog) : Prop
    extends Span L hist lo log where
  aligned : lo % L.slots = 0
  head : log.headSlot = hist.length % L.total
  next : log.nextSeq = hist.length + 1
  only : ∀ i < L.total, slotValid (Slot.ofBytes (log.area.image i)) = true →
    ∃ j, lo ≤ j ∧ j < hist.length ∧ i = j % L.total
  ahead : hist.length % L.slots ≠ 0 → ∀ i, hist.length % L.total < i →
    i < hist.length % L.total - hist.length % L.slots + L.slots → log.area.image i = blankSlot

/-- Mid-sector, the slot under the head is erased. -/
def HeadClear (L : Layout) (hist : List (List UInt8)) (log : FlashLog) : Prop :=
  hist.length % L.slots ≠ 0 → log.area.image (hist.length % L.total) = blankSlot

/-- The ring after `make_room`: there is a free slot, and the rest of its sector is erased. -/
structure Room (L : Layout) (hist : List (List UInt8)) (lo : Nat) (log : FlashLog) : Prop
    extends Ring L hist lo log where
  free : hist.length < lo + L.total
  sector : ∀ i, hist.length % L.total < i →
    i < hist.length % L.total - hist.length % L.slots + L.slots → log.area.image i = blankSlot
  fresh : hist.length % L.slots = 0 → log.area.image (hist.length % L.total) = blankSlot

/-! ## Reading slots -/

theorem Mounted.readValid {L : Layout} {log : FlashLog} (h : Mounted L log) {i : Nat}
    (hi : i < L.total) :
    readValid log i =
      if slotValid (Slot.ofBytes (log.area.image i)) then some (Slot.ofBytes (log.area.image i))
      else none := by
  rw [SmartTag.readValid, h.readSlot hi]

theorem Span.readValid_held {L : Layout} {hist : List (List UInt8)} {lo : Nat} {log : FlashLog}
    (h : Span L hist lo log) {j : Nat} {r : List UInt8} (hr : hist[j]? = some r) (hj : lo ≤ j) :
    readValid log (j % L.total) = some (buildSlot log.payloadSize (j + 1) r) := by
  rw [h.readValid (L.mod_total_lt j), h.held j r hr hj, if_pos (slotValid_recordImage log j r),
    recordImage, Slot.ofBytes_toBytes]

/-- A valid slot holds a record of the window. -/
theorem Ring.readValid_some {L : Layout} {hist : List (List UInt8)} {lo : Nat} {log : FlashLog}
    (h : Ring L hist lo log) {i : Nat} {s : Slot} (hi : i < L.total)
    (hs : readValid log i = some s) :
    ∃ j r, hist[j]? = some r ∧ lo ≤ j ∧ i = j % L.total ∧
      s = buildSlot log.payloadSize (j + 1) r := by
  have hv : slotValid (Slot.ofBytes (log.area.image i)) = true := by
    by_contra hne
    rw [h.readValid hi, if_neg hne] at hs
    exact absurd hs (by simp)
  obtain ⟨j, hj, hjn, rfl⟩ := h.only i hi hv
  have hr : hist[j]? = some hist[j] := List.getElem?_eq_getElem hjn
  refine ⟨j, _, hr, hj, rfl, ?_⟩
  rw [h.readValid_held hr hj] at hs
  exact (Option.some.inj hs).symm

/-! ## Making room -/

/-- The partition once the sector under the head has been erased. -/
def FlashLog.eraseHead (log : FlashLog) : FlashArea :=
  { log.area with
    results := log.area.results.tail
    mem := Nor.erase log.area.mem (log.headSlot * flashLogSlotSize) log.sectorSize }

variable {L : Layout} {hist : List (List UInt8)} {lo : Nat} {log : FlashLog}

theorem Ring.headSlot_mod (h : Ring L hist lo log) :
    log.headSlot % log.slotsPerSector = hist.length % L.slots := by
  rw [h.head, h.slotsPerSector, L.mod_total_mod_slots]

theorem Ring.evict_bounds (h : Ring L hist lo log) :
    L.evict hist.length lo ≤ hist.length ∧ L.evict hist.length lo % L.slots = 0 ∧
      lo ≤ L.evict hist.length lo ∧ hist.length < L.evict hist.length lo + L.total :=
  L.evict_bounds h.lo_le h.window h.aligned

/-- At a sector boundary, the loop of `make_room` finds the sector full exactly when the ring
is. -/
theorem Ring.lost (h : Ring L hist lo log) (hb : hist.length % L.slots = 0) :
    (List.range log.slotsPerSector).countP
      (fun i => (SmartTag.readValid log (u32 (log.headSlot + i))).isSome) =
      if hist.length = lo + L.total then L.slots else 0 := by
  have hroom := L.boundary_end_le hb
  have hfits := L.total_fits
  have hpos : ∀ i < L.slots, u32 (log.headSlot + i) = (hist.length + i) % L.total := fun i hi => by
    rw [h.head, L.sector_pos hb hi, u32_of_lt]
    simp only [flashLogSlotSize] at hfits
    omega
  rw [h.slotsPerSector]
  split_ifs with hfull
  · rw [List.countP_eq_length.2, List.length_range]
    intro i hi
    have hi := List.mem_range.1 hi
    have hlt : lo + i < hist.length := by
      have := L.slots_le_total
      omega
    have hlap : (hist.length + i) % L.total = (lo + i) % L.total :=
      Circular.mod_lap (by omega)
    rw [hpos i hi, hlap,
      h.readValid_held (List.getElem?_eq_getElem hlt) (Nat.le_add_right lo i)]
    rfl
  · rw [List.countP_eq_zero]
    intro i hi hsome
    have hi := List.mem_range.1 hi
    obtain ⟨s, hs⟩ := Option.isSome_iff_exists.1 hsome
    rw [hpos i hi] at hs
    obtain ⟨j, r, hr, hj, hij, -⟩ := h.readValid_some (L.mod_total_lt _) hs
    have hjn := (List.getElem?_eq_some_iff.1 hr).1
    have hgap := L.boundary_gap h.aligned hb (by have := h.window; omega)
    have := Circular.mod_inj (by omega) (by omega) hj (by omega) hij
    omega

theorem Ring.makeRoom_mid (h : Ring L hist lo log) (hb : hist.length % L.slots ≠ 0) :
    makeRoom log = (0, log) := by
  rw [SmartTag.makeRoom, h.headSlot_mod, if_pos hb]

theorem Ring.makeRoom_boundary (h : Ring L hist lo log) (hb : hist.length % L.slots = 0) :
    makeRoom log =
      if log.area.results.headD 0 ≠ 0 then
        (log.area.results.headD 0,
          { log with area := { log.area with results := log.area.results.tail } })
      else
        (0, { log with
          area := log.eraseHead
          usedSlots := hist.length - L.evict hist.length lo
          tailSlot := L.evict hist.length lo % L.total }) := by
  have hroom := L.boundary_end_le hb
  have hin : ¬ log.area.faSize < log.headSlot * flashLogSlotSize + log.sectorSize := by
    rw [h.faSize, h.head, h.sectorSize, ← Nat.add_mul]
    exact Nat.not_lt.2 (Nat.mul_le_mul_right _ hroom)
  have hfits := L.total_fits
  have hsl := L.slots_le_total
  have hpos := L.slots_pos
  rw [SmartTag.makeRoom, h.headSlot_mod, if_neg (not_not.2 hb), h.lost hb,
    flashAreaErase_eq hin]
  simp only [FlashLog.eraseHead]
  by_cases herr : log.area.results.headD 0 ≠ 0
  · simp only [herr, if_true, ne_eq, not_false_eq_true]
  · have htail : u32 (log.headSlot + L.slots) % L.total = (hist.length + L.slots) % L.total := by
      rw [h.head, u32_of_lt (by simp only [flashLogSlotSize] at hfits; omega), Nat.mod_add_mod]
    simp only [herr, if_false, ne_eq, not_true_eq_false, Layout.evict, hb, true_and]
    by_cases hfull : hist.length = lo + L.total
    · have hlap : (hist.length + L.slots) % L.total = (lo + L.slots) % L.total :=
        Circular.mod_lap (by omega)
      have hmin : log.usedSlots - min log.usedSlots L.slots = hist.length - (lo + L.slots) := by
        rw [h.used]
        omega
      rw [if_pos hfull, if_pos hpos, if_pos hfull, h.slotsPerSector, h.totalSlots, htail, hlap,
        hmin]
    · rw [if_neg hfull, if_neg (lt_irrefl 0), if_neg hfull, ← h.used, ← h.tail]

theorem Ring.setResults (h : Ring L hist lo log) (rs : List Int) :
    Ring L hist lo { log with area := { log.area with results := rs } } :=
  ⟨⟨⟨⟨h.payload_pos, h.payload_le, h.faSize, h.pageSize, h.openErr, h.pageErr, h.deviceReady⟩,
    h.sectorSize, h.totalSlots, h.slotsPerSector, h.ready⟩, h.lo_le, h.window, h.numbered, h.tail,
    h.used, h.held⟩, h.aligned, h.head, h.next, h.only, h.ahead⟩

/-- Erasing the sector under the head gives room for the next record. -/
theorem Ring.eraseHead (h : Ring L hist lo log) (hb : hist.length % L.slots = 0) :
    Room L hist (L.evict hist.length lo) { log with
      area := log.eraseHead
      usedSlots := hist.length - L.evict hist.length lo
      tailSlot := L.evict hist.length lo % L.total } := by
  obtain ⟨hle, hal, hlo, hfree⟩ := h.evict_bounds
  have hgap := L.boundary_gap hal hb hfree
  have himg : ∀ i, log.eraseHead.image i =
      if hist.length % L.total ≤ i ∧ i < hist.length % L.total + L.slots then blankSlot
      else log.area.image i := fun i => by
    rw [← h.head]
    exact image_erase (by rw [FlashLog.eraseHead, h.sectorSize]) i
  have hin : ∀ i, hist.length % L.total ≤ i → i < hist.length % L.total + L.slots →
      ∃ d < L.slots, i = (hist.length + d) % L.total := fun i hi hi' =>
    ⟨i - hist.length % L.total, by omega, by rw [L.sector_pos hb (by omega)]; omega⟩
  have hmount : Mountable L log.payloadSize log.eraseHead := ⟨h.payload_pos, h.payload_le,
    h.faSize, h.pageSize, h.openErr, h.pageErr, h.deviceReady⟩
  refine ⟨⟨⟨⟨hmount, h.sectorSize, h.totalSlots, h.slotsPerSector, h.ready⟩, hle, by omega,
    h.numbered, rfl, rfl, ?_⟩, hal, h.head, h.next, ?_, fun hne => absurd hb hne⟩, hfree, ?_, ?_⟩
  · intro j r hr hj
    have hjn := (List.getElem?_eq_some_iff.1 hr).1
    rw [himg, if_neg, h.held j r hr (by omega)]
    · rfl
    · intro hwindow
      obtain ⟨h1, h2⟩ := hwindow
      obtain ⟨d, hd, hjd⟩ := hin _ h1 h2
      have := Circular.mod_inj hj (by omega) (by omega) (by omega) hjd
      omega
  · intro i hi hv
    rw [himg] at hv
    split_ifs at hv with hsec
    · rw [not_slotValid_blankSlot] at hv
      exact absurd hv (by simp)
    · obtain ⟨j, hj, hjn, rfl⟩ := h.only i hi hv
      refine ⟨j, ?_, hjn, rfl⟩
      by_contra hlt
      -- A record older than the new tail was in the sector just erased.
      have hfull : hist.length = lo + L.total := by
        by_contra hne
        rw [Layout.evict, if_neg fun hc => hne hc.2] at hlt
        exact hlt hj
      have hd : j - lo < L.slots := by
        rw [Layout.evict, if_pos ⟨hb, hfull⟩] at hlt
        omega
      have hpos := L.sector_pos hb hd
      rw [show hist.length + (j - lo) = j + L.total by omega, Nat.add_mod_right] at hpos
      exact hsec ⟨by omega, by omega⟩
  · intro i hi hi'
    rw [himg, if_pos (by omega)]
  · intro _
    rw [himg, if_pos (by have := L.slots_pos; omega)]

theorem Ring.makeRoom_ok (h : Ring L hist lo log) (hok : (makeRoom log).1 = 0) :
    Room L hist (L.evict hist.length lo) (makeRoom log).2 := by
  by_cases hb : hist.length % L.slots = 0
  · rw [h.makeRoom_boundary hb] at hok ⊢
    split_ifs at hok ⊢ with herr
    · exact absurd hok herr
    · exact h.eraseHead hb
  · have hev : L.evict hist.length lo = lo := if_neg fun hc => hb hc.1
    have hfree := h.evict_bounds.2.2.2
    rw [hev] at hfree ⊢
    rw [h.makeRoom_mid hb]
    exact ⟨h, hfree, h.ahead hb, fun hc => absurd hc hb⟩

theorem Ring.makeRoom_err (h : Ring L hist lo log) (herr : (makeRoom log).1 ≠ 0) :
    makeRoom log = (log.area.results.headD 0,
      { log with area := { log.area with results := log.area.results.tail } }) := by
  by_cases hb : hist.length % L.slots = 0
  · rw [h.makeRoom_boundary hb] at herr ⊢
    split_ifs at herr ⊢ with hc
    · rfl
    · exact absurd rfl herr
  · rw [h.makeRoom_mid hb] at herr
    exact absurd rfl herr

/-! ## Appending -/

/-- The log once `make_room` has succeeded and the slot under the head has been programmed. -/
def FlashLog.written (log : FlashLog) (record : List UInt8) : FlashLog :=
  { log with
    area := { log.area with
      results := log.area.results.tail
      mem := Nor.program log.area.mem (log.headSlot * flashLogSlotSize)
        (nextSlot log record).toBytes }
    tailSlot := if log.usedSlots = 0 then log.headSlot else log.tailSlot
    nextSeq := u32 (log.nextSeq + 1)
    usedSlots := u32 (log.usedSlots + 1)
    headSlot := u32 (log.headSlot + 1) % log.totalSlots }

theorem Ring.nextSlot_toBytes (h : Ring L hist lo log) (record : List UInt8) :
    (nextSlot log record).toBytes = recordImage log hist.length record := by
  rw [nextSlot, h.next, recordImage]

/-- The slot write of an append, on a ring with room. -/
theorem Room.flashAreaWrite (h : Room L hist lo log) (record : List UInt8) :
    flashAreaWrite log.area (log.headSlot * flashLogSlotSize) (nextSlot log record).toBytes =
      if log.area.results.headD 0 ≠ 0 then
        (log.area.results.headD 0, { log.area with results := log.area.results.tail })
      else (0, (log.written record).area) := by
  have hlen : (nextSlot log record).toBytes.length = flashLogSlotSize :=
    length_buildSlot _ _ h.payload_le
  have hend := L.slot_end_le (L.mod_total_lt hist.length)
  exact flashAreaWrite_eq (by rw [hlen, h.faSize, h.head]; omega)

theorem Ring.flashLogAppend (h : Ring L hist lo log) (record : List UInt8) :
    flashLogAppend log record =
      if (makeRoom log).1 ≠ 0 then (.error (makeRoom log).1, (makeRoom log).2)
      else if (makeRoom log).2.area.results.headD 0 ≠ 0 then
        (.error ((makeRoom log).2.area.results.headD 0),
          { (makeRoom log).2 with
            area := { (makeRoom log).2.area with
              results := (makeRoom log).2.area.results.tail } })
      else (.ok (makeRoom log).2.nextSeq, (makeRoom log).2.written record) := by
  rw [SmartTag.flashLogAppend, if_neg (by rw [h.ready]; simp)]
  by_cases hok : (makeRoom log).1 = 0
  · have hroom := h.makeRoom_ok hok
    simp only [hok, ne_eq, not_true_eq_false, if_false, hroom.flashAreaWrite record]
    by_cases herr : (makeRoom log).2.area.results.headD 0 = 0
    · simp only [herr, not_true_eq_false, if_false, FlashLog.written]
      split_ifs <;> rfl
    · simp only [herr, not_false_eq_true, if_true]
  · simp only [hok, ne_eq, not_false_eq_true, if_true]

theorem Room.image_written (h : Room L hist lo log) (record : List UInt8) (i : Nat) :
    (log.written record).area.image i =
      if i = hist.length % L.total then
        Nor.and (log.area.image (hist.length % L.total)) (recordImage log hist.length record)
      else log.area.image i := by
  have hlen : (nextSlot log record).toBytes.length = flashLogSlotSize :=
    length_buildSlot _ _ h.payload_le
  rw [← h.head, ← h.nextSlot_toBytes]
  exact image_program hlen rfl i

/-- The head is not at a slot of the window. -/
theorem Room.pos_ne (h : Room L hist lo log) {j : Nat} (hj : lo ≤ j) (hjn : j < hist.length) :
    j % L.total ≠ hist.length % L.total := by
  intro hpos
  have hfree := h.free
  have heq := Circular.mod_inj hj (by omega) h.lo_le hfree hpos
  exact absurd heq (Nat.ne_of_lt hjn)

theorem Mounted.written {L : Layout} {log : FlashLog} (h : Mounted L log) (record : List UInt8) :
    Mounted L (log.written record) where
  toMountable := ⟨h.payload_pos, h.payload_le, h.faSize, h.pageSize, h.openErr, h.pageErr,
    h.deviceReady⟩
  sectorSize := h.sectorSize
  totalSlots := h.totalSlots
  slotsPerSector := h.slotsPerSector
  ready := h.ready

theorem Room.usedSlots_written (h : Room L hist lo log) (record : List UInt8) :
    (log.written record).usedSlots = hist.length + 1 - lo := by
  have hfits := L.total_fits
  have hfree := h.free
  have hlo := h.lo_le
  simp only [flashLogSlotSize] at hfits
  show u32 (log.usedSlots + 1) = _
  rw [h.used, u32_of_lt (by omega)]
  omega

/-- The first record of an empty ring becomes its tail. -/
theorem Room.tailSlot_written (h : Room L hist lo log) (record : List UInt8) :
    (log.written record).tailSlot = lo % L.total := by
  have hlo := h.lo_le
  show (if log.usedSlots = 0 then log.headSlot else log.tailSlot) = lo % L.total
  split_ifs with hused
  · rw [h.used] at hused
    rw [h.head, show hist.length = lo by omega]
  · exact h.tail

/-- Programming a head slot that covers the new image appends the record to the ring. -/
theorem Room.written (h : Room L hist lo log) (record : List UInt8)
    (hn : hist.length + 2 < 2 ^ 32)
    (hcov : Nor.Covers (log.area.image (hist.length % L.total))
      (recordImage log hist.length record)) :
    Ring L (hist ++ [record]) lo (log.written record) := by
  have hfits := L.total_fits
  have hlt := L.mod_total_lt hist.length
  have hfree := h.free
  have hlo := h.lo_le
  have himg := h.image_written record
  rw [show Nor.and _ _ = recordImage log hist.length record from hcov] at himg
  simp only [flashLogSlotSize] at hfits
  have hlen : (hist ++ [record]).length = hist.length + 1 := by simp
  refine ⟨⟨h.toMounted.written record, ?_, ?_, ?_, h.tailSlot_written record, ?_, ?_⟩,
    h.aligned, ?_, ?_, ?_, ?_⟩
  · rw [hlen]; omega
  · rw [hlen]; omega
  · rw [hlen]; exact hn
  · rw [hlen, h.usedSlots_written record]
  · intro j r hr hj
    rw [himg]
    rcases Nat.lt_or_ge j hist.length with hjn | hjn
    · rw [List.getElem?_append_left hjn] at hr
      rw [if_neg (h.pos_ne hj hjn), h.held j r hr hj]
      rfl
    · have hjlt := (List.getElem?_eq_some_iff.1 hr).1
      obtain rfl : j = hist.length := by omega
      rw [List.getElem?_concat_length] at hr
      obtain rfl := Option.some.inj hr
      rw [if_pos rfl]
      rfl
  · show u32 (log.headSlot + 1) % log.totalSlots = _
    rw [hlen, h.head, h.totalSlots, u32_of_lt (by omega), Circular.mod_succ]
  · show u32 (log.nextSeq + 1) = _
    rw [hlen, h.next, u32_of_lt (by omega)]
  · intro i hi hv
    rw [himg] at hv
    split_ifs at hv with hih
    · exact ⟨hist.length, hlo, by omega, hih⟩
    · obtain ⟨j, hj, hjn, hij⟩ := h.only i hi hv
      exact ⟨j, hj, by omega, hij⟩
  · intro hmid i hi hi'
    rw [hlen] at hmid hi hi'
    obtain ⟨hpos, hsec⟩ := L.mod_succ_of_mid hmid
    rw [himg, if_neg (by omega)]
    exact h.sector i (by omega) (by omega)

/-- After an append, the next slot of the sector is erased. -/
theorem Room.headClear_written (h : Room L hist lo log) (record : List UInt8) :
    HeadClear L (hist ++ [record]) (log.written record) := by
  intro hmid
  have hlen : (hist ++ [record]).length = hist.length + 1 := by simp
  rw [hlen] at hmid ⊢
  obtain ⟨hpos, hsec⟩ := L.mod_succ_of_mid hmid
  have hle : hist.length % L.slots ≤ hist.length % L.total := by
    rw [← L.mod_total_mod_slots]
    exact Nat.mod_le _ _
  have hend := L.mod_slots_lt (hist.length + 1)
  rw [h.image_written, if_neg (by omega)]
  exact h.sector _ (by omega) (by omega)

/-- On an erased head slot every image can be stored. -/
theorem covers_of_blank (h : log.payloadSize ≤ maxPayload) {i : Nat} (j : Nat) (record : List UInt8)
    (hi : log.area.image i = blankSlot) :
    Nor.Covers (log.area.image i) (recordImage log j record) := by
  have hlen := length_buildSlot (j + 1) record h
  rw [hi, blankSlot, ← hlen]
  exact Nor.blank_covers _

end

end SmartTag
