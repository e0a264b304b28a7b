import SmartTag.Storage.Contents

/-!
# Boot, and erasing the log

What `flash_log_init` rebuilds from the partition, and what `flash_log_erase` leaves.

The scan is characterised for any set `V` of surviving records (`Holds`), since corrupted
slots can leave holes; a ring is the case where `V` is the whole window.

* `Holds.scan_eq`: the scan takes the head and the tail from the newest and oldest survivor.
* `Ring.powerOn`: on a non-empty ring a reboot changes nothing.
* `Mounted.flashLogErase`: what an erase does, however many sector erases succeed.
-/

namespace SmartTag

/-! ## Opening the partition -/

/-- The log as `flash_log_init` has it before the scan. -/
def Layout.mounted (L : Layout) (payloadSize : Nat) (area : FlashArea) : FlashLog where
  payloadSize := payloadSize
  area := area
  sectorSize := L.slots * flashLogSlotSize
  totalSlots := L.total
  slotsPerSector := L.slots
  headSlot := 0
  tailSlot := 0
  usedSlots := 0
  nextSeq := 0
  ready := true

theorem Mountable.mounted {L : Layout} {payloadSize : Nat} {area : FlashArea}
    (h : Mountable L payloadSize area) : Mounted L (L.mounted payloadSize area) :=
  ⟨h, rfl, rfl, rfl, rfl⟩

/-- A blank partition: every byte erased, every flash call succeeding. -/
def Layout.blankArea (L : Layout) : FlashArea where
  faSize := L.total * flashLogSlotSize
  faSize_lt := L.total_fits
  pageSize := L.slots * flashLogSlotSize
  mem := fun _ => Nor.erased
  openErr := 0
  pageErr := 0
  deviceReady := true
  results := []

theorem Layout.mountable_blankArea (L : Layout) {payloadSize : Nat} (h : 0 < payloadSize)
    (h' : payloadSize ≤ maxPayload) : Mountable L payloadSize L.blankArea :=
  ⟨h, h', rfl, rfl, rfl, rfl, rfl⟩

theorem image_blankArea (L : Layout) (i : Nat) : L.blankArea.image i = blankSlot := by
  refine List.ext_getElem (by simp [blankSlot]) fun j hj hj' => ?_
  rw [FlashArea.image] at hj
  simp [FlashArea.image, Nor.getElem_read, Layout.blankArea, blankSlot, Nor.blank]

/-! ## Erasing sectors -/

/-- With `n` sectors to erase and return codes `rs`, how many erases succeed before the loop of
`flash_log_erase` stops, and the error it stops with. -/
def sectorsErased : Nat → List Int → Nat × Int
  | 0, _ => (0, 0)
  | n + 1, rs =>
    if rs.headD 0 ≠ 0 then (0, rs.headD 0)
    else ((sectorsErased n rs.tail).1 + 1, (sectorsErased n rs.tail).2)

theorem sectorsErased_nil (n : Nat) : sectorsErased n [] = (n, 0) := by
  induction n with
  | zero => rfl
  | succ n ih => simp [sectorsErased, ih]

/-- The loop reports success exactly when it has erased every sector. -/
theorem sectorsErased_eq_zero_iff (n : Nat) (rs : List Int) :
    (sectorsErased n rs).2 = 0 ↔ (sectorsErased n rs).1 = n := by
  induction n generalizing rs with
  | zero => simp [sectorsErased]
  | succ n ih =>
      rw [sectorsErased]
      split_ifs with herr
      · exact iff_of_false herr (by simp)
      · simpa using ih rs.tail

/-- The loop of `flash_log_erase` at slot `p`, a whole sector being left. -/
theorem eraseLoop_sector {slots total fuel p : Nat} {fa : FlashArea} (hs : 0 < slots)
    (hp : p + slots ≤ total) (hfa : fa.faSize = total * flashLogSlotSize) :
    eraseLoop (slots * flashLogSlotSize) (total * flashLogSlotSize) (fuel + 1) fa
        (p * flashLogSlotSize) =
      if fa.results.headD 0 ≠ 0 then
        (fa.results.headD 0, { fa with results := fa.results.tail })
      else
        eraseLoop (slots * flashLogSlotSize) (total * flashLogSlotSize) fuel
          { fa with
            results := fa.results.tail
            mem := Nor.erase fa.mem (p * flashLogSlotSize) (slots * flashLogSlotSize) }
          ((p + slots) * flashLogSlotSize) := by
  have hlt : p * flashLogSlotSize < total * flashLogSlotSize := by
    simp only [flashLogSlotSize]
    omega
  have hchunk : min (slots * flashLogSlotSize)
      (total * flashLogSlotSize - p * flashLogSlotSize) = slots * flashLogSlotSize := by
    simp only [flashLogSlotSize]
    omega
  have hin : ¬ fa.faSize < p * flashLogSlotSize + slots * flashLogSlotSize := by
    rw [hfa]
    simp only [flashLogSlotSize]
    omega
  rw [eraseLoop, if_pos hlt]
  simp only [hchunk, flashAreaErase_eq hin]
  by_cases herr : fa.results.headD 0 = 0
  · simp only [herr, ne_eq, not_true_eq_false, if_false]
    rw [Nat.add_mul]
  · simp only [herr, ne_eq, not_false_eq_true, if_true]

/-- The loop of `flash_log_erase` from slot `p` on, with `n` sectors to go. -/
theorem eraseLoop_spec {slots total : Nat} (hs : 0 < slots) :
    ∀ (n fuel p : Nat) (fa : FlashArea), n ≤ fuel → p + n * slots = total →
      fa.faSize = total * flashLogSlotSize →
      ∃ fa', eraseLoop (slots * flashLogSlotSize) (total * flashLogSlotSize) fuel fa
          (p * flashLogSlotSize) = ((sectorsErased n fa.results).2, fa') ∧
        (∃ mem rs, fa' = { fa with mem := mem, results := rs }) ∧
        (fa.results = [] → fa'.results = []) ∧
        ∀ i, fa'.image i = if p ≤ i ∧ i < p + (sectorsErased n fa.results).1 * slots then blankSlot
          else fa.image i := by
  intro n
  induction n with
  | zero =>
      intro fuel p fa _ hp _
      refine ⟨fa, ?_, ⟨fa.mem, fa.results, rfl⟩, id, fun i => ?_⟩
      · cases fuel with
        | zero => rfl
        | succ fuel => rw [eraseLoop, if_neg (by simp only [flashLogSlotSize]; omega)]; rfl
      · rw [sectorsErased, if_neg (by omega)]
  | succ n ih =>
      intro fuel p fa hfuel hp hfa
      obtain ⟨fuel, rfl⟩ : ∃ f, fuel = f + 1 := ⟨fuel - 1, by omega⟩
      have hp' : p + slots + n * slots = total := by
        rw [Nat.succ_mul] at hp
        omega
      rw [eraseLoop_sector hs (by omega) hfa, sectorsErased]
      by_cases herr : fa.results.headD 0 = 0
      · simp only [herr, ne_eq, not_true_eq_false, if_false]
        obtain ⟨fa', hrun, ⟨mem, rs, rfl⟩, hres, himg⟩ := ih fuel (p + slots)
          { fa with
            results := fa.results.tail
            mem := Nor.erase fa.mem (p * flashLogSlotSize) (slots * flashLogSlotSize) }
          (by omega) hp' hfa
        refine ⟨_, hrun, ⟨mem, rs, rfl⟩, ?_, fun i => ?_⟩
        · exact fun hnil => hres (by rw [hnil]; rfl)
        · have hstep := @image_erase fa
            { fa with
              results := fa.results.tail
              mem := Nor.erase fa.mem (p * flashLogSlotSize) (slots * flashLogSlotSize) }
            p slots rfl i
          rw [himg i, hstep, Nat.succ_mul]
          simp only
          split_ifs <;> first | rfl | omega
      · simp only [herr, ne_eq, not_false_eq_true, if_true]
        refine ⟨_, rfl, ⟨fa.mem, fa.results.tail, rfl⟩, ?_, fun i => ?_⟩
        · exact fun hnil => by rw [hnil]; rfl
        · rw [if_neg (by omega)]
          rfl

/-- What `flash_log_erase` does: the sectors before the first failing erase are blank, and the
RAM state is reset only if there was none. -/
theorem Mounted.flashLogErase {L : Layout} {log : FlashLog} (h : Mounted L log) :
    ∃ area, Mountable L log.payloadSize area ∧ (log.area.results = [] → area.results = []) ∧
      (∀ i, area.image i =
        if i < (sectorsErased L.sectors log.area.results).1 * L.slots then blankSlot
        else log.area.image i) ∧
      flashLogErase log =
        ((sectorsErased L.sectors log.area.results).2,
          if (sectorsErased L.sectors log.area.results).2 = 0 then
            { log with area := area, headSlot := 0, tailSlot := 0, usedSlots := 0, nextSeq := 1 }
          else { log with area := area }) := by
  have hfuel : L.sectors ≤ L.total := Nat.le_mul_of_pos_right _ L.slots_pos
  have htotal : 0 + L.sectors * L.slots = L.total := Nat.zero_add _
  obtain ⟨area, hrun, ⟨mem, rs, rfl⟩, hres, himg⟩ := eraseLoop_spec L.slots_pos L.sectors L.total 0
    log.area hfuel htotal h.faSize
  refine ⟨{ log.area with mem := mem, results := rs },
    ⟨h.payload_pos, h.payload_le, h.faSize, h.pageSize, h.openErr, h.pageErr, h.deviceReady⟩,
    hres, fun i => ?_, ?_⟩
  · have hi := himg i
    rw [Nat.zero_add] at hi
    simpa only [Nat.zero_le, true_and] using hi
  · rw [Nat.zero_mul] at hrun
    rw [SmartTag.flashLogErase, if_neg (by rw [h.ready]; simp), h.sectorSize, h.totalSlots]
    simp only [hrun]
    by_cases herr : (sectorsErased L.sectors log.area.results).2 = 0
    · rw [if_pos herr, if_pos herr, herr]
    · rw [if_neg herr, if_neg herr]

/-- Writing back what the RAM already holds. -/
theorem FlashLog.with_self {log : FlashLog} {head tail used next : Nat}
    (hhead : head = log.headSlot) (htail : tail = log.tailSlot)
    (hused : used = log.usedSlots) (hnext : next = log.nextSeq) :
    { log with headSlot := head, tailSlot := tail, usedSlots := used, nextSeq := next } = log := by
  subst hhead htail hused hnext
  rfl

section

variable [Crc16]

/-! ## The scan -/

/-- The locals of `scan` after the first `m` slots. -/
structure Scanned (log : FlashLog) (m : Nat) (st : ScanState) : Prop where
  used : st.usedSlots = (List.range m).countP fun i => (readValid log i).isSome
  newest_ge : ∀ i < m, ∀ s, readValid log i = some s → s.seq.toNat ≤ st.newestSeq
  oldest_le : ∀ i < m, ∀ s, readValid log i = some s → st.oldestSeq ≤ s.seq.toNat
  newest : st.newestSeq = 0 ∨ st.newestSlot < m ∧
    ∃ s, readValid log st.newestSlot = some s ∧ s.seq.toNat = st.newestSeq
  oldest : st.oldestSeq = uint32Max ∧ st.tailSlot = 0 ∨ st.tailSlot < m ∧
    ∃ s, readValid log st.tailSlot = some s ∧ s.seq.toNat = st.oldestSeq

theorem scanSlot_none {log : FlashLog} {st : ScanState} {i : Nat} (h : readValid log i = none) :
    scanSlot log st i = st := by
  rw [scanSlot, h]

theorem scanSlot_some {log : FlashLog} {st : ScanState} {i : Nat} {s : Slot}
    (h : readValid log i = some s) :
    scanSlot log st i =
      { usedSlots := st.usedSlots + 1
        newestSeq := max st.newestSeq s.seq.toNat
        newestSlot := if st.newestSeq < s.seq.toNat then i else st.newestSlot
        oldestSeq := min st.oldestSeq s.seq.toNat
        tailSlot := if s.seq.toNat < st.oldestSeq then i else st.tailSlot } := by
  have hmax : max st.newestSeq s.seq.toNat =
      if st.newestSeq < s.seq.toNat then s.seq.toNat else st.newestSeq := by
    split_ifs <;> omega
  have hmin : min st.oldestSeq s.seq.toNat =
      if s.seq.toNat < st.oldestSeq then s.seq.toNat else st.oldestSeq := by
    split_ifs <;> omega
  rw [scanSlot, h, hmax, hmin]
  by_cases hnew : st.newestSeq < s.seq.toNat <;> by_cases hold : s.seq.toNat < st.oldestSeq <;>
    simp only [hnew, hold, if_true, if_false]

theorem Scanned.step {log : FlashLog} {m : Nat} {st : ScanState} (h : Scanned log m st) :
    Scanned log (m + 1) (scanSlot log st m) := by
  have hcount : (List.range (m + 1)).countP (fun i => (readValid log i).isSome) =
      st.usedSlots + if (readValid log m).isSome then 1 else 0 := by
    rw [List.range_succ, List.countP_append, ← h.used, List.countP_singleton]
  -- A valid slot before slot `m + 1` is an earlier one or slot `m` itself.
  have hlast : ∀ i < m + 1, i < m ∨ i = m := fun i hi => Nat.lt_succ_iff_lt_or_eq.1 hi
  cases hv : readValid log m with
  | none =>
      rw [scanSlot_none hv]
      rw [hv] at hcount
      refine ⟨hcount.symm, fun i hi s hs => ?_, fun i hi s hs => ?_, ?_, ?_⟩
      · rcases hlast i hi with hi | rfl
        · exact h.newest_ge i hi s hs
        · exact absurd (hv.symm.trans hs) (by simp)
      · rcases hlast i hi with hi | rfl
        · exact h.oldest_le i hi s hs
        · exact absurd (hv.symm.trans hs) (by simp)
      · exact h.newest.imp_right fun hn => ⟨Nat.lt_succ_of_lt hn.1, hn.2⟩
      · exact h.oldest.imp_right fun hn => ⟨Nat.lt_succ_of_lt hn.1, hn.2⟩
  | some s =>
      rw [scanSlot_some hv]
      rw [hv] at hcount
      refine ⟨hcount.symm, fun i hi s' hs' => ?_, fun i hi s' hs' => ?_, ?_, ?_⟩
      · rcases hlast i hi with hi | rfl
        · exact le_trans (h.newest_ge i hi s' hs') (le_max_left _ _)
        · rw [Option.some.inj (hs'.symm.trans hv)]
          exact le_max_right _ _
      · rcases hlast i hi with hi | rfl
        · exact le_trans (min_le_left _ _) (h.oldest_le i hi s' hs')
        · rw [Option.some.inj (hs'.symm.trans hv)]
          exact min_le_right _ _
      · by_cases hnew : st.newestSeq < s.seq.toNat
        · refine Or.inr ⟨?_, s, ?_, ?_⟩ <;> simp only [hnew, if_true]
          · exact Nat.lt_succ_self m
          · exact hv
          · omega
        · simp only [hnew, if_false, max_eq_left (Nat.le_of_not_lt hnew)]
          exact h.newest.imp_right fun hn => ⟨Nat.lt_succ_of_lt hn.1, hn.2⟩
      · by_cases hold : s.seq.toNat < st.oldestSeq
        · refine Or.inr ⟨?_, s, ?_, ?_⟩ <;> simp only [hold, if_true]
          · exact Nat.lt_succ_self m
          · exact hv
          · omega
        · simp only [hold, if_false, min_eq_left (Nat.le_of_not_lt hold)]
          exact h.oldest.imp_right fun hn => ⟨Nat.lt_succ_of_lt hn.1, hn.2⟩

theorem scanned (log : FlashLog) (m : Nat) : Scanned log m (scanLoop log m) := by
  induction m with
  | zero => exact ⟨rfl, by simp, by simp, Or.inl rfl, Or.inl ⟨rfl, rfl⟩⟩
  | succ m ih =>
      have hstep : scanLoop log (m + 1) = scanSlot log (scanLoop log m) m := by
        rw [scanLoop, scanLoop, List.range_succ, List.foldl_append]
        rfl
      rw [hstep]
      exact ih.step

/-! ## Surviving records -/

/-- The valid slots are those of the records in `V`, all of one window of the history. -/
structure Holds (L : Layout) (hist : List (List UInt8)) (lo : Nat) (V : Nat → Prop)
    (log : FlashLog) : Prop extends Mounted L log where
  window : hist.length ≤ lo + L.total
  numbered : hist.length + 1 < 2 ^ 32
  mem : ∀ j, V j → lo ≤ j ∧ j < hist.length
  slot : ∀ j r, V j → hist[j]? = some r →
    readValid log (j % L.total) = some (buildSlot log.payloadSize (j + 1) r)
  only : ∀ i < L.total, ∀ s, readValid log i = some s →
    ∃ j r, V j ∧ hist[j]? = some r ∧ i = j % L.total ∧ s = buildSlot log.payloadSize (j + 1) r

variable {L : Layout} {hist : List (List UInt8)} {lo : Nat} {log : FlashLog} {V : Nat → Prop}

theorem Ring.holds (h : Ring L hist lo log) :
    Holds L hist lo (fun j => lo ≤ j ∧ j < hist.length) log where
  toMounted := h.toMounted
  window := h.window
  numbered := h.numbered
  mem := fun _ hj => hj
  slot := fun _ _ hj hr => h.readValid_held hr hj.1
  only := fun _ hi _ hs => by
    obtain ⟨j, r, hr, hj, hij, rfl⟩ := h.readValid_some hi hs
    exact ⟨j, r, ⟨hj, (List.getElem?_eq_some_iff.1 hr).1⟩, hr, hij, rfl⟩

/-- A survivor's slot, with its record. -/
theorem Holds.slot_of_mem (h : Holds L hist lo V log) {j : Nat} (hj : V j) :
    ∃ r, hist[j]? = some r ∧
      readValid log (j % L.total) = some (buildSlot log.payloadSize (j + 1) r) :=
  have hr := List.getElem?_eq_getElem (h.mem j hj).2
  ⟨_, hr, h.slot j _ hj hr⟩

theorem Holds.isSome_iff (h : Holds L hist lo V log) {i : Nat} (hi : i < L.total) :
    (readValid log i).isSome = true ↔ ∃ j, V j ∧ i = j % L.total := by
  constructor
  · intro hs
    obtain ⟨s, hs⟩ := Option.isSome_iff_exists.1 hs
    obtain ⟨j, r, hj, -, hij, -⟩ := h.only i hi s hs
    exact ⟨j, hj, hij⟩
  · intro hslot
    obtain ⟨j, hj, rfl⟩ := hslot
    obtain ⟨r, -, hv⟩ := h.slot_of_mem hj
    rw [hv]
    rfl

/-- With a survivor, the scan takes the head from the newest one, the tail from the oldest one
and the count from their number. -/
theorem Holds.scan_eq (h : Holds L hist lo V log) {a b : Nat} (ha : V a) (hb : V b)
    (hV : ∀ j, V j → a ≤ j ∧ j ≤ b) :
    scan log = { log with
      headSlot := (b + 1) % L.total
      tailSlot := a % L.total
      usedSlots := (List.range L.total).countP fun i => (readValid log i).isSome
      nextSeq := b + 2 } := by
  have hst := scanned log L.total
  have hnum := h.numbered
  have hfits := L.total_fits
  simp only [flashLogSlotSize] at hfits
  have hseq : ∀ j r, hist[j]? = some r →
      (buildSlot log.payloadSize (j + 1) r).seq.toNat = j + 1 := fun j r hr => by
    have hj := (List.getElem?_eq_some_iff.1 hr).1
    exact seq_buildSlot r (by omega)
  have hbn := (h.mem b hb).2
  obtain ⟨ra, hra, hva⟩ := h.slot_of_mem ha
  obtain ⟨rb, hrb, hvb⟩ := h.slot_of_mem hb
  have hnew := hst.newest_ge _ (L.mod_total_lt b) _ hvb
  have hold := hst.oldest_le _ (L.mod_total_lt a) _ hva
  rw [hseq b rb hrb] at hnew
  rw [hseq a ra hra] at hold
  have hab := (hV a ha).2
  have hnewest : (scanLoop log L.total).newestSeq = b + 1 ∧
      (scanLoop log L.total).newestSlot = b % L.total := by
    rcases hst.newest with hz | ⟨hlt, s, hs, hsn⟩
    · omega
    · obtain ⟨j, r, hj, hr, hij, rfl⟩ := h.only _ hlt s hs
      rw [hseq j r hr] at hsn
      obtain rfl : j = b := by have := (hV j hj).2; omega
      exact ⟨hsn.symm, hij⟩
  have holdest : (scanLoop log L.total).tailSlot = a % L.total := by
    rcases hst.oldest with ⟨hz, -⟩ | ⟨hlt, s, hs, hsn⟩
    · rw [hz, uint32Max] at hold
      omega
    · obtain ⟨j, r, hj, hr, hij, rfl⟩ := h.only _ hlt s hs
      rw [hseq j r hr] at hsn
      obtain rfl : j = a := by have := (hV j hj).1; omega
      exact hij
  have hused : (scanLoop log L.total).usedSlots ≠ 0 := by
    rw [hst.used, List.countP_eq_length_filter, ne_eq, List.length_eq_zero_iff,
      List.filter_eq_nil_iff]
    intro hc
    exact hc _ (List.mem_range.2 (L.mod_total_lt a)) (by rw [hva]; rfl)
  have hmod := L.mod_total_lt b
  rw [SmartTag.scan, h.totalSlots]
  simp only [hused, if_false, hnewest, holdest]
  rw [hst.used, u32_of_lt (by omega), u32_of_lt (by omega), Nat.mod_add_mod]

/-- With no survivor, the scan starts an empty log. -/
theorem Holds.scan_nil (h : Holds L hist lo V log) (hV : ∀ j, ¬ V j) :
    SmartTag.scan log =
      { log with headSlot := 0, tailSlot := 0, usedSlots := 0, nextSeq := 1 } := by
  have hst := scanned log L.total
  have hnone : ∀ i < L.total, (readValid log i).isSome ≠ true := fun i hi hs => by
    obtain ⟨j, hj, -⟩ := (h.isSome_iff hi).1 hs
    exact hV j hj
  have hused : (scanLoop log L.total).usedSlots = 0 := by
    rw [hst.used, List.countP_eq_zero]
    exact fun i hi => hnone i (List.mem_range.1 hi)
  have htail : (scanLoop log L.total).tailSlot = 0 := by
    rcases hst.oldest with ⟨-, hz⟩ | ⟨hlt, s, hs, -⟩
    · exact hz
    · exact absurd (by rw [hs]; rfl) (hnone _ hlt)
  rw [SmartTag.scan, h.totalSlots]
  simp only [hused, if_true, htail]

/-! ## Mounting -/

/-- The scan does not look at the ready flag. -/
theorem scan_ready (log : FlashLog) :
    ({ SmartTag.scan log with ready := true } : FlashLog) =
      SmartTag.scan { log with ready := true } := by
  have hloop : scanLoop { log with ready := true } log.totalSlots =
      scanLoop log log.totalSlots := rfl
  simp only [SmartTag.scan, hloop]
  split_ifs <;> rfl

theorem Mountable.flashLogInit {payloadSize : Nat} {area : FlashArea}
    (h : Mountable L payloadSize area) :
    flashLogInit (FlashLog.declare payloadSize area) =
      (0, SmartTag.scan (L.mounted payloadSize area)) := by
  have hfits := L.total_fits
  have hle := L.slots_le_total
  have hpos := L.slots_pos
  have hslots : u32 (L.slots * flashLogSlotSize / flashLogSlotSize) = L.slots := by
    rw [Nat.mul_div_cancel _ (by decide), u32_of_lt]
    simp only [flashLogSlotSize] at hfits
    omega
  have htotal : u32 (L.total * flashLogSlotSize / flashLogSlotSize) = L.total := by
    rw [Nat.mul_div_cancel _ (by decide), u32_of_lt]
    simp only [flashLogSlotSize] at hfits
    omega
  have hwhole : L.total - L.total % L.slots = L.total := by
    rw [Layout.total, Nat.mul_mod_left, Nat.sub_zero]
  have hpay : ¬ (payloadSize = 0 ∨ maxPayload < payloadSize) := by
    have h1 := h.payload_pos
    have h2 := h.payload_le
    omega
  have hsize : ¬ (L.slots = 0 ∨ L.total < L.slots) := by omega
  simp only [SmartTag.flashLogInit, FlashLog.declare, if_neg hpay, h.openErr, h.pageErr,
    h.deviceReady, h.pageSize, h.faSize, hslots, htotal, if_neg hsize, hwhole, ne_eq,
    not_true_eq_false, if_false]
  exact congrArg (Prod.mk 0) (scan_ready _)

/-- A reboot is a scan: everything else `flash_log_init` sets is as it was. -/
theorem Mounted.powerOn (h : Mounted L log) : powerOn log = SmartTag.scan log := by
  have hlog : log = { L.mounted log.payloadSize log.area with
      headSlot := log.headSlot
      tailSlot := log.tailSlot
      usedSlots := log.usedSlots
      nextSeq := log.nextSeq } := by
    have h1 := h.sectorSize
    have h2 := h.totalSlots
    have h3 := h.slotsPerSector
    have h4 := h.ready
    cases log
    simp only at h1 h2 h3 h4
    subst h1 h2 h3 h4
    rfl
  rw [SmartTag.powerOn, h.toMountable.flashLogInit]
  conv_rhs => rw [hlog]
  rfl

/-- An empty log on a partition without valid slots is the empty ring. -/
theorem Mounted.ring_nil (h : Mounted L log)
    (hblank : ∀ i < L.total, slotValid (Slot.ofBytes (log.area.image i)) = false)
    (hhead : log.headSlot = 0) (htail : log.tailSlot = 0) (hused : log.usedSlots = 0)
    (hnext : log.nextSeq = 1) : Ring L [] 0 log where
  toMounted := h
  lo_le := Nat.zero_le _
  window := Nat.zero_le _
  aligned := Nat.zero_mod _
  numbered := by simp
  head := by rw [hhead]; exact (Nat.zero_mod _).symm
  tail := by rw [htail]; exact (Nat.zero_mod _).symm
  used := hused
  next := hnext
  held := fun j r hr _ => by simp at hr
  only := fun i hi hv => by
    rw [hblank i hi] at hv
    exact absurd hv (by simp)
  ahead := fun hne => absurd (Nat.zero_mod _) hne

/-- A ring survives a reboot unchanged, unless all its records have been dropped. -/
theorem Ring.powerOn (h : Ring L hist lo log) (hne : lo < hist.length ∨ hist = []) :
    powerOn log = log := by
  have hhead := h.head
  have htail := h.tail
  have hused := h.used
  have hnext := h.next
  rw [h.toMounted.powerOn]
  rcases hne with hlt | rfl
  · have hcount := Circular.countP_window h.window fun i hi => by
      rw [h.holds.isSome_iff hi]
      simp only [and_assoc]
    rw [h.holds.scan_eq (a := lo) (b := hist.length - 1) ⟨le_refl lo, hlt⟩
      ⟨by omega, by omega⟩ (fun j hj => ⟨hj.1, by omega⟩), hcount]
    refine FlashLog.with_self ?_ htail.symm hused.symm ?_
    · rw [hhead, Nat.sub_add_cancel (by omega)]
    · omega
  · have hlo : lo = 0 := Nat.le_zero.1 h.lo_le
    have h0 : 0 % L.total = 0 := Nat.zero_mod _
    rw [List.length_nil, h0] at hhead
    rw [hlo, h0] at htail
    rw [h.holds.scan_nil (fun j hj => absurd hj.2 (by simp))]
    exact FlashLog.with_self hhead.symm htail.symm (by rw [hused, hlo]; rfl) (by rw [hnext]; rfl)

/-- A ring whose records have all been dropped comes back as the empty ring, numbering from 1. -/
theorem Ring.powerOn_dropped (h : Ring L hist lo log) (hlo : lo = hist.length) :
    Ring L [] 0 (SmartTag.powerOn log) ∧ (SmartTag.powerOn log).area = log.area ∧
      (SmartTag.powerOn log).payloadSize = log.payloadSize := by
  have hnone : ∀ i < L.total, slotValid (Slot.ofBytes (log.area.image i)) = false := by
    intro i hi
    by_contra hv
    obtain ⟨j, hj, hjn, -⟩ := h.only i hi (by simpa using hv)
    omega
  have hscan := h.holds.scan_nil fun j hj => by
    have := hj.1
    have := hj.2
    omega
  have hm := h.toMounted
  rw [h.toMounted.powerOn, hscan]
  exact ⟨Mounted.ring_nil ⟨hm.toMountable, hm.sectorSize, hm.totalSlots, hm.slotsPerSector,
    hm.ready⟩ hnone rfl rfl rfl rfl, rfl, rfl⟩

/-! ## Erasing the log -/

/-- A successful erase leaves the empty ring, whatever the log was before. -/
theorem Mounted.ring_erase (h : Mounted L log)
    (hok : (sectorsErased L.sectors log.area.results).2 = 0) :
    (SmartTag.flashLogErase log).1 = 0 ∧ Ring L [] 0 (SmartTag.flashLogErase log).2 ∧
      (SmartTag.flashLogErase log).2.payloadSize = log.payloadSize ∧
      (log.area.results = [] → (SmartTag.flashLogErase log).2.area.results = []) := by
  obtain ⟨area, hm, hres, himg, hrun⟩ := h.flashLogErase
  rw [hrun, if_pos hok]
  refine ⟨hok, Mounted.ring_nil ⟨hm, h.sectorSize, h.totalSlots, h.slotsPerSector, h.ready⟩ ?_ rfl
    rfl rfl rfl, rfl, hres⟩
  intro i hi
  rw [(sectorsErased_eq_zero_iff _ _).1 hok] at himg
  have hblank : area.image i = blankSlot := (himg i).trans (if_pos hi)
  rw [hblank]
  exact not_slotValid_blankSlot

end

end SmartTag
