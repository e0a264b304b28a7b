import SmartTag.Storage.History

/-!
# Invalid slots

What the read functions find when slots of a ring have become invalid: corrupted, or erased by
an interrupted erase of the log. The scan counts the valid slots, and `flash_log_read` takes the
count for a distance from the tail. The two agree as long as the surviving sequence numbers
follow one another.

* `Holds.span`: without a gap, the survivors are a span from the tail.
* `Holds.length_readSlots_lt`: with a gap, the read stops before the newest survivor.
* `read_skips_invalid_iff`: every read is right exactly when there is no gap.
-/

namespace SmartTag

section

variable [Crc16] {L : Layout} {hist : List (List UInt8)} {lo : Nat} {log : FlashLog}
  {V : Nat → Prop}

/-! ## Exact reads and gaps -/

/-- A read over the whole log returns the payloads of exactly the valid slots numbered `startSeq`
or more, each once, by increasing number. -/
def ReadsExactly (log : FlashLog) (startSeq : Nat) : Prop :=
  ∃ slots : List Slot,
    flashLogRead log startSeq log.totalSlots =
      .ok (slots.map fun s => s.payload.take log.payloadSize) ∧
    slots.Pairwise (fun s t => s.seq.toNat < t.seq.toNat) ∧
    ∀ s, s ∈ slots ↔
      (∃ i < log.totalSlots, readValid log i = some s) ∧ startSeq ≤ s.seq.toNat

/-- The sequence numbers of the valid slots. -/
def validSeqs (log : FlashLog) : List Nat :=
  (List.range log.totalSlots).filterMap fun i => (readValid log i).map fun s => s.seq.toNat

/-- Every number between those of two valid slots is that of a valid slot. -/
def NoGap (log : FlashLog) : Prop :=
  ∀ a ∈ validSeqs log, ∀ b ∈ validSeqs log, ∀ q < b, a < q → q ∈ validSeqs log

instance (log : FlashLog) : Decidable (NoGap log) :=
  inferInstanceAs (Decidable (∀ a ∈ validSeqs log, ∀ b ∈ validSeqs log, ∀ q < b, a < q → _))

/-! ## Survivors -/

theorem Holds.seq_slot (h : Holds L hist lo V log) {j : Nat} (hj : V j) (r : List UInt8) :
    (buildSlot log.payloadSize (j + 1) r).seq.toNat = j + 1 := by
  have := h.numbered
  have := (h.mem j hj).2
  exact seq_buildSlot r (by omega)

theorem Holds.mem_validSeqs (h : Holds L hist lo V log) {q : Nat} :
    q ∈ validSeqs log ↔ ∃ j, V j ∧ q = j + 1 := by
  simp only [validSeqs, List.mem_filterMap, List.mem_range, Option.map_eq_some_iff, h.totalSlots]
  constructor
  · intro hmem
    obtain ⟨i, hi, s, hs, rfl⟩ := hmem
    obtain ⟨j, r, hj, -, -, rfl⟩ := h.only i hi s hs
    exact ⟨j, hj, h.seq_slot hj r⟩
  · intro hmem
    obtain ⟨j, hj, rfl⟩ := hmem
    obtain ⟨r, -, hv⟩ := h.slot_of_mem hj
    exact ⟨j % L.total, L.mod_total_lt j, _, hv, h.seq_slot hj r⟩

/-- Gaps in the numbers are gaps among the survivors. -/
theorem Holds.noGap_iff (h : Holds L hist lo V log) :
    NoGap log ↔ ∀ a b j, V a → V b → a < j → j < b → V j := by
  simp only [NoGap, h.mem_validSeqs]
  constructor
  · intro hgap a b j ha hb haj hjb
    obtain ⟨j', hj', heq⟩ := hgap (a + 1) ⟨a, ha, rfl⟩ (b + 1) ⟨b, hb, rfl⟩ (j + 1) (by omega)
      (by omega)
    obtain rfl : j = j' := by omega
    exact hj'
  · rintro hV _ ⟨a, ha, rfl⟩ _ ⟨b, hb, rfl⟩ q hqb haq
    exact ⟨q - 1, hV a b (q - 1) ha hb (by omega) (by omega), by omega⟩

/-- There is an oldest and a newest survivor. -/
theorem Holds.exists_bounds (h : Holds L hist lo V log) {j : Nat} (hj : V j) :
    ∃ a b, V a ∧ V b ∧ ∀ i, V i → a ≤ i ∧ i ≤ b := by
  classical
  have hex : ∃ i, V i := ⟨j, hj⟩
  have hbound : ∀ i, V i → i ≤ hist.length := fun i hi => (h.mem i hi).2.le
  refine ⟨Nat.find hex, Nat.findGreatest V hist.length, Nat.find_spec hex,
    Nat.findGreatest_spec (hbound j hj) hj, fun i hi => ⟨Nat.find_min' hex hi,
    Nat.le_findGreatest (hbound i hi) hi⟩⟩

/-- The count of the scan, as a count of survivors. -/
theorem Holds.countP (h : Holds L hist lo V log) [DecidablePred V] {a b : Nat} (ha : V a)
    (hb : V b) (hV : ∀ j, V j → a ≤ j ∧ j ≤ b) :
    (List.range L.total).countP (fun i => (readValid log i).isSome) =
      (List.range' a (b + 1 - a)).countP fun j => decide (V j) := by
  have hall : ∀ i < L.total, (readValid log i).isSome = true ↔
      ∃ j, lo ≤ j ∧ j < hist.length ∧ decide (V j) = true ∧ i = j % L.total := by
    intro i hi
    rw [h.isSome_iff hi]
    constructor
    · intro hslot
      obtain ⟨j, hj, hij⟩ := hslot
      exact ⟨j, (h.mem j hj).1, (h.mem j hj).2, decide_eq_true hj, hij⟩
    · intro hslot
      obtain ⟨j, -, -, hj, hij⟩ := hslot
      exact ⟨j, of_decide_eq_true hj, hij⟩
  rw [Circular.countP_survivors h.window hall]
  exact Circular.countP_between (h.mem a ha).1 (hV a ha).2 (h.mem b hb).2
    fun j hj => hV j (of_decide_eq_true hj)

/-! ## Without a gap -/

/-- Without a gap, the scan makes the survivors a span from the tail. -/
theorem Holds.span (h : Holds L hist lo V log) {a b : Nat} (hV : ∀ j, V j ↔ a ≤ j ∧ j ≤ b)
    (hab : a ≤ b) : Span L (hist.take (b + 1)) a (SmartTag.scan log) := by
  classical
  have ha : V a := (hV a).2 ⟨le_refl a, hab⟩
  have hb : V b := (hV b).2 ⟨hab, le_refl b⟩
  have hbn := (h.mem b hb).2
  have hlo := (h.mem a ha).1
  have hw := h.window
  have hnum := h.numbered
  have hlen : (hist.take (b + 1)).length = b + 1 := by
    rw [List.length_take]
    omega
  have hcount : (List.range L.total).countP (fun i => (readValid log i).isSome) = b + 1 - a := by
    rw [h.countP ha hb fun j hj => (hV j).1 hj, List.countP_eq_length.2, List.length_range']
    intro j hj
    have := List.mem_range'_1.1 hj
    exact decide_eq_true ((hV j).2 (by omega))
  rw [h.scan_eq ha hb fun j hj => (hV j).1 hj, hcount]
  refine ⟨⟨h.toMountable, h.sectorSize, h.totalSlots, h.slotsPerSector, h.ready⟩, ?_, ?_, ?_, rfl,
    ?_, ?_⟩
  · rw [hlen]; omega
  · rw [hlen]; omega
  · rw [hlen]; omega
  · rw [hlen]
  · intro j r hr hj
    have hjb : j < b + 1 := by
      have := (List.getElem?_eq_some_iff.1 hr).1
      omega
    rw [List.getElem?_take_of_lt hjb] at hr
    have hv := h.slot j r ((hV j).2 ⟨hj, by omega⟩) hr
    have himg := h.readValid (L.mod_total_lt j)
    rw [himg] at hv
    split_ifs at hv
    · rw [recordImage, ← Option.some.inj hv]
      exact (Slot.toBytes_ofBytes (length_image _ _)).symm

theorem Span.readsExactly (h : Span L hist lo log) (startSeq : Nat)
    (honly : ∀ i < L.total, ∀ s, SmartTag.readValid log i = some s →
      ∃ j r, lo ≤ j ∧ hist[j]? = some r ∧ s = buildSlot log.payloadSize (j + 1) r) :
    ReadsExactly log startSeq := by
  have hshort : ((retained hist lo).filter fun p => decide (startSeq ≤ p.2)).length ≤
      log.totalSlots := by
    have := List.length_filter_le (fun p => decide (startSeq ≤ p.2)) (retained hist lo)
    rw [length_retained] at this
    have := h.window
    rw [h.totalSlots]
    omega
  have hslots := h.readSlots startSeq log.totalSlots
  rw [List.take_of_length_le hshort] at hslots
  refine ⟨SmartTag.readSlots log startSeq log.totalSlots, ?_, ?_, fun s => ?_⟩
  · rw [SmartTag.flashLogRead, if_neg (by rw [h.ready]; simp)]
  · exact h.pairwise_readSlots startSeq _
  · rw [hslots, List.mem_map, h.totalSlots]
    constructor
    · intro hmem
      obtain ⟨p, hp, rfl⟩ := hmem
      obtain ⟨hp, hge⟩ := List.mem_filter.1 hp
      obtain ⟨j, hj, hr, hp2⟩ := mem_retained hp
      refine ⟨⟨j % L.total, L.mod_total_lt j, ?_⟩, ?_⟩
      · rw [h.readValid_held hr hj, recordSlot, hp2]
      · rw [h.seq_recordSlot hp]
        exact of_decide_eq_true hge
    · intro hmem
      obtain ⟨⟨i, hi, hs⟩, hge⟩ := hmem
      obtain ⟨j, r, hj, hr, rfl⟩ := honly i hi s hs
      rw [seq_buildSlot r (h.seq_lt hr)] at hge
      refine ⟨(r, j + 1), List.mem_filter.2 ⟨?_, decide_eq_true hge⟩, rfl⟩
      rw [retained_eq, List.mem_iff_getElem?]
      exact ⟨j - lo, by simp [List.getElem?_drop, show lo + (j - lo) = j by omega, hr]; omega⟩

/-! ## With a gap -/

/-- With a gap, a read over the whole log returns fewer records than survive. -/
theorem Holds.length_readSlots_lt (h : Holds L hist lo V log) [DecidablePred V] {a b g : Nat}
    (ha : V a) (hb : V b) (hV : ∀ j, V j → a ≤ j ∧ j ≤ b) (hag : a < g) (hgb : g < b)
    (hg : ¬ V g) (max : Nat) :
    (readSlots (SmartTag.scan log) 0 max).length <
      (List.range' a (b + 1 - a)).countP fun j => decide (V j) := by
  have hw := h.window
  have hfits := L.total_fits
  have hmod := L.mod_total_lt a
  have hbn := (h.mem b hb).2
  have hlo := (h.mem a ha).1
  simp only [flashLogSlotSize] at hfits
  rw [h.scan_eq ha hb hV, h.countP ha hb hV]
  generalize hused : ((List.range' a (b + 1 - a)).countP fun j => decide (V j)) = used
  -- The gap makes the count fall short of the distance.
  have hshort : used < b + 1 - a := by
    rw [← hused]
    have hle := List.countP_le_length (p := fun j => decide (V j)) (l := List.range' a (b + 1 - a))
    rw [List.length_range'] at hle
    refine lt_of_le_of_ne hle fun heq => hg ?_
    have hall := List.countP_eq_length.1 (heq.trans List.length_range'.symm)
    exact of_decide_eq_true (hall g (List.mem_range'_1.2 (by omega)))
  have hcut : ((List.range' a used).countP fun j => decide (V j)) < used := by
    have hsplit := @List.range'_append_1 a used (b + 1 - a - used)
    rw [show used + (b + 1 - a - used) = b + 1 - a by omega] at hsplit
    have hpos : 0 < (List.range' (a + used) (b + 1 - a - used)).countP fun j => decide (V j) :=
      List.countP_pos_iff.2 ⟨b, List.mem_range'_1.2 (by omega), decide_eq_true hb⟩
    rw [← hsplit, List.countP_append] at hused
    omega
  refine lt_of_le_of_lt ?_ hcut
  rw [readSlots_eq]
  refine (List.length_take_le' _ _).trans ?_
  rw [List.length_filterMap_eq_countP]
  have hseek : ∀ log : FlashLog, seekFirst log 0 = 0 := by
    intro log
    rw [seekFirst]
    split_ifs with h0
    · cases readValid log log.tailSlot with
      | none => rfl
      | some s => rfl
    · rfl
  have hrange : List.range' a used = (List.range' 0 used).map (a + ·) := by
    rw [List.map_add_range', Nat.add_zero]
  rw [hseek, Nat.sub_zero, hrange, List.countP_map]
  refine List.countP_mono_left fun i hi hsome => ?_
  have hi : i < used := by simpa using hi
  obtain ⟨s, hs⟩ := Option.isSome_iff_exists.1 hsome
  rw [candidate, Option.filter_eq_some_iff] at hs
  have hpos : u32 (a % L.total + i) % L.total = (a + i) % L.total := by
    rw [u32_of_lt (by omega), Nat.mod_add_mod]
  have hv : readValid log (u32 (a % L.total + i) % log.totalSlots) = some s := hs.1
  rw [h.totalSlots, hpos] at hv
  obtain ⟨j, r, hj, -, hij, -⟩ := h.only _ (L.mod_total_lt _) s hv
  have hjb := h.mem j hj
  obtain rfl := Circular.mod_inj (by omega : lo ≤ a + i) (by omega) hjb.1 (by omega) hij
  exact decide_eq_true hj

/-- A read that is right finds all survivors. -/
theorem Holds.countP_le_of_readsExactly (h : Holds L hist lo V log) [DecidablePred V] {a b : Nat}
    (ha : V a) (hb : V b) (hV : ∀ j, V j → a ≤ j ∧ j ≤ b) (hread : ReadsExactly (scan log) 0) :
    ((List.range' a (b + 1 - a)).countP fun j => decide (V j)) ≤
      (readSlots (scan log) 0 L.total).length := by
  obtain ⟨slots, hout, -, hmem⟩ := hread
  have hscan := h.scan_eq ha hb hV
  have hready : (scan log).ready = true := by
    rw [hscan]
    exact h.ready
  have hT : (scan log).totalSlots = L.total := by
    rw [hscan]
    exact h.totalSlots
  have hlen : (readSlots (scan log) 0 L.total).length = slots.length := by
    rw [flashLogRead, if_neg (by rw [hready]; simp), hT] at hout
    simpa using congrArg List.length (Except.ok.inj hout)
  -- Every survivor's slot is among the slots read, each under its own number.
  have hsub : (((List.range' a (b + 1 - a)).filter fun j => decide (V j)).map (· + 1)) ⊆
      slots.map fun s => s.seq.toNat := by
    intro q hq
    obtain ⟨j, hj, rfl⟩ := List.mem_map.1 hq
    have hj := of_decide_eq_true (List.mem_filter.1 hj).2
    obtain ⟨r, -, hv⟩ := h.slot_of_mem hj
    refine List.mem_map.2 ⟨_, (hmem _).2 ⟨⟨j % L.total, ?_, ?_⟩, Nat.zero_le _⟩, h.seq_slot hj r⟩
    · rw [hT]
      exact L.mod_total_lt j
    · rw [hscan]
      exact hv
  have hnodup : (((List.range' a (b + 1 - a)).filter fun j => decide (V j)).map (· + 1)).Nodup :=
    (List.Nodup.filter _ List.nodup_range').map fun _ _ heq => Nat.succ.inj heq
  have hle := (List.subperm_of_subset hnodup hsub).length_le
  rw [List.length_map, List.length_map, ← List.countP_eq_length_filter] at hle
  rw [hlen]
  exact hle

/-! ## Damaged partitions -/

/-- After a boot, every read is right exactly when the survivors leave no gap. -/
theorem Holds.readsExactly_iff (h : Holds L hist lo V log) :
    (∀ startSeq, ReadsExactly (scan log) startSeq) ↔ NoGap log := by
  classical
  rw [h.noGap_iff]
  by_cases hsome : ∃ j, V j
  · obtain ⟨j, hj⟩ := hsome
    obtain ⟨a, b, ha, hb, hV⟩ := h.exists_bounds hj
    have hscan := h.scan_eq ha hb hV
    constructor
    · intro hread a' b' g ha' hb' hag hgb
      by_contra hg
      have hlt := h.length_readSlots_lt ha hb hV (by have := hV a' ha'; omega)
        (by have := hV b' hb'; omega) hg L.total
      have := h.countP_le_of_readsExactly ha hb hV (hread 0)
      omega
    · intro hgap startSeq
      have hiff : ∀ i, V i ↔ a ≤ i ∧ i ≤ b := by
        intro i
        refine ⟨hV i, fun hi => ?_⟩
        rcases eq_or_lt_of_le hi.1 with rfl | hlo
        · exact ha
        · rcases eq_or_lt_of_le hi.2 with rfl | hhi
          · exact hb
          · exact hgap a b i ha hb hlo hhi
      refine (h.span hiff (hV a ha).2).readsExactly startSeq fun i hi s hs => ?_
      have hs : readValid log i = some s := by
        rw [hscan] at hs
        exact hs
      obtain ⟨i', r, hi', hr, -, rfl⟩ := h.only i hi s hs
      refine ⟨i', r, (hV i' hi').1, ?_, ?_⟩
      · rw [List.getElem?_take_of_lt (Nat.lt_succ_of_le (hV i' hi').2)]
        exact hr
      · rw [hscan]
  · have hnone : ∀ j, ¬ V j := fun j hj => hsome ⟨j, hj⟩
    refine iff_of_true (fun startSeq => ?_) fun a _ _ ha => absurd ha (hnone a)
    have hscan := h.scan_nil hnone
    refine ⟨[], ?_, List.Pairwise.nil, fun s => iff_of_false List.not_mem_nil ?_⟩
    · rw [hscan, flashLogRead, if_neg (by rw [h.ready]; simp), readSlots_eq, Nat.zero_sub]
      simp
    · intro hmem
      obtain ⟨⟨i, hi, hs⟩, -⟩ := hmem
      rw [hscan] at hi hs
      rw [h.totalSlots] at hi
      obtain ⟨j, -, hj, -⟩ := h.only i hi s hs
      exact hnone j hj

/-- Making slots of a ring invalid leaves the other records in their slots. -/
theorem Ring.holds_damaged (h : Ring L hist lo log) {mem : Nor.Memory}
    (hdamage : ∀ i < L.total,
      ({ log.area with mem := mem } : FlashArea).image i = log.area.image i ∨
        slotValid (Slot.ofBytes (({ log.area with mem := mem } : FlashArea).image i)) = false) :
    Holds L hist lo
      (fun j => lo ≤ j ∧ j < hist.length ∧ slotValid (Slot.ofBytes
        (({ log.area with mem := mem } : FlashArea).image (j % L.total))) = true)
      { log with area := { log.area with mem := mem } } := by
  have hm : Mounted L { log with area := { log.area with mem := mem } } :=
    ⟨⟨h.payload_pos, h.payload_le, h.faSize, h.pageSize, h.openErr, h.pageErr, h.deviceReady⟩,
      h.sectorSize, h.totalSlots, h.slotsPerSector, h.ready⟩
  -- A slot that is still valid has not been touched.
  have hkept : ∀ i < L.total,
      slotValid (Slot.ofBytes (({ log.area with mem := mem } : FlashArea).image i)) = true →
        SmartTag.readValid { log with area := { log.area with mem := mem } } i =
          SmartTag.readValid log i ∧ slotValid (Slot.ofBytes (log.area.image i)) = true := by
    intro i hi hv
    rcases hdamage i hi with himg | hinv
    · rw [hm.readValid hi, h.readValid hi]
      show (if slotValid (Slot.ofBytes (({ log.area with mem := mem } : FlashArea).image i))
        then _ else _) = _ ∧ _
      rw [himg] at hv ⊢
      exact ⟨rfl, hv⟩
    · exact absurd (hv.symm.trans hinv) (by simp)
  refine ⟨hm, h.window, h.numbered, fun j hj => ⟨hj.1, hj.2.1⟩, fun j r hj hr => ?_,
    fun i hi s hs => ?_⟩
  · rw [(hkept _ (L.mod_total_lt j) hj.2.2).1]
    exact h.readValid_held hr hj.1
  · have hv :
        slotValid (Slot.ofBytes (({ log.area with mem := mem } : FlashArea).image i)) = true := by
      by_contra hne
      rw [hm.readValid hi, if_neg hne] at hs
      exact absurd hs (by simp)
    rw [(hkept i hi hv).1] at hs
    obtain ⟨j, r, hr, hj, rfl, rfl⟩ := h.readValid_some hi hs
    exact ⟨j, r, ⟨hj, (List.getElem?_eq_some_iff.1 hr).1, hv⟩, hr, rfl, rfl⟩

/-- Take the partition after any run of appends, make any set of slots invalid and boot: every
read returns exactly the records still valid if and only if their numbers leave no gap. -/
theorem read_skips_invalid_iff (L : Layout) (payloadSize : Nat) (hpos : 0 < payloadSize)
    (hle : payloadSize ≤ maxPayload) (records : List (List UInt8))
    (hn : records.length < 2 ^ 32 - 1) (mem : Nor.Memory) :
    let boot := (flashLogInit (FlashLog.declare payloadSize L.blankArea)).2
    let log := runOps boot (records.map LogOp.append)
    let damaged : FlashArea := { log.area with mem := mem }
    (∀ i < L.total, damaged.image i = log.area.image i ∨
      slotValid (Slot.ofBytes (damaged.image i)) = false) →
    ((∀ startSeq, ReadsExactly (powerOn { log with area := damaged }) startSeq) ↔
      NoGap { log with area := damaged }) := by
  intro boot log damaged hdamage
  obtain ⟨-, href, hres, -⟩ := L.refines_blank hpos hle
  obtain ⟨-, -, -, hrun⟩ := runOps_refines href.toMounted hres href (records.map LogOp.append)
  have happ := appended_map_append records
  obtain ⟨H, -, -, hH⟩ := hrun (by rw [happ]; exact hn)
  have hholds := hH.toRing.holds_damaged hdamage
  rw [hholds.toMounted.powerOn]
  exact hholds.readsExactly_iff

end

/-- The log of three records in one sector of four slots, and the same with the second slot
zeroed. -/
def threeRecords : FlashLog :=
  runOps (flashLogInit (FlashLog.declare 1 oneSector.blankArea)).2
    [.append [1], .append [2], .append [3]]

def threeRecordsDamaged : FlashLog :=
  { threeRecords with
    area := { threeRecords.area with
      mem := fun a => if 32 ≤ a ∧ a < 64 then 0 else threeRecords.area.mem a } }

/-- Record 3 is still valid, and the read stops after record 1. -/
theorem read_misses_valid_slot :
    (∀ i < 4, threeRecordsDamaged.area.image i = threeRecords.area.image i ∨
      slotValid (Slot.ofBytes (threeRecordsDamaged.area.image i)) = false) ∧
    ¬ ReadsExactly (powerOn threeRecordsDamaged) 0 := by
  refine ⟨by decide +kernel, ?_⟩
  intro hreads
  obtain ⟨slots, hread, -, hmem⟩ := hreads
  have hone : flashLogRead (powerOn threeRecordsDamaged) 0
      (powerOn threeRecordsDamaged).totalSlots = .ok [[1]] := by decide +kernel
  have hlen : slots.length = 1 := by
    rw [hone] at hread
    simpa using (congrArg List.length (Except.ok.inj hread)).symm
  obtain ⟨s, rfl⟩ := List.length_eq_one_iff.1 hlen
  have h1 := (hmem (buildSlot 1 1 [1])).2 ⟨⟨0, by decide +kernel⟩, Nat.zero_le _⟩
  have h3 := (hmem (buildSlot 1 3 [3])).2 ⟨⟨2, by decide +kernel⟩, Nat.zero_le _⟩
  have heq := (List.mem_singleton.1 h1).trans (List.mem_singleton.1 h3).symm
  exact absurd heq (by decide +kernel)

/-- With the oldest record damaged instead there is no gap, and the read is right. -/
theorem read_skips_oldest :
    ReadsExactly (powerOn { threeRecords with
      area := { threeRecords.area with
        mem := fun a => if a < 32 then 0 else threeRecords.area.mem a } }) 0 :=
  (read_skips_invalid_iff ⟨1, 4, by decide, by decide, by decide⟩ 1 (by decide) (by decide)
    [[1], [2], [3]] (by decide) (fun a => if a < 32 then 0 else threeRecords.area.mem a)
    (by decide +kernel)).2 (by decide +kernel) 0

end SmartTag
