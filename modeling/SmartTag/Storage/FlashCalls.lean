import SmartTag.Lib.Run
import SmartTag.Storage.Faults
import SmartTag.Storage.PowerLoss

/-!
# The flash calls of a log

What a log does to its medium: the erase and write calls it makes, in their order, with whatever
they return. `FlashCall.run` is one call on the partition, and the partition after an operation of
the log is the one its calls leave.

* `flashLogAppend_area`, `flashLogErase_area`: the calls of an operation account for its partition.
* `HeadSpace`: from the head to the end of its sector the flash is erased, or the head is about to
  enter a sector.
* `flash_calls_disciplined`: every erase is of one sector, every write is of one slot whose bytes
  are all erased, whichever erases and writes fail.
-/

namespace SmartTag

/-- An erase or write call of the flash driver. -/
inductive FlashCall where
  | erase (off len : Nat)
  | write (off : Nat) (bytes : List UInt8)
deriving DecidableEq, Repr

def FlashCall.run (fa : FlashArea) : FlashCall → FlashArea
  | .erase off len => (flashAreaErase fa off len).2
  | .write off bytes => (flashAreaWrite fa off bytes).2

/-- The call erases one sector of the layout, or writes one slot on erased bytes. -/
def FlashCall.Proper (L : Layout) (fa : FlashArea) : FlashCall → Prop
  | .erase off len =>
    ∃ sector < L.sectors, off = sector * L.slots * flashLogSlotSize ∧
      len = L.slots * flashLogSlotSize
  | .write off bytes =>
    ∃ i < L.total, off = i * flashLogSlotSize ∧ bytes.length = flashLogSlotSize ∧
      fa.image i = blankSlot

/-- The end of the sector slot `i` is in. -/
def Layout.sectorEnd (L : Layout) (i : Nat) : Nat := i - i % L.slots + L.slots

section

variable [Crc16]

/-! ## The calls of an operation -/

/-- The call of `make_room`. -/
def makeRoomCalls (log : FlashLog) : List FlashCall :=
  if log.headSlot % log.slotsPerSector ≠ 0 then []
  else [.erase (log.headSlot * flashLogSlotSize) log.sectorSize]

/-- The calls of `flash_log_append`. -/
def appendCalls (log : FlashLog) (record : List UInt8) : List FlashCall :=
  if ¬ log.ready then []
  else
    let (err, roomy) := makeRoom log
    makeRoomCalls log ++
      if err ≠ 0 then []
      else [.write (roomy.headSlot * flashLogSlotSize) (nextSlot roomy record).toBytes]

/-- The calls of the loop of `flash_log_erase`. -/
def eraseLoopCalls (sectorSize total : Nat) : Nat → FlashArea → Nat → List FlashCall
  | 0, _, _ => []
  | fuel + 1, area, offset =>
    if offset < total then
      let chunk := min sectorSize (total - offset)
      let (err, area) := flashAreaErase area offset chunk
      .erase offset chunk ::
        if err ≠ 0 then [] else eraseLoopCalls sectorSize total fuel area (offset + chunk)
    else []

def eraseCalls (log : FlashLog) : List FlashCall :=
  if ¬ log.ready then []
  else
    eraseLoopCalls log.sectorSize (log.totalSlots * flashLogSlotSize) log.totalSlots log.area 0

theorem makeRoom_area (log : FlashLog) :
    (makeRoom log).2.area = Run.final FlashCall.run log.area (makeRoomCalls log) := by
  rw [makeRoom, makeRoomCalls]
  split_ifs
  · rfl
  · dsimp only
    split_ifs <;> rfl

/-- The partition after an append is the one its calls leave. -/
theorem flashLogAppend_area (log : FlashLog) (record : List UInt8) :
    (flashLogAppend log record).2.area =
      Run.final FlashCall.run log.area (appendCalls log record) := by
  rw [flashLogAppend, appendCalls]
  by_cases hready : log.ready = true
  · simp only [hready, not_true_eq_false, if_false]
    rw [Run.final_append, ← makeRoom_area]
    split_ifs <;> rfl
  · rw [if_pos hready, if_pos hready]
    rfl

omit [Crc16] in
theorem eraseLoop_area (sectorSize total fuel : Nat) (area : FlashArea) (offset : Nat) :
    (eraseLoop sectorSize total fuel area offset).2 =
      Run.final FlashCall.run area (eraseLoopCalls sectorSize total fuel area offset) := by
  induction fuel generalizing area offset with
  | zero => rfl
  | succ fuel ih =>
      rw [eraseLoop, eraseLoopCalls]
      split_ifs
      · dsimp only
        rw [Run.final_cons]
        split_ifs
        · rfl
        · exact ih _ _
      · rfl

omit [Crc16] in
/-- The partition after an erase of the log is the one its calls leave. -/
theorem flashLogErase_area (log : FlashLog) :
    (flashLogErase log).2.area = Run.final FlashCall.run log.area (eraseCalls log) := by
  rw [flashLogErase, eraseCalls]
  by_cases hready : log.ready = true
  · simp only [hready, not_true_eq_false, if_false]
    rw [← eraseLoop_area]
    split_ifs <;> rfl
  · rw [if_pos hready, if_pos hready]
    rfl

def LogOp.calls (log : FlashLog) : LogOp → List FlashCall
  | .append record => appendCalls log record
  | .erase => eraseCalls log

/-! ## Room for the head -/

/-- Unless the head is about to enter a sector, the flash from it to the end of its sector is
erased. -/
structure HeadSpace (L : Layout) (log : FlashLog) : Prop extends Mounted L log where
  head_lt : log.headSlot < L.total
  blank : log.headSlot % L.slots ≠ 0 → ∀ i, log.headSlot ≤ i →
    i < L.sectorEnd log.headSlot → log.area.image i = blankSlot

/-- The same once `make_room` has succeeded, wherever the head is. -/
structure HeadRoom (L : Layout) (log : FlashLog) : Prop extends Mounted L log where
  head_lt : log.headSlot < L.total
  blank : ∀ i, log.headSlot ≤ i → i < L.sectorEnd log.headSlot → log.area.image i = blankSlot

variable {L : Layout} {log : FlashLog}

omit [Crc16] in
/-- Calls that leave the medium as it was. -/
theorem HeadSpace.setResults (h : HeadSpace L log) (results : List Int) :
    HeadSpace L { log with area := { log.area with results := results } } :=
  ⟨⟨⟨h.payload_pos, h.payload_le, h.faSize, h.pageSize, h.openErr, h.pageErr, h.deviceReady⟩,
    h.sectorSize, h.totalSlots, h.slotsPerSector, h.ready⟩, h.head_lt, h.blank⟩

omit [Crc16] in
/-- The sector the head enters. -/
theorem HeadSpace.sector (h : HeadSpace L log) (hb : log.headSlot % L.slots = 0) :
    ∃ sector < L.sectors, log.headSlot = sector * L.slots ∧ log.headSlot + L.slots ≤ L.total := by
  have hpos := L.slots_pos
  have hhead : log.headSlot = log.headSlot / L.slots * L.slots :=
    (Nat.div_mul_cancel (Nat.dvd_of_mod_eq_zero hb)).symm
  have hend := L.boundary_end_le hb
  rw [Nat.mod_eq_of_lt h.head_lt] at hend
  exact ⟨log.headSlot / L.slots, Nat.div_lt_of_lt_mul ((Nat.mul_comm _ _).symm ▸ h.head_lt), hhead,
    hend⟩

/-- At a boundary, `make_room` erases the sector under the head. The count and the tail do not
matter here. -/
theorem makeRoom_entering (hb : ¬ log.headSlot % log.slotsPerSector ≠ 0) :
    ∃ used tail, makeRoom log =
      ((flashAreaErase log.area (log.headSlot * flashLogSlotSize) log.sectorSize).1,
        { log with
          area := (flashAreaErase log.area (log.headSlot * flashLogSlotSize) log.sectorSize).2
          usedSlots := used
          tailSlot := tail }) := by
  rw [makeRoom, if_neg hb]
  dsimp only
  split_ifs with herr hlost
  · exact ⟨log.usedSlots, log.tailSlot, rfl⟩
  · exact ⟨_, _, Prod.ext (not_not.1 herr).symm rfl⟩
  · exact ⟨log.usedSlots, log.tailSlot, Prod.ext (not_not.1 herr).symm rfl⟩

theorem HeadSpace.makeRoom (h : HeadSpace L log) :
    (makeRoom log).2.headSlot = log.headSlot ∧ HeadSpace L (makeRoom log).2 ∧
      Run.Along FlashCall.run (FlashCall.Proper L) log.area (makeRoomCalls log) ∧
      ((makeRoom log).1 = 0 → HeadRoom L (makeRoom log).2) := by
  by_cases hb : log.headSlot % L.slots = 0
  · obtain ⟨sector, hsector, hhead, hend⟩ := h.sector hb
    have hin : ¬ log.area.faSize < log.headSlot * flashLogSlotSize + log.sectorSize := by
      rw [h.faSize, h.sectorSize, ← Nat.add_mul]
      exact Nat.not_lt.2 (Nat.mul_le_mul_right _ hend)
    have hm := h.toMountable.touched (touched_flashAreaErase log.area
      (log.headSlot * flashLogSlotSize) log.sectorSize)
    have henter : ¬ log.headSlot % log.slotsPerSector ≠ 0 := by
      rw [h.slotsPerSector]
      exact not_not.2 hb
    obtain ⟨used, tail, hroom⟩ := makeRoom_entering henter
    rw [hroom, makeRoomCalls, if_neg henter]
    have hproper : FlashCall.Proper L log.area
        (.erase (log.headSlot * flashLogSlotSize) log.sectorSize) :=
      ⟨sector, hsector, by rw [hhead], h.sectorSize⟩
    refine ⟨rfl, ⟨⟨hm, h.sectorSize, h.totalSlots, h.slotsPerSector, h.ready⟩, h.head_lt,
      fun hne => absurd hb hne⟩, ⟨hproper, trivial⟩, fun hok => ⟨⟨hm, h.sectorSize, h.totalSlots,
      h.slotsPerSector, h.ready⟩, h.head_lt, fun i hi hi' => ?_⟩⟩
    rw [flashAreaErase_eq hin] at hok ⊢
    split_ifs at hok ⊢ with herr
    · exact absurd hok herr
    · have hi' : i < L.sectorEnd log.headSlot := hi'
      rw [Layout.sectorEnd, hb, Nat.sub_zero] at hi'
      exact (image_erase (by rw [h.sectorSize]) i).trans (if_pos ⟨hi, hi'⟩)
  · rw [SmartTag.makeRoom, makeRoomCalls, h.slotsPerSector, if_pos hb, if_pos hb]
    exact ⟨rfl, h, trivial, fun _ => ⟨h.toMounted, h.head_lt, h.blank hb⟩⟩

/-- The log once the slot under the head has been written. -/
theorem HeadRoom.written (h : HeadRoom L log) (record : List UInt8) :
    HeadSpace L (log.written record) := by
  have hlt := h.head_lt
  have hfits := L.total_fits
  simp only [flashLogSlotSize] at hfits
  have hlen : (nextSlot log record).toBytes.length = flashLogSlotSize :=
    length_buildSlot _ _ h.payload_le
  have hnext : (log.written record).headSlot = (log.headSlot + 1) % L.total := by
    show u32 (log.headSlot + 1) % log.totalSlots = _
    rw [h.totalSlots, u32_of_lt (by omega)]
  refine ⟨h.toMounted.written record, ?_, ?_⟩
  · rw [hnext]
    exact L.mod_total_lt _
  · intro hmid i hi hi'
    rw [hnext, L.mod_total_mod_slots] at hmid
    obtain ⟨hpos, hsec⟩ := L.mod_succ_of_mid hmid
    rw [Nat.mod_eq_of_lt hlt] at hpos
    rw [hnext, hpos] at hi hi'
    rw [Layout.sectorEnd] at hi'
    have himg : (log.written record).area.image i = _ := image_program hlen rfl i
    rw [himg, if_neg (by omega)]
    exact h.blank i (by omega) (by rw [Layout.sectorEnd]; omega)

/-- An append makes proper calls, whatever they return. -/
theorem HeadSpace.append (h : HeadSpace L log) (record : List UInt8) :
    HeadSpace L (flashLogAppend log record).2 ∧
      Run.Along FlashCall.run (FlashCall.Proper L) log.area (appendCalls log record) := by
  obtain ⟨-, hspace, hcalls, hroom⟩ := h.makeRoom
  rw [flashLogAppend, appendCalls]
  simp only [h.ready, not_true_eq_false, if_false]
  by_cases hok : (SmartTag.makeRoom log).1 = 0
  · have hr := hroom hok
    have hlt := hr.head_lt
    have hpos := L.mod_slots_lt (SmartTag.makeRoom log).2.headSlot
    have hblank : (SmartTag.makeRoom log).2.area.image (SmartTag.makeRoom log).2.headSlot =
        blankSlot := by
      have hle := Nat.mod_le (SmartTag.makeRoom log).2.headSlot L.slots
      exact hr.blank _ le_rfl (by rw [Layout.sectorEnd]; omega)
    have hlen : (nextSlot (SmartTag.makeRoom log).2 record).toBytes.length = flashLogSlotSize :=
      length_buildSlot _ _ hr.payload_le
    have hend := L.slot_end_le hlt
    have hproper : FlashCall.Proper L (SmartTag.makeRoom log).2.area
        (.write ((SmartTag.makeRoom log).2.headSlot * flashLogSlotSize)
          (nextSlot (SmartTag.makeRoom log).2 record).toBytes) := ⟨_, hlt, rfl, hlen, hblank⟩
    simp only [hok, ne_eq, not_true_eq_false, if_false]
    constructor
    · rw [flashAreaWrite_eq (by rw [hlen, hr.faSize]; omega)]
      by_cases herr : (SmartTag.makeRoom log).2.area.results.headD 0 = 0
      · have hwritten := hr.written record
        simp only [herr, not_true_eq_false, if_false, ne_eq]
        rw [FlashLog.written] at hwritten
        split_ifs at hwritten ⊢ <;> exact hwritten
      · simp only [herr, not_false_eq_true, if_true, ne_eq]
        exact hspace.setResults _
    · exact Run.along_append hcalls (by rw [← makeRoom_area]; exact ⟨hproper, trivial⟩)
  · simp only [hok, ne_eq, not_false_eq_true, if_true, List.append_nil]
    exact ⟨hspace, hcalls⟩

omit [Crc16] in
/-- The chunk the loop of `flash_log_erase` takes is sector `p`. -/
theorem Layout.sector_chunk {p : Nat}
    (h : p * (L.slots * flashLogSlotSize) < L.total * flashLogSlotSize) :
    p < L.sectors ∧ min (L.slots * flashLogSlotSize)
      (L.total * flashLogSlotSize - p * (L.slots * flashLogSlotSize)) =
        L.slots * flashLogSlotSize := by
  have htotal : L.total * flashLogSlotSize = L.sectors * (L.slots * flashLogSlotSize) := by
    rw [Layout.total, Nat.mul_assoc]
  rw [htotal] at h ⊢
  have hsector : p < L.sectors := Nat.lt_of_mul_lt_mul_right h
  have hle := Nat.mul_le_mul_right (L.slots * flashLogSlotSize) hsector
  rw [Nat.succ_mul] at hle
  exact ⟨hsector, by omega⟩

omit [Crc16] in
/-- The calls of the loop of `flash_log_erase`, from sector `p` on. -/
theorem proper_eraseLoopCalls (fuel p : Nat) (area : FlashArea) :
    Run.Along FlashCall.run (FlashCall.Proper L) area
      (eraseLoopCalls (L.slots * flashLogSlotSize) (L.total * flashLogSlotSize) fuel area
        (p * (L.slots * flashLogSlotSize))) := by
  induction fuel generalizing p area with
  | zero => trivial
  | succ fuel ih =>
      rw [eraseLoopCalls]
      split_ifs with hmore
      · obtain ⟨hsector, hchunk⟩ := Layout.sector_chunk hmore
        simp only [hchunk]
        refine ⟨⟨p, hsector, (Nat.mul_assoc _ _ _).symm, rfl⟩, ?_⟩
        split_ifs
        · trivial
        · have hnext := ih (p + 1)
            (flashAreaErase area (p * (L.slots * flashLogSlotSize)) (L.slots * flashLogSlotSize)).2
          rw [Nat.succ_mul] at hnext
          exact hnext
      · trivial

omit [Crc16] in
/-- An erase of the log makes proper calls, and leaves what it does not erase. -/
theorem HeadSpace.erase (h : HeadSpace L log) :
    HeadSpace L (flashLogErase log).2 ∧
      Run.Along FlashCall.run (FlashCall.Proper L) log.area (eraseCalls log) := by
  constructor
  · obtain ⟨area, hm, -, himg, hrun⟩ := h.toMounted.flashLogErase
    rw [hrun]
    split_ifs
    · exact ⟨⟨hm, h.sectorSize, h.totalSlots, h.slotsPerSector, h.ready⟩, L.total_pos,
        fun hne => absurd (Nat.zero_mod _) hne⟩
    · refine ⟨⟨hm, h.sectorSize, h.totalSlots, h.slotsPerSector, h.ready⟩, h.head_lt,
        fun hmid i hi hi' => ?_⟩
      show area.image i = blankSlot
      rw [himg]
      split_ifs
      · rfl
      · exact h.blank hmid i hi hi'
  · rw [eraseCalls, h.ready, h.sectorSize, h.totalSlots]
    have hcalls := proper_eraseLoopCalls (L := L) L.total 0 log.area
    rw [Nat.zero_mul] at hcalls
    exact hcalls

/-! ## The order of the slots -/

/-- The valid slot at an index of the partition. -/
def FlashArea.valid (fa : FlashArea) (i : Nat) : Option Slot :=
  if slotValid (Slot.ofBytes (fa.image i)) then some (Slot.ofBytes (fa.image i)) else none

theorem valid_blank {fa : FlashArea} {i : Nat} (h : fa.image i = blankSlot) : fa.valid i = none := by
  rw [FlashArea.valid, h, not_slotValid_blankSlot]
  rfl

theorem valid_congr {fa fa' : FlashArea} {i : Nat} (h : fa'.image i = fa.image i) :
    fa'.valid i = fa.valid i := by
  rw [FlashArea.valid, FlashArea.valid, h]

/-- Within a sector the valid slots follow one another in the order of their numbers, all below
the next one, and the head comes right after the last of its sector. -/
structure Orderly (L : Layout) (log : FlashLog) : Prop where
  positive : 0 < log.nextSeq
  numbered : ∀ i < L.total, ∀ s, log.area.valid i = some s →
    0 < s.seq.toNat ∧ s.seq.toNat < log.nextSeq
  follows : ∀ i, i + 1 < L.total → (i + 1) % L.slots ≠ 0 → ∀ s, log.area.valid i = some s →
    (∃ t, log.area.valid (i + 1) = some t ∧ s.seq.toNat < t.seq.toNat) ∨
      ∀ j, i < j → j < L.sectorEnd i → log.area.image j = blankSlot
  chain : ∀ i, log.headSlot - log.headSlot % L.slots ≤ i → i + 1 < log.headSlot →
    ∀ s, log.area.valid i = some s →
      ∃ t, log.area.valid (i + 1) = some t ∧ s.seq.toNat < t.seq.toNat

omit [Crc16] in
/-- A sector starts at a boundary. -/
theorem Layout.sector_start (L : Layout) (i : Nat) : (i - i % L.slots) % L.slots = 0 :=
  Nat.mod_eq_zero_of_dvd (Nat.dvd_sub_mod i)

omit [Crc16] in
/-- Inside a sector there is no boundary. -/
theorem Layout.mod_of_between (L : Layout) {b n : Nat} (hb : b % L.slots = 0) (hle : b ≤ n)
    (hend : n < b + L.slots) : n % L.slots = n - b := by
  obtain ⟨d, rfl⟩ := Nat.exists_eq_add_of_le hle
  rw [Nat.add_mod, hb, Nat.zero_add, Nat.mod_mod, Nat.mod_eq_of_lt (by omega)]
  omega

/-- Erasing whole sectors keeps the order. -/
theorem Orderly.erased (h : Orderly L log) {log' : FlashLog} (hhead : log'.headSlot = log.headSlot)
    (hnext : log'.nextSeq = log.nextSeq) {gone : Nat → Prop} [DecidablePred gone]
    (hgone : ∀ i, (i + 1) % L.slots ≠ 0 → (gone i ↔ gone (i + 1)))
    (himg : ∀ i, log'.area.image i = if gone i then blankSlot else log.area.image i) :
    Orderly L log' := by
  have hkept : ∀ i s, log'.area.valid i = some s → ¬ gone i ∧ log.area.valid i = some s := by
    intro i s hs
    have hi := himg i
    by_cases hg : gone i
    · rw [if_pos hg] at hi
      rw [valid_blank hi] at hs
      exact absurd hs (by simp)
    · rw [if_neg hg] at hi
      rw [valid_congr hi] at hs
      exact ⟨hg, hs⟩
  have hsucc : ∀ i, (i + 1) % L.slots ≠ 0 → ¬ gone i →
      log'.area.valid (i + 1) = log.area.valid (i + 1) := by
    intro i hmid hg
    exact valid_congr ((himg _).trans (if_neg fun hg' => hg ((hgone i hmid).2 hg')))
  refine ⟨?_, ?_, ?_, ?_⟩
  · rw [hnext]
    exact h.positive
  · intro i hi s hs
    rw [hnext]
    exact h.numbered i hi s (hkept i s hs).2
  · intro i hi hmid s hs
    obtain ⟨hg, hs⟩ := hkept i s hs
    rw [hsucc i hmid hg]
    refine (h.follows i hi hmid s hs).imp_right fun hblank j hj hj' => ?_
    rw [himg]
    split_ifs
    · rfl
    · exact hblank j hj hj'
  · intro i hi hi' s hs
    rw [hhead] at hi hi'
    obtain ⟨hg, hs⟩ := hkept i s hs
    have hlt := L.mod_slots_lt log.headSlot
    have hmid : (i + 1) % L.slots ≠ 0 := by
      rw [L.mod_of_between (L.sector_start log.headSlot) (by omega) (by omega)]
      omega
    rw [hsucc i hmid hg]
    exact h.chain i hi hi' s hs

/-- A slot written on the room under the head takes its place in the order. -/
theorem Orderly.written (h : Orderly L log) (hroom : HeadRoom L log)
    (hn : log.nextSeq < 2 ^ 32 - 1) (record : List UInt8) : Orderly L (log.written record) := by
  have hlt := hroom.head_lt
  have hpos := h.positive
  have hfits := L.total_fits
  simp only [flashLogSlotSize] at hfits
  have hend : log.headSlot < L.sectorEnd log.headSlot := by
    have := L.mod_slots_lt log.headSlot
    have := Nat.mod_le log.headSlot L.slots
    rw [Layout.sectorEnd]
    omega
  have hlen : (nextSlot log record).toBytes.length = flashLogSlotSize :=
    length_buildSlot _ _ hroom.payload_le
  have himg (i : Nat) : (log.written record).area.image i = _ := image_program hlen rfl i
  have hbytes : Nor.and (log.area.image log.headSlot) (nextSlot log record).toBytes =
      (nextSlot log record).toBytes := by
    rw [hroom.blank _ le_rfl hend, blankSlot, ← hlen]
    exact Nor.blank_covers _
  have hnew : (log.written record).area.valid log.headSlot = some (nextSlot log record) := by
    rw [FlashArea.valid, himg, if_pos rfl, hbytes, Slot.ofBytes_toBytes]
    exact if_pos (slotValid_buildSlot _ _ _)
  have hseq : (nextSlot log record).seq.toNat = log.nextSeq := seq_buildSlot record (by omega)
  have hold : ∀ i, i ≠ log.headSlot → (log.written record).area.valid i = log.area.valid i :=
    fun i hi => valid_congr ((himg i).trans (if_neg hi))
  have hnext : (log.written record).nextSeq = log.nextSeq + 1 := u32_of_lt (by omega)
  have hhead : (log.written record).headSlot = (log.headSlot + 1) % L.total := by
    show u32 (log.headSlot + 1) % log.totalSlots = _
    rw [hroom.totalSlots, u32_of_lt (by omega)]
  refine ⟨by omega, ?_, ?_, ?_⟩
  · intro i hi s hs
    rw [hnext]
    by_cases hih : i = log.headSlot
    · rw [hih, hnew] at hs
      obtain rfl := Option.some.inj hs
      omega
    · rw [hold i hih] at hs
      have := h.numbered i hi s hs
      omega
  · intro i hi hmid s hs
    by_cases hih : i = log.headSlot
    · -- What comes after the head is still erased.
      subst hih
      refine Or.inr fun j hj hj' => ?_
      rw [himg, if_neg (by omega)]
      exact hroom.blank j (by omega) hj'
    · rw [hold i hih] at hs
      by_cases hprev : i + 1 = log.headSlot
      · have hlt := h.numbered i (by omega) s hs
        exact Or.inl ⟨_, by rw [hprev]; exact hnew, by omega⟩
      · rw [hold _ hprev]
        by_cases hsector : log.headSlot - log.headSlot % L.slots ≤ i ∧ i + 1 < log.headSlot
        · exact Or.inl (h.chain i hsector.1 hsector.2 s hs)
        · refine (h.follows i hi hmid s hs).imp_right fun hblank j hj hj' => ?_
          rw [himg, if_neg ?_]
          · exact hblank j hj hj'
          · rintro rfl
            have hi' := Nat.mod_le i L.slots
            rw [Layout.sectorEnd] at hj'
            have hmod := L.mod_of_between (L.sector_start i) (n := log.headSlot) (by omega) hj'
            exact hsector (by omega)
  · intro i hi hi' s hs
    rw [hhead, L.mod_total_mod_slots] at hi
    rw [hhead] at hi'
    by_cases hb : (log.headSlot + 1) % L.slots = 0
    · omega
    · obtain ⟨hpos', hsec⟩ := L.mod_succ_of_mid hb
      rw [Nat.mod_eq_of_lt hlt] at hpos'
      rw [hold i (by omega)] at hs
      by_cases hprev : i + 1 = log.headSlot
      · have := h.numbered i (by omega) s hs
        exact ⟨_, by rw [hprev]; exact hnew, by omega⟩
      · rw [hold _ hprev]
        exact h.chain i (by omega) (by omega) s hs

/-! ## Operations and reboots -/

theorem Orderly.makeRoom (h : Orderly L log) (hs : HeadSpace L log) :
    Orderly L (makeRoom log).2 := by
  by_cases hb : log.headSlot % L.slots = 0
  · obtain ⟨-, -, -, hend⟩ := hs.sector hb
    have henter : ¬ log.headSlot % log.slotsPerSector ≠ 0 := by
      rw [hs.slotsPerSector]
      exact not_not.2 hb
    have hin : ¬ log.area.faSize < log.headSlot * flashLogSlotSize + log.sectorSize := by
      rw [hs.faSize, hs.sectorSize, ← Nat.add_mul]
      exact Nat.not_lt.2 (Nat.mul_le_mul_right _ hend)
    obtain ⟨used, tail, hroom⟩ := makeRoom_entering henter
    rw [hroom, flashAreaErase_eq hin]
    split_ifs
    · exact ⟨h.positive, h.numbered, h.follows, h.chain⟩
    · refine h.erased rfl rfl (fun i hmid => ?_) fun i => image_erase (by rw [hs.sectorSize]) i
      have hne : log.headSlot ≠ i + 1 := fun heq => hmid (heq ▸ hb)
      have hne' : log.headSlot + L.slots ≠ i + 1 := by
        intro heq
        rw [← heq, Nat.add_mod_right] at hmid
        exact hmid hb
      omega
  · rw [SmartTag.makeRoom, hs.slotsPerSector, if_pos hb]
    exact h

theorem nextSeq_makeRoom (log : FlashLog) : (makeRoom log).2.nextSeq = log.nextSeq := by
  rw [makeRoom]
  split_ifs
  · rfl
  · dsimp only
    split_ifs <;> rfl

theorem Orderly.append (h : Orderly L log) (hs : HeadSpace L log) (hn : log.nextSeq < 2 ^ 32 - 1)
    (record : List UInt8) :
    Orderly L (flashLogAppend log record).2 ∧
      (flashLogAppend log record).2.nextSeq ≤ log.nextSeq + 1 := by
  obtain ⟨-, -, -, hroom⟩ := hs.makeRoom
  have horder := h.makeRoom hs
  have hseq := nextSeq_makeRoom log
  rw [flashLogAppend, if_neg (by rw [hs.ready]; simp)]
  by_cases hok : (SmartTag.makeRoom log).1 = 0
  · have hr := hroom hok
    have hlen : (nextSlot (SmartTag.makeRoom log).2 record).toBytes.length = flashLogSlotSize :=
      length_buildSlot _ _ hr.payload_le
    have hend := L.slot_end_le hr.head_lt
    simp only [hok, ne_eq, not_true_eq_false, if_false]
    rw [flashAreaWrite_eq (by rw [hlen, hr.faSize]; omega)]
    by_cases herr : (SmartTag.makeRoom log).2.area.results.headD 0 = 0
    · have hwritten := horder.written hr (by omega) record
      have hnext : u32 ((SmartTag.makeRoom log).2.nextSeq + 1) ≤ log.nextSeq + 1 := by
        rw [hseq]
        exact Nat.mod_le _ _
      simp only [herr, not_true_eq_false, if_false, ne_eq]
      rw [FlashLog.written] at hwritten
      split_ifs at hwritten ⊢ <;> exact ⟨hwritten, hnext⟩
    · simp only [herr, not_false_eq_true, if_true, ne_eq]
      exact ⟨⟨horder.positive, horder.numbered, horder.follows, horder.chain⟩, by omega⟩
  · simp only [hok, ne_eq, not_false_eq_true, if_true]
    exact ⟨horder, by omega⟩

theorem Orderly.erase (h : Orderly L log) (hs : HeadSpace L log) :
    Orderly L (flashLogErase log).2 ∧ (flashLogErase log).2.nextSeq ≤ log.nextSeq := by
  have hpos := h.positive
  obtain ⟨area, -, -, himg, hrun⟩ := hs.toMounted.flashLogErase
  rw [hrun]
  split_ifs with hok
  · -- Nothing is left.
    have hnone : ∀ i, i < L.total → area.valid i = none := by
      intro i hi
      rw [(sectorsErased_eq_zero_iff _ _).1 hok] at himg
      exact valid_blank ((himg i).trans (if_pos hi))
    refine ⟨⟨Nat.one_pos, fun i hi s hs => ?_, fun i hi _ s hs => ?_, fun i hi hi' => ?_⟩, hpos⟩
    · exact absurd ((hnone i hi).symm.trans hs) (by simp)
    · exact absurd ((hnone i (by omega)).symm.trans hs) (by simp)
    · exact absurd hi' (Nat.not_lt_zero _)
  · refine ⟨h.erased rfl rfl (fun i hmid => ?_) himg, le_rfl⟩
    have hne : (sectorsErased L.sectors log.area.results).1 * L.slots ≠ i + 1 := by
      intro heq
      rw [← heq, Nat.mul_mod_left] at hmid
      exact hmid rfl
    omega

/-- The scan of a boot finds room for the head, wherever the newest slot is. -/
theorem Orderly.powerOn (h : Orderly L log) (hs : HeadSpace L log) (hn : log.nextSeq < 2 ^ 32) :
    HeadSpace L (powerOn log) ∧ Orderly L (powerOn log) ∧ (powerOn log).area = log.area ∧
      (powerOn log).nextSeq ≤ log.nextSeq := by
  have hpos := h.positive
  have hst := scanned log L.total
  have hvalid : ∀ i < L.total, readValid log i = log.area.valid i :=
    fun i hi => hs.toMounted.readValid hi
  rw [hs.toMounted.powerOn, SmartTag.scan, hs.totalSlots]
  by_cases hused : (scanLoop log L.total).usedSlots = 0
  · have hnone : ∀ i < L.total, log.area.valid i = none := by
      intro i hi
      have hcount := hst.used.symm.trans hused
      rw [List.countP_eq_zero] at hcount
      have := hcount i (List.mem_range.2 hi)
      rw [hvalid i hi] at this
      simpa using this
    rw [if_pos hused]
    refine ⟨⟨⟨hs.toMountable, hs.sectorSize, rfl, hs.slotsPerSector, hs.ready⟩, L.total_pos,
      fun hmid => absurd (Nat.zero_mod _) hmid⟩, ⟨Nat.one_pos, fun i hi s hs => ?_,
      fun i hi _ s hs => ?_, fun i hi hi' => ?_⟩, rfl, hpos⟩
    · exact absurd ((hnone i hi).symm.trans hs) (by simp)
    · exact absurd ((hnone i (by omega)).symm.trans hs) (by simp)
    · exact absurd hi' (Nat.not_lt_zero _)
  · -- The newest slot, and what comes after it.
    obtain ⟨hlt, s, hsome, hseq⟩ : (scanLoop log L.total).newestSlot < L.total ∧
        ∃ s, log.area.valid (scanLoop log L.total).newestSlot = some s ∧
          s.seq.toNat = (scanLoop log L.total).newestSeq := by
      rcases hst.newest with hzero | ⟨hlt, s, hs', hseq⟩
      · rw [hst.used, ← ne_eq, ← Nat.pos_iff_ne_zero, List.countP_pos_iff] at hused
        obtain ⟨i, hi, hsome⟩ := hused
        obtain ⟨s, hs'⟩ := Option.isSome_iff_exists.1 hsome
        have hge := hst.newest_ge i (List.mem_range.1 hi) s hs'
        rw [hvalid i (List.mem_range.1 hi)] at hs'
        have := (h.numbered i (List.mem_range.1 hi) s hs').1
        omega
      · exact ⟨hlt, s, by rw [← hvalid _ hlt]; exact hs', hseq⟩
    have hge : ∀ i < L.total, ∀ t, log.area.valid i = some t →
        t.seq.toNat ≤ (scanLoop log L.total).newestSeq := by
      intro i hi t ht
      exact hst.newest_ge i hi t (by rw [hvalid i hi]; exact ht)
    generalize (scanLoop log L.total).newestSlot = w at hlt hsome ⊢
    generalize (scanLoop log L.total).newestSeq = newest at hseq hge ⊢
    have hbelow := (h.numbered w hlt s hsome).2
    have hfits := L.total_fits
    simp only [flashLogSlotSize] at hfits
    have hafter : w + 1 < L.total → (w + 1) % L.slots ≠ 0 → ∀ j, w < j → j < L.sectorEnd w →
        log.area.image j = blankSlot := by
      intro hin hmid
      refine (h.follows w hin hmid s hsome).resolve_left fun hnext => ?_
      obtain ⟨t, ht, hgt⟩ := hnext
      have := hge _ hin t ht
      omega
    rw [if_neg hused, u32_of_lt (by omega), u32_of_lt (by omega)]
    refine ⟨⟨⟨hs.toMountable, hs.sectorSize, rfl, hs.slotsPerSector, hs.ready⟩,
      L.mod_total_lt _, fun hmid i hi hi' => ?_⟩, ⟨Nat.succ_pos _, fun i hi t ht => ?_, h.follows,
      fun i hi hi' t ht => ?_⟩, rfl, ?_⟩
    · have hmid : (w + 1) % L.total % L.slots ≠ 0 := hmid
      have hi : (w + 1) % L.total ≤ i := hi
      have hi' : i < L.sectorEnd ((w + 1) % L.total) := hi'
      rw [L.mod_total_mod_slots] at hmid
      obtain ⟨hhead, hsec⟩ := L.mod_succ_of_mid hmid
      have htotal := L.mod_total_lt (w + 1)
      rw [Nat.mod_eq_of_lt hlt] at hhead
      have hend : L.sectorEnd (w + 1) = L.sectorEnd w := by
        simp only [Layout.sectorEnd]
        omega
      rw [hhead] at hi hi' htotal
      exact hafter htotal hmid i (by omega) (by omega)
    · have := h.numbered i hi t ht
      have := hge i hi t ht
      show 0 < t.seq.toNat ∧ t.seq.toNat < newest + 1
      omega
    · have hi : (w + 1) % L.total - (w + 1) % L.total % L.slots ≤ i := hi
      have hi' : i + 1 < (w + 1) % L.total := hi'
      rw [L.mod_total_mod_slots] at hi
      have hw : w + 1 < L.total := by
        by_contra hend
        have : w + 1 = L.total := by omega
        rw [this, Nat.mod_self] at hi'
        omega
      rw [Nat.mod_eq_of_lt hw] at hi hi'
      have hb := L.sector_start (w + 1)
      have hslot := L.mod_slots_lt (w + 1)
      have hle := Nat.mod_le (w + 1) L.slots
      have hmod := L.mod_of_between hb (n := i) hi (by omega)
      have hmod' := L.mod_of_between hb (n := i + 1) (by omega) (by omega)
      refine (h.follows i (by omega) (by omega) t ht).resolve_right fun hblank => ?_
      rw [valid_blank (hblank w (by omega) (by rw [Layout.sectorEnd]; omega))] at hsome
      exact absurd hsome (by simp)
    · show newest + 1 ≤ log.nextSeq
      omega

/-! ## Runs -/

/-- What happens to a log: calls of its owner and reboots. -/
inductive LogEvent where
  | call (op : LogOp)
  | reboot
deriving DecidableEq, Repr

def LogEvent.run (log : FlashLog) : LogEvent → FlashLog
  | .call op => op.run log
  | .reboot => powerOn log

/-- A boot only reads. -/
def LogEvent.calls (log : FlashLog) : LogEvent → List FlashCall
  | .call op => op.calls log
  | .reboot => []

/-- The flash calls of a run, in their order. -/
def flashCalls (log : FlashLog) (events : List LogEvent) : List FlashCall :=
  Run.outputs LogEvent.run LogEvent.calls log events

/-- How many records the event appends. -/
def LogEvent.appends : LogEvent → Nat
  | .call (.append _) => 1
  | _ => 0

def appends (events : List LogEvent) : Nat := (events.map LogEvent.appends).sum

/-- One event: its calls are proper and account for the partition. -/
theorem Orderly.run (h : Orderly L log) (hs : HeadSpace L log) (e : LogEvent)
    (hn : log.nextSeq + e.appends < 2 ^ 32) :
    (HeadSpace L (e.run log) ∧ Orderly L (e.run log) ∧
      (e.run log).nextSeq ≤ log.nextSeq + e.appends) ∧
    (e.run log).area = Run.final FlashCall.run log.area (e.calls log) ∧
      Run.Along FlashCall.run (FlashCall.Proper L) log.area (e.calls log) := by
  cases e with
  | call op =>
      cases op with
      | append record =>
          obtain ⟨hspace, hcalls⟩ := hs.append record
          have hn : log.nextSeq + 1 < 2 ^ 32 := hn
          obtain ⟨horder, hnext⟩ := h.append hs (by omega) record
          exact ⟨⟨hspace, horder, hnext⟩, flashLogAppend_area log record, hcalls⟩
      | erase =>
          obtain ⟨hspace, hcalls⟩ := hs.erase
          obtain ⟨horder, hnext⟩ := h.erase hs
          exact ⟨⟨hspace, horder, hnext⟩, flashLogErase_area log, hcalls⟩
  | reboot =>
      obtain ⟨hspace, horder, harea, hnext⟩ := h.powerOn hs hn
      exact ⟨⟨hspace, horder, hnext⟩, harea, trivial⟩

theorem Orderly.runs (h : Orderly L log) (hs : HeadSpace L log) (events : List LogEvent)
    (hn : log.nextSeq + appends events < 2 ^ 32) :
    (Run.final LogEvent.run log events).area =
        Run.final FlashCall.run log.area (flashCalls log events) ∧
      Run.Along FlashCall.run (FlashCall.Proper L) log.area (flashCalls log events) := by
  induction events generalizing log with
  | nil => exact ⟨rfl, trivial⟩
  | cons e events ih =>
      have hsum : appends (e :: events) = e.appends + appends events := rfl
      obtain ⟨⟨hspace, horder, hnext⟩, harea, hcalls⟩ := h.run hs e (by omega)
      obtain ⟨hfinal, hrest⟩ := ih horder hspace (by omega)
      have hsplit : flashCalls log (e :: events) =
          e.calls log ++ flashCalls (e.run log) events := rfl
      rw [harea] at hfinal hrest
      rw [hsplit, Run.final_append]
      exact ⟨hfinal, Run.along_append hcalls hrest⟩

theorem orderly_blank (L : Layout) {payloadSize : Nat} (hpos : 0 < payloadSize)
    (hle : payloadSize ≤ maxPayload) :
    HeadSpace L (flashLogInit (FlashLog.declare payloadSize L.blankArea)).2 ∧
      Orderly L (flashLogInit (FlashLog.declare payloadSize L.blankArea)).2 ∧
      (flashLogInit (FlashLog.declare payloadSize L.blankArea)).2.nextSeq = 1 := by
  obtain ⟨-, href, -⟩ := L.refines_blank hpos hle
  have hhead : (flashLogInit (FlashLog.declare payloadSize L.blankArea)).2.headSlot = 0 := by
    rw [href.head]
    exact Nat.zero_mod _
  have hnext := href.next
  have hnone : ∀ i < L.total,
      (flashLogInit (FlashLog.declare payloadSize L.blankArea)).2.area.valid i = none := by
    intro i hi
    rw [FlashArea.valid, if_neg]
    intro hvalid
    obtain ⟨j, -, hj, -⟩ := href.only i hi hvalid
    exact Nat.not_lt_zero _ hj
  refine ⟨⟨href.toMounted, ?_, fun hmid => ?_⟩, ⟨?_, fun i hi s hs => ?_, fun i hi _ s hs => ?_,
    fun i _ hi => ?_⟩, hnext⟩
  · rw [hhead]
    exact L.total_pos
  · rw [hhead, Nat.zero_mod] at hmid
    exact absurd rfl hmid
  · rw [hnext]
    exact Nat.succ_pos _
  · exact absurd ((hnone i hi).symm.trans hs) (by simp)
  · exact absurd ((hnone i (by omega)).symm.trans hs) (by simp)
  · rw [hhead] at hi
    exact absurd hi (Nat.not_lt_zero _)

theorem Orderly.setResults (h : Orderly L log) (results : List Int) :
    Orderly L (log.withResults results) := ⟨h.positive, h.numbered, h.follows, h.chain⟩

/-- From a blank partition, in any run of appends, erases of the log and reboots in which any
erase and write calls fail, leaving the medium as it was: the calls made account for the partition,
every erase is of one sector, and every write is of one slot whose bytes are all erased. -/
theorem flash_calls_disciplined (L : Layout) (payloadSize : Nat) (hpos : 0 < payloadSize)
    (hle : payloadSize ≤ maxPayload) (results : List Int) (events : List LogEvent)
    (hn : appends events < 2 ^ 32 - 1) :
    let log := (flashLogInit (FlashLog.declare payloadSize L.blankArea)).2.withResults results
    let calls := flashCalls log events
    (Run.final LogEvent.run log events).area = Run.final FlashCall.run log.area calls ∧
      Run.Along FlashCall.run (FlashCall.Proper L) log.area calls := by
  intro log calls
  obtain ⟨hspace, horder, hnext⟩ := orderly_blank L hpos hle
  have hfirst : log.nextSeq = 1 := hnext
  exact (horder.setResults results).runs (hspace.setResults results) events
    (by rw [hfirst]; omega)

end

/-- Two one-slot sectors. The erase of the log fails at its second sector, the tag reboots, and
the next append erases the sector it enters although nothing is left in it. -/
theorem flash_calls_disciplined_faulty :
    Run.Along FlashCall.run (FlashCall.Proper ⟨2, 1, by decide, by decide, by decide⟩)
      ((flashLogInit (FlashLog.declare 1
        (Layout.mk 2 1 (by decide) (by decide) (by decide)).blankArea)).2.withResults
          [0, 0, 0, 0, 0, -5]).area
      (flashCalls ((flashLogInit (FlashLog.declare 1
          (Layout.mk 2 1 (by decide) (by decide) (by decide)).blankArea)).2.withResults
            [0, 0, 0, 0, 0, -5])
        [.call (.append [1]), .call (.append [2]), .call .erase, .reboot, .call (.append [3])]) :=
  (flash_calls_disciplined ⟨2, 1, by decide, by decide, by decide⟩ 1 (by decide) (by decide)
    [0, 0, 0, 0, 0, -5]
    [.call (.append [1]), .call (.append [2]), .call .erase, .reboot, .call (.append [3])]
    (by decide)).2

end SmartTag
