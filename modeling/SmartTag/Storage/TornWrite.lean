import SmartTag.Lib.Run
import SmartTag.Storage.History

/-!
# Torn slot writes

A run of appends in which the power may also be lost during a slot write. The write has then
cleared some of the bits it was to clear, the slot is not valid, and the log boots again.

`flash_log_append` takes the slot under a mid-sector head to be erased. After a torn write it is
not, and the next record is programmed over the remains. A torn write in the only sector of a
ring, right after that sector was erased, leaves nothing to number the next append from.

* `Room.torn`: a torn write keeps the ring, apart from the bytes under the head.
* `Promised.append`, `Promised.bad_append`: when an append keeps its promise.
* `torn_write_harmless_iff`: the promises hold along a run exactly when no append meets either
  case.
-/

namespace SmartTag

/-! ## Runs -/

/-- A record some append has stored. -/
structure Stored where
  seq : Nat
  slot : Nat
  record : List UInt8
deriving DecidableEq, Repr

/-- A log, with what its appends have promised: the records stored in sectors not erased since,
and all the numbers reported. -/
structure TornState where
  log : FlashLog
  live : List Stored
  reported : List Nat

/-- Whether the coming `make_room` erases a slot. -/
def FlashLog.evicts (log : FlashLog) (slot : Nat) : Prop :=
  log.headSlot % log.slotsPerSector = 0 ∧ log.headSlot ≤ slot ∧
    slot < log.headSlot + log.slotsPerSector

instance (log : FlashLog) (slot : Nat) : Decidable (log.evicts slot) :=
  inferInstanceAs (Decidable (_ ∧ _ ∧ _))

/-- The stored records that survive the coming `make_room`. -/
def TornState.kept (s : TornState) : List Stored :=
  s.live.filter fun p => ¬ s.log.evicts p.slot

/-- One event: an append, or an append torn in its slot write and the boot after it. A torn
write programs the bits of `programmed`, which keeps every bit the full image keeps. -/
inductive TornEvent where
  | append (record : List UInt8)
  | torn (record programmed : List UInt8)
deriving DecidableEq, Repr

section

variable [Crc16]

/-- The log as the power loss leaves it: the sector erased if it had to be, and the slot under
the head partly programmed. -/
def tearWrite (log : FlashLog) (programmed : List UInt8) : FlashLog :=
  let log := (makeRoom log).2
  { log with
    area := (flashAreaWrite log.area (log.headSlot * flashLogSlotSize) programmed).2 }

def TornEvent.run (s : TornState) : TornEvent → TornState
  | .append record =>
    match flashLogAppend s.log record with
    | (.ok n, log) =>
      { log := log
        live := s.kept ++ [{ seq := n, slot := s.log.headSlot, record := record }]
        reported := s.reported ++ [n] }
    | (.error _, log) => { s with log := log, live := s.kept }
  | .torn _ programmed =>
    { s with log := powerOn (tearWrite s.log programmed), live := s.kept }

/-- What can happen: records of the declared size while the sequence counter has not run out,
and torn writes that leave the slot invalid. -/
def TornEvent.Possible (s : TornState) : TornEvent → Prop
  | .append record => record.length = s.log.payloadSize ∧ s.log.nextSeq < uint32Max
  | .torn record programmed =>
    programmed.length = flashLogSlotSize ∧
      Nor.Covers programmed (nextSlot (makeRoom s.log).2 record).toBytes ∧
      slotValid (Slot.ofBytes ((tearWrite s.log programmed).area.image
        (makeRoom s.log).2.headSlot)) = false

/-- An append is safe when, mid-sector, no bit its image needs has been cleared in the slot
under the head, and when it does not find the log empty after numbers have been reported. -/
def TornEvent.Safe (s : TornState) : TornEvent → Prop
  | .append record =>
    (s.log.headSlot % s.log.slotsPerSector ≠ 0 →
      Nor.Covers (s.log.area.image s.log.headSlot) (nextSlot s.log record).toBytes) ∧
    (s.log.usedSlots = 0 → s.reported = [])
  | .torn _ _ => True

instance TornEvent.decidablePossible (s : TornState) : ∀ e : TornEvent, Decidable (e.Possible s)
  | .append _ => inferInstanceAs (Decidable (_ ∧ _))
  | .torn _ _ => inferInstanceAs (Decidable (_ ∧ _ ∧ _))

instance TornEvent.decidableSafe (s : TornState) : ∀ e : TornEvent, Decidable (e.Safe s)
  | .append _ => inferInstanceAs (Decidable ((_ → _) ∧ (_ → _)))
  | .torn _ _ => inferInstanceAs (Decidable True)

/-- A log opened on a blank partition: nothing promised yet. -/
def TornState.blank (L : Layout) (payloadSize : Nat) : TornState where
  log := (flashLogInit (FlashLog.declare payloadSize L.blankArea)).2
  live := []
  reported := []

/-- The promises: every stored record can be read by its number until its sector is erased, and
no number has been reported twice. -/
def TornState.Good (s : TornState) : Prop :=
  (∀ p ∈ s.live, flashLogRead s.log p.seq 1 = .ok [p.record]) ∧ s.reported.Nodup

instance (s : TornState) : Decidable s.Good := inferInstanceAs (Decidable (_ ∧ _))

/-! ## The invariant -/

variable {L : Layout} {hist : List (List UInt8)} {lo : Nat} {log : FlashLog}

/-- The log is a ring, and every promise is about a record it retains. The numbers reported are
those of the ring, unless a torn write has emptied it. -/
structure Promised (L : Layout) (hist : List (List UInt8)) (lo : Nat) (s : TornState) : Prop
    extends Ring L hist lo s.log where
  quiet : s.log.area.results = []
  sized : ∀ r ∈ hist, r.length = s.log.payloadSize
  nonempty : lo < hist.length ∨ hist = []
  live : ∀ p ∈ s.live, ∃ j, lo ≤ j ∧ hist[j]? = some p.record ∧ p.seq = j + 1 ∧
    p.slot = j % L.total
  reported : s.reported = List.range' 1 hist.length ∨
    hist = [] ∧ s.reported.Nodup ∧ 1 ∈ s.reported

theorem Promised.good {s : TornState} (h : Promised L hist lo s) : s.Good := by
  constructor
  · intro p hp
    obtain ⟨j, hj, hr, hseq, -⟩ := h.live p hp
    rw [hseq]
    exact h.toRing.flashLogRead_one h.sized hr hj
  · rcases h.reported with heq | ⟨-, hnodup, -⟩
    · rw [heq]
      exact List.nodup_range'
    · exact hnodup

/-- A retained record outside the sector being entered is not evicted. -/
theorem Ring.evict_le (h : Ring L hist lo log) {j : Nat} (hj : lo ≤ j)
    (hout : ¬ log.evicts (j % L.total)) : L.evict hist.length lo ≤ j := by
  rw [Layout.evict]
  split_ifs with hfull
  · by_contra hlt
    have hd : j - lo < L.slots := by omega
    have hpos := L.sector_pos hfull.1 hd
    rw [show hist.length + (j - lo) = j + L.total by omega, Nat.add_mod_right] at hpos
    refine hout ⟨?_, ?_, ?_⟩
    · rw [h.headSlot_mod]
      exact hfull.1
    · rw [h.head]
      omega
    · rw [h.head, h.slotsPerSector]
      omega
  · exact hj

theorem Promised.kept {s : TornState} (h : Promised L hist lo s) :
    ∀ p ∈ s.kept, ∃ j, L.evict hist.length lo ≤ j ∧ hist[j]? = some p.record ∧ p.seq = j + 1 ∧
      p.slot = j % L.total := by
  intro p hp
  obtain ⟨hp, hout⟩ := List.mem_filter.1 hp
  obtain ⟨j, hj, hr, hseq, hslot⟩ := h.live p hp
  rw [hslot] at hout
  exact ⟨j, h.toRing.evict_le hj (by simpa using hout), hr, hseq, hslot⟩

/-! ## Torn writes -/

/-- A write over the slot under the head that leaves it invalid keeps the ring. -/
theorem Room.torn (h : Room L hist lo log) {area : FlashArea}
    (hm : Mountable L log.payloadSize area)
    (himg : ∀ i, i ≠ hist.length % L.total → area.image i = log.area.image i)
    (hv : slotValid (Slot.ofBytes (area.image (hist.length % L.total))) = false) :
    Ring L hist lo { log with area := area } where
  toMounted := ⟨hm, h.sectorSize, h.totalSlots, h.slotsPerSector, h.ready⟩
  lo_le := h.lo_le
  window := h.window
  aligned := h.aligned
  numbered := h.numbered
  head := h.head
  tail := h.tail
  used := h.used
  next := h.next
  held := by
    intro j r hr hj
    have hjn := (List.getElem?_eq_some_iff.1 hr).1
    exact (himg _ (h.pos_ne hj hjn)).trans (h.held j r hr hj)
  only := by
    intro i hi hi'
    have hne : i ≠ hist.length % L.total := by
      rintro rfl
      exact absurd (hv.symm.trans hi') (by simp)
    exact h.only i hi (by rw [← himg i hne]; exact hi')
  ahead := by
    intro hmid i hi hi'
    exact (himg i (by omega)).trans (h.ahead hmid i hi hi')

/-- A torn write leaves a ring whose head slot has bits cleared. -/
theorem Promised.tearWrite_ring {s : TornState} (h : Promised L hist lo s)
    {record programmed : List UInt8} (hposs : (TornEvent.torn record programmed).Possible s) :
    Ring L hist (L.evict hist.length lo) (tearWrite s.log programmed) ∧
      (tearWrite s.log programmed).area.results = [] := by
  obtain ⟨hlen, -, hinv⟩ := hposs
  obtain ⟨hok, hquiet⟩ := h.toRing.makeRoom_quiet h.quiet
  have hroom := h.toRing.makeRoom_ok hok
  have hhead := hroom.head
  have ht := touched_flashAreaWrite (makeRoom s.log).2.area
    ((makeRoom s.log).2.headSlot * flashLogSlotSize) programmed
  have hin : ¬ (makeRoom s.log).2.area.faSize <
      (makeRoom s.log).2.headSlot * flashLogSlotSize + programmed.length := by
    have := L.slot_end_le (L.mod_total_lt hist.length)
    rw [hhead, hroom.faSize, hlen]
    omega
  have himg : ∀ i, i ≠ hist.length % L.total →
      (tearWrite s.log programmed).area.image i = (makeRoom s.log).2.area.image i := by
    intro i hi
    rw [tearWrite, flashAreaWrite_eq hin, hquiet, if_neg (by simp)]
    rw [image_program hlen rfl i, if_neg (by rw [hhead]; exact hi)]
  rw [hhead] at hinv
  exact ⟨hroom.torn (hroom.toMountable.touched ht) himg hinv, ht.results hquiet⟩

/-- Number 1 is the first that a history ever reports. -/
theorem Promised.reported_one {s : TornState} (h : Promised L hist lo s) (hne : hist ≠ []) :
    s.reported.Nodup ∧ 1 ∈ s.reported := by
  have hpos := List.length_pos_iff.2 hne
  rcases h.reported with heq | ⟨hnil, -⟩
  · rw [heq]
    exact ⟨List.nodup_range', List.mem_range'_1.2 ⟨le_refl 1, by omega⟩⟩
  · exact absurd hnil hne

theorem Promised.torn {s : TornState} (h : Promised L hist lo s) {record programmed : List UInt8}
    (hposs : (TornEvent.torn record programmed).Possible s) :
    ∃ hist' lo', Promised L hist' lo' (TornEvent.run s (.torn record programmed)) := by
  obtain ⟨hring, hnil⟩ := h.tearWrite_ring hposs
  by_cases hlo : L.evict hist.length lo = hist.length ∧ hist ≠ []
  · -- The whole ring was in the sector just erased.
    obtain ⟨hempty, harea, -⟩ := hring.powerOn_dropped hlo.1
    refine ⟨[], 0, hempty, ?_, ?_, Or.inr rfl, ?_, Or.inr ⟨rfl, h.reported_one hlo.2⟩⟩
    · show (SmartTag.powerOn (tearWrite s.log programmed)).area.results = []
      rw [show (SmartTag.powerOn (tearWrite s.log programmed)).area = _ from harea]
      exact hnil
    · simp
    · intro p hp
      obtain ⟨j, hj, hr, -⟩ := h.kept p hp
      have := (List.getElem?_eq_some_iff.1 hr).1
      omega
  · have hne : L.evict hist.length lo < hist.length ∨ hist = [] := by
      have := hring.lo_le
      by_cases hnil : hist = []
      · exact Or.inr hnil
      · exact Or.inl (lt_of_le_of_ne this fun heq => hlo ⟨heq, hnil⟩)
    have hsized : ∀ r ∈ hist, r.length = (makeRoom s.log).2.payloadSize := by
      intro r hr
      rw [h.toMounted.makeRoom.2.1]
      exact h.sized r hr
    have hsame := hring.powerOn hne
    have hrun : TornEvent.run s (.torn record programmed) =
        { s with log := tearWrite s.log programmed, live := s.kept } := by
      rw [TornEvent.run]
      rw [show SmartTag.powerOn (tearWrite s.log programmed) = _ from hsame]
    rw [hrun]
    exact ⟨hist, _, hring, hnil, hsized, hne, h.kept, h.reported⟩

/-! ## Appends -/

theorem Promised.append {s : TornState} (h : Promised L hist lo s) {record : List UInt8}
    (hposs : (TornEvent.append record).Possible s) (hsafe : (TornEvent.append record).Safe s) :
    Promised L (hist ++ [record]) (L.evict hist.length lo)
      (TornEvent.run s (.append record)) := by
  obtain ⟨hlen, hn⟩ := hposs
  obtain ⟨hcov, hnum⟩ := hsafe
  obtain ⟨hok, hquiet⟩ := h.toRing.makeRoom_quiet h.quiet
  have hroom := h.toRing.makeRoom_ok hok
  have hn : hist.length + 2 < 2 ^ 32 := by
    rw [h.next, uint32Max] at hn
    omega
  have hcov : Nor.Covers ((makeRoom s.log).2.area.image (hist.length % L.total))
      (recordImage (makeRoom s.log).2 hist.length record) := by
    by_cases hb : hist.length % L.slots = 0
    · exact covers_of_blank hroom.payload_le _ _ (hroom.fresh hb)
    · rw [h.toRing.makeRoom_mid hb, ← h.toRing.nextSlot_toBytes, ← h.head]
      exact hcov (by rw [h.toRing.headSlot_mod]; exact hb)
  have hrun : TornEvent.run s (.append record) =
      { log := (makeRoom s.log).2.written record
        live := s.kept ++ [⟨hist.length + 1, s.log.headSlot, record⟩]
        reported := s.reported ++ [hist.length + 1] } := by
    rw [TornEvent.run, h.toRing.flashLogAppend, if_neg (not_not.2 hok), hquiet, if_neg (by simp),
      hroom.next]
  have hconcat : (hist ++ [record]).length = hist.length + 1 := by simp
  rw [hrun]
  refine ⟨hroom.written record hn hcov, ?_, ?_, ?_, ?_, ?_⟩
  · show (makeRoom s.log).2.area.results.tail = []
    rw [hquiet]
    rfl
  · show ∀ r ∈ hist ++ [record], r.length = (makeRoom s.log).2.payloadSize
    rw [h.toMounted.makeRoom.2.1]
    intro r hr
    rcases List.mem_append.1 hr with hr | hr
    · exact h.sized r hr
    · rw [List.mem_singleton.1 hr]
      exact hlen
  · left
    have := hroom.lo_le
    omega
  · intro p hp
    rcases List.mem_append.1 hp with hp | hp
    · obtain ⟨j, hj, hr, hseq, hslot⟩ := h.kept p hp
      have hjn := (List.getElem?_eq_some_iff.1 hr).1
      exact ⟨j, hj, by rw [List.getElem?_append_left hjn]; exact hr, hseq, hslot⟩
    · rw [List.mem_singleton.1 hp]
      exact ⟨hist.length, hroom.lo_le, List.getElem?_concat_length .., rfl, h.head⟩
  · left
    rw [hconcat, List.range'_1_concat, Nat.add_comm 1]
    rcases h.reported with heq | ⟨rfl, -⟩
    · rw [heq]
    · rw [hnum (by rw [h.used]; exact Nat.zero_sub _)]
      rfl

/-- Where an older record is still in place, a read from the number of the last record leads to
the slot just programmed. -/
theorem Room.readSlots_written (h : Room L hist lo log) (record : List UInt8)
    (hlt : lo < hist.length) :
    SmartTag.readSlots (log.written record) (hist.length + 1) 1 =
      ((SmartTag.readValid (log.written record) (hist.length % L.total)).filter fun slot =>
        decide (hist.length + 1 ≤ slot.seq.toNat)).toList.take 1 := by
  have hm := h.toMounted.written record
  have hused := h.usedSlots_written record
  have htail := h.tailSlot_written record
  have hfits := L.total_fits
  have hfree := h.free
  have hmod := L.mod_total_lt lo
  simp only [flashLogSlotSize] at hfits
  have hr := List.getElem?_eq_getElem hlt
  have hold : SmartTag.readValid (log.written record) (lo % L.total) =
      some (buildSlot log.payloadSize (lo + 1) hist[lo]) := by
    rw [hm.readValid hmod, h.image_written, if_neg (h.pos_ne (le_refl lo) hlt),
      ← h.readValid hmod]
    exact h.readValid_held hr (le_refl lo)
  have hseek : SmartTag.seekFirst (log.written record) (hist.length + 1) = hist.length - lo := by
    rw [SmartTag.seekFirst, hused, if_pos (by omega), htail, hold]
    simp only [seq_buildSlot _ (h.seq_lt hr)]
    rw [if_pos (by omega)]
    omega
  have hpos : u32 ((log.written record).tailSlot + (hist.length - lo)) %
      (log.written record).totalSlots = hist.length % L.total := by
    rw [htail, hm.totalSlots, u32_of_lt (by omega), Nat.mod_add_mod]
    congr 1
    omega
  rw [readSlots_eq, hseek, hused, show hist.length + 1 - lo - (hist.length - lo) = 1 by omega,
    List.range'_one, List.filterMap_cons, List.filterMap_nil, candidate, hpos]
  cases (SmartTag.readValid (log.written record) (hist.length % L.total)).filter fun slot =>
    decide (hist.length + 1 ≤ slot.seq.toNat) <;> rfl

/-- Mid-sector, a record programmed over cleared bits cannot be read back. -/
theorem Ring.not_flashLogRead_written (h : Ring L hist lo log) {record : List UInt8}
    (hmid : hist.length % L.slots ≠ 0) (hlen : record.length = log.payloadSize)
    (hn : hist.length + 2 < 2 ^ 32)
    (hcov : ¬ Nor.Covers (log.area.image (hist.length % L.total))
      (recordImage log hist.length record)) :
    SmartTag.flashLogRead (log.written record) (hist.length + 1) 1 ≠ .ok [record] := by
  have hroom : Room L hist lo log := by
    have hok := h.makeRoom_ok (by rw [h.makeRoom_mid hmid])
    rw [h.makeRoom_mid hmid, Layout.evict, if_neg fun hc => hmid hc.1] at hok
    exact hok
  have hlt : lo < hist.length := by
    refine lt_of_le_of_ne h.lo_le fun heq => hmid ?_
    rw [← heq]
    exact h.aligned
  have hm := h.toMounted.written record
  intro hread
  rw [SmartTag.flashLogRead, if_neg (by rw [hm.ready]; simp), hroom.readSlots_written record hlt,
    hm.readValid (L.mod_total_lt _), hroom.image_written, if_pos rfl] at hread
  split_ifs at hread with hv
  · by_cases hge : hist.length + 1 ≤ (Slot.ofBytes (Nor.and (log.area.image
        (hist.length % L.total)) (recordImage log hist.length record))).seq.toNat
    · simp only [Option.filter, hge, decide_true, if_true] at hread
      exact hcov (covers_of_readable h.payload_le hlen (by omega) (length_image _ _) hv hge
        (List.cons.inj (Except.ok.inj hread)).1)
    · simp [Option.filter, hge] at hread
  · simp [Option.filter] at hread

/-- An unsafe append breaks a promise at once. -/
theorem Promised.bad_append {s : TornState} (h : Promised L hist lo s) {record : List UInt8}
    (hposs : (TornEvent.append record).Possible s) (hsafe : ¬ (TornEvent.append record).Safe s) :
    ¬ (TornEvent.run s (.append record)).Good := by
  obtain ⟨hlen, hn⟩ := hposs
  obtain ⟨hok, hquiet⟩ := h.toRing.makeRoom_quiet h.quiet
  have hroom := h.toRing.makeRoom_ok hok
  have hn : hist.length + 2 < 2 ^ 32 := by
    rw [h.next, uint32Max] at hn
    omega
  have hrun : TornEvent.run s (.append record) =
      { log := (makeRoom s.log).2.written record
        live := s.kept ++ [⟨hist.length + 1, s.log.headSlot, record⟩]
        reported := s.reported ++ [hist.length + 1] } := by
    rw [TornEvent.run, h.toRing.flashLogAppend, if_neg (not_not.2 hok), hquiet, if_neg (by simp),
      hroom.next]
  rw [hrun]
  intro hgood
  obtain ⟨hread, hnodup⟩ := hgood
  refine hsafe ⟨fun hmid => ?_, fun hused => ?_⟩
  · rw [h.toRing.headSlot_mod] at hmid
    by_contra hcov
    rw [h.head, h.toRing.nextSlot_toBytes] at hcov
    refine h.toRing.not_flashLogRead_written hmid hlen hn hcov ?_
    have := hread _ (List.mem_append_right _ (List.mem_singleton_self _))
    rwa [h.toRing.makeRoom_mid hmid] at this
  · -- The counter has gone back to 1, the first number ever reported.
    have hnil : hist = [] := by
      have := h.used
      rcases h.nonempty with hlt | hnil
      · omega
      · exact hnil
    subst hnil
    rcases h.reported with heq | ⟨-, -, hone⟩
    · exact heq
    · exact absurd rfl ((List.nodup_append.1 hnodup).2.2 1 hone 1 (List.mem_singleton_self 1))

/-! ## The run theorem -/

theorem Layout.promised_blank (L : Layout) {payloadSize : Nat} (hpos : 0 < payloadSize)
    (hle : payloadSize ≤ maxPayload) : Promised L [] 0 (TornState.blank L payloadSize) := by
  obtain ⟨-, href, hquiet, -⟩ := L.refines_blank hpos hle
  exact ⟨href.toRing, hquiet, by simp, Or.inr rfl, by simp [TornState.blank], Or.inl rfl⟩

/-- From a blank partition, along any run of appends and torn writes, every promise is kept in
every state reached exactly when every append was safe. -/
theorem torn_write_harmless_iff (L : Layout) (payloadSize : Nat) (hpos : 0 < payloadSize)
    (hle : payloadSize ≤ maxPayload) (events : List TornEvent)
    (hposs : Run.Along TornEvent.run (fun s e => e.Possible s) (TornState.blank L payloadSize)
      events) :
    (∀ m, (Run.final TornEvent.run (TornState.blank L payloadSize) (events.take m)).Good) ↔
      Run.Along TornEvent.run (fun s e => e.Safe s) (TornState.blank L payloadSize) events := by
  refine Run.forall_prefix_iff_along (I := fun s => ∃ hist lo, Promised L hist lo s) ?_ ?_ ?_
    ⟨[], 0, L.promised_blank hpos hle⟩ hposs
  · intro s hs
    obtain ⟨hist, lo, h⟩ := hs
    exact h.good
  · intro s e hs hposs hsafe
    obtain ⟨hist, lo, h⟩ := hs
    cases e with
    | append record => exact ⟨_, _, h.append hposs hsafe⟩
    | torn record programmed => exact h.torn hposs
  · intro s e hs hposs hsafe
    obtain ⟨hist, lo, h⟩ := hs
    cases e with
    | append record => exact h.bad_append hposs hsafe
    | torn record programmed => exact absurd trivial hsafe

end

/-- Two sectors of two slots. The write of the second record is torn after its header; the record
appended instead is reported as number 2 and cannot be read back. -/
theorem torn_write_spoils_append :
    let start := TornState.blank (Layout.mk 2 2 (by decide) (by decide) (by decide)) 1
    let events := [.append [1], .torn [2] ([0x47, 0x5a, 0xb1, 0x8b] ++ Nor.blank 28), .append [3]]
    Run.Along TornEvent.run (fun s e => e.Possible s) start events ∧
      ¬ (Run.final TornEvent.run start events).Good := by
  decide +kernel

/-- The torn record itself can be appended again: its image has the bits the torn write left. -/
theorem torn_write_harmless_same_record :
    (Run.final TornEvent.run
      (TornState.blank (Layout.mk 2 2 (by decide) (by decide) (by decide)) 1)
      [.append [1], .torn [2] ([0x47, 0x5a, 0xb1, 0x8b] ++ Nor.blank 28), .append [2]]).Good :=
  (torn_write_harmless_iff ⟨2, 2, by decide, by decide, by decide⟩ 1 (by decide) (by decide)
    [.append [1], .torn [2] ([0x47, 0x5a, 0xb1, 0x8b] ++ Nor.blank 28), .append [2]]
    (by decide +kernel)).2 (by decide +kernel) 3

end SmartTag
