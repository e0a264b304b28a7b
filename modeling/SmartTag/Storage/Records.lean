import SmartTag.Storage.PowerLoss

/-!
# The records a log keeps

A log in use: appends, erases and reboots, none of whose flash calls fails.

* `LogKeeps`: the log holds the last of all records appended since it was last erased, with one
  lemma an operation.
-/

namespace SmartTag

theorem History.Tight.snug {L : Layout} {H : History L} (h : H.Tight) : H.Snug :=
  h.imp_right fun hlt => hlt.le

section

variable [Crc16] {L : Layout} {size : Nat} {records : List (List UInt8)} {log : FlashLog}

/-- A boot keeps the log mounted. -/
theorem Mounted.remounted (h : Mounted L log) :
    Mounted L (SmartTag.powerOn log) ∧ (SmartTag.powerOn log).payloadSize = log.payloadSize ∧
      (SmartTag.powerOn log).area = log.area := by
  rw [h.powerOn, scan]
  split_ifs <;>
    exact ⟨⟨h.toMountable, h.sectorSize, h.totalSlots, h.slotsPerSector, h.ready⟩, rfl, rfl⟩

/-- The log has been handed `records` since it was last erased. As long as they can be numbered,
it holds the last of them. -/
structure LogKeeps (L : Layout) (size : Nat) (records : List (List UInt8)) (log : FlashLog) :
    Prop where
  mounted : Mounted L log
  quiet : log.area.results = []
  payloadSize : log.payloadSize = size
  sized : ∀ r ∈ records, r.length = size
  holds : records.length < 2 ^ 32 - 1 → ∃ H : History L, H.records = records ∧ H.Tight ∧
    Refines H log

theorem logKeeps_blank (L : Layout) (hpos : 0 < size) (hle : size ≤ maxPayload) :
    LogKeeps L size [] (flashLogInit (FlashLog.declare size L.blankArea)).2 := by
  obtain ⟨-, href, hquiet, hsize⟩ := L.refines_blank hpos hle
  exact ⟨href.toMounted, hquiet, hsize, fun r hr => absurd hr List.not_mem_nil,
    fun _ => ⟨History.empty L, rfl, History.tight_empty, href⟩⟩

theorem LogKeeps.append (h : LogKeeps L size records log) {record : List UInt8}
    (hsize : record.length = size) :
    LogKeeps L size (records ++ [record]) (flashLogAppend log record).2 := by
  obtain ⟨hmounted, hpayload, hquiet⟩ := h.mounted.flashLogAppend record
  refine ⟨hmounted, hquiet h.quiet, hpayload.trans h.payloadSize, fun r hr => ?_, fun hlt => ?_⟩
  · rcases List.mem_append.1 hr with hr | hr
    · exact h.sized r hr
    · rw [List.mem_singleton.1 hr]
      exact hsize
  · rw [List.length_append, List.length_singleton] at hlt
    obtain ⟨H, hrecords, htight, href⟩ := h.holds (by omega)
    obtain ⟨-, href', -⟩ := href.flashLogAppend h.quiet (by rw [hrecords]; omega) record
    exact ⟨H.append record, congrArg (· ++ [record]) hrecords, History.tight_append htight record,
      href'⟩

theorem LogKeeps.appends (h : LogKeeps L size records log) {more : List (List UInt8)}
    (hsize : ∀ r ∈ more, r.length = size) :
    LogKeeps L size (records ++ more)
      (more.foldl (fun log record => (flashLogAppend log record).2) log) := by
  induction more generalizing records log with
  | nil =>
      rw [List.append_nil]
      exact h
  | cons record more ih =>
      have hnext := ih (h.append (hsize record List.mem_cons_self))
        fun r hr => hsize r (List.mem_cons_of_mem _ hr)
      rw [List.append_assoc, List.singleton_append] at hnext
      exact hnext

theorem LogKeeps.erase (h : LogKeeps L size records log) :
    LogKeeps L size [] (flashLogErase log).2 := by
  obtain ⟨-, hring, hsize, hquiet⟩ :=
    h.mounted.ring_erase (by rw [h.quiet, sectorsErased_nil])
  exact ⟨hring.toMounted, hquiet h.quiet, hsize.trans h.payloadSize, fun r hr => absurd hr List.not_mem_nil,
    fun _ => ⟨History.empty L, rfl, History.tight_empty, Refines.of_ring_nil hring⟩⟩

/-- With two sectors a reboot finds the log as it was. -/
theorem LogKeeps.powerOn (h : LogKeeps L size records log) (hk : 2 ≤ L.sectors) :
    LogKeeps L size records (powerOn log) := by
  obtain ⟨hmounted, hpayload, harea⟩ := h.mounted.remounted
  refine ⟨hmounted, (congrArg FlashArea.results harea).trans h.quiet,
    hpayload.trans h.payloadSize, h.sized, fun hlt => ?_⟩
  obtain ⟨H, hrecords, htight, href⟩ := h.holds hlt
  rw [href.powerOn htight.snug hk]
  exact ⟨H, hrecords, htight, href⟩

end

theorem two_sectors_pos : 0 < 2 := by decide

theorem two_sectors_fit : 2 * 2 * flashLogSlotSize < 2 ^ 32 := by decide

/-- Two sectors of two slots. -/
def twoSectors : Layout := ⟨2, 2, two_sectors_pos, two_sectors_pos, two_sectors_fit⟩

end SmartTag
