import SmartTag.Lib.Run
import SmartTag.Storage.History

/-!
# Power losses between flash operations

A run of appends with power losses, each followed by a boot. A loss comes between two appends,
or inside an append once `make_room` has erased the sector; the record of that append is lost.
With two sectors or more the ring never loses its newest record to an eviction, so the scan
finds what the RAM held.

* `Refines.powerOn`: a reboot changes nothing, also between the sector erase and the slot write.
* `boot_scan_recovers`: over any run, every reboot is invisible and the appends are numbered
  `1, 2, …`.
-/

namespace SmartTag

/-- No more is dropped than the sector the head has entered. -/
def History.Snug {L : Layout} (H : History L) : Prop :=
  H.dropped = 0 ∨ H.dropped + L.total ≤ H.records.length + L.slots

namespace History

variable {L : Layout} {H : History L}

theorem snug_empty : (empty L).Snug := Or.inl rfl

theorem snug_enter (h : H.Snug) : H.enter.Snug := by
  show L.evict H.records.length H.dropped = 0 ∨
    L.evict H.records.length H.dropped + L.total ≤ H.records.length + L.slots
  rw [Layout.evict]
  split_ifs with hfull
  · right
    omega
  · exact h

theorem snug_append (h : H.Snug) (record : List UInt8) : (H.append record).Snug := by
  have henter := snug_enter h
  have hlen : (H.append record).records.length = H.records.length + 1 := by
    show (H.records ++ [record]).length = _
    simp
  rw [Snug, hlen]
  exact henter.imp_right fun hle => by
    have hle : L.evict H.records.length H.dropped + L.total ≤ H.records.length + L.slots := hle
    show L.evict H.records.length H.dropped + L.total ≤ _
    omega

/-- With two sectors, something is left beside the sector the head has entered. -/
theorem dropped_lt (h : H.Snug) (hk : 2 ≤ L.sectors) :
    H.dropped < H.records.length ∨ H.records = [] := by
  have htwo : 2 * L.slots ≤ L.total := Nat.mul_le_mul_right _ hk
  have hpos := L.slots_pos
  by_cases hz : H.records = []
  · exact Or.inr hz
  · have hne : 0 < H.records.length := List.length_pos_iff.2 hz
    left
    rcases h with h0 | hle <;> omega

end History

section

variable [Crc16] {L : Layout} {H : History L} {log : FlashLog}

/-- A reboot rebuilds the RAM state, wherever the head stands. -/
theorem Refines.powerOn (h : Refines H log) (hsnug : H.Snug) (hk : 2 ≤ L.sectors) :
    powerOn log = log := h.toRing.powerOn (History.dropped_lt hsnug hk)

/-! ## Runs -/

/-- A log and what its appends have reported so far. -/
structure Observed where
  log : FlashLog
  reported : List (Except Int Nat)

/-- One event in the life of a log. A power loss includes the boot after it. -/
inductive PowerEvent where
  | append (record : List UInt8)
  | loss
  | lossInAppend
deriving DecidableEq, Repr

def PowerEvent.isAppend : PowerEvent → Bool
  | .append _ => true
  | .loss => false
  | .lossInAppend => false

/-- One event. Within an append the loss comes after `make_room`: the partition is the same at
every instant between the sector erase and the slot write, and the RAM state is the one
`make_room` leaves. -/
def PowerEvent.run (s : Observed) : PowerEvent → Observed
  | .append record =>
    { log := (SmartTag.flashLogAppend s.log record).2
      reported := s.reported ++ [(SmartTag.flashLogAppend s.log record).1] }
  | .loss => { s with log := SmartTag.powerOn s.log }
  | .lossInAppend => { s with log := SmartTag.powerOn (SmartTag.makeRoom s.log).2 }

/-- The state of a run without flash errors: the log is a ring, and the appends so far were
numbered from 1. -/
structure Sound (L : Layout) (s : Observed) : Prop where
  quiet : s.log.area.results = []
  numbers : s.reported = (List.range' 1 s.reported.length).map Except.ok
  refines : ∃ H : History L, H.records.length = s.reported.length ∧ H.Snug ∧ Refines H s.log

theorem Sound.append {s : Observed} (h : Sound L s) (hn : s.reported.length + 2 < 2 ^ 32)
    (record : List UInt8) : Sound L (PowerEvent.run s (.append record)) := by
  obtain ⟨H, hlen, hsnug, hH⟩ := h.refines
  rw [← hlen] at hn
  obtain ⟨hok, hH', hquiet⟩ := hH.flashLogAppend h.quiet hn record
  have happ : (PowerEvent.run s (.append record)).reported =
      s.reported ++ [.ok (s.reported.length + 1)] := by
    rw [PowerEvent.run, hok, hlen]
  refine ⟨hquiet, ?_, H.append record, ?_, History.snug_append hsnug record, hH'⟩
  · rw [happ, List.length_append, List.length_singleton, List.range'_1_concat, List.map_append,
      ← h.numbers, Nat.add_comm 1]
    rfl
  · rw [happ, List.length_append, List.length_singleton, ← hlen]
    show (H.records ++ [record]).length = _
    simp

theorem Sound.powerOn {s : Observed} (h : Sound L s) (hk : 2 ≤ L.sectors) :
    powerOn s.log = s.log := by
  obtain ⟨H, -, hsnug, hH⟩ := h.refines
  exact hH.powerOn hsnug hk

/-- `make_room` keeps the run sound, and nothing of it is lost with the power. -/
theorem Sound.makeRoom {s : Observed} (h : Sound L s) (hk : 2 ≤ L.sectors) :
    (makeRoom s.log).1 = 0 ∧ Sound L { s with log := (makeRoom s.log).2 } ∧
      SmartTag.powerOn (makeRoom s.log).2 = (makeRoom s.log).2 := by
  obtain ⟨H, hlen, hsnug, hH⟩ := h.refines
  obtain ⟨hok, hquiet⟩ := hH.toRing.makeRoom_quiet h.quiet
  have hsound : Sound L { s with log := (SmartTag.makeRoom s.log).2 } :=
    ⟨hquiet, h.numbers, H.enter, hlen, History.snug_enter hsnug, hH.makeRoom hok⟩
  exact ⟨hok, hsound, hsound.powerOn hk⟩

theorem Sound.run {s : Observed} (h : Sound L s) (hk : 2 ≤ L.sectors) (e : PowerEvent)
    (hn : s.reported.length + 2 < 2 ^ 32 ∨ e.isAppend = false) : Sound L (e.run s) := by
  cases e with
  | append record =>
      rcases hn with hn | hn
      · exact h.append hn record
      · exact absurd hn (by simp [PowerEvent.isAppend])
  | loss =>
      show Sound L { s with log := SmartTag.powerOn s.log }
      rw [h.powerOn hk]
      exact h
  | lossInAppend =>
      obtain ⟨-, hsound, hsame⟩ := h.makeRoom hk
      show Sound L { s with log := SmartTag.powerOn (SmartTag.makeRoom s.log).2 }
      rw [hsame]
      exact hsound

/-- The number of appends so far. -/
theorem length_reported (s : Observed) (events : List PowerEvent) :
    (Run.final PowerEvent.run s events).reported.length =
      s.reported.length + events.countP PowerEvent.isAppend := by
  induction events generalizing s with
  | nil => rfl
  | cons e events ih =>
      rw [Run.final_cons, ih, List.countP_cons]
      cases e with
      | append record => simp [PowerEvent.run, PowerEvent.isAppend]; omega
      | loss => simp [PowerEvent.run, PowerEvent.isAppend]
      | lossInAppend => simp [PowerEvent.run, PowerEvent.isAppend]

theorem Sound.final {s : Observed} (h : Sound L s) (hk : 2 ≤ L.sectors)
    (events : List PowerEvent)
    (hn : s.reported.length + events.countP PowerEvent.isAppend < 2 ^ 32 - 1) :
    Sound L (Run.final PowerEvent.run s events) := by
  induction events using List.reverseRecOn with
  | nil => exact h
  | append_singleton events e ih =>
      rw [List.countP_append, List.countP_singleton] at hn
      rw [Run.final_concat]
      refine (ih (by omega)).run hk e ?_
      rw [length_reported]
      by_cases he : e.isAppend = true
      · rw [if_pos he] at hn
        exact Or.inl (by omega)
      · exact Or.inr (Bool.eq_false_iff.2 he)

/-- From a blank partition of two sectors or more, after any run of appends and power losses:
one more reboot, now or between the sector erase and the slot write of an append, finds the RAM
state of that moment, and the `m`-th append was numbered `m`. -/
theorem boot_scan_recovers (L : Layout) (hk : 2 ≤ L.sectors) (payloadSize : Nat)
    (hpos : 0 < payloadSize) (hle : payloadSize ≤ maxPayload) (events : List PowerEvent)
    (hn : events.countP PowerEvent.isAppend < 2 ^ 32 - 1) :
    let boot := (flashLogInit (FlashLog.declare payloadSize L.blankArea)).2
    let s := Run.final PowerEvent.run ⟨boot, []⟩ events
    SmartTag.powerOn s.log = s.log ∧
      (SmartTag.makeRoom s.log).1 = 0 ∧
      SmartTag.powerOn (SmartTag.makeRoom s.log).2 = (SmartTag.makeRoom s.log).2 ∧
      s.reported = (List.range' 1 (events.countP PowerEvent.isAppend)).map Except.ok := by
  intro boot s
  obtain ⟨-, href, hquiet, -⟩ := L.refines_blank hpos hle
  have hboot : Sound L ⟨boot, []⟩ := ⟨hquiet, rfl, History.empty L, rfl, History.snug_empty, href⟩
  have hs := hboot.final hk events (by simpa using hn)
  obtain ⟨hok, -, hsame⟩ := hs.makeRoom hk
  have hlen : s.reported.length = events.countP PowerEvent.isAppend := by
    simpa using length_reported ⟨boot, []⟩ events
  refine ⟨hs.powerOn hk, hok, hsame, ?_⟩
  rw [← hlen]
  exact hs.numbers

end

/-- Two one-slot sectors, with a loss before each of the last two appends. -/
theorem boot_scan_recovers_twice :
    (Run.final PowerEvent.run
      ⟨(flashLogInit (FlashLog.declare 1
        (Layout.mk 2 1 (by decide) (by decide) (by decide)).blankArea)).2, []⟩
      [.append [1], .append [2], .loss, .append [3], .lossInAppend, .append [4]]).reported =
      [.ok 1, .ok 2, .ok 3, .ok 4] :=
  (boot_scan_recovers ⟨2, 1, by decide, by decide, by decide⟩ (by decide) 1 (by decide) (by decide)
    [.append [1], .append [2], .loss, .append [3], .lossInAppend, .append [4]]
    (by decide)).2.2.2.trans (by decide)

end SmartTag
