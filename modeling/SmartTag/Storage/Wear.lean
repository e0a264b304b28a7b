import SmartTag.Storage.FlashCalls
import SmartTag.Storage.Records
import Mathlib.Data.Int.CardIntervalMod

/-!
# Wear

How often the sectors of a log are erased, over any run of appends, erases of the log and reboots
whose flash calls succeed. A sector is erased when the head enters it, and with every erase of the
log, after which the head starts again at the first sector.

* `erases_append`, `erases_eraseCalls`: what one operation erases.
* `wear_levelled`: no two sectors drift apart by more than one erase for each time the log was
  started, and none is erased more often than once a lap and twice a start.
-/

namespace SmartTag

namespace Layout

/-- The erases of a sector among the calls made. -/
def erases (L : Layout) (sector : Nat) (calls : List FlashCall) : Nat :=
  calls.count (.erase (sector * L.slots * flashLogSlotSize) (L.slots * flashLogSlotSize))

theorem erases_append_calls (L : Layout) (sector : Nat) (calls calls' : List FlashCall) :
    L.erases sector (calls ++ calls') = L.erases sector calls + L.erases sector calls' :=
  List.count_append

/-- Sectors start at different offsets. -/
theorem sector_offset_inj (L : Layout) {p q : Nat}
    (h : p * L.slots * flashLogSlotSize = q * L.slots * flashLogSlotSize) : p = q := by
  have hslots := Nat.eq_of_mul_eq_mul_right (show 0 < flashLogSlotSize by decide) h
  exact Nat.eq_of_mul_eq_mul_right L.slots_pos hslots

/-- How many of the first `n` records a log begins in a sector: once a lap. -/
def entries (L : Layout) (sector n : Nat) : Nat :=
  Nat.count (fun j => j % L.total = sector * L.slots) n

theorem entries_succ (L : Layout) (sector n : Nat) :
    L.entries sector (n + 1) =
      L.entries sector n + if n % L.total = sector * L.slots then 1 else 0 := Nat.count_succ _ _

theorem entries_eq (L : Layout) {sector : Nat} (h : sector < L.sectors) (n : Nat) :
    L.entries sector n = n / L.total + if sector * L.slots < n % L.total then 1 else 0 := by
  have hlt : sector * L.slots < L.total := Nat.mul_lt_mul_of_pos_right h L.slots_pos
  have hcard := Nat.count_modEq_card n L.total_pos (sector * L.slots)
  simp only [Nat.ModEq, Nat.mod_eq_of_lt hlt] at hcard
  exact hcard

theorem entries_le (L : Layout) {sector : Nat} (h : sector < L.sectors) (n : Nat) :
    L.entries sector n ≤ n / L.total + 1 := by
  rw [L.entries_eq h]
  split_ifs <;> omega

/-- The head enters the sectors in turn. -/
theorem entries_level (L : Layout) {p q : Nat} (hpq : p ≤ q) (hq : q < L.sectors) (n : Nat) :
    L.entries q n ≤ L.entries p n ∧ L.entries p n ≤ L.entries q n + 1 := by
  have hle := Nat.mul_le_mul_right L.slots hpq
  rw [L.entries_eq hq, L.entries_eq (Nat.lt_of_le_of_lt hpq hq)]
  split_ifs <;> omega

end Layout

section

variable [Crc16] {L : Layout} {H : History L} {log : FlashLog}

/-! ## One operation -/

/-- An append erases the sector its record begins. -/
theorem erases_append (h : Refines H log) (hquiet : log.area.results = []) (sector : Nat)
    (record : List UInt8) :
    L.erases sector (appendCalls log record) =
      if H.records.length % L.total = sector * L.slots then 1 else 0 := by
  obtain ⟨hok, -⟩ := h.makeRoom_quiet hquiet
  simp only [appendCalls, h.ready, hok, not_true_eq_false, ne_eq, if_false]
  have hwrite : ∀ off bytes, L.erases sector [.write off bytes] = 0 := fun off bytes => rfl
  rw [L.erases_append_calls, hwrite, Nat.add_zero, makeRoomCalls, h.headSlot_mod]
  by_cases hb : H.records.length % L.slots = 0
  · rw [if_neg (not_not.2 hb), h.head, h.sectorSize, Layout.erases, List.count_singleton]
    by_cases hsector : H.records.length % L.total = sector * L.slots
    · simp [hsector]
    · rw [if_neg hsector, if_neg]
      intro heq
      injection beq_iff_eq.1 heq with hoff
      exact hsector (Nat.eq_of_mul_eq_mul_right (show 0 < flashLogSlotSize by decide) hoff)
  · rw [if_pos hb, if_neg]
    · rfl
    · intro hsector
      rw [← L.mod_total_mod_slots, hsector, Nat.mul_mod_left] at hb
      exact hb rfl

omit [Crc16] in
theorem erases_eraseLoopCalls (fuel p : Nat) {area : FlashArea} (hquiet : area.results = [])
    (hsize : area.faSize = L.total * flashLogSlotSize) (hfuel : L.sectors ≤ p + fuel)
    {sector : Nat} (hsector : sector < L.sectors) :
    L.erases sector (eraseLoopCalls (L.slots * flashLogSlotSize) (L.total * flashLogSlotSize) fuel
      area (p * (L.slots * flashLogSlotSize))) = if p ≤ sector then 1 else 0 := by
  induction fuel generalizing p area with
  | zero =>
      rw [if_neg (by omega)]
      rfl
  | succ fuel ih =>
      rw [eraseLoopCalls]
      by_cases hmore : p * (L.slots * flashLogSlotSize) < L.total * flashLogSlotSize
      · obtain ⟨hp, hchunk⟩ := Layout.sector_chunk hmore
        have hin : ¬ area.faSize < p * (L.slots * flashLogSlotSize) + L.slots * flashLogSlotSize := by
          rw [hsize, Layout.total, Nat.mul_assoc, ← Nat.succ_mul]
          exact Nat.not_lt.2 (Nat.mul_le_mul_right _ hp)
        have hok : flashAreaErase area (p * (L.slots * flashLogSlotSize))
            (L.slots * flashLogSlotSize) =
            (0, (flashAreaErase area (p * (L.slots * flashLogSlotSize))
              (L.slots * flashLogSlotSize)).2) := by
          rw [flashAreaErase_eq hin, hquiet]
          rfl
        obtain ⟨mem, rs, harea, hrs⟩ := touched_flashAreaErase area
          (p * (L.slots * flashLogSlotSize)) (L.slots * flashLogSlotSize)
        have hsize' : ({ area with mem := mem, results := rs } : FlashArea).faSize =
            L.total * flashLogSlotSize := hsize
        have hnext := ih (p + 1) (hrs hquiet) hsize' (by omega)
        rw [Nat.succ_mul] at hnext
        rw [if_pos hmore]
        simp only [hchunk]
        rw [hok, harea, if_neg (not_not.2 rfl), Layout.erases, List.count_cons, ← Layout.erases,
          hnext]
        by_cases heq : p = sector
        · subst heq
          simp [Nat.mul_assoc]
        · have hcall : ¬ FlashCall.erase (p * (L.slots * flashLogSlotSize))
              (L.slots * flashLogSlotSize) = .erase (sector * L.slots * flashLogSlotSize)
                (L.slots * flashLogSlotSize) := by
            intro hcall
            injection hcall with hoff
            rw [← Nat.mul_assoc] at hoff
            exact heq (L.sector_offset_inj hoff)
          rw [beq_eq_false_iff_ne.2 hcall]
          exact if_congr (by omega) rfl rfl
      · have hp : ¬ p ≤ sector := by
          intro hle
          have hlt : p < L.sectors := by omega
          refine hmore ?_
          rw [Layout.total, Nat.mul_assoc]
          exact Nat.mul_lt_mul_of_pos_right hlt (Nat.mul_pos L.slots_pos (by decide))
        rw [if_neg hmore, if_neg hp]
        rfl

omit [Crc16] in
/-- An erase of the log erases every sector once. -/
theorem erases_eraseCalls (h : Mounted L log) (hquiet : log.area.results = []) {sector : Nat}
    (hsector : sector < L.sectors) : L.erases sector (eraseCalls log) = 1 := by
  have hloop := erases_eraseLoopCalls (L := L) L.total 0 hquiet h.faSize
    (by
      have := Nat.le_mul_of_pos_right L.sectors L.slots_pos
      rw [Layout.total]
      omega) hsector
  rw [Nat.zero_mul, if_pos (Nat.zero_le _)] at hloop
  rw [eraseCalls, h.ready, h.sectorSize, h.totalSlots]
  exact hloop

/-! ## Runs -/

/-- The erases of the log in a run. -/
def clears (events : List LogEvent) : Nat := events.count (.call .erase)

/-- The erases of the sectors after `past + n` appends and `started` erases of the log, `n` of the
appends since the last of these: up to then `base`, which is level. -/
structure Worn (L : Layout) (log : FlashLog) (calls : List FlashCall) (started past n : Nat) :
    Prop where
  quiet : log.area.results = []
  refines : ∃ H : History L, H.records.length = n ∧ H.Tight ∧ Refines H log
  worn : ∃ base : Nat → Nat,
    (∀ p < L.sectors, L.erases p calls = base p + L.entries p n) ∧
    (∀ p q, p ≤ q → q < L.sectors → base q ≤ base p ∧ base p ≤ base q + started) ∧
    ∀ p < L.sectors, base p ≤ past / L.total + 2 * started

/-- One event of a run. -/
theorem Worn.step {calls : List FlashCall} {started past n : Nat}
    (h : Worn L log calls started past n) (hk : 2 ≤ L.sectors) (hn : n + 2 < 2 ^ 32)
    (e : LogEvent) :
    ∃ past' n', past' + n' = past + n + e.appends ∧
      Worn L (e.run log) (calls ++ e.calls log) (started + clears [e]) past' n' := by
  obtain ⟨base, hcount, hlevel, hbase⟩ := h.worn
  obtain ⟨H, hlen, htight, href⟩ := h.refines
  cases e with
  | call op =>
      cases op with
      | append record =>
          obtain ⟨-, href', hquiet'⟩ := href.flashLogAppend h.quiet (by omega) record
          refine ⟨past, n + 1, (Nat.add_assoc _ _ _).symm, hquiet', ⟨H.append record, ?_,
            History.tight_append htight record, href'⟩, base, fun p hp => ?_, hlevel, hbase⟩
          · rw [← hlen]
            exact List.length_append
          · show L.erases p (calls ++ appendCalls log record) = _
            rw [L.erases_append_calls, hcount p hp, erases_append href h.quiet, hlen,
              L.entries_succ, Nat.add_assoc]
      | erase =>
          have hm := href.toMounted
          obtain ⟨-, hring, -, hquiet'⟩ := hm.ring_erase (by rw [h.quiet, sectorsErased_nil])
          refine ⟨past + n, 0, rfl, hquiet' h.quiet, ⟨History.empty L, rfl, History.tight_empty,
            Refines.of_ring_nil hring⟩, fun p => base p + L.entries p n + 1, fun p hp => ?_,
            fun p q hpq hq => ?_, fun p hp => ?_⟩
          · show L.erases p (calls ++ eraseCalls log) = _
            rw [L.erases_append_calls, hcount p hp, erases_eraseCalls hm h.quiet hp]
            rfl
          · have hl := hlevel p q hpq hq
            have he := L.entries_level hpq hq n
            show base q + L.entries q n + 1 ≤ base p + L.entries p n + 1 ∧
              base p + L.entries p n + 1 ≤ base q + L.entries q n + 1 + (started + 1)
            omega
          · have hb := hbase p hp
            have hlaps := L.entries_le hp n
            have hsum : past / L.total + n / L.total ≤ (past + n) / L.total :=
              Nat.div_add_div_le_add_div
            show base p + L.entries p n + 1 ≤ (past + n) / L.total + 2 * (started + 1)
            omega
  | reboot =>
      refine ⟨past, n, rfl, ?_⟩
      show Worn L (powerOn log) (calls ++ []) (started + 0) past n
      rw [List.append_nil, href.powerOn htight.snug hk]
      exact h

omit [Crc16] in
theorem clears_concat (events : List LogEvent) (e : LogEvent) :
    clears (events ++ [e]) = clears events + clears [e] := List.count_append

omit [Crc16] in
theorem appends_concat (events : List LogEvent) (e : LogEvent) :
    appends (events ++ [e]) = appends events + e.appends := by
  simp [appends]

theorem worn_blank (L : Layout) {payloadSize : Nat} (hpos : 0 < payloadSize)
    (hle : payloadSize ≤ maxPayload) :
    Worn L (flashLogInit (FlashLog.declare payloadSize L.blankArea)).2 [] 0 0 0 := by
  obtain ⟨-, href, hquiet, -⟩ := L.refines_blank hpos hle
  exact ⟨hquiet, ⟨History.empty L, rfl, History.tight_empty, href⟩, fun _ => 0, fun _ _ => rfl,
    fun _ _ _ _ => ⟨le_rfl, Nat.zero_le _⟩, fun _ _ => Nat.zero_le _⟩

/-- The run lemma. -/
theorem Worn.run (h : Worn L log [] 0 0 0) (hk : 2 ≤ L.sectors) (events : List LogEvent)
    (hn : appends events < 2 ^ 32 - 2) :
    ∃ past n, past + n = appends events ∧
      Worn L (Run.final LogEvent.run log events) (flashCalls log events) (clears events) past n := by
  induction events using List.reverseRecOn with
  | nil => exact ⟨0, 0, rfl, h⟩
  | append_singleton events e ih =>
      rw [appends_concat] at hn
      obtain ⟨past, n, hsum, hworn⟩ := ih (by omega)
      obtain ⟨past', n', hsum', hworn'⟩ := hworn.step hk (by omega) e
      refine ⟨past', n', by rw [appends_concat]; omega, ?_⟩
      rw [Run.final_concat, flashCalls, Run.outputs_concat, clears_concat]
      exact hworn'

/-- From a blank partition of two sectors or more, over any run of appends, erases of the log and
reboots whose flash calls succeed: of two sectors, the earlier one is never erased less often nor
more than once more for each time the log was started; and no sector is erased more often than
once for every lap of appends and twice for every time the log was started. -/
theorem wear_levelled (L : Layout) (hk : 2 ≤ L.sectors) (payloadSize : Nat) (hpos : 0 < payloadSize)
    (hle : payloadSize ≤ maxPayload) (events : List LogEvent) (hn : appends events < 2 ^ 32 - 2)
    (p q : Nat) (hpq : p ≤ q) (hq : q < L.sectors) :
    let calls := flashCalls (flashLogInit (FlashLog.declare payloadSize L.blankArea)).2 events
    L.erases q calls ≤ L.erases p calls ∧
      L.erases p calls ≤ L.erases q calls + (clears events + 1) ∧
      L.erases p calls ≤ appends events / L.total + 2 * clears events + 1 := by
  intro calls
  obtain ⟨past, n, hsum, hworn⟩ := (worn_blank L hpos hle).run hk events hn
  obtain ⟨base, hcount, hlevel, hbase⟩ := hworn.worn
  have hp := Nat.lt_of_le_of_lt hpq hq
  have hl := hlevel p q hpq hq
  have he := L.entries_level hpq hq n
  have hb := hbase p hp
  have hlaps := L.entries_le hp n
  have hdiv : past / L.total + n / L.total ≤ (past + n) / L.total := Nat.div_add_div_le_add_div
  rw [hcount p hp, hcount q hq, ← hsum]
  omega

end

theorem wear_levelled_wrapped :
    let events : List LogEvent := [.call (.append [1]), .call (.append [2]), .call (.append [3]),
      .reboot, .call (.append [4]), .call (.append [5]), .call .erase, .call (.append [6])]
    let calls := flashCalls (flashLogInit (FlashLog.declare 1 twoSectors.blankArea)).2 events
    twoSectors.erases 0 calls ≤ twoSectors.erases 1 calls + (clears events + 1) :=
  (wear_levelled twoSectors (by decide) 1 (by decide) (by decide)
    [.call (.append [1]), .call (.append [2]), .call (.append [3]), .reboot,
      .call (.append [4]), .call (.append [5]), .call .erase, .call (.append [6])]
    (by decide) 0 1 (by decide) (by decide)).2.1

end SmartTag
