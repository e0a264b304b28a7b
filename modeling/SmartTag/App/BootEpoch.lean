import SmartTag.App.AppState
import SmartTag.Storage.Boot

/-!
# The boot epoch

A phone or a gateway tells the tag the time, and from then on the tag knows the UTC of its boot.
Log timestamps count from boot, so this is what turns them into wall-clock time.

Here the tag runs beside a true clock. UTC is counted in whole seconds, from a boot on a whole
second; uptime is in milliseconds and restarts at every boot.

* `Tag.Keeps`: what the boot epoch and its stored copy do in a call that does not set the time.
* `World.step_keeps`, `World.step_setTime`, `World.step_boot`: what each event does to them.
* `boot_epoch_current_iff`: the epoch is that of the current boot in every state exactly when no
  boot restores that of another one.
-/

namespace SmartTag

/-! ## What does not set the time -/

/-- `e` is the boot epoch in RAM. -/
def AppState.HasEpoch (e : UInt32) (st : AppState) : Prop := st.statistics.bootEpochUtc = e

section

open Run

variable {e : UInt32}

theorem hasEpoch_queueEvent (type : EventType) (severity : EventSeverity) (value : Int16) :
    Preserves (AppState.HasEpoch e) (queueEvent type severity value) := by
  intro st hst
  rw [AppState.HasEpoch, queueEvent_statistics]
  exact hst

theorem hasEpoch_shockSeen (motion : MotionResult) :
    Preserves (AppState.HasEpoch e) (AppState.shockSeen motion) := by
  intro st hst
  apply hasEpoch_queueEvent
  split_ifs <;> exact hst

theorem hasEpoch_noteBattery (data : SensorData) :
    Preserves (AppState.HasEpoch e) (noteBattery data) := by
  intro st hst
  unfold noteBattery
  split_ifs <;> exact hst

theorem hasEpoch_applySample (data : SensorData) (motion : MotionResult) (config : TagConfig)
    (expectedValid : UInt8) :
    Preserves (AppState.HasEpoch e) (applySample data motion config expectedValid) := by
  intro st hst
  have hmotion : Preserves (AppState.HasEpoch e) (applyMotionResult motion) :=
    preserves_applyMotionResult (fun st hst => hasEpoch_queueEvent _ _ _ _ hst)
      (fun st hst => hasEpoch_queueEvent _ _ _ _ hst) (hasEpoch_shockSeen motion)
      (fun st hst => hasEpoch_queueEvent _ _ _ _ hst) hasEpoch_queueEvent
      (fun st hst => hasEpoch_queueEvent _ _ _ _ hst) fun st hst => hst
  have hcheck : Preserves (AppState.HasEpoch e) (checkThresholds data config expectedValid) :=
    preserves_checkThresholds (fun _ st hst => hst) (fun st hst => hst) (hasEpoch_noteBattery data)
      hasEpoch_queueEvent
  exact hcheck _ (hmotion _ hst)

end

/-- The boot epoch in RAM, and the one the next boot restores. -/
def Tag.bootEpoch (tag : Tag) : UInt32 := tag.app.statistics.bootEpochUtc

def Tag.persistedEpoch (tag : Tag) : UInt32 := tag.storage.persisted.bootEpochUtc

/-- No call to the settings subsystem is going to fail. -/
def Tag.Reliable (tag : Tag) : Prop := tag.storage.nvs.results = []

/-- A call that does not set the time: the boot epoch stays, and at most it is persisted. -/
structure Tag.Keeps (tag tag' : Tag) : Prop where
  epoch : tag'.bootEpoch = tag.bootEpoch
  persisted : tag'.persistedEpoch = tag.persistedEpoch ∨ tag'.persistedEpoch = tag.bootEpoch
  reliable : tag.Reliable → tag'.Reliable

theorem Tag.Keeps.trans {tag tag' tag'' : Tag} (h : tag.Keeps tag') (h' : tag'.Keeps tag'') :
    tag.Keeps tag'' where
  epoch := h'.epoch.trans h.epoch
  persisted := by
    rcases h'.persisted with heq | heq
    · rw [heq]
      exact h.persisted
    · exact Or.inr (heq.trans h.epoch)
  reliable hr := h'.reliable (h.reliable hr)

/-- What only touches the statics and the logs. -/
theorem Tag.Keeps.of_storage {tag tag' : Tag} (hepoch : tag'.bootEpoch = tag.bootEpoch)
    (hstorage : tag'.storage = tag.storage) : tag.Keeps tag' where
  epoch := hepoch
  persisted := Or.inl (by rw [Tag.persistedEpoch, hstorage, Tag.persistedEpoch])
  reliable hr := by rwa [Tag.Reliable, hstorage]

theorem persistedEpoch_appStateFlushStatistics (tag : Tag) :
    (appStateFlushStatistics tag).persistedEpoch =
      if (configStorageSaveStatistics tag.app.statistics tag.storage).1 = 0 then tag.bootEpoch
      else tag.persistedEpoch := by
  rw [Tag.persistedEpoch, appStateFlushStatistics, persisted_configStorageSaveStatistics]
  split_ifs <;> rfl

theorem reliable_appStateFlushStatistics {tag : Tag} (h : tag.Reliable) :
    (configStorageSaveStatistics tag.app.statistics tag.storage).1 = 0 ∧
      (appStateFlushStatistics tag).Reliable := by
  have hresults : tag.storage.nvs.results = [] := h
  rw [Tag.Reliable, appStateFlushStatistics, configStorageSaveStatistics_eq, settingsSaveOne,
    put_quiet hresults]
  exact ⟨rfl, hresults⟩

theorem keeps_appStateFlushStatistics (tag : Tag) : tag.Keeps (appStateFlushStatistics tag) where
  epoch := rfl
  persisted := by
    rw [persistedEpoch_appStateFlushStatistics]
    split_ifs
    · exact Or.inr rfl
    · exact Or.inl rfl
  reliable h := (reliable_appStateFlushStatistics h).2

theorem keeps_appStateResetCounters (tag : Tag) : tag.Keeps (appStateResetCounters tag) := by
  refine Tag.Keeps.trans ?_ (keeps_appStateFlushStatistics _)
  exact .of_storage rfl rfl

theorem keeps_flushIfDue (timestamp : UInt32) (tag : Tag) :
    tag.Keeps (flushIfDue timestamp tag) := by
  unfold flushIfDue
  split_ifs
  · refine Tag.Keeps.trans ?_ (keeps_appStateFlushStatistics _)
    exact .of_storage rfl rfl
  · exact .of_storage rfl rfl

section

variable [Crc16]

theorem keeps_appRaiseEvent (uptimeMs : Nat) (type : EventType) (severity : EventSeverity)
    (value : Int16) (tag : Tag) :
    tag.Keeps (appRaiseEvent uptimeMs type severity value tag).2 :=
  .of_storage rfl rfl

theorem keeps_raiseBatch (uptimeMs : Nat) (batch : List PendingEvent) (tag : Tag) :
    tag.Keeps (raiseBatch uptimeMs batch tag).2 := by
  induction batch generalizing tag with
  | nil => exact .of_storage rfl rfl
  | cons e batch ih =>
      exact (keeps_appRaiseEvent uptimeMs e.type e.severity e.value tag).trans (ih _)

theorem keeps_appProcessSensorData (uptimeMs : Nat) (data : SensorData) (motion : MotionResult)
    (config : TagConfig) (expectedValid : UInt8) (tag : Tag) :
    tag.Keeps (appProcessSensorData uptimeMs data motion config expectedValid tag).2 := by
  have hsample : tag.Keeps { tag with
      app := applySample data motion config expectedValid tag.app } :=
    .of_storage (hasEpoch_applySample data motion config expectedValid tag.app rfl) rfl
  unfold appProcessSensorData drainPendingEvents
  apply hsample.trans
  refine Tag.Keeps.trans ?_ (keeps_flushIfDue _ _)
  refine Tag.Keeps.trans ?_ (keeps_raiseBatch _ _ _)
  split_ifs <;> exact .of_storage rfl rfl

/-- The tag with an epoch in RAM. -/
def Tag.withEpoch (tag : Tag) (epoch : UInt32) : Tag :=
  { tag with
    app := { tag.app with statistics := { tag.app.statistics with bootEpochUtc := epoch } } }

theorem appStateSetTimeUtc_refused {uptimeMs : Nat} {utcNow : UInt32}
    (h : smartTagBootEpochUtc utcNow (uptimeS uptimeMs) = 0) (tag : Tag) :
    appStateSetTimeUtc uptimeMs utcNow tag = (-EINVAL, tag) :=
  if_pos h

/-- An epoch that is accepted is stored, and persisted if the save succeeds. -/
theorem appStateSetTimeUtc_accepted {uptimeMs : Nat} {utcNow epoch : UInt32}
    (hepoch : smartTagBootEpochUtc utcNow (uptimeS uptimeMs) = epoch) (hne : epoch ≠ 0)
    (tag : Tag) :
    (appStateSetTimeUtc uptimeMs utcNow tag).2.bootEpoch = epoch ∧
      (tag.Reliable →
        (appStateSetTimeUtc uptimeMs utcNow tag).2.persistedEpoch = epoch ∧
          (appStateSetTimeUtc uptimeMs utcNow tag).2.Reliable) := by
  have hset : (appStateSetTimeUtc uptimeMs utcNow tag).2 =
      (appRaiseEvent uptimeMs .timeSet .info 0
        (appStateFlushStatistics (tag.withEpoch epoch))).2 := by
    rw [appStateSetTimeUtc, hepoch]
    dsimp only
    rw [if_neg hne]
    rfl
  rw [hset]
  refine ⟨rfl, fun hr => ?_⟩
  have hreliable : (tag.withEpoch epoch).Reliable := hr
  obtain ⟨hsaved, hafter⟩ := reliable_appStateFlushStatistics hreliable
  have hpersisted := persistedEpoch_appStateFlushStatistics (tag.withEpoch epoch)
  rw [if_pos hsaved] at hpersisted
  exact ⟨hpersisted, hafter⟩

theorem bootEpoch_powerOn (tag : Tag) : tag.powerOn.bootEpoch = tag.persistedEpoch := rfl

theorem persistedEpoch_powerOn (tag : Tag) : tag.powerOn.persistedEpoch = tag.persistedEpoch := by
  rw [Tag.persistedEpoch, Tag.powerOn, persisted_powerOn, Tag.persistedEpoch]

theorem reliable_powerOn {tag : Tag} (h : tag.Reliable) : tag.powerOn.Reliable := by
  rw [Tag.Reliable, Tag.powerOn, powerOn_nvs]
  exact h

end

/-! ## The tag and the true clock -/

/-- The tag, the UTC at which its current boot began, and its uptime. -/
structure World where
  tag : Tag
  bootUtc : Nat
  uptimeMs : Nat

/-- True UTC, in seconds. -/
def World.utc (w : World) : Nat := w.bootUtc + w.uptimeMs / 1000

/-- What can happen to the tag. -/
inductive WorldEvent where
  /-- It reboots, and comes up `offline` seconds later. -/
  | boot (offline : Nat)
  | wait (ms : Nat)
  | sample (data : SensorData) (motion : MotionResult) (config : TagConfig) (expectedValid : UInt8)
  | raise (type : EventType) (severity : EventSeverity) (value : Int16)
  | resetCounters
  | flush
  /-- It is told the true time. -/
  | setTime
deriving DecidableEq

def WorldEvent.isBoot : WorldEvent → Bool
  | .boot _ => true
  | _ => false

theorem WorldEvent.eq_boot {e : WorldEvent} (h : e.isBoot = true) :
    ∃ offline, e = .boot offline := by
  cases e with
  | boot offline => exact ⟨offline, rfl⟩
  | _ => exact absurd h (by simp [WorldEvent.isBoot])

/-- Before the first boot: nothing is known in RAM. -/
def World.unbooted (tag : Tag) (utc : Nat) : World where
  tag := { tag with app := .atReset }
  bootUtc := utc
  uptimeMs := 0

section

variable [Crc16]

/-- One event. A reboot is `app_state_init` on the statistics last persisted. -/
def World.step (w : World) : WorldEvent → World
  | .boot offline => { tag := w.tag.powerOn, bootUtc := w.utc + offline, uptimeMs := 0 }
  | .wait ms => { w with uptimeMs := w.uptimeMs + ms }
  | .sample data motion config expectedValid =>
    { w with tag :=
        (appProcessSensorData w.uptimeMs data motion config expectedValid w.tag).2 }
  | .raise type severity value =>
    { w with tag := (appRaiseEvent w.uptimeMs type severity value w.tag).2 }
  | .resetCounters => { w with tag := appStateResetCounters w.tag }
  | .flush => { w with tag := appStateFlushStatistics w.tag }
  | .setTime =>
    { w with tag := (appStateSetTimeUtc w.uptimeMs (UInt32.ofNat w.utc) w.tag).2 }

end

/-- The boot epoch is unknown or that of the current boot, and the wall-clock time it gives for
now is unknown or true. -/
def World.EpochCurrent (w : World) : Prop :=
  (w.tag.bootEpoch = 0 ∨ w.tag.bootEpoch.toNat = w.utc - w.uptimeMs / 1000) ∧
    (smartTagUtcFromUptime w.tag.bootEpoch (uptimeS w.uptimeMs) = 0 ∨
      (smartTagUtcFromUptime w.tag.bootEpoch (uptimeS w.uptimeMs)).toNat = w.utc)

instance (w : World) : Decidable w.EpochCurrent := inferInstanceAs (Decidable (_ ∧ _))

/-- A boot restores no epoch, unless it began at that very time. -/
def World.RestoresNoOther (w : World) : WorldEvent → Prop
  | .boot offline =>
    w.tag.persistedEpoch = 0 ∨ w.tag.persistedEpoch.toNat = w.utc + offline
  | _ => True

/-- The state is sound: the epoch is unknown or that of the boot, and the clock has not wrapped. -/
structure World.Sound (w : World) : Prop where
  epoch : w.tag.bootEpoch = 0 ∨ w.tag.bootEpoch.toNat = w.bootUtc
  utc : w.utc < 2 ^ 32

namespace World

theorem toNat_uptimeS {w : World} (h : w.utc < 2 ^ 32) :
    (uptimeS w.uptimeMs).toNat = w.uptimeMs / 1000 := by
  rw [uptimeS, UInt32.toNat_ofNat']
  apply Nat.mod_eq_of_lt
  exact (Nat.le_add_left _ _).trans_lt h

theorem Sound.current {w : World} (h : w.Sound) : w.EpochCurrent := by
  have hboot : w.utc - w.uptimeMs / 1000 = w.bootUtc := Nat.add_sub_cancel _ _
  constructor
  · rw [hboot]
    exact h.epoch
  · by_cases hzero : w.tag.bootEpoch = 0
    · exact Or.inl (by rw [smartTagUtcFromUptime, if_pos hzero])
    · have hepoch := h.epoch.resolve_left hzero
      have hsum : w.tag.bootEpoch.toNat + (uptimeS w.uptimeMs).toNat = w.utc := by
        rw [hepoch, toNat_uptimeS h.utc, World.utc]
      refine Or.inr ?_
      rw [toNat_smartTagUtcFromUptime hzero (by rw [hsum]; exact h.utc), hsum]

/-- From the right time and the right uptime the boot's UTC is derived. -/
theorem toNat_epoch {w : World} (h : w.utc < 2 ^ 32) :
    (smartTagBootEpochUtc (UInt32.ofNat w.utc) (uptimeS w.uptimeMs)).toNat = w.bootUtc := by
  rw [toNat_smartTagBootEpochUtc, UInt32.toNat_ofNat', Nat.mod_eq_of_lt h, toNat_uptimeS h]
  exact Nat.add_sub_cancel _ _

/-! ### When the time is set -/

/-- The time has not been set, now or in the past. -/
structure Unset (w : World) : Prop where
  persisted : w.tag.persistedEpoch = 0
  epoch : w.tag.bootEpoch = 0
  reliable : w.tag.Reliable
  boot : w.bootUtc ≠ 0

/-- The time has been set in this boot. -/
structure TimeSet (w : World) : Prop where
  persisted : w.tag.persistedEpoch.toNat = w.bootUtc
  epoch : w.tag.bootEpoch.toNat = w.bootUtc
  reliable : w.tag.Reliable
  boot : w.bootUtc ≠ 0

/-- A reboot after the time was set restores the epoch of the boot before. -/
theorem TimeSet.restores {w : World} (h : w.TimeSet) {offline : Nat} (hlater : 0 < offline) :
    ¬ w.RestoresNoOther (.boot offline) := by
  have hle : w.bootUtc ≤ w.utc := Nat.le_add_right _ _
  rintro (hzero | hsame)
  · have hpersisted := h.persisted
    rw [hzero] at hpersisted
    exact h.boot hpersisted.symm
  · rw [h.persisted] at hsame
    omega

/-! ### What one event does -/

section

variable [Crc16]

theorem step_boot (w : World) (offline : Nat) :
    (w.step (.boot offline)).tag.bootEpoch = w.tag.persistedEpoch ∧
      (w.step (.boot offline)).tag.persistedEpoch = w.tag.persistedEpoch ∧
      (w.step (.boot offline)).bootUtc = w.utc + offline :=
  ⟨bootEpoch_powerOn w.tag, persistedEpoch_powerOn w.tag, rfl⟩

/-- Being told the time makes the epoch that of the boot, and persists it if the save succeeds. -/
theorem step_setTime {w : World} (h : w.utc < 2 ^ 32) (hboot : w.bootUtc ≠ 0) :
    (w.step .setTime).tag.bootEpoch.toNat = w.bootUtc ∧
      (w.tag.Reliable →
        (w.step .setTime).tag.persistedEpoch.toNat = w.bootUtc ∧
          (w.step .setTime).tag.Reliable) := by
  have hepoch := toNat_epoch h
  have hne : smartTagBootEpochUtc (UInt32.ofNat w.utc) (uptimeS w.uptimeMs) ≠ 0 := by
    intro hzero
    rw [hzero] at hepoch
    exact hboot hepoch.symm
  obtain ⟨hram, hsaved⟩ := appStateSetTimeUtc_accepted rfl hne w.tag
  refine ⟨(congrArg UInt32.toNat hram).trans hepoch, fun hr => ?_⟩
  obtain ⟨hpersisted, hreliable⟩ := hsaved hr
  exact ⟨(congrArg UInt32.toNat hpersisted).trans hepoch, hreliable⟩

/-- At UTC 0 the time is refused. -/
theorem step_setTime_zero {w : World} (h : w.utc < 2 ^ 32) (hboot : w.bootUtc = 0) :
    w.step .setTime = w := by
  have hepoch := toNat_epoch h
  rw [hboot] at hepoch
  have hzero : smartTagBootEpochUtc (UInt32.ofNat w.utc) (uptimeS w.uptimeMs) = 0 :=
    UInt32.toNat_inj.1 hepoch
  rw [step, appStateSetTimeUtc_refused hzero]

/-- Every other event keeps the boot and what is known of it. -/
theorem step_keeps (w : World) {e : WorldEvent} (hboot : e.isBoot = false) (htime : e ≠ .setTime) :
    w.tag.Keeps (w.step e).tag ∧ (w.step e).bootUtc = w.bootUtc := by
  cases e with
  | boot offline => exact absurd hboot (by simp [WorldEvent.isBoot])
  | wait ms => exact ⟨.of_storage rfl rfl, rfl⟩
  | sample data motion config expectedValid =>
      exact ⟨keeps_appProcessSensorData _ _ _ _ _ _, rfl⟩
  | raise type severity value => exact ⟨keeps_appRaiseEvent _ _ _ _ _, rfl⟩
  | resetCounters => exact ⟨keeps_appStateResetCounters _, rfl⟩
  | flush => exact ⟨keeps_appStateFlushStatistics _, rfl⟩
  | setTime => exact absurd rfl htime

/-- UTC never goes back. -/
theorem utc_le_step (w : World) (e : WorldEvent) : w.utc ≤ (w.step e).utc := by
  cases e with
  | boot offline => exact (Nat.le_add_right _ _).trans (Nat.le_add_right _ _)
  | wait ms =>
      apply Nat.add_le_add_left
      exact Nat.div_le_div_right (Nat.le_add_right _ _)
  | sample data motion config expectedValid => exact le_rfl
  | raise type severity value => exact le_rfl
  | resetCounters => exact le_rfl
  | flush => exact le_rfl
  | setTime => exact le_rfl

theorem utc_le_final (w : World) (events : List WorldEvent) :
    w.utc ≤ (Run.final step w events).utc := by
  induction events generalizing w with
  | nil => exact le_rfl
  | cons e events ih => exact (w.utc_le_step e).trans (ih _)

/-- If UTC has not wrapped at the end of a run, it has nowhere on it. -/
theorem along_utc_lt {w : World} {events : List WorldEvent}
    (h : (Run.final step w events).utc < 2 ^ 32) :
    Run.Along step (fun w e => (w.step e).utc < 2 ^ 32) w events := by
  induction events generalizing w with
  | nil => trivial
  | cons e events ih => exact ⟨(utc_le_final _ _).trans_lt h, ih h⟩

/-! ### Every state of a run -/

theorem Sound.step {w : World} (h : w.Sound) {e : WorldEvent} (hutc : (w.step e).utc < 2 ^ 32)
    (hrestores : w.RestoresNoOther e) : (w.step e).Sound := by
  refine ⟨?_, hutc⟩
  by_cases hboot : e.isBoot = true
  · obtain ⟨offline, rfl⟩ := WorldEvent.eq_boot hboot
    obtain ⟨hepoch, -, hutc'⟩ := w.step_boot offline
    rw [hepoch, hutc']
    exact hrestores
  · by_cases htime : e = .setTime
    · subst htime
      by_cases hzero : w.bootUtc = 0
      · rw [step_setTime_zero h.utc hzero]
        exact h.epoch
      · exact Or.inr (step_setTime h.utc hzero).1
    · obtain ⟨hkeeps, hsame⟩ := w.step_keeps (by simpa using hboot) htime
      rw [hkeeps.epoch, hsame]
      exact h.epoch

/-- A boot that restores another epoch makes it wrong at once. -/
theorem not_current_of_restores {w : World} {e : WorldEvent} (h : ¬ w.RestoresNoOther e) :
    ¬ (w.step e).EpochCurrent := by
  cases e with
  | boot offline =>
      intro hcurrent
      obtain ⟨hepoch, -⟩ := hcurrent
      obtain ⟨hrestored, -, -⟩ := w.step_boot offline
      have hboot : (w.step (.boot offline)).utc - (w.step (.boot offline)).uptimeMs / 1000 =
          w.utc + offline := Nat.add_sub_cancel _ _
      rw [hrestored, hboot] at hepoch
      exact h hepoch
  | _ => exact absurd trivial h

/-! ### Runs of a tag whose saves succeed -/

theorem TimeSet.step {w : World} (h : w.TimeSet) {e : WorldEvent} (hutc : w.utc < 2 ^ 32)
    (hboot : e.isBoot = false) : (w.step e).TimeSet := by
  by_cases htime : e = .setTime
  · subst htime
    obtain ⟨hepoch, hsaved⟩ := step_setTime hutc h.boot
    obtain ⟨hpersisted, hreliable⟩ := hsaved h.reliable
    exact ⟨hpersisted, hepoch, hreliable, h.boot⟩
  · obtain ⟨hkeeps, hsame⟩ := w.step_keeps hboot htime
    refine ⟨?_, ?_, hkeeps.reliable h.reliable, ?_⟩
    · rw [hsame]
      rcases hkeeps.persisted with heq | heq <;> rw [heq]
      · exact h.persisted
      · exact h.epoch
    · rw [hkeeps.epoch, hsame]
      exact h.epoch
    · rw [hsame]
      exact h.boot

theorem Unset.step {w : World} (h : w.Unset) {e : WorldEvent} (htime : e ≠ .setTime) :
    (w.step e).Unset := by
  by_cases hboot : e.isBoot = true
  · obtain ⟨offline, rfl⟩ := WorldEvent.eq_boot hboot
    obtain ⟨hepoch, hpersisted, hutc⟩ := w.step_boot offline
    refine ⟨hpersisted.trans h.persisted, hepoch.trans h.persisted,
      reliable_powerOn h.reliable, ?_⟩
    have hpos := Nat.pos_of_ne_zero h.boot
    rw [hutc, World.utc]
    omega
  · obtain ⟨hkeeps, hsame⟩ := w.step_keeps (by simpa using hboot) htime
    refine ⟨?_, hkeeps.epoch.trans h.epoch, hkeeps.reliable h.reliable, ?_⟩
    · rcases hkeeps.persisted with heq | heq
      · exact heq.trans h.persisted
      · exact heq.trans h.epoch
    · rw [hsame]
      exact h.boot

theorem Unset.setTime {w : World} (h : w.Unset) (hutc : w.utc < 2 ^ 32) :
    (w.step .setTime).TimeSet := by
  obtain ⟨hepoch, hsaved⟩ := step_setTime hutc h.boot
  obtain ⟨hpersisted, hreliable⟩ := hsaved h.reliable
  exact ⟨hpersisted, hepoch, hreliable, h.boot⟩

theorem TimeSet.along_iff {w : World} (h : w.TimeSet) {events : List WorldEvent}
    (hlater : ∀ offline, WorldEvent.boot offline ∈ events → 0 < offline)
    (hutc : (Run.final World.step w events).utc < 2 ^ 32) :
    Run.Along World.step RestoresNoOther w events ↔ ∀ e ∈ events, e.isBoot = false := by
  induction events generalizing w with
  | nil => simp [Run.Along]
  | cons e events ih =>
      by_cases hboot : e.isBoot = true
      · obtain ⟨offline, rfl⟩ := WorldEvent.eq_boot hboot
        have hbad := h.restores (hlater offline List.mem_cons_self)
        constructor
        · intro halong
          exact absurd halong.1 hbad
        · intro hnone
          exact absurd (hnone _ List.mem_cons_self) (by simp [WorldEvent.isBoot])
      · have hstay : e.isBoot = false := by simpa using hboot
        have hnow : w.RestoresNoOther e := by
          cases e with
          | boot offline => exact absurd hstay (by simp [WorldEvent.isBoot])
          | _ => trivial
        have hrest := ih (h.step ((utc_le_final w _).trans_lt hutc) hstay)
          (fun offline hmem => hlater offline (List.mem_cons_of_mem _ hmem)) hutc
        rw [Run.Along, hrest, List.forall_mem_cons]
        exact and_congr (iff_of_true hnow hstay) Iff.rfl

theorem Unset.along_iff {w : World} (h : w.Unset) {events : List WorldEvent}
    (hlater : ∀ offline, WorldEvent.boot offline ∈ events → 0 < offline)
    (hutc : (Run.final World.step w events).utc < 2 ^ 32) :
    Run.Along World.step RestoresNoOther w events ↔
      events.Pairwise fun e e' => e = .setTime → e'.isBoot = false := by
  induction events generalizing w with
  | nil => simp [Run.Along]
  | cons e events ih =>
      have hlater' : ∀ offline, WorldEvent.boot offline ∈ events → 0 < offline :=
        fun offline hmem => hlater offline (List.mem_cons_of_mem _ hmem)
      rw [Run.Along, List.pairwise_cons]
      by_cases htime : e = .setTime
      · subst htime
        have hset := h.setTime ((utc_le_final w _).trans_lt hutc)
        rw [hset.along_iff hlater' hutc]
        constructor
        · intro halong
          obtain ⟨-, hnone⟩ := halong
          refine ⟨fun e he _ => hnone e he, ?_⟩
          exact List.pairwise_of_forall_mem_list fun _ _ e' he' _ => hnone e' he'
        · intro hpairs
          obtain ⟨hnone, -⟩ := hpairs
          exact ⟨trivial, fun e he => hnone e he rfl⟩
      · have hnow : w.RestoresNoOther e := by
          cases e with
          | boot offline => exact Or.inl h.persisted
          | _ => trivial
        rw [ih (h.step htime) hlater' hutc]
        constructor
        · intro halong
          obtain ⟨-, hpair⟩ := halong
          exact ⟨fun _ _ heq => absurd heq htime, hpair⟩
        · intro hpairs
          obtain ⟨-, hpair⟩ := hpairs
          exact ⟨hnow, hpair⟩

end

end World

/-! ## The boot epoch over whole runs -/

section

variable [Crc16]

/-- Over any run on any stored settings, whatever the saves return: the boot epoch is unknown or
that of the current boot in every state exactly when no boot restores another one. For a tag that
has never been told the time, whose saves succeed and which is off for a while at each reboot,
that is when no reboot follows a time set. -/
theorem boot_epoch_current_iff (tag : Tag) (utc : Nat) (events : List WorldEvent)
    (hutc : (Run.final World.step (World.unbooted tag utc) events).utc < 2 ^ 32) :
    let start := World.unbooted tag utc
    ((∀ m, (Run.final World.step start (events.take m)).EpochCurrent) ↔
        Run.Along World.step World.RestoresNoOther start events) ∧
      (tag.persistedEpoch = 0 → tag.Reliable → utc ≠ 0 →
        (∀ offline, WorldEvent.boot offline ∈ events → 0 < offline) →
        ((∀ m, (Run.final World.step start (events.take m)).EpochCurrent) ↔
          events.Pairwise fun e e' => e = .setTime → e'.isBoot = false)) := by
  intro start
  have hstart : start.Sound := ⟨Or.inl rfl, (World.utc_le_final _ _).trans_lt hutc⟩
  have hiff : (∀ m, (Run.final World.step start (events.take m)).EpochCurrent) ↔
      Run.Along World.step World.RestoresNoOther start events :=
    Run.forall_prefix_iff_along (I := World.Sound) (fun w hw => hw.current)
      (fun w e hw hD hP => hw.step hD hP)
      (fun w e _ _ hP => World.not_current_of_restores hP) hstart (World.along_utc_lt hutc)
  refine ⟨hiff, fun hpersisted hreliable hpos hlater => hiff.trans ?_⟩
  have hunset : start.Unset := ⟨hpersisted, rfl, hreliable, hpos⟩
  exact hunset.along_iff hlater hutc

end

/-! ## Two boots of a new tag -/

/-- Nothing logged, nothing stored. -/
def newTag : Tag where
  app := .atReset
  storage := .atReset { stored := fun _ => none, results := [] }
  eventLog := FlashLog.declare 8 (Layout.blankArea ⟨1, 4, by decide, by decide, by decide⟩)
  sensorLog := FlashLog.declare 17 (Layout.blankArea ⟨1, 4, by decide, by decide, by decide⟩)

/-- The time is set ten seconds after the first boot; a minute's power cut later the tag still
gives the first boot as the current one. -/
theorem boot_epoch_of_last_boot :
    let w := Run.final World.step (World.unbooted newTag 1700000000)
      [.boot 0, .wait 10000, .setTime, .boot 60]
    ¬ w.EpochCurrent ∧ w.tag.bootEpoch = 1700000000 ∧ w.utc = 1700000070 := by
  decide +kernel

/-- Reboots before the time is set do no harm. -/
theorem boot_epoch_current_set_last :
    (Run.final World.step (World.unbooted newTag 1700000000)
      ([.boot 1, .wait 5000, .boot 60, .setTime, .flush].take 5)).EpochCurrent :=
  ((boot_epoch_current_iff newTag 1700000000 [.boot 1, .wait 5000, .boot 60, .setTime, .flush]
    (by decide +kernel)).2 (by decide +kernel) rfl (by decide) (by simp)).2 (by decide) 5

end SmartTag
