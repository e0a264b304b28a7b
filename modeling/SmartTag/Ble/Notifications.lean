import SmartTag.App.AppState
import SmartTag.Ble.EventNotify
import SmartTag.Lib.Doorbell
import SmartTag.Lib.Mailbox

/-!
# The notification work item

All of `notify_work_fn` in `src/ble/ble_gatt.c`, beside the threads that hand over samples and
events and submit it. A work item that is submitted while it runs is queued again; one that is
queued already is not queued twice. Everything else may happen between any two steps of it.

* `notifications_settle`: the samples notified are some of those handed over, in their order; at
  rest the last of them is the last one handed over, and no event is left in the queue.

The pending sample is a mailbox. The work item is a doorbell twice over: for the samples, which it
looks for once, and for the events, which it reads until there are none.
-/

namespace SmartTag

/-- A call of `ble_gatt_notify`. -/
inductive Notification where
  | sensorData (data : SensorData)
  | status (status : TagStatus)
  | event (event : EventRecord)
deriving DecidableEq, Repr

def Notification.sample? : Notification → Option SensorData
  | .sensorData data => some data
  | _ => none

/-- Where the work queue is with `notify_work`. -/
inductive NotifyPhase where
  | idle
  /-- Before the locked section. -/
  | taking
  | sendingSensor (data : SensorData)
  | sendingStatus
  /-- Before `k_msgq_get`. -/
  | draining
  | sendingEvent (event : EventRecord)
  /-- Out of buffers: before the event is put back, and before the item is submitted again. -/
  | puttingBack (event : EventRecord)
  | resubmitting
deriving DecidableEq

/-- The statics of `ble_gatt.c` behind the notifications, the status of the tag and the threads:
`queued` says that the work item is submitted, `submitting` that a thread has handed something over
and is going to submit it. `given` lists the samples handed over, `taken` those the work has taken
and `notified` what it has handed on. `puts` counts what was put into the event queue. `sampled` and
`emptied` are the number of samples when the work last looked for one, and of puts when it last
found the queue empty. -/
structure Notifications (ι : Type*) where
  pendingSensor : SensorData
  pendingSensorValid : Bool
  latestEvent : EventRecord
  eventQueue : BoundedQueue EventRecord eventQueueLength
  status : TagStatus
  work : NotifyPhase
  queued : Bool
  submitting : ι → Bool
  given : List SensorData
  taken : List SensorData
  notified : List Notification
  puts : Nat
  sampled : Nat
  emptied : Nat

inductive NotificationEvent (ι : Type*) where
  /-- The locked section of `on_sensor_data`. -/
  | onSensorData (i : ι) (data : SensorData)
  /-- `on_event`, up to `k_work_submit`. -/
  | onEvent (i : ι) (event : EventRecord)
  /-- The `k_work_submit` of either. -/
  | submit (i : ι)
  | setStatus (status : TagStatus)
  /-- The work queue starts the item. -/
  | start
  /-- It goes on, a notification returning `err`. -/
  | work (err : Int)

namespace Notifications

variable {ι : Type*}

/-- A step of `notify_work_fn`. -/
def workStep (err : Int) (s : Notifications ι) : Notifications ι :=
  match s.work with
  | .idle => s
  | .taking =>
    { s with
      pendingSensorValid := false
      work := if s.pendingSensorValid then .sendingSensor s.pendingSensor else .draining
      taken := if s.pendingSensorValid then s.taken ++ [s.pendingSensor] else s.taken
      sampled := s.given.length }
  | .sendingSensor data =>
    { s with work := .sendingStatus, notified := s.notified ++ [.sensorData data] }
  | .sendingStatus => { s with work := .draining, notified := s.notified ++ [.status s.status] }
  | .draining =>
    match s.eventQueue.get with
    | none => { s with work := .idle, emptied := s.puts }
    | some (event, queue) => { s with eventQueue := queue, work := .sendingEvent event }
  | .sendingEvent event =>
    { s with
      work := if err = -ENOMEM then .puttingBack event else .draining
      notified := s.notified ++ [.event event] }
  | .puttingBack event =>
    { s with eventQueue := s.eventQueue.offer event, work := .resubmitting, puts := s.puts + 1 }
  | .resubmitting => { s with work := .idle, queued := true }

variable [DecidableEq ι]

def step (s : Notifications ι) : NotificationEvent ι → Notifications ι
  | .onSensorData i data =>
    if s.submitting i then s
    else
      { s with
        pendingSensor := data
        pendingSensorValid := true
        submitting := Function.update s.submitting i true
        given := s.given ++ [data] }
  | .onEvent i event =>
    if s.submitting i then s
    else
      { s with
        latestEvent := event
        eventQueue := s.eventQueue.push event
        submitting := Function.update s.submitting i true
        puts := s.puts + 1 }
  | .submit i =>
    if s.submitting i then
      { s with queued := true, submitting := Function.update s.submitting i false }
    else s
  | .setStatus status => { s with status := status }
  | .start =>
    if s.work = .idle ∧ s.queued then { s with work := .taking, queued := false } else s
  | .work err => s.workStep err

/-- What `ble_gatt_init` leaves. -/
def init (status : TagStatus) : Notifications ι where
  pendingSensor := AppState.atReset.lastSample
  pendingSensorValid := false
  latestEvent := { timestamp := 0, type := 0, severity := 0, value := 0 }
  eventQueue := .empty
  status := status
  work := .idle
  queued := false
  submitting := fun _ => false
  given := []
  taken := []
  notified := []
  puts := 0
  sampled := 0
  emptied := 0

/-! ## The pending sample -/

def mailbox (s : Notifications ι) : Mailbox.State SensorData where
  box := if s.pendingSensorValid then some s.pendingSensor else none
  put := s.given
  taken := s.taken

def mailboxOps (s : Notifications ι) : NotificationEvent ι → List (Mailbox.Op SensorData)
  | .onSensorData i data => if s.submitting i then [] else [.put data]
  | .work _ =>
    match s.work with
    | .taking => [.take]
    | _ => []
  | _ => []

theorem mailbox_step (s : Notifications ι) (e : NotificationEvent ι) :
    (s.step e).mailbox = Run.final Mailbox.step s.mailbox (s.mailboxOps e) := by
  cases e with
  | onSensorData i data =>
      simp only [step, mailboxOps]
      split_ifs <;> rfl
  | work err =>
      simp only [step, mailboxOps]
      cases hwork : s.work with
      | taking =>
          simp only [workStep, hwork]
          cases hvalid : s.pendingSensorValid <;> simp [mailbox, Mailbox.step, hvalid]
      | draining =>
          simp only [workStep, hwork]
          split <;> rfl
      | _ =>
          simp only [workStep, hwork]
          rfl
  | onEvent i event =>
      simp only [step]
      split_ifs <;> rfl
  | submit i =>
      simp only [step]
      split_ifs <;> rfl
  | setStatus status => rfl
  | start =>
      simp only [step]
      split_ifs <;> rfl

/-! ## The work item -/

/-- The threads, with the work queue. -/
def writers (submitting : ι → Bool) (worker : Doorbell.Writer) : Option ι → Doorbell.Writer
  | none => worker
  | some i => if submitting i then .ringing else .idle

theorem writers_update (submitting : ι → Bool) (worker : Doorbell.Writer) (i : ι) (b : Bool) :
    writers (Function.update submitting i b) worker =
      Function.update (writers submitting worker) (some i) (if b then .ringing else .idle) := by
  funext who
  cases who with
  | none => rfl
  | some j =>
      by_cases hj : j = i
      · subst hj
        simp [writers]
      · simp [writers, hj]

end Notifications

namespace NotifyPhase

/-- The work as the consumer of the pending sample. -/
def sampler : NotifyPhase → Doorbell.Consumer
  | .idle => .waiting
  | .taking => .reading
  | _ => .done

/-- The work as the consumer of the event queue. -/
def drainer : NotifyPhase → Doorbell.Consumer
  | .idle => .waiting
  | _ => .reading

/-- The work as one who puts into the queue. -/
def writer : NotifyPhase → Doorbell.Writer
  | .resubmitting => .wrote
  | _ => .idle

end NotifyPhase

namespace Notifications

variable {ι : Type*}

/-- The samples handed over, and how many there were when the work last looked. -/
def sampleBell (s : Notifications ι) : Doorbell.State (Option ι) Nat where
  value := s.given.length
  seen := s.sampled
  attached := true
  writer := writers s.submitting .idle
  rung := s.queued
  consumer := s.work.sampler

/-- What was put into the queue, and how much when the work last found it empty. -/
def eventBell (s : Notifications ι) : Doorbell.State (Option ι) Nat where
  value := s.puts
  seen := s.emptied
  attached := true
  writer := writers s.submitting s.work.writer
  rung := s.queued
  consumer := s.work.drainer

variable [DecidableEq ι]

def sampleOps (s : Notifications ι) : NotificationEvent ι → List (Doorbell.Op (Option ι) Nat)
  | .onSensorData i _ =>
    if s.submitting i then [] else [.write (some i) (s.given.length + 1), .look (some i)]
  | .onEvent i _ =>
    if s.submitting i then [] else [.write (some i) s.given.length, .look (some i)]
  | .submit i => if s.submitting i then [.ring (some i)] else []
  | .setStatus _ => []
  | .start => [.wake]
  | .work _ =>
    match s.work with
    | .taking => [.read]
    | .draining => if s.eventQueue.get.isNone then [.rest] else []
    | .resubmitting => [.ring none, .rest]
    | _ => []

def eventOps (s : Notifications ι) : NotificationEvent ι → List (Doorbell.Op (Option ι) Nat)
  | .onSensorData i _ =>
    if s.submitting i then [] else [.write (some i) s.puts, .look (some i)]
  | .onEvent i _ =>
    if s.submitting i then [] else [.write (some i) (s.puts + 1), .look (some i)]
  | .submit i => if s.submitting i then [.ring (some i)] else []
  | .setStatus _ => []
  | .start => [.wake]
  | .work _ =>
    match s.work with
    | .draining => if s.eventQueue.get.isNone then [.read, .rest] else []
    | .puttingBack _ => [.write none (s.puts + 1)]
    | .resubmitting => [.ring none, .skip]
    | _ => []

theorem sampleBell_step (s : Notifications ι) (e : NotificationEvent ι) :
    (s.step e).sampleBell = Run.final Doorbell.step s.sampleBell (s.sampleOps e) := by
  cases e with
  | onSensorData i data =>
      simp only [step, sampleOps]
      split_ifs
      · rfl
      · simp [sampleBell, Doorbell.step, writers_update]
  | onEvent i event =>
      simp only [step, sampleOps]
      split_ifs
      · rfl
      · simp [sampleBell, Doorbell.step, writers_update]
  | submit i =>
      simp only [step, sampleOps]
      split_ifs
      · simp [sampleBell, Doorbell.step, writers_update]
      · rfl
  | setStatus status => rfl
  | start =>
      simp only [step, sampleOps]
      cases hwork : s.work <;> cases hqueued : s.queued <;>
        simp [sampleBell, Doorbell.step, hwork, hqueued, NotifyPhase.sampler]
  | work err =>
      simp only [step, sampleOps]
      cases hwork : s.work with
      | draining =>
          simp only [workStep, hwork]
          cases hget : s.eventQueue.get <;>
            simp [sampleBell, Doorbell.step, hwork, NotifyPhase.sampler]
      | taking =>
          simp only [workStep, hwork]
          cases hvalid : s.pendingSensorValid <;>
            simp [sampleBell, Doorbell.step, hwork, NotifyPhase.sampler]
      | sendingEvent event =>
          simp only [workStep, hwork]
          split_ifs <;> simp [sampleBell, hwork, NotifyPhase.sampler]
      | resubmitting =>
          have hidle : Function.update (writers s.submitting .idle) none .idle =
              writers s.submitting .idle := Function.update_eq_self none _
          simp [workStep, sampleBell, Doorbell.step, hwork, NotifyPhase.sampler, hidle]
      | idle | sendingSensor data | sendingStatus | puttingBack event =>
          simp [workStep, sampleBell, hwork, NotifyPhase.sampler]

theorem writers_worker (submitting : ι → Bool) (worker worker' : Doorbell.Writer) :
    Function.update (writers submitting worker) none worker' = writers submitting worker' := by
  funext who
  cases who <;> simp [writers]

theorem eventBell_step (s : Notifications ι) (e : NotificationEvent ι) :
    (s.step e).eventBell = Run.final Doorbell.step s.eventBell (s.eventOps e) := by
  cases e with
  | onSensorData i data =>
      simp only [step, eventOps]
      split_ifs
      · rfl
      · simp [eventBell, Doorbell.step, writers_update]
  | onEvent i event =>
      simp only [step, eventOps]
      split_ifs
      · rfl
      · simp [eventBell, Doorbell.step, writers_update]
  | submit i =>
      simp only [step, eventOps]
      split_ifs
      · simp [eventBell, Doorbell.step, writers_update]
      · rfl
  | setStatus status => rfl
  | start =>
      simp only [step, eventOps]
      cases hwork : s.work <;> cases hqueued : s.queued <;>
        simp [eventBell, Doorbell.step, hwork, hqueued, NotifyPhase.drainer, NotifyPhase.writer]
  | work err =>
      simp only [step, eventOps]
      cases hwork : s.work with
      | draining =>
          simp only [workStep, hwork]
          cases hget : s.eventQueue.get <;>
            simp [eventBell, Doorbell.step, hwork, NotifyPhase.drainer, NotifyPhase.writer]
      | taking =>
          simp only [workStep, hwork]
          cases hvalid : s.pendingSensorValid <;>
            simp [eventBell, hwork, NotifyPhase.drainer, NotifyPhase.writer]
      | sendingEvent event =>
          simp only [workStep, hwork]
          split_ifs <;> simp [eventBell, hwork, NotifyPhase.drainer, NotifyPhase.writer]
      | puttingBack event | resubmitting =>
          simp [workStep, eventBell, Doorbell.step, hwork, NotifyPhase.drainer, NotifyPhase.writer,
            writers_worker]
      | idle | sendingSensor data | sendingStatus =>
          simp [workStep, eventBell, hwork, NotifyPhase.drainer, NotifyPhase.writer]

/-! ## What the work has seen -/

/-- The sample in hand. -/
def inHand (s : Notifications ι) : List SensorData :=
  match s.work with
  | .sendingSensor data => [data]
  | _ => []

/-- What was looked for and not found is not there, unless it came later. -/
structure Seen (s : Notifications ι) : Prop where
  sampled_le : s.sampled ≤ s.given.length
  sampled : s.sampled = s.given.length → s.pendingSensorValid = false
  emptied_le : s.emptied ≤ s.puts
  emptied : s.emptied = s.puts → s.eventQueue.items = []
  taken : s.taken = s.notified.filterMap Notification.sample? ++ s.inHand

omit [DecidableEq ι] in
theorem Seen.work {s : Notifications ι} (h : s.Seen) (err : Int) : (s.workStep err).Seen := by
  obtain ⟨hsampled_le, hsampled, hemptied_le, hemptied, htaken⟩ := h
  cases hwork : s.work with
  | idle =>
      simp only [workStep, hwork]
      exact ⟨hsampled_le, hsampled, hemptied_le, hemptied, htaken⟩
  | taking =>
      simp only [workStep, hwork]
      refine ⟨le_rfl, fun _ => rfl, hemptied_le, hemptied, ?_⟩
      cases hvalid : s.pendingSensorValid <;> simpa [inHand, hwork] using htaken
  | sendingSensor data =>
      simp only [workStep, hwork]
      refine ⟨hsampled_le, hsampled, hemptied_le, hemptied, ?_⟩
      simpa [inHand, hwork, Notification.sample?] using htaken
  | sendingStatus =>
      simp only [workStep, hwork]
      refine ⟨hsampled_le, hsampled, hemptied_le, hemptied, ?_⟩
      simpa [inHand, hwork, List.filterMap_cons, Notification.sample?] using htaken
  | draining =>
      simp only [workStep, hwork]
      cases hget : s.eventQueue.get with
      | none =>
          refine ⟨hsampled_le, hsampled, le_rfl, fun _ => BoundedQueue.get_eq_none.1 hget, ?_⟩
          simpa [inHand, hwork] using htaken
      | some got =>
          obtain ⟨event, queue⟩ := got
          have hitems := BoundedQueue.get_eq_some hget
          refine ⟨hsampled_le, hsampled, hemptied_le, fun hnow => ?_, ?_⟩
          · rw [hemptied hnow] at hitems
            cases hitems
          · simpa [inHand, hwork] using htaken
  | sendingEvent event =>
      simp only [workStep, hwork]
      refine ⟨hsampled_le, hsampled, hemptied_le, hemptied, ?_⟩
      split_ifs <;>
        simpa [inHand, hwork, List.filterMap_cons, Notification.sample?] using htaken
  | puttingBack event =>
      simp only [workStep, hwork]
      refine ⟨hsampled_le, hsampled, Nat.le_succ_of_le hemptied_le, fun hnow => ?_, ?_⟩
      · simp only at hnow
        omega
      · simpa [inHand, hwork] using htaken
  | resubmitting =>
      simp only [workStep, hwork]
      exact ⟨hsampled_le, hsampled, hemptied_le, hemptied, by simpa [inHand, hwork] using htaken⟩

theorem Seen.step {s : Notifications ι} (h : s.Seen) (e : NotificationEvent ι) :
    (s.step e).Seen := by
  cases e with
  | onSensorData i data =>
      rw [Notifications.step]
      split_ifs
      · exact h
      · refine ⟨?_, fun hnow => ?_, h.emptied_le, h.emptied, h.taken⟩
        · exact h.sampled_le.trans (by simp)
        · have := h.sampled_le
          simp only [List.length_append, List.length_singleton] at hnow
          omega
  | onEvent i event =>
      rw [Notifications.step]
      split_ifs
      · exact h
      · refine ⟨h.sampled_le, h.sampled, Nat.le_succ_of_le h.emptied_le, fun hnow => ?_, h.taken⟩
        have := h.emptied_le
        simp only at hnow
        omega
  | submit i =>
      rw [Notifications.step]
      split_ifs
      · exact ⟨h.sampled_le, h.sampled, h.emptied_le, h.emptied, h.taken⟩
      · exact h
  | setStatus status => exact ⟨h.sampled_le, h.sampled, h.emptied_le, h.emptied, h.taken⟩
  | start =>
      rw [Notifications.step]
      split_ifs with hstart
      · refine ⟨h.sampled_le, h.sampled, h.emptied_le, h.emptied, ?_⟩
        simpa [inHand, hstart.1] using h.taken
      · exact h
  | work err => exact h.work err

/-- The work item neither runs nor is queued, and nobody is about to submit it. -/
structure AtRest (s : Notifications ι) : Prop where
  work : s.work = .idle
  queued : s.queued = false
  submitting : ∀ i, s.submitting i = false

/-- Whatever the threads hand over and however the notifications turn out: the samples notified are
some of those handed over, each once and in turn. At rest the last one handed over has been
notified, and no event waits in the queue. -/
theorem notifications_settle (status : TagStatus) (events : List (NotificationEvent ι)) :
    let s := Run.final step (init status) events
    (s.notified.filterMap Notification.sample?).Sublist s.given ∧
      (s.AtRest → (s.notified.filterMap Notification.sample?).getLast? = s.given.getLast? ∧
        s.eventQueue.items = []) := by
  intro s
  have hseen : s.Seen :=
    Run.final_preserves (I := Seen) (fun _ e h => h.step e)
      ⟨le_rfl, fun _ => rfl, le_rfl, fun _ => rfl, rfl⟩ events
  have hstart : Mailbox.Inv (init (ι := ι) status).mailbox := ⟨List.Sublist.refl _, rfl⟩
  have hmailbox : Mailbox.Inv s.mailbox :=
    Run.final_preserves_of_image (I := Mailbox.Inv) (fun _ op h => h.step op) mailbox mailboxOps
      mailbox_step hstart events
  have hsamples : Doorbell.Inv s.sampleBell :=
    Run.final_preserves_of_image (I := Doorbell.Inv) (fun _ op h => h.step op) sampleBell
      sampleOps sampleBell_step (fun _ => Or.inl rfl) events
  have hevents : Doorbell.Inv s.eventBell :=
    Run.final_preserves_of_image (I := Doorbell.Inv) (fun _ op h => h.step op) eventBell eventOps
      eventBell_step (fun _ => Or.inl rfl) events
  constructor
  · refine List.Sublist.trans ?_ hmailbox.taken_sublist
    show List.Sublist _ s.taken
    rw [hseen.taken]
    exact List.sublist_append_left _ _
  · intro hrest
    have hidle : ∀ worker : Doorbell.Writer, worker = .idle → ∀ who,
        writers s.submitting worker who = .idle := by
      rintro worker rfl (_ | i)
      · rfl
      · simp [writers, hrest.submitting i]
    have hhand : s.inHand = [] := by rw [inHand, hrest.work]
    have htaken : s.taken = s.notified.filterMap Notification.sample? := by
      rw [hseen.taken, hhand, List.append_nil]
    constructor
    · rw [← htaken]
      refine hmailbox.getLast?_taken ?_
      have hnone : s.pendingSensorValid = false := hseen.sampled <|
        hsamples.seen_eq_value ⟨rfl, congrArg NotifyPhase.sampler hrest.work, hrest.queued,
          hidle .idle rfl⟩
      simp [mailbox, hnone]
    · exact hseen.emptied <|
        hevents.seen_eq_value ⟨rfl, congrArg NotifyPhase.drainer hrest.work, hrest.queued,
          hidle _ (congrArg NotifyPhase.writer hrest.work)⟩

end Notifications

namespace Notifications

def sampleAt (timestamp : UInt32) : SensorData :=
  { AppState.atReset.lastSample with timestamp := timestamp }

/-- A second sample comes in before the work takes the first, and then an event that finds the stack
out of buffers. -/
def outOfBuffersRun : List (NotificationEvent Unit) :=
  [.onSensorData () (sampleAt 60), .submit (), .start, .onSensorData () (sampleAt 120), .work 0,
    .submit (), .onEvent () ⟨120, 1, 0, 0⟩, .submit (), .work 0, .work 0, .work 0,
    .work (-ENOMEM)] ++
  [.work 0, .work 0, .start, .work 0, .work 0, .work 0, .work 0]

theorem notifications_settle_out_of_buffers :
    let s := Run.final step (init AppState.atReset.status) outOfBuffersRun
    (s.notified.filterMap Notification.sample?).getLast? = some (sampleAt 120) ∧
      s.eventQueue.items = [] := by
  have h := (notifications_settle AppState.atReset.status outOfBuffersRun).2
    ⟨by decide +kernel, by decide +kernel, fun () => by decide +kernel⟩
  exact ⟨h.1.trans (by decide +kernel), h.2⟩

end Notifications

end SmartTag
