import SmartTag.App.Types
import SmartTag.Lib.BoundedQueue
import SmartTag.Lib.Run

/-!
# Event notifications

`on_event` queues an event on the thread that raised it, `notify_work_fn` sends the queue from the
work queue. An execution takes an event, hands it to the stack and, when the stack is out of
buffers, puts it back; events may be queued between any two of these.

The half of `notify_work_fn` that sends the pending sample works on other characteristics and
does not touch the queue.

* `ordered_step`: what has been accepted, is in hand and is queued stays in the order raised.
* `notified_in_order_iff`: the notifications keep the order exactly when every event put back
  finds the queue empty or full.
-/

namespace SmartTag

/-- The length of `event_queue`. -/
def eventQueueLength : Nat := 8

/-- An event and how many were raised before it, which tells equal records apart. -/
abbrev RaisedEvent := EventRecord × Nat

/-- How far an execution of `notify_work_fn` is with the event it took. -/
inductive NotifyWork where
  | idle
  | notifying (event : RaisedEvent)
  | outOfBuffers (event : RaisedEvent)
deriving DecidableEq, Repr

/-- The event in hand. -/
def NotifyWork.event? : NotifyWork → Option RaisedEvent
  | .idle => none
  | .notifying event => some event
  | .outOfBuffers event => some event

/-- The statics of `ble_gatt.c` that events go through, with the events raised and those
`ble_gatt_notify` has accepted. -/
structure EventNotify where
  latestEvent : EventRecord
  eventQueue : BoundedQueue RaisedEvent eventQueueLength
  work : NotifyWork
  raised : List EventRecord
  accepted : List RaisedEvent
deriving DecidableEq, Repr

inductive NotifyStep where
  | onEvent (event : EventRecord)
  | get
  | notify (err : Int)
  | putBack
deriving DecidableEq, Repr

namespace EventNotify

def init : EventNotify where
  latestEvent := { timestamp := 0, type := 0, severity := 0, value := 0 }
  eventQueue := .empty
  work := .idle
  raised := []
  accepted := []

/-- `on_event`. -/
def onEvent (event : EventRecord) (s : EventNotify) : EventNotify :=
  let raised := (event, s.raised.length)
  { s with
    latestEvent := event
    eventQueue := s.eventQueue.push raised
    raised := s.raised ++ [event] }

/-- `on_event`, and the calls `notify_work_fn` makes for an event. -/
def step (s : EventNotify) : NotifyStep → EventNotify
  | .onEvent event => s.onEvent event
  | .get =>
    match s.work, s.eventQueue.get with
    | .idle, some (event, queue) => { s with eventQueue := queue, work := .notifying event }
    | _, _ => s
  | .notify err =>
    match s.work with
    | .notifying event =>
      if err = -ENOMEM then { s with work := .outOfBuffers event }
      else
        { s with
          work := .idle
          accepted := if err = 0 then s.accepted ++ [event] else s.accepted }
    | _ => s
  | .putBack =>
    match s.work with
    | .outOfBuffers event => { s with eventQueue := s.eventQueue.offer event, work := .idle }
    | _ => s

/-- The events accepted are some of those raised, in that order and each once. -/
def InOrder (s : EventNotify) : Prop := s.accepted.Sublist s.raised.zipIdx

instance (s : EventNotify) : Decidable s.InOrder :=
  inferInstanceAs (Decidable (s.accepted.Sublist s.raised.zipIdx))

/-- An event put back finds the queue empty, or full and is lost. -/
def KeepsPlace (s : EventNotify) : NotifyStep → Prop
  | .putBack => ∀ event, s.work = .outOfBuffers event →
      s.eventQueue.items = [] ∨ s.eventQueue.items.length = eventQueueLength
  | _ => True

/-! ## The order of everything not lost -/

/-- The events accepted, then those that can still be. -/
def stream (s : EventNotify) : List RaisedEvent :=
  s.accepted ++ (s.work.event?.toList ++ s.eventQueue.items)

def Ordered (s : EventNotify) : Prop := s.stream.Sublist s.raised.zipIdx

theorem Ordered.inOrder {s : EventNotify} (h : s.Ordered) : s.InOrder :=
  (List.sublist_append_left _ _).trans h

theorem ordered_init : init.Ordered := List.Sublist.refl _

theorem ordered_onEvent (event : EventRecord) {s : EventNotify} (h : s.Ordered) :
    (s.onEvent event).Ordered := by
  have hraised : (s.onEvent event).raised.zipIdx =
      s.raised.zipIdx ++ [(event, s.raised.length)] := by
    simp [onEvent, List.zipIdx_append]
  have hstream : (s.onEvent event).stream.Sublist (s.stream ++ [(event, s.raised.length)]) := by
    rw [stream, stream, List.append_assoc, List.append_assoc]
    exact ((BoundedQueue.push_sublist _ _).append_left _).append_left _
  rw [Ordered, hraised]
  exact hstream.trans (h.append_right _)

/-- Nothing else the step does changes what was raised. -/
theorem step_raised (s : EventNotify) {e : NotifyStep} (he : ∀ event, e ≠ .onEvent event) :
    (s.step e).raised = s.raised := by
  cases e with
  | onEvent event => exact absurd rfl (he event)
  | get | notify | putBack =>
      unfold step
      dsimp only
      split
      · first | rfl | (split_ifs <;> rfl)
      · rfl

theorem get_stream (s : EventNotify) : (s.step .get).stream = s.stream := by
  unfold step
  dsimp only
  split
  · next event queue hwork hget =>
      simp [stream, hwork, NotifyWork.event?, BoundedQueue.get_eq_some hget]
  · rfl

theorem notify_stream (s : EventNotify) (err : Int) :
    (s.step (.notify err)).stream.Sublist s.stream := by
  unfold step
  dsimp only
  split
  · next event hwork =>
      split_ifs
      · simp [stream, hwork, NotifyWork.event?]
      · simp [stream, hwork, NotifyWork.event?]
      · simp [stream, hwork, NotifyWork.event?]
  · exact List.Sublist.refl _

theorem putBack_stream {s : EventNotify} (hk : s.KeepsPlace .putBack) :
    (s.step .putBack).stream.Sublist s.stream := by
  unfold step
  dsimp only
  split
  · next event hwork =>
      obtain hnil | hfull := hk event hwork
      · have hoffer := BoundedQueue.offer_sublist s.eventQueue event
        rw [hnil] at hoffer
        simpa [stream, hwork, NotifyWork.event?, hnil] using hoffer
      · simp [stream, hwork, NotifyWork.event?, BoundedQueue.offer_items_of_full hfull]
  · exact List.Sublist.refl _

theorem ordered_step {s : EventNotify} {e : NotifyStep} (h : s.Ordered) (hk : s.KeepsPlace e) :
    (s.step e).Ordered := by
  cases e with
  | onEvent event => exact ordered_onEvent event h
  | get =>
      rw [Ordered, step_raised s (by simp), get_stream]
      exact h
  | notify err =>
      rw [Ordered, step_raised s (by simp)]
      exact (notify_stream s err).trans h
  | putBack =>
      rw [Ordered, step_raised s (by simp)]
      exact (putBack_stream hk).trans h

/-! ## Draining the queue -/

/-- The next `n` events are taken from the queue and accepted. -/
def drain : Nat → List NotifyStep
  | 0 => []
  | n + 1 => .get :: .notify 0 :: drain n

theorem ordered_drain (n : Nat) {s : EventNotify} (h : s.Ordered) :
    (Run.final step s (drain n)).Ordered := by
  induction n generalizing s with
  | zero => exact h
  | succ n ih => exact ih (ordered_step (ordered_step h trivial) trivial)

/-- An idle work item takes the oldest event and has it accepted. -/
theorem take_oldest {s : EventNotify} {event : RaisedEvent} {rest : List RaisedEvent}
    (hidle : s.work = .idle) (hitems : s.eventQueue.items = event :: rest) :
    ∃ queue : BoundedQueue RaisedEvent eventQueueLength, queue.items = rest ∧
      (s.step .get).step (.notify 0) =
        { s with
          eventQueue := queue
          accepted := s.accepted ++ [event] } := by
  cases hget : s.eventQueue.get with
  | none =>
      rw [BoundedQueue.get_eq_none.1 hget] at hitems
      cases hitems
  | some p =>
      obtain ⟨x, queue⟩ := p
      rw [BoundedQueue.get_eq_some hget] at hitems
      cases hitems
      have htaken : s.step .get =
          { s with
            eventQueue := queue
            work := .notifying event } := by
        simp only [step, hidle, hget]
      have hok : ¬ (0 : Int) = -ENOMEM := by decide
      refine ⟨queue, rfl, ?_⟩
      rw [htaken]
      simp only [step, if_neg hok, if_pos, hidle]

/-- An idle work item that drains its queue sends it as it is. -/
theorem drain_accepted {s : EventNotify} (hidle : s.work = .idle) :
    ∃ t : EventNotify, Run.final step s (drain s.eventQueue.items.length) = t ∧
      t.accepted = s.accepted ++ s.eventQueue.items ∧ t.raised = s.raised := by
  generalize hitems : s.eventQueue.items = items
  induction items generalizing s with
  | nil => exact ⟨s, rfl, (List.append_nil _).symm, rfl⟩
  | cons event rest ih =>
      obtain ⟨queue, hqueue, htaken⟩ := take_oldest hidle hitems
      obtain ⟨t, ht, haccepted, hraised⟩ := ih (s := (s.step .get).step (.notify 0))
        (by rw [htaken]; exact hidle) (by rw [htaken]; exact hqueue)
      refine ⟨t, ht, ?_, ?_⟩
      · rw [haccepted, htaken, List.append_assoc]
        rfl
      · rw [hraised, htaken]

/-! ## The order of the notifications -/

theorem pairwise_zipIdx (raised : List EventRecord) :
    raised.zipIdx.Pairwise fun p q => p.2 < q.2 := by
  rw [← List.pairwise_map (f := Prod.snd), List.zipIdx_map_snd]
  exact List.pairwise_lt_range'

/-- An event put back behind another is accepted after it, and was raised before it. -/
theorem not_inOrder_of_not_keepsPlace {s : EventNotify} {e : NotifyStep} (h : s.Ordered)
    (hk : ¬ s.KeepsPlace e) : ¬ ∀ n, (Run.final step (s.step e) (drain n)).InOrder := by
  cases e with
  | onEvent | get | notify => exact absurd trivial hk
  | putBack =>
      intro hall
      simp only [KeepsPlace, not_forall, not_or] at hk
      obtain ⟨event, hwork, hne, hroom⟩ := hk
      obtain ⟨oldest, rest, hitems⟩ := List.exists_cons_of_ne_nil hne
      have hback : s.step .putBack =
          { s with
            eventQueue := s.eventQueue.offer event
            work := .idle } := by
        simp only [step, hwork]
      obtain ⟨t, ht, haccepted, hraised⟩ := drain_accepted (s := s.step .putBack) (by rw [hback])
      -- the same two events one way round and the other, in a list numbered upwards
      have hafter : [oldest, event].Sublist s.raised.zipIdx := by
        have hdone : t.InOrder := ht ▸ hall _
        rw [InOrder, haccepted, hraised, hback] at hdone
        refine List.Sublist.trans ?_ hdone
        rw [BoundedQueue.offer_items_of_ne hroom, hitems]
        simp
      have hbefore : [event, oldest].Sublist s.raised.zipIdx := by
        refine List.Sublist.trans ?_ h
        rw [stream, hwork, hitems]
        simp [NotifyWork.event?]
      have hlt := (pairwise_zipIdx s.raised).sublist hafter
      have hgt := (pairwise_zipIdx s.raised).sublist hbefore
      simp only [List.pairwise_pair] at hlt hgt
      exact Nat.lt_asymm hlt hgt

/-- However a run goes on from any of its states by draining the queue, the events accepted are
some of those raised, in that order and each once, exactly when every event put back in the run
finds the queue empty or full. -/
theorem notified_in_order_iff (steps : List NotifyStep) :
    (∀ m n, (Run.final step init (steps.take m ++ drain n)).InOrder) ↔
      Run.Along step KeepsPlace init steps := by
  have hgood : ∀ s, Ordered s → ∀ n, (Run.final step s (drain n)).InOrder :=
    fun s hs n => (ordered_drain n hs).inOrder
  simp only [Run.final_append]
  exact Run.forall_prefix_iff_along_any hgood (fun s e hs hk => ordered_step hs hk)
    (fun s e hs hk => not_inOrder_of_not_keepsPlace hs hk) ordered_init

/-- The stack is out of buffers for the first of two events, which then comes second. -/
theorem notified_out_of_order :
    ¬ (Run.final step init
      [.onEvent { timestamp := 5, type := 3, severity := 1, value := 900 },
        .onEvent { timestamp := 5, type := 1, severity := 0, value := 0 },
        .get, .notify (-ENOMEM), .putBack, .get, .notify 0, .get, .notify 0]).InOrder := by
  decide +kernel

end EventNotify

end SmartTag
