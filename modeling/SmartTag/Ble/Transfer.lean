import SmartTag.Lib.Run

/-!
# Transfers of a list of chunks

The download of a log that does not change, with no slots and no headers: the chunks still to
come, the limit still to go, and the chunks accepted so far, each with its last flag. A chunk that
is refused stays the next one and yet uses up the limit, as the stream does.

* `Transfer.run_accepted`: when every chunk is accepted, exactly the first items within the
  limit arrive, the last flag is on the last chunk alone, and the transfer ends in time.
* `Transfer.delivered_eq_iff`: after refusals, the same items arrive exactly when the limit
  exceeds the items by what the refusals used up.
-/

namespace SmartTag

/-- A transfer in progress. -/
structure Transfer (α : Type) where
  todo : List (List α)
  /-- Every chunk carries something. -/
  filled : ∀ c ∈ todo, c ≠ []
  remaining : Nat
  active : Bool
  sent : List (List α × Bool)

namespace Transfer

variable {α : Type}

/-- The next chunk, as far as the limit goes. -/
def chunk (t : Transfer α) : List α := (t.todo.headD []).take t.remaining

/-- The transfer once its next chunk has been accepted. -/
def accept (t : Transfer α) : Transfer α where
  todo := t.todo.tail
  filled := fun c hc => t.filled c (List.mem_of_mem_tail hc)
  remaining := t.remaining - t.chunk.length
  active := decide (t.remaining - t.chunk.length ≠ 0)
  sent := t.sent ++ [(t.chunk, decide (t.remaining - t.chunk.length = 0))]

/-- The transfer once its next chunk has been refused. -/
def refuse (t : Transfer α) : Transfer α := { t with remaining := t.remaining - t.chunk.length }

/-- One execution, with whether its chunk is accepted. -/
def step (t : Transfer α) (accepted : Bool) : Transfer α :=
  if t.active then
    if t.chunk = [] then
      { t with active := false, sent := if accepted then t.sent ++ [([], true)] else t.sent }
    else if accepted then t.accept
    else t.refuse
  else t

/-- The items that have arrived. -/
def delivered (t : Transfer α) : List α := t.sent.flatMap Prod.fst

/-- A transfer at its start. -/
def start (chunks : List (List α)) (filled : ∀ c ∈ chunks, c ≠ []) (limit : Nat) :
    Transfer α where
  todo := chunks
  filled := filled
  remaining := limit
  active := true
  sent := []

def run (t : Transfer α) (pattern : List Bool) : Transfer α := Run.final step t pattern

@[simp] theorem run_nil (t : Transfer α) : run t [] = t := rfl

@[simp] theorem run_cons (t : Transfer α) (accepted : Bool) (pattern : List Bool) :
    run t (accepted :: pattern) = run (t.step accepted) pattern := rfl

/-! ## One execution -/

theorem length_chunk (t : Transfer α) :
    t.chunk.length = min (t.todo.headD []).length t.remaining := by
  rw [chunk, List.length_take, Nat.min_comm]

theorem flatten_todo (t : Transfer α) :
    t.todo.flatten = t.todo.headD [] ++ t.todo.tail.flatten := by
  cases t.todo <;> rfl

theorem length_flatten_todo (t : Transfer α) :
    t.todo.flatten.length = (t.todo.headD []).length + t.todo.tail.flatten.length := by
  rw [flatten_todo, List.length_append]

/-- The limit is met by this chunk and the ones after it. -/
theorem take_remaining (t : Transfer α) :
    t.todo.flatten.take t.remaining =
      t.chunk ++ t.accept.todo.flatten.take t.accept.remaining := by
  rw [flatten_todo, List.take_append]
  show t.chunk ++ _ = t.chunk ++ _
  have hlen := t.length_chunk
  have hleft : t.remaining - (t.todo.headD []).length = t.remaining - t.chunk.length := by omega
  rw [hleft]
  rfl

theorem delivered_accept (t : Transfer α) : t.accept.delivered = t.delivered ++ t.chunk := by
  simp [accept, delivered]

/-- An accepted chunk takes its items off what is still to arrive. -/
theorem min_accept (t : Transfer α) :
    min t.accept.remaining t.accept.todo.flatten.length =
      min t.remaining t.todo.flatten.length - (t.todo.headD []).length := by
  have hlen := t.length_chunk
  have htodo := t.length_flatten_todo
  simp only [accept]
  omega

/-- What the limit has to spare does not change with an accepted chunk. -/
theorem spare_accept (t : Transfer α) :
    t.accept.remaining - t.accept.todo.flatten.length =
      t.remaining - t.todo.flatten.length := by
  have hlen := t.length_chunk
  have htodo := t.length_flatten_todo
  simp only [accept]
  omega

/-- A transfer that goes on has not flagged its chunk. -/
theorem flags_accept {t : Transfer α} (hflags : ∀ c ∈ t.sent, c.2 = false)
    (hz : t.remaining - t.chunk.length ≠ 0) : ∀ c ∈ t.accept.sent, c.2 = false := by
  intro c hmem
  rcases List.mem_append.1 hmem with hmem | hmem
  · exact hflags c hmem
  · rw [List.mem_singleton.1 hmem]
    exact decide_eq_false hz

theorem step_idle {t : Transfer α} (h : t.active = false) (accepted : Bool) :
    t.step accepted = t := by
  simp [step, h]

theorem run_idle {t : Transfer α} (h : t.active = false) (pattern : List Bool) :
    t.run pattern = t := by
  induction pattern with
  | nil => rfl
  | cons accepted pattern ih => rw [run_cons, step_idle h, ih]

theorem step_end {t : Transfer α} (h : t.active = true) (hc : t.chunk = []) (accepted : Bool) :
    t.step accepted =
      { t with active := false, sent := if accepted then t.sent ++ [([], true)] else t.sent } := by
  simp [step, h, hc]

theorem step_accepted {t : Transfer α} (h : t.active = true) (hc : t.chunk ≠ []) :
    t.step true = t.accept := by
  simp [step, h, hc]

theorem step_refused {t : Transfer α} (h : t.active = true) (hc : t.chunk ≠ []) :
    t.step false = t.refuse := by
  simp [step, h, hc]

/-- An empty chunk means that nothing is left, or no limit. -/
theorem take_remaining_of_chunk_nil {t : Transfer α} (hc : t.chunk = []) :
    t.todo.flatten.take t.remaining = [] := by
  rcases List.take_eq_nil_iff.1 hc with hzero | hnil
  · rw [hzero, List.take_zero]
  · cases htodo : t.todo with
    | nil => exact List.take_nil
    | cons c todo =>
        rw [htodo] at hnil
        exact absurd hnil (t.filled c (htodo ▸ List.mem_cons_self))

/-! ## Without refusals -/

/-- The last flag is on the last chunk alone. -/
def Flagged (sent : List (List α × Bool)) : Prop :=
  ∃ body c, sent = body ++ [c] ∧ c.2 = true ∧ ∀ b ∈ body, b.2 = false

/-- When every chunk is accepted, exactly the first items within the limit arrive. -/
theorem run_accepted {m : Nat} {t : Transfer α} (h : t.active = true)
    (hflags : ∀ c ∈ t.sent, c.2 = false) (hm : t.remaining < m) :
    (t.run (List.replicate m true)).active = false ∧
      (t.run (List.replicate m true)).delivered =
        t.delivered ++ t.todo.flatten.take t.remaining ∧
      Flagged (t.run (List.replicate m true)).sent := by
  induction m generalizing t with
  | zero => exact absurd hm (Nat.not_lt_zero _)
  | succ m ih =>
      rw [List.replicate_succ, run_cons]
      by_cases hc : t.chunk = []
      · rw [step_end h hc, run_idle rfl, take_remaining_of_chunk_nil hc]
        exact ⟨rfl, by simp [delivered], t.sent, ([], true), rfl, rfl, hflags⟩
      · have hpos := List.length_pos_iff.2 hc
        rw [step_accepted h hc, take_remaining, ← List.append_assoc, ← delivered_accept]
        by_cases hz : t.remaining - t.chunk.length = 0
        · -- The limit is reached with this chunk.
          have hlimit : t.accept.remaining = 0 := hz
          rw [run_idle (decide_eq_false (not_not.2 hz)), hlimit, List.take_zero, List.append_nil]
          exact ⟨decide_eq_false (not_not.2 hz), rfl, t.sent, _, rfl, decide_eq_true hz, hflags⟩
        · exact ih (decide_eq_true hz) (flags_accept hflags hz)
            (show t.remaining - t.chunk.length < m by omega)

/-! ## Refusals -/

/-- What refusals use up of the limit: the items of each refused chunk, `n` items being left. -/
def refused : Nat → List (List α) → List Bool → Nat
  | _, _, [] => 0
  | n, todo, true :: pattern => refused (n - (todo.headD []).length) todo.tail pattern
  | n, todo, false :: pattern => min (todo.headD []).length n + refused n todo pattern

theorem refused_zero (todo : List (List α)) (pattern : List Bool) :
    refused 0 todo pattern = 0 := by
  induction pattern generalizing todo with
  | nil => rfl
  | cons accepted pattern ih =>
      cases accepted with
      | true => rw [refused, Nat.zero_sub, ih]
      | false => rw [refused, Nat.min_zero, ih]

/-- Refusals never make more arrive than the limit allows. -/
theorem delivered_run (t : Transfer α) (pattern : List Bool) :
    ∃ d ≤ t.remaining, (t.run pattern).delivered = t.delivered ++ t.todo.flatten.take d := by
  induction pattern generalizing t with
  | nil => exact ⟨0, Nat.zero_le _, by simp⟩
  | cons accepted pattern ih =>
      rw [run_cons]
      by_cases h : t.active = true
      · by_cases hc : t.chunk = []
        · refine ⟨0, Nat.zero_le _, ?_⟩
          rw [step_end h hc, run_idle rfl]
          cases accepted <;> simp [delivered]
        · have hlen := t.length_chunk
          cases accepted with
          | true =>
              rw [step_accepted h hc]
              obtain ⟨d, hd, hdel⟩ := ih t.accept
              have hd : d ≤ t.remaining - t.chunk.length := hd
              rw [hdel, delivered_accept, List.append_assoc]
              refine ⟨t.chunk.length + d, by omega, congrArg (t.delivered ++ ·) ?_⟩
              rw [flatten_todo t]
              by_cases hcut : (t.todo.headD []).length ≤ t.remaining
              · have hwhole : t.chunk = t.todo.headD [] := List.take_of_length_le hcut
                rw [hwhole, List.take_length_add_append]
                rfl
              · -- The chunk is cut, and nothing comes after it.
                have hzero : d = 0 := by omega
                have hall : t.chunk.length = t.remaining := by omega
                rw [hzero, List.take_zero, List.append_nil, hall, Nat.add_zero,
                  List.take_append_of_le_length (by omega)]
                rfl
          | false =>
              rw [step_refused h hc]
              obtain ⟨d, hd, hdel⟩ := ih t.refuse
              exact ⟨d, Nat.le_trans hd (Nat.sub_le _ _), hdel⟩
      · have hidle : t.active = false := by simpa using h
        rw [step_idle hidle]
        exact ih t

/-- A limit that falls short of the items is never reached again. -/
theorem delivered_ne_of_short {t : Transfer α} {limit : Nat}
    (hshort : t.remaining < min limit t.todo.flatten.length) (pattern : List Bool) :
    (t.run pattern).delivered ≠ t.delivered ++ t.todo.flatten.take limit := by
  intro heq
  obtain ⟨d, hd, hdel⟩ := delivered_run t pattern
  have hcancel : t.todo.flatten.take d = t.todo.flatten.take limit :=
    List.append_cancel_left (hdel.symm.trans heq)
  have hlens := congrArg List.length hcancel
  rw [List.length_take, List.length_take] at hlens
  omega

/-- The refused chunks leave room in the limit for what they used up, or items are lost. -/
theorem delivered_eq_iff {m : Nat} {t : Transfer α} (h : t.active = true)
    (hflags : ∀ c ∈ t.sent, c.2 = false) (hm : t.remaining < m) (pattern : List Bool) :
    (t.run (pattern ++ List.replicate m true)).delivered =
        t.delivered ++ t.todo.flatten.take t.remaining ↔
      refused (min t.remaining t.todo.flatten.length) t.todo pattern ≤
        t.remaining - t.todo.flatten.length := by
  induction pattern generalizing t with
  | nil =>
      rw [List.nil_append]
      exact iff_of_true (run_accepted h hflags hm).2.1 (Nat.zero_le _)
  | cons accepted pattern ih =>
      have hlen := t.length_chunk
      have htodo := t.length_flatten_todo
      rw [List.cons_append, run_cons]
      by_cases hc : t.chunk = []
      · -- Nothing is left to lose.
        have hnone := take_remaining_of_chunk_nil hc
        have hzero : min t.remaining t.todo.flatten.length = 0 := by
          rw [← List.length_take, hnone, List.length_nil]
        rw [step_end h hc, run_idle rfl, hnone, hzero, refused_zero]
        refine iff_of_true ?_ (Nat.zero_le _)
        cases accepted <;> simp [delivered]
      · have hpos := List.length_pos_iff.2 hc
        cases accepted with
        | true =>
            rw [step_accepted h hc, refused, take_remaining, ← List.append_assoc,
              ← delivered_accept, ← min_accept, ← spare_accept]
            by_cases hz : t.remaining - t.chunk.length = 0
            · have hlimit : t.accept.remaining = 0 := hz
              rw [run_idle (decide_eq_false (not_not.2 hz)), hlimit, Nat.zero_min, refused_zero,
                List.take_zero, List.append_nil]
              exact iff_of_true rfl (Nat.zero_le _)
            · exact ih (decide_eq_true hz) (flags_accept hflags hz)
                (show t.remaining - t.chunk.length < m by omega)
        | false =>
            have hchunk : min (t.todo.headD []).length (min t.remaining t.todo.flatten.length) =
                t.chunk.length := by omega
            rw [step_refused h hc, refused, hchunk]
            by_cases hroom : t.todo.flatten.length ≤ t.remaining - t.chunk.length
            · -- The limit still covers everything.
              have hih := @ih t.refuse h hflags
                (show t.remaining - t.chunk.length < m by omega)
              have hall : t.todo.flatten.take (t.remaining - t.chunk.length) =
                  t.todo.flatten.take t.remaining := by
                rw [List.take_of_length_le hroom, List.take_of_length_le (by omega)]
              have hmin : min (t.remaining - t.chunk.length) t.todo.flatten.length =
                  min t.remaining t.todo.flatten.length := by omega
              simp only [refuse, hall, hmin] at hih
              refine hih.trans ?_
              omega
            · -- Too few are left, and the limit can never be reached again.
              have hshort : t.refuse.remaining < min t.remaining t.refuse.todo.flatten.length := by
                simp only [refuse]
                omega
              refine iff_of_false ?_ (by omega)
              exact delivered_ne_of_short hshort _

end Transfer

end SmartTag
