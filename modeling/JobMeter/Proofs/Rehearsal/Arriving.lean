import JobMeter.Proofs.Loop.Stopping
import JobMeter.Proofs.Rehearsal.Scripts
import JobMeter.Rehearsal.VirtualTime
import Mathlib.Tactic.Set

/-!
# Waiting in virtual time

A wait in virtual time takes what is on the queue, or else what arrives.  An arrival is taken only
when the queue is empty, so it does not depend on the past which of its items the queue has room
for.

* `EventQueue.fitting` — the items that a queue takes of those that are put on it one after the
  other; they are the ones that a reader accepts (`Reader.accepts_eq`).
* `forM_submit` — the items of an arrival are put on the queue as far as they fit, unless one that
  does not cannot be described, or the sink refuses to count it.
* `Delivered` — the reader when an arrival was taken (`deliver_cases`).
* `WaitCase` — all that can come of a wait (`waitCase`).
-/

namespace JobMeter

/-! ## Items that fit -/

namespace EventQueue

variable {q q' : EventQueue} {i : Item} {items : List Item}

/-- The items that the queue takes of those that are put on it one after the other. -/
def fitting (q : EventQueue) : List Item → List Item
  | [] => []
  | i :: items =>
    match q.put? (.item i) with
    | some q' => i :: q'.fitting items
    | none => q.fitting items

/-- The queue with these items. -/
def filled (q : EventQueue) (items : List Item) : EventQueue :=
  { q with slots := q.slots ++ (q.fitting items).map .item }

theorem fitting_of_some (h : q.put? (.item i) = some q') :
    q.fitting (i :: items) = i :: q'.fitting items := by
  rw [fitting, h]

theorem fitting_of_none (h : q.put? (.item i) = none) :
    q.fitting (i :: items) = q.fitting items := by
  rw [fitting, h]

theorem filled_nil (q : EventQueue) : q.filled [] = q := by
  rw [filled, fitting, List.map_nil, List.append_nil]

theorem filled_of_some (h : q.put? (.item i) = some q') :
    q.filled (i :: items) = q'.filled items := by
  rw [filled, filled, fitting_of_some h]
  obtain ⟨-, rfl⟩ := put?_eq_some.1 h
  rw [List.map_cons, List.append_assoc, List.singleton_append]

theorem filled_of_none (h : q.put? (.item i) = none) :
    q.filled (i :: items) = q.filled items := by
  rw [filled, filled, fitting_of_none h]

theorem fitting_sublist (q : EventQueue) (items : List Item) :
    (q.fitting items).Sublist items := by
  induction items generalizing q with
  | nil => exact .slnil
  | cons i items ih =>
    cases hput : q.put? (.item i) with
    | some q' =>
      rw [fitting_of_some hput]
      exact (ih q').cons_cons i
    | none =>
      rw [fitting_of_none hput]
      exact (ih q).cons i

/-- A slot is put behind the others, if there is room. -/
theorem exists_put (q : EventQueue) (s : Slot) :
    ∃ more, (more = [] ∨ more = [s]) ∧ (q.put? s).getD q = { q with slots := q.slots ++ more } := by
  cases hput : q.put? s with
  | none => exact ⟨[], .inl rfl, by rw [List.append_nil, Option.getD_none]⟩
  | some q' =>
    obtain ⟨-, rfl⟩ := put?_eq_some.1 hput
    exact ⟨[s], .inr rfl, rfl⟩

end EventQueue

namespace Reader

variable {τ ω : Type} [Quantity τ] (env : Environment τ ω)

/-- The items that a reader accepts of those that are submitted one after the other. -/
def accepts (r : Reader τ ω) (items : List Item) : List Item :=
  (Traffic.run env ⟨r, [], []⟩ (items.map .submit)).accepted

/-- Those that fit are accepted. -/
theorem accepts_eq (r : Reader τ ω) (items : List Item) :
    accepts env r items = r.queue.fitting items := by
  have hrun : ∀ (r : Reader τ ω) (items accepted passed : List Item),
      (Traffic.run env ⟨r, accepted, passed⟩ (items.map .submit)).accepted =
        accepted ++ r.queue.fitting items := by
    intro r items
    induction items generalizing r with
    | nil => exact fun accepted _ => (List.append_nil accepted).symm
    | cons i items ih =>
      intro accepted passed
      rw [List.map_cons, Traffic.run, List.foldl_cons, ← Traffic.run]
      cases hput : r.queue.put? (.item i) with
      | some q =>
        rw [Traffic.step, submit_of_some hput, EventQueue.fitting_of_some hput]
        dsimp only
        rw [ih, List.append_assoc, List.singleton_append]
      | none =>
        obtain ⟨w, hstep⟩ := Traffic.exists_step_of_none (t := ⟨r, accepted, passed⟩) hput
        rw [hstep, EventQueue.fitting_of_none hput]
        exact ih _ _ _
  exact hrun r items [] []

omit [Quantity τ] in
theorem take_eq_ok {r s : Reader τ ω} {slot? : Option Slot} :
    take r = .ok slot? s ↔ slot? = r.queue.slots.head? ∧
      s = { r with queue := { r.queue with slots := r.queue.slots.tail } } := by
  rw [take_apply]
  cases hslots : r.queue.slots with
  | nil =>
    have hr : ({ r with queue := { r.queue with slots := [] } } : Reader τ ω) = r := by
      rw [← hslots]
    simp [hr, eq_comm]
  | cons slot slots => simp [eq_comm]

omit [Quantity τ] in
theorem stop_apply (r : Reader τ ω) :
    stop env r = .ok () { r with
      queue := (r.queue.put? .stop).getD r.queue
      world := env.requestStop r.world } := by
  obtain ⟨q, hstop⟩ := exists_stop_eq env r
  have hqueue := queue_stop env r
  rw [after_of_ok hstop] at hqueue
  rw [hstop, ← hqueue]

end Reader

namespace Rehearsal

open Reader

variable {τ : Type} [Quantity τ] (interval : τ) (logs? : Option (LogSource (Stage τ)))

/-! ## Arrivals -/

/-- On a stage an item that is dropped is written down, unless it cannot be described or the sink
refuses to count it. -/
theorem submit_dropped {i : Item} {r : Reader τ (Stage τ)}
    (h : r.queue.put? (.item i) = none) :
    (∃ v, submit (Stage.environment interval logs?) i r = .ok false { r with world := v } ∧
        r.world.Recorded v) ∨
      ∃ f s, submit (Stage.environment interval logs?) i r = .error f s ∧
        (.eventsDropped ∈ r.world.failing ∨ i.describe = .error f) := by
  set env := Stage.environment interval logs?
  rw [submit_of_none h]
  cases hdescribe : i.describe with
  | error f =>
    exact .inr ⟨f, _, onWorld_of_error (drop_of_error hdescribe env _), .inr rfl⟩
  | ok description =>
    have hincrease := Stage.measure_eq .eventsDropped
      (.increased .eventsDropped [] (Quantity.one : τ)) (env.note (.queueFull description) r.world)
    rw [onWorld, drop_of_ok hdescribe, show env.increase .eventsDropped [] Quantity.one =
      Stage.measure .eventsDropped (.increased .eventsDropped [] Quantity.one) from rfl, hincrease]
    by_cases hfailing : .eventsDropped ∈ (env.note (.queueFull description) r.world).failing
    · rw [if_pos hfailing]
      exact .inr ⟨_, _, rfl, .inl hfailing⟩
    · rw [if_neg hfailing]
      exact .inl ⟨_, rfl, _, _, rfl⟩

/-- Items are put on the queue as far as they fit.  Those that do not are counted, unless one cannot
be described or the sink refuses to count it. -/
theorem forM_submit (items : List Item) (r : Reader τ (Stage τ)) :
    let submitAll : Act τ (Stage τ) Unit :=
      items.forM fun i => discard (submit (Stage.environment interval logs?) i)
    (∃ v, submitAll r = .ok () { r with queue := r.queue.filled items, world := v } ∧
        r.world.Recorded v) ∨
      ∃ f s, submitAll r = .error f s ∧ 0 < r.queue.limit ∧
        (.eventsDropped ∈ r.world.failing ∨ ∃ i ∈ items, i.describe = .error f) := by
  set env := Stage.environment interval logs? with henv
  dsimp only
  induction items generalizing r with
  | nil =>
    rw [EventQueue.filled_nil]
    exact .inl ⟨r.world, rfl, .refl _⟩
  | cons i items ih =>
    have hcons : ((i :: items).forM fun i => discard (submit env i) : Act τ (Stage τ) Unit) =
      discard (submit env i) >>= fun _ => items.forM fun i => discard (submit env i) := rfl
    have hdiscard : (discard (submit env i) : Act τ (Stage τ) Unit) =
      (fun _ => ()) <$> submit env i := rfl
    have hlater {f : Failure} : (∃ j ∈ items, j.describe = .error f) →
        ∃ j ∈ i :: items, j.describe = .error f := fun ⟨j, hj, hf⟩ =>
      ⟨j, List.mem_cons_of_mem i hj, hf⟩
    rw [hcons, bind_apply, hdiscard, map_apply]
    cases hput : r.queue.put? (.item i) with
    | some q =>
      rw [submit_of_some hput, EventQueue.filled_of_some hput]
      obtain ⟨-, rfl⟩ := EventQueue.put?_eq_some.1 hput
      rcases ih _ with hok | ⟨f, s, hrun, hlimit, hcause⟩
      · exact .inl hok
      · exact .inr ⟨f, s, hrun, hlimit, hcause.imp_right hlater⟩
    | none =>
      have hlimit : 0 < r.queue.limit :=
        (EventQueue.isFull_iff.1 (EventQueue.put?_eq_none.1 hput)).1
      rw [EventQueue.filled_of_none hput]
      rcases submit_dropped interval logs? hput with ⟨v, hsubmit, hv⟩ | ⟨f, s, hsubmit, hcause⟩
      · rw [← henv] at hsubmit
        rw [hsubmit]
        have hrest := ih { r with world := v }
        obtain ⟨calls, notices, rfl⟩ := hv
        rcases hrest with ⟨u, hu, hrecorded⟩ | ⟨f, s, hrun, -, hcause⟩
        · exact .inl ⟨u, hu, .trans ⟨calls, notices, rfl⟩ hrecorded⟩
        · exact .inr ⟨f, s, hrun, hlimit, hcause.imp_right hlater⟩
      · rw [← henv] at hsubmit
        rw [hsubmit]
        exact .inr ⟨f, s, rfl, hlimit, hcause.imp_right fun hf => ⟨i, List.mem_cons_self, hf⟩⟩

/-- The reader when an arrival was taken while its queue was empty.  The items are on the queue, as
far as they fit, and if the arrival asks for a stop then the marker may be behind them. -/
structure Delivered (r : Reader τ (Stage τ)) (a : Arrival τ) (rest : List (Arrival τ))
    (u : Reader τ (Stage τ)) : Prop where
  queue : ∃ more, (more = [] ∨ a.stop = true ∧ more = [.stop]) ∧
    u.queue = { r.queue with slots := (r.queue.fitting a.items).map .item ++ more }
  arrivals : u.world.arrivals = rest
  failing : u.world.failing = r.world.failing
  scripts : u.world.scripts = r.world.scripts
  stopped : u.world.stopped = (r.world.stopped || a.stop)

/-- The reader when the time of an arrival has come. -/
def came (a : Arrival τ) (rest : List (Arrival τ)) (r : Reader τ (Stage τ)) : Reader τ (Stage τ) :=
  { r with world := { r.world.advance a.after with arrivals := rest } }

/-- The reader when time has passed and an arrival is still to come. -/
def idled (t : τ) (a : Arrival τ) (rest : List (Arrival τ)) (r : Reader τ (Stage τ)) :
    Reader τ (Stage τ) :=
  { r with world := { r.world.advance t with
    arrivals := { a with after := Quantity.sub a.after t } :: rest } }

/-- An arrival is taken, unless an item that is dropped cannot be described, or the sink refuses to
count it. -/
theorem deliver_cases (a : Arrival τ) (rest : List (Arrival τ)) {r : Reader τ (Stage τ)}
    (hslots : r.queue.slots = []) :
    (∃ u, deliver (Stage.environment interval logs?) a (came a rest r) = .ok () u ∧
        Delivered r a rest u) ∨
      ∃ f s, deliver (Stage.environment interval logs?) a (came a rest r) = .error f s ∧
        0 < r.queue.limit ∧
        (.eventsDropped ∈ r.world.failing ∨ ∃ i ∈ a.items, i.describe = .error f) := by
  have hfilled : r.queue.filled a.items =
      { r.queue with slots := (r.queue.fitting a.items).map .item } := by
    rw [EventQueue.filled, hslots, List.nil_append]
  rw [deliver, bind_apply]
  rcases forM_submit interval logs? a.items (came a rest r) with
    ⟨v, hitems, hv⟩ | ⟨f, s, hitems, hrefused⟩
  · obtain ⟨calls, notices, rfl⟩ := hv
    rw [hitems]
    left
    dsimp only
    split
    · rename_i hstop
      obtain ⟨more, hmore, hqueue⟩ := EventQueue.exists_put (r.queue.filled a.items) .stop
      refine ⟨_, stop_apply _ _, ⟨more, hmore.imp_right (⟨hstop, ·⟩), ?_⟩, rfl, rfl, rfl, ?_⟩
      · refine hqueue.trans ?_
        rw [hfilled]
      · rw [hstop, Bool.or_true]
        rfl
    · rename_i hstop
      refine ⟨_, rfl, ⟨[], .inl rfl, ?_⟩, rfl, rfl, rfl, ?_⟩
      · rw [List.append_nil]
        exact hfilled
      · rw [Bool.not_eq_true] at hstop
        rw [hstop, Bool.or_false]
        rfl
  · rw [hitems]
    exact .inr ⟨f, s, rfl, hrefused⟩

/-! ## Waits -/

/-- What can come of a wait. -/
inductive WaitCase (t : τ) (r : Reader τ (Stage τ)) :
    EStateM.Result Failure (Reader τ (Stage τ)) (Option Slot) → Prop where
  /-- There is a slot on the queue. -/
  | served {slot : Slot} {slots : List Slot} (hslots : r.queue.slots = slot :: slots) :
      WaitCase t r (.ok (some slot) { r with queue := { r.queue with slots } })
  /-- No arrival is left, so the reader is asked to stop. -/
  | closed (hslots : r.queue.slots = []) (harrivals : r.world.arrivals = []) :
      WaitCase t r (.ok (some .stop) { r with world := r.world.requestStop })
  /-- The next arrival comes in time. -/
  | arrived (hslots : r.queue.slots = []) {a : Arrival τ} {rest : List (Arrival τ)}
      (harrivals : r.world.arrivals = a :: rest) (htime : Quantity.le a.after t = true)
      {u : Reader τ (Stage τ)} (hu : Delivered r a rest u) {slot? : Option Slot}
      {s : Reader τ (Stage τ)} (htake : take u = .ok slot? s) : WaitCase t r (.ok slot? s)
  /-- An item that is dropped cannot be described, or the sink refuses to count it. -/
  | refused (hlimit : 0 < r.queue.limit) {f : Failure} (s : Reader τ (Stage τ))
      (hcause : .eventsDropped ∈ r.world.failing ∨
        ∃ a ∈ r.world.arrivals, ∃ i ∈ a.items, i.describe = .error f) : WaitCase t r (.error f s)
  /-- Nothing comes in time. -/
  | passed (hslots : r.queue.slots = []) {a : Arrival τ} {rest : List (Arrival τ)}
      (harrivals : r.world.arrivals = a :: rest) (htime : Quantity.le a.after t = false) :
      WaitCase t r (.ok none (idled t a rest r))

theorem pass_apply (t : τ) (r : Reader τ (Stage τ)) :
    pass (Stage.environment interval logs?) t r = match r.world.arrivals with
      | [] => stop (Stage.environment interval logs?) r
      | a :: rest =>
        if Quantity.le a.after t then
          deliver (Stage.environment interval logs?) a (came a rest r)
        else .ok () (idled t a rest r) := by
  have hget : (get : Act τ (Stage τ) _) r = .ok r r := rfl
  rw [pass, bind_apply, hget]
  dsimp only
  cases r.world.arrivals with
  | nil => rfl
  | cons a rest =>
    dsimp only
    split <;> rfl

omit [Quantity τ] in
/-- The marker has room on an empty queue. -/
theorem stop_of_empty {r : Reader τ (Stage τ)} (hslots : r.queue.slots = []) :
    stop (Stage.environment interval logs?) r = .ok () { r with
      queue := { r.queue with slots := [.stop] }
      world := r.world.requestStop } := by
  have hput : r.queue.put? .stop = some { r.queue with slots := [.stop] } := by
    refine EventQueue.put?_eq_some.2 ⟨fun hfull => ?_, by rw [hslots, List.nil_append]⟩
    obtain ⟨hlimit, hsize⟩ := EventQueue.isFull_iff.1 hfull
    rw [EventQueue.size, hslots] at hsize
    exact Nat.not_lt.2 hsize hlimit
  rw [stop_apply, hput]
  rfl

theorem waitCase (t : τ) (r : Reader τ (Stage τ)) :
    WaitCase t r (wait (Stage.environment interval logs?) t r) := by
  rw [wait, bind_apply, take_apply]
  cases hslots : r.queue.slots with
  | cons slot slots => exact .served hslots
  | nil =>
    dsimp only
    rw [bind_apply, pass_apply]
    cases harrivals : r.world.arrivals with
    | nil =>
      have hqueue : r.queue = { r.queue with slots := [] } := by rw [← hslots]
      dsimp only
      rw [stop_of_empty interval logs? hslots]
      dsimp only
      rw [take_apply]
      dsimp only
      rw [← hqueue]
      exact .closed hslots harrivals
    | cons a rest =>
      dsimp only
      cases htime : Quantity.le a.after t with
      | false =>
        rw [if_neg Bool.false_ne_true]
        dsimp only
        rw [take_apply, show (idled t a rest r).queue.slots = [] from hslots]
        exact .passed hslots harrivals htime
      | true =>
        rw [if_pos rfl]
        rcases deliver_cases interval logs? a rest hslots with ⟨u, hdeliver, hu⟩ |
          ⟨f, s, hdeliver, hlimit, hcause⟩
        · have htake := (take_eq_ok (r := u)).2 ⟨rfl, rfl⟩
          rw [hdeliver]
          dsimp only
          rw [htake]
          exact .arrived hslots harrivals htime hu htake
        · rw [hdeliver]
          exact .refused hlimit s
            (hcause.imp_right fun hi => ⟨a, harrivals ▸ List.mem_cons_self, hi⟩)

end Rehearsal

end JobMeter
