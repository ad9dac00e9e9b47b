import JobMeter.Proofs.Loop.Surviving
import JobMeter.Proofs.Rehearsal.Arriving

/-!
# What a rehearsal still has to do

In a rehearsal it is known from the start what will be dispatched: what is on the queue, and of each
arrival the items that an empty queue has room for.  This is the agenda.  Each round of the loop
takes its first item off the agenda, or leaves it as it is.

* `agenda env r` — the items that are still to be dispatched.
* `WaitCase.agenda_eq`, `RoundsCase.agenda_eq` — what was dispatched, followed by the agenda that is
  left, is the agenda of the beginning.
* `Follows env r s` — what else a rehearsal keeps: limits, the scripts, the items that it expects,
  and that the marker is on the queue only if a stop was requested.
* `RoundsCase.stopped_rehearsal` — the loop is at its end only when a stop was requested.
* `Undisturbed r ms` — no stop is requested before all arrivals were taken.  Then the loop ends with
  nothing left (`RoundsCase.closed`).
-/

namespace JobMeter

namespace EventQueue

/-- Of items on a queue all but nulls are to be passed on. -/
theorem filterMap_passed (items : List Item) :
    (items.map Slot.item).filterMap Slot.passed? = items.filter fun i => !i.isNull := by
  induction items with
  | nil => rfl
  | cons i items ih =>
    cases hnull : i.isNull <;> simp [Slot.passed?, hnull, ih]

end EventQueue

namespace Rehearsal

open Reader

variable {τ : Type} [Quantity τ]

/-! ## The agenda -/

/-- What is still to be dispatched: the items on the queue, and those that are accepted of each
arrival, nulls left aside.  An arrival is taken only when the queue is empty. -/
def agenda (env : Environment τ (Stage τ)) (r : Reader τ (Stage τ)) : List Item :=
  r.queue.pending ++ r.world.arrivals.flatMap fun a =>
    (accepts env { r with queue := { r.queue with slots := [] } } a.items).filter fun i => !i.isNull

section

variable {env : Environment τ (Stage τ)} {r s u : Reader τ (Stage τ)}

/-- The items of an arrival that are to be dispatched. -/
def admitted (limit : Nat) (a : Arrival τ) : List Item :=
  ((⟨limit, []⟩ : EventQueue).fitting a.items).filter fun i => !i.isNull

theorem agenda_eq (env : Environment τ (Stage τ)) (r : Reader τ (Stage τ)) :
    agenda env r = r.queue.pending ++ r.world.arrivals.flatMap (admitted r.queue.limit) := by
  simp only [agenda, accepts_eq]
  rfl

theorem agenda_congr (hqueue : s.queue = r.queue)
    (harrivals : s.world.arrivals = r.world.arrivals) :
    agenda env s = agenda env r := by
  rw [agenda_eq, agenda_eq, hqueue, harrivals]

/-- What is taken off the queue is taken off the agenda. -/
theorem agenda_take {slot? : Option Slot} (h : take u = .ok slot? s) :
    (slot?.bind Slot.passed?).toList ++ agenda env s = agenda env u := by
  obtain ⟨rfl, rfl⟩ := take_eq_ok.1 h
  simp only [agenda_eq, EventQueue.pending]
  cases u.queue.slots with
  | nil => rfl
  | cons slot slots =>
    rw [List.head?_cons, Option.bind_some, List.tail_cons, List.filterMap_cons]
    cases slot.passed? <;> rfl

/-- What arrives was on the agenda already. -/
theorem Delivered.agenda_eq {a : Arrival τ} {rest : List (Arrival τ)} (h : Delivered r a rest u)
    (hslots : r.queue.slots = []) (harrivals : r.world.arrivals = a :: rest) :
    agenda env u = agenda env r := by
  obtain ⟨more, hmore, hqueue⟩ := h.queue
  have hnone : more.filterMap Slot.passed? = [] := by
    rcases hmore with rfl | ⟨-, rfl⟩ <;> rfl
  have hempty : r.queue = ⟨r.queue.limit, []⟩ := by rw [← hslots]
  have hpending : u.queue.pending = admitted r.queue.limit a := by
    rw [EventQueue.pending, hqueue, List.filterMap_append, hnone, List.append_nil,
      EventQueue.filterMap_passed, admitted, ← hempty]
  rw [Rehearsal.agenda_eq, Rehearsal.agenda_eq, hpending, h.arrivals, harrivals, List.flatMap_cons,
    hqueue, EventQueue.pending, hslots, List.filterMap_nil, List.nil_append]

theorem WaitCase.agenda_eq (env : Environment τ (Stage τ)) {t : τ} {slot? : Option Slot}
    (h : WaitCase t r (.ok slot? s)) :
    (slot?.bind Slot.passed?).toList ++ agenda env s = agenda env r := by
  cases h with
  | served hslots =>
    exact agenda_take (by rw [take_apply, hslots])
  | closed hslots harrivals => exact agenda_congr rfl rfl
  | arrived hslots harrivals htime hu htake =>
    rw [agenda_take htake, hu.agenda_eq hslots harrivals]
  | passed hslots harrivals htime =>
    rw [Option.bind_none, Option.toList_none, List.nil_append, Rehearsal.agenda_eq,
      Rehearsal.agenda_eq, harrivals]
    rfl

end

/-! ## What else is kept -/

/-- The item is on the queue, or it is still to come. -/
def Expects (r : Reader τ (Stage τ)) (i : Item) : Prop :=
  .item i ∈ r.queue.slots ∨ ∃ a ∈ r.world.arrivals, i ∈ a.items

/-- From one reader to the other limits and failing metrics have not changed, no script and no item
is new, and the marker was put on the queue only if a stop was requested. -/
structure Follows (env : Environment τ (Stage τ)) (r s : Reader τ (Stage τ)) : Prop where
  limit : s.queue.limit = r.queue.limit
  failing : s.world.failing = r.world.failing
  scripts : s.world.scripts ⊆ r.world.scripts
  expects : ∀ i, Expects s i → Expects r i
  marked : Marked env r → Marked env s

section

variable {interval : τ} {shared? : Option Bool} {r s u : Reader τ (Stage τ)}

omit [Quantity τ] in
theorem Follows.trans {env : Environment τ (Stage τ)} (h : Follows env r u)
    (h' : Follows env u s) : Follows env r s where
  limit := h'.limit.trans h.limit
  failing := h'.failing.trans h.failing
  scripts := fun _ hs => h.scripts (h'.scripts hs)
  expects i hi := h.expects i (h'.expects i hi)
  marked hr := h'.marked (h.marked hr)

theorem Follows.of_proceeds (hqueue : s.queue = r.queue) (h : r.world.Proceeds s.world) :
    Follows (scripted interval shared?) r s where
  limit := by rw [hqueue]
  failing := h.failing
  scripts := h.scripts
  expects i hi := by rwa [Expects, hqueue, h.arrivals] at hi
  marked hr := hr.of_queue_eq hqueue h.stopped

omit [Quantity τ] in
theorem Follows.of_take {slot? : Option Slot} {env : Environment τ (Stage τ)}
    (h : take u = .ok slot? s) : Follows env u s := by
  obtain ⟨-, rfl⟩ := take_eq_ok.1 h
  exact ⟨rfl, rfl, fun _ => id, fun i hi => hi.imp_left List.mem_of_mem_tail,
    fun hu hmarker => hu (List.mem_of_mem_tail hmarker)⟩

omit [Quantity τ] in
/-- Only an arrival that asks for a stop puts the marker on the queue. -/
theorem Delivered.stop_of_mem {a : Arrival τ} {rest : List (Arrival τ)} (h : Delivered r a rest u)
    (hmarker : .stop ∈ u.queue.slots) : a.stop = true := by
  obtain ⟨more, hmore, hqueue⟩ := h.queue
  rw [hqueue, List.mem_append] at hmarker
  rcases hmarker with hitem | hmarker
  · obtain ⟨i, -, hi⟩ := List.mem_map.1 hitem
    cases hi
  · rcases hmore with rfl | ⟨hstop, -⟩
    · cases hmarker
    · exact hstop

omit [Quantity τ] in
theorem Delivered.stopped_of_mem {a : Arrival τ} {rest : List (Arrival τ)}
    (h : Delivered r a rest u) (hmarker : .stop ∈ u.queue.slots) : u.world.stopped = true := by
  rw [h.stopped, h.stop_of_mem hmarker, Bool.or_true]

omit [Quantity τ] in
/-- The items of an arrival were expected before. -/
theorem Delivered.expects {a : Arrival τ} {rest : List (Arrival τ)} (h : Delivered r a rest u)
    (harrivals : r.world.arrivals = a :: rest) (i : Item) (hi : Expects u i) : Expects r i := by
  obtain ⟨more, hmore, hqueue⟩ := h.queue
  right
  rw [harrivals]
  rcases hi with hi | ⟨b, hb, hib⟩
  · rw [hqueue, List.mem_append] at hi
    rcases hi with hi | hi
    · obtain ⟨j, hj, heq⟩ := List.mem_map.1 hi
      obtain rfl := Slot.item.inj heq
      exact ⟨a, List.mem_cons_self, (EventQueue.fitting_sublist _ _).subset hj⟩
    · rcases hmore with rfl | ⟨-, rfl⟩
      · cases hi
      · exact nomatch List.mem_singleton.1 hi
  · exact ⟨b, List.mem_cons_of_mem a (h.arrivals ▸ hb), hib⟩

theorem WaitCase.follows {t : τ} {slot? : Option Slot} (h : WaitCase t r (.ok slot? s)) :
    Follows (scripted interval shared?) r s := by
  cases h with
  | served hslots => exact .of_take (by rw [take_apply, hslots])
  | closed hslots harrivals => exact ⟨rfl, rfl, fun _ => id, fun _ => id, fun _ _ => rfl⟩
  | arrived hslots harrivals htime hu htake =>
    refine .trans ?_ (.of_take htake)
    obtain ⟨more, -, hqueue⟩ := hu.queue
    exact ⟨by rw [hqueue], hu.failing, fun _ hs => hu.scripts ▸ hs, hu.expects harrivals,
      fun _ => hu.stopped_of_mem⟩
  | @passed hslots a rest harrivals htime =>
    refine ⟨rfl, rfl, fun _ => id, fun i hi => hi.imp_right ?_, id⟩
    rintro ⟨b, hb, hib⟩
    rw [harrivals]
    rcases List.mem_cons.1 hb with rfl | hb
    · exact ⟨a, List.mem_cons_self, hib⟩
    · exact ⟨b, List.mem_cons_of_mem a hb, hib⟩

/-- When the marker is taken a stop was requested. -/
theorem WaitCase.stopped {t : τ} (h : WaitCase t r (.ok (some .stop) s))
    (hr : Marked (scripted interval shared?) r) : s.world.stopped = true := by
  cases h with
  | served hslots => exact hr (hslots ▸ List.mem_cons_self)
  | closed hslots harrivals => rfl
  | arrived hslots harrivals htime hu htake =>
    obtain ⟨hslot, rfl⟩ := take_eq_ok.1 htake
    exact hu.stopped_of_mem (List.mem_of_head? hslot.symm)

/-! ## Quiet rehearsals -/

/-- No stop was requested so far, and no arrival will request one. -/
structure Calm (r : Reader τ (Stage τ)) : Prop where
  stopped : r.world.stopped = false
  arrivals : ∀ a ∈ r.world.arrivals, a.stop = false

omit [Quantity τ] in
theorem Calm.of_recorded (h : Calm r) (hs : r.world.Recorded s.world) : Calm s := by
  obtain ⟨calls, notices, hs⟩ := hs
  constructor
  · rw [hs]
    exact h.stopped
  · rw [hs]
    exact h.arrivals

omit [Quantity τ] in
theorem Calm.not_mem (h : Calm r) {a : Arrival τ} {rest : List (Arrival τ)}
    (harrivals : r.world.arrivals = a :: rest) (hu : Delivered r a rest u) :
    .stop ∉ u.queue.slots := by
  intro hmarker
  have hstop := h.arrivals a (harrivals ▸ List.mem_cons_self)
  rw [hu.stop_of_mem hmarker] at hstop
  cases hstop

omit [Quantity τ] in
theorem Calm.of_delivered (h : Calm r) {a : Arrival τ} {rest : List (Arrival τ)}
    (harrivals : r.world.arrivals = a :: rest) (hu : Delivered r a rest u) : Calm u where
  stopped := by
    rw [hu.stopped, h.stopped, h.arrivals a (harrivals ▸ List.mem_cons_self), Bool.or_false]
  arrivals b hb := h.arrivals b (harrivals ▸ List.mem_cons_of_mem a (hu.arrivals ▸ hb))

/-- A wait that takes no marker leaves a calm rehearsal calm. -/
theorem WaitCase.calm {t : τ} {slot? : Option Slot} (h : WaitCase t r (.ok slot? s))
    (hmarker : Slot.isMarker? slot? = false) (hr : Calm r) : Calm s := by
  cases h with
  | served hslots => exact ⟨hr.stopped, hr.arrivals⟩
  | closed hslots harrivals => cases hmarker
  | arrived hslots harrivals htime hu htake =>
    have hcalm := hr.of_delivered harrivals hu
    obtain ⟨-, rfl⟩ := take_eq_ok.1 htake
    exact ⟨hcalm.stopped, hcalm.arrivals⟩
  | @passed hslots a rest harrivals htime =>
    refine ⟨hr.stopped, fun b hb => ?_⟩
    rcases List.mem_cons.1 hb with rfl | hb
    · exact hr.arrivals a (harrivals ▸ List.mem_cons_self)
    · exact hr.arrivals b (harrivals ▸ List.mem_cons_of_mem a hb)

/-- What is taken was expected. -/
theorem WaitCase.expects {t : τ} {slot? : Option Slot} (h : WaitCase t r (.ok slot? s)) {i : Item}
    (hi : slot? = some (.item i)) : Expects r i := by
  cases h with
  | served hslots => exact .inl (by rw [hslots, ← Option.some.inj hi]; exact List.mem_cons_self)
  | closed => cases hi
  | arrived hslots harrivals htime hu htake =>
    obtain ⟨hslot, -⟩ := take_eq_ok.1 htake
    exact hu.expects harrivals i (.inl (List.mem_of_head? (hslot.symm.trans hi)))
  | passed => cases hi

/-- In a calm rehearsal the marker comes when no arrival is left. -/
theorem WaitCase.closed_of_calm {t : τ} (h : WaitCase t r (.ok (some .stop) s)) (hr : Calm r)
    (hmarked : Marked (scripted interval shared?) r) :
    s.world.arrivals = [] ∧ s.queue.slots = [] := by
  cases h with
  | served hslots =>
    have hstopped : r.world.stopped = true := hmarked (hslots ▸ List.mem_cons_self)
    rw [hr.stopped] at hstopped
    cases hstopped
  | closed hslots harrivals => exact ⟨harrivals, hslots⟩
  | arrived hslots harrivals htime hu htake =>
    obtain ⟨hslot, -⟩ := take_eq_ok.1 htake
    exact absurd (List.mem_of_head? hslot.symm) (hr.not_mem harrivals hu)

end

end Rehearsal

namespace Reader

open Rehearsal

/-! ## Rounds of a rehearsal -/

section

variable {τ : Type} [Quantity τ] {interval : τ} {shared? : Option Bool} {due due' : τ}
  {r s u : Reader τ (Stage τ)} {ms ms' : List (Moment τ (Stage τ))}

/-- A wait of the loop is one in virtual time, up to the time when the next accrual is due. -/
theorem waitCase_of_waitIn
    {result : EStateM.Result Failure (Reader τ (Stage τ)) (Option Slot)}
    (h : waitIn (scripted interval shared?) (wait (scripted interval shared?)) due r = result) :
    WaitCase (timeout due r.world.clock) r result := h ▸ waitCase _ _ _ r

theorem proceeds_of_dispatchSafely {i : Item}
    (h : dispatchSafely (scripted interval shared?) i r = .ok () s) :
    s.queue = r.queue ∧ r.world.Proceeds s.world := by
  rcases dispatchSafely_cases interval shared? i r with ⟨s', hs', hkept⟩ | ⟨f, s', hs', -⟩
  · rw [h] at hs'
    injection hs' with _ hs'
    exact hs' ▸ hkept
  · rw [h] at hs'
    cases hs'

theorem AccrualCase.recorded
    (h : AccrualCase (scripted interval shared?) due r ms (.ok due' s)) :
    s.queue = r.queue ∧ r.world.Recorded s.world := by
  cases h with
  | notDue => exact ⟨rfl, .refl _⟩
  | accrued hdue haccrue =>
    obtain ⟨s', hs', hkept⟩ := accrueSafely_recorded interval shared?
      (after (now (scripted interval shared?)) r)
    rw [haccrue] at hs'
    injection hs' with _ hs'
    exact hs' ▸ hkept

theorem TurnCase.agenda_eq {goes : Bool}
    (h : TurnCase (scripted interval shared?) (wait (scripted interval shared?)) due r ms
      (.ok goes s)) :
    ms.filterMap (·.deed.dispatched?) ++ agenda (scripted interval shared?) s =
      agenda (scripted interval shared?) r := by
  cases h with
  | stopped => rfl
  | ended hgoes hwait => exact (waitCase_of_waitIn hwait).agenda_eq _
  | passedOver hgoes hwait hnone =>
    have hagenda := (waitCase_of_waitIn hwait).agenda_eq (scripted interval shared?)
    rw [hnone] at hagenda
    exact hagenda
  | dispatched hgoes hwait hsome hdispatch =>
    have hagenda := (waitCase_of_waitIn hwait).agenda_eq (scripted interval shared?)
    obtain ⟨hqueue, hproceeds⟩ := proceeds_of_dispatchSafely hdispatch
    rw [hsome, ← agenda_congr hqueue hproceeds.arrivals] at hagenda
    exact hagenda

theorem RoundCase.agenda_eq {next? : Option τ}
    (h : RoundCase (scripted interval shared?) (wait (scripted interval shared?)) due r ms
      (.ok next? s)) :
    ms.filterMap (·.deed.dispatched?) ++ agenda (scripted interval shared?) s =
      agenda (scripted interval shared?) r := by
  cases h with
  | last hturn => exact hturn.agenda_eq
  | @goesOn ms ms' due' u s hturn haccrual =>
    obtain ⟨hqueue, hrecorded⟩ := haccrual.recorded
    have hnone : ms'.filterMap (·.deed.dispatched?) = [] := by cases haccrual <;> rfl
    rw [List.filterMap_append, hnone, List.append_nil,
      agenda_congr hqueue (Stage.Proceeds.of_recorded hrecorded).arrivals, hturn.agenda_eq]

/-- **What is dispatched is taken off the agenda**, in its order. -/
theorem RoundsCase.agenda_eq {fuel : Nat} {finished : Bool}
    (h : RoundsCase (scripted interval shared?) (wait (scripted interval shared?)) fuel due r ms
      finished due' s) :
    ms.filterMap (·.deed.dispatched?) ++ agenda (scripted interval shared?) s =
      agenda (scripted interval shared?) r := by
  induction h with
  | outOfFuel => rfl
  | last hround => exact hround.agenda_eq
  | goesOn hround hrest ih => rw [List.filterMap_append, List.append_assoc, ih, hround.agenda_eq]

theorem TurnCase.follows {goes : Bool}
    (h : TurnCase (scripted interval shared?) (wait (scripted interval shared?)) due r ms
      (.ok goes s)) : Follows (scripted interval shared?) r s := by
  cases h with
  | stopped => exact .of_proceeds rfl (.refl _)
  | ended hgoes hwait | passedOver hgoes hwait => exact (waitCase_of_waitIn hwait).follows
  | dispatched hgoes hwait hsome hdispatch =>
    obtain ⟨hqueue, hproceeds⟩ := proceeds_of_dispatchSafely hdispatch
    exact (waitCase_of_waitIn hwait).follows.trans (.of_proceeds hqueue hproceeds)

theorem RoundCase.follows {next? : Option τ}
    (h : RoundCase (scripted interval shared?) (wait (scripted interval shared?)) due r ms
      (.ok next? s)) : Follows (scripted interval shared?) r s := by
  cases h with
  | last hturn => exact hturn.follows
  | goesOn hturn haccrual =>
    obtain ⟨hqueue, hrecorded⟩ := haccrual.recorded
    exact hturn.follows.trans (.of_proceeds hqueue (.of_recorded hrecorded))

/-- **The loop is at its end only when a stop was requested.** -/
theorem RoundsCase.stopped_rehearsal {fuel : Nat}
    (h : RoundsCase (scripted interval shared?) (wait (scripted interval shared?)) fuel due r ms
      true due' s) (hr : Marked (scripted interval shared?) r) : s.world.stopped = true := by
  generalize hfinished : true = finished at h
  induction h with
  | outOfFuel => cases hfinished
  | last hround =>
    cases hround with
    | last hturn =>
      cases hturn with
      | stopped hstop => exact hstop
      | ended hgoes hwait => exact (waitCase_of_waitIn hwait).stopped hr
  | goesOn hround hrest ih => exact ih (hround.follows.marked hr) hfinished

/-! ## Rehearsals that nobody disturbs -/

/-- No stop is requested before all arrivals were taken: not before the beginning, not by an
arrival, and not while an item is dispatched. -/
def Undisturbed (r : Reader τ (Stage τ)) (ms : List (Moment τ (Stage τ))) : Prop :=
  Calm r ∧ ∀ m ∈ ms, m.deed.isDispatch = true → m.after.world.stopped = false

theorem TurnCase.calm
    (h : TurnCase (scripted interval shared?) (wait (scripted interval shared?)) due r ms
      (.ok true s)) (hr : Undisturbed r ms) : Calm s := by
  cases h with
  | passedOver hgoes hwait hnone hmarker => exact (waitCase_of_waitIn hwait).calm hmarker hr.1
  | dispatched hgoes hwait hsome hdispatch =>
    have hcalm := (waitCase_of_waitIn hwait).calm (Slot.isMarker?_of_passed hsome) hr.1
    obtain ⟨hqueue, hproceeds⟩ := proceeds_of_dispatchSafely hdispatch
    exact ⟨hr.2 _ (List.mem_cons_of_mem _ List.mem_cons_self) rfl,
      hproceeds.arrivals ▸ hcalm.arrivals⟩

theorem RoundCase.undisturbed
    (h : RoundCase (scripted interval shared?) (wait (scripted interval shared?)) due r ms
      (.ok (some due') s)) (hr : Undisturbed r (ms ++ ms')) : Undisturbed s ms' := by
  refine ⟨?_, fun m hm => hr.2 m (List.mem_append_right _ hm)⟩
  cases h with
  | goesOn hturn haccrual =>
    exact (hturn.calm ⟨hr.1, fun m hm => hr.2 m (by simp [hm])⟩).of_recorded haccrual.recorded.2

/-- **If nobody disturbs it, the loop ends with nothing left.** -/
theorem RoundsCase.closed {fuel : Nat}
    (h : RoundsCase (scripted interval shared?) (wait (scripted interval shared?)) fuel due r ms
      true due' s) (hr : Marked (scripted interval shared?) r) (hms : Undisturbed r ms) :
    s.world.arrivals = [] ∧ s.queue.slots = [] := by
  generalize hfinished : true = finished at h
  induction h with
  | outOfFuel => cases hfinished
  | @last fuel due r s ms hround =>
    cases hround with
    | last hturn =>
      cases hturn with
      | stopped hstop =>
        have hstopped : r.world.stopped = true := hstop
        rw [hms.1.stopped] at hstopped
        cases hstopped
      | ended hgoes hwait => exact (waitCase_of_waitIn hwait).closed_of_calm hms.1 hr
  | goesOn hround hrest ih =>
    exact ih (hround.follows.marked hr) (hround.undisturbed hms) hfinished

end

end Reader

end JobMeter
