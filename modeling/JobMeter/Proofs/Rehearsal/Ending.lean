import JobMeter.Proofs.Loop.Schedule
import JobMeter.Proofs.Rehearsal.Agenda
import Mathlib.Data.Rat.Floor

/-!
# A rehearsal ends

A wait for nothing uses up neither an item nor an arrival, it only brings the next arrival nearer,
and by how much depends on when the next accrual is due.  But when it is over an accrual is due, and
from then on there is a whole interval until the next one: so of two waits for nothing between which
nothing else is waited for the second one lasts an interval.

* `workload interval r` — the items on the queue, and for each arrival its items, one more, and the
  intervals until it comes.
* `potential interval due r` — twice that, and one more unless the next accrual is due a whole
  interval from now.
* `RoundCase.potential_lt` — each round after which the loop goes on lowers it.
* `rounds_ne_false` — so the loop does not go on for longer than that.
* `Excuses r f` — why a rehearsal may fail: a script demands the end of the process, the sink
  refuses to count an item that is dropped, or an item cannot be described.
* `rehearsal_ends` — **the loop ends in virtual time**.
-/

namespace JobMeter

namespace Rehearsal

open Reader

/-! ## What is left to do -/

/-- How often the loop has to wait at most, for items, for arrivals and for whole intervals. -/
def workload (interval : Rat) (r : Reader Rat (Stage Rat)) : Nat :=
  r.queue.size +
    (r.world.arrivals.map fun a => a.items.length + 1 + ⌈a.after / interval⌉₊).sum

/-- Twice the workload, and one more unless the next accrual is due a whole interval from now. -/
def potential (interval due : Rat) (r : Reader Rat (Stage Rat)) : Nat :=
  2 * workload interval r + if due = r.world.clock + interval then 0 else 1

variable {interval : Rat} {r s u : Reader Rat (Stage Rat)}

theorem workload_congr (hqueue : s.queue = r.queue)
    (harrivals : s.world.arrivals = r.world.arrivals) :
    workload interval s = workload interval r := by
  rw [workload, workload, hqueue, harrivals]

/-- What is taken with an arrival is less than what it counted for. -/
theorem Delivered.workload_lt {a : Arrival Rat} {rest : List (Arrival Rat)}
    (h : Delivered r a rest u) (harrivals : r.world.arrivals = a :: rest) {slot? : Option Slot}
    (htake : take u = .ok slot? s) : workload interval s < workload interval r := by
  obtain ⟨-, rfl⟩ := take_eq_ok.1 htake
  obtain ⟨more, hmore, hqueue⟩ := h.queue
  have hfitting := (EventQueue.fitting_sublist r.queue a.items).length_le
  have hlength : more.length ≤ 1 := by
    rcases hmore with rfl | ⟨-, rfl⟩
    · exact Nat.zero_le 1
    · exact Nat.le_refl 1
  simp only [workload, EventQueue.size, hqueue, harrivals, h.arrivals, List.length_tail,
    List.length_append, List.length_map, List.map_cons, List.sum_cons]
  omega

/-- Time that passes brings the next arrival nearer. -/
theorem workload_idled_le (hinterval : 0 < interval) {t : Rat} (ht : 0 ≤ t) {a : Arrival Rat}
    {rest : List (Arrival Rat)} (harrivals : r.world.arrivals = a :: rest) :
    workload interval (idled t a rest r) ≤ workload interval r := by
  have hceil : ⌈(a.after - t) / interval⌉₊ ≤ ⌈a.after / interval⌉₊ := by
    gcongr
    linarith
  simp only [workload, idled, harrivals, List.map_cons, List.sum_cons, Quantity.sub_rat]
  omega

/-- An interval that passes counts. -/
theorem workload_idled_lt (hinterval : 0 < interval) {a : Arrival Rat}
    {rest : List (Arrival Rat)} (harrivals : r.world.arrivals = a :: rest)
    (hlate : interval < a.after) :
    workload interval (idled interval a rest r) < workload interval r := by
  have hdiv : a.after / interval = (a.after - interval) / interval + 1 := by
    field_simp
    ring
  have hceil : ⌈a.after / interval⌉₊ = ⌈(a.after - interval) / interval⌉₊ + 1 := by
    rw [hdiv]
    exact Nat.ceil_add_one (div_nonneg (by linarith) hinterval.le)
  simp only [workload, idled, harrivals, List.map_cons, List.sum_cons, Quantity.sub_rat]
  omega

/-- A wait either brings something, or it lasts as long as it may. -/
theorem WaitCase.workload_lt {t : Rat} {slot? : Option Slot} (h : WaitCase t r (.ok slot? s))
    (hmarker : Slot.isMarker? slot? = false) :
    workload interval s < workload interval r ∨
      ∃ a rest, slot? = none ∧ r.world.arrivals = a :: rest ∧ t < a.after ∧
        s = idled t a rest r := by
  cases h with
  | served hslots =>
    left
    simp only [workload, EventQueue.size, hslots, List.length_cons]
    omega
  | closed => cases hmarker
  | arrived hslots harrivals htime hu htake => exact .inl (hu.workload_lt harrivals htake)
  | passed hslots harrivals htime =>
    exact .inr ⟨_, _, rfl, harrivals, by simpa using htime, rfl⟩

/-! ## Why a rehearsal may fail -/

/-- The failure comes of a script that demands the end of the process, of a sink that refuses to
count an item that is dropped, or of an item that cannot be described. -/
def Excuses (r : Reader Rat (Stage Rat)) (f : Failure) : Prop :=
  (f.isOrdinary = false ∧ ∃ script ∈ r.world.scripts, script.Raises f) ∨
    (.eventsDropped ∈ r.world.failing ∧ 0 < r.queue.limit) ∨
    ∃ i, Expects r i ∧ (i.escape? = some f ∨ i.describe = .error f)

theorem Follows.excuses {env : Environment Rat (Stage Rat)} (h : Follows env r s) {f : Failure}
    (hf : Excuses s f) : Excuses r f := by
  rcases hf with ⟨hordinary, script, hscript, hraises⟩ | ⟨hfailing, hlimit⟩ | ⟨i, hi, hfails⟩
  · exact .inl ⟨hordinary, script, h.scripts hscript, hraises⟩
  · exact .inr (.inl ⟨h.failing ▸ hfailing, h.limit ▸ hlimit⟩)
  · exact .inr (.inr ⟨i, h.expects i hi, hfails⟩)

end Rehearsal

namespace Reader

open Rehearsal

variable {interval : Rat} {shared? : Option Bool} {due due' : Rat}
  {r s u : Reader Rat (Stage Rat)} {ms : List (Moment Rat (Stage Rat))}

/-! ## Rounds -/

/-- A turn after which the loop goes on lessens the workload, or it waits for nothing. -/
theorem TurnCase.workload_lt
    (h : TurnCase (scripted interval shared?) (wait (scripted interval shared?)) due r ms
      (.ok true u)) :
    workload interval u < workload interval r ∨
      ∃ a rest, r.world.arrivals = a :: rest ∧ timeout due r.world.clock < a.after ∧
        u = idled (timeout due r.world.clock) a rest r := by
  cases h with
  | passedOver hgoes hwait hnone hmarker =>
    rcases (waitCase_of_waitIn hwait).workload_lt hmarker with hlt | ⟨a, rest, -, hidled⟩
    · exact .inl hlt
    · exact .inr ⟨a, rest, hidled⟩
  | dispatched hgoes hwait hsome hdispatch =>
    obtain ⟨hqueue, hproceeds⟩ := proceeds_of_dispatchSafely hdispatch
    rcases (waitCase_of_waitIn hwait).workload_lt (Slot.isMarker?_of_passed hsome) with
      hlt | ⟨a, rest, rfl, -⟩
    · rw [workload_congr hqueue hproceeds.arrivals]
      exact .inl hlt
    · cases hsome

/-- After an accrual there is a whole interval until the next one. -/
theorem AccrualCase.due_of_le (h : AccrualCase (scripted interval shared?) due u ms (.ok due' s))
    (hdue : due ≤ u.world.clock) : due' = s.world.clock + interval := by
  cases h with
  | notDue hnot => exact absurd hdue (of_decide_eq_false hnot)
  | accrued => rfl

/-- **Each round after which the loop goes on lowers the potential.** -/
theorem RoundCase.potential_lt (hinterval : 0 < interval) (hclock : r.world.clock < due)
    (h : RoundCase (scripted interval shared?) (wait (scripted interval shared?)) due r ms
      (.ok (some due') s)) : potential interval due' s < potential interval due r := by
  cases h with
  | @goesOn ms ms' due' u s hturn haccrual =>
    obtain ⟨hqueue, hrecorded⟩ := haccrual.recorded
    have hworkload : workload interval s = workload interval u :=
      workload_congr hqueue (Stage.Proceeds.of_recorded hrecorded).arrivals
    rcases hturn.workload_lt with hlt | ⟨a, rest, harrivals, hlate, hidled⟩
    · rw [potential, potential, hworkload]
      split <;> omega
    · have ht : timeout due r.world.clock = due - r.world.clock := by
        rw [timeout_eq]
        exact max_eq_right (by linarith)
      -- The wait was over when the accrual was due, so the next one is due in a whole interval.
      have hnow : u.world.clock = due := by
        rw [hidled, ht]
        exact add_sub_cancel _ _
      have hdue : due' = s.world.clock + interval := haccrual.due_of_le hnow.ge
      rw [ht] at hlate hidled
      rw [potential, potential, hworkload, if_pos hdue, hidled]
      split
      · rename_i hwhole
        have hinterval' : due - r.world.clock = interval := by rw [hwhole]; ring
        rw [hinterval'] at hlate ⊢
        have hlt := workload_idled_lt hinterval harrivals hlate
        omega
      · have hle := workload_idled_le hinterval (sub_nonneg.2 hclock.le) harrivals
        omega

/-- **The loop does not go on for longer than its potential.** -/
theorem rounds_ne_false (hinterval : 0 < interval) {fuel : Nat} (hclock : r.world.clock < due)
    (hfuel : potential interval due r < fuel) :
    rounds (scripted interval shared?) (wait (scripted interval shared?)) fuel due r ≠
      .ok false s := by
  induction fuel generalizing due r with
  | zero => exact absurd hfuel (Nat.not_lt_zero _)
  | succ fuel ih =>
    have hround := roundCase (scripted interval shared?) (wait (scripted interval shared?)) due r
    cases hrun : round (scripted interval shared?) (wait (scripted interval shared?)) due r with
    | error f u =>
      rw [rounds_of_error hrun]
      exact fun heq => nomatch heq
    | ok next? u =>
      cases next? with
      | none =>
        rw [rounds_of_none hrun]
        exact fun heq => nomatch heq
      | some due' =>
        rw [hrun] at hround
        rw [rounds_of_some hrun]
        exact ih (hround.clock_lt hinterval)
          (Nat.lt_of_lt_of_le (hround.potential_lt hinterval hclock) (Nat.le_of_lt_succ hfuel))

/-! ## Failures -/

theorem RoundCase.excuses {f : Failure}
    (h : RoundCase (scripted interval shared?) (wait (scripted interval shared?)) due r ms
      (.error f s)) : Excuses r f := by
  cases h with
  | turnFailed hturn =>
    cases hturn with
    | waitFailed hgoes hwait =>
      cases waitCase_of_waitIn hwait with
      | refused hlimit _ hcause =>
        rcases hcause with hfailing | ⟨a, ha, i, hi, hdescribe⟩
        · exact .inr (.inl ⟨hfailing, hlimit⟩)
        · exact .inr (.inr ⟨i, .inr ⟨a, ha, hi⟩, .inr hdescribe⟩)
    | @dispatchFailed _ _ i u _ _ hwait hsome hdispatch =>
      have hcase := waitCase_of_waitIn hwait
      have hfollows : Follows (scripted interval shared?) r u := hcase.follows
      rcases dispatchSafely_cases interval shared? i u with ⟨s', hs', -⟩ | ⟨g, s', hs', hg⟩
      · rw [hdispatch] at hs'
        cases hs'
      · obtain ⟨rfl, rfl⟩ := EStateM.Result.error.inj (hdispatch.symm.trans hs')
        rcases hg with hdemand | hescape
        · exact hfollows.excuses (.inl hdemand)
        · exact .inr (.inr ⟨i, hcase.expects (Slot.eq_item_of_passed hsome), .inl hescape⟩)
  | accrualFailed hturn haccrual =>
    cases haccrual with
    | accrualFailed hdue haccrue =>
      obtain ⟨s', hs', -⟩ := accrueSafely_recorded interval shared?
        (after (now (scripted interval shared?)) _)
      rw [haccrue] at hs'
      cases hs'

/-- Rounds fail only if there is an excuse from the beginning. -/
theorem excuses_of_rounds {fuel : Nat} {f : Failure}
    (h : rounds (scripted interval shared?) (wait (scripted interval shared?)) fuel due r =
      .error f s) : Excuses r f := by
  induction fuel generalizing due r with
  | zero => cases h
  | succ fuel ih =>
    have hround := roundCase (scripted interval shared?) (wait (scripted interval shared?)) due r
    cases hrun : round (scripted interval shared?) (wait (scripted interval shared?)) due r with
    | error g u =>
      rw [hrun] at hround
      rw [rounds_of_error hrun] at h
      injection h with hfailure _
      exact hfailure ▸ hround.excuses
    | ok next? u =>
      cases next? with
      | none =>
        rw [rounds_of_none hrun] at h
        cases h
      | some due' =>
        rw [hrun] at hround
        rw [rounds_of_some hrun] at h
        exact hround.follows.excuses (ih h)

/-- **A run fails only if there is an excuse.** -/
theorem excuses_of_run {fuel : Nat} {f : Failure}
    (h : run (scripted interval shared?) (wait (scripted interval shared?)) fuel r = .error f s) :
    Excuses r f := by
  rw [run_eq_rounds] at h
  cases hrounds : rounds (scripted interval shared?) (wait (scripted interval shared?)) fuel
      (firstDue (scripted interval shared?) r) (begun (scripted interval shared?) r) with
  | ok finished u =>
    rw [hrounds] at h
    cases finished <;> cases h
  | error g u =>
    rw [hrounds] at h
    injection h with hfailure _
    exact hfailure ▸ excuses_of_rounds (r := begun (scripted interval shared?) r) hrounds

/-- If the first round fails, then so does the run. -/
theorem run_of_round_error {env : Environment Rat (Stage Rat)} {f : Failure}
    (h : round env (wait env) (firstDue env r) (begun env r) = .error f s) (fuel : Nat) :
    run env (wait env) (fuel + 1) r = .error f s := by
  rw [run_eq_rounds, rounds_of_error h]

/-! ## Whole runs -/

/-- **A run ends within twice its workload.** -/
theorem run_ne_false (hinterval : 0 < interval) {fuel : Nat}
    (hfuel : 2 * workload interval r < fuel) :
    run (scripted interval shared?) (wait (scripted interval shared?)) fuel r ≠ .ok false s := by
  intro h
  obtain ⟨u, hrounds, -⟩ := rounds_of_run h
  have hbegun : potential interval (firstDue (scripted interval shared?) r)
      (begun (scripted interval shared?) r) = 2 * workload interval r := by
    have hwhole : firstDue (scripted interval shared?) r =
        (begun (scripted interval shared?) r).world.clock + interval := rfl
    rw [potential, if_pos hwhole]
    rfl
  refine rounds_ne_false hinterval ?_ (hbegun ▸ hfuel) hrounds
  exact lt_add_of_pos_right _ hinterval

/-- What is known of a rehearsal that ended. -/
theorem ended_of_run {fuel : Nat}
    (h : run (scripted interval shared?) (wait (scripted interval shared?)) fuel r = .ok true s)
    (hr : Marked (scripted interval shared?) r) :
    let ms := moments (scripted interval shared?) (wait (scripted interval shared?)) fuel r
    s.world.stopped = true ∧
      ms.filterMap (·.deed.dispatched?) ++ agenda (scripted interval shared?) s =
        agenda (scripted interval shared?) r ∧
      (Undisturbed r ms → s.world.arrivals = [] ∧ s.queue.slots = []) := by
  intro ms
  obtain ⟨u, hrounds, hs⟩ := rounds_of_run h
  obtain ⟨due, hcase⟩ := exists_roundsCase hrounds
  -- The first notice and the last one are all that a run adds to its rounds.
  have hqueue : s.queue = u.queue := by rw [hs]; rfl
  have harrivals : s.world.arrivals = u.world.arrivals := by rw [hs]; rfl
  have hstopped : s.world.stopped = u.world.stopped := by rw [hs]; rfl
  have hbegun : Marked (scripted interval shared?) (begun (scripted interval shared?) r) := hr
  rw [agenda_congr hqueue harrivals, harrivals, hqueue, hstopped]
  refine ⟨hcase.stopped_rehearsal hbegun, ?_, fun hms => hcase.closed hbegun ⟨?_, hms.2⟩⟩
  · rw [← agenda_congr (r := r) (s := begun (scripted interval shared?) r) rfl rfl]
    exact hcase.agenda_eq
  · exact ⟨hms.1.stopped, hms.1.arrivals⟩

end Reader

open Reader Rehearsal

/-- **The loop ends in virtual time.**  Let a rehearsal begin with any registry, queue and stage,
with any arrivals and any scripts, and with the marker on the queue only if a stop was requested.
Then it takes no more rounds than twice the workload and one, and in one of these ways it ends:

* The loop comes to its end, and a stop was requested.  The account of the run is complete: what was
  dispatched, followed by what was not reached, is what was on the queue, and what an empty queue
  accepts of each arrival.  If nobody requested a stop before all arrivals were taken, then they
  were taken, and all of it was dispatched.
* It fails, because a script demands the end of the process, because the sink refuses to count an
  item for which a queue with a limit has no room, or because an item cannot be described. -/
theorem rehearsal_ends (interval : Rat) (hinterval : 0 < interval) (shared? : Option Bool)
    (r : Reader Rat (Stage Rat)) (hr : Marked (scripted interval shared?) r) (fuel : Nat)
    (hfuel : 2 * workload interval r < fuel) :
    let env := Stage.environment interval (shared?.map Stage.logs)
    let ms := moments env (wait env) fuel r
    (∃ s, run env (wait env) fuel r = .ok true s ∧ s.world.stopped = true ∧
      (∃ due u, Leads env (wait env) (firstDue env r) (begun env r) ms due u ∧
        s = after (note env .loopStopped) u) ∧
      ms.filterMap (·.deed.dispatched?) ++ agenda env s = agenda env r ∧
      (Undisturbed r ms → s.world.arrivals = [] ∧ s.queue.slots = [] ∧
        ms.filterMap (·.deed.dispatched?) = agenda env r)) ∨
    ∃ f s, run env (wait env) fuel r = .error f s ∧
      ((f.isOrdinary = false ∧ ∃ script ∈ r.world.scripts, script.Raises f) ∨
        (.eventsDropped ∈ r.world.failing ∧ 0 < r.queue.limit) ∨
        ∃ i, (.item i ∈ r.queue.slots ∨ ∃ a ∈ r.world.arrivals, i ∈ a.items) ∧
          (i.escape? = some f ∨ i.describe = .error f)) := by
  intro env ms
  cases hrun : run env (wait env) fuel r with
  | error f s => exact .inr ⟨f, s, rfl, excuses_of_run hrun⟩
  | ok finished s =>
    left
    cases finished with
    | false => exact absurd hrun (run_ne_false hinterval hfuel)
    | true =>
      obtain ⟨hstopped, hagenda, hclosed⟩ := ended_of_run hrun hr
      refine ⟨s, rfl, hstopped, leads_of_run hrun, hagenda, fun hms => ?_⟩
      obtain ⟨harrivals, hslots⟩ := hclosed hms
      have hnone : agenda env s = [] := by
        rw [agenda_eq, EventQueue.pending, harrivals, hslots]
        rfl
      rw [hnone, List.append_nil] at hagenda
      exact ⟨harrivals, hslots, hagenda⟩

/-- A queue with room for two items.  Of the first arrival the third item is dropped, and to read
its log takes nineteen seconds, in which three accruals fall due; the second one comes after another
wait for nothing. -/
theorem rehearsal_ends_slow_log :
    let event := fun action id => Item.event (.plain action id)
    let script : LogScript Rat := ⟨some 12, none, none, none, [.line [], .advance 7]⟩
    let arrivals : List (Arrival Rat) :=
      [⟨3, [event Action.inProgress 1, .other .null, event Action.queued 2], false⟩,
        ⟨11, [event Action.queued 3], false⟩]
    let stage : Stage Rat :=
      { clock := 0, scripts := [script], arrivals := arrivals, store := ⟨[]⟩ }
    let r : Reader Rat (Stage Rat) := ⟨{}, ⟨2, []⟩, stage⟩
    let env := Stage.environment 5 ((some true).map Stage.logs)
    let ms := moments env (wait env) 23 r
    (0 : Rat) < 5 ∧ Marked env r ∧ 2 * workload 5 r < 23 ∧ Undisturbed r ms ∧
      ∃ s, run env (wait env) 23 r = .ok true s ∧ s.world.stopped = true ∧
        (∃ due u, Leads env (wait env) (firstDue env r) (begun env r) ms due u ∧
          s = after (note env .loopStopped) u) ∧
        s.world.arrivals = [] ∧ s.queue.slots = [] ∧
        (ms.filterMap (·.deed.dispatched?)).map Item.describe =
          [.ok (text "in_progress job_id=1"), .ok (text "queued job_id=3")] := by
  intro event script arrivals stage r env ms
  have hinterval : (0 : Rat) < 5 := by decide +kernel
  have hr : Marked env r := fun hmarker => nomatch hmarker
  have hfuel : 2 * workload 5 r < 23 := by decide +kernel
  have hquiet : ∀ m ∈ ms, m.deed.isDispatch = true → m.after.world.stopped = false := by
    have hall : (ms.all fun m => !m.deed.isDispatch || !m.after.world.stopped) = true := by
      decide +kernel
    intro m hm hdispatch
    have hm := List.all_eq_true.1 hall m hm
    rw [hdispatch] at hm
    simpa using hm
  have hms : Undisturbed r ms := ⟨⟨rfl, by simp [r, stage, arrivals]⟩, hquiet⟩
  have hended : (match run env (wait env) 23 r with
      | .ok finished _ => finished
      | .error _ _ => false) = true := by decide +kernel
  have hagenda : (agenda env r).map Item.describe =
      [.ok (text "in_progress job_id=1"), .ok (text "queued job_id=3")] := rfl
  rcases rehearsal_ends 5 hinterval (some true) r hr 23 hfuel with
    ⟨s, hrun, hstopped, hleads, -, hclosed⟩ | ⟨f, s, hrun, -⟩
  · obtain ⟨harrivals, hslots, hdispatched⟩ := hclosed hms
    exact ⟨hinterval, hr, hfuel, hms, s, hrun, hstopped, hleads, harrivals, hslots,
      (congrArg (List.map Item.describe) hdispatched).trans hagenda⟩
  · rw [hrun] at hended
    cases hended

/-- Four rehearsals that end with no stop requested: a script demands the end of the process, the
sink refuses to count the second of two items where there is room for one, nothing can be learned of
an object that is gone, and the marker is on the queue from the beginning. -/
theorem rehearsal_ends_unstopped :
    let env := Stage.environment 5 ((some true).map Stage.logs)
    let event := fun action id => Item.event (.plain action id)
    let script : LogScript Rat := ⟨none, some ⟨.exit "SystemExit", [], none⟩, none, none, []⟩
    let demanded : Reader Rat (Stage Rat) := ⟨{}, ⟨0, [.item (event Action.inProgress 1)]⟩,
      { clock := 1000, scripts := [script], store := ⟨[]⟩ }⟩
    let refused : Reader Rat (Stage Rat) := ⟨{}, ⟨1, []⟩,
      { clock := 1000, failing := [.eventsDropped], store := ⟨[]⟩, arrivals :=
        [⟨1, [event Action.queued 1, event Action.queued 2], false⟩] }⟩
    let dead := Failure.of (.foreign "ReferenceError") "weakly-referenced object no longer exists"
    let gone : Reader Rat (Stage Rat) := ⟨{}, ⟨0, [.item (.object ⟨.error dead, .error dead⟩)]⟩,
      { clock := 1000, store := ⟨[]⟩ }⟩
    let unmarked : Reader Rat (Stage Rat) := ⟨{}, ⟨0, [.stop]⟩, { clock := 1000, store := ⟨[]⟩ }⟩
    (∀ r, r = demanded ∨ r = refused ∨ r = gone → Marked env r ∧
      ∀ fuel, ∃ f s, run env (wait env) (fuel + 1) r = .error f s ∧ s.world.stopped = false) ∧
    ∀ fuel, ∃ s, run env (wait env) (fuel + 1) unmarked = .ok true s ∧ s.world.stopped = false := by
  intro env event script demanded refused dead gone unmarked
  have hfails : ∀ r, (match round env (wait env) (firstDue env r) (begun env r) with
      | .ok _ _ => false
      | .error _ s => !s.world.stopped) = true →
      ∀ fuel, ∃ f s, run env (wait env) (fuel + 1) r = .error f s ∧ s.world.stopped = false := by
    intro r h fuel
    cases hround : round env (wait env) (firstDue env r) (begun env r) with
    | ok next? s =>
      rw [hround] at h
      cases h
    | error f s =>
      rw [hround] at h
      exact ⟨f, s, run_of_round_error hround fuel, by simpa using h⟩
  have hdemanded : Marked env demanded := by
    intro hmarker
    simp [demanded, event] at hmarker
  have hrefused : Marked env refused := by
    intro hmarker
    simp [refused] at hmarker
  have hgone : Marked env gone := by
    intro hmarker
    simp [gone] at hmarker
  refine ⟨?_, fun fuel => ⟨_, rfl, rfl⟩⟩
  rintro r (rfl | rfl | rfl)
  · exact ⟨hdemanded, hfails demanded (by decide +kernel)⟩
  · exact ⟨hrefused, hfails refused (by decide +kernel)⟩
  · exact ⟨hgone, hfails gone (by decide +kernel)⟩

end JobMeter
