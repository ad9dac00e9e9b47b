import JobMeter.Proofs.Dispatch.Ordinary
import JobMeter.Proofs.Loop.Stopping

/-!
# What the loop survives

Whatever fails while the loop dispatches an item or accrues, the loop goes on as if nothing had
failed: its schedule does not depend on failures.

* `Meanwhile`, `Serves` — while the loop waits others submit items and ask for a stop, and then it
  takes the first slot off the queue.
* `Marked` — the marker is on the queue only if a stop was requested.
* `owed?` — what the loop owes after a moment: the dispatch of what it took, or an accrual that is
  due.  It does it at once (`RoundsCase.prompt`).
* `run_survives` — **nothing escapes the loop** but the failure of an object that can neither be
  processed nor described.  For such an object there is no help (`run_survives_gone`).
-/

namespace JobMeter

namespace Deed

/-- What the deed takes off the queue and does not pass over. -/
def passed? : Deed → Option Item
  | wait slot? => slot?.bind Slot.passed?
  | dispatch _ | accrue => none

/-- What the deed dispatches. -/
def dispatched? : Deed → Option Item
  | dispatch i => some i
  | wait _ | accrue => none

end Deed

namespace Reader

variable {τ ω : Type} [Quantity τ]

/-! ## Waiting -/

/-- What others do to a reader: they submit items, they ask it to stop, and they change its world
without taking such a request back. -/
inductive Meanwhile (env : Environment τ ω) (r : Reader τ ω) : Reader τ ω → Prop where
  | refl : Meanwhile env r r
  | submit {s : Reader τ ω} (h : Meanwhile env r s) (i : Item) :
      Meanwhile env r (after (submit env i) s)
  | stop {s : Reader τ ω} (h : Meanwhile env r s) : Meanwhile env r (after (stop env) s)
  | world {s : Reader τ ω} (h : Meanwhile env r s) (w : ω)
      (hw : env.stopped s.world = true → env.stopped w = true) :
      Meanwhile env r { s with world := w }

/-- While the loop waits others may do something, and then it takes the first slot off the queue.
What others submit while the loop is busy comes no earlier to it than what they submit when it waits
next, so it is counted there. -/
def Serves (env : Environment τ ω) (wait : Wait τ ω) : Prop :=
  ∀ t r, ∃ s, Meanwhile env r s ∧ wait t r = take s

/-- The marker is on the queue only if a stop was requested. -/
def Marked (env : Environment τ ω) (r : Reader τ ω) : Prop :=
  Slot.stop ∈ r.queue.slots → env.stopped r.world = true

variable {env : Environment τ ω} {wait : Wait τ ω} {due due' : τ} {r s : Reader τ ω}

omit [Quantity τ] in
theorem exists_slots_of_put? (q : EventQueue) (slot : Slot) :
    ∃ more, ((q.put? slot).getD q).slots = q.slots ++ more ∧ ∀ x ∈ more, x = slot := by
  cases hput : q.put? slot with
  | none => exact ⟨[], by simp⟩
  | some q' =>
    obtain ⟨-, rfl⟩ := EventQueue.put?_eq_some.1 hput
    exact ⟨[slot], rfl, by simp⟩

/-- What others do leaves the queue as it is, up to new slots at its end. -/
theorem Meanwhile.slots (h : Meanwhile env r s) :
    ∃ more, s.queue.slots = r.queue.slots ++ more := by
  have put : ∀ (u : Reader τ ω) (slot : Slot), (∃ more, u.queue.slots = r.queue.slots ++ more) →
      ∃ more, ((u.queue.put? slot).getD u.queue).slots = r.queue.slots ++ more := by
    rintro u slot ⟨more, hmore⟩
    obtain ⟨new, hnew, -⟩ := exists_slots_of_put? u.queue slot
    exact ⟨more ++ new, by rw [hnew, hmore, List.append_assoc]⟩
  induction h with
  | refl => exact ⟨[], (List.append_nil _).symm⟩
  | @submit u h i ih =>
    rw [queue_submit]
    exact put u _ ih
  | @stop u h ih =>
    rw [queue_stop]
    exact put u _ ih
  | world h w hw ih => exact ih

theorem Meanwhile.marked (hstays : NeverResumes env)
    (hrequest : ∀ w, env.stopped (env.requestStop w) = true) (h : Meanwhile env r s)
    (hr : Marked env r) : Marked env s := by
  induction h with
  | refl => exact hr
  | @submit u h i ih =>
    intro hmarker
    refine hstays.submit i u (ih ?_)
    obtain ⟨more, hmore, hall⟩ := exists_slots_of_put? u.queue (.item i)
    rw [queue_submit, hmore, List.mem_append] at hmarker
    exact hmarker.resolve_right fun hmem => nomatch hall _ hmem
  | @stop u h ih =>
    intro _
    obtain ⟨q, hstop⟩ := exists_stop_eq env u
    rw [after_of_ok hstop]
    exact hrequest u.world
  | world h w hw ih => exact fun hmarker => hw (ih hmarker)

omit [Quantity τ] in
theorem Marked.of_queue_eq (hr : Marked env r) (hqueue : s.queue = r.queue)
    (hstays : StopStays env r s) : Marked env s := by
  intro hmarker
  rw [hqueue] at hmarker
  exact hstays (hr hmarker)

/-- No step of a reader puts the marker on the queue. -/
theorem NeverResumes.steps_marked (h : NeverResumes env) :
    Steps env fun r s => Marked env r → Marked env s where
  refl _ := id
  trans _ _ _ hrs hst hr := hst (hrs hr)
  tick r hr := hr.of_queue_eq ((steps_queue env).tick r) (h.tick r)
  note n r hr := hr.of_queue_eq ((steps_queue env).note n r) (h.note n r)
  increase m labels x r hr :=
    hr.of_queue_eq ((steps_queue env).increase m labels x r) (h.increase m labels x r)
  observe m labels x r hr :=
    hr.of_queue_eq ((steps_queue env).observe m labels x r) (h.observe m labels x r)
  fetch fetch hfetch job r hr :=
    hr.of_queue_eq ((steps_queue env).fetch fetch hfetch job r) (h.fetch fetch hfetch job r)
  register e r hr := hr.of_queue_eq ((steps_queue env).register e r) (h.steps.register e r)
  deregister e r hr := hr.of_queue_eq ((steps_queue env).deregister e r) (h.steps.deregister e r)

namespace Serves

theorem exists_ok (h : Serves env wait) (t : τ) (r : Reader τ ω) :
    ∃ slot? s, wait t r = .ok slot? s := by
  obtain ⟨u, -, hu⟩ := h t r
  rw [hu, take_apply]
  cases u.queue.slots with
  | nil => exact ⟨_, _, rfl⟩
  | cons slot slots => exact ⟨_, _, rfl⟩

/-- What a wait gives, it took off the queue of the reader that others left. -/
theorem exists_meanwhile (h : Serves env wait) {t : τ} {slot? : Option Slot}
    (hwait : wait t r = .ok slot? s) : ∃ u, Meanwhile env r u ∧ s.world = u.world ∧
      slot? = u.queue.slots.head? ∧ s.queue.slots = u.queue.slots.tail := by
  obtain ⟨u, hu, htake⟩ := h t r
  refine ⟨u, hu, ?_⟩
  rw [htake, take_apply] at hwait
  cases hslots : u.queue.slots with
  | nil =>
    rw [hslots] at hwait
    injection hwait with hslot hs
    subst hslot hs
    exact ⟨rfl, rfl, hslots⟩
  | cons slot slots =>
    rw [hslots] at hwait
    injection hwait with hslot hs
    subst hslot hs
    exact ⟨rfl, rfl, rfl⟩

/-- A wait takes the first slot that is on the queue. -/
theorem eq_some_of_slots (h : Serves env wait) {t : τ} {slot? : Option Slot}
    (hwait : wait t r = .ok slot? s) {slot : Slot} {slots : List Slot}
    (hslots : r.queue.slots = slot :: slots) : slot? = some slot := by
  obtain ⟨u, hu, -, hslot, -⟩ := h.exists_meanwhile hwait
  obtain ⟨more, hmore⟩ := hu.slots
  rw [hslot, hmore, hslots]
  rfl

theorem marked (h : Serves env wait) (hstays : NeverResumes env)
    (hrequest : ∀ w, env.stopped (env.requestStop w) = true) {t : τ} {slot? : Option Slot}
    (hwait : wait t r = .ok slot? s) (hr : Marked env r) :
    Marked env s ∧ (Slot.isMarker? slot? = true → env.stopped s.world = true) := by
  obtain ⟨u, hu, hworld, hslot, hslots⟩ := h.exists_meanwhile hwait
  have hmarked := hu.marked hstays hrequest hr
  rw [Marked] at hmarked ⊢
  rw [hworld, hslots]
  refine ⟨fun hmarker => hmarked (List.mem_of_mem_tail hmarker), fun hmarker => hmarked ?_⟩
  have hstop : slot? = some .stop := by
    rcases slot? with _ | ⟨i⟩ | _
    · cases hmarker
    · cases hmarker
    · rfl
  exact List.mem_of_head? (hslot.symm.trans hstop)

end Serves

/-! ## What may fail in a run -/

section

variable {ms ms' : List (Moment τ ω)}

/-- A turn fails only if the item that it took lets something escape. -/
theorem TurnCase.escaped (hserves : Serves env wait) (hfails : FailsOrdinarily env) {f : Failure}
    (h : TurnCase env wait due r ms (.error f s)) :
    ∃ slot? i, waitIn env wait due r = .ok slot? s ∧ slot?.bind Slot.passed? = some i ∧
      i.escape? = some f ∧
      ms = [⟨.wait slot?, due, after (now env) r, s⟩, ⟨.dispatch i, due, s, s⟩] := by
  cases h with
  | waitFailed hgoes hwait =>
    obtain ⟨slot?, u, hok⟩ := hserves.exists_ok _ (after (now env) r)
    rw [waitIn, hok] at hwait
    cases hwait
  | dispatchFailed hgoes hwait hsome hdispatch =>
    obtain ⟨hescape, rfl⟩ := hfails.escape?_of_error hdispatch
    exact ⟨_, _, hwait, hsome, hescape, rfl⟩

theorem RoundCase.escaped (hserves : Serves env wait) (hfails : FailsOrdinarily env) {f : Failure}
    (h : RoundCase env wait due r ms (.error f s)) :
    ∃ slot? i, waitIn env wait due r = .ok slot? s ∧ slot?.bind Slot.passed? = some i ∧
      i.escape? = some f ∧
      ms = [⟨.wait slot?, due, after (now env) r, s⟩, ⟨.dispatch i, due, s, s⟩] := by
  cases h with
  | turnFailed hturn => exact hturn.escaped hserves hfails
  | accrualFailed hturn haccrual =>
    cases haccrual with
    | accrualFailed hdue haccrue =>
      rw [hfails.accrueSafely_eq] at haccrue
      cases haccrue

/-! ## The end of a run -/

theorem TurnCase.marked (hserves : Serves env wait) (hstays : NeverResumes env)
    (hrequest : ∀ w, env.stopped (env.requestStop w) = true) {goes : Bool}
    (h : TurnCase env wait due r ms (.ok goes s)) (hr : Marked env r) :
    Marked env s ∧ (goes = false → env.stopped s.world = true) := by
  have hlooked : Marked env (after (now env) r) := hstays.steps_marked.now r hr
  cases h with
  | stopped hstop => exact ⟨hr, fun _ => hstop⟩
  | ended hgoes hwait =>
    obtain ⟨hs, hmarker⟩ := hserves.marked hstays hrequest hwait hlooked
    exact ⟨hs, fun _ => hmarker rfl⟩
  | passedOver hgoes hwait =>
    exact ⟨(hserves.marked hstays hrequest hwait hlooked).1, fun hlast => nomatch hlast⟩
  | dispatched hgoes hwait hsome hdispatch =>
    obtain ⟨hu, -⟩ := hserves.marked hstays hrequest hwait hlooked
    have hdispatched := after_of_ok hdispatch ▸ hstays.steps_marked.dispatchSafely _ _
    exact ⟨hdispatched hu, fun hlast => nomatch hlast⟩

/-- **The loop comes to its end only when a stop was requested.**  This is so because no round puts
the marker on the queue, and those who do request a stop. -/
theorem RoundsCase.stopped (hserves : Serves env wait) (hstays : NeverResumes env)
    (hrequest : ∀ w, env.stopped (env.requestStop w) = true) {fuel : Nat}
    (h : RoundsCase env wait fuel due r ms true due' s) (hr : Marked env r) :
    env.stopped s.world = true := by
  generalize hfinished : true = finished at h
  induction h with
  | outOfFuel => cases hfinished
  | last hround =>
    cases hround with
    | last hturn => exact (hturn.marked hserves hstays hrequest hr).2 rfl
  | goesOn hround hrest ih =>
    cases hround with
    | goesOn hturn haccrual =>
      have hturned := (hturn.marked hserves hstays hrequest hr).1
      exact ih (haccrual.keeps hstays.steps_marked hturned) hfinished

/-! ## The schedule -/

/-- What holds of the moments of each round, and of two lists taken together, holds of all. -/
theorem RoundsCase.induction {fuel : Nat} {finished : Bool}
    (h : RoundsCase env wait fuel due r ms finished due' s) (Q : List (Moment τ ω) → Prop)
    (hnil : Q []) (happend : ∀ ms ms', Q ms → Q ms' → Q (ms ++ ms'))
    (hround : ∀ {due r ms next? s}, RoundCase env wait due r ms (.ok next? s) → Q ms) : Q ms := by
  induction h with
  | outOfFuel => exact hnil
  | last hlast => exact hround hlast
  | goesOn hgoes hrest ih => exact happend _ _ (hround hgoes) ih

theorem TurnCase.countP_isWait (h : TurnCase env wait due r ms (.ok true s)) :
    ms.countP (·.deed.isWait) = 1 := by
  cases h <;> rfl

theorem AccrualCase.countP_isWait (h : AccrualCase env due r ms (.ok due' s)) :
    ms.countP (·.deed.isWait) = 0 := by
  cases h <;> rfl

/-- As long as the loop goes on, it waits once in each round. -/
theorem RoundsCase.countP_isWait {fuel : Nat}
    (h : RoundsCase env wait fuel due r ms false due' s) :
    ms.countP (·.deed.isWait) = fuel := by
  generalize hfinished : false = finished at h
  induction h with
  | outOfFuel => rfl
  | last => cases hfinished
  | goesOn hround hrest ih =>
    cases hround with
    | goesOn hturn haccrual =>
      rw [List.countP_append, List.countP_append, hturn.countP_isWait, haccrual.countP_isWait,
        ih hfinished, Nat.add_zero, Nat.add_comm]

theorem TurnCase.dispatched_eq {goes : Bool} (h : TurnCase env wait due r ms (.ok goes s)) :
    ms.filterMap (·.deed.dispatched?) = ms.filterMap (·.deed.passed?) := by
  cases h with
  | stopped => rfl
  | ended => rfl
  | passedOver hgoes hwait hnone => simp [Deed.dispatched?, Deed.passed?, hnone]
  | dispatched hgoes hwait hsome hdispatch => simp [Deed.dispatched?, Deed.passed?, hsome]

theorem RoundCase.dispatched_eq {next? : Option τ}
    (h : RoundCase env wait due r ms (.ok next? s)) :
    ms.filterMap (·.deed.dispatched?) = ms.filterMap (·.deed.passed?) := by
  cases h with
  | last hturn => exact hturn.dispatched_eq
  | goesOn hturn haccrual =>
    rw [List.filterMap_append, List.filterMap_append, hturn.dispatched_eq]
    cases haccrual <;> rfl

/-- **Each item is dispatched exactly once**, and in the order in which it was taken. -/
theorem RoundsCase.dispatched_eq {fuel : Nat} {finished : Bool}
    (h : RoundsCase env wait fuel due r ms finished due' s) :
    ms.filterMap (·.deed.dispatched?) = ms.filterMap (·.deed.passed?) := by
  refine h.induction (fun ms => ms.filterMap (·.deed.dispatched?) =
    ms.filterMap (·.deed.passed?)) rfl (fun ms ms' h h' => ?_) RoundCase.dispatched_eq
  rw [List.filterMap_append, List.filterMap_append, h, h']

/-- The accrual that the loop owes if one is due. -/
def owedAccrual? (env : Environment τ ω) (due : τ) (r : Reader τ ω) :
    Option (Deed × Reader τ ω) :=
  let s := after (now env) r
  if Quantity.le due (env.now s.world) then some (.accrue, s) else none

/-- What the loop owes after a moment, and the reader that it has to begin it with: the dispatch of
what it took, or else an accrual if one is due. -/
def owed? (env : Environment τ ω) (m : Moment τ ω) : Option (Deed × Reader τ ω) :=
  match m.deed with
  | .wait slot? =>
    match slot?.bind Slot.passed? with
    | some i => some (.dispatch i, m.after)
    | none => if Slot.isMarker? slot? then none else owedAccrual? env m.due m.after
  | .dispatch _ => owedAccrual? env m.due m.after
  | .accrue => none

/-- What the loop owes after a moment is the next thing that it does. -/
def Prompt (env : Environment τ ω) (ms : List (Moment τ ω)) : Prop :=
  ∀ k m deed r, ms[k]? = some m → owed? env m = some (deed, r) →
    ∃ s, ms[k + 1]? = some ⟨deed, m.due, r, s⟩

namespace Prompt

theorem nil : Prompt env [] := by
  intro k m deed r hm
  simp at hm

theorem cons_iff {m : Moment τ ω} : Prompt env (m :: ms) ↔
    (∀ deed r, owed? env m = some (deed, r) → ∃ s, ms.head? = some ⟨deed, m.due, r, s⟩) ∧
      Prompt env ms := by
  constructor
  · intro h
    refine ⟨fun deed r howed => ?_, fun k m' deed r hm' => h (k + 1) m' deed r hm'⟩
    rw [List.head?_eq_getElem?]
    exact h 0 m deed r rfl howed
  · rintro ⟨hfirst, hrest⟩ k m' deed r hm' howed
    cases k with
    | zero =>
      obtain rfl := Option.some.inj hm'
      have hnext := hfirst deed r howed
      rw [List.head?_eq_getElem?] at hnext
      exact hnext
    | succ k => exact hrest k m' deed r hm' howed

theorem append (h : Prompt env ms) (h' : Prompt env ms') : Prompt env (ms ++ ms') := by
  induction ms with
  | nil => exact h'
  | cons m ms ih =>
    obtain ⟨hfirst, hrest⟩ := cons_iff.1 h
    refine cons_iff.2 ⟨fun deed r howed => ?_, ih hrest⟩
    obtain ⟨s, hs⟩ := hfirst deed r howed
    refine ⟨s, ?_⟩
    show (ms ++ ms').head? = _
    rw [List.head?_append, hs, Option.some_or]

/-- A moment with what is owed after it. -/
theorem cons {m : Moment τ ω} {deed : Deed} {u v : Reader τ ω}
    (h : owed? env m = some (deed, u)) (hrest : Prompt env (⟨deed, m.due, u, v⟩ :: ms)) :
    Prompt env (m :: ⟨deed, m.due, u, v⟩ :: ms) := by
  refine cons_iff.2 ⟨fun deed' r howed => ?_, hrest⟩
  rw [h] at howed
  obtain ⟨rfl, rfl⟩ := Prod.mk.inj (Option.some.inj howed)
  exact ⟨v, rfl⟩

/-- A moment is added, and what is owed after it. -/
theorem getElem?_append {m : Moment τ ω} {deed : Deed} {u v : Reader τ ω} (h : Prompt env ms)
    (howed : owed? env m = some (deed, u)) {k : Nat} {m' : Moment τ ω} {deed' : Deed}
    {u' : Reader τ ω} (hm : (ms ++ [m])[k]? = some m') (howed' : owed? env m' = some (deed', u')) :
    ∃ v', (ms ++ [m, ⟨deed, m.due, u, v⟩])[k + 1]? = some ⟨deed', m'.due, u', v'⟩ := by
  rcases Nat.lt_or_ge k ms.length with hlt | hge
  · rw [List.getElem?_append_left hlt] at hm
    obtain ⟨v', hv'⟩ := h k m' deed' u' hm howed'
    exact ⟨v', by rw [List.getElem?_append_left (List.getElem?_eq_some_iff.1 hv').1, hv']⟩
  · rw [List.getElem?_append_right hge] at hm
    obtain ⟨hlast, rfl⟩ : k - ms.length = 0 ∧ m = m' := by
      cases hk : k - ms.length with
      | zero => exact ⟨rfl, by simpa [hk] using hm⟩
      | succ j => simp [hk] at hm
    obtain ⟨rfl, rfl⟩ := Prod.mk.inj (Option.some.inj (howed.symm.trans howed'))
    have hnext : k + 1 - ms.length = 1 := by omega
    exact ⟨v, by rw [List.getElem?_append_right (Nat.le_succ_of_le hge), hnext]; rfl⟩

/-- A moment after which nothing is owed. -/
theorem singleton {m : Moment τ ω} (h : owed? env m = none) : Prompt env [m] := by
  refine cons_iff.2 ⟨fun deed r howed => ?_, nil⟩
  rw [h] at howed
  cases howed

end Prompt

theorem owedAccrual?_of_due (h : Quantity.le due (env.now (after (now env) r).world) = true) :
    owedAccrual? env due r = some (.accrue, after (now env) r) := if_pos h

theorem owedAccrual?_of_not_due
    (h : Quantity.le due (env.now (after (now env) r).world) = false) :
    owedAccrual? env due r = none := if_neg (by simp [h])

/-- The second part of a round begins with the accrual that is owed. -/
theorem AccrualCase.prompt_cons {m : Moment τ ω}
    (h : AccrualCase env m.due m.after ms (.ok due' s))
    (howed : owed? env m = owedAccrual? env m.due m.after) : Prompt env (m :: ms) := by
  cases h with
  | notDue hdue =>
    rw [owedAccrual?_of_not_due hdue] at howed
    exact .singleton howed
  | accrued hdue haccrue =>
    rw [owedAccrual?_of_due hdue] at howed
    exact .cons howed (.singleton rfl)

theorem RoundCase.prompt {next? : Option τ} (h : RoundCase env wait due r ms (.ok next? s)) :
    Prompt env ms := by
  cases h with
  | last hturn =>
    cases hturn with
    | stopped => exact .nil
    | ended => exact .singleton rfl
  | goesOn hturn haccrual =>
    cases hturn with
    | passedOver hgoes hwait hnone hmarker =>
      refine haccrual.prompt_cons ?_
      simp only [owed?, hnone, hmarker]
      rfl
    | dispatched hgoes hwait hsome hdispatch =>
      exact .cons (by simp only [owed?, hsome]) (haccrual.prompt_cons rfl)

/-- **What the loop owes is the next thing that it does.** -/
theorem RoundsCase.prompt {fuel : Nat} {finished : Bool}
    (h : RoundsCase env wait fuel due r ms finished due' s) : Prompt env ms :=
  h.induction (Prompt env) .nil (fun _ _ => .append) RoundCase.prompt

end

end Reader

open Reader

/-! ## A rehearsal in which much fails -/

namespace Rehearsal

section

variable {τ : Type} [Quantity τ]

/-- A measurement fails ordinarily, if it does. -/
theorem actFailsAs_measure (m : Metric) (c : Call τ) :
    ActFailsAs FailureKind.Ordinary (Stage.measure m c) := by
  intro s f s' hf
  rcases Stage.measure_cases m c s with hok | ⟨g, hg, herror⟩
  · rw [hok] at hf
    cases hf
  · rw [herror] at hf
    injection hf with hfg
    rw [← hfg, hg]
    rfl

/-- A wait that takes a slot at once, and that asks for a stop before if there is none. -/
def waitUntilEmpty (env : Environment τ (Stage τ)) : Wait τ (Stage τ) := fun _ => do
  if (← get).queue.slots.isEmpty then Reader.stop env
  Reader.take

theorem serves_waitUntilEmpty (env : Environment τ (Stage τ)) :
    Serves env (waitUntilEmpty env) := by
  intro t r
  have hwait : waitUntilEmpty env t r =
      (if r.queue.slots.isEmpty then Reader.stop env >>= fun _ => Reader.take
        else Reader.take : Act τ (Stage τ) (Option Slot)) r := rfl
  by_cases hempty : r.queue.slots.isEmpty
  · obtain ⟨q, hstop⟩ := exists_stop_eq env r
    refine ⟨_, .stop .refl, ?_⟩
    rw [hwait, if_pos hempty, bind_apply, hstop, after_of_ok hstop]
  · exact ⟨r, .refl, by rw [hwait, if_neg hempty]⟩

theorem failsOrdinarily_unlogged (interval : τ) :
    FailsOrdinarily (Stage.environment interval none) where
  increase _ _ _ := actFailsAs_measure _ _
  observe _ _ _ := actFailsAs_measure _ _
  fetch _ hfetch := nomatch hfetch

theorem neverResumes_unlogged (interval : τ) : NeverResumes (Stage.environment interval none) where
  refl _ := id
  trans _ _ _ hrs hst hr := hst (hrs hr)
  tick _ := id
  note _ _ := id
  increase _ _ _ := keeps_measure rfl _ _
  observe _ _ _ := keeps_measure rfl _ _
  fetch _ hfetch := nomatch hfetch

end

/-- The surroundings of a rehearsal in which no log can be had.  Each look at the clock takes two
seconds. -/
def faultyEnvironment : Environment Rat (Stage Rat) :=
  { Stage.environment 5 none with
    tick := Stage.advance 2
    fetch? := some fun _ => throw ⟨.foreign "RuntimeError", [], none⟩ }

theorem failsOrdinarily_faulty : FailsOrdinarily faultyEnvironment where
  increase _ _ _ := actFailsAs_measure _ _
  observe _ _ _ := actFailsAs_measure _ _
  fetch fetch hfetch job := by
    obtain rfl := Option.some.inj hfetch
    exact .throw rfl

theorem neverResumes_faulty : NeverResumes faultyEnvironment where
  refl _ := id
  trans _ _ _ hrs hst hr := hst (hrs hr)
  tick _ := id
  note _ _ := id
  increase _ _ _ := keeps_measure rfl _ _
  observe _ _ _ := keeps_measure rfl _ _
  fetch fetch hfetch job := by
    obtain rfl := Option.some.inj hfetch
    exact fun _ => id

end Rehearsal

/-! ## What escapes -/

/-- **Nothing escapes the loop that it can tell of.**  Let the sink and the logs fail in any way and
at any time, except by a demand to end the process, and let others submit anything and ask for a
stop while the loop waits.  No request to stop is taken back, and the marker is on the queue only if
one was made.  However many rounds a run of the loop may take, it fails only at the dispatch of an
object that lets something escape, since it can neither be processed nor described.  If there is
none among the items that are dispatched, then

* the run comes to its end only when a stop was requested, and as long as it does not it makes one
  round after the other and waits once in each;
* the account of it is complete, and no deed in it failed.

In any case the account is complete up to such a dispatch, and

* a wait takes the first slot that is on the queue;
* each item that was taken is dispatched exactly once, but for nulls and the marker;
* what the loop owes after a deed that lets nothing escape, whatever failed in it, is the next thing
  that it does: the dispatch of what it took, and then an accrual if one is due. -/
theorem run_survives {τ ω : Type} [Quantity τ] (env : Environment τ ω) (wait : Wait τ ω)
    (hfails : FailsOrdinarily env) (hstays : NeverResumes env)
    (hrequest : ∀ w, env.stopped (env.requestStop w) = true) (hserves : Serves env wait)
    (r : Reader τ ω) (hr : Marked env r) (fuel : Nat) :
    let ms := moments env wait fuel r
    ∃ done due s, Leads env wait (firstDue env r) (begun env r) done due s ∧
      ((∃ finished, done = ms ∧
          run env wait fuel r =
            .ok finished (if finished then after (note env .loopStopped) s else s) ∧
          if finished then env.stopped s.world = true else ms.countP (·.deed.isWait) = fuel) ∨
        ∃ i f, i.escape? = some f ∧ ms = done ++ [⟨.dispatch i, due, s, s⟩] ∧
          run env wait fuel r = .error f s) ∧
      (∀ m ∈ ms, ∀ slot?, m.deed = .wait slot? → ∀ slot slots,
        m.before.queue.slots = slot :: slots → slot? = some slot) ∧
      ms.filterMap (·.deed.dispatched?) = ms.filterMap (·.deed.passed?) ∧
      ∀ k m deed u, done[k]? = some m → owed? env m = some (deed, u) →
        ∃ v, ms[k + 1]? = some ⟨deed, m.due, u, v⟩ := by
  intro ms
  have hbegun : Marked env (begun env r) :=
    hstays.steps_marked.now _ (hstays.steps_marked.note _ r hr)
  -- a wait of which the account tells takes the first slot
  have hfirst {done : List (Moment τ ω)} {due s}
      (hleads : Leads env wait (firstDue env r) (begun env r) done due s) {m} (hm : m ∈ done)
      {slot?} (hdeed : m.deed = .wait slot?) {slot slots}
      (hslots : m.before.queue.slots = slot :: slots) : slot? = some slot := by
    obtain ⟨t, hwait⟩ := hleads.wait_of_mem hm hdeed
    exact hserves.eq_some_of_slots hwait hslots
  cases hrounds : rounds env wait fuel (firstDue env r) (begun env r) with
  | ok finished s =>
    obtain ⟨due, hcase⟩ := exists_roundsCase hrounds
    refine ⟨ms, due, s, hcase.leads, .inl ⟨finished, rfl, ?_, ?_⟩,
      fun m hm slot? hdeed slot slots => hfirst hcase.leads hm hdeed, hcase.dispatched_eq,
      hcase.prompt⟩
    · rw [run_eq_rounds, hrounds]
      cases finished <;> rfl
    · cases finished with
      | true => exact hcase.stopped hserves hstays hrequest hbegun
      | false => exact hcase.countP_isWait
  | error f s =>
    obtain ⟨n, before, due, u, last, hbefore, hlast, hms⟩ := exists_roundsCase_of_error hrounds
    obtain ⟨slot?, i, hwait, hsome, hescape, rfl⟩ := hlast.escaped hserves hfails
    have hleads := hbefore.leads.append (.look (.wait hwait (.nil due s)))
    have hall : ms = (before ++ [⟨.wait slot?, due, after (now env) u, s⟩]) ++
        [⟨.dispatch i, due, s, s⟩] := by
      rw [List.append_assoc]
      exact hms
    refine ⟨_, due, s, hleads, .inr ⟨i, f, hescape, hall, ?_⟩, ?_, ?_, ?_⟩
    · rw [run_eq_rounds, hrounds]
    · intro m hm slot? hdeed slot slots
      rw [hall] at hm
      rcases List.mem_append.1 hm with hm | hm
      · exact hfirst hleads hm hdeed
      · obtain rfl := List.mem_singleton.1 hm
        cases hdeed
    · rw [show ms = _ from hms, List.filterMap_append, List.filterMap_append,
        hbefore.dispatched_eq]
      simp [Deed.dispatched?, Deed.passed?, hsome]
    · intro k m deed v hm howed
      rw [show ms = _ from hms]
      exact hbefore.prompt.getElem?_append (by simp only [owed?, hsome]) hm howed

/-- Neither the count of queued jobs nor that of the time in progress can be taken, nor is there a
log, and an object does not tell its type at first.  All items on the queue are dispatched
nevertheless, a null aside, and three accruals are made. -/
theorem run_survives_faults :
    let env := Rehearsal.faultyEnvironment
    let wait := Rehearsal.waitUntilEmpty env
    let event := fun action id => Slot.item (.event (.plain action id))
    let shy : Stranger := ⟨.error ⟨.foreign "RuntimeError", [], none⟩, .ok (text "Shy")⟩
    let stage : Rehearsal.Stage Rat :=
      { clock := 0, failing := [.jobsQueued, .inProgressDuration], store := ⟨[]⟩ }
    let queue : EventQueue := ⟨0, [event Action.queued 1, .item (.other .null),
      event Action.inProgress 2, .item (.object shy), event Action.queued 3]⟩
    let r : Reader Rat (Rehearsal.Stage Rat) := ⟨{}, queue, stage⟩
    let ms := moments env wait 6 r
    FailsOrdinarily env ∧ NeverResumes env ∧ (∀ w, env.stopped (env.requestStop w) = true) ∧
      Serves env wait ∧ Marked env r ∧
      (∃ s, run env wait 6 r = .ok true s) ∧
      ms.countP (·.deed.isDispatch) = 4 ∧ ms.countP (·.deed.isAccrual) = 3 ∧
      ms.filterMap (·.deed.dispatched?) = ms.filterMap (·.deed.passed?) ∧
      ∀ k m deed u, ms[k]? = some m → owed? env m = some (deed, u) →
        ∃ v, ms[k + 1]? = some ⟨deed, m.due, u, v⟩ := by
  intro env wait event shy stage queue r ms
  have hfails : FailsOrdinarily env := Rehearsal.failsOrdinarily_faulty
  have hstays : NeverResumes env := Rehearsal.neverResumes_faulty
  have hrequest : ∀ w, env.stopped (env.requestStop w) = true := fun _ => rfl
  have hserves : Serves env wait := Rehearsal.serves_waitUntilEmpty env
  have hr : Marked env r := by
    intro hmarker
    simp [r, queue, event] at hmarker
  have hended : (match run env wait 6 r with
      | .ok finished _ => finished
      | .error _ _ => false) = true := by decide +kernel
  obtain ⟨done, due, s, -, hcase, -, hdispatched, howed⟩ :=
    run_survives env wait hfails hstays hrequest hserves r hr 6
  rcases hcase with ⟨finished, rfl, hrun, -⟩ | ⟨i, f, -, -, hrun⟩
  · rw [hrun] at hended
    obtain rfl : finished = true := hended
    exact ⟨hfails, hstays, hrequest, hserves, hr, ⟨_, hrun⟩, by decide +kernel, by decide +kernel,
      hdispatched, howed⟩
  · rw [hrun] at hended
    cases hended

/-- **An object that is gone ends the loop.**  A reference to something that is no more fails
whenever it is asked for its type, so the handler fails like the dispatch.  The sink fails at
nothing and there are no logs; yet the run fails as soon as the object is taken, although no stop
was requested, and the event behind it stays on the queue. -/
theorem run_survives_gone :
    let env : Environment Rat _ := Rehearsal.Stage.environment 5 none
    let wait := Rehearsal.waitUntilEmpty env
    let dead := Failure.of (.foreign "ReferenceError") "weakly-referenced object no longer exists"
    let gone : Item := .object ⟨.error dead, .error dead⟩
    let event : Item := .event (.plain Action.queued 1)
    let stage : Rehearsal.Stage Rat := { clock := 0, store := ⟨[]⟩ }
    let r : Reader Rat (Rehearsal.Stage Rat) := ⟨{}, ⟨0, [.item gone, .item event]⟩, stage⟩
    FailsOrdinarily env ∧ NeverResumes env ∧ (∀ w, env.stopped (env.requestStop w) = true) ∧
      Serves env wait ∧ Marked env r ∧ env.stopped r.world = false ∧
      ∀ fuel, ∃ s, run env wait (fuel + 1) r = .error dead s ∧ env.stopped s.world = false ∧
        s.queue.size = 1 := by
  intro env wait dead gone event stage r
  have hr : Marked env r := by
    intro hmarker
    simp [r] at hmarker
  exact ⟨Rehearsal.failsOrdinarily_unlogged 5, Rehearsal.neverResumes_unlogged 5, fun _ => rfl,
    Rehearsal.serves_waitUntilEmpty env, hr, rfl, fun fuel => ⟨_, rfl, rfl, rfl⟩⟩

end JobMeter
