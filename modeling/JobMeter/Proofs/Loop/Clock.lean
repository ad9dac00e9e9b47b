import JobMeter.Proofs.Trial
import Mathlib.Algebra.Order.Ring.Rat
import Mathlib.Tactic.Linarith

/-!
# Time in the loop

The clock is part of the world, so it may move whenever the reader touches its world, even while
it looks at the clock.  Here time is counted in rational numbers.

* `NeverBack env` — the clock never goes back, whatever the reader does to its world.
* `Still env` — the clock does not move by what the reader does, so that it moves while the reader
  waits, if at all.
* `Patient env wait`, `Punctual env wait` — a wait leaves the registry alone and does not turn the
  clock back; it ends at the latest after its timeout.
* `Ages env r s` — from `r` to `s` time has not gone back, and each entry that is new in `s` started
  in between.  Every step of a reader keeps it (`steps_ages`).
* `Reachable env r` — the reader came about from a new one.  No entry of it starts in the future,
  and all have the standard labels (`Reachable.startTime_le`, `Reachable.map_fst_labels`).
-/

namespace JobMeter

namespace Reader

variable {ω : Type}

/-- What the clock of a reader shows. -/
def clock (env : Environment Rat ω) (r : Reader Rat ω) : Rat := env.now r.world

/-- The reader after a look at the clock. -/
def ticked (env : Environment Rat ω) (r : Reader Rat ω) : Reader Rat ω :=
  { r with world := env.tick r.world }

/-- The clock never goes back. -/
abbrev NeverBack (env : Environment Rat ω) : Prop :=
  Outer env fun r s => clock env r ≤ clock env s

/-- The clock moves only while the reader waits. -/
abbrev Still (env : Environment Rat ω) : Prop :=
  Outer env fun r s => clock env s = clock env r

/-- A wait is no occasion for changes of the registry, and the clock does not go back. -/
def Patient (env : Environment Rat ω) (wait : Wait Rat ω) : Prop :=
  ∀ t, 0 ≤ t →
    Keeps (fun r s => s.registry = r.registry ∧ clock env r ≤ clock env s) (wait t)

/-- A wait ends at the latest after its timeout. -/
def Punctual (env : Environment Rat ω) (wait : Wait Rat ω) : Prop :=
  ∀ t, 0 ≤ t → Keeps (fun r s => clock env s ≤ clock env r + t) (wait t)

theorem positivePart_eq (x : Rat) : Quantity.positivePart x = max 0 x := by
  rw [Quantity.positivePart, Quantity.lt_rat, Quantity.zero_rat]
  simp only [decide_eq_true_eq]
  split
  · rename_i h
    rw [max_eq_right h.le]
  · rename_i h
    rw [max_eq_left (not_lt.1 h)]

theorem timeout_eq (due t : Rat) : timeout due t = max 0 (due - t) := positivePart_eq _

theorem timeout_nonneg (due t : Rat) : 0 ≤ timeout due t := by
  rw [timeout_eq]
  exact le_max_left 0 _

section

variable {env : Environment Rat ω} {wait : Wait Rat ω}

theorem Still.neverBack (h : Still env) : NeverBack env where
  refl _ := le_rfl
  trans _ _ _ hrs hst := hrs.trans hst
  tick r := (h.tick r).ge
  note n r := (h.note n r).ge
  increase m labels x r := (h.increase m labels x r).ge
  observe m labels x r := (h.observe m labels x r).ge
  fetch fetch hfetch job r := (h.fetch fetch hfetch job r).ge

theorem clock_le_ticked (h : NeverBack env) (r : Reader Rat ω) :
    clock env r ≤ clock env (ticked env r) := h.tick r

theorem clock_after_now (h : Still env) (r : Reader Rat ω) :
    clock env (after (now env) r) = clock env r := h.now r

/-! ## Entries of the registry in time -/

/-- Time has not gone back, and each new entry started in between. -/
structure Ages (env : Environment Rat ω) (r s : Reader Rat ω) : Prop where
  clock_le : clock env r ≤ clock env s
  entries : ∀ p ∈ s.registry.entries, p ∈ r.registry.entries ∨
    (clock env r ≤ p.2.startTime ∧ p.2.startTime ≤ clock env s)

namespace Ages

theorem of_registry_eq {r s : Reader Rat ω} (hregistry : s.registry = r.registry)
    (hclock : clock env r ≤ clock env s) : Ages env r s where
  clock_le := hclock
  entries p hp := .inl (by rw [← hregistry]; exact hp)

theorem refl (r : Reader Rat ω) : Ages env r r := of_registry_eq rfl le_rfl

theorem trans {r s t : Reader Rat ω} (hrs : Ages env r s) (hst : Ages env s t) :
    Ages env r t where
  clock_le := hrs.clock_le.trans hst.clock_le
  entries p hp := by
    rcases hst.entries p hp with hold | ⟨hs, ht⟩
    · rcases hrs.entries p hold with hold | ⟨hr, hs⟩
      · exact .inl hold
      · exact .inr ⟨hr, hs.trans hst.clock_le⟩
    · exact .inr ⟨hrs.clock_le.trans hs, ht⟩

end Ages

theorem ages_register (h : NeverBack env) (e : Event) : Keeps (Ages env) (register env e) := by
  intro r
  have hclock : clock env r ≤ clock env (after (register env e) r) := h.tick r
  refine ⟨hclock, fun p hp => ?_⟩
  rcases Registry.eq_or_mem_of_mem_add hp with rfl | hold
  · exact .inr ⟨hclock, le_rfl⟩
  · exact .inl hold

theorem ages_deregister (e : Event) : Keeps (Ages env) (deregister e) := fun _ =>
  ⟨le_rfl, fun _ hp => .inl (Registry.mem_of_mem_remove hp)⟩

/-- **New entries start now.**  Every step of a reader lets it age. -/
theorem steps_ages (h : NeverBack env) : Steps env (Ages env) where
  refl := Ages.refl
  trans _ _ _ := Ages.trans
  tick r := .of_registry_eq rfl (h.tick r)
  note n r := .of_registry_eq rfl (h.note n r)
  increase m labels x r :=
    .of_registry_eq (keeps_onlyWorld _ r).1 (h.increase m labels x r)
  observe m labels x r :=
    .of_registry_eq (keeps_onlyWorld _ r).1 (h.observe m labels x r)
  fetch fetch hfetch job r :=
    .of_registry_eq (keeps_onlyWorld _ r).1 (h.fetch fetch hfetch job r)
  register := ages_register h
  deregister := ages_deregister

theorem Patient.ages (hw : Patient env wait) (due t : Rat) :
    Keeps (Ages env) (wait (timeout due t)) := fun r =>
  have h := hw _ (timeout_nonneg due t) r
  .of_registry_eq h.1 h.2

/-! ## Readers that can come about -/

/-- The reader came about from a new one by changes of its registry, while the queue and the world
changed in any way that did not turn the clock back. -/
inductive Reachable (env : Environment Rat ω) : Reader Rat ω → Prop where
  | fresh (queue : EventQueue) (world : ω) : Reachable env ⟨{}, queue, world⟩
  | meanwhile {r s : Reader Rat ω} (hr : Reachable env r) (hregistry : s.registry = r.registry)
      (hclock : clock env r ≤ clock env s) : Reachable env s
  | register {r : Reader Rat ω} (hr : Reachable env r) (e : Event) :
      Reachable env (after (Reader.register env e) r)
  | deregister {r : Reader Rat ω} (hr : Reachable env r) (e : Event) :
      Reachable env (after (Reader.deregister e) r)

/-- Dispatches, accruals and runs of the loop lead from reachable readers to reachable ones. -/
theorem steps_reachable (h : NeverBack env) :
    Steps env fun r s => Reachable env r → Reachable env s where
  refl _ := id
  trans _ _ _ hrs hst hr := hst (hrs hr)
  tick r hr := .meanwhile hr rfl (h.tick r)
  note n r hr := .meanwhile hr rfl (h.note n r)
  increase m labels x r hr := .meanwhile hr (keeps_onlyWorld _ r).1 (h.increase m labels x r)
  observe m labels x r hr := .meanwhile hr (keeps_onlyWorld _ r).1 (h.observe m labels x r)
  fetch fetch hfetch job r hr :=
    .meanwhile hr (keeps_onlyWorld _ r).1 (h.fetch fetch hfetch job r)
  register e _ hr := hr.register e
  deregister e _ hr := hr.deregister e

theorem Patient.reachable (hw : Patient env wait) (due t : Rat) :
    Keeps (fun r s => Reachable env r → Reachable env s) (wait (timeout due t)) := fun r hr =>
  have h := hw _ (timeout_nonneg due t) r
  .meanwhile hr h.1 h.2

/-- No entry starts in the future. -/
theorem Reachable.startTime_le (h : NeverBack env) {r : Reader Rat ω} (hr : Reachable env r) :
    ∀ p ∈ r.registry.entries, p.2.startTime ≤ clock env r := by
  have step : ∀ {r s}, Ages env r s → (∀ p ∈ r.registry.entries, p.2.startTime ≤ clock env r) →
      ∀ p ∈ s.registry.entries, p.2.startTime ≤ clock env s := by
    intro r s hrs ih p hp
    rcases hrs.entries p hp with hold | hnew
    · exact (ih p hold).trans hrs.clock_le
    · exact hnew.2
  induction hr with
  | fresh queue world => exact fun p hp => absurd hp List.not_mem_nil
  | meanwhile hr hregistry hclock ih => exact step (.of_registry_eq hregistry hclock) ih
  | register hr e ih => exact step (ages_register h e _) ih
  | deregister hr e ih => exact step (ages_deregister e _) ih

/-- Every entry has the standard labels. -/
theorem Reachable.map_fst_labels {r : Reader Rat ω} (hr : Reachable env r) :
    r.registry.Labelled := by
  induction hr with
  | fresh queue world => exact .empty
  | meanwhile hr hregistry hclock ih =>
    rw [hregistry]
    exact ih
  | register hr e ih => exact ih.add _ e
  | deregister hr e ih => exact ih.remove e.job.id

end

end Reader

/-! ## Time in trials -/

namespace Trial

open Reader

variable {σ : Type}

theorem clock_measure (env : Environment Rat (Trial Rat σ)) (hnow : ∀ w, env.now w = w.clock)
    (f : σ → Except Failure Unit × σ) :
    Keeps (fun r s => Reader.clock env s = Reader.clock env r) (onWorld (measure f)) := by
  intro r
  rw [Reader.clock, Reader.clock, hnow, hnow, after, onWorld, measure]
  rcases f r.world.sink with ⟨_ | _, s⟩ <;> rfl

/-- A request for a log leaves everything as it is. -/
theorem after_fetch {sink : Sink Rat σ} {interval : Rat} {logs : Bool}
    {fetch : JobIdentity → EStateM Failure (Trial Rat σ) Log.Summary}
    (h : (environment sink interval logs).fetch? = some fetch) (job : JobIdentity)
    (r : Reader Rat (Trial Rat σ)) : after (onWorld (fetch job)) r = r := by
  obtain rfl : fetch = fun _ => Trial.fetch := by
    rw [environment] at h
    split at h
    · exact (Option.some.inj h).symm
    · cases h
  show after (onWorld Trial.fetch) r = r
  rw [after, onWorld, Trial.fetch]
  cases r.world.log <;> rfl

/-- In a trial only waits take time. -/
theorem still (sink : Sink Rat σ) (interval : Rat) (logs : Bool) :
    Still (environment sink interval logs) where
  refl _ := rfl
  trans _ _ _ hrs hst := hst.trans hrs
  tick _ := rfl
  note _ _ := rfl
  increase _ _ _ := clock_measure _ (fun _ => rfl) _
  observe _ _ _ := clock_measure _ (fun _ => rfl) _
  fetch fetch hfetch job r := by rw [after_fetch hfetch]

theorem keeps_take :
    Keeps (τ := Rat) (ω := Trial Rat σ) (fun r s => s.registry = r.registry ∧ s.world = r.world)
      take := by
  intro r
  have hget : (get : Act Rat (Trial Rat σ) _) r = .ok r r := rfl
  rw [after, take, bind_apply, hget]
  dsimp only
  cases r.queue.take? <;> exact ⟨rfl, rfl⟩

/-- A wait changes the clock and the queue only. -/
theorem after_wait (sleep : Rat → Rat) (t : Rat) (r : Reader Rat (Trial Rat σ)) :
    (after (wait sleep t) r).registry = r.registry ∧
      (after (wait sleep t) r).world =
        { r.world with clock := r.world.clock + max 0 (sleep t) } := by
  have hslept : onWorld (modify fun w : Trial Rat σ =>
      { w with clock := Quantity.add w.clock (Quantity.positivePart (sleep t)) }) r =
      .ok ⟨⟩ { r with world := { r.world with clock := r.world.clock + max 0 (sleep t) } } := by
    rw [← positivePart_eq]
    rfl
  rw [wait, after_bind_of_ok hslept]
  exact keeps_take _

theorem patient (sink : Sink Rat σ) (interval : Rat) (logs : Bool) (sleep : Rat → Rat) :
    Patient (environment sink interval logs) (wait sleep) := by
  intro t _ r
  obtain ⟨hregistry, hworld⟩ := after_wait sleep t r
  refine ⟨hregistry, ?_⟩
  rw [Reader.clock, Reader.clock, hworld]
  exact le_add_of_nonneg_right (le_max_left 0 _)

theorem punctual (sink : Sink Rat σ) (interval : Rat) (logs : Bool) {sleep : Rat → Rat}
    (hsleep : ∀ t, 0 ≤ t → sleep t ≤ t) :
    Punctual (environment sink interval logs) (wait sleep) := by
  intro t ht r
  rw [Reader.clock, Reader.clock, (after_wait sleep t r).2]
  exact add_le_add_right (max_le ht (hsleep t ht)) _

end Trial

end JobMeter
