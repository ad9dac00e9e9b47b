import JobMeter.Proofs.Dispatch.Measurements

/-!
# The calls of the sink

Beside dispatches, a reader measures when it accrues, and when it drops an item.  An `Occasion` is
one of the three with what the reader learns meanwhile.  What is measured then is known beforehand;
it is fed to the sink until the sink refuses something.

* `Sink.watched` — the sink with a list of all calls of it.  Whatever is fed to it, the sink itself
  fares as it would alone (`Sink.feed_watched`).
* `Trial.perform`, `Trial.performAll` — an occasion, and a run of occasions.  A dispatch may fail,
  and leaves what the loop would leave, which lets no failure pass (`Trial.after_dispatchSafely`).
* `Trial.asked` — the measurements of an occasion.
* `Trial.sink_perform` — **an occasion feeds its measurements to the sink**, and nothing else.
* `calls_accepted` — **no call is refused**: a reader with a metric store only makes calls that the
  store takes.
-/

namespace JobMeter

/-! ## Sinks under watch -/

/-- A call of a sink, with what came of it. -/
structure Sink.Call (τ : Type) where
  /-- What was called upon: to raise a counter, or to sort a value into a histogram. -/
  kind : Metric.Kind
  measurement : Measurement τ
  result : Except Failure Unit

/-- The world of a trial with a sink and the calls of it so far, the last one first. -/
abbrev Trial.Watched (τ σ : Type) : Type := Trial τ (σ × List (Sink.Call τ))

/-- The call for a measurement that is not refused. -/
def Measurement.taken {τ : Type} (x : Measurement τ) : Sink.Call τ := ⟨x.metric.kind, x, .ok ()⟩

namespace Sink

variable {τ σ : Type}

/-- The sink with a list of the calls of it, the last one first. -/
def watched (sink : Sink τ σ) : Sink τ (σ × List (Sink.Call τ)) where
  increase m labels x s :=
    let (result, s') := sink.increase m labels x s.1
    (result, s', ⟨.counter, ⟨m, labels, x⟩, result⟩ :: s.2)
  observe m labels x s :=
    let (result, s') := sink.observe m labels x s.1
    (result, s', ⟨.histogram, ⟨m, labels, x⟩, result⟩ :: s.2)

/-- The calls for measurements one after the other, up to the first that is refused. -/
def calls (sink : Sink τ σ) : List (Measurement τ) → σ → List (Sink.Call τ)
  | [], _ => []
  | x :: xs, s =>
    ⟨x.metric.kind, x, (sink.measure x s).1⟩ ::
      match sink.measure x s with
      | (.ok (), s') => calls sink xs s'
      | (.error _, _) => []

variable (sink : Sink τ σ) {x : Measurement τ} {xs : List (Measurement τ)}

theorem measure_watched (x : Measurement τ) (s : σ × List (Sink.Call τ)) :
    sink.watched.measure x s =
      ((sink.measure x s.1).1, sink.take s.1 x,
        ⟨x.metric.kind, x, (sink.measure x s.1).1⟩ :: s.2) := by
  cases hkind : x.metric.kind with
  | counter =>
    rw [measure_of_counter hkind, take, measure_of_counter hkind]
    rfl
  | histogram =>
    rw [measure_of_histogram hkind, take, measure_of_histogram hkind]
    rfl

/-- A sink under watch fares as it does alone. -/
theorem feed_watched (xs : List (Measurement τ)) (s : σ × List (Sink.Call τ)) :
    sink.watched.feed xs s = (sink.feed xs s.1, (sink.calls xs s.1).reverse ++ s.2) := by
  induction xs generalizing s with
  | nil => rfl
  | cons x xs ih =>
    have hwatched := measure_watched sink x s
    rw [take] at hwatched
    cases hrun : sink.measure x s.1 with
    | mk result s' =>
      rw [hrun] at hwatched
      cases result with
      | ok u => simp [feed_cons_of_ok hwatched, feed_cons_of_ok hrun, calls, hrun, ih]
      | error f => simp [feed_cons_of_error hwatched, feed_cons_of_error hrun, calls, hrun]

variable {sink} {before : List (Measurement τ)} {s : σ}

/-- As long as no call is refused, the measurements are called for one after the other. -/
theorem calls_append_of_ok (h : ∀ c ∈ sink.calls (before ++ xs) s,
    c.measurement ∈ before → c.result = .ok ()) :
    ∃ s', sink.calls (before ++ xs) s = before.map Measurement.taken ++ sink.calls xs s' := by
  induction before generalizing s with
  | nil => exact ⟨s, rfl⟩
  | cons x before ih =>
    cases hrun : sink.measure x s with
    | mk result s' =>
      rw [List.cons_append, calls, hrun] at h
      obtain rfl : result = .ok () := h _ List.mem_cons_self List.mem_cons_self
      obtain ⟨s'', hs''⟩ := ih (s := s') fun c hc hmem =>
        h c (List.mem_cons_of_mem _ hc) (List.mem_cons_of_mem _ hmem)
      refine ⟨s'', ?_⟩
      rw [List.cons_append, calls, hrun, List.map_cons, List.cons_append, ← hs'']
      rfl

/-- If no call is refused, there is a call for each measurement. -/
theorem calls_of_forall_ok (h : ∀ c ∈ sink.calls xs s, c.result = .ok ()) :
    sink.calls xs s = xs.map Measurement.taken := by
  have hcalls : ∃ s', sink.calls (xs ++ []) s = xs.map Measurement.taken ++ sink.calls [] s' :=
    calls_append_of_ok fun c hc _ => h c (by rwa [List.append_nil] at hc)
  obtain ⟨s', hs'⟩ := hcalls
  rwa [List.append_nil, calls, List.append_nil] at hs'

theorem calls_of_accepts (h : ∀ x ∈ xs, sink.Accepts x) (s : σ) :
    sink.calls xs s = xs.map Measurement.taken := by
  induction xs generalizing s with
  | nil => rfl
  | cons x xs ih =>
    rw [List.forall_mem_cons] at h
    rw [calls, h.1.measure_eq s]
    exact congrArg _ (ih h.2 _)

end Sink

/-! ## Occasions for measurements -/

/-- What a reader can be called upon to do, apart from the loop. -/
inductive Task where
  | dispatch (i : Item)
  | submit (i : Item)
  | accrue

/-- A task with what the reader learns during it. -/
structure Occasion (τ : Type) where
  task : Task
  /-- What the clock shows. -/
  time : τ
  /-- What comes of a request for a log. -/
  log : Except Failure Log.Summary

namespace Trial

variable {τ σ : Type} [Quantity τ]

/-- The reader after an occasion. -/
def perform (sink : Sink τ σ) (interval : τ) (logs : Bool) (r : Reader τ (Trial τ σ))
    (o : Occasion τ) : Reader τ (Trial τ σ) :=
  match o.task with
  | .dispatch i => deliver sink interval logs r ⟨i, o.time, o.log⟩
  | .submit i => Reader.after (Reader.submit (environment sink interval logs) i)
      { r with world := { r.world with clock := o.time, log := o.log } }
  | .accrue => Reader.after (Reader.accrue (environment sink interval logs))
      { r with world := { r.world with clock := o.time, log := o.log } }

/-- The reader after one occasion after the other. -/
def performAll (sink : Sink τ σ) (interval : τ) (logs : Bool) (r : Reader τ (Trial τ σ))
    (os : List (Occasion τ)) : Reader τ (Trial τ σ) :=
  os.foldl (perform sink interval logs) r

/-- The measurement of an accrual for an entry of the registry. -/
def charged (interval t : τ) (p : Int × Running τ) : Measurement τ :=
  ⟨.inProgressDuration, p.2.labels, Reader.charge interval t p.2⟩

/-- The measurements of an occasion. -/
def asked (interval : τ) (logs : Bool) (r : Reader τ (Trial τ σ)) (o : Occasion τ) :
    List (Measurement τ) :=
  match o.task with
  | .dispatch i => measurements logs ⟨i, o.time, o.log⟩
  | .submit i =>
    if r.queue.isFull ∧ i.describe.isOk then [.one .eventsDropped []] else []
  | .accrue => r.registry.entries.map (charged interval o.time)

variable {sink : Sink τ σ} (interval : τ) (logs : Bool)

/-- The loop, which lets no failure of a dispatch pass, leaves the same reader. -/
theorem after_dispatchSafely (i : Item) (r : Reader τ (Trial τ σ)) :
    Reader.after (Reader.dispatchSafely (environment sink interval logs) i) r =
      Reader.after (Reader.dispatch (environment sink interval logs) i) r := by
  rw [Reader.dispatchSafely, Reader.guarded, Reader.after, Reader.tryCatch_apply]
  cases hrun : Reader.dispatch (environment sink interval logs) i r with
  | ok u s => rw [Reader.after_of_ok hrun]
  | error f s =>
    rw [Reader.after_of_error hrun]
    dsimp only
    cases f.isOrdinary with
    | false => rfl
    | true =>
      simp only [if_true, Reader.noteFailed]
      cases i.describe <;> rfl

theorem measures_forM_chargeEntry {log : Except Failure Log.Summary} (t : τ)
    (ps : List (Int × Running τ)) :
    Measures sink log
      (Reader.onWorld (ps.forM (Reader.chargeEntry (environment sink interval logs) t)))
      (ps.map (charged interval t)) := by
  induction ps with
  | nil => exact measures_pure ()
  | cons p ps ih =>
    show Measures sink log (Reader.onWorld
      (Reader.chargeEntry (environment sink interval logs) t p >>= fun _ => ps.forM _)) _
    rw [Reader.onWorld_bind]
    exact .cons (charged interval t p) ih

/-- An item is dropped if the queue is full.  If the item can be described, that is measured, and
nothing else is. -/
theorem sink_submit (i : Item) (r : Reader τ (Trial τ σ)) :
    (Reader.after (Reader.submit (environment sink interval logs) i) r).world.sink =
      sink.feed (if r.queue.isFull ∧ i.describe.isOk then [.one .eventsDropped []] else [])
        r.world.sink := by
  by_cases hfull : r.queue.isFull
  · have hput : r.queue.put? (.item i) = none := if_pos hfull
    rw [Reader.after, Reader.submit_of_none hput]
    cases hdescribe : i.describe with
    | ok description =>
      have hdrop : Measures sink r.world.log
          (Reader.onWorld (Reader.drop (environment sink interval logs) i))
          [.one .eventsDropped []] := by
        rw [Reader.drop, hdescribe, Reader.onWorld_bind]
        refine .bind_of_same_world (fun r => ⟨(), r, rfl, rfl⟩) fun _ => ?_
        rw [Reader.onWorld_bind]
        exact .cons (.one .eventsDropped []) (measures_pure false)
      rw [if_pos ⟨hfull, rfl⟩]
      exact hdrop r rfl
    | error f =>
      rw [Reader.onWorld_of_error (Reader.drop_of_error hdescribe _ _),
        if_neg fun h => Bool.false_ne_true h.2]
      rfl
  · have hput : r.queue.put? (.item i) = some _ := if_neg hfull
    rw [Reader.after_of_ok (Reader.submit_of_some hput), if_neg fun h => hfull h.1]
    rfl

/-- **An occasion feeds its measurements to the sink**, and nothing else. -/
theorem sink_perform (r : Reader τ (Trial τ σ)) (o : Occasion τ) :
    (perform sink interval logs r o).world.sink =
      sink.feed (asked interval logs r o) r.world.sink := by
  obtain ⟨task, time, log⟩ := o
  cases task with
  | dispatch i => exact sink_deliver interval logs r ⟨i, time, log⟩
  | submit i =>
    exact sink_submit interval logs i { r with world := { r.world with clock := time, log := log } }
  | accrue =>
    show (Reader.after (Reader.accrueAt (environment sink interval logs) time) _).world.sink = _
    rw [Reader.accrueAt_eq]
    exact measures_forM_chargeEntry interval logs time r.registry.entries
      { r with world := { r.world with clock := time, log := log } } rfl

/-- Whatever a reader does, all jobs in its registry have the standard labels. -/
theorem labelled_perform {r : Reader τ (Trial τ σ)} (hr : r.registry.Labelled) (o : Occasion τ) :
    (perform sink interval logs r o).registry.Labelled := by
  have hsteps := Reader.steps_labelled (environment sink interval logs)
  obtain ⟨task, time, log⟩ := o
  cases task with
  | dispatch i => exact hsteps.dispatch i _ hr
  | accrue => exact hsteps.accrue _ hr
  | submit i =>
    show (Reader.after (Reader.submit _ i) _).registry.Labelled
    rw [Reader.registry_submit]
    exact hr

/-! ## Calls of the metric store -/

section Accepted

variable (hzero : Quantity.lt (Quantity.zero : τ) Quantity.zero = false)
  (hone : Quantity.lt (Quantity.one : τ) Quantity.zero = false)

include hzero in
/-- No job is charged less than nothing, even if the clock went back. -/
theorem charge_not_lt_zero (t : τ) (job : Running τ) :
    Quantity.lt (Reader.charge interval t job) Quantity.zero = false := by
  have hbound : ∀ x : τ, Quantity.lt (Quantity.atLeastZero x) Quantity.zero = false := by
    intro x
    unfold Quantity.atLeastZero
    split
    · exact hzero
    · rename_i h
      simpa using h
  exact hbound _

include hzero hone in
/-- What is asked of the sink is admissible. -/
theorem admissible_of_mem_asked {r : Reader τ (Trial τ σ)} (hr : r.registry.Labelled)
    {o : Occasion τ} {x : Measurement τ} (hx : x ∈ asked interval logs r o) : x.Admissible := by
  rw [asked] at hx
  split at hx
  · exact (fits_of_mem_measurements hx).admissible hone
  · split at hx
    · obtain rfl := List.mem_singleton.1 hx
      exact ⟨.nil, fun _ => hone⟩
    · exact absurd hx List.not_mem_nil
  · obtain ⟨p, hp, rfl⟩ := List.mem_map.1 hx
    exact ⟨.of_eq (hr p hp), fun _ => charge_not_lt_zero interval hzero o.time p.2⟩

include hzero hone in
/-- Each call is one for an admissible measurement, and it is not refused. -/
theorem exists_admissible_of_mem_calls (r : Reader τ (Watched τ (Store τ)))
    (hr : r.registry.Labelled)
    (hcalls : ∀ c ∈ r.world.sink.2, ∃ x : Measurement τ, x.Admissible ∧ c = x.taken)
    (os : List (Occasion τ)) :
    ∀ c ∈ (performAll Store.sink.watched interval logs r os).world.sink.2,
      ∃ x : Measurement τ, x.Admissible ∧ c = x.taken := by
  induction os generalizing r with
  | nil => exact hcalls
  | cons o os ih =>
    refine ih (perform Store.sink.watched interval logs r o)
      (labelled_perform interval logs hr o) ?_
    have hadmissible : ∀ x ∈ asked interval logs r o, x.Admissible := fun x hx =>
      admissible_of_mem_asked interval logs hzero hone hr hx
    intro c hc
    rw [sink_perform, Sink.feed_watched, Sink.calls_of_accepts fun x hx =>
      Store.accepts (hadmissible x hx), List.mem_append, List.mem_reverse] at hc
    rcases hc with hnew | hold
    · obtain ⟨x, hx, rfl⟩ := List.mem_map.1 hnew
      exact ⟨x, hadmissible x hx, rfl⟩
    · exact hcalls c hold

end Accepted

end Trial

/-- **No call is refused.**  Let a new reader with a metric store submit, dispatch and accrue in any
order: any items, with logs or without and with whatever comes of reading them, at any times, be it
that the clock goes back, and with any interval.  Then the store takes every call: it is a call for
the kind of its metric, under exactly the label names of the metric, and no counter is to go down.

Times may be counted in any quantities in which neither zero nor one is below zero. -/
theorem calls_accepted {τ : Type} [Quantity τ]
    (hzero : Quantity.lt (Quantity.zero : τ) Quantity.zero = false)
    (hone : Quantity.lt (Quantity.one : τ) Quantity.zero = false) (interval : τ) (logs : Bool)
    (queue : EventQueue) (time : τ) (log : Except Failure Log.Summary) (store : Store τ)
    (os : List (Occasion τ)) :
    ∀ c ∈ (Trial.performAll Store.sink.watched interval logs
        { queue := queue, world := ⟨time, log, store, []⟩ } os).world.sink.2,
      c.result = .ok () ∧ c.kind = c.measurement.metric.kind ∧
        (c.measurement.labels.map Prod.fst).Perm c.measurement.metric.labelNames ∧
        (c.kind = .counter → Quantity.lt c.measurement.amount Quantity.zero = false) := by
  intro c hc
  obtain ⟨x, hx, rfl⟩ := Trial.exists_admissible_of_mem_calls interval logs hzero hone
    { queue := queue, world := ⟨time, log, store, []⟩ } .empty
    (fun c hc => absurd hc List.not_mem_nil) os c hc
  exact ⟨rfl, rfl, hx.labels, hx.amount⟩

/-- Eight calls; an accrual after the clock went back makes one of them, and an item that is dropped
another. -/
theorem calls_accepted_clock_back :
    let summary : Log.Summary := ⟨some '3', 7, 9⟩
    let e := Event.plain Action.completed 1 (some Conclusion.failure)
    let os : List (Occasion Rat) :=
      [⟨.dispatch (.event (.plain Action.inProgress 1)), 10, .ok summary⟩,
        ⟨.accrue, 4, .ok summary⟩, ⟨.dispatch (.event e), 5, .ok summary⟩,
        ⟨.submit (.event e), 6, .ok summary⟩]
    let calls := (Trial.performAll Store.sink.watched (5 : Rat) true
      { queue := ⟨1, [.stop]⟩, world := ⟨9, .ok summary, .empty, []⟩ } os).world.sink.2
    Quantity.lt (Quantity.zero : Rat) Quantity.zero = false ∧
      Quantity.lt (Quantity.one : Rat) Quantity.zero = false ∧
      (calls.map fun c => c.measurement.metric) =
        [.eventsDropped, .runDuration, .jobFailures, .jobConclusions, .jobsCompleted,
          .inProgressDuration, .queueDuration, .jobsStarted] ∧
      ∀ c ∈ calls, c.result = .ok () := by
  intro summary e os calls
  have hzero : Quantity.lt (Quantity.zero : Rat) Quantity.zero = false := rfl
  have hone : Quantity.lt (Quantity.one : Rat) Quantity.zero = false := rfl
  refine ⟨hzero, hone, by decide +kernel, fun c hc => ?_⟩
  exact (calls_accepted hzero hone 5 true ⟨1, [.stop]⟩ 9 (.ok summary) .empty os c hc).1

end JobMeter
