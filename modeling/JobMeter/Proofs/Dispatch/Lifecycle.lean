import JobMeter.Proofs.Dispatch.Calls
import JobMeter.Proofs.Dispatch.Registry

/-!
# Logs and the lifecycle of jobs

Let two readers be given the same tasks at the same times, but different logs, or no logs at all.
Both of them measure the lifecycle of the jobs before they look into a log, so they agree in
everything but what comes from logs.

* `Metric.fromLog` — the metrics whose measurements depend on logs; `lifecycle` is the rest.
* `Occasion.Alike` — the occasions differ in what comes of a request for a log, at most.
* `Trial.SameLifecycle` — the readers agree in their registries, in their queues and in what they
  measured of the lifecycle.  An occasion preserves it (`Trial.sameLifecycle_perform`).
* `lifecycle_undisturbed` — **logs do not disturb the lifecycle**: after each step of two such runs
  the registries and the measurements of the lifecycle are the same.
-/

namespace JobMeter

/-! ## What depends on logs -/

/-- The metric depends on what comes of logs. -/
def Metric.fromLog : Metric → Bool
  | .queueDuration | .jobFailures | .runDuration => true
  | _ => false

/-- The calls that do not depend on what comes of logs. -/
def lifecycle {τ : Type} (cs : List (Sink.Call τ)) : List (Sink.Call τ) :=
  cs.filter fun c => !c.measurement.metric.fromLog

/-- The tasks and the times are the same. -/
structure Occasion.Alike {τ : Type} (o o' : Occasion τ) : Prop where
  task : o.task = o'.task
  time : o.time = o'.time

/-- What an occasion tells about a job. -/
def Occasion.mark? {τ : Type} (o : Occasion τ) : Option (Mark τ) :=
  match o.task with
  | .dispatch i => Delivery.mark? ⟨i, o.time, o.log⟩
  | .submit _ | .accrue => none

theorem Occasion.Alike.mark?_eq {τ : Type} {o o' : Occasion τ} (h : o.Alike o') :
    o.mark? = o'.mark? := by
  obtain ⟨task, time, log⟩ := o
  obtain ⟨task', time', log'⟩ := o'
  obtain ⟨rfl, rfl⟩ := h
  rfl

namespace Event

variable {τ : Type} [Quantity τ] (e : Event) (reading : Except Failure Reading)

theorem fromLog_of_mem_queueMeasurements {x : Measurement τ}
    (hx : x ∈ e.queueMeasurements reading) : x.metric.fromLog := by
  obtain ⟨s, -, rfl⟩ := List.mem_map.1 hx
  rfl

theorem fromLog_of_mem_runMeasurements {c : Text} {x : Measurement τ}
    (hx : x ∈ e.runMeasurements c reading) : x.metric.fromLog := by
  rcases List.mem_append.1 hx with hfailure | hrun
  · obtain ⟨logged, -, hx⟩ := List.mem_flatMap.1 hfailure
    rw [failures] at hx
    split at hx
    · rw [List.mem_singleton.1 hx]
      rfl
    · exact absurd hx List.not_mem_nil
  · obtain ⟨s, -, rfl⟩ := List.mem_map.1 hrun
    rfl

/-- What is measured of an event depends on its log in the metrics from logs only. -/
theorem filter_measurements_eq (reading' : Except Failure Reading) :
    (e.measurements reading : List (Measurement τ)).filter (fun x => !x.metric.fromLog) =
      (e.measurements reading').filter fun x => !x.metric.fromLog := by
  have hqueue : ∀ reading, (e.queueMeasurements reading : List (Measurement τ)).filter
      (fun x => !x.metric.fromLog) = [] := by
    intro reading
    refine List.filter_eq_nil_iff.2 fun x hx => ?_
    simp [e.fromLog_of_mem_queueMeasurements reading hx]
  have hrun : ∀ c reading, (e.runMeasurements c reading : List (Measurement τ)).filter
      (fun x => !x.metric.fromLog) = [] := by
    intro c reading
    refine List.filter_eq_nil_iff.2 fun x hx => ?_
    simp [e.fromLog_of_mem_runMeasurements reading hx]
  rw [measurements, measurements]
  split
  · rfl
  split
  · rw [startMeasurements, startMeasurements, List.filter_cons, List.filter_cons, hqueue, hqueue]
  split
  · cases e.job.conclusion with
    | none => rfl
    | some c =>
      rw [Option.elim_some, Option.elim_some, endMeasurements, endMeasurements]
      simp only [List.filter_cons, hrun]
  · rfl

end Event

/-! ## Two runs side by side -/

namespace Trial

variable {τ σ : Type} [Quantity τ] {sink : Sink τ σ} {interval : τ} {logs logs' : Bool}
  {r r' : Reader τ (Watched τ σ)} {o o' : Occasion τ}

/-- No call was refused. -/
def AllTaken (r : Reader τ (Watched τ σ)) : Prop :=
  ∀ c ∈ r.world.sink.2, c.result = .ok ()

omit [Quantity τ] in
theorem AllTaken.of_suffix (hr : AllTaken r) (h : r'.world.sink.2 <:+ r.world.sink.2) :
    AllTaken r' := fun c hc => hr c (h.subset hc)

/-- The readers agree in all that does not come from logs. -/
structure SameLifecycle (r r' : Reader τ (Watched τ σ)) : Prop where
  registry : r.registry = r'.registry
  queue : r.queue = r'.queue
  calls : lifecycle r.world.sink.2 = lifecycle r'.world.sink.2

theorem filter_asked_eq (interval : τ) (logs logs' : Bool) (h : SameLifecycle r r')
    (ho : o.Alike o') :
    (asked interval logs r o).filter (fun x => !x.metric.fromLog) =
      (asked interval logs' r' o').filter fun x => !x.metric.fromLog := by
  obtain ⟨task, time, log⟩ := o
  obtain ⟨task', time', log'⟩ := o'
  obtain ⟨rfl, rfl⟩ := ho
  rw [asked, asked, h.registry, h.queue]
  cases task with
  | submit i => rfl
  | accrue => rfl
  | dispatch i =>
    cases i with
    | other v => rfl
    | object o => rfl
    | event e => exact e.filter_measurements_eq _ _

/-- The calls of an occasion are added to those before. -/
theorem calls_perform (sink : Sink τ σ) (interval : τ) (logs : Bool)
    (r : Reader τ (Watched τ σ)) (o : Occasion τ) :
    (perform sink.watched interval logs r o).world.sink.2 =
      (sink.calls (asked interval logs r o) r.world.sink.1).reverse ++ r.world.sink.2 := by
  rw [sink_perform, Sink.feed_watched]

theorem calls_perform_of_allTaken (h : AllTaken (perform sink.watched interval logs r o)) :
    (perform sink.watched interval logs r o).world.sink.2 =
      ((asked interval logs r o).map Measurement.taken).reverse ++ r.world.sink.2 := by
  rw [AllTaken, calls_perform] at h
  rw [calls_perform, Sink.calls_of_forall_ok]
  intro c hc
  exact h c (List.mem_append_left _ (List.mem_reverse.2 hc))

/-- If no call is refused, the registry records what an occasion tells about a job. -/
theorem registry_perform (h : AllTaken (perform sink.watched interval logs r o)) :
    (perform sink.watched interval logs r o).registry =
      o.mark?.elim r.registry r.registry.record := by
  obtain ⟨task, time, log⟩ := o
  cases task with
  | submit i => exact Reader.registry_submit _ i _
  | accrue => exact ((Reader.outer_onlyWorld _).accrue _).1
  | dispatch i =>
    have hfirst : ∀ {x : Measurement τ} {xs : List (Measurement τ)},
        measurements logs ⟨i, time, log⟩ = x :: xs →
          (sink.watched.measure x r.world.sink).1 = .ok () := by
      intro x xs hxs
      have hasked : asked interval logs r ⟨.dispatch i, time, log⟩ = x :: xs := hxs
      rw [AllTaken, calls_perform, hasked] at h
      rw [Sink.measure_watched]
      refine h ⟨x.metric.kind, x, _⟩ (List.mem_append_left _ (List.mem_reverse.2 ?_))
      exact List.mem_cons_self
    refine registry_deliver_of_ok interval logs ?_ ?_
    · rintro e rfl haction
      exact hfirst (e.measurements_of_inProgress haction _)
    · rintro e rfl haction
      have hxs := e.measurements_of_completed (τ := τ) haction (reading logs e log)
      cases hconclusion : e.job.conclusion with
      | none =>
        rw [hconclusion] at hxs
        exact hfirst hxs
      | some c =>
        rw [hconclusion] at hxs
        exact hfirst hxs

theorem queue_perform (sink : Sink τ σ) (interval : τ) (logs : Bool) (r : Reader τ (Trial τ σ))
    (o : Occasion τ) :
    (perform sink interval logs r o).queue =
      match o.task with
      | .submit i => (r.queue.put? (.item i)).getD r.queue
      | .dispatch _ | .accrue => r.queue := by
  have hsteps := Reader.steps_queue (environment sink interval logs)
  obtain ⟨task, time, log⟩ := o
  cases task with
  | submit i => exact Reader.queue_submit _ i _
  | accrue => exact hsteps.accrue _
  | dispatch i => exact hsteps.dispatch i _

/-- **An occasion preserves the agreement.** -/
theorem sameLifecycle_perform (h : SameLifecycle r r') (ho : o.Alike o')
    (hr : AllTaken (perform sink.watched interval logs r o))
    (hr' : AllTaken (perform sink.watched interval logs' r' o')) :
    SameLifecycle (perform sink.watched interval logs r o)
      (perform sink.watched interval logs' r' o') where
  registry := by rw [registry_perform hr, registry_perform hr', ho.mark?_eq, h.registry]
  queue := by rw [queue_perform, queue_perform, ho.task, h.queue]
  calls := by
    have hnew : lifecycle ((asked interval logs r o).map Measurement.taken).reverse =
        lifecycle ((asked interval logs' r' o').map Measurement.taken).reverse := by
      have hfilter := filter_asked_eq interval logs logs' h ho
      simp only [lifecycle, List.filter_reverse, List.filter_map]
      exact congrArg (fun xs => (xs.map Measurement.taken).reverse) hfilter
    rw [calls_perform_of_allTaken hr, calls_perform_of_allTaken hr', lifecycle, List.filter_append,
      lifecycle, List.filter_append]
    exact congrArg₂ _ hnew h.calls

/-- A run only adds to the calls. -/
theorem calls_suffix (sink : Sink τ σ) (interval : τ) (logs : Bool)
    (r : Reader τ (Watched τ σ)) (os : List (Occasion τ)) :
    r.world.sink.2 <:+ (performAll sink.watched interval logs r os).world.sink.2 := by
  induction os generalizing r with
  | nil => exact List.suffix_rfl
  | cons o os ih =>
    have hfirst : r.world.sink.2 <:+ (perform sink.watched interval logs r o).world.sink.2 := by
      rw [calls_perform]
      exact List.suffix_append _ _
    exact hfirst.trans (ih _)

/-- **A run preserves the agreement.** -/
theorem sameLifecycle_performAll (h : SameLifecycle r r') {os os' : List (Occasion τ)}
    (hos : List.Forall₂ Occasion.Alike os os')
    (hr : AllTaken (performAll sink.watched interval logs r os))
    (hr' : AllTaken (performAll sink.watched interval logs' r' os')) :
    SameLifecycle (performAll sink.watched interval logs r os)
      (performAll sink.watched interval logs' r' os') := by
  induction hos generalizing r r' with
  | nil => exact h
  | @cons o o' os os' ho hos ih =>
    have hfirst := hr.of_suffix (calls_suffix sink interval logs (perform _ _ _ r o) os)
    have hfirst' := hr'.of_suffix (calls_suffix sink interval logs' (perform _ _ _ r' o') os')
    exact ih (sameLifecycle_perform h ho hfirst hfirst') hr hr'

end Trial

/-- **Logs do not disturb the lifecycle.**  Let two runs of a reader start alike, with logs or
without, and perform the same tasks at the same times, while the requests for logs may have any
outcome in each of them: a summary, a failure because there is no log, or any other failure that
ends the dispatch.  If the sink refuses no call of either run, then after each number of steps the
registries are the same, and so are the sequences of the calls, with their labels and amounts, up to
those of the metrics from logs. -/
theorem lifecycle_undisturbed {τ σ : Type} [Quantity τ] (sink : Sink τ σ) (interval : τ)
    (logs logs' : Bool) (r : Reader τ (Trial.Watched τ σ)) {os os' : List (Occasion τ)}
    (hos : List.Forall₂ Occasion.Alike os os')
    (htaken : ∀ c ∈ (Trial.performAll sink.watched interval logs r os).world.sink.2,
      c.result = .ok ())
    (htaken' : ∀ c ∈ (Trial.performAll sink.watched interval logs' r os').world.sink.2,
      c.result = .ok ()) (n : Nat) :
    let s := Trial.performAll sink.watched interval logs r (os.take n)
    let s' := Trial.performAll sink.watched interval logs' r (os'.take n)
    s.registry = s'.registry ∧ lifecycle s.world.sink.2 = lifecycle s'.world.sink.2 := by
  have hpart : ∀ (logs : Bool) (os : List (Occasion τ)),
      (Trial.performAll sink.watched interval logs r (os.take n)).world.sink.2 <:+
        (Trial.performAll sink.watched interval logs r os).world.sink.2 := by
    intro logs os
    have hsuffix := Trial.calls_suffix sink interval logs
      (Trial.performAll sink.watched interval logs r (os.take n)) (os.drop n)
    rw [Trial.performAll, Trial.performAll, ← List.foldl_append, List.take_append_drop] at hsuffix
    exact hsuffix
  have hsame : Trial.SameLifecycle r r := ⟨rfl, rfl, rfl⟩
  have h := Trial.sameLifecycle_performAll hsame (List.forall₂_take n hos)
    (Trial.AllTaken.of_suffix htaken (hpart logs os))
    (Trial.AllTaken.of_suffix htaken' (hpart logs' os'))
  exact ⟨h.registry, h.calls⟩

/-- Two runs about a job that fails: one without logs, and one in which the first log cannot be had
and the request for the second fails in another way. -/
theorem lifecycle_undisturbed_failing :
    let noLog : Except Failure Log.Summary := .error ⟨.jobLogs, [], none⟩
    let broken : Except Failure Log.Summary := .error ⟨.foreign "RuntimeError", [], none⟩
    let start := Task.dispatch (.event (.plain Action.inProgress 1))
    let finish := Task.dispatch (.event (.plain Action.completed 1 (some Conclusion.failure)))
    let os : List (Occasion Rat) := [⟨start, 10, noLog⟩, ⟨.accrue, 13, noLog⟩, ⟨finish, 14, noLog⟩]
    let os' : List (Occasion Rat) :=
      [⟨start, 10, noLog⟩, ⟨.accrue, 13, noLog⟩, ⟨finish, 14, broken⟩]
    let sink : Sink Rat (List (Measurement Rat)) := .recording []
    let r : Reader Rat (Trial.Watched Rat (List (Measurement Rat))) :=
      { queue := ⟨0, []⟩, world := ⟨9, noLog, [], []⟩ }
    let s := Trial.performAll sink.watched 5 false r os
    let s' := Trial.performAll sink.watched 5 true r os'
    List.Forall₂ Occasion.Alike os os' ∧ (∀ c ∈ s.world.sink.2, c.result = .ok ()) ∧
      (∀ c ∈ s'.world.sink.2, c.result = .ok ()) ∧
      s.world.sink.2.length = 5 ∧ s'.world.sink.2.length = 4 ∧
      s.registry = s'.registry ∧ lifecycle s.world.sink.2 = lifecycle s'.world.sink.2 := by
  intro noLog broken start finish os os' sink r s s'
  have hos : List.Forall₂ Occasion.Alike os os' :=
    .cons ⟨rfl, rfl⟩ (.cons ⟨rfl, rfl⟩ (.cons ⟨rfl, rfl⟩ .nil))
  have hs : ∀ c ∈ s.world.sink.2, c.result = .ok () := by decide +kernel
  have hs' : ∀ c ∈ s'.world.sink.2, c.result = .ok () := by decide +kernel
  refine ⟨hos, hs, hs', by decide +kernel, by decide +kernel, ?_⟩
  exact lifecycle_undisturbed sink 5 false true r hos hs hs' 3

end JobMeter
