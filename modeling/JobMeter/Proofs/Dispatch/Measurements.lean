import JobMeter.Proofs.Metric.Values
import JobMeter.Proofs.Trial
import Mathlib.Data.List.Induction

/-!
# What a dispatch measures

A dispatch is a list of measurements, which depends on the event and on what came of its log, and
on nothing else.  They are made one after the other, until the sink refuses one.

* `Trial.reading` — what comes of the attempt to read the log of an event.
* `Event.measurements` — the measurements of an event, in their order.  All of them have the labels
  that their metrics ask for, and counters are raised by one (`Event.fits_of_mem_measurements`).
* `Event.measured?` — the labels under which an event is measured by a metric, if it is; there is no
  metric that measures an event twice (`Event.filter_measurements`).
* `Trial.sink_deliver` — **a dispatch feeds the measurements of its event to the sink**, and nothing
  else.
* `Trial.sink_deliverAll` — the metric store refuses none of them, so that a run of dispatches
  leaves them all there.
-/

namespace JobMeter

/-! ## Measurements in the store -/

/-- The labels are those of the metric, and a counter is raised by one. -/
structure Measurement.Fits {τ : Type} [Quantity τ] (x : Measurement τ) : Prop where
  labels : (x.labels.map Prod.fst).Perm x.metric.labelNames
  amount : x.metric.kind = .counter → x.amount = Quantity.one

/-- The labels are those of the metric, and no counter is to go down. -/
structure Measurement.Admissible {τ : Type} [Quantity τ] (x : Measurement τ) : Prop where
  labels : (x.labels.map Prod.fst).Perm x.metric.labelNames
  amount : x.metric.kind = .counter → Quantity.lt x.amount Quantity.zero = false

theorem Measurement.Fits.admissible {τ : Type} [Quantity τ] {x : Measurement τ}
    (hone : Quantity.lt (Quantity.one : τ) Quantity.zero = false) (h : x.Fits) : x.Admissible where
  labels := h.labels
  amount hkind := by rw [h.amount hkind, hone]

namespace Store

/-- The store takes what is admissible. -/
theorem accepts {τ : Type} [Quantity τ] {x : Measurement τ} (h : x.Admissible) :
    sink.Accepts x := by
  intro s
  obtain ⟨values, hkey⟩ := exists_key?_eq_ok h.labels
  cases hkind : x.metric.kind with
  | counter =>
    rw [Sink.measure_of_counter hkind]
    exact congrArg Prod.fst (increase_of_not_lt hkind hkey (h.amount hkind) s)
  | histogram =>
    rw [Sink.measure_of_histogram hkind]
    exact congrArg Prod.fst (observe_eq hkind hkey x.amount s)

variable {x : Measurement Rat} {m : Metric}

theorem take_of_counter (h : x.metric.kind = .counter) (s : Store Rat) :
    sink.take s x = (s.increase x.metric x.labels x.amount).2 := by
  rw [Sink.take, Sink.measure_of_counter h, sink]

theorem take_of_histogram (h : x.metric.kind = .histogram) (s : Store Rat) :
    sink.take s x = (s.observe x.metric x.labels x.amount).2 := by
  rw [Sink.take, Sink.measure_of_histogram h, sink]

theorem sound_take {s : Store Rat} (hs : s.Sound) (hx : x.Fits) : (sink.take s x).Sound := by
  cases hkind : x.metric.kind with
  | counter =>
    rw [take_of_counter hkind, hx.amount hkind]
    exact hs.increase hkind hx.labels zero_le_one
  | histogram =>
    rw [take_of_histogram hkind]
    exact hs.observe hkind hx.labels _

/-- Counters count the measurements of their own. -/
theorem value_foldl_take (hm : m.kind = .counter) (s : Store Rat) {xs : List (Measurement Rat)}
    (hxs : ∀ x ∈ xs, x.Fits) (labels : Labels) :
    (xs.foldl sink.take s).value m labels =
      s.value m labels + xs.countP fun x => m = x.metric ∧ labels.Perm x.labels := by
  induction xs generalizing s with
  | nil => simp
  | cons x xs ih =>
    rw [List.forall_mem_cons] at hxs
    have hfirst : (sink.take s x).value m labels =
        s.value m labels + if m = x.metric ∧ labels.Perm x.labels then 1 else 0 := by
      cases hkind : x.metric.kind with
      | counter =>
        rw [take_of_counter hkind, hxs.1.amount hkind]
        exact value_increase hkind hxs.1.labels zero_le_one s m labels
      | histogram =>
        rw [take_of_histogram hkind, value_observe hkind hxs.1.labels _ s hm, if_neg, add_zero]
        rintro ⟨rfl, -⟩
        rw [hm] at hkind
        cases hkind
    rw [List.foldl_cons, ih _ hxs.2, hfirst, List.countP_cons, Nat.cast_add, add_assoc,
      add_comm (Nat.cast _)]
    by_cases h : m = x.metric ∧ labels.Perm x.labels <;> simp [h]

/-- Histograms count the measurements of their own. -/
theorem observed_foldl_take (hm : m.kind = .histogram) {s : Store Rat} (hs : s.Sound)
    {xs : List (Measurement Rat)} (hxs : ∀ x ∈ xs, x.Fits) (labels : Labels) :
    (xs.foldl sink.take s).observed m labels =
      s.observed m labels + xs.countP fun x => m = x.metric ∧ labels.Perm x.labels := by
  induction xs generalizing s with
  | nil => rfl
  | cons x xs ih =>
    rw [List.forall_mem_cons] at hxs
    have hfirst : (sink.take s x).observed m labels =
        s.observed m labels + if m = x.metric ∧ labels.Perm x.labels then 1 else 0 := by
      cases hkind : x.metric.kind with
      | counter =>
        rw [take_of_counter hkind, hxs.1.amount hkind, Quantity.one_rat,
          observed_increase hkind hxs.1.labels zero_le_one s hm, if_neg, Nat.add_zero]
        rintro ⟨rfl, -⟩
        rw [hm] at hkind
        cases hkind
      | histogram =>
        rw [take_of_histogram hkind]
        exact observed_observe hkind hxs.1.labels _ hs m labels
    rw [List.foldl_cons, ih (sound_take hs hxs.1) hxs.2, hfirst, List.countP_cons, Nat.add_assoc,
      Nat.add_comm (List.countP _ _)]
    by_cases h : m = x.metric ∧ labels.Perm x.labels <;> simp [h]

/-- A measurement of one metric leaves what was added up for the others. -/
theorem value_take_of_ne {m : Metric} {x : Measurement Rat} (hx : x.metric ≠ m) (s : Store Rat)
    (labels : Labels) : (sink.take s x).value m labels = s.value m labels := by
  have hmodify : ∀ key f, key? x.metric x.labels = .ok key →
      (s.modify key f).value m labels = s.value m labels := by
    intro key f hkey
    rw [value, value, series?_modify hkey, if_neg fun h => hx h.1.symm]
  cases hkind : x.metric.kind with
  | counter =>
    rw [take_of_counter hkind, increase, if_neg (by rw [hkind]; decide)]
    cases hkey : key? x.metric x.labels with
    | error f => rfl
    | ok key =>
      dsimp only
      split_ifs
      · exact hmodify key _ hkey
      · exact hmodify key _ hkey
  | histogram =>
    rw [take_of_histogram hkind, observe, if_neg (by rw [hkind]; decide)]
    cases hkey : key? x.metric x.labels with
    | error f => rfl
    | ok key => exact hmodify key _ hkey

/-- Measurements of other metrics leave what was added up for a metric, be they refused or not. -/
theorem value_feed_of_ne {m : Metric} {xs : List (Measurement Rat)}
    (hxs : ∀ x ∈ xs, x.metric ≠ m) (s : Store Rat) (labels : Labels) :
    (sink.feed xs s).value m labels = s.value m labels := by
  induction xs generalizing s with
  | nil => rfl
  | cons x xs ih =>
    rw [List.forall_mem_cons] at hxs
    have hfirst := value_take_of_ne hxs.1 s labels
    rw [Sink.take] at hfirst
    cases hrun : sink.measure x s with
    | mk result s' =>
      rw [hrun] at hfirst
      cases result with
      | ok u => rw [Sink.feed_cons_of_ok hrun, ih hxs.2, hfirst]
      | error f => rw [Sink.feed_cons_of_error hrun, hfirst]

end Store

/-! ## The measurements of an event -/

/-- What comes of the attempt to read the log of an event, with logs or without, if a request for
the log would come to some end. -/
def Trial.reading (logs : Bool) (e : Event) (log : Except Failure Log.Summary) :
    Except Failure Reading :=
  if logs then
    match e.identity? with
    | none => .ok .failed
    | some _ =>
      match log with
      | .ok s => .ok (.read s)
      | .error f => if f.kind = .jobLogs then .ok .failed else .error f
  else .ok .disabled

namespace Event

/-- The labels of a job with its conclusion. -/
def concluded (e : Event) (conclusion : Text) : Labels :=
  e.labels.withLabel Labels.jobConclusion conclusion

/-- The labels of a job with how it failed. -/
def failed (e : Event) (logged : Text) : Labels :=
  (e.labels.withLabel Labels.exitCode (e.job.exitCodeLabel logged)).withLabel
    Labels.failedStep e.job.failedStepLabel

/-- What was read, if the log was. -/
def summary? : Except Failure Reading → Option Log.Summary
  | .ok (.read s) => some s
  | _ => none

/-- The exit code that a failure is counted with, if it is counted. -/
def exitCode? : Except Failure Reading → Option Text
  | .ok .disabled => some exitCodeUnknown
  | .ok (.read s) => some (text s.exitText)
  | _ => none

variable {τ : Type} [Quantity τ]

/-- The measurements of a failure. -/
def failures (e : Event) (conclusion logged : Text) : List (Measurement τ) :=
  if conclusion = Conclusion.failure then [.one .jobFailures (e.failed logged)] else []

/-- What the log of a job that started gives. -/
def queueMeasurements (e : Event) (reading : Except Failure Reading) : List (Measurement τ) :=
  (summary? reading).toList.map fun s =>
    ⟨.queueDuration, e.labels, Quantity.ofMicroseconds s.queueTime⟩

/-- What the log of a job that ended with a conclusion gives. -/
def runMeasurements (e : Event) (c : Text) (reading : Except Failure Reading) :
    List (Measurement τ) :=
  (exitCode? reading).toList.flatMap (e.failures c) ++ (summary? reading).toList.map fun s =>
    ⟨.runDuration, e.concluded c, Quantity.ofMicroseconds s.runTime⟩

/-- The measurements of the start of a job. -/
def startMeasurements (e : Event) (reading : Except Failure Reading) : List (Measurement τ) :=
  .one .jobsStarted e.labels :: e.queueMeasurements reading

/-- The measurements of the end of a job with a conclusion. -/
def endMeasurements (e : Event) (reading : Except Failure Reading) (c : Text) :
    List (Measurement τ) :=
  .one .jobsCompleted e.labels :: .one .jobConclusions (e.concluded c) ::
    e.runMeasurements c reading

/-- The measurements of an event. -/
def measurements (e : Event) (reading : Except Failure Reading) : List (Measurement τ) :=
  if e.action = Action.queued then [.one .jobsQueued e.labels]
  else if e.action = Action.inProgress then e.startMeasurements reading
  else if e.action = Action.completed then
    e.job.conclusion.elim [.one .jobsCompleted e.labels] (e.endMeasurements reading)
  else []

/-- The labels under which a metric measures an event, if it does. -/
def measured? (e : Event) (reading : Except Failure Reading) : Metric → Option Labels
  | .jobsQueued => if e.action = Action.queued then some e.labels else none
  | .jobsStarted => if e.action = Action.inProgress then some e.labels else none
  | .jobsCompleted => if e.action = Action.completed then some e.labels else none
  | .jobConclusions =>
    if e.action = Action.completed then e.job.conclusion.map e.concluded else none
  | .jobFailures =>
    if e.action = Action.completed ∧ e.job.conclusion = some Conclusion.failure then
      (exitCode? reading).map e.failed
    else none
  | .queueDuration =>
    if e.action = Action.inProgress ∧ (summary? reading).isSome then some e.labels else none
  | .runDuration =>
    if e.action = Action.completed ∧ (summary? reading).isSome then
      e.job.conclusion.map e.concluded
    else none
  | .inProgressDuration | .eventsDropped => none

theorem measurements_of_queued {e : Event} (h : e.action = Action.queued)
    (reading : Except Failure Reading) :
    (e.measurements reading : List (Measurement τ)) = [.one .jobsQueued e.labels] :=
  if_pos h

theorem measurements_of_inProgress {e : Event} (h : e.action = Action.inProgress)
    (reading : Except Failure Reading) :
    (e.measurements reading : List (Measurement τ)) = e.startMeasurements reading := by
  rw [measurements, h, if_neg Action.inProgress_ne_queued, if_pos rfl]

theorem measurements_of_completed {e : Event} (h : e.action = Action.completed)
    (reading : Except Failure Reading) :
    (e.measurements reading : List (Measurement τ)) =
      e.job.conclusion.elim [.one .jobsCompleted e.labels] (e.endMeasurements reading) := by
  rw [measurements, h, if_neg Action.completed_ne_queued, if_neg Action.completed_ne_inProgress,
    if_pos rfl]

/-- **No metric measures an event twice.** -/
theorem filter_measurements (e : Event) (reading : Except Failure Reading) (m : Metric) :
    ((e.measurements reading : List (Measurement τ)).filter fun x => m = x.metric).map
      Measurement.labels =
      (e.measured? reading m).toList := by
  by_cases hq : e.action = Action.queued
  · rw [measurements_of_queued hq]
    cases m <;> simp [measured?, Measurement.one, hq]
  by_cases hp : e.action = Action.inProgress
  · rw [measurements_of_inProgress hp, startMeasurements, queueMeasurements]
    cases hs : summary? reading <;> cases m <;> simp [measured?, Measurement.one, hp, hs]
  by_cases hc : e.action = Action.completed
  · rw [measurements_of_completed hc]
    cases hconclusion : e.job.conclusion with
    | none => cases m <;> simp [measured?, Measurement.one, hc, hconclusion]
    | some c =>
      rw [Option.elim_some, endMeasurements, runMeasurements]
      cases hs : summary? reading <;> cases hx : exitCode? reading <;>
        by_cases hf : c = Conclusion.failure <;> cases m <;>
        simp [measured?, Measurement.one, failures, hc, hconclusion, hs, hx, hf]
  · rw [measurements, if_neg hq, if_neg hp, if_neg hc]
    cases m <;> simp [measured?, hq, hp, hc]

theorem concluded_eq (e : Event) (c : Text) :
    e.concluded c = e.labels ++ [(Labels.jobConclusion, c)] :=
  Labels.withLabel_of_not_mem (by rw [map_fst_labels]; decide) c

theorem failed_eq (e : Event) (logged : Text) :
    e.failed logged = e.labels ++ [(Labels.exitCode, e.job.exitCodeLabel logged),
      (Labels.failedStep, e.job.failedStepLabel)] := by
  have hexit : Labels.exitCode ∉ e.labels.map Prod.fst := by
    rw [map_fst_labels]
    decide
  have hstep : Labels.failedStep ∉ Labels.standard ++ [Labels.exitCode] := by decide
  rw [failed, Labels.withLabel_of_not_mem hexit, Labels.withLabel_of_not_mem, List.append_assoc]
  · rfl
  · rw [List.map_append, map_fst_labels]
    exact hstep

theorem map_fst_labels_perm (e : Event) : (e.labels.map Prod.fst).Perm Labels.standard := by
  rw [map_fst_labels]

theorem map_fst_concluded (e : Event) (c : Text) :
    ((e.concluded c).map Prod.fst).Perm (Labels.standard ++ [Labels.jobConclusion]) := by
  rw [concluded_eq, List.map_append]
  exact e.map_fst_labels_perm.append_right _

theorem map_fst_failed (e : Event) (logged : Text) :
    ((e.failed logged).map Prod.fst).Perm
      (Labels.standard ++ [Labels.failedStep, Labels.exitCode]) := by
  rw [failed_eq, List.map_append]
  exact e.map_fst_labels_perm.append (.swap _ _ _)

/-- A metric measures an event under labels with its own label names. -/
theorem map_fst_of_measured? {e : Event} {reading : Except Failure Reading} {m : Metric}
    {labels : Labels} (h : e.measured? reading m = some labels) :
    (labels.map Prod.fst).Perm m.labelNames := by
  cases m with
  | jobsQueued | jobsStarted | jobsCompleted | queueDuration =>
    rw [measured?, Option.ite_none_right_eq_some] at h
    rw [← Option.some.inj h.2]
    exact e.map_fst_labels_perm
  | jobConclusions | runDuration =>
    rw [measured?, Option.ite_none_right_eq_some, Option.map_eq_some_iff] at h
    obtain ⟨-, c, -, rfl⟩ := h
    exact e.map_fst_concluded c
  | jobFailures =>
    rw [measured?, Option.ite_none_right_eq_some, Option.map_eq_some_iff] at h
    obtain ⟨-, logged, -, rfl⟩ := h
    exact e.map_fst_failed logged
  | inProgressDuration | eventsDropped => cases h

theorem amount_eq_one {e : Event} {reading : Except Failure Reading} {x : Measurement τ}
    (hx : x ∈ e.measurements reading) (hkind : x.metric.kind = .counter) :
    x.amount = Quantity.one := by
  rw [measurements] at hx
  split at hx
  · rw [List.mem_singleton.1 hx]
    rfl
  split at hx
  · rcases List.mem_cons.1 hx with rfl | hx
    · rfl
    · obtain ⟨s, -, rfl⟩ := List.mem_map.1 hx
      cases hkind
  split at hx
  · cases hconclusion : e.job.conclusion with
    | none =>
      rw [hconclusion] at hx
      rw [List.mem_singleton.1 hx]
      rfl
    | some c =>
      rw [hconclusion, Option.elim_some, endMeasurements, runMeasurements, List.mem_cons,
        List.mem_cons, List.mem_append] at hx
      rcases hx with rfl | rfl | hx | hx
      · rfl
      · rfl
      · obtain ⟨logged, -, hx⟩ := List.mem_flatMap.1 hx
        rw [failures] at hx
        split at hx
        · rw [List.mem_singleton.1 hx]
          rfl
        · exact absurd hx List.not_mem_nil
      · obtain ⟨s, -, rfl⟩ := List.mem_map.1 hx
        cases hkind
  · exact absurd hx List.not_mem_nil

/-- The measurements of an event fit their metrics. -/
theorem fits_of_mem_measurements {e : Event} {reading : Except Failure Reading}
    {x : Measurement τ} (hx : x ∈ e.measurements reading) : x.Fits where
  labels := by
    have hmem : x.labels ∈
        ((e.measurements reading).filter fun y => x.metric = y.metric).map Measurement.labels :=
      List.mem_map_of_mem (List.mem_filter.2 ⟨hx, decide_eq_true rfl⟩)
    rw [filter_measurements, Option.mem_toList] at hmem
    exact map_fst_of_measured? hmem
  amount := amount_eq_one hx

end Event

/-! ## Dispatches -/

namespace Trial

variable {τ σ : Type}

/-- As long as requests for logs come to some end, the action makes these measurements and no
others, up to the first that the sink refuses. -/
def Measures {α : Type} (sink : Sink τ σ) (log : Except Failure Log.Summary)
    (act : Act τ (Trial τ σ) α) (xs : List (Measurement τ)) : Prop :=
  ∀ r, r.world.log = log → (Reader.after act r).world.sink = sink.feed xs r.world.sink

variable {sink : Sink τ σ} {log : Except Failure Log.Summary} {α β : Type}

/-- An action that leaves the world as it is makes no measurements. -/
theorem Measures.bind_of_same_world {act : Act τ (Trial τ σ) α} {f : α → Act τ (Trial τ σ) β}
    {xs : List (Measurement τ)} (hact : ∀ r, ∃ a s, act r = .ok a s ∧ s.world = r.world)
    (hf : ∀ a, Measures sink log (f a) xs) : Measures sink log (act >>= f) xs := by
  intro r hr
  obtain ⟨a, s, hrun, hs⟩ := hact r
  rw [Reader.after_bind_of_ok hrun, hf a s (by rw [hs, hr]), hs]

theorem Measures.of_bind_pure {act : Act τ (Trial τ σ) Unit} {xs : List (Measurement τ)}
    (h : Measures sink log (act >>= fun _ => pure ()) xs) : Measures sink log act xs := by
  intro r hr
  rw [← h r hr]
  cases hrun : act r with
  | ok a s =>
    rw [Reader.after_of_ok hrun, Reader.after_bind_of_ok hrun]
    rfl
  | error f s => rw [Reader.after_of_error hrun, Reader.after_bind_of_error hrun]

/-- What follows a measurement is only done if the sink does not refuse it. -/
theorem Measures.cons (x : Measurement τ) {f : Unit → Act τ (Trial τ σ) β}
    {xs : List (Measurement τ)} (hf : Measures sink log (f ()) xs) :
    Measures sink log (Reader.onWorld (measure (sink.measure x)) >>= f) (x :: xs) := by
  intro r hr
  cases hrun : sink.measure x r.world.sink with
  | mk result s =>
    cases result with
    | ok u =>
      have hok := measure_of_ok (w := r.world) (f := sink.measure x) (by rw [hrun])
      rw [hrun] at hok
      rw [Reader.after_bind_of_ok (Reader.onWorld_of_ok hok), Sink.feed_cons_of_ok hrun]
      exact hf _ hr
    | error e =>
      rw [Reader.after_bind_of_error (Reader.onWorld_of_error (measure_of_error hrun)),
        Sink.feed_cons_of_error hrun]

theorem measures_pure (a : α) : Measures sink log (pure a : Act τ (Trial τ σ) α) [] :=
  fun _ _ => rfl

variable (interval : τ) (logs : Bool)

theorem measures_note (n : Notice) :
    Measures sink log (Reader.note (environment sink interval logs) n) [] := fun _ _ => rfl

theorem readLog_eq (sink : Sink τ σ) (e : Event) (r : Reader τ (Trial τ σ)) :
    Reader.readLog (environment sink interval logs) e r =
      match reading logs e r.world.log with
      | .ok x => .ok x r
      | .error f => .error f r := by
  cases logs with
  | false => rfl
  | true =>
    have hfetch : (environment sink interval true).fetch? = some fun _ => Trial.fetch := rfl
    unfold reading
    rw [if_pos rfl, Reader.readLog, hfetch]
    cases e.identity? with
    | none => rfl
    | some job =>
      dsimp only
      rw [Reader.tryCatch_apply, Reader.map_apply]
      cases hlog : r.world.log with
      | ok s =>
        have hread : Trial.fetch r.world = .ok s r.world := by rw [Trial.fetch, hlog]
        rw [Reader.onWorld_of_ok hread]
      | error f =>
        have hread : Trial.fetch r.world = .error f r.world := by rw [Trial.fetch, hlog]
        rw [Reader.onWorld_of_error hread]
        dsimp only
        split <;> rfl

/-- What is measured after the attempt to read a log depends on what came of it. -/
theorem measures_readLog_bind (e : Event) {f : Reading → Act τ (Trial τ σ) β}
    (xs : Except Failure Reading → List (Measurement τ))
    (hok : ∀ x, Measures sink log (f x) (xs (.ok x))) (herror : ∀ err, xs (.error err) = []) :
    Measures sink log (Reader.readLog (environment sink interval logs) e >>= f)
      (xs (reading logs e log)) := by
  intro r hr
  have hread := readLog_eq interval logs sink e r
  rw [hr] at hread
  cases hreading : reading logs e log with
  | ok x =>
    rw [hreading] at hread
    rw [Reader.after_bind_of_ok hread]
    exact hok x r hr
  | error err =>
    rw [hreading] at hread
    rw [Reader.after_bind_of_error hread, herror]
    rfl

variable [Quantity τ]

/-- A counter is raised. -/
theorem measures_countOne_bind {m : Metric} (hm : m.kind = .counter) (labels : Labels)
    {f : Unit → Act τ (Trial τ σ) β} {xs : List (Measurement τ)}
    (hf : Measures sink log (f ()) xs) :
    Measures sink log (Reader.countOne (environment sink interval logs) m labels >>= f)
      (.one m labels :: xs) := by
  have hcount : Reader.countOne (environment sink interval logs) m labels =
      Reader.onWorld (measure (sink.measure (.one m labels))) := by
    rw [Sink.measure_of_counter (x := .one m labels) hm]
    rfl
  rw [hcount]
  exact .cons _ hf

/-- A value is sorted into a histogram. -/
theorem measures_observeDuration {m : Metric} (hm : m.kind = .histogram) (labels : Labels)
    (d : Int) :
    Measures sink log (Reader.observeDuration (environment sink interval logs) m labels d)
      [⟨m, labels, Quantity.ofMicroseconds d⟩] := by
  have hobserve : Reader.observeDuration (environment sink interval logs) m labels d =
      Reader.onWorld (measure (sink.measure ⟨m, labels, Quantity.ofMicroseconds d⟩)) := by
    rw [Sink.measure_of_histogram (x := ⟨m, labels, Quantity.ofMicroseconds d⟩) hm]
    rfl
  rw [hobserve]
  exact .of_bind_pure (.cons _ (measures_pure ()))

variable (e : Event)

theorem measures_countFailure_bind (c logged : Text) {f : Unit → Act τ (Trial τ σ) β}
    {xs : List (Measurement τ)} (hf : Measures sink log (f ()) xs) :
    Measures sink log (Reader.countFailure (environment sink interval logs) e c logged >>= f)
      (e.failures c logged ++ xs) := by
  rw [Reader.countFailure, Event.failures]
  split
  · exact measures_countOne_bind interval logs (m := .jobFailures) rfl (e.failed logged) hf
  · exact hf

theorem measures_startJob :
    Measures sink log (Reader.startJob (environment sink interval logs) e)
      (e.startMeasurements (reading logs e log)) := by
  refine measures_countOne_bind interval logs rfl e.labels ?_
  refine .bind_of_same_world (fun r => ⟨(), _, rfl, rfl⟩) fun _ => ?_
  refine measures_readLog_bind interval logs e e.queueMeasurements (fun x => ?_) fun _ => rfl
  cases x with
  | disabled => exact measures_pure ()
  | failed => exact measures_pure ()
  | read s =>
    refine .bind_of_same_world (fun r => ⟨(), r, rfl, rfl⟩) fun _ => ?_
    exact measures_observeDuration interval logs rfl e.labels s.queueTime

theorem measures_completeJob :
    Measures sink log (Reader.completeJob (environment sink interval logs) e)
      (e.job.conclusion.elim [.one .jobsCompleted e.labels]
        (e.endMeasurements (reading logs e log))) := by
  rw [Reader.completeJob]
  cases e.job.conclusion with
  | none =>
    refine measures_countOne_bind interval logs rfl e.labels ?_
    refine .bind_of_same_world (fun r => ⟨(), _, rfl, rfl⟩) fun _ => ?_
    exact measures_note interval logs _
  | some c =>
    refine measures_countOne_bind interval logs rfl e.labels ?_
    refine .bind_of_same_world (fun r => ⟨(), _, rfl, rfl⟩) fun _ => ?_
    refine measures_countOne_bind interval logs rfl (e.concluded c) ?_
    refine measures_readLog_bind interval logs e (e.runMeasurements c) (fun x => ?_) fun _ => rfl
    cases x with
    | failed => exact measures_pure ()
    | disabled =>
      have hxs : (e.runMeasurements c (.ok .disabled) : List (Measurement τ)) =
          e.failures c exitCodeUnknown ++ [] := by
        simp [Event.runMeasurements, Event.exitCode?, Event.summary?]
      rw [hxs]
      exact .of_bind_pure
        (measures_countFailure_bind interval logs e c exitCodeUnknown (measures_pure ()))
    | read s =>
      have hxs : (e.runMeasurements c (.ok (.read s)) : List (Measurement τ)) =
          e.failures c (text s.exitText) ++
            [⟨.runDuration, e.concluded c, Quantity.ofMicroseconds s.runTime⟩] := by
        simp [Event.runMeasurements, Event.exitCode?, Event.summary?]
      rw [hxs]
      refine .bind_of_same_world (fun r => ⟨(), r, rfl, rfl⟩) fun _ => ?_
      refine measures_countFailure_bind interval logs e c (text s.exitText) ?_
      exact measures_observeDuration interval logs rfl (e.concluded c) s.runTime

/-- The measurements of a delivery. -/
def measurements (logs : Bool) (d : Delivery τ) : List (Measurement τ) :=
  match d.item with
  | .event e => e.measurements (reading logs e d.log)
  | .other _ | .object _ => []

theorem fits_of_mem_measurements {logs : Bool} {d : Delivery τ} {x : Measurement τ}
    (hx : x ∈ measurements logs d) : x.Fits := by
  rw [measurements] at hx
  split at hx
  · exact Event.fits_of_mem_measurements hx
  · cases hx
  · cases hx

/-- **A dispatch feeds the measurements of its event to the sink**, and nothing else. -/
theorem sink_deliver (r : Reader τ (Trial τ σ)) (d : Delivery τ) :
    (deliver sink interval logs r d).world.sink =
      sink.feed (measurements logs d) r.world.sink := by
  obtain ⟨item, time, log⟩ := d
  cases item with
  | other v => rfl
  | object o => rcases o with ⟨_ | _, _⟩ <;> rfl
  | event e =>
    suffices h : Measures sink log (Reader.dispatchEvent (environment sink interval logs) e)
        (e.measurements (reading logs e log)) from h ⟨r.registry, r.queue, ⟨time, log, _⟩⟩ rfl
    rw [Reader.dispatchEvent, Event.measurements]
    split
    · exact .of_bind_pure (measures_countOne_bind interval logs rfl e.labels (measures_pure ()))
    split
    · exact measures_startJob interval logs e
    split
    · exact measures_completeJob interval logs e
    · exact measures_note interval logs _

end Trial

/-- A run of dispatches leaves all measurements in the store. -/
theorem Trial.sink_deliverAll (interval : Rat) (logs : Bool)
    (r : Reader Rat (Trial Rat (Store Rat))) (ds : List (Delivery Rat)) :
    (deliverAll Store.sink interval logs r ds).world.sink =
      (ds.flatMap (measurements logs)).foldl Store.sink.take r.world.sink := by
  induction ds using List.reverseRecOn with
  | nil => rfl
  | append_singleton ds d ih =>
    have haccepts : ∀ x ∈ measurements logs d, (Store.sink : Sink Rat (Store Rat)).Accepts x :=
      fun x hx => Store.accepts ((fits_of_mem_measurements hx).admissible rfl)
    rw [deliverAll_concat, sink_deliver, Sink.feed_eq_foldl haccepts, ih, List.flatMap_append,
      List.foldl_append, List.flatMap_singleton]

end JobMeter
