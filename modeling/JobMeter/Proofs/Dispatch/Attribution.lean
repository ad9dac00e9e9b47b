import JobMeter.Proofs.Dispatch.Calls

/-!
# What a failure is attributed to

The failure of a job is counted under the step at which it failed and under an exit code.  Both are
found in one walk over the steps, which ends at the first step that failed or ran out of time.

* `FirstFailed` — the first step that failed, with its place among all steps;
  `Job.failurePointFrom?_eq_some`: it is what the walk finds.
* `Job.Attributed` — what the labels of a failure say of the steps and of the log
  (`Job.attributed`).
* `Sink.filter_calls` — a metric that is measured once is called for once.
* `Event.metric_ne_of_measured?`, `Event.measurements_of_failed` — when a failure is measured.
* `failures_attributed` — **a failure is attributed to the first step that failed**.
-/

namespace JobMeter

/-- The step failed, or it ran out of time. -/
def JobStep.Failed (s : JobStep) : Prop :=
  s.conclusion = some Conclusion.failure ∨ s.conclusion = some Conclusion.timedOut

instance (s : JobStep) : Decidable s.Failed := inferInstanceAs (Decidable (_ ∨ _))

/-- The step `s` at the place `n` is the first of the steps that failed. -/
structure FirstFailed (steps : List JobStep) (n : Nat) (s : JobStep) : Prop where
  place : steps[n]? = some s
  failed : s.Failed
  first : ∀ k < n, ∀ t, steps[k]? = some t → ¬ t.Failed

namespace FirstFailed

variable {steps : List JobStep} {s t : JobStep} {n : Nat}

theorem head (h : s.Failed) : FirstFailed (s :: steps) 0 s where
  place := rfl
  failed := h
  first k hk := absurd hk (Nat.not_lt_zero k)

/-- A step that did not fail is passed over, and counted. -/
theorem cons_iff (h : ¬ t.Failed) :
    FirstFailed (t :: steps) n s ↔ ∃ m, n = m + 1 ∧ FirstFailed steps m s := by
  constructor
  · rintro ⟨hplace, hfailed, hfirst⟩
    cases n with
    | zero =>
      obtain rfl : t = s := Option.some.inj hplace
      exact absurd hfailed h
    | succ m =>
      exact ⟨m, rfl, hplace, hfailed, fun k hk u hu => hfirst (k + 1) (Nat.succ_lt_succ hk) u hu⟩
  · rintro ⟨m, rfl, hplace, hfailed, hfirst⟩
    refine ⟨hplace, hfailed, fun k hk u hu => ?_⟩
    cases k with
    | zero =>
      obtain rfl : t = u := Option.some.inj hu
      exact h
    | succ k => exact hfirst k (Nat.lt_of_succ_lt_succ hk) u hu

theorem unique {m : Nat} (hs : FirstFailed steps n s) (ht : FirstFailed steps m t) :
    n = m ∧ s = t := by
  have hnm : n = m := by
    rcases Nat.lt_trichotomy n m with h | h | h
    · exact absurd hs.failed (ht.first n h s hs.place)
    · exact h
    · exact absurd ht.failed (hs.first m h t ht.place)
  subst hnm
  exact ⟨rfl, Option.some.inj (hs.place.symm.trans ht.place)⟩

end FirstFailed

namespace Job

variable {steps : List JobStep} {j : Job} {n : Nat} {s : JobStep}

/-- **The search finds the first step that failed.** -/
theorem failurePointFrom?_eq_some {base : Nat} {p : FailurePoint} :
    failurePointFrom? base steps = some p ↔ ∃ n s, FirstFailed steps n s ∧
      p = ⟨base + n, decide (s.conclusion = some Conclusion.timedOut)⟩ := by
  -- a step that failed is the first one, and so the one that the search finds
  have hhead {base : Nat} {t : JobStep} {rest : List JobStep} (ht : t.Failed) :
      some (⟨base, decide (t.conclusion = some Conclusion.timedOut)⟩ : FailurePoint) = some p ↔
        ∃ n s, FirstFailed (t :: rest) n s ∧
          p = ⟨base + n, decide (s.conclusion = some Conclusion.timedOut)⟩ := by
    constructor
    · intro h
      obtain rfl := Option.some.inj h
      exact ⟨0, t, .head ht, rfl⟩
    · rintro ⟨n, s, hs, rfl⟩
      obtain ⟨rfl, rfl⟩ := hs.unique (.head ht)
      rfl
  induction steps generalizing base with
  | nil =>
    constructor
    · intro h
      cases h
    · rintro ⟨n, s, hs, -⟩
      cases hs.place
  | cons t rest ih =>
    have hne : Conclusion.failure ≠ Conclusion.timedOut := by decide
    rw [failurePointFrom?]
    split
    · rename_i hfailure
      rw [← hhead (.inl hfailure)]
      simp [hfailure, hne]
    split
    · rename_i htimedOut
      rw [← hhead (.inr htimedOut)]
      simp [htimedOut]
    · rename_i hfailure htimedOut
      have ht : ¬ t.Failed := fun h => h.elim hfailure htimedOut
      refine ih.trans ?_
      constructor
      · rintro ⟨n, s, hs, rfl⟩
        exact ⟨n + 1, s, (FirstFailed.cons_iff ht).2 ⟨n, rfl, hs⟩, by rw [Nat.succ_add_eq_add_succ]⟩
      · rintro ⟨n, s, hs, rfl⟩
        obtain ⟨m, rfl, hrest⟩ := (FirstFailed.cons_iff ht).1 hs
        exact ⟨m, s, hrest, by rw [Nat.succ_add_eq_add_succ]⟩

theorem failurePoint?_of_first (h : FirstFailed j.steps n s) :
    j.failurePoint? = some ⟨n, decide (s.conclusion = some Conclusion.timedOut)⟩ :=
  failurePointFrom?_eq_some.2 ⟨n, s, h, by rw [Nat.zero_add]⟩

theorem failurePoint?_eq_none (h : ∀ s ∈ j.steps, ¬ s.Failed) : j.failurePoint? = none := by
  refine Option.eq_none_iff_forall_ne_some.2 fun p hp => ?_
  obtain ⟨n, s, hs, -⟩ := failurePointFrom?_eq_some.1 hp
  exact h s (List.mem_of_getElem? hs.place) hs.failed

/-- The step that a failure is attributed to. -/
theorem failedStepLabel_of_first (h : FirstFailed j.steps n s) :
    j.failedStepLabel = text (toString n) := by
  rw [failedStepLabel, failurePoint?_of_first h]

theorem failedStepLabel_of_none (h : ∀ s ∈ j.steps, ¬ s.Failed) :
    j.failedStepLabel = text "null" := by
  rw [failedStepLabel, failurePoint?_eq_none h]

/-- A job that ran out of time has this for an exit code, and any other job what is logged. -/
theorem exitCodeLabel_eq (j : Job) (logged : Text) :
    ((∃ n s, FirstFailed j.steps n s ∧ s.conclusion = some Conclusion.timedOut) →
      j.exitCodeLabel logged = Conclusion.timedOut) ∧
    ((¬ ∃ n s, FirstFailed j.steps n s ∧ s.conclusion = some Conclusion.timedOut) →
      j.exitCodeLabel logged = logged) := by
  constructor
  · rintro ⟨n, s, hs, htimedOut⟩
    rw [exitCodeLabel, failurePoint?_of_first hs, htimedOut]
    rfl
  · intro hnone
    rw [exitCodeLabel]
    split
    · rename_i n hpoint
      obtain ⟨m, s, hs, hp⟩ := failurePointFrom?_eq_some.1 hpoint
      injection hp with _ htimedOut
      exact absurd ⟨m, s, hs, of_decide_eq_true htimedOut.symm⟩ hnone
    · rfl

end Job

/-! ## The calls for a failure -/

namespace Sink

variable {τ σ : Type} {sink : Sink τ σ} {xs before after : List (Measurement τ)} {x : Measurement τ}
  {s : σ}

/-- Each call is one for a measurement. -/
theorem mem_of_mem_calls {c : Call τ} (h : c ∈ sink.calls xs s) : c.measurement ∈ xs := by
  induction xs generalizing s with
  | nil => cases h
  | cons x xs ih =>
    rw [calls, List.mem_cons] at h
    rcases h with rfl | h
    · exact List.mem_cons_self
    · split at h
      · exact List.mem_cons_of_mem _ (ih h)
      · cases h

/-- A metric that is measured once has one call, if none before it is refused. -/
theorem filter_calls {m : Metric} (hx : x.metric = m) (hbefore : ∀ y ∈ before, y.metric ≠ m)
    (hafter : ∀ y ∈ after, y.metric ≠ m)
    (h : ∀ c ∈ sink.calls (before ++ x :: after) s, c.measurement ∈ before → c.result = .ok ()) :
    ∃ c, (sink.calls (before ++ x :: after) s).filter (fun c => c.measurement.metric = m) = [c] ∧
      c.kind = x.metric.kind ∧ c.measurement = x := by
  obtain ⟨s', hs'⟩ := calls_append_of_ok h
  have hnone : (before.map Measurement.taken).filter (fun c => c.measurement.metric = m) = [] := by
    simpa [List.filter_eq_nil_iff, Measurement.taken] using hbefore
  rw [hs', List.filter_append, hnone, List.nil_append, calls, List.filter_cons_of_pos (by simpa)]
  refine ⟨_, congrArg _ (List.filter_eq_nil_iff.2 fun c hc => ?_), rfl, rfl⟩
  split at hc
  · simpa using hafter _ (mem_of_mem_calls hc)
  · cases hc

end Sink

/-! ## The measurements of a completed job -/

namespace Event

variable {τ : Type} [Quantity τ] {e : Event} {reading : Except Failure Reading}

/-- A metric that does not measure an event is not among its measurements. -/
theorem metric_ne_of_measured? {m : Metric} (h : e.measured? reading m = none)
    {x : Measurement τ} (hx : x ∈ e.measurements reading) : x.metric ≠ m := by
  intro hm
  have hlabels := filter_measurements (τ := τ) e reading m
  rw [h, Option.toList_none, List.map_eq_nil_iff, List.filter_eq_nil_iff] at hlabels
  exact hlabels x hx (by simp [hm])

/-- The failure of a job is measured after its completion and its conclusion. -/
theorem measurements_of_failed (haction : e.action = Action.completed)
    (hconclusion : e.job.conclusion = some Conclusion.failure) {logged : Text}
    (hlogged : exitCode? reading = some logged) :
    (e.measurements reading : List (Measurement τ)) =
      [.one .jobsCompleted e.labels, .one .jobConclusions (e.concluded Conclusion.failure)] ++
        .one .jobFailures (e.failed logged) :: (summary? reading).toList.map fun s =>
          ⟨.runDuration, e.concluded Conclusion.failure, Quantity.ofMicroseconds s.runTime⟩ := by
  rw [measurements_of_completed haction, hconclusion, Option.elim_some, endMeasurements,
    runMeasurements, hlogged]
  simp [failures]

/-- Where there is a log to read, the exit code of a failure is that of the log. -/
theorem exitCode?_reading_of_read (hidentity : e.identity?.isSome = true) (s : Log.Summary) :
    exitCode? (Trial.reading true e (.ok s)) = some (text s.exitText) := by
  obtain ⟨job, hjob⟩ := Option.isSome_iff_exists.1 hidentity
  rw [Trial.reading, if_pos rfl, hjob]
  rfl

/-- If the log could not be read, failures are not counted. -/
theorem exitCode?_reading_eq_none {log : Except Failure Log.Summary}
    (h : ¬ (e.identity?.isSome = true ∧ ∃ s, log = .ok s)) :
    exitCode? (Trial.reading true e log) = none := by
  unfold Trial.reading
  rw [if_pos rfl]
  cases hjob : e.identity? with
  | none => rfl
  | some job =>
    cases log with
    | ok s => exact absurd ⟨by rw [hjob]; rfl, s, rfl⟩ h
    | error f =>
      dsimp only
      split <;> rfl

end Event

/-- No log gives the exit code that jobs have that ran out of time. -/
theorem exitText_ne_timedOut (s : Log.Summary) : text s.exitText ≠ Conclusion.timedOut := by
  intro h
  have htext := congrArg String.toList (text_inj.1 h)
  rw [Log.Summary.exitText] at htext
  cases hcode : s.exitCode with
  | none =>
    rw [hcode] at htext
    exact absurd htext (by decide)
  | some d =>
    rw [hcode] at htext
    exact absurd (congrArg List.length htext) (by simp)

/-- What the labels of a failure say: the first step that failed, and the exit code, which is
`logged` unless that step ran out of time. -/
structure Job.Attributed (j : Job) (logged step exit : Text) : Prop where
  step_of_first : ∀ n s, FirstFailed j.steps n s → step = text (toString n)
  step_of_none : (∀ s ∈ j.steps, ¬ s.Failed) → step = text "null"
  timedOut_iff : exit = Conclusion.timedOut ↔
    ∃ n s, FirstFailed j.steps n s ∧ s.conclusion = some Conclusion.timedOut
  exit_eq : exit ≠ Conclusion.timedOut → exit = logged

theorem Job.attributed (j : Job) {logged : Text} (h : logged ≠ Conclusion.timedOut) :
    j.Attributed logged j.failedStepLabel (j.exitCodeLabel logged) := by
  obtain ⟨htimedOut, hother⟩ := j.exitCodeLabel_eq logged
  refine ⟨fun n s => failedStepLabel_of_first, failedStepLabel_of_none,
    ⟨fun hexit => ?_, htimedOut⟩, fun hexit => hother fun hfirst => hexit (htimedOut hfirst)⟩
  by_contra hnone
  rw [hother hnone] at hexit
  exact h hexit

/-- **A failure is attributed to the first step that failed.**  Dispatch an event about a completed
job, with logs or without and with whatever comes of reading the log, to any sink.

* If its conclusion is not that it failed, no failure is counted, whatever its steps.
* If there are logs and the log could not be read, no failure is counted either.
* Otherwise exactly one call counts a failure, unless the sink refused a call before it.  Beside the
  labels of the job it tells the place of the first step that failed or ran out of time, counted
  from zero over all steps, and the exit code. -/
theorem failures_attributed {τ σ : Type} [Quantity τ] (sink : Sink τ σ) (interval : τ)
    (logs : Bool) (r : Reader τ (Trial.Watched τ σ)) (e : Event)
    (haction : e.action = Action.completed) (time : τ) (log : Except Failure Log.Summary) :
    ∃ calls : List (Sink.Call τ),
      (Trial.deliver sink.watched interval logs r ⟨.event e, time, log⟩).world.sink.2 =
        calls.reverse ++ r.world.sink.2 ∧
      let failures := calls.filter fun c => c.measurement.metric = .jobFailures
      (e.job.conclusion ≠ some Conclusion.failure → failures = []) ∧
      (logs = true → ¬ (e.identity?.isSome = true ∧ ∃ s, log = .ok s) → failures = []) ∧
      (e.job.conclusion = some Conclusion.failure → ∀ logged : Text,
        (logs = false ∧ logged = text "na" ∨
          logs = true ∧ e.identity?.isSome = true ∧ ∃ s, log = .ok s ∧ logged = text s.exitText) →
        (∀ c ∈ calls, c.measurement.metric = .jobsCompleted ∨
          c.measurement.metric = .jobConclusions → c.result = .ok ()) →
        ∃ c step exit, failures = [c] ∧ c.kind = .counter ∧
          c.measurement = ⟨.jobFailures,
            e.labels ++ [(Labels.exitCode, exit), (Labels.failedStep, step)], Quantity.one⟩ ∧
          e.job.Attributed logged step exit) := by
  refine ⟨sink.calls (e.measurements (Trial.reading logs e log)) r.world.sink.1, ?_, ?_⟩
  · rw [Trial.sink_deliver, Sink.feed_watched]
    rfl
  intro failures
  have hnone (h : e.measured? (Trial.reading logs e log) .jobFailures = none) : failures = [] := by
    refine List.filter_eq_nil_iff.2 fun c hc => ?_
    simpa using Event.metric_ne_of_measured? h (Sink.mem_of_mem_calls hc)
  refine ⟨fun hconclusion => hnone ?_, fun hlogs hread => hnone ?_,
    fun hconclusion logged hlogged hok => ?_⟩
  · rw [Event.measured?, if_neg fun h => hconclusion h.2]
  · subst hlogs
    rw [Event.measured?, Event.exitCode?_reading_eq_none hread]
    simp
  · have hexit : Event.exitCode? (Trial.reading logs e log) = some logged ∧
        logged ≠ Conclusion.timedOut := by
      rcases hlogged with ⟨rfl, rfl⟩ | ⟨rfl, hidentity, s, rfl, rfl⟩
      · exact ⟨rfl, by decide⟩
      · exact ⟨Event.exitCode?_reading_of_read hidentity s, exitText_ne_timedOut s⟩
    have hxs : (e.measurements (Trial.reading logs e log) : List (Measurement τ)) = _ :=
      Event.measurements_of_failed haction hconclusion hexit.1
    have hmetric : (Measurement.one .jobFailures (e.failed logged) : Measurement τ).metric =
        .jobFailures := rfl
    rw [hxs] at hok
    obtain ⟨c, hc, hkind, hmeasurement⟩ := Sink.filter_calls hmetric (by simp [Measurement.one])
      (by simp) fun c hc hbefore => hok c hc (by
        simp only [List.mem_cons, List.not_mem_nil, or_false] at hbefore
        rcases hbefore with h | h
        · exact .inl (by rw [h]; rfl)
        · exact .inr (by rw [h]; rfl))
    rw [← hxs] at hc
    refine ⟨c, _, _, hc, hkind, ?_, e.job.attributed hexit.2⟩
    rw [hmeasurement, Measurement.one, Event.failed_eq]

/-- Of the steps of a failed job the first has no conclusion, the second was skipped, the third ran
out of time, and the fourth failed.  The log gives the exit code 3, which is not told. -/
theorem failures_attributed_timedOut :
    let steps : List JobStep := [⟨none, none, none⟩, ⟨none, none, some (text "skipped")⟩,
      ⟨none, none, some Conclusion.timedOut⟩, ⟨none, none, some Conclusion.failure⟩]
    let job : Job := ⟨1, none, [], none, none, some Conclusion.failure, steps⟩
    let e : Event :=
      ⟨Action.completed, job, some ⟨some (text "repo"), none, some ⟨some (text "owner")⟩⟩, none⟩
    let summary : Log.Summary := ⟨some '3', 7, 9⟩
    let r : Reader Rat (Trial.Watched Rat (Store Rat)) := ⟨{}, ⟨0, []⟩, ⟨4, .ok summary, .empty, []⟩⟩
    let calls := (Trial.deliver Store.sink.watched 5 true r ⟨.event e, 4, .ok summary⟩).world.sink.2
    e.action = Action.completed ∧ e.identity?.isSome = true ∧ (∀ c ∈ calls, c.result = .ok ()) ∧
      ∃ c, (calls.filter fun c => c.measurement.metric = .jobFailures) = [c] ∧
        c.measurement.labels =
          e.labels ++ [(Labels.exitCode, text "timed_out"), (Labels.failedStep, text "2")] := by
  intro steps job e summary r calls
  have hidentity : e.identity?.isSome = true := by decide
  have hall : calls.all (fun c => c.result.isOk) = true := by decide +kernel
  have hok : ∀ c ∈ calls, c.result = .ok () := by
    intro c hc
    have hc := List.all_eq_true.1 hall c hc
    cases hresult : c.result with
    | ok u => rfl
    | error f =>
      rw [hresult] at hc
      cases hc
  have hfirst : FirstFailed steps 2 ⟨none, none, some Conclusion.timedOut⟩ := by
    refine ⟨rfl, .inr rfl, fun k hk t ht => ?_⟩
    rcases k with _ | _ | k
    · obtain rfl := Option.some.inj ht
      decide
    · obtain rfl := Option.some.inj ht
      decide
    · omega
  obtain ⟨calls', hcalls, -, -, hfailed⟩ :=
    failures_attributed Store.sink 5 true r e rfl 4 (.ok summary)
  have hreverse : calls = calls'.reverse := hcalls.trans (List.append_nil _)
  obtain ⟨c, step, exit, hc, -, hmeasurement, hattributed⟩ := hfailed rfl (text "3")
    (.inr ⟨rfl, hidentity, summary, rfl, rfl⟩)
    fun c hc _ => hok c (by rw [hreverse]; exact List.mem_reverse.2 hc)
  refine ⟨rfl, hidentity, hok, c, ?_, ?_⟩
  · rw [hreverse, List.filter_reverse, hc]
    rfl
  · rw [hmeasurement, hattributed.timedOut_iff.2 ⟨2, _, hfirst, rfl⟩,
      hattributed.step_of_first 2 _ hfirst]
    rfl

end JobMeter
