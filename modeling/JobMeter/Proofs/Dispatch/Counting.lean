import JobMeter.Proofs.Dispatch.Measurements
import Mathlib.Algebra.BigOperators.Finprod

/-!
# The counters count

After a run of dispatches into a fresh metric store, each series holds the number of the deliveries
that it is about, and a delivery that ends with a failure counts for what it measured before.

* `Trial.measured?` — the labels under which a metric measures a delivery, if it does.
* `Trial.value_deliverAll`, `Trial.observed_deliverAll` — a counter, or the number of values of a
  histogram, is the number of the deliveries that its metric measures under the labels of it.
* `counters_count` — **the counters count**: what this means for each metric, in terms of the events
  and of what came of their logs.
-/

namespace JobMeter

namespace Delivery

variable {τ : Type}

/-- The action of the event, if the item is one. -/
def action? (d : Delivery τ) : Option Text :=
  match d.item with
  | .event e => some e.action
  | .other _ | .object _ => none

/-- Is the item an event with an action, about a job with some labels? -/
def isAbout (d : Delivery τ) (action : Text) (labels : Labels) : Bool :=
  match d.item with
  | .event e => e.action = action ∧ labels.Perm e.labels
  | .other _ | .object _ => false

/-- Is the item an event about a job with a conclusion? -/
def concludes (d : Delivery τ) (conclusion : Text) : Bool :=
  match d.item with
  | .event e => e.job.conclusion = some conclusion
  | .other _ | .object _ => false

/-- Is there a log that can be read, if logs can be had at all? -/
def logRead (logs : Bool) (d : Delivery τ) : Bool :=
  match d.item with
  | .event e => logs && e.identity?.isSome && d.log.isOk
  | .other _ | .object _ => false

end Delivery

namespace Trial

/-- The labels under which a metric measures a delivery, if it does. -/
def measured? (logs : Bool) (d : Delivery Rat) (m : Metric) : Option Labels :=
  match d.item with
  | .event e => e.measured? (reading logs e d.log) m
  | .other _ | .object _ => none

theorem filter_measurements (logs : Bool) (d : Delivery Rat) (m : Metric) :
    ((measurements logs d).filter fun x => m = x.metric).map Measurement.labels =
      (measured? logs d m).toList := by
  rw [measurements, measured?]
  cases d.item with
  | event e => exact e.filter_measurements _ m
  | other v => rfl
  | object o => rfl

/-- The measurements of a metric under some labels are as many as the deliveries that it measures
under these labels. -/
theorem countP_measurements (logs : Bool) (ds : List (Delivery Rat)) (m : Metric)
    (labels : Labels) :
    (ds.flatMap (measurements logs)).countP (fun x => m = x.metric ∧ labels.Perm x.labels) =
      ds.countP fun d => (measured? logs d m).any fun ls => labels.Perm ls := by
  induction ds with
  | nil => rfl
  | cons d ds ih =>
    have hfirst : (measurements logs d).countP (fun x => m = x.metric ∧ labels.Perm x.labels) =
        if (measured? logs d m).any fun ls => labels.Perm ls then 1 else 0 := by
      have hcount : (measurements logs d).countP (fun x => m = x.metric ∧ labels.Perm x.labels) =
          (((measurements logs d).filter fun x => m = x.metric).map Measurement.labels).countP
            fun ls => labels.Perm ls := by
        rw [List.countP_map, List.countP_filter]
        refine List.countP_congr fun x _ => ?_
        simp [and_comm]
      rw [hcount, filter_measurements]
      cases measured? logs d m with
      | none => rfl
      | some ls => by_cases h : labels.Perm ls <;> simp [h]
    rw [List.flatMap_cons, List.countP_append, ih, hfirst, List.countP_cons, Nat.add_comm]

theorem forall_fits (logs : Bool) (ds : List (Delivery Rat)) :
    ∀ x ∈ ds.flatMap (measurements logs), x.Fits := by
  intro x hx
  obtain ⟨d, -, hd⟩ := List.mem_flatMap.1 hx
  exact fits_of_mem_measurements hd

variable (interval : Rat) (logs : Bool) (queue : EventQueue) (time : Rat)
  (log : Except Failure Log.Summary) (ds : List (Delivery Rat))

/-- **A counter counts what its metric measures.** -/
theorem value_deliverAll {m : Metric} (hm : m.kind = .counter) {labels : Labels}
    {p : Delivery Rat → Bool}
    (hp : ∀ d, ((measured? logs d m).any fun ls => labels.Perm ls) = p d) :
    (deliverAll Store.sink interval logs { queue := queue, world := ⟨time, log, .empty⟩ }
      ds).world.sink.value m labels = ds.countP p := by
  have hfits := forall_fits logs ds
  rw [sink_deliverAll, Store.value_foldl_take hm _ hfits, countP_measurements, funext hp,
    Store.value_empty, zero_add]

/-- **A histogram counts what its metric measures.** -/
theorem observed_deliverAll {m : Metric} (hm : m.kind = .histogram) {labels : Labels}
    {p : Delivery Rat → Bool}
    (hp : ∀ d, ((measured? logs d m).any fun ls => labels.Perm ls) = p d) :
    (deliverAll Store.sink interval logs { queue := queue, world := ⟨time, log, .empty⟩ }
      ds).world.sink.observed m labels = ds.countP p := by
  have hfits := forall_fits logs ds
  rw [sink_deliverAll, Store.observed_foldl_take hm Store.sound_empty hfits, countP_measurements,
    funext hp, Store.observed_empty, Nat.zero_add]

end Trial

/-! ## What each metric measures -/

/-- Labels with one more name agree exactly if they agree without it and in its value. -/
theorem append_perm_append {labels labels' : Labels} {name : Text}
    (h : name ∉ labels'.map Prod.fst) (v v' : Text) :
    (labels ++ [(name, v)]).Perm (labels' ++ [(name, v')]) ↔ labels.Perm labels' ∧ v = v' := by
  constructor
  · intro hperm
    have hmem : (name, v) ∈ labels' ++ [(name, v')] := hperm.mem_iff.1 (by simp)
    rcases List.mem_append.1 hmem with hmem | hmem
    · exact absurd (List.mem_map.2 ⟨_, hmem, rfl⟩) h
    · obtain rfl : v = v' := by simpa using hmem
      exact ⟨(List.perm_append_right_iff _).1 hperm, rfl⟩
  · rintro ⟨hperm, rfl⟩
    exact hperm.append_right _

namespace Event

variable (e : Event) (labels : Labels)

theorem perm_concluded (c c' : Text) :
    (labels ++ [(Labels.jobConclusion, c)]).Perm (e.concluded c') ↔
      labels.Perm e.labels ∧ c = c' := by
  rw [concluded_eq]
  exact append_perm_append (by rw [map_fst_labels]; decide) c c'

theorem perm_failed (step code logged : Text) :
    (labels ++ [(Labels.failedStep, step), (Labels.exitCode, code)]).Perm (e.failed logged) ↔
      labels.Perm e.labels ∧ step = e.job.failedStepLabel ∧ code = e.job.exitCodeLabel logged := by
  have hswap : (e.failed logged).Perm ((e.labels ++ [(Labels.failedStep, e.job.failedStepLabel)]) ++
      [(Labels.exitCode, e.job.exitCodeLabel logged)]) := by
    rw [failed_eq, List.append_assoc]
    exact (List.Perm.swap _ _ _).append_left _
  have hstep : Labels.failedStep ∉ e.labels.map Prod.fst := by
    rw [map_fst_labels]
    decide
  have hcode : Labels.exitCode ∉
      (e.labels ++ [(Labels.failedStep, e.job.failedStepLabel)]).map Prod.fst := by
    rw [List.map_append, map_fst_labels]
    show Labels.exitCode ∉ Labels.standard ++ [Labels.failedStep]
    decide
  have happend : labels ++ [(Labels.failedStep, step), (Labels.exitCode, code)] =
      (labels ++ [(Labels.failedStep, step)]) ++ [(Labels.exitCode, code)] := by
    rw [List.append_assoc]
    rfl
  rw [happend, hswap.congr_right, append_perm_append hcode, append_perm_append hstep, and_assoc]

end Event

/-- Those with some point are as many as those with each point, all together. -/
theorem finsum_countP {α β : Type} [DecidableEq β] (f : α → Option β) (as : List α) :
    ∑ᶠ b, ((as.countP fun a => f a = some b : Nat) : Rat) =
      (as.countP fun a => (f a).isSome : Nat) := by
  induction as with
  | nil => simp
  | cons a as ih =>
    have hrest : (Function.support fun b =>
        ((as.countP fun a => f a = some b : Nat) : Rat)).Finite := by
      refine Set.Finite.subset (List.finite_toSet (as.filterMap f)) fun b hb => ?_
      rw [Function.mem_support, Nat.cast_ne_zero, ← Nat.pos_iff_ne_zero, List.countP_pos_iff] at hb
      obtain ⟨a, ha, hab⟩ := hb
      exact List.mem_filterMap.2 ⟨a, ha, of_decide_eq_true hab⟩
    have hfirst : (Function.support fun b => if f a = some b then (1 : Rat) else 0).Finite := by
      refine Set.Finite.subset (List.finite_toSet (f a).toList) fun b hb => ?_
      rw [Function.mem_support, ne_eq, ite_eq_right_iff, not_forall] at hb
      exact Option.mem_toList.2 hb.1
    have hsum : ∑ᶠ b, (if f a = some b then (1 : Rat) else 0) =
        if (f a).isSome then 1 else 0 := by
      cases hfa : f a with
      | none => simp
      | some b =>
        rw [finsum_eq_single _ b fun b' hb' => if_neg fun h => hb' (Option.some.inj h).symm]
        simp
    calc ∑ᶠ b, (((a :: as).countP fun a => f a = some b : Nat) : Rat)
        = ∑ᶠ b, (((as.countP fun a => f a = some b : Nat) : Rat) +
            if f a = some b then 1 else 0) := by simp [List.countP_cons]
      _ = ∑ᶠ b, ((as.countP fun a => f a = some b : Nat) : Rat) +
            ∑ᶠ b, (if f a = some b then (1 : Rat) else 0) := finsum_add_distrib hrest hfirst
      _ = ((a :: as).countP fun a => (f a).isSome : Nat) := by
        rw [ih, hsum, List.countP_cons, Nat.cast_add, Nat.cast_ite, Nat.cast_one, Nat.cast_zero]

namespace Trial

variable (logs : Bool) (d : Delivery Rat) (labels : Labels)

theorem isSome_summary?_reading (e : Event) (log : Except Failure Log.Summary) :
    (Event.summary? (reading logs e log)).isSome = (logs && e.identity?.isSome && log.isOk) := by
  unfold reading
  cases logs with
  | false => rfl
  | true =>
    cases e.identity? with
    | none => rfl
    | some job =>
      cases log with
      | ok s => rfl
      | error f =>
        rw [if_pos rfl]
        dsimp only
        split <;> rfl

theorem isSome_exitCode?_reading (e : Event) (log : Except Failure Log.Summary) :
    (Event.exitCode? (reading logs e log)).isSome =
      (!logs || (logs && e.identity?.isSome && log.isOk)) := by
  unfold reading
  cases logs with
  | false => rfl
  | true =>
    cases e.identity? with
    | none => rfl
    | some job =>
      cases log with
      | ok s => rfl
      | error f =>
        rw [if_pos rfl]
        dsimp only
        split <;> rfl

/-- A metric of all events with an action. -/
theorem any_measured?_of_action {m : Metric} {action : Text}
    (hm : ∀ (e : Event) (reading : Except Failure Reading),
      e.measured? reading m = if e.action = action then some e.labels else none) :
    ((measured? logs d m).any fun ls => labels.Perm ls) = d.isAbout action labels := by
  rw [measured?, Delivery.isAbout]
  cases d.item with
  | other v => rfl
  | object o => rfl
  | event e => by_cases h : e.action = action <;> simp [hm, h]

theorem any_measured?_jobConclusions (c : Text) :
    ((measured? logs d .jobConclusions).any fun ls =>
      (labels ++ [(Labels.jobConclusion, c)]).Perm ls) =
        (d.isAbout Action.completed labels && d.concludes c) := by
  rw [measured?, Delivery.isAbout, Delivery.concludes]
  cases d.item with
  | other v => rfl
  | object o => rfl
  | event e =>
    by_cases h : e.action = Action.completed
    · cases hc : e.job.conclusion with
      | none => simp [Event.measured?, h, hc]
      | some c' => simp [Event.measured?, h, hc, Event.perm_concluded, eq_comm (a := c)]
    · simp [Event.measured?, h]

theorem any_measured?_runDuration (c : Text) :
    ((measured? logs d .runDuration).any fun ls =>
      (labels ++ [(Labels.jobConclusion, c)]).Perm ls) =
        (d.isAbout Action.completed labels && d.concludes c && d.logRead logs) := by
  rw [measured?, Delivery.isAbout, Delivery.concludes, Delivery.logRead]
  cases d.item with
  | other v => rfl
  | object o => rfl
  | event e =>
    dsimp only
    rw [Event.measured?, ← isSome_summary?_reading]
    by_cases h : e.action = Action.completed
    · cases Event.summary? (reading logs e d.log) with
      | none => simp
      | some summary =>
        cases hc : e.job.conclusion with
        | none => simp [h]
        | some c' => simp [h, Event.perm_concluded, eq_comm (a := c)]
    · simp [h]

theorem any_measured?_queueDuration :
    ((measured? logs d .queueDuration).any fun ls => labels.Perm ls) =
      (d.isAbout Action.inProgress labels && d.logRead logs) := by
  rw [measured?, Delivery.isAbout, Delivery.logRead]
  cases d.item with
  | other v => rfl
  | object o => rfl
  | event e =>
    dsimp only
    rw [Event.measured?, ← isSome_summary?_reading]
    by_cases h : e.action = Action.inProgress <;>
      cases Event.summary? (reading logs e d.log) <;> simp [h]

/-- The step and the exit code that a delivery is counted with as the failure of a job with some
labels, if it is. -/
def failure? (logs : Bool) (labels : Labels) (d : Delivery Rat) : Option (Text × Text) :=
  match d.item with
  | .event e =>
    if d.isAbout Action.completed labels && d.concludes Conclusion.failure then
      (Event.exitCode? (reading logs e d.log)).map fun logged =>
        (e.job.failedStepLabel, e.job.exitCodeLabel logged)
    else none
  | .other _ | .object _ => none

theorem any_measured?_jobFailures (p : Text × Text) :
    ((measured? logs d .jobFailures).any fun ls =>
      (labels ++ [(Labels.failedStep, p.1), (Labels.exitCode, p.2)]).Perm ls) =
        decide (failure? logs labels d = some p) := by
  rw [measured?, failure?, Delivery.isAbout, Delivery.concludes]
  cases d.item with
  | other v => rfl
  | object o => rfl
  | event e =>
    dsimp only
    rw [Event.measured?]
    by_cases h : e.action = Action.completed ∧ e.job.conclusion = some Conclusion.failure
    · rcases Option.eq_none_or_eq_some (Event.exitCode? (reading logs e d.log)) with
        hx | ⟨logged, hx⟩
      · simp [hx]
      · by_cases hp : labels.Perm e.labels
        · simp [h, hp, hx, Event.perm_failed, Prod.ext_iff, eq_comm]
        · simp [h, hp, hx, Event.perm_failed]
    · rw [if_neg h]
      rw [not_and] at h
      by_cases hc : e.action = Action.completed
      · simp [hc, h hc]
      · simp [hc]

theorem isSome_failure? :
    (failure? logs labels d).isSome =
      (d.isAbout Action.completed labels && d.concludes Conclusion.failure &&
        (!logs || d.logRead logs)) := by
  rw [failure?, Delivery.isAbout, Delivery.concludes, Delivery.logRead]
  cases d.item with
  | other v => rfl
  | object o => rfl
  | event e =>
    dsimp only
    rw [← isSome_exitCode?_reading]
    split
    · rename_i h
      rw [h, Option.isSome_map, Bool.true_and]
    · rename_i h
      rw [Bool.not_eq_true] at h
      rw [h, Bool.false_and]
      rfl

end Trial

/-- An item that is no event, or an event with another action, changes nothing. -/
theorem deliver_of_other {σ : Type} (sink : Sink Rat σ) (interval : Rat) (logs : Bool)
    (r : Reader Rat (Trial Rat σ)) {d : Delivery Rat}
    (hd : d.action? ∉ [some Action.queued, some Action.inProgress, some Action.completed]) :
    Trial.deliver sink interval logs r d =
      { r with world := { r.world with clock := d.time, log := d.log } } := by
  obtain ⟨item, time, log⟩ := d
  cases item with
  | other v => rfl
  | object o => rcases o with ⟨_ | _, _⟩ <;> rfl
  | event e =>
    have haction : e.action ≠ Action.queued ∧ e.action ≠ Action.inProgress ∧
        e.action ≠ Action.completed := by
      simpa [Delivery.action?] using hd
    show Reader.after (Reader.dispatchEvent (Trial.environment sink interval logs) e) _ = _
    rw [Reader.dispatchEvent, if_neg haction.1, if_neg haction.2.1, if_neg haction.2.2]
    rfl

/-- **The counters count.**  Let any items be dispatched one after the other by a new reader into a
new metric store, with logs or without, and let each request for a log give a summary, fail because
there is no log, or end the dispatch with another failure.  Then, under any labels `L`:

* the counters of queued, started and completed jobs give the number of the events with these
  actions about jobs with the labels `L`;
* the counter of conclusions gives, for each conclusion, the number of those completed events that
  have it;
* the counter of failures, over all failed steps and exit codes, gives the number of those completed
  events with a failure for which there are no logs at all or the log was read;
* the histograms give the number of those events for which the log was read;
* whatever else is dispatched changes nothing. -/
theorem counters_count (interval : Rat) (logs : Bool) (queue : EventQueue) (time : Rat)
    (log : Except Failure Log.Summary) (ds : List (Delivery Rat)) (L : Labels) :
    let s := (Trial.deliverAll Store.sink interval logs
      { queue := queue, world := ⟨time, log, .empty⟩ } ds).world.sink
    s.value .jobsQueued L = ds.countP (fun d => d.isAbout Action.queued L) ∧
    s.value .jobsStarted L = ds.countP (fun d => d.isAbout Action.inProgress L) ∧
    s.value .jobsCompleted L = ds.countP (fun d => d.isAbout Action.completed L) ∧
    (∀ c, s.value .jobConclusions (L ++ [(Labels.jobConclusion, c)]) =
      ds.countP fun d => d.isAbout Action.completed L && d.concludes c) ∧
    (∑ᶠ p : Text × Text,
      s.value .jobFailures (L ++ [(Labels.failedStep, p.1), (Labels.exitCode, p.2)]) =
        ds.countP fun d => d.isAbout Action.completed L && d.concludes Conclusion.failure &&
          (!logs || d.logRead logs)) ∧
    (∀ c, s.observed .runDuration (L ++ [(Labels.jobConclusion, c)]) =
      ds.countP fun d => d.isAbout Action.completed L && d.concludes c && d.logRead logs) ∧
    s.observed .queueDuration L =
      ds.countP (fun d => d.isAbout Action.inProgress L && d.logRead logs) ∧
    ∀ (r : Reader Rat (Trial Rat (Store Rat))) (d : Delivery Rat),
      d.action? ∉ [some Action.queued, some Action.inProgress, some Action.completed] →
        Trial.deliver Store.sink interval logs r d =
          { r with world := { r.world with clock := d.time, log := d.log } } := by
  intro s
  refine ⟨?_, ?_, ?_, ?_, ?_, ?_, ?_, ?_⟩
  · exact Trial.value_deliverAll interval logs queue time log ds rfl fun d =>
      Trial.any_measured?_of_action logs d L fun _ _ => rfl
  · exact Trial.value_deliverAll interval logs queue time log ds rfl fun d =>
      Trial.any_measured?_of_action logs d L fun _ _ => rfl
  · exact Trial.value_deliverAll interval logs queue time log ds rfl fun d =>
      Trial.any_measured?_of_action logs d L fun _ _ => rfl
  · intro c
    exact Trial.value_deliverAll interval logs queue time log ds rfl fun d =>
      Trial.any_measured?_jobConclusions logs d L c
  · have hpoint : ∀ p : Text × Text,
        s.value .jobFailures (L ++ [(Labels.failedStep, p.1), (Labels.exitCode, p.2)]) =
          (ds.countP fun d => Trial.failure? logs L d = some p : Nat) := fun p =>
      Trial.value_deliverAll interval logs queue time log ds rfl fun d =>
        Trial.any_measured?_jobFailures logs d L p
    rw [finsum_congr hpoint, finsum_countP, funext (Trial.isSome_failure? logs · L)]
  · intro c
    exact Trial.observed_deliverAll interval logs queue time log ds rfl fun d =>
      Trial.any_measured?_runDuration logs d L c
  · exact Trial.observed_deliverAll interval logs queue time log ds rfl fun d =>
      Trial.any_measured?_queueDuration logs d L
  · exact fun r d hd => deliver_of_other Store.sink interval logs r hd

end JobMeter
