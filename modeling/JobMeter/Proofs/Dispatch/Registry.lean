import JobMeter.Proofs.Registry.History
import JobMeter.Proofs.Trial

/-!
# The registry after a run of dispatches

A dispatch tells the registry about its job before anything else can go wrong: right after the start
or the end of the job has been counted.  Whatever comes then — a log that cannot be read, a sink
that refuses, a failure that ends the dispatch — happens in the world and leaves the registry alone.

* `Reader.registry_dispatch` — what a dispatch does to the registry, in any surroundings.
* `registry_deliver_of_ok` — in a trial it is the mark of the delivery that is recorded.
* `registry_deliverAll` — **the registry law**: after any run of dispatches the registry is
  determined by the marks of the events alone.
-/

namespace JobMeter

variable {τ : Type}

/-! ## One dispatch, in any surroundings -/

namespace Reader

variable {ω : Type} [Quantity τ]

/-- A job is registered as soon as its start has been counted, at what the clock shows then. -/
theorem registry_startJob (env : Environment τ ω) (e : Event) (r : Reader τ ω) :
    (after (startJob env e) r).registry =
      match env.increase .jobsStarted e.labels Quantity.one r.world with
      | .ok _ w => r.registry.add e.job.id (env.now (env.tick w)) e.labels
      | .error _ _ => r.registry := by
  unfold startJob
  cases hinc : env.increase .jobsStarted e.labels Quantity.one r.world with
  | error f w => rw [countOne, after_bind_of_error (onWorld_of_error hinc)]
  | ok u w =>
    have hregister : register env e { r with world := w } =
        .ok () ⟨r.registry.add e.job.id (env.now (env.tick w)) e.labels, r.queue, env.tick w⟩ := rfl
    rw [countOne, after_bind_of_ok (onWorld_of_ok hinc), after_bind_of_ok hregister]
    have h := outer_onlyWorld env
    refine And.left (Keeps.bind h.trans (h.readLog e) (fun reading => ?_) _)
    split
    · exact .bind h.trans (h.note _) fun _ => h.observeDuration _ _ _
    · exact .pure h.refl _

/-- A job leaves the registry as soon as its end has been counted. -/
theorem registry_completeJob (env : Environment τ ω) (e : Event) (r : Reader τ ω) :
    (after (completeJob env e) r).registry =
      match env.increase .jobsCompleted e.labels Quantity.one r.world with
      | .ok _ _ => r.registry.remove e.job.id
      | .error _ _ => r.registry := by
  unfold completeJob
  cases hinc : env.increase .jobsCompleted e.labels Quantity.one r.world with
  | error f w => rw [countOne, after_bind_of_error (onWorld_of_error hinc)]
  | ok u w =>
    have hderegister : deregister e { r with world := w } =
        .ok () ⟨r.registry.remove e.job.id, r.queue, w⟩ := rfl
    rw [countOne, after_bind_of_ok (onWorld_of_ok hinc), after_bind_of_ok hderegister]
    have h := outer_onlyWorld env
    split
    · exact (h.note _ _).1
    · refine And.left (Keeps.bind h.trans (h.countOne _ _) (fun _ =>
        .bind h.trans (h.readLog e) fun reading => ?_) _)
      split
      · exact .pure h.refl _
      · exact h.countFailure _ _ _
      · exact .bind h.trans (h.note _) fun _ => .bind h.trans (h.countFailure _ _ _) fun _ =>
          h.observeDuration _ _ _

/-- **What a dispatch does to the registry**, in any surroundings and whatever fails. -/
theorem registry_dispatch (env : Environment τ ω) (e : Event) (r : Reader τ ω) :
    (after (dispatch env (.event e)) r).registry =
      if e.action = Action.inProgress then
        match env.increase .jobsStarted e.labels Quantity.one r.world with
        | .ok _ w => r.registry.add e.job.id (env.now (env.tick w)) e.labels
        | .error _ _ => r.registry
      else if e.action = Action.completed then
        match env.increase .jobsCompleted e.labels Quantity.one r.world with
        | .ok _ _ => r.registry.remove e.job.id
        | .error _ _ => r.registry
      else r.registry := by
  have h := outer_onlyWorld env
  show (after (dispatchEvent env e) r).registry = _
  unfold dispatchEvent
  by_cases hq : e.action = Action.queued
  · have hp : e.action ≠ Action.inProgress := by rw [hq]; decide
    have hc : e.action ≠ Action.completed := by rw [hq]; decide
    rw [if_pos hq, if_neg hp, if_neg hc]
    exact (h.countOne _ _ r).1
  · rw [if_neg hq]
    split
    · exact registry_startJob env e r
    · split
      · exact registry_completeJob env e r
      · exact (h.note _ r).1

theorem registry_dispatch_other (env : Environment τ ω) (v : Json) (r : Reader τ ω) :
    (after (dispatch env (.other v)) r).registry = r.registry :=
  ((outer_onlyWorld env).note _ r).1

theorem registry_dispatch_object (env : Environment τ ω) (o : Stranger) (r : Reader τ ω) :
    (after (dispatch env (.object o)) r).registry = r.registry :=
  ((outer_onlyWorld env).dispatch_object o r).1

end Reader

/-! ## Runs of dispatches -/

/-- What an item tells about a job, if it is dispatched when the clock shows a time: an event with
the action `in_progress` tells that the job started, one with `completed` that it ended. -/
def Delivery.mark? (d : Delivery τ) : Option (Mark τ) :=
  match d.item with
  | .event e =>
    if e.action = Action.inProgress then some (.started e.job.id ⟨d.time, e.labels⟩)
    else if e.action = Action.completed then some (.ended e.job.id)
    else none
  | .other _ | .object _ => none

variable {σ : Type}

variable [Quantity τ]

/-- The registry records the mark of a delivery once its start or its end is counted, whatever else
becomes of it. -/
theorem registry_deliver_of_ok {sink : Sink τ σ} (interval : τ) (logs : Bool)
    {r : Reader τ (Trial τ σ)} {d : Delivery τ}
    (hs : ∀ e, d.item = .event e → e.action = Action.inProgress →
      (sink.increase .jobsStarted e.labels Quantity.one r.world.sink).1 = .ok ())
    (hc : ∀ e, d.item = .event e → e.action = Action.completed →
      (sink.increase .jobsCompleted e.labels Quantity.one r.world.sink).1 = .ok ()) :
    (Trial.deliver sink interval logs r d).registry =
      d.mark?.elim r.registry r.registry.record := by
  obtain ⟨item, time, log⟩ := d
  cases item with
  | other v => exact Reader.registry_dispatch_other _ v _
  | object o => exact Reader.registry_dispatch_object _ o _
  | event e =>
    have hdispatch := Reader.registry_dispatch (Trial.environment sink interval logs) e
      { r with world := { r.world with clock := time, log := log } }
    rw [Trial.deliver, hdispatch]
    simp only [Delivery.mark?]
    split
    · rename_i hp
      have hstart := Trial.measure_of_ok (w := ⟨time, log, r.world.sink⟩) (hs e rfl hp)
      simp only [Trial.environment, hstart]
      rfl
    · split
      · rename_i hcompleted
        have hend := Trial.measure_of_ok (w := ⟨time, log, r.world.sink⟩) (hc e rfl hcompleted)
        simp only [Trial.environment, hend]
        rfl
      · rfl

theorem registry_deliver {sink : Sink τ σ} (hs : sink.Steady .jobsStarted)
    (hc : sink.Steady .jobsCompleted) (interval : τ) (logs : Bool)
    (r : Reader τ (Trial τ σ)) (d : Delivery τ) :
    (Trial.deliver sink interval logs r d).registry =
      d.mark?.elim r.registry r.registry.record :=
  registry_deliver_of_ok interval logs (fun e _ _ => hs e.labels Quantity.one r.world.sink)
    fun e _ _ => hc e.labels Quantity.one r.world.sink

theorem registry_deliverAll_eq_ofMarks {sink : Sink τ σ} (hs : sink.Steady .jobsStarted)
    (hc : sink.Steady .jobsCompleted) (interval : τ) (logs : Bool) (queue : EventQueue)
    (w : Trial τ σ) (ds : List (Delivery τ)) :
    (Trial.deliverAll sink interval logs { queue := queue, world := w } ds).registry =
      .ofMarks (ds.filterMap Delivery.mark?) := by
  induction ds using List.reverseRecOn with
  | nil => rfl
  | append_singleton ds d ih =>
    rw [Trial.deliverAll_concat, registry_deliver hs hc, ih, List.filterMap_append]
    cases hmark : d.mark? with
    | none => simp [hmark]
    | some m => simp [hmark, Registry.ofMarks_concat]

/-- **The registry law.**  Let any items be dispatched one after the other, at any times, with or
without logs and with whatever comes of reading them, into a sink that never refuses to count a
start or an end.  Then a job is in the registry exactly if the last of its starts and ends was a
start; its entry has the time at which that start was processed, and its labels; and the ids stand
in the order in which the jobs first started since they last ended. -/
theorem registry_deliverAll (sink : Sink τ σ) (hs : sink.Steady .jobsStarted)
    (hc : sink.Steady .jobsCompleted) (interval : τ) (logs : Bool) (queue : EventQueue)
    (w : Trial τ σ) (ds : List (Delivery τ)) :
    let r := Trial.deliverAll sink interval logs { queue := queue, world := w } ds
    let h := ds.filterMap Delivery.mark?
    (∀ id, id ∈ r.registry.ids ↔ ∃ job, latest? id h = some (.started id job)) ∧
      (∀ id job, r.registry.get? id = some job ↔ latest? id h = some (.started id job)) ∧
      ∃ places : List Nat, places.Pairwise (· < ·) ∧
        List.Forall₂ (FirstStart h) r.registry.ids places := by
  intro r h
  have hr : r.registry = .ofMarks h :=
    registry_deliverAll_eq_ofMarks hs hc interval logs queue w ds
  rw [hr]
  refine ⟨?_, ?_, Registry.forall₂_firstStart_ofMarks h⟩
  · intro id
    simp only [Registry.mem_ids, Registry.get?_ofMarks_eq_some]
  · intro id job
    exact Registry.get?_ofMarks_eq_some

/-- A job that is started twice has the time of its second start and keeps its place, although each
of these dispatches ends in a failure after the job has been registered. -/
theorem registry_deliverAll_renewed :
    let sink : Sink Rat (List (Measurement Rat)) := .recording [.jobConclusions, .queueDuration]
    let failed : Except Failure Log.Summary := .error ⟨.invalidValue, [], none⟩
    let start := fun (id : Int) (t : Rat) =>
      Delivery.mk (.event (.plain Action.inProgress id)) t failed
    let ds := [start 2 10, start 1 11,
      ⟨.event (.plain Action.completed 2 (some Conclusion.failure)), 12, failed⟩,
      start 2 13, start 1 14]
    let r := Trial.deliverAll sink 5 true { queue := ⟨0, []⟩, world := ⟨9, failed, []⟩ } ds
    sink.Steady .jobsStarted ∧ sink.Steady .jobsCompleted ∧
      r.registry.get? 1 = some ⟨14, (Event.plain Action.inProgress 1).labels⟩ := by
  intro sink failed start ds r
  have hs : sink.Steady .jobsStarted := fun _ _ _ => rfl
  have hc : sink.Steady .jobsCompleted := fun _ _ _ => rfl
  exact ⟨hs, hc, ((registry_deliverAll sink hs hc 5 true ⟨0, []⟩ ⟨9, failed, []⟩ ds).2.1 1 _).2 rfl⟩

end JobMeter
