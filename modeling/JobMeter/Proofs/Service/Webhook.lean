import JobMeter.Proofs.Dispatch.Calls
import JobMeter.Proofs.Dispatch.Counting
import JobMeter.Proofs.Queue.Traffic
import JobMeter.Service.Web

/-!
# What the webhook answers

A delivery is a request at the webhook.  Its sender learns nothing but the answer, so the answer has
to tell what became of it: 202 if its event is on the queue, 503 if the event was dropped and
counted, and anything else if nothing happened at all.

* `WebRequest.Carries` — the body of a request is an event.
* `Received` — what can become of a request, with its answer; `exists_received` says that one of
  these cases comes about, in any surroundings that can count what is dropped.
* `Reception` — a reader, the deliveries with their answers so far, and what the loop took.
* `Reception.Accounts` — the deliveries that were answered 202 are what was taken followed by what
  is still on the queue, and those that were answered 503 are as many as the counter of dropped
  events says.  Each step preserves it (`Reception.accounts_step`).
* `deliveries_accounted` — **each answer is true**, and the answers add up.
-/

namespace JobMeter

namespace Service

/-- The body of the request is an event. -/
def WebRequest.Carries (r : WebRequest) (e : Event) : Prop :=
  ∃ v, Json.readBytes WebRequest.deepestBody r.body = .ok v ∧ Event.check v = .ok e

section

variable {τ ω : Type} [Quantity τ] (env : Environment τ ω)

/-! ## What becomes of a request -/

theorem receiveDocument_cases (v : Json) :
    (∃ e, Event.check v = .ok e ∧
      receiveDocument env v = do
        if ← Reader.submit env (.event e) then return reply 202
        else return reply 503 "Event queue full") ∨
    ∃ a : WebAnswer, a.status ≠ 202 ∧ a.status ≠ 503 ∧ receiveDocument env v = pure a := by
  cases v with
  | map entries =>
    rw [receiveDocument]
    cases hcheck : Event.check (.map entries) with
    | error f => exact .inr ⟨reply 400 "Invalid workflow_job payload", by decide, by decide, rfl⟩
    | ok e => exact .inl ⟨e, rfl, rfl⟩
  | leaf a => exact nomatch a
  | null | bool b | int n | float x | text t | seq vs =>
    exact .inr ⟨reply 400 "Invalid JSON payload", by decide, by decide, rfl⟩

/-- A request submits the event in its body, and answers whether there was a place for it; or it
does nothing, and its answer says neither. -/
theorem receive_cases (r : WebRequest) :
    (∃ e, r.Carries e ∧
      receive env r = do
        if ← Reader.submit env (.event e) then return reply 202
        else return reply 503 "Event queue full") ∨
    ∃ a : WebAnswer, a.status ≠ 202 ∧ a.status ≠ 503 ∧ receive env r = pure a := by
  unfold receive
  dsimp only
  split_ifs with hping hjob hjson
  · exact .inr ⟨reply 200, by decide, by decide, rfl⟩
  · exact .inr ⟨reply 204, by decide, by decide, rfl⟩
  · exact .inr ⟨reply 400 "Invalid JSON payload", by decide, by decide, rfl⟩
  · cases hread : Json.readBytes WebRequest.deepestBody r.body with
    | ok v =>
      rcases receiveDocument_cases env v with ⟨e, hcheck, hrun⟩ | hother
      · exact .inl ⟨e, ⟨v, hread, hcheck⟩, hrun⟩
      · exact .inr hother
    | error refusal =>
      cases refusal with
      | malformed => exact .inr ⟨reply 400 "Invalid JSON payload", by decide, by decide, rfl⟩
      | tooDeep => exact .inr ⟨reply 500, by decide, by decide, rfl⟩

/-- What can become of a request, with its answer and the reader after it. -/
inductive Received (r : WebRequest) (x : Reader τ ω) : WebAnswer → Reader τ ω → Prop where
  /-- Its event is put at the end of the queue. -/
  | queued (e : Event) (hbody : r.Carries e) : Received r x (reply 202)
      { x with queue := { x.queue with slots := x.queue.slots ++ [.item (.event e)] } }
  /-- Its event is dropped, which is noted and counted. -/
  | dropped (e : Event) (w : ω) (hbody : r.Carries e)
      (hcount : env.increase .eventsDropped [] Quantity.one
        (env.note (.queueFull e.description) x.world) = .ok () w) :
      Received r x (reply 503 "Event queue full") { x with world := w }
  /-- Nothing happens. -/
  | refused (a : WebAnswer) (hqueued : a.status ≠ 202) (hdropped : a.status ≠ 503) :
      Received r x a x

/-- **Every request is answered**, and the answer says what became of it. -/
theorem exists_received
    (hdrop : ∀ w, ∃ w', env.increase .eventsDropped [] Quantity.one w = .ok () w')
    (r : WebRequest) (x : Reader τ ω) :
    ∃ a y, receive env r x = .ok a y ∧ Received env r x a y := by
  rcases receive_cases env r with ⟨e, hbody, hrun⟩ | ⟨a, hqueued, hdropped, hrun⟩
  · cases hput : x.queue.put? (.item (.event e)) with
    | some q =>
      have hsubmit : Reader.submit env (.event e) x = .ok true { x with queue := q } :=
        Reader.submit_of_some hput
      obtain ⟨-, rfl⟩ := EventQueue.put?_eq_some.1 hput
      refine ⟨reply 202, _, ?_, .queued e hbody⟩
      rw [hrun, Reader.bind_apply, hsubmit]
      rfl
    | none =>
      obtain ⟨w, hcount⟩ := hdrop (env.note (.queueFull e.description) x.world)
      have hdropped : Reader.drop env (.event e) x.world = .ok false w := by
        rw [Reader.drop_of_ok rfl, hcount]
      refine ⟨reply 503 "Event queue full", _, ?_, .dropped e w hbody hcount⟩
      rw [hrun, Reader.bind_apply, Reader.submit_of_none hput, Reader.onWorld_of_ok hdropped]
      rfl
  · refine ⟨a, x, ?_, .refused a hqueued hdropped⟩
    rw [hrun]
    rfl

end

/-- A request at the webhook is received, whatever else it asks for. -/
theorem answer_webhook {ω : Type} (h : Host ω) (env : Environment Float ω) {r : WebRequest}
    (hmethod : r.method.upper = text "POST") (hpath : pathOf r.target = .ok (text "/webhook")) :
    answer h env r = receive env r := by
  have hpost : (r.method.upper == text "OPTIONS") = false := by rw [hmethod]; decide
  have hhead : (r.method.upper == text "HEAD") = false := by rw [hmethod]; decide
  have hany : (Endpoint.webhook.methods.any (text · == r.method.upper)) = true := by
    rw [hmethod]
    decide
  have hat : Endpoint.at? (text "/webhook") = some .webhook := by decide
  rw [answer, hpath]
  dsimp only
  rw [answerPath, hat]
  simp only [hpost, hhead, hany, answerAt]
  simp

end Service

namespace Trial

/-! ## The counter of dropped events -/

section

variable (interval : Rat) (logs : Bool) (r : Reader Rat (Trial Rat (Store Rat))) (labels : Labels)

theorem metric_ne_eventsDropped {d : Delivery Rat} {x : Measurement Rat}
    (hx : x ∈ measurements logs d) : x.metric ≠ .eventsDropped := by
  intro hmetric
  have hmem : x.labels ∈ ((measurements logs d).filter fun y =>
      Metric.eventsDropped = y.metric).map Measurement.labels :=
    List.mem_map_of_mem (List.mem_filter.2 ⟨hx, decide_eq_true hmetric.symm⟩)
  have hnone : measured? logs d .eventsDropped = none := by
    rw [measured?]
    cases d.item <;> rfl
  rw [filter_measurements, hnone] at hmem
  exact absurd hmem List.not_mem_nil

/-- Dispatches and accruals drop no events. -/
theorem value_eventsDropped_perform (o : Occasion Rat) (ho : ∀ i, o.task ≠ .submit i) :
    (perform Store.sink interval logs r o).world.sink.value .eventsDropped labels =
      r.world.sink.value .eventsDropped labels := by
  rw [sink_perform]
  refine Store.value_feed_of_ne (fun x hx => ?_) r.world.sink labels
  rw [asked] at hx
  split at hx
  · exact metric_ne_eventsDropped logs hx
  · rename_i i htask
    exact absurd htask (ho i)
  · obtain ⟨p, -, rfl⟩ := List.mem_map.1 hx
    exact Metric.noConfusion

/-- To count a dropped event adds one to the counter, and leaves all other series as they are. -/
theorem increase_eventsDropped (w : Trial Rat (Store Rat)) :
    ∃ s : Store Rat,
      (environment Store.sink interval logs).increase .eventsDropped [] Quantity.one w =
        .ok () { w with sink := s } ∧
      s.value .eventsDropped [] = w.sink.value .eventsDropped [] + 1 ∧
      ∀ m labels, (m, labels) ≠ (.eventsDropped, []) →
        s.series? m labels = w.sink.series? m labels := by
  have hkind : Metric.eventsDropped.kind = .counter := rfl
  have hkey : Store.key? .eventsDropped [] = .ok (.eventsDropped, []) := rfl
  have hlabels : (([] : Labels).map Prod.fst).Perm Metric.eventsDropped.labelNames := .nil
  have hincrease := Store.increase_eq hkind hkey zero_le_one w.sink
  have hvalue := Store.value_increase hkind hlabels zero_le_one w.sink .eventsDropped []
  rw [hincrease] at hvalue
  have hrun : Store.sink.increase .eventsDropped [] Quantity.one w.sink = _ := hincrease
  refine ⟨_, ?_, by simpa using hvalue, fun m labels hother => ?_⟩
  · show measure (Store.sink.increase .eventsDropped [] Quantity.one) w = _
    rw [measure, hrun]
  · rw [Store.series?_modify hkey, if_neg]
    rintro ⟨rfl, hperm⟩
    rw [List.perm_nil] at hperm
    exact hother (by rw [hperm])

/-- Whoever counted a dropped event did nothing else. -/
theorem exists_of_increase_eventsDropped {w w' : Trial Rat (Store Rat)}
    (h : (environment Store.sink interval logs).increase .eventsDropped [] Quantity.one w =
      .ok () w') :
    ∃ s : Store Rat, w' = { w with sink := s } ∧
      s.value .eventsDropped [] = w.sink.value .eventsDropped [] + 1 ∧
      ∀ m labels, (m, labels) ≠ (.eventsDropped, []) →
        s.series? m labels = w.sink.series? m labels := by
  obtain ⟨s, hincrease, hvalue, hothers⟩ := increase_eventsDropped interval logs w
  have hsame := h.symm.trans hincrease
  injection hsame with _ hworld
  exact ⟨s, hworld, hvalue, hothers⟩

end

end Trial

/-! ## Deliveries and takes in any order -/

namespace Service

/-- The deliveries with a status. -/
def answered (status : Nat) (ds : List (WebRequest × WebAnswer)) : List (WebRequest × WebAnswer) :=
  ds.filter fun d => d.2.status = status

section

variable {status : Nat} {a : WebAnswer} (r : WebRequest) (ds : List (WebRequest × WebAnswer))

theorem answered_concat_of_eq (h : a.status = status) :
    answered status (ds ++ [(r, a)]) = answered status ds ++ [(r, a)] := by
  simp [answered, h]

theorem answered_concat_of_ne (h : a.status ≠ status) :
    answered status (ds ++ [(r, a)]) = answered status ds := by
  simp [answered, h]

end

/-- A reader with a metric store, with an account of its deliveries. -/
structure Reception where
  reader : Reader Rat (Trial Rat (Store Rat))
  /-- The requests with their answers, in their order. -/
  deliveries : List (WebRequest × WebAnswer) := []
  /-- The slots that the loop took, in their order. -/
  taken : List Slot := []

namespace Reception

/-- What can happen next: a request, or something that the loop does. -/
inductive Step where
  | request (r : WebRequest)
  /-- The loop takes a slot off the queue, if there is one. -/
  | take
  /-- The loop dispatches an item. -/
  | dispatch (d : Delivery Rat)
  /-- The loop accrues at a time. -/
  | accrue (time : Rat)

section

variable (interval : Rat) (logs : Bool)

/-- The reception after a step. -/
def step (t : Reception) : Step → Reception
  | .request r =>
    match receive (Trial.environment Store.sink interval logs) r t.reader with
    | .ok a y => { t with reader := y, deliveries := t.deliveries ++ [(r, a)] }
    | .error _ y => { t with reader := y }
  | .take =>
    match Reader.take t.reader with
    | .ok slot? y => { t with reader := y, taken := t.taken ++ slot?.toList }
    | .error _ y => { t with reader := y }
  | .dispatch d => { t with reader := Trial.deliver Store.sink interval logs t.reader d }
  | .accrue time =>
    let o : Occasion Rat := ⟨.accrue, time, t.reader.world.log⟩
    { t with reader := Trial.perform Store.sink interval logs t.reader o }

/-- The reception after one step after the other. -/
def run (t : Reception) (steps : List Step) : Reception := steps.foldl (step interval logs) t

end

/-- The answers are a true account of the queue and of the counter of dropped events. -/
structure Accounts (t : Reception) : Prop where
  queued : List.Forall₂ (fun d slot => ∃ e, d.1.Carries e ∧ slot = .item (.event e))
    (answered 202 t.deliveries) (t.taken ++ t.reader.queue.slots)
  dropped : t.reader.world.sink.value .eventsDropped [] = (answered 503 t.deliveries).length

variable {interval : Rat} {logs : Bool} {t : Reception}

/-- What leaves the queue and the counter as they are preserves the account. -/
theorem Accounts.of_queue_eq (h : t.Accounts) {y : Reader Rat (Trial Rat (Store Rat))}
    (hqueue : y.queue = t.reader.queue)
    (hdropped : y.world.sink.value .eventsDropped [] =
      t.reader.world.sink.value .eventsDropped []) :
    Accounts { t with reader := y } where
  queued := by
    rw [hqueue]
    exact h.queued
  dropped := by
    rw [hdropped]
    exact h.dropped

theorem exists_received_trial (interval : Rat) (logs : Bool) (r : WebRequest)
    (x : Reader Rat (Trial Rat (Store Rat))) :
    ∃ a y, receive (Trial.environment Store.sink interval logs) r x = .ok a y ∧
      Received (Trial.environment Store.sink interval logs) r x a y := by
  refine exists_received _ (fun w => ?_) r x
  obtain ⟨s, hincrease, -⟩ := Trial.increase_eventsDropped interval logs w
  exact ⟨_, hincrease⟩

theorem step_request {r : WebRequest} {a : WebAnswer} {y : Reader Rat (Trial Rat (Store Rat))}
    (hrun : receive (Trial.environment Store.sink interval logs) r t.reader = .ok a y) :
    t.step interval logs (.request r) =
      { t with reader := y, deliveries := t.deliveries ++ [(r, a)] } := by
  rw [step, hrun]

theorem Accounts.request (h : t.Accounts) (r : WebRequest) :
    (t.step interval logs (.request r)).Accounts := by
  obtain ⟨a, y, hrun, hreceived⟩ := exists_received_trial interval logs r t.reader
  rw [step_request hrun]
  cases hreceived with
  | queued e hbody =>
    have hstatus : (reply 202).status = 202 := rfl
    refine ⟨?_, ?_⟩
    · rw [answered_concat_of_eq r t.deliveries hstatus, ← List.append_assoc]
      exact List.rel_append h.queued (.cons ⟨e, hbody, rfl⟩ .nil)
    · rw [answered_concat_of_ne r t.deliveries (by decide)]
      exact h.dropped
  | dropped e w hbody hcount =>
    obtain ⟨s, rfl, hvalue, -⟩ := Trial.exists_of_increase_eventsDropped interval logs hcount
    have hstatus : (reply 503 "Event queue full").status = 503 := rfl
    refine ⟨?_, ?_⟩
    · rw [answered_concat_of_ne r t.deliveries (by decide)]
      exact h.queued
    · rw [answered_concat_of_eq r t.deliveries hstatus, List.length_append, Nat.cast_add,
        ← h.dropped]
      exact hvalue
  | refused a hqueued hdropped =>
    refine ⟨?_, ?_⟩
    · rw [answered_concat_of_ne r t.deliveries hqueued]
      exact h.queued
    · rw [answered_concat_of_ne r t.deliveries hdropped]
      exact h.dropped

theorem Accounts.take (h : t.Accounts) : (t.step interval logs .take).Accounts := by
  rw [step, Reader.take_apply]
  cases hslots : t.reader.queue.slots with
  | nil => simpa using h
  | cons slot slots =>
    refine ⟨?_, h.dropped⟩
    have hqueued := h.queued
    rw [hslots] at hqueued
    simpa using hqueued

/-- **Each step preserves the account.** -/
theorem accounts_step (h : t.Accounts) (a : Step) : (t.step interval logs a).Accounts := by
  have hsteps := Reader.steps_queue (Trial.environment Store.sink interval logs)
  cases a with
  | request r => exact h.request r
  | take => exact h.take
  | dispatch d =>
    refine h.of_queue_eq (hsteps.dispatch d.item _) ?_
    exact Trial.value_eventsDropped_perform interval logs t.reader []
      ⟨.dispatch d.item, d.time, d.log⟩ fun i => Task.noConfusion
  | accrue time =>
    refine h.of_queue_eq (hsteps.accrue _) ?_
    exact Trial.value_eventsDropped_perform interval logs t.reader []
      ⟨.accrue, time, t.reader.world.log⟩ fun i => Task.noConfusion

theorem accounts_run (h : t.Accounts) (steps : List Step) :
    (t.run interval logs steps).Accounts := by
  induction steps generalizing t with
  | nil => exact h
  | cons a steps ih => exact ih (accounts_step h a)

end Reception

/-- **The answers are true.**  Let a queue have room for `n` slots, or for any number if `n` is not
above zero, and let requests with any headers, content types and bodies reach the webhook while the
loop takes slots, dispatches and accrues, in any order.  Then, at each moment, the next request is
answered, and

* if the answer is 202, its body is an event, which is now at the end of the queue, and nothing else
  happened;
* if the answer is 503, the counter of dropped events was raised by one, and nothing else happened;
* if the answer is any other, nothing happened.

So those that were answered 202 are those that the loop took and those that are still on the queue,
and those that were answered 503 are as many as the counter says.

A request is one at the webhook by its method and its path. -/
theorem deliveries_accounted (interval : Rat) (logs : Bool) (n : Int) (registry : Registry Rat)
    (time : Rat) (log : Except Failure Log.Summary) (steps : List Reception.Step) :
    let t := Reception.run interval logs
      ⟨⟨registry, ⟨n.toNat, []⟩, ⟨time, log, .empty⟩⟩, [], []⟩ steps
    (∀ r : WebRequest, ∃ a y,
      receive (Trial.environment Store.sink interval logs) r t.reader = .ok a y ∧
      (a.status = 202 → ∃ v e, Json.readBytes WebRequest.deepestBody r.body = .ok v ∧
        Event.check v = .ok e ∧
        y = { t.reader with
          queue := { t.reader.queue with slots := t.reader.queue.slots ++ [.item (.event e)] } }) ∧
      (a.status = 503 → ∃ s : Store Rat,
        y = { t.reader with world := { t.reader.world with sink := s } } ∧
        s.value .eventsDropped [] = t.reader.world.sink.value .eventsDropped [] + 1 ∧
        ∀ m labels, (m, labels) ≠ (.eventsDropped, []) →
          s.series? m labels = t.reader.world.sink.series? m labels) ∧
      (a.status ≠ 202 → a.status ≠ 503 → y = t.reader)) ∧
    List.Forall₂ (fun d slot => ∃ e, d.1.Carries e ∧ slot = .item (.event e))
      (answered 202 t.deliveries) (t.taken ++ t.reader.queue.slots) ∧
    (answered 202 t.deliveries).length = t.taken.length + t.reader.queue.size ∧
    (answered 503 t.deliveries).length = t.reader.world.sink.value .eventsDropped [] ∧
    (∀ {ω : Type} (h : Host ω) (env : Environment Float ω) (r : WebRequest),
      r.method.upper = text "POST" → pathOf r.target = .ok (text "/webhook") →
        answer h env r = receive env r) := by
  intro t
  have hfresh : Reception.Accounts
      ⟨⟨registry, ⟨n.toNat, []⟩, ⟨time, log, .empty⟩⟩, [], []⟩ :=
    ⟨.nil, Store.value_empty _ _⟩
  have h : t.Accounts := Reception.accounts_run hfresh steps
  refine ⟨fun r => ?_, h.queued, ?_, h.dropped.symm, fun h env r => answer_webhook h env⟩
  · obtain ⟨a, y, hrun, hreceived⟩ := Reception.exists_received_trial interval logs r t.reader
    refine ⟨a, y, hrun, ?_⟩
    cases hreceived with
    | queued e hbody =>
      obtain ⟨v, hread, hcheck⟩ := hbody
      exact ⟨fun _ => ⟨v, e, hread, hcheck, rfl⟩, fun hstatus => absurd hstatus (by decide),
        fun hstatus => absurd rfl hstatus⟩
    | dropped e w hbody hcount =>
      obtain ⟨s, rfl, hvalue, hothers⟩ :=
        Trial.exists_of_increase_eventsDropped interval logs hcount
      exact ⟨fun hstatus => absurd hstatus (by decide), fun _ => ⟨s, rfl, hvalue, hothers⟩,
        fun _ hstatus => absurd rfl hstatus⟩
    | refused a hqueued hdropped =>
      exact ⟨fun hstatus => absurd hstatus hqueued, fun hstatus => absurd hstatus hdropped,
        fun _ _ => rfl⟩
  · rw [h.queued.length_eq, List.length_append, EventQueue.size]

/-- A queue for one slot: of two events the first is queued and the second is dropped; once the
first is taken there is room for another, which a ping does not need. -/
theorem deliveries_accounted_one_place :
    let body := Text.Utf8.encode (text (Json.write (.map [(text "action", .str "queued"),
      (text "workflow_job", .map [(text "id", .int 1), (text "labels", .seq [])])])))
    let request := fun kind => Reception.Step.request ⟨text "POST", text "/webhook",
      [(text "X-GitHub-Event", text kind)], some (text "application/json"), body⟩
    let log : Except Failure Log.Summary := .error ⟨.jobLogs, [], none⟩
    let t := Reception.run 5 true ⟨⟨{}, ⟨Int.toNat 1, []⟩, ⟨0, log, .empty⟩⟩, [], []⟩
      [request "workflow_job", request "workflow_job", .take, request "ping",
        request "workflow_job"]
    t.deliveries.map (fun d => d.2.status) = [202, 503, 200, 202] ∧
      t.taken.length = 1 ∧ t.reader.queue.size = 1 ∧
      t.reader.world.sink.value .eventsDropped [] = 1 := by
  intro body request log t
  have h := deliveries_accounted 5 true 1 {} 0 log
    [request "workflow_job", request "workflow_job", .take, request "ping", request "workflow_job"]
  refine ⟨by decide +kernel, by decide +kernel, by decide +kernel, ?_⟩
  rw [← h.2.2.2.1]
  decide +kernel

end Service

end JobMeter
