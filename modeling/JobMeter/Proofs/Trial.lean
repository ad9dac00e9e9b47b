import JobMeter.Metric.Store
import JobMeter.Proofs.Act

/-!
# Trials

A trial dispatches items one after the other and looks at what becomes of the reader.  Whatever the
reader learns from outside is given beforehand: a `Delivery` is an item with what the clock shows
then and with what comes of a request for the log.  A dispatch reads the clock once at most, and
asks for one log at most, so this leaves nothing of its surroundings out.

* `Sink` — where measurements go; a sink has a state and may refuse.  `Store.sink` is the metric
  store, and `Sink.recording` writes every measurement down.
* `Sink.feed` — a sink after measurements one after the other, up to the first that it refuses.
* `Trial.environment` — the surroundings of a trial, with logs or without.
* `Trial.wait` — a wait for a slot, in which the clock moves.
* `Trial.deliver`, `Trial.deliverAll` — a dispatch, and a run of dispatches.  A dispatch that fails
  ends there, and the next one goes on from what it left.
-/

namespace JobMeter

/-- A measurement. -/
structure Measurement (τ : Type) where
  metric : Metric
  labels : Labels
  amount : τ
  deriving DecidableEq

/-- One more. -/
def Measurement.one {τ : Type} [Quantity τ] (m : Metric) (labels : Labels) : Measurement τ :=
  ⟨m, labels, Quantity.one⟩

/-- Where measurements go. -/
structure Sink (τ σ : Type) where
  increase : Metric → Labels → τ → σ → Except Failure Unit × σ
  observe : Metric → Labels → τ → σ → Except Failure Unit × σ

namespace Sink

variable {τ σ : Type}

/-- The counter never refuses. -/
def Steady (sink : Sink τ σ) (m : Metric) : Prop :=
  ∀ labels x s, (sink.increase m labels x s).1 = .ok ()

/-- Makes a measurement, as the kind of its metric asks for. -/
def measure (sink : Sink τ σ) (x : Measurement τ) : σ → Except Failure Unit × σ :=
  match x.metric.kind with
  | .counter => sink.increase x.metric x.labels x.amount
  | .histogram => sink.observe x.metric x.labels x.amount

/-- The sink after a measurement. -/
def take (sink : Sink τ σ) (s : σ) (x : Measurement τ) : σ := (sink.measure x s).2

/-- The measurement is never refused. -/
def Accepts (sink : Sink τ σ) (x : Measurement τ) : Prop := ∀ s, (sink.measure x s).1 = .ok ()

/-- The sink after measurements one after the other, up to the first that it refuses. -/
def feed (sink : Sink τ σ) : List (Measurement τ) → σ → σ
  | [], s => s
  | x :: xs, s =>
    match sink.measure x s with
    | (.ok (), s') => feed sink xs s'
    | (.error _, s') => s'

variable {sink : Sink τ σ} {x : Measurement τ} {xs : List (Measurement τ)} {s s' : σ}

theorem measure_of_counter (h : x.metric.kind = .counter) :
    sink.measure x = sink.increase x.metric x.labels x.amount := by
  rw [measure, h]

theorem measure_of_histogram (h : x.metric.kind = .histogram) :
    sink.measure x = sink.observe x.metric x.labels x.amount := by
  rw [measure, h]

theorem feed_cons_of_ok (h : sink.measure x s = (.ok (), s')) :
    sink.feed (x :: xs) s = sink.feed xs s' := by
  rw [feed, h]

theorem feed_cons_of_error {f : Failure} (h : sink.measure x s = (.error f, s')) :
    sink.feed (x :: xs) s = s' := by
  rw [feed, h]

theorem Accepts.measure_eq (h : sink.Accepts x) (s : σ) :
    sink.measure x s = (.ok (), sink.take s x) := Prod.ext (h s) rfl

/-- A sink that refuses nothing takes everything. -/
theorem feed_eq_foldl (h : ∀ x ∈ xs, sink.Accepts x) (s : σ) :
    sink.feed xs s = xs.foldl sink.take s := by
  induction xs generalizing s with
  | nil => rfl
  | cons x xs ih =>
    rw [List.forall_mem_cons] at h
    rw [feed_cons_of_ok (h.1.measure_eq s), ih h.2, List.foldl_cons]

end Sink

/-- The metric store as a sink. -/
def Store.sink {τ : Type} [Quantity τ] : Sink τ (Store τ) where
  increase m labels x s := s.increase m labels x
  observe m labels x s := s.observe m labels x

/-- The sink that writes all measurements down, the last one first.  Those of some metrics fail
after that. -/
def Sink.recording {τ : Type} (failing : List Metric) : Sink τ (List (Measurement τ)) :=
  let write := fun m labels x s =>
    (if m ∈ failing then .error ⟨.foreign "RuntimeError", [], none⟩ else .ok (),
      ⟨m, labels, x⟩ :: s)
  ⟨write, write⟩

/-- The world of a trial. -/
structure Trial (τ σ : Type) where
  /-- What the clock shows. -/
  clock : τ
  /-- What comes of a request for a log. -/
  log : Except Failure Log.Summary
  /-- The state of the sink. -/
  sink : σ

/-- An event about a job of which little is known but where it is found. -/
def Event.plain (action : Text) (id : Int) (conclusion : Option Text := none) : Event where
  action := action
  job := ⟨id, none, [], none, none, conclusion, []⟩
  repository := some ⟨some (text "repo"), none, some ⟨some (text "owner")⟩⟩
  organization := none

/-- An item with what the reader learns while it processes it. -/
structure Delivery (τ : Type) where
  item : Item
  /-- What the clock shows. -/
  time : τ
  /-- What comes of a request for the log. -/
  log : Except Failure Log.Summary

namespace Trial

variable {τ σ : Type}

/-- A call of the sink. -/
def measure (f : σ → Except Failure Unit × σ) : EStateM Failure (Trial τ σ) Unit := fun w =>
  match f w.sink with
  | (.ok (), s) => .ok () { w with sink := s }
  | (.error e, s) => .error e { w with sink := s }

/-- A call that the sink does not refuse. -/
theorem measure_of_ok {f : σ → Except Failure Unit × σ} {w : Trial τ σ}
    (h : (f w.sink).1 = .ok ()) : measure f w = .ok () { w with sink := (f w.sink).2 } := by
  rw [measure]
  cases hf : f w.sink with
  | mk result s =>
    rw [hf] at h
    obtain rfl : result = .ok () := h
    rfl

/-- A call that the sink refuses. -/
theorem measure_of_error {f : σ → Except Failure Unit × σ} {w : Trial τ σ} {e : Failure} {s : σ}
    (h : f w.sink = (.error e, s)) : measure f w = .error e { w with sink := s } := by
  rw [measure, h]

/-- A request for a log. -/
def fetch : EStateM Failure (Trial τ σ) Log.Summary := fun w =>
  match w.log with
  | .ok s => .ok s w
  | .error f => .error f w

/-- The surroundings of a trial. -/
def environment (sink : Sink τ σ) (interval : τ) (logs : Bool) : Environment τ (Trial τ σ) where
  interval := interval
  now w := w.clock
  increase m labels x := measure (sink.increase m labels x)
  observe m labels x := measure (sink.observe m labels x)
  fetch? := if logs then some fun _ => fetch else none
  note _ w := w
  stopped _ := false
  requestStop w := w

variable [Quantity τ]

/-- A wait that lets some time pass, depending on the timeout, and then takes a slot. -/
def wait (sleep : τ → τ) : Wait τ (Trial τ σ) := fun t => do
  Reader.onWorld (modify fun w =>
    { w with clock := Quantity.add w.clock (Quantity.positivePart (sleep t)) })
  Reader.take

/-- The reader after the dispatch of a delivery. -/
def deliver (sink : Sink τ σ) (interval : τ) (logs : Bool) (r : Reader τ (Trial τ σ))
    (d : Delivery τ) : Reader τ (Trial τ σ) :=
  Reader.after (Reader.dispatch (environment sink interval logs) d.item)
    { r with world := { r.world with clock := d.time, log := d.log } }

/-- The reader after the dispatch of one delivery after the other. -/
def deliverAll (sink : Sink τ σ) (interval : τ) (logs : Bool) (r : Reader τ (Trial τ σ))
    (ds : List (Delivery τ)) : Reader τ (Trial τ σ) :=
  ds.foldl (deliver sink interval logs) r

theorem deliverAll_concat (sink : Sink τ σ) (interval : τ) (logs : Bool)
    (r : Reader τ (Trial τ σ)) (ds : List (Delivery τ)) (d : Delivery τ) :
    deliverAll sink interval logs r (ds ++ [d]) =
      deliver sink interval logs (deliverAll sink interval logs r ds) d := by
  rw [deliverAll, List.foldl_append, List.foldl_cons, List.foldl_nil, deliverAll]

end Trial

end JobMeter
