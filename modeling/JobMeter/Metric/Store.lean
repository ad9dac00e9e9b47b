import JobMeter.Metric.Family
import JobMeter.Number.Quantity

/-!
# The metric store

A metric has a series for each choice of values of its labels.  `Store.increase` adds to a counter
series and `Store.observe` sorts a value into a histogram series; both first look the series up,
and start it at zero if it is new.

A call is refused if the metric is of the other kind, if the label names are not those of the
metric, or if a counter is to go down.  A refused call changes no value, but the last of these
reasons may start a series.
-/

namespace JobMeter

/-- The upper bounds of the buckets in microseconds; the last bucket has none. -/
def bucketBounds : List (Option Int) :=
  ([10000, 50000, 100000, 500000].map some) ++
    ([1, 2, 3, 4, 5, 6, 7, 8, 9, 10, 12, 15, 18, 20, 25, 30, 40, 50, 60, 70, 80, 90, 100, 110,
      120, 150, 180, 210, 240, 300, 360, 420, 480, 540, 600, 900, 1200, 1800, 2400, 3000,
      3600].map fun s : Int => some (s * 1000000)) ++ [none]

/-- The values of one series. -/
structure Series (τ : Type) where
  /-- What was added up. -/
  sum : τ
  /-- How many values lie in each bucket and in none below it. -/
  buckets : List Nat
  deriving DecidableEq

namespace Series

variable {τ : Type} [Quantity τ]

/-- A series of which nothing is known yet. -/
def empty (kind : Metric.Kind) : Series τ :=
  ⟨Quantity.zero, match kind with
    | .counter => []
    | .histogram => bucketBounds.map fun _ => 0⟩

/-- Is the value within the bound?  Every number is, if there is none. -/
def within (x : τ) : Option Int → Bool
  | some bound => Quantity.le x (Quantity.ofMicroseconds bound)
  | none => Quantity.le x x

/-- Counts a value in the first bucket whose bound it is within. -/
def count (x : τ) : List (Option Int) → List Nat → List Nat
  | b :: bs, n :: ns => if within x b then (n + 1) :: ns else n :: count x bs ns
  | _, ns => ns

/-- Adds an amount. -/
def add (s : Series τ) (x : τ) : Series τ := { s with sum := Quantity.add s.sum x }

/-- Adds a value and counts it. -/
def record (s : Series τ) (x : τ) : Series τ :=
  ⟨Quantity.add s.sum x, count x bucketBounds s.buckets⟩

/-- How many values lie within each bound. -/
def cumulative (s : Series τ) : List Nat :=
  (s.buckets.foldl (fun (acc, out) n => (acc + n, out ++ [acc + n])) (0, [])).2

end Series

/-- The series of all metrics, each under its metric and the values of its labels, in the order in
which they were started. -/
structure Store (τ : Type) where
  series : List ((Metric × List Text) × Series τ)

namespace Store

variable {τ : Type} [Quantity τ]

/-- A store in which nothing has been measured.  A metric without labels has its one series from
the start. -/
def empty : Store τ :=
  ⟨(Metric.all.filter fun m => m.labelNames.isEmpty).map fun m => ((m, []), Series.empty m.kind)⟩

/-- The values of labels in the order of the names, if exactly these names have a value. -/
def labelValues? (names : List Text) (labels : Labels) : Option (List Text) :=
  if labels.length = names.length then names.mapM fun n => Tree.find? n labels else none

/-- A refusal. -/
def refused {α : Type} (message : String) : Except Failure α :=
  .error (Failure.of .invalidValue message)

/-- The series that labels name. -/
def key? (m : Metric) (labels : Labels) : Except Failure (Metric × List Text) :=
  match labels, m.labelNames, m.kind with
  | [], [], _ => .ok (m, [])
  | [], _, .counter => refused "counter metric is missing label values"
  | [], _, .histogram => refused "Incorrect label count"
  | _, [], _ => refused s!"No label names were set when constructing counter:{m.family}"
  | labels, names, _ =>
    match labelValues? names labels with
    | some values => .ok (m, values)
    | none => refused "Incorrect label names"

/-- The values of a series. -/
def get? (s : Store τ) (m : Metric) (values : List Text) : Option (Series τ) :=
  Tree.find? (m, values) s.series

/-- Changes a series, which is started if it is new. -/
def modify (s : Store τ) (key : Metric × List Text) (f : Series τ → Series τ) : Store τ :=
  ⟨Tree.put key (f ((Tree.find? key s.series).getD (Series.empty key.1.kind))) s.series⟩

/-- A call on a metric of the other kind. -/
def wrongKind {α : Type} (m : Metric) : Except Failure α := .error ⟨.unknownKey, m.tag, none⟩

/-- Adds an amount to a counter. -/
def increase (s : Store τ) (m : Metric) (labels : Labels) (amount : τ) :
    Except Failure Unit × Store τ :=
  if m.kind ≠ .counter then (wrongKind m, s)
  else
    match key? m labels with
    | .error f => (.error f, s)
    | .ok key =>
      if Quantity.lt amount Quantity.zero then
        (refused "Counters can only be incremented by non-negative amounts.", s.modify key id)
      else (.ok (), s.modify key (·.add amount))

/-- Sorts a value into a histogram. -/
def observe (s : Store τ) (m : Metric) (labels : Labels) (value : τ) :
    Except Failure Unit × Store τ :=
  if m.kind ≠ .histogram then (wrongKind m, s)
  else
    match key? m labels with
    | .error f => (.error f, s)
    | .ok key => (.ok (), s.modify key (·.record value))

end Store

end JobMeter
