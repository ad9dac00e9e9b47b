import JobMeter.Metric.Store

/-!
# Exposition

The store as a text for those who collect metrics: for each metric two lines that describe its
family, and then a line for each sample of its series.  A counter has one sample; a histogram has
one for each bucket, with the values up to its bound, then their number and their sum.
-/

namespace JobMeter.Exposition

/-- The value of a label between quotes. -/
def labelValue (t : Text) : Text :=
  let escape := fun (p : CodePoint) =>
    if p.val = '\\'.toNat then text "\\\\"
    else if p.val = '\n'.toNat then text "\\n"
    else if p.val = '"'.toNat then text "\\\""
    else [p]
  text "\"" ++ t.flatMap escape ++ text "\""

/-- Labels between braces, sorted by their names. -/
def labelList : Labels → Text
  | [] => []
  | labels =>
    let sorted := labels.mergeSort fun a b => !Text.lt b.1 a.1
    [CodePoint.ofChar '{'] ++
      Text.joinWith (text ",") (sorted.map fun (n, v) => n ++ text "=" ++ labelValue v) ++
      [CodePoint.ofChar '}']

/-- The line of a sample. -/
def sample (name : String) (labels : Labels) (value : Float) : Text :=
  text name ++ labelList labels ++ text " " ++ text (Number.Style.sample.write value) ++ text "\n"

/-- The number of a bucket's values as a double. -/
def countValue (n : Nat) : Float := Number.ofInt n

/-- The bound of a bucket as the value of a label. -/
def boundLabel : Option Int → Text
  | some b => text (Number.Style.sample.write (Quantity.ofMicroseconds b))
  | none => text (Number.Style.sample.write (1.0 / 0.0))

/-- The name under which the family is described. -/
def describedName (m : Metric) : String :=
  match m.kind with
  | .counter => m.family ++ "_total"
  | .histogram => m.family

/-- The samples of a series. -/
def samples (m : Metric) (labels : Labels) (s : Series Float) : Text :=
  match m.kind with
  | .counter => sample (m.family ++ "_total") labels s.sum
  | .histogram =>
    let counts := s.cumulative
    let bucket := fun (b : Option Int × Nat) =>
      sample (m.family ++ "_bucket") (labels ++ [(text "le", boundLabel b.1)]) (countValue b.2)
    (bucketBounds.zip counts).flatMap bucket ++
      sample (m.family ++ "_count") labels (countValue (counts.getLastD 0)) ++
      sample (m.family ++ "_sum") labels s.sum

/-- The lines of a metric. -/
def metric (s : Store Float) (m : Metric) : Text :=
  let name := describedName m
  let kind := match m.kind with
    | .counter => "counter"
    | .histogram => "histogram"
  text s!"# HELP {name} {m.help}\n# TYPE {name} {kind}\n" ++
    (s.series.filter fun e => e.1.1 == m).flatMap fun e =>
      samples m (m.labelNames.zip e.1.2) e.2

/-- The text of a store.  It cannot be written if a label holds half a code point. -/
def render (s : Store Float) : Except Failure Text :=
  let t : Text := Metric.all.flatMap (metric s)
  if t.encodable then .ok t else .error ⟨.unencodable, [], none⟩

/-- The name of the metric that a line of an exposition is about. -/
def lineName (line : Text) : String :=
  let body : Text :=
    if (text "# HELP ").isPrefixOf line || (text "# TYPE ").isPrefixOf line then line.drop 7
    else line
  String.ofList ((body.toCharsReplacing).takeWhile fun c => c.isAlphanum || c == '_')

end JobMeter.Exposition
