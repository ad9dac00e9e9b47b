import JobMeter.Text.Basic

/-!
# Faults of a document

A document is checked as a whole: `Checked` holds either a value or all that is wrong, each with
the path to where it is.  Two checks are joined with `<*>`, which keeps the faults of both, those
of the first before those of the second.
-/

namespace JobMeter.Schema

/-- A step on the path into a document. -/
inductive Step where
  | key (name : Text)
  | index (n : Nat)
  deriving DecidableEq

/-- What is wrong with a value. -/
inductive FaultKind where
  /-- A record lacks a field that it needs. -/
  | missing
  /-- Something else stands where a record is wanted. -/
  | notRecord
  | notList
  | notText
  /-- The text cannot be written in a Unicode encoding. -/
  | brokenText
  | notInteger
  /-- A text that is no numeral of an integer. -/
  | integerNumeral
  /-- A numeral, or a double, beyond the range of integers. -/
  | integerSize
  /-- A double with a fraction. -/
  | fractional
  /-- A double that is infinite or undefined, where an integer is wanted. -/
  | notFinite
  | notFloat
  /-- A text that is no numeral of a double. -/
  | floatNumeral
  /-- The number has to be above a bound. -/
  | notAbove
  /-- The number has to be at or above a bound. -/
  | below
  deriving DecidableEq, Repr

/-- The name under which a kind of fault is reported. -/
def FaultKind.code : FaultKind → String
  | missing => "missing"
  | notRecord => "model_type"
  | notList => "list_type"
  | notText => "string_type"
  | brokenText => "string_unicode"
  | notInteger => "int_type"
  | integerNumeral => "int_parsing"
  | integerSize => "int_parsing_size"
  | fractional => "int_from_float"
  | notFinite => "finite_number"
  | notFloat => "float_type"
  | floatNumeral => "float_parsing"
  | notAbove => "greater_than"
  | below => "greater_than_equal"

/-- A fault and where it is. -/
structure Fault where
  path : List Step
  kind : FaultKind
  deriving DecidableEq

/-- A value, or what is wrong with the document. -/
def Checked (α : Type) : Type := Except (List Fault) α

namespace Checked

variable {α β : Type}

/-- A value without faults. -/
def ok (a : α) : Checked α := Except.ok a

/-- One fault at the place that is checked. -/
def fault (kind : FaultKind) : Checked α := Except.error [⟨[], kind⟩]

/-- The check of a part: its faults lie one step further in. -/
def below (s : Step) : Checked α → Checked α
  | .ok a => Except.ok a
  | .error fs => Except.error (fs.map fun f => { f with path := s :: f.path })

/-- Applies a checked function; the faults of both sides are kept. -/
def seq (f : Checked (α → β)) (a : Checked α) : Checked β :=
  match f, a with
  | .ok f, .ok a => Except.ok (f a)
  | .ok _, .error es => Except.error es
  | .error es, .ok _ => Except.error es
  | .error es, .error es' => Except.error (es ++ es')

instance : Applicative Checked where
  pure := ok
  seq f a := seq f (a ())

/-- A further check of a value that has no faults so far. -/
def andThen (a : Checked α) (f : α → Checked β) : Checked β :=
  match a with
  | .ok a => f a
  | .error es => Except.error es

/-- The checks of a list, whose items are numbered from `n`. -/
def items (check : α → Checked β) : Nat → List α → Checked (List β)
  | _, [] => ok []
  | n, a :: as => (· :: ·) <$> (check a).below (.index n) <*> items check (n + 1) as

end Checked

end JobMeter.Schema
