import JobMeter.Schema.Fault
import JobMeter.Schema.Numeral
import JobMeter.Text.Utf8
import JobMeter.Tree

/-!
# Checks of documents

The checks that records are made of.  A check is lenient where nothing is lost: a whole double is
an integer, a text that writes a number is that number, a truth value is 0 or 1.

* scalars: `asText`, `asInt`, `asFloat`, with the bounds `atLeast` and `above`;
* containers: `asList`, `asRecord`, with `required`, `optional` and `withDefault` fields.
-/

namespace JobMeter.Schema

/-- The scalars of a format that may hold bytes; bytes stand for the text they encode. -/
class ByteScalar (ε : Type) where
  bytes? : ε → Option (List UInt8)

instance : ByteScalar Empty := ⟨fun a => nomatch a⟩

variable {ε : Type} [ByteScalar ε] {α β : Type}

/-- A check of a document. -/
abbrev Check (ε α : Type) : Type := Tree ε → Checked α

/-- A text, or the text that bytes encode. -/
def asText : Check ε Text
  | .text t => .ok t
  | .leaf a =>
    match ByteScalar.bytes? a with
    | none => .fault .notText
    | some bs => match Text.Utf8.decode? false bs with
      | some t => .ok t
      | none => .fault .brokenText
  | _ => .fault .notText

/-- The integer that a text writes. -/
def integerOfText (t : Text) : Checked Int :=
  match t.toChars? with
  | none => .fault .brokenText
  | some cs =>
    let cs := Text.trimBoth Text.isWhiteSpace cs
    if (String.ofList cs).utf8ByteSize > longestNumeral then .fault .integerSize
    else match lenientInteger? cs with
      | some n => .ok n
      | none => .fault .integerNumeral

/-- The integer that a double is. -/
def integerOfFloat (x : Float) : Checked Int :=
  if !Number.isFinite x then .fault .notFinite
  else match Number.toInt? x with
    | none => .fault .fractional
    | some n => if n.natAbs < 0x8000000000000000 then .ok n else .fault .integerSize

/-- An integer, or what stands for one. -/
def asInt : Check ε Int
  | .int n => .ok n
  | .bool b => .ok (if b then 1 else 0)
  | .float x => integerOfFloat x
  | .text t => integerOfText t
  | .leaf a =>
    match ByteScalar.bytes? a with
    | none => .fault .notInteger
    | some bs => match Text.Utf8.decode? false bs with
      | some t => integerOfText t
      | none => .fault .integerNumeral
  | _ => .fault .notInteger

/-- The double that a text writes. -/
def floatOfText (t : Text) : Checked Float :=
  match t.toChars? with
  | none => .fault .brokenText
  | some cs => match lenientFloat? cs with
    | some x => .ok x
    | none => .fault .floatNumeral

/-- The double nearest to an integer, if there is a finite one. -/
def floatOfInteger (n : Int) : Checked Float :=
  let x := Number.ofInt n
  if Number.isFinite x then .ok x else .fault .notFloat

/-- A double, or what stands for one. -/
def asFloat : Check ε Float
  | .float x => .ok x
  | .int n => floatOfInteger n
  | .bool b => .ok (if b then 1 else 0)
  | .text t => floatOfText t
  | .leaf a =>
    match ByteScalar.bytes? a with
    | none => .fault .notFloat
    | some bs => match Text.Utf8.decode? false bs with
      | some t => floatOfText t
      | none => .fault .floatNumeral
  | _ => .fault .notFloat

/-- A double above a bound. -/
def above (bound : Float) (check : Check ε Float) : Check ε Float := fun v =>
  (check v).andThen fun x => if bound < x then .ok x else .fault .notAbove

/-- An integer at or above a bound. -/
def atLeast (bound : Int) (check : Check ε Int) : Check ε Int := fun v =>
  (check v).andThen fun n => if bound ≤ n then .ok n else .fault .below

/-- A list of values. -/
def asList (check : Check ε α) : Check ε (List α)
  | .seq items => .items check 0 items
  | _ => .fault .notList

/-- The fields of a record. -/
abbrev Fields (ε : Type) : Type := List (Text × Tree ε)

/-- A record, whose fields are checked together. -/
def asRecord (check : Fields ε → Checked α) : Check ε α
  | .map fields => check fields
  | _ => .fault .notRecord

/-- A value that may be null. -/
def nullable (check : Check ε α) : Check ε (Option α)
  | .null => .ok none
  | v => some <$> check v

/-- A field that a record needs. -/
def required (name : String) (check : Check ε α) (fields : Fields ε) : Checked α :=
  (match Tree.find? (text name) fields with
    | some v => check v
    | none => .fault .missing : Checked α).below (.key (text name))

/-- A field with a value for records that do not have it. -/
def withDefault (name : String) (default : α) (check : Check ε α) (fields : Fields ε) :
    Checked α :=
  match Tree.find? (text name) fields with
  | some v => (check v).below (.key (text name))
  | none => .ok default

/-- A field that may be missing or null. -/
def optional (name : String) (check : Check ε α) : Fields ε → Checked (Option α) :=
  withDefault name none (nullable check)

end JobMeter.Schema
