import JobMeter.Text.Digit
import JobMeter.Yaml.Cursor

/-!
# Tags of YAML nodes

A tag says what a node stands for.  A scalar without quotes and without a tag gets its tag from
how it is written: `Tag.ofPlain` knows the written forms of null, truth values, integers, doubles,
dates, and the two marks that mean something as keys.
-/

namespace JobMeter.Yaml

open Text

/-- What a node stands for. -/
inductive Tag where
  | null
  | bool
  | int
  | float
  | binary
  | timestamp
  | str
  | seq
  | map
  | omap
  | pairs
  | set
  /-- The key whose value is merged into its mapping. -/
  | merge
  /-- The key whose value stands for its mapping. -/
  | value
  /-- A tag that is not known. -/
  | unknown
  deriving DecidableEq, Repr

namespace Tag

/-- What the full names of the known tags start with. -/
def start : Text := text "tag:yaml.org,2002:"

/-- The known tags by the ends of their names. -/
def names : List (String × Tag) :=
  [("null", null), ("bool", bool), ("int", int), ("float", float), ("binary", binary),
   ("timestamp", timestamp), ("str", str), ("seq", seq), ("map", map), ("omap", omap),
   ("pairs", pairs), ("set", set), ("merge", merge), ("value", value)]

/-- The tag of a full name. -/
def ofName (n : Text) : Tag :=
  ((names.find? fun e => start ++ text e.1 == n).map Prod.snd).getD unknown

/-! ## Written forms -/

/-- The text without a sign before it. -/
def withoutSign : List Char → List Char
  | '-' :: r => r
  | '+' :: r => r
  | r => r

/-- Is it a digit or an underscore? -/
def isDigitOrUnderscore (x : Char) : Bool := isAsciiDigit x || x == '_'

/-- Is it a digit of base 60 that is written with one or two digits? -/
def isSixtieth : List Char → Bool
  | [a] => isAsciiDigit a
  | [a, b] => '0' ≤ a && a ≤ '5' && isAsciiDigit b
  | _ => false

/-- The parts of a text between colons. -/
def colonParts (cs : List Char) : List (List Char) := cs.splitOn ':'

/-- Digits and underscores that start with a digit. -/
def isDecimalRun : List Char → Bool
  | [] => false
  | x :: r => isAsciiDigit x && r.all isDigitOrUnderscore

/-- Is it an integer: in base 2, 8, 10 or 16, or in base 60 with colons? -/
def isInt (cs : List Char) : Bool :=
  match withoutSign cs with
  | '0' :: 'b' :: r => !r.isEmpty && r.all fun x => x == '0' || x == '1' || x == '_'
  | '0' :: 'x' :: r => !r.isEmpty && r.all fun x => (hexValue? x).isSome || x == '_'
  | '0' :: r => r.all fun x => ('0' ≤ x && x ≤ '7') || x == '_'
  | cs =>
    match colonParts cs with
    | [] => false
    | whole :: sixtieths => isDecimalRun whole && sixtieths.all isSixtieth

/-- Is it the exponent of a double?  It has a sign. -/
def isExponent : List Char → Bool
  | [] => true
  | e :: s :: ds =>
    (e == 'e' || e == 'E') && (s == '-' || s == '+') && !ds.isEmpty && ds.all isAsciiDigit
  | _ => false

/-- Is it a double: with a point, in base 60 with colons and a point, infinite or undefined? -/
def isFloat (cs : List Char) : Bool :=
  let body := withoutSign cs
  let s := String.ofList body
  let fraction := fun r => isExponent (r.dropWhile isDigitOrUnderscore)
  if s == ".inf" || s == ".Inf" || s == ".INF" then true
  else if [".nan", ".NaN", ".NAN"].contains (String.ofList cs) then true
  else
    let whole := body.takeWhile (· != '.')
    match body.dropWhile (· != '.') with
    | [] => false
    | _ :: r =>
      match colonParts whole with
      | [] => false
      | [w] =>
        if w.isEmpty then
          r.head?.any isAsciiDigit && body.length == cs.length && fraction r
        else isDecimalRun w && fraction r
      | w :: ws => isDecimalRun w && ws.all isSixtieth && r.all isDigitOrUnderscore

/-- The written parts of a date and time. -/
structure Timestamp where
  year : Nat
  month : Nat
  day : Nat
  /-- Hour, minute, second, and the digits of the fraction. -/
  time : Option (Nat × Nat × Nat × List Char)
  /-- The distance from universal time in minutes, with its sign apart. -/
  zone : Option (Bool × Nat)
  deriving DecidableEq

/-- Between `low` and `high` digits, and what follows them. -/
def digits? (low high : Nat) (cs : List Char) : Option (Nat × List Char) :=
  let ds := (cs.take high).takeWhile isAsciiDigit
  if ds.length < low then none else some (decimalNumber ds, cs.drop ds.length)

/-- What follows a character. -/
def after? (x : Char) : List Char → Option (List Char)
  | y :: r => if y == x then some r else none
  | [] => none

/-- The zone at the end of a time. -/
def zone? (cs : List Char) : Option (Option (Bool × Nat)) :=
  match cs.dropWhile fun x => x == ' ' || x == '\t' with
  | [] => if cs.isEmpty then some none else none
  | ['Z'] => some none
  | s :: r =>
    if s == '-' || s == '+' then do
      let (h, r) ← digits? 1 2 r
      match r with
      | [] => pure (some (s == '-', 60 * h))
      | ':' :: r =>
        let (m, r) ← digits? 2 2 r
        if r.isEmpty then pure (some (s == '-', 60 * h + m)) else none
      | _ => none
    else none

/-- The parts of a date, or of a date with a time.  Only a date that stands alone has to have two
digits for month and day; whether others may be shorter is for `short` to say. -/
def timestamp? (short : Bool) (cs : List Char) : Option Timestamp := do
  let (year, r) ← digits? 4 4 cs
  let (month, r1) ← digits? 1 2 (← after? '-' r)
  let (day, r2) ← digits? 1 2 (← after? '-' r1)
  match r2 with
  | [] => if short || cs.length == 10 then pure ⟨year, month, day, none, none⟩ else none
  | x :: r3 =>
    let r3 ← if x == 'T' || x == 't' then some r3
      else if x == ' ' || x == '\t' then some (r3.dropWhile fun x => x == ' ' || x == '\t')
      else none
    let (hour, r4) ← digits? 1 2 r3
    let (minute, r5) ← digits? 2 2 (← after? ':' r4)
    let (second, r6) ← digits? 2 2 (← after? ':' r5)
    let (fraction, r7) := match r6 with
      | '.' :: r => (r.takeWhile isAsciiDigit, r.dropWhile isAsciiDigit)
      | r => ([], r)
    let zone ← zone? r7
    pure ⟨year, month, day, some (hour, minute, second, fraction), zone⟩

/-- The words for truth values. -/
def isBoolWord (s : String) : Bool :=
  ["yes", "Yes", "YES", "no", "No", "NO", "true", "True", "TRUE", "false", "False", "FALSE", "on",
   "On", "ON", "off", "Off", "OFF"].contains s

/-- The words for null. -/
def isNullWord (s : String) : Bool := ["", "~", "null", "Null", "NULL"].contains s

/-- The tag of a scalar without quotes. -/
def ofPlain (cs : List Char) : Tag :=
  let s := String.ofList cs
  if isBoolWord s then bool
  else if isFloat cs then float
  else if isInt cs then int
  else if s == "<<" then merge
  else if isNullWord s then null
  else if (timestamp? false cs).isSome then timestamp
  else if s == "=" then value
  else str

end Tag

end JobMeter.Yaml
