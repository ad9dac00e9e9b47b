import JobMeter.Log.Timestamp
import JobMeter.Number.Numeral
import JobMeter.Schema.Field
import JobMeter.Text.Base64
import JobMeter.Text.Quoted
import JobMeter.Yaml.Node

/-!
# Values of YAML documents

What the nodes of a document stand for, as a `Tree`.  Not every scalar has a value: a text may be
tagged as a number that it does not write.  The values are found level by level, from the outside
in, so of several failures the outermost is reported, and on one level the first.

Of a mapping only the entries with texts as keys are kept, since nothing else is ever asked for.
-/

namespace JobMeter.Yaml

open Text

/-- The scalars that only YAML has. -/
inductive Leaf where
  | bytes (bs : List UInt8)
  | timestamp
  | set (isEmpty : Bool)
  | cycle

instance : Schema.ByteScalar Leaf where
  bytes?
    | .bytes bs => some bs
    | _ => none

/-- A YAML value. -/
abbrev Value := Tree Leaf

namespace Value

/-! ## Scalars -/

/-- A failure about a value. -/
def invalid {α : Type} (message : Text) : Except Failure α :=
  .error ⟨.invalidValue, message, none⟩

/-- A numeral without a character. -/
def noNumeral {α : Type} : Except Failure α :=
  .error (Failure.of .emptyNumeral "string index out of range")

/-- The truth value of a word. -/
def boolOf (t : Text) : Except Failure Bool :=
  let word := t.map fun p => match p.toChar? with
    | some c => CodePoint.ofChar c.toLower
    | none => p
  if [text "yes", text "true", text "on"].contains word then .ok true
  else if [text "no", text "false", text "off"].contains word then .ok false
  else .error ⟨.unknownKey, quote word, none⟩

/-- The integer that a text writes in a base. -/
def integerIn (base : Nat) (cs : List Char) : Except Failure Int :=
  match Number.Numeral.integerIn? base cs with
  | none =>
    invalid (text s!"invalid literal for int() with base {base}: " ++ quote (ofChars cs))
  | some n =>
    let digits := (cs.filter isDecimal).length
    if base = 10 && digits > 4300 then
      invalid (text (s!"Exceeds the limit (4300 digits) for integer string conversion: value has "
        ++ s!"{digits} digits; use sys.set_int_max_str_digits() to increase the limit"))
    else .ok n

/-- The integer of a text: in base 2, 8, 10 or 16, or in base 60 with colons. -/
def intOf (cs : List Char) : Except Failure Int := do
  let cs := cs.filter (· != '_')
  if cs.isEmpty then noNumeral
  let (negative, cs) := Number.Numeral.sign cs
  let n ← (match cs with
    | [] => noNumeral
    | ['0'] => pure 0
    | '0' :: 'b' :: r => integerIn 2 r
    | '0' :: 'x' :: r => integerIn 16 r
    | '0' :: _ => integerIn 8 cs
    | _ => do
      if cs.contains ':' then
        let parts ← (Tag.colonParts cs).mapM (integerIn 10)
        pure (parts.foldl (fun n d => 60 * n + d) 0)
      else integerIn 10 cs
    : Except Failure Int)
  pure (if negative then -n else n)

/-- The ASCII digit of the same value, for a decimal digit of any script. -/
def asciiDigit (c : Char) : Char :=
  match digitValue? c with
  | some d => Char.ofNat ('0'.toNat + d)
  | none => c

/-- The double that a text writes, in digits of any script. -/
def doubleOf (cs : List Char) : Except Failure Float :=
  match Number.Numeral.float? ((trimBoth isWhiteSpace cs).map asciiDigit) with
  | some x => .ok x
  | none => invalid (text "could not convert string to float: " ++ quote (ofChars cs))

/-- The sum of the digits of a numeral in base 60, the last digit first. -/
def sexagesimal : Float → Float → List Float → Float
  | _, sum, [] => sum
  | base, sum, d :: ds => sexagesimal (base * 60) (sum + d * base) ds

/-- The double of a text: decimal, infinite, undefined, or in base 60 with colons. -/
def floatOf (cs : List Char) : Except Failure Float := do
  let cs := (cs.filter (· != '_')).map Char.toLower
  if cs.isEmpty then noNumeral
  let (negative, cs) := Number.Numeral.sign cs
  let x ← (match String.ofList cs with
    | ".inf" => pure (1.0 / 0.0)
    | ".nan" => pure (0.0 / 0.0)
    | _ => do
      if cs.contains ':' then
        let parts ← (Tag.colonParts cs).mapM doubleOf
        pure (sexagesimal 1 0 parts.reverse)
      else doubleOf cs
    : Except Failure Float)
  pure (if negative then -x else x)

/-- A distance from universal time of a day or more, in days and seconds. -/
def distanceText (negative : Bool) (minutes : Nat) : String :=
  let seconds : Int := if negative then -(minutes * 60 : Nat) else (minutes * 60 : Nat)
  let days := seconds.fdiv 86400
  let rest := seconds.fmod 86400
  if rest = 0 then s!"datetime.timedelta(days={days})"
  else s!"datetime.timedelta(days={days}, seconds={rest})"

/-- Checks that there is such a date and such a time. -/
def checkTimestamp (t : Tag.Timestamp) : Except Failure Unit := do
  match t.time, t.zone with
  | some _, some (negative, minutes) =>
    if minutes ≥ 1440 then
      invalid (text ("offset must be a timedelta strictly between -timedelta(hours=24) and "
        ++ s!"timedelta(hours=24), not {distanceText negative minutes}."))
  | _, _ => pure ()
  if t.year = 0 then invalid (text s!"year {t.year} is out of range")
  if t.month = 0 ∨ 12 < t.month then invalid (text "month must be in 1..12")
  if t.day = 0 ∨ Log.Calendar.daysInMonth t.year t.month < t.day then
    invalid (text "day is out of range for month")
  match t.time with
  | none => pure ()
  | some (hour, minute, second, _) =>
    if 23 < hour then invalid (text "hour must be in 0..23")
    if 59 < minute then invalid (text "minute must be in 0..59")
    if 59 < second then invalid (text "second must be in 0..59")

/-- The bytes that a text in base 64 writes. -/
def bytesOf (t : Text) : Except Failure (List UInt8) :=
  match t.mapM fun p => if p.val < 0x80 then p.toChar? else none with
  | none => malformed
  | some cs => match Base64.decode? cs with
    | some bs => .ok bs
    | none => malformed

/-- The value of a scalar, found from the text that a node gives for it. -/
def ofScalar (tag : Tag) (t : Text) : Except Failure Value :=
  let cs := Text.toCharsReplacing t
  match tag with
  | .null => .ok .null
  | .bool => (boolOf t).map .bool
  | .int => (intOf cs).map .int
  | .float => (floatOf cs).map .float
  | .binary => (bytesOf t).map fun bs => .leaf (.bytes bs)
  | .timestamp =>
    match Tag.timestamp? true cs with
    | some ts => (checkTimestamp ts).map fun _ => .leaf .timestamp
    | none => .error ⟨.noDate, [], none⟩
  | .str => .ok (.text t)
  | _ => malformed

/-! ## Nodes -/

/-- The number of nodes around the innermost one. -/
def depth : Node → Nat
  | .seq _ items => depthItems items + 1
  | .map _ entries => depthEntries entries + 1
  | _ => 0
where
  /-- The depth of the deepest item. -/
  depthItems : List Node → Nat
    | [] => 0
    | n :: ns => max (depth n) (depthItems ns)
  /-- The depth of the deepest key or value. -/
  depthEntries : List (Node × Node) → Nat
    | [] => 0
    | (k, v) :: es => max (max (depth k) (depth v)) (depthEntries es)

/-- The text of a node that stands for a scalar.  A mapping may give it under a key of its own. -/
def scalarText? : Nat → Node → Option Text
  | _, .scalar _ t => some t
  | fuel + 1, .map _ entries =>
    (entries.find? fun e => e.1.tag == .value).bind fun e => scalarText? fuel e.2
  | _, _ => none

/-- The entries of a mapping, after those that are merged into it. -/
def flatten : Nat → List (Node × Node) → Except Failure (List (Node × Node))
  | 0, _ => malformed
  | fuel + 1, entries => do
    let merged ← (entries.filter fun e => e.1.tag == .merge).mapM fun e =>
      match e.2 with
      | .map _ es => flatten fuel es
      | .seq _ items => do
        let parts ← items.mapM fun n => match n with
          | .map _ es => flatten fuel es
          | _ => malformed
        pure parts.reverse.flatten
      | _ => malformed
    let own := (entries.filter fun e => e.1.tag != .merge).map fun e =>
      match e.1 with
      | .scalar .value t => (.scalar .str t, e.2)
      | _ => e
    pure (merged.flatten ++ own)

/-- Failures, each with the level on which it shows. -/
abbrev Troubles := List (Nat × Failure)

/-- What a node stands for, and what is wrong with it. -/
abbrev Found := Value × Troubles

/-- A failure on a level. -/
def trouble (level : Nat) (f : Failure) : Found := (.null, [(level, f)])

/-- Does the tag stand for a value with parts?  They are found one level further in. -/
def hasParts (t : Tag) : Bool :=
  t == .seq || t == .map || t == .omap || t == .pairs || t == .set

/-- Finds a value on a level, or the failure to have it. -/
def found (level : Nat) : Except Failure Value → Found
  | .ok v => (v, [])
  | .error f => trouble level f

/-- A document of another form than its tag says. -/
def misformed (level : Nat) : Found := trouble level ⟨.malformedDocument, [], none⟩

/-- The key of an entry. -/
def findKey (fuel level : Nat) (k : Node) : Found :=
  if hasParts k.tag then misformed level
  else match scalarText? fuel k with
    | some t => found level (ofScalar k.tag t)
    | none => misformed level

/-- What a node stands for that is met on a level. -/
def find : Nat → Nat → Node → Found
  | 0, level, _ => misformed level
  | _, _, .cycle => (.leaf .cycle, [])
  | fuel + 1, level, n =>
    let inner := level + 1
    if !hasParts n.tag then
      match scalarText? fuel n with
      | some t => found level (ofScalar n.tag t)
      | none => misformed level
    else
      let entriesOf := fun (entries : List (Node × Node)) =>
        entries.map fun (k, v) => (findKey fuel inner k, find fuel inner v)
      let mapping := fun (entries : List (Node × Node)) (build : List (Text × Value) → Value) =>
        match flatten fuel entries with
        | .error f => trouble inner f
        | .ok entries =>
          let parts := entriesOf entries
          (build (Tree.distinct (parts.filterMap fun (k, v) => match k.1 with
            | .text t => some (t, v.1)
            | _ => none)), parts.flatMap fun (k, v) => k.2 ++ v.2)
      match n.tag, n with
      | .seq, .seq _ items =>
        let parts := items.map (find fuel inner)
        (.seq (parts.map Prod.fst), parts.flatMap Prod.snd)
      | .map, .map _ entries => mapping entries .map
      | .set, .map _ entries => mapping entries fun _ => .leaf (.set entries.isEmpty)
      | .omap, .seq _ items | .pairs, .seq _ items =>
        let parts := items.map fun item => match item with
          | .map _ [(k, v)] =>
            let key := find fuel inner k
            let value := find fuel inner v
            ((.seq [key.1, value.1], key.2 ++ value.2) : Found)
          | _ => misformed inner
        (.seq (parts.map Prod.fst), parts.flatMap Prod.snd)
      | _, _ => misformed inner

/-- The first of the outermost failures. -/
def first? (ts : Troubles) : Option Failure :=
  match ts with
  | [] => none
  | t :: rest => some (rest.foldl (fun a b => if b.1 < a.1 then b else a) t).2

/-- What a node stands for. -/
def ofNode (n : Node) : Except Failure Value :=
  let (v, ts) := find (depth n + 2) 0 n
  match first? ts with
  | some f => .error f
  | none => .ok v

/-- The value of a text; an empty one stands for null. -/
def parse (t : Text) : Except Failure Value := do
  match ← Node.ofTokens (← Token.scan t) with
  | some n => ofNode n
  | none => pure .null

end Value

end JobMeter.Yaml
