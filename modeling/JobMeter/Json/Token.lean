import JobMeter.Number.Style
import JobMeter.Text.Digit
import JobMeter.Tree

/-!
# Tokens of JSON texts

`Token.scan?` cuts a text into tokens.  It goes through the text once, with a `Mode` that says
in which token it is:

* numbers without a fraction and an exponent are integers of any size, up to `longestInteger`
  digits; the others are doubles;
* `NaN`, `Infinity` and `-Infinity` are numbers too;
* in a string, two `\u` escapes that follow each other and spell the two halves of a code point
  give that code point, and a half without its partner stays as it is.
-/

namespace JobMeter.Json

/-- A token: a bracket or a separator, or a scalar. -/
inductive Token where
  | openSeq
  | closeSeq
  | openMap
  | closeMap
  | comma
  | colon
  | text (t : Text)
  | scalar (v : Json)

namespace Token

/-- Integers with more digits are refused. -/
def longestInteger : Nat := 4300

/-- A numeral in parts: sign, digits before and after the point, exponent. -/
structure Numeral where
  negative : Bool
  whole : List Char
  fraction : Option (List Char)
  exponent : Option (Bool × List Char)

/-- The parts of a numeral as JSON writes it. -/
def Numeral.parse? (cs : List Char) : Option Numeral :=
  let (negative, cs) := match cs with
    | '-' :: r => (true, r)
    | r => (false, r)
  let whole := cs.takeWhile Text.isAsciiDigit
  let rest := cs.dropWhile Text.isAsciiDigit
  let wholeFits := match whole with
    | [] => false
    | '0' :: _ :: _ => false
    | _ => true
  let (fraction, rest) := match rest with
    | '.' :: r => (some (r.takeWhile Text.isAsciiDigit), r.dropWhile Text.isAsciiDigit)
    | r => (none, r)
  let (exponent, rest) := match rest with
    | e :: r =>
      if e == 'e' || e == 'E' then
        let (down, r) := match r with
          | '-' :: r => (true, r)
          | '+' :: r => (false, r)
          | r => (false, r)
        (some (down, r.takeWhile Text.isAsciiDigit), r.dropWhile Text.isAsciiDigit)
      else (none, e :: r)
    | [] => (none, [])
  let filled := fraction.all (!·.isEmpty) && exponent.all (!·.2.isEmpty)
  if wholeFits && filled && rest.isEmpty then some ⟨negative, whole, fraction, exponent⟩ else none

/-- The number that a numeral writes. -/
def Numeral.value? (n : Numeral) : Option Json :=
  match n.fraction, n.exponent with
  | none, none =>
    if n.whole.length > longestInteger then none
    else
      let magnitude : Int := Text.decimalNumber n.whole
      some (.int (if n.negative then -magnitude else magnitude))
  | fraction, exponent =>
    let fraction := fraction.getD []
    let shift : Int := match exponent with
      | some (true, ds) => -(Text.decimalNumber ds : Int)
      | some (false, ds) => Text.decimalNumber ds
      | none => 0
    some (.float (Number.scaled n.negative (Text.decimalNumber (n.whole ++ fraction))
      (shift - fraction.length)))

/-- The value of a word. -/
def word? (w : String) : Option Json :=
  match w with
  | "null" => some .null
  | "true" => some (.bool true)
  | "false" => some (.bool false)
  | "NaN" => some (.float (0.0 / 0.0))
  | "Infinity" => some (.float (1.0 / 0.0))
  | "-Infinity" => some (.float (-1.0 / 0.0))
  | _ => none

/-- In which token the reader is.  What has been read of it is kept in reverse. -/
inductive Mode where
  | between
  | number (read : List Char)
  | word (read : List Char)
  /-- In a string; `half` tells that the last code point is a first half spelled by an escape. -/
  | string (read : Text) (half : Bool)
  | escape (read : Text) (half : Bool)
  /-- In the four digits of an escape. -/
  | hex (read : Text) (half : Bool) (digits : List Char)

/-- The code point of a one-letter escape. -/
def escaped? (c : Char) : Option Char :=
  match c with
  | '"' => some '"'
  | '\\' => some '\\'
  | '/' => some '/'
  | 'b' => some '\x08'
  | 'f' => some '\x0c'
  | 'n' => some '\n'
  | 'r' => some '\r'
  | 't' => some '\t'
  | _ => none

/-- Is the number the first half of a code point that is spelled in two halves? -/
def isFirstHalf (n : Nat) : Bool := 0xD800 ≤ n && n ≤ 0xDBFF

/-- Is the number a second half? -/
def isSecondHalf (n : Nat) : Bool := 0xDC00 ≤ n && n ≤ 0xDFFF

/-- Adds the code point of a `\u` escape to a string. -/
def addUnit (read : Text) (half : Bool) (n : Nat) : Mode :=
  match half, isSecondHalf n, read with
  | true, true, p :: rest =>
    .string (CodePoint.ofNat (0x10000 + (p.val - 0xD800) * 0x400 + (n - 0xDC00)) :: rest) false
  | _, _, read => .string (CodePoint.ofNat n :: read) (isFirstHalf n)

/-- A place between tokens: the mode after a character there, and the token it is. -/
def start? (c : Char) : Option (Mode × Option Token) :=
  match c with
  | ' ' | '\t' | '\n' | '\r' => some (.between, none)
  | '[' => some (.between, some .openSeq)
  | ']' => some (.between, some .closeSeq)
  | '{' => some (.between, some .openMap)
  | '}' => some (.between, some .closeMap)
  | ',' => some (.between, some .comma)
  | ':' => some (.between, some .colon)
  | '"' => some (.string [] false, none)
  | c =>
    if c == '-' || Text.isAsciiDigit c then some (.number [c], none)
    else if c.isAlpha then some (.word [c], none)
    else none

/-- Can a numeral hold the character? -/
def isNumeralChar (c : Char) : Bool :=
  Text.isAsciiDigit c || c == '.' || c == '+' || c == '-' || c == 'e' || c == 'E'

/-- The scalar that was read, in reverse, as a numeral. -/
def numeral? (read : List Char) : Option Token := do
  let n ← Numeral.parse? read.reverse
  pure (.scalar (← n.value?))

/-- The scalar that was read, in reverse, as a word. -/
def wordToken? (read : List Char) : Option Token :=
  (word? (String.ofList read.reverse)).map .scalar

/-- The tokens of a text; `out` holds in reverse those before it. -/
def scanFrom (mode : Mode) (out : List Token) : Text → Option (List Token)
  | [] =>
    match mode with
    | .between => some out.reverse
    | .number read => (numeral? read).map fun t => (t :: out).reverse
    | .word read => (wordToken? read).map fun t => (t :: out).reverse
    | _ => none
  | p :: rest =>
    match mode with
    | .between => do
      let (mode, token) ← start? (← p.toChar?)
      scanFrom mode (token.toList ++ out) rest
    | .number read => do
      let c ← p.toChar?
      if isNumeralChar c then scanFrom (.number (c :: read)) out rest
      else if c == 'I' && read == ['-'] then scanFrom (.word (c :: read)) out rest
      else
        let t ← numeral? read
        let (mode, token) ← start? c
        scanFrom mode (token.toList ++ t :: out) rest
    | .word read => do
      let c ← p.toChar?
      if c.isAlpha then scanFrom (.word (c :: read)) out rest
      else
        let t ← wordToken? read
        let (mode, token) ← start? c
        scanFrom mode (token.toList ++ t :: out) rest
    | .string read half =>
      match p.toChar? with
      | some '"' => scanFrom .between (.text read.reverse :: out) rest
      | some '\\' => scanFrom (.escape read half) out rest
      | _ => if p.val < 0x20 then none else scanFrom (.string (p :: read) false) out rest
    | .escape read half => do
      let c ← p.toChar?
      if c == 'u' then scanFrom (.hex read half []) out rest
      else
        let e ← escaped? c
        scanFrom (.string (CodePoint.ofChar e :: read) false) out rest
    | .hex read half digits => do
      let c ← p.toChar?
      let _ ← Text.hexValue? c
      if digits.length = 3 then
        let n ← Text.hexNumber? (c :: digits).reverse
        scanFrom (addUnit read half n) out rest
      else scanFrom (.hex read half (c :: digits)) out rest

/-- The tokens of a text, if it is made of tokens. -/
def scan? (t : Text) : Option (List Token) := scanFrom .between [] t

end Token

end JobMeter.Json
