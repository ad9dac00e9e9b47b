import JobMeter.Number.Style
import JobMeter.Text.Blank
import JobMeter.Text.Digit

/-!
# Numerals

Texts that write numbers: doubles in decimal notation (`float?`), integers in a base
(`integerIn?`), and integers with underscores that part their digits (`integer?`).
-/

namespace JobMeter.Number.Numeral

open JobMeter.Text

/-- The sign of a numeral and what follows it. -/
def sign : List Char → Bool × List Char
  | '-' :: r => (true, r)
  | '+' :: r => (false, r)
  | r => (false, r)

/-- The exponent that a numeral ends with. -/
def exponent? (cs : List Char) : Option Int :=
  let (negative, ds) := sign cs
  if ds.isEmpty || !ds.all isAsciiDigit then none
  else
    let n : Int := decimalNumber ds
    some (if negative then -n else n)

/-- The double that a text of decimal notation writes: digits on at least one side of a point
that may be missing, and an exponent that may be missing. -/
def decimal? (negative : Bool) (cs : List Char) : Option Float :=
  let isMark := fun c => c == 'e' || c == 'E'
  let mantissa := cs.takeWhile fun c => !isMark c
  let exponent := match cs.dropWhile fun c => !isMark c with
    | [] => some 0
    | _ :: r => exponent? r
  let whole := mantissa.takeWhile (· != '.')
  let fraction := (mantissa.dropWhile (· != '.')).drop 1
  if (whole ++ fraction).isEmpty || !(whole ++ fraction).all isAsciiDigit then none
  else exponent.map fun e =>
    scaled negative (decimalNumber (whole ++ fraction)) (e - fraction.length)

/-- The double that a text writes, with no characters around it. -/
def float? (cs : List Char) : Option Float :=
  let (negative, body) := sign cs
  match String.ofList (body.map Char.toLower) with
  | "inf" | "infinity" => some (if negative then -(1.0 / 0.0) else 1.0 / 0.0)
  | "nan" => some (0.0 / 0.0)
  | _ => decimal? negative body

/-- The value of a digit in a base up to 16: a decimal digit of any script, or a letter. -/
def digitIn? (base : Nat) (c : Char) : Option Nat :=
  ((digitValue? c).or (hexValue? c)).filter (· < base)

/-- The mark that a numeral in a base may start with, after its zero. -/
def baseMark? (base : Nat) (c : Char) : Bool :=
  match base with
  | 2 => c == 'b' || c == 'B'
  | 8 => c == 'o' || c == 'O'
  | 16 => c == 'x' || c == 'X'
  | _ => false

/-- The integer that a text writes in a base: with a sign, with the mark of the base, and with
white space around it, each of which may be missing. -/
def integerIn? (base : Nat) (cs : List Char) : Option Int :=
  let (negative, cs) := sign (trimBoth isWhiteSpace cs)
  let ds := match cs with
    | '0' :: m :: r => if baseMark? base m then r else cs
    | _ => cs
  if ds.isEmpty then none
  else
    (ds.foldl (fun n? c => do
      let n ← n?
      let d ← digitIn? base c
      pure (base * n + d)) (some 0)).map fun n => if negative then -(n : Int) else n

/-- Numerals with more digits are refused by `integer?`. -/
def longest : Nat := 4300

/-- The digits of a numeral in groups, with an underscore between one group and the next. -/
def groups : List Char → List (List Char)
  | [] => [[]]
  | '_' :: r => [] :: groups r
  | c :: r =>
    match groups r with
    | g :: gs => (c :: g) :: gs
    | [] => [[c]]

/-- The integer that a text writes, with single underscores between its digits, and with a sign
and white space around it, each of which may be missing. -/
def integer? (cs : List Char) : Option Int :=
  let (negative, body) := sign (trimBoth isWhiteSpace cs)
  let parts := groups body
  let digits := parts.flatten
  if parts.any List.isEmpty || !digits.all isDecimal || longest < digits.length then none
  else
    let n : Int := decimalNumber digits
    some (if negative then -n else n)

end JobMeter.Number.Numeral
