import JobMeter.Number.Shortest

/-!
# Writing and reading doubles

A `Style` says how the shortest decimal of a double is laid out: which magnitudes are written
with a point and which with an exponent, and what infinities are called.  `Style.plain` is the
style of JSON texts and `Style.sample` the style of exposed metrics.

`scaled` gives the double nearest to a number of decimal digits, and `toInt?` the integer that a
double is.
-/

namespace JobMeter.Number

/-- How a double is written. -/
structure Style where
  /-- Numbers from this power of ten on take an exponent, if they are positive. -/
  exponentFrom : Int
  /-- The same for negative numbers. -/
  exponentFromNegative : Int
  /-- Numbers below this power of ten take an exponent. -/
  exponentBelow : Int
  infinity : String
  negativeInfinity : String
  notANumber : String

namespace Style

/-- A point up to sixteen digits, an exponent beyond; the names are those of JSON dialects. -/
def plain : Style where
  exponentFrom := 16
  exponentFromNegative := 16
  exponentBelow := -4
  infinity := "Infinity"
  negativeInfinity := "-Infinity"
  notANumber := "NaN"

/-- Positive samples take an exponent from one million on. -/
def sample : Style where
  exponentFrom := 6
  exponentFromNegative := 16
  exponentBelow := -4
  infinity := "+Inf"
  negativeInfinity := "-Inf"
  notANumber := "NaN"

end Style

/-- An exponent with its sign and at least two digits. -/
def exponentText (e : Int) : List Char :=
  let ds := Nat.toDigits 10 e.natAbs
  (if e < 0 then '-' else '+') :: (if ds.length < 2 then '0' :: ds else ds)

/-- Digits with a point after the first, if there are more, and an exponent. -/
def scientific (d : Decimal) : List Char :=
  let mantissa := match Nat.toDigits 10 d.digits with
    | [] => []
    | [c] => [c]
    | c :: r => c :: '.' :: r
  mantissa ++ 'e' :: exponentText d.leading

/-- Digits with the point where it belongs, and at least one digit on each side of it. -/
def positional (d : Decimal) : List Char :=
  let ds := Nat.toDigits 10 d.digits
  if 0 ≤ d.exponent then ds ++ List.replicate d.exponent.toNat '0' ++ ['.', '0']
  else
    let places := (-d.exponent).toNat
    if places < ds.length then ds.take (ds.length - places) ++ '.' :: ds.drop (ds.length - places)
    else '0' :: '.' :: (List.replicate (places - ds.length) '0' ++ ds)

/-- The magnitude of a double in a style. -/
def Style.magnitude (s : Style) (negative : Bool) (d : Decimal) : List Char :=
  let limit := if negative then s.exponentFromNegative else s.exponentFrom
  if d.digits = 0 then ['0', '.', '0']
  else if s.exponentBelow ≤ d.leading ∧ d.leading < limit then positional d
  else scientific d

/-- Is the sign bit of the double set? -/
def isNegative (x : Float) : Bool := x.toBits.toNat ≥ 0x8000000000000000

/-- A double in a style. -/
def Style.write (s : Style) (x : Float) : String :=
  match Binary.ofFloat? x with
  | some b =>
    let body := s.magnitude (isNegative x) (shortest b)
    String.ofList (if isNegative x then '-' :: body else body)
  | none =>
    if x.isNaN then s.notANumber else if isNegative x then s.negativeInfinity else s.infinity

/-! ## Reading -/

/-- The double nearest to `n · 10 ^ e`. -/
def scaled (negative : Bool) (n : Nat) (e : Int) : Float :=
  let digits := (Nat.toDigits 10 n).length
  let x :=
    if n = 0 then 0.0
    else if (digits : Int) + e > 400 then 1.0 / 0.0
    else if (digits : Int) + e < -400 then 0.0
    else if 0 ≤ e then Float.ofScientific (n * Nat.pow 10 e.toNat) false 0
    else Float.ofScientific n true (-e).toNat
  if negative then -x else x

/-- The double nearest to an integer. -/
def ofInt (n : Int) : Float := scaled (n < 0) n.natAbs 0

/-- The integer that a double is, if it is one. -/
def toInt? (x : Float) : Option Int := do
  let b ← Binary.ofFloat? x
  let (num, den) := Binary.ratio b.mantissa b.exponent
  if num % den = 0 then
    pure (if isNegative x then -((num / den : Nat) : Int) else ((num / den : Nat) : Int))
  else none

/-- Is the double neither infinite nor undefined? -/
def isFinite (x : Float) : Bool := (Binary.ofFloat? x).isSome

end JobMeter.Number
