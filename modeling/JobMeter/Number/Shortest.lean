/-!
# The shortest decimal that reads back

A double is `m · 2 ^ q` with a natural number `m`.  The reals that round to it form an interval
around it, and of the decimals in that interval `shortest` picks one with the fewest digits, and
of those the nearest.

* `Binary`, `Binary.ofFloat?`: a finite double taken apart;
* `Binary.Rounds`: the interval, in exact arithmetic;
* `Decimal`, `shortest`: the decimal that is written.
-/

namespace JobMeter.Number

/-- A non-negative number `mantissa · 2 ^ exponent`, with how its neighbours lie. -/
structure Binary where
  mantissa : Nat
  exponent : Int
  /-- The gap below is half as wide as the gap above. -/
  narrowBelow : Bool
  deriving DecidableEq, Repr

/-- A number `digits · 10 ^ exponent`. -/
structure Decimal where
  digits : Nat
  exponent : Int
  deriving DecidableEq, Repr

namespace Binary

/-- The magnitude of a finite double; `none` for infinities and for what is not a number. -/
def ofFloat? (x : Float) : Option Binary :=
  let bits := x.toBits.toNat
  let fraction : Nat := bits % 0x10000000000000
  let biased : Nat := bits / 0x10000000000000 % 0x800
  if biased = 2047 then none
  else if biased = 0 then some ⟨fraction, -1074, false⟩
  else some ⟨0x10000000000000 + fraction, (biased : Int) - 1075, fraction = 0 ∧ 1 < biased⟩

/-- The numerator and the denominator of `n · 2 ^ e`. -/
def ratio (n : Nat) (e : Int) : Nat × Nat :=
  if 0 ≤ e then (n * Nat.pow 2 e.toNat, 1) else (n, Nat.pow 2 (-e).toNat)

/-- Does `d · 10 ^ k` round to the number?  All sides are compared in quarters of its last
place. -/
def Rounds (b : Binary) (d : Nat) (k : Int) : Bool :=
  let low := 4 * b.mantissa - (if b.narrowBelow then 1 else 2)
  let high := 4 * b.mantissa + 2
  let e := b.exponent - 2
  let (l, den) := ratio low e
  let (h, _) := ratio high e
  let (num, den10) := if 0 ≤ k then (d * Nat.pow 10 k.toNat, 1) else (d, Nat.pow 10 (-k).toNat)
  if b.mantissa % 2 = 0 then l * den10 ≤ num * den && num * den ≤ h * den10
  else l * den10 < num * den && num * den < h * den10

end Binary

namespace Decimal

/-- The digits without zeros at their end, at most `fuel` of them dropped. -/
def stripZeros : Nat → Decimal → Decimal
  | 0, d => d
  | fuel + 1, d =>
    if d.digits ≠ 0 ∧ d.digits % 10 = 0 then stripZeros fuel ⟨d.digits / 10, d.exponent + 1⟩
    else d

/-- How many digits are written. -/
def length (d : Decimal) : Nat := (Nat.toDigits 10 d.digits).length

/-- The power of ten of the first digit. -/
def leading (d : Decimal) : Int := d.exponent + d.length - 1

end Decimal

/-- The two neighbours of a quotient on the grid of multiples of `10 ^ k`, the nearer first; of
two that are equally near the even one. -/
def neighbours (num den : Nat) (k : Int) : List Nat :=
  let (n, d) :=
    if 0 ≤ k then (num, den * Nat.pow 10 k.toNat) else (num * Nat.pow 10 (-k).toNat, den)
  let low := n / d
  let r := n % d
  if 2 * r < d ∨ (2 * r = d ∧ low % 2 = 0) then [low, low + 1] else [low + 1, low]

/-- The power of ten of the first digit of a positive quotient. -/
def leadingPower (num den : Nat) : Int :=
  if den ≤ num then ((Nat.toDigits 10 (num / den)).length : Int) - 1
  else
    let digits := (Nat.toDigits 10 (den / num)).length
    if num * Nat.pow 10 (digits - 1) ≥ den then -((digits : Int) - 1) else -(digits : Int)

/-- The first grid, from `n` digits on, that holds a decimal which rounds to the number. -/
def search (b : Binary) (num den : Nat) (leading : Int) : Nat → Nat → Option Decimal
  | 0, _ => none
  | fuel + 1, n =>
    let k := leading - (n : Int) + 1
    match (neighbours num den k).find? fun d => b.Rounds d k with
    | some d => some ⟨d, k⟩
    | none => search b num den leading fuel (n + 1)

/-- The shortest decimal that rounds to the number, and of those the nearest.  Seventeen digits
are enough for every double. -/
def shortest (b : Binary) : Decimal :=
  if b.mantissa = 0 then ⟨0, 0⟩
  else
    let (num, den) := Binary.ratio b.mantissa b.exponent
    match search b num den (leadingPower num den) 18 1 with
    | some d => d.stripZeros 400
    | none => ⟨0, 0⟩

end JobMeter.Number
