import JobMeter.Text.Cut

/-!
# Punycode

A text is written in ASCII: first its ASCII characters, then, in digits of base 36, where the others
stand.  They come in the order of their code points, and what is written is the distance of each
insertion from the one before, counted through all places and code points in between.

A number is written with digits that are least significant first.  The last digit is the first that
is below a threshold, which follows the size of the numbers before (`adapt`).

* `encode` writes a text.
* `decode?` reads one from bytes; it stops at what is no digit, and at a number that is not
  complete.
-/

namespace JobMeter.Text.Punycode

/-- The digit of a value below 36. -/
def digit (v : Nat) : CodePoint := CodePoint.ofNat (if v < 26 then 0x61 + v else 0x30 + (v - 26))

/-- The threshold of the digit at a place. -/
def threshold (bias place : Nat) : Nat :=
  let k := 36 * (place + 1)
  if k ≤ bias + 1 then 1 else if bias + 26 ≤ k then 26 else k - bias

/-- The digits of a number from a place on. -/
def number (bias : Nat) (place n : Nat) : Text :=
  let t := threshold bias place
  if n < t then [digit n]
  else
    if hn : n = 0 then [digit 0]
    else
      have : (n - t) / (36 - t) < n := by
        have ht : 1 ≤ t := by
          simp only [t, threshold]
          split
          · omega
          · split <;> omega
        exact Nat.lt_of_le_of_lt (Nat.div_le_self _ _) (by omega)
      digit (t + (n - t) % (36 - t)) :: number bias (place + 1) ((n - t) / (36 - t))
termination_by n

/-- The number of times that 35 is taken out of a number until it is at most 455. -/
def halvings (n : Nat) : Nat × Nat :=
  if 455 < n then
    let (k, r) := halvings (n / 35)
    (k + 1, r)
  else (0, n)
termination_by n
decreasing_by exact Nat.div_lt_self (by omega) (by omega)

/-- The bias after a number was written.  `count` is how many characters stand then. -/
def adapt (first : Bool) (n count : Nat) : Nat :=
  let n := if first then n / 700 else n / 2
  let (k, r) := halvings (n + n / count)
  36 * k + 36 * r / (r + 38)

/-- The state of writing. -/
structure State where
  /-- The code point that is inserted. -/
  value : Nat := 0x80
  /-- The distance since the last insertion. -/
  distance : Nat := 0
  bias : Nat := 72
  /-- How many characters stand. -/
  count : Nat
  first : Bool := true
  /-- What was written, in reverse. -/
  out : Text := []

/-- Passes over one character of the text. -/
def State.pass (s : State) (p : CodePoint) : State :=
  if p.val < s.value then { s with distance := s.distance + 1 }
  else if p.val = s.value then
    { s with
      out := (number s.bias 0 s.distance).reverse ++ s.out
      bias := adapt s.first s.distance (s.count + 1)
      distance := 0, count := s.count + 1, first := false }
  else s

/-- Inserts all characters of a code point. -/
def State.insert (t : Text) (s : State) (value : Nat) : State :=
  let s := { s with distance := s.distance + (value - s.value) * (s.count + 1), value := value }
  let s := t.foldl State.pass s
  { s with value := value + 1, distance := s.distance + 1 }

/-- The text in ASCII. -/
def encode (t : Text) : Text :=
  let basic := t.filter fun p => decide (p.val < 0x80)
  let values := ((t.map (·.val)).filter (0x80 ≤ ·)).eraseDups.mergeSort
  let s := values.foldl (State.insert t) { count := basic.length }
  basic ++ (if basic.isEmpty then [] else text "-") ++ s.out.reverse

/-- The value of a digit; the case of a letter does not matter. -/
def digit? (p : CodePoint) : Option Nat :=
  let p := (upperPoint p).val
  if 0x41 ≤ p ∧ p ≤ 0x5A then some (p - 0x41)
  else if 0x30 ≤ p ∧ p ≤ 0x39 then some (p - 0x30 + 26)
  else none

/-- The state of reading. -/
structure Reading where
  /-- What stands. -/
  out : Text
  /-- The code point that is inserted. -/
  value : Nat := 0x80
  /-- The first place where it can be inserted. -/
  place : Nat := 0
  bias : Nat := 72
  first : Bool := true
  /-- How many digits of a number have been read. -/
  digits : Nat := 0
  /-- What the next digit counts. -/
  weight : Nat := 1
  /-- The number as far as it has been read. -/
  distance : Nat := 0

/-- Inserts a character at a distance.  A question mark stands for a number that is no code point,
and the code points after it are counted from there. -/
def Reading.insert (s : Reading) (distance : Nat) : Reading :=
  let places := s.out.length + 1
  let place := s.place + distance
  let value := s.value + place / places
  let value := if value < 0x110000 then value else 0x3F
  let place := place % places
  { out := s.out.take place ++ CodePoint.ofNat value :: s.out.drop place
    value := value
    place := place + 1
    bias := adapt s.first distance places
    first := false }

/-- Reads digits, up to what is none. -/
def Reading.read (s : Reading) : Text → Text
  | [] => s.out
  | p :: rest =>
    match digit? p with
    | none => s.out
    | some v =>
      let distance := s.distance + v * s.weight
      let t := threshold s.bias s.digits
      if v < t then Reading.read (s.insert distance) rest
      else
        Reading.read
          { s with digits := s.digits + 1, weight := s.weight * (36 - t), distance } rest

/-- The text that is written in bytes.  Of those before the last hyphen, each that is no ASCII
becomes the replacement character; after it there may be none. -/
def decode? (bytes : List UInt8) : Option Text :=
  let t : Text := bytes.map fun b => CodePoint.ofNat b.toNat
  let (basic, written) := (cutLast? '-' t).getD ([], t)
  if isAscii written then
    some (Reading.read { out := basic.map fun p =>
      if p.val < 0x80 then p else CodePoint.replacement } written)
  else none

end JobMeter.Text.Punycode
