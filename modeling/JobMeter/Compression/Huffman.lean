import JobMeter.Compression.Bits

/-!
# Prefix codes

A code is given by the length that each symbol has in it.  Codes of one length are consecutive
numbers in the order of their symbols, and follow those of smaller lengths.
-/

namespace JobMeter.Compression

/-- A prefix code. -/
structure Code where
  /-- How many symbols have a length, from the length 1 on. -/
  counts : List Nat
  /-- The symbols in the order of their codes. -/
  symbols : Array Nat

namespace Code

/-- The greatest length of a code. -/
def maxLength : Nat := 15

/-- The symbols of a length, in their order. -/
def symbolsOf (lengths : List Nat) (n : Nat) : List Nat :=
  (lengths.zipIdx.filter fun (l, _) => l == n).map (·.2)

/-- The room that codes leave after those of the lengths have been given away; none, if there are
too many of them. -/
def room? (counts : List Nat) : Option Nat :=
  counts.foldl (fun left? n => left?.bind fun left =>
    if n ≤ 2 * left then some (2 * left - n) else none) (some 1)

/-- The code of which every bit is the symbol zero. -/
def zeros : Code := ⟨[2], #[0, 0]⟩

/-- The code with given lengths.  All of the room has to be given away, unless no symbol has a
length: then it reads nothing but zeros.  If `loose`, one code of one bit may leave the rest of the
room, and a code without symbols can be had but not read. -/
def ofLengths? (loose : Bool) (lengths : List Nat) : Option Code := do
  let bySize := (List.range maxLength).map fun n => symbolsOf lengths (n + 1)
  let counts := bySize.map List.length
  let room ← room? counts
  let single := counts.drop 1 |>.all (· == 0)
  let unused := counts.all (· == 0)
  if unused && !loose then some zeros
  else if room = 0 || (loose && single) then
    some ⟨counts.take (if single then 1 else maxLength), bySize.flatten.toArray⟩
  else none

/-- Reads a symbol: `code` and `first` are the bits read and the first code of their number, and
`index` is how many symbols have shorter codes. -/
def readFrom (c : Code) (code first index : Nat) : List Nat → Reading Nat
  | [] => throw .corrupt
  | count :: counts => do
    let code := 2 * code + (← Reading.bit)
    if code < first + count then
      match c.symbols[index + (code - first)]? with
      | some s => return s
      | none => throw .corrupt
    else readFrom c code (2 * (first + count)) (index + count) counts

/-- Reads a symbol. -/
def read (c : Code) : Reading Nat := readFrom c 0 0 0 c.counts

end Code

end JobMeter.Compression
