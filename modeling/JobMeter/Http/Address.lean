import JobMeter.Http.Escape

/-!
# Addresses of hosts

A host can be given by its address instead of a name: four numbers with dots (version 4), or eight
groups of hexadecimal digits with colons (version 6), of which the last two may be written as four
numbers, and a run of zero groups as two colons.
-/

namespace JobMeter.Http

/-- Is it a number from 0 to 255, without leading zeros? -/
def isOctet (t : Text) : Bool :=
  match t.toChars? with
  | none => false
  | some cs =>
    !cs.isEmpty && cs.length ≤ 3 && cs.all Text.isAsciiDigit &&
      (cs.length == 1 || cs.head? != some '0') && Text.decimalNumber cs ≤ 255

/-- Is it an address of version 4? -/
def isVersion4 (t : Text) : Bool :=
  let parts := Text.splitOn '.' t
  parts.length == 4 && parts.all isOctet

/-- Is it a group of an address of version 6? -/
def isGroup (t : Text) : Bool :=
  !t.isEmpty && t.length ≤ 4 && t.all fun p => (hexValue? p).isSome

/-- How many groups the parts stand for, if they are groups; the last may stand for two. -/
def groupCount? : List Text → Option Nat
  | [] => some 0
  | [t] => if isGroup t then some 1 else if isVersion4 t then some 2 else none
  | t :: ts => if isGroup t then (groupCount? ts).map (· + 1) else none

/-- The parts of one side of a run of zeros. -/
def sideOf (t : Text) : List Text := if t.isEmpty then [] else Text.splitOn ':' t

/-- Cuts a text at the first two colons. -/
def cutZeros? : Text → Option (Text × Text)
  | p :: q :: r =>
    if CodePoint.is ':' p && CodePoint.is ':' q then some ([], r)
    else (cutZeros? (q :: r)).map fun (a, b) => (p :: a, b)
  | _ => none

/-- Is it an address of version 6 without a zone? -/
def isPlainVersion6 (t : Text) : Bool :=
  match cutZeros? t with
  | none => groupCount? (Text.splitOn ':' t) == some 8
  | some (before, after) =>
    let before := sideOf before
    before.all isGroup &&
      match groupCount? (sideOf after) with
      | some n => before.length + n ≤ 7
      | none => false

/-- Is it an address of version 6? -/
def isVersion6 (t : Text) : Bool :=
  match Text.cut? '%' t with
  | none => isPlainVersion6 t
  | some (address, zone) => isPlainVersion6 address && !zone.isEmpty && !Text.holds '%' zone

end JobMeter.Http
