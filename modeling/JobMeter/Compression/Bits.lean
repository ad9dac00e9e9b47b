/-!
# Reading bits

Compressed bytes are read bit by bit, the lowest bit of a byte first.  While they are read, an
output grows; of each of its bytes it is known how many bytes of the input had been read when it
came out (`Progress.marks`), so the reader of a prefix of the input knows what comes out of it.

Reading ends with a `Stop` where the input ends too early or is not what it should be.
-/

namespace JobMeter.Compression

/-- Why the reading ends. -/
inductive Stop where
  /-- The input ends. -/
  | short
  /-- The input has not the form that it should have. -/
  | corrupt
  deriving DecidableEq, Repr

/-- How far the reading has come. -/
structure Progress where
  input : Array UInt8
  /-- The number of bits read. -/
  position : Nat := 0
  output : Array UInt8 := #[]
  /-- For each byte of the output, the bytes of the input that were read by then. -/
  marks : Array Nat := #[]

/-- The number of bytes of which bits were read. -/
def Progress.bytesRead (p : Progress) : Nat := (p.position + 7) / 8

/-- Reading compressed bytes. -/
abbrev Reading := EStateM Stop Progress

namespace Reading

/-- The next bit. -/
def bit : Reading Nat := do
  let p ← get
  match p.input[p.position / 8]? with
  | none => throw .short
  | some b =>
    set { p with position := p.position + 1 }
    return (b.toNat >>> (p.position % 8)) % 2

/-- A number of some bits, the lowest bit first. -/
def bits : Nat → Reading Nat
  | 0 => pure 0
  | n + 1 => do
    let low ← bit
    return low + 2 * (← bits n)

/-- Passes over the bits that are left of a byte. -/
def align : Reading Unit := modify fun p => { p with position := (p.position + 7) / 8 * 8 }

/-- Passes over bytes. -/
def skip (n : Nat) : Reading Unit := discard (bits (8 * n))

/-- Passes over bytes up to a zero, which is the last of them. -/
def skipText : Nat → Reading Unit
  | 0 => throw .short
  | fuel + 1 => do
    if (← bits 8) == 0 then pure () else skipText fuel

/-- Writes a byte. -/
def emit (b : UInt8) : Reading Unit :=
  modify fun p =>
    let mark := p.bytesRead
    { p with output := p.output.push b, marks := p.marks.push mark }

/-- Writes again what was written at a distance. -/
def copy (distance : Nat) : Nat → Reading Unit
  | 0 => pure ()
  | n + 1 => do
    let p ← get
    match p.output[p.output.size - distance]? with
    | none => throw .corrupt
    | some b =>
      emit b
      copy distance n

/-- Refuses the input unless a condition holds. -/
def check (condition : Bool) : Reading Unit := unless condition do throw .corrupt

/-- The number of bytes of the input: no reading takes more steps than it has bits. -/
def size : Reading Nat := return (← get).input.size

end Reading

end JobMeter.Compression
