import JobMeter.Compression.Deflate

/-!
# Containers of compressed bytes

A container puts a header before a compressed form and a checksum after it:

* `Container.zlib`: two bytes, and the checksum of Adler;
* `Container.gzipMember`: a header with optional fields, and a cyclic checksum and the length.
-/

namespace JobMeter.Compression.Container

open Reading

/-! ## Checksums -/

/-- Takes a bit out of a cyclic checksum. -/
def cyclicBit (c : UInt32) : UInt32 := if c &&& 1 == 1 then (c >>> 1) ^^^ 0xEDB88320 else c >>> 1

/-- Takes a byte into a cyclic checksum. -/
def cyclicByte (c : UInt32) (b : UInt8) : UInt32 :=
  (List.range 8).foldl (fun c _ => cyclicBit c) (c ^^^ b.toUInt32)

/-- The cyclic checksum of bytes. -/
def cyclic (bytes : List UInt8) : Nat := (bytes.foldl cyclicByte 0xFFFFFFFF ^^^ 0xFFFFFFFF).toNat

/-- Adler's checksum of bytes: their sum, and the sum of all sums on the way. -/
def adler (bytes : List UInt8) : Nat :=
  let (a, b) := bytes.foldl (fun (a, b) x =>
    let a := (a + x.toNat) % 65521
    (a, (b + a) % 65521)) (1, 0)
  b * 65536 + a

/-- What was written from a place on. -/
def writtenFrom (start : Nat) : Reading (List UInt8) :=
  return ((← get).output.extract start (← get).output.size).toList

/-! ## The containers -/

/-- Reads a number of some bytes, the highest first. -/
def bigNumber : Nat → Nat → Reading Nat
  | value, 0 => pure value
  | value, n + 1 => do bigNumber (256 * value + (← bits 8)) n

/-- Reads a container of the kind zlib. -/
def zlib : Reading Unit := do
  let start := (← get).output.size
  let first ← bits 8
  let second ← bits 8
  check ((256 * first + second) % 31 == 0 && first % 16 == 8 && first / 16 ≤ 7)
  if second / 32 % 2 == 1 then
    skip 4
    throw .corrupt
  Deflate.inflate
  align
  let sum ← bigNumber 0 4
  check (sum == adler (← writtenFrom start))

/-- The bytes read so far, from a place on. -/
def headerFrom (start : Nat) : Reading (List UInt8) := do
  let p ← get
  return (p.input.extract start p.bytesRead).toList

/-- Reads a member of a container of the kind gzip. -/
def gzipMember : Reading Unit := do
  let start := (← get).output.size
  let place := (← get).bytesRead
  check ((← bits 16) == 0x8B1F)
  let method ← bits 8
  let flags ← bits 8
  check (method == 8 && flags < 32)
  skip 6
  let has := fun n => flags.testBit n
  if has 2 then skip (← bits 16)
  if has 3 then skipText ((← size) + 1)
  if has 4 then skipText ((← size) + 1)
  if has 1 then
    let sum := cyclic (← headerFrom place) % 65536
    check ((← bits 16) == sum)
  Deflate.inflate
  align
  check ((← bits 32) == cyclic (← writtenFrom start))
  check ((← bits 32) == ((← get).output.size - start) % 0x100000000)

/-- Reads a compressed form without a container. -/
def bare : Reading Unit := Deflate.inflate

end JobMeter.Compression.Container
