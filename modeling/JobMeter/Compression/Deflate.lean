import JobMeter.Compression.Huffman

/-!
# Deflate

The compressed form consists of blocks.  A block holds bytes as they are, or symbols of a prefix
code: bytes, the end of the block, and lengths with distances, for which something is written again
that was written before.  The codes are fixed or come with the block.
-/

namespace JobMeter.Compression.Deflate

open Reading

/-- The least length and the number of extra bits of the length symbols. -/
def lengthBases : Array (Nat × Nat) :=
  #[(3, 0), (4, 0), (5, 0), (6, 0), (7, 0), (8, 0), (9, 0), (10, 0), (11, 1), (13, 1), (15, 1),
    (17, 1), (19, 2), (23, 2), (27, 2), (31, 2), (35, 3), (43, 3), (51, 3), (59, 3), (67, 4),
    (83, 4), (99, 4), (115, 4), (131, 5), (163, 5), (195, 5), (227, 5), (258, 0)]

/-- The least distance and the number of extra bits of the distance symbols. -/
def distanceBases : Array (Nat × Nat) :=
  #[(1, 0), (2, 0), (3, 0), (4, 0), (5, 1), (7, 1), (9, 2), (13, 2), (17, 3), (25, 3), (33, 4),
    (49, 4), (65, 5), (97, 5), (129, 6), (193, 6), (257, 7), (385, 7), (513, 8), (769, 8),
    (1025, 9), (1537, 9), (2049, 10), (3073, 10), (4097, 11), (6145, 11), (8193, 12), (12289, 12),
    (16385, 13), (24577, 13)]

/-- The codes of a block that brings none: of literals and lengths, and of distances. -/
def fixedLengths : List Nat × List Nat :=
  (List.replicate 144 8 ++ List.replicate 112 9 ++ List.replicate 24 7 ++ List.replicate 8 8,
   List.replicate 32 5)

/-- Reads a number that a symbol starts. -/
def extended (bases : Array (Nat × Nat)) (symbol : Nat) : Reading Nat := do
  match bases[symbol]? with
  | none => throw .corrupt
  | some (base, extra) => return base + (← bits extra)

/-- Reads the symbols of a block.  What is written again lies after `start` in the output. -/
def symbols (start : Nat) (literals distances : Code) : Nat → Reading Unit
  | 0 => throw .short
  | fuel + 1 => do
    let s ← literals.read
    if s < 256 then
      emit (UInt8.ofNat s)
      symbols start literals distances fuel
    else if s = 256 then pure ()
    else
      let length ← extended lengthBases (s - 257)
      let distance ← extended distanceBases (← distances.read)
      check (start + distance ≤ (← get).output.size)
      copy distance length
      symbols start literals distances fuel

/-- A code that must be valid. -/
def code (loose : Bool) (lengths : List Nat) : Reading Code :=
  match Code.ofLengths? loose lengths with
  | some c => pure c
  | none => throw .corrupt

/-- The order in which the lengths of the code for lengths are written. -/
def lengthOrder : List Nat := [16, 17, 18, 0, 8, 7, 9, 6, 10, 5, 11, 4, 12, 3, 13, 2, 14, 1, 15]

/-- Reads numbers of three bits. -/
def triples : Nat → Reading (List Nat)
  | 0 => pure []
  | n + 1 => do
    let first ← bits 3
    return first :: (← triples n)

/-- Reads the lengths of codes until there are `total` of them; `done` has them in reverse. -/
def lengths (c : Code) (total : Nat) (done : List Nat) : Nat → Reading (List Nat)
  | 0 => throw .short
  | fuel + 1 => do
    if total ≤ done.length then return done.reverse
    let s ← c.read
    if s < 16 then lengths c total (s :: done) fuel
    else
      let again ← match s with
        | 16 => do
          let n ← bits 2
          match done with
          | [] => throw .corrupt
          | last :: _ => pure (List.replicate (3 + n) last)
        | 17 => do pure (List.replicate (3 + (← bits 3)) 0)
        | _ => do pure (List.replicate (11 + (← bits 7)) 0)
      check (done.length + again.length ≤ total)
      lengths c total (again ++ done) fuel

/-- Reads the codes that a block brings. -/
def codes : Reading (Code × Code) := do
  let literals := 257 + (← bits 5)
  let distances := 1 + (← bits 5)
  let given := 4 + (← bits 4)
  check (literals ≤ 286 && distances ≤ 30)
  let widths := lengthOrder.zip (← triples given)
  let forLengths ← code false ((List.range 19).map fun s => (widths.lookup s).getD 0)
  let all ← lengths forLengths (literals + distances) [] (literals + distances + 1)
  check (all[256]?.getD 0 != 0)
  return (← code true (all.take literals), ← code true (all.drop literals))

/-- Reads bytes as they are. -/
def verbatim : Nat → Reading Unit
  | 0 => pure ()
  | n + 1 => do
    emit (UInt8.ofNat (← bits 8))
    verbatim n

/-- Reads the blocks up to the last. -/
def blocks (start : Nat) : Nat → Reading Unit
  | 0 => throw .short
  | fuel + 1 => do
    let last ← bit
    let kind ← bits 2
    let steps := 8 * (← size) + 1
    match kind with
    | 0 =>
      align
      let length ← bits 16
      let complement ← bits 16
      check (length + complement == 0xFFFF)
      verbatim length
    | 1 =>
      symbols start (← code true fixedLengths.1) (← code true fixedLengths.2) steps
    | 2 =>
      let (literals, distances) ← codes
      symbols start literals distances steps
    | _ => throw .corrupt
    if last == 1 then pure () else blocks start fuel

/-- Reads a compressed form. -/
def inflate : Reading Unit := do blocks (← get).output.size (8 * (← size) + 1)

end JobMeter.Compression.Deflate
