import JobMeter.Compression.Container
import JobMeter.Text.Cut

/-!
# Codings of bodies

A body may be compressed.  It arrives in pieces, and `Coding.decode` says for each piece what comes
out once it has arrived, or that the body is not in its coding.  A body that ends too early is read
as far as it goes, and what follows the first compressed form is read only as long as it is one.
`Coding.decodeAll` undoes several codings, the last one first.
-/

namespace JobMeter.Http

open Compression

/-- How a body is coded. -/
inductive Coding where
  | plain
  | gzip
  | deflate
  deriving DecidableEq, Repr

namespace Coding

/-- The coding with a name. -/
def named (t : Text) : Coding :=
  let t := t.lower
  if t == text "gzip" || t == text "x-gzip" then gzip
  else if t == text "deflate" then deflate
  else plain

/-- The codings that a header lists, the one that was applied first at the start.  In a list of
several a name that is not known stands for `deflate`, unless none is known. -/
def listed (t : Text) : List Coding :=
  match Text.splitOn ',' t with
  | [name] => [named name]
  | names =>
    let codings := names.map fun name => named (Text.trim name)
    if codings.all (· == plain) then []
    else codings.map fun c => if c == plain then deflate else c

/-- Where a body is not what it should be. -/
structure Fault where
  /-- The bytes after which it is noticed. -/
  place : Nat
  /-- The bytes of the output before the form that is broken. -/
  intact : Nat
  /-- Is the rest passed over, and no failure? -/
  tolerated : Bool

/-- What comes out of a body. -/
structure Outcome where
  output : Array UInt8
  /-- For each byte of the output, the bytes of the body after which it comes out. -/
  marks : Array Nat
  fault : Option Fault := none

/-- The outcome of a reading that begins where `before` bytes had been written. -/
def outcome (reading : Reading Unit) (tolerated : Bool) (p : Progress) :
    Outcome × Option Progress :=
  match reading p with
  | .ok _ q => (⟨q.output, q.marks, none⟩, some q)
  | .error .short q => (⟨q.output, q.marks, none⟩, none)
  | .error .corrupt q => (⟨q.output, q.marks, some ⟨q.bytesRead, p.output.size, tolerated⟩⟩, none)

/-- The outcome of the members of a gzip container. -/
def members (tolerated : Bool) : Nat → Progress → Outcome
  | 0, p => ⟨p.output, p.marks, none⟩
  | fuel + 1, p =>
    match outcome Container.gzipMember tolerated p with
    | (o, none) => o
    | (o, some q) => if q.bytesRead < q.input.size then members true fuel q else o

/-- How much of the output is there after the first `e` bytes of the body, of which `done` bytes are
known to be there. -/
def Outcome.reached (o : Outcome) (done e : Nat) : Nat :=
  done + ((o.marks.extract done o.marks.size).toList.takeWhile (· ≤ e)).length

/-- What comes out of each of the pieces of a body that end at `ends`, after `place` bytes of the
body and `done` bytes of the output. -/
def Outcome.slices (o : Outcome) (place done : Nat) : List Nat → List (Option (List UInt8))
  | [] => []
  | e :: rest =>
    let reached := o.reached done e
    match o.fault.filter fun f => place < f.place && f.place ≤ e with
    | none => some (o.output.extract done reached).toList :: slices o e reached rest
    | some f =>
      if f.tolerated then
        some (o.output.extract done (min reached f.intact)).toList :: rest.map fun _ => some []
      else [none]

/-- The places where the pieces end. -/
def ends (place : Nat) : List (List UInt8) → List Nat
  | [] => []
  | piece :: rest => (place + piece.length) :: ends (place + piece.length) rest

/-- The outcome of a compressed form without a container, of which nothing came out before a
place. -/
def bareOutcome (place : Nat) (p : Progress) : Outcome :=
  let o := (outcome Container.bare false p).1
  let late := max (place + 1)
  { o with
    marks := o.marks.map late
    fault := o.fault.map fun f => { f with place := late f.place } }

/-- The outcome of a body in the coding `deflate`: a zlib container, or, if that fails before
anything came out, a compressed form alone. -/
def deflateOutcome (ends : List Nat) (p : Progress) : Outcome :=
  let o := (outcome Container.zlib false p).1
  match o.fault with
  | none => o
  | some f =>
    let place := ((ends.filter (· < f.place)).getLast?).getD 0
    if o.marks.all (place < ·) then bareOutcome place p else o

/-- What comes out of the pieces of a body; nothing is listed after a piece with which it fails. -/
def decode (c : Coding) (pieces : List (List UInt8)) : List (Option (List UInt8)) :=
  let p : Progress := { input := pieces.flatten.toArray }
  let ends := ends 0 pieces
  match c with
  | plain => pieces.map some
  | gzip => (members false (p.input.size + 1) p).slices 0 0 ends
  | deflate => (deflateOutcome ends p).slices 0 0 ends

/-- What comes out of what came out of another coding. -/
def decodeAfter (c : Coding) (pieces : List (Option (List UInt8))) : List (Option (List UInt8)) :=
  let intact := pieces.takeWhile Option.isSome
  c.decode (intact.filterMap id) ++ pieces.drop intact.length

/-- What comes out of the pieces of a body that several codings were applied to. -/
def decodeAll (cs : List Coding) (pieces : List (List UInt8)) : List (Option (List UInt8)) :=
  cs.reverse.foldl (fun pieces c => c.decodeAfter pieces) (pieces.map some)

end Coding

end JobMeter.Http
