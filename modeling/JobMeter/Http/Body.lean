import JobMeter.Http.Coding
import JobMeter.Http.Message
import JobMeter.Number.Numeral

/-!
# Reading a body

The pulls of a body are turned into `Piece`s: decoded bytes, things that happen meanwhile, and at
most one failure, which is the last piece.

* Bytes are gathered until there are as many as were asked for, or the body ends; bytes that are
  still being gathered when the body fails are lost.
* A body whose length differs from the length its header gives ends with a failure.

`consume` reads a body that nobody needs piece by piece.
-/

namespace JobMeter.Http

/-- What comes from a body. -/
inductive Piece (ω : Type) where
  | bytes (b : List UInt8)
  | meanwhile (f : ω → ω)
  | fail (k : RequestKind)

namespace Reply

variable {ω : Type}

/-- The number that a text writes. -/
def length? (t : Text) : Option Int := t.toChars?.bind Number.Numeral.integer?

/-- The length that the headers give to the body. -/
def declaredLength? (r : Reply ω) : Option Nat :=
  if r.status = 204 ∨ r.status = 304 ∨ (100 ≤ r.status ∧ r.status < 200) then some 0
  else do
    let value ← r.header? "content-length"
    let chunked := (Text.splitOn ',' ((r.header? "transfer-encoding").getD [])).any fun t =>
      Text.lower (Text.trim t) == text "chunked"
    match ← (Text.splitOn ',' value).mapM length? with
    | n :: _ => if chunked || n < 0 then none else some n.toNat
    | [] => none

/-- The bytes that pulls give before the first failure. -/
def pulled : List (Pull ω) → List (List UInt8)
  | [] => []
  | p :: rest =>
    match p.result with
    | .ok b => b :: pulled rest
    | .error _ => []

/-- The gathered bytes, `amount` at a time, and what is left of them. -/
def portions (amount : Nat) : Nat → List UInt8 → List (List UInt8) × List UInt8
  | 0, b => ([], b)
  | fuel + 1, b =>
    if 0 < amount && amount ≤ b.length then
      let (first, rest) := b.splitAt amount
      let (more, left) := portions amount fuel rest
      (first :: more, left)
    else ([], b)

/-- The last piece, if there is one. -/
def remainder (b : List UInt8) : List (Piece ω) := if b.isEmpty then [] else [.bytes b]

/-- The pieces that come from pulls.  `decoded` is what the bytes of the pulls stand for, `missing`
is what is missing to the declared length, and `gathered` is waiting. -/
def gather (amount : Nat) (missing : Option Int) (gathered : List UInt8) :
    List (Pull ω) → List (Option (List UInt8)) → List (Piece ω)
  | [], _ => remainder gathered
  | p :: rest, decoded =>
    .meanwhile p.meanwhile ::
      match p.result, decoded with
      | .error k, _ => [.fail k]
      | .ok [], _ =>
        if missing.getD 0 = 0 then remainder gathered else [.fail .brokenTransfer]
      | .ok b, some d :: decoded =>
        let gathered := gathered ++ d
        let (full, left) := portions amount gathered.length gathered
        full.map .bytes ++ gather amount (missing.map (· - b.length)) left rest decoded
      | .ok _, _ => [.fail .undecodableBody]

/-- The pieces of the body, of `amount` bytes each but the last. -/
def pieces (r : Reply ω) (amount : Nat) : List (Piece ω) :=
  let pulls := r.body amount
  let codings := Coding.listed ((r.header? "content-encoding").getD [])
  gather amount (r.declaredLength?.map Int.ofNat) [] pulls (Coding.decodeAll codings (pulled pulls))

/-- Lets what happens while pieces come in happen; gives the failure they end with. -/
def consumePieces : List (Piece ω) → ω → Option RequestKind × ω
  | [], w => (none, w)
  | .bytes _ :: rest, w => consumePieces rest w
  | .meanwhile f :: rest, w => consumePieces rest (f w)
  | .fail k :: _, w => (some k, w)

/-- How much is asked for at once where the body is not needed piece by piece. -/
def wholeAmount : Nat := 10240

/-- Reads the body to its end; gives the failure it ends with. -/
def consume (r : Reply ω) : EStateM Failure ω (Option RequestKind) := fun w =>
  let (k, w') := consumePieces (r.pieces wholeAmount) w
  .ok k w'

end Reply

end JobMeter.Http
