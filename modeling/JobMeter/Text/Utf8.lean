import JobMeter.Text.Basic

/-!
# UTF-8

The decoder takes in one byte at a time, so a text may arrive in pieces.  Between two bytes it
remembers the sequence it is in, if any (`Sequence`).  What it gives is a list of code points in
which `none` stands for a piece that is no UTF-8: a byte that starts nothing, or the longest start
of a sequence that does not go on.

Whether the three bytes of a surrogate are a sequence is for the caller to say.
-/

namespace JobMeter.Text.Utf8

/-- A sequence that is not complete. -/
structure Sequence where
  /-- How many bytes are missing after the next one. -/
  after : Nat
  /-- The range of the next byte. -/
  low : Nat
  high : Nat
  /-- The value of the bits so far. -/
  value : Nat
  deriving DecidableEq, Repr

/-- What a byte starts. -/
inductive Lead where
  | complete (p : CodePoint)
  | sequence (s : Sequence)
  | malformed

/-- What a byte starts.  Overlong forms and numbers beyond Unicode are cut off at the second
byte. -/
def lead (surrogates : Bool) (b : UInt8) : Lead :=
  let n := b.toNat
  if n < 0x80 then .complete (CodePoint.ofNat n)
  else if n < 0xC2 then .malformed
  else if n < 0xE0 then .sequence ⟨0, 0x80, 0xBF, n - 0xC0⟩
  else if n < 0xF0 then
    let low := if n = 0xE0 then 0xA0 else 0x80
    let high := if n = 0xED && !surrogates then 0x9F else 0xBF
    .sequence ⟨1, low, high, n - 0xE0⟩
  else if n < 0xF5 then
    let low := if n = 0xF0 then 0x90 else 0x80
    let high := if n = 0xF4 then 0x8F else 0xBF
    .sequence ⟨2, low, high, n - 0xF0⟩
  else .malformed

/-- Takes in a byte that starts something. -/
def begin (surrogates : Bool) (b : UInt8) : List (Option CodePoint) × Option Sequence :=
  match lead surrogates b with
  | .complete p => ([some p], none)
  | .sequence s => ([], some s)
  | .malformed => ([none], none)

/-- Takes in a byte. -/
def step (surrogates : Bool) (state : Option Sequence) (b : UInt8) :
    List (Option CodePoint) × Option Sequence :=
  match state with
  | none => begin surrogates b
  | some s =>
    let n := b.toNat
    if s.low ≤ n ∧ n ≤ s.high then
      let value := s.value * 64 + (n - 0x80)
      match s.after with
      | 0 => ([some (CodePoint.ofNat value)], none)
      | after + 1 => ([], some ⟨after, 0x80, 0xBF, value⟩)
    else
      let (out, state) := begin surrogates b
      (none :: out, state)

/-- The code points of bytes, after `out` in reverse, and the sequence that is not complete. -/
def run (surrogates : Bool) (out : List (Option CodePoint)) (state : Option Sequence) :
    List UInt8 → List (Option CodePoint) × Option Sequence
  | [] => (out.reverse, state)
  | b :: bs =>
    let (new, state) := step surrogates state b
    run surrogates (new.reverse ++ out) state bs

/-- The text of bytes that are UTF-8 throughout. -/
def decode? (surrogates : Bool) (bytes : List UInt8) : Option Text :=
  match run surrogates [] none bytes with
  | (out, none) => out.mapM id
  | (_, some _) => none

/-- The text of bytes, in which the replacement character stands for what is no UTF-8. -/
def decodeReplacing (bytes : List UInt8) : Text :=
  let (out, state) := run false [] none bytes
  out.map (·.getD CodePoint.replacement) ++ if state.isSome then [CodePoint.replacement] else []

/-- The bytes of a code point. -/
def encodePoint (p : CodePoint) : List UInt8 :=
  let n := p.val
  if n < 0x80 then [UInt8.ofNat n]
  else if n < 0x800 then [UInt8.ofNat (0xC0 + n / 64), UInt8.ofNat (0x80 + n % 64)]
  else if n < 0x10000 then
    [UInt8.ofNat (0xE0 + n / 4096), UInt8.ofNat (0x80 + n / 64 % 64), UInt8.ofNat (0x80 + n % 64)]
  else
    [UInt8.ofNat (0xF0 + n / 262144), UInt8.ofNat (0x80 + n / 4096 % 64),
     UInt8.ofNat (0x80 + n / 64 % 64), UInt8.ofNat (0x80 + n % 64)]

/-- The bytes of a text, surrogates included. -/
def encode (t : Text) : List UInt8 := t.flatMap encodePoint

end JobMeter.Text.Utf8
