import JobMeter.Json.Reader
import JobMeter.Text.Charset

/-!
# JSON texts in bytes

A JSON text is written in UTF-8, UTF-16 or UTF-32.  Which of them it is shows in a mark at its
start, or, since it starts with ASCII, in the places of its first zero bytes (`Json.encodingOf`).
Surrogates without a partner are let through.
-/

namespace JobMeter.Json

open Text

/-- How the bytes of a text are read, and the bytes after its mark. -/
def encodingOf (bytes : List UInt8) : Charset × List UInt8 :=
  match bytes with
  | 0 :: 0 :: 0xFE :: 0xFF :: r => (.utf32 (some .big), r)
  | 0xFF :: 0xFE :: 0 :: 0 :: r => (.utf32 (some .little), r)
  | 0xFE :: 0xFF :: r => (.utf16 (some .big), r)
  | 0xFF :: 0xFE :: r => (.utf16 (some .little), r)
  | 0xEF :: 0xBB :: 0xBF :: r => (.utf8 true, r)
  | a :: b :: c :: d :: _ =>
    if a == 0 then (if b == 0 then .utf32 (some .big) else .utf16 (some .big), bytes)
    else if b == 0 then
      (if c == 0 && d == 0 then .utf32 (some .little) else .utf16 (some .little), bytes)
    else (.utf8 false, bytes)
  | [a, b] =>
    if a == 0 then (.utf16 (some .big), bytes)
    else if b == 0 then (.utf16 (some .little), bytes)
    else (.utf8 false, bytes)
  | _ => (.utf8 false, bytes)

/-- The units of bytes, of a number of bytes each. -/
def units? (order : ByteOrder) (width : Nat) : Nat → List UInt8 → Option (List Nat)
  | 0, _ => some []
  | fuel + 1, bytes =>
    if bytes.isEmpty then some []
    else if bytes.length < width then none
    else (units? order width fuel (bytes.drop width)).map (unitValue order (bytes.take width) :: ·)

/-- A text of numbers of code points. -/
def ofNumbers? (ns : List Nat) : Option Text :=
  ns.mapM fun n => if h : n < 0x110000 then some ⟨n, h⟩ else none

/-- A text of 16-bit units. -/
def ofUnits16 : List Nat → Text
  | u :: v :: r =>
    if 0xD800 ≤ u ∧ u < 0xDC00 ∧ 0xDC00 ≤ v ∧ v < 0xE000 then
      CodePoint.ofNat (0x10000 + (u - 0xD800) * 0x400 + (v - 0xDC00)) :: ofUnits16 r
    else CodePoint.ofNat u :: ofUnits16 (v :: r)
  | us => us.map CodePoint.ofNat

/-- The text of bytes. -/
def textOf? (bytes : List UInt8) : Option Text :=
  match encodingOf bytes with
  | (.utf16 order, r) => (units? (order.getD .little) 2 (r.length + 1) r).map ofUnits16
  | (.utf32 order, r) => (units? (order.getD .little) 4 (r.length + 1) r).bind ofNumbers?
  | (_, r) => Utf8.decode? true r

/-- The document in bytes, in which `limit` sequences and maps may lie in each other. -/
def readBytes (limit : Nat) (bytes : List UInt8) : Except Refusal Json :=
  match textOf? bytes with
  | some t => read limit t
  | none => .error .malformed

end JobMeter.Json
