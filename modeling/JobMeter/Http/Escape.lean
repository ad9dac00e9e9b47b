import JobMeter.Text.Cut
import JobMeter.Text.Digit
import JobMeter.Text.Utf8

/-!
# Percent escapes

In a URL a byte may be written as a percent sign and two hexadecimal digits.

* `escape` writes the bytes of a text, those of a class as they are and the others as escapes;
* `escapeRest` escapes what a component of a URL may not hold, and leaves its escapes alone if all
  its percent signs belong to escapes;
* `requote` gives a URL in which only the necessary escapes are left, and everything that may not
  stand in a URL is escaped;
* `unescape` reads escapes as UTF-8.
-/

namespace JobMeter.Http

/-- Classes of ASCII characters. -/
abbrev ByteClass := Char → Bool

/-- The characters that stand for themselves everywhere in a URL. -/
def isUnreserved (c : Char) : Bool := c.isAlphanum || "-._~".toList.contains c

/-- The characters that have a meaning in some part of a URL. -/
def isReserved (c : Char) : Bool := "!#$&'()*+,/:;=?@[]".toList.contains c

/-- The reserved characters that may stand in every component. -/
def isSubDelimiter (c : Char) : Bool := "!$&'()*+,;=".toList.contains c

/-- The character of an ASCII byte. -/
def asciiChar? (b : UInt8) : Option Char := if b < 0x80 then some (Char.ofNat b.toNat) else none

/-- A hexadecimal digit in upper case. -/
def hexDigit (n : Nat) : CodePoint := CodePoint.ofChar (Nat.digitChar n).toUpper

/-- A byte as an escape. -/
def escapeByte (b : UInt8) : Text :=
  [CodePoint.ofChar '%', hexDigit (b.toNat / 16), hexDigit (b.toNat % 16)]

/-- A text in UTF-8, in which the bytes outside a class are escaped. -/
def escape (keep : ByteClass) (t : Text) : Text :=
  (Text.Utf8.encode t).flatMap fun b =>
    match asciiChar? b with
    | some c => if keep c then [CodePoint.ofChar c] else escapeByte b
    | none => escapeByte b

/-- The value of a hexadecimal digit. -/
def hexValue? (p : CodePoint) : Option Nat := p.toChar?.bind Text.hexValue?

/-- The byte that two digits write. -/
def byteOf? (high low : CodePoint) : Option UInt8 := do
  pure (UInt8.ofNat (16 * (← hexValue? high) + (← hexValue? low)))

/-! ## Components -/

/-- A text with its escapes in upper case, and how many there are. -/
def upperEscapes : Text → Text × Nat
  | p :: a :: b :: r =>
    if CodePoint.is '%' p && (byteOf? a b).isSome then
      let (t, n) := upperEscapes r
      (p :: Text.upperPoint a :: Text.upperPoint b :: t, n + 1)
    else
      let (t, n) := upperEscapes (a :: b :: r)
      (p :: t, n)
  | t => (t, 0)

/-- A component of a URL in which everything outside a class is escaped.  Its escapes are kept, if
it holds no percent sign besides them. -/
def escapeRest (allowed : ByteClass) (t : Text) : Text :=
  let (t, n) := upperEscapes t
  let escaped := n == t.countP (CodePoint.is '%')
  escape (fun c => allowed c || (escaped && c == '%')) t

/-! ## Whole URLs -/

/-- May the code point be a letter or a digit? -/
def mayBeAlphanumeric (p : CodePoint) : Bool :=
  match p.toChar? with
  | some c => c.isAlphanum || 0x80 ≤ c.toNat
  | none => false

/-- A text without the escapes of unreserved characters.  A percent sign may stand alone, but not
before two letters or digits that are no escape. -/
def plainEscapes? : Text → Option Text
  | [] => some []
  | p :: a :: b :: r =>
    if CodePoint.is '%' p && mayBeAlphanumeric a && mayBeAlphanumeric b then do
      let c ← (byteOf? a b).bind fun v => some (Char.ofNat v.toNat)
      if isUnreserved c then pure (CodePoint.ofChar c :: (← plainEscapes? r))
      else pure (p :: a :: b :: (← plainEscapes? r))
    else do pure (p :: (← plainEscapes? (a :: b :: r)))
  | p :: r => do pure (p :: (← plainEscapes? r))

/-- A URL with the necessary escapes and no others.  If it holds something that looks like an escape
and is none, every percent sign is escaped. -/
def requote (t : Text) : Text :=
  match plainEscapes? t with
  | some t => escape (fun c => isUnreserved c || isReserved c || c == '%') t
  | none => escape (fun c => isUnreserved c || isReserved c) t

/-! ## Reading -/

/-- The text of a component; `bytes` holds, in reverse, what was read and not decoded. -/
def unescapeFrom (bytes : List UInt8) : Text → Text
  | p :: a :: b :: r =>
    match if CodePoint.is '%' p then byteOf? a b else none with
    | some v => unescapeFrom (v :: bytes) r
    | none =>
      if p.val < 0x80 then unescapeFrom (UInt8.ofNat p.val :: bytes) (a :: b :: r)
      else Text.Utf8.decodeReplacing bytes.reverse ++ p :: unescapeFrom [] (a :: b :: r)
  | p :: r =>
    if p.val < 0x80 then unescapeFrom (UInt8.ofNat p.val :: bytes) r
    else Text.Utf8.decodeReplacing bytes.reverse ++ p :: unescapeFrom [] r
  | [] => Text.Utf8.decodeReplacing bytes.reverse

/-- The text of a component, its escapes read as UTF-8. -/
def unescape (t : Text) : Text := unescapeFrom [] t

end JobMeter.Http
