import JobMeter.Number.Style
import JobMeter.Text.Digit
import JobMeter.Tree

/-!
# Writing JSON texts

`Json.write` gives a document as one line of ASCII characters: a blank after each comma and each
colon, and an escape for every character that is not printable ASCII.
-/

namespace JobMeter.Json

/-- A `\u` escape for a number of four hexadecimal digits. -/
def unitEscape (n : Nat) : List Char := '\\' :: 'u' :: Text.hexPadded 4 n

/-- A code point inside a string. -/
def escape (p : CodePoint) : List Char :=
  let n := p.val
  if n = 0x22 then ['\\', '"']
  else if n = 0x5C then ['\\', '\\']
  else if n = 0x0A then ['\\', 'n']
  else if n = 0x0D then ['\\', 'r']
  else if n = 0x09 then ['\\', 't']
  else if n = 0x08 then ['\\', 'b']
  else if n = 0x0C then ['\\', 'f']
  else if 0x20 ≤ n ∧ n < 0x7F then [Char.ofNat n]
  else if n < 0x10000 then unitEscape n
  else unitEscape (0xD800 + (n - 0x10000) / 0x400) ++ unitEscape (0xDC00 + (n - 0x10000) % 0x400)

/-- A string with its quotes. -/
def writeText (t : Text) : List Char := '"' :: (t.flatMap escape ++ ['"'])

mutual

/-- The characters of a document, before those of `rest`. -/
def writeBefore : Json → List Char → List Char
  | .null, rest => 'n' :: 'u' :: 'l' :: 'l' :: rest
  | .bool true, rest => 't' :: 'r' :: 'u' :: 'e' :: rest
  | .bool false, rest => 'f' :: 'a' :: 'l' :: 's' :: 'e' :: rest
  | .int n, rest => (toString n).toList ++ rest
  | .float x, rest => (Number.Style.plain.write x).toList ++ rest
  | .text t, rest => writeText t ++ rest
  | .seq items, rest => '[' :: writeItems items (']' :: rest)
  | .map entries, rest => '{' :: writeEntries entries ('}' :: rest)
  | .leaf a, _ => nomatch a

/-- The items of a sequence with commas between them. -/
def writeItems : List Json → List Char → List Char
  | [], rest => rest
  | [v], rest => writeBefore v rest
  | v :: vs, rest => writeBefore v (',' :: ' ' :: writeItems vs rest)

/-- The entries of a map with commas between them. -/
def writeEntries : List (Text × Json) → List Char → List Char
  | [], rest => rest
  | [(k, v)], rest => writeText k ++ ':' :: ' ' :: writeBefore v rest
  | (k, v) :: es, rest =>
    writeText k ++ ':' :: ' ' :: writeBefore v (',' :: ' ' :: writeEntries es rest)

end

/-- A document as a string. -/
def write (v : Json) : String := String.ofList (writeBefore v [])

end JobMeter.Json
