import JobMeter.Service.Web
import JobMeter.Text.Digit

/-!
# Requests and answers as text

On a connection a request is a line with its method and its target, lines with headers, an empty
line, and the body.  An answer has the same form, with its status in the first line.
-/

namespace JobMeter.Service.Wire

/-- A line without the line break at its end. -/
def bare (line : Text) : Text := Text.stripRight (·.has fun c => c == '\n' || c == '\r') line

/-- The method and the target that the first line of a request gives. -/
def requestLine? (line : Text) : Option (Text × Text) :=
  match Text.splitOn ' ' (bare line) with
  | [method, target, _] => some (method, target)
  | _ => none

/-- The header of a line. -/
def header? (line : Text) : Option (Text × Text) :=
  (Text.cut? ':' (bare line)).map fun (name, value) => (Text.trim name, Text.trim value)

/-- A request without its body. -/
def request (method target : Text) (headers : List (Text × Text)) : WebRequest :=
  let type := headers.find? fun (name, _) => name.lower == text "content-type"
  ⟨method, target, headers, type.map (·.2), []⟩

/-- The length of the body that follows. -/
def bodyLength (r : WebRequest) : Nat :=
  match (r.header "content-length").toChars? with
  | some cs => if cs.all Text.isAsciiDigit then Text.decimalNumber cs else 0
  | none => 0

/-- The words for a status. -/
def reason : Nat → String
  | 200 => "OK"
  | 202 => "ACCEPTED"
  | 204 => "NO CONTENT"
  | 308 => "PERMANENT REDIRECT"
  | 400 => "BAD REQUEST"
  | 404 => "NOT FOUND"
  | 405 => "METHOD NOT ALLOWED"
  | 503 => "SERVICE UNAVAILABLE"
  | _ => "INTERNAL SERVER ERROR"

/-- An answer as it is sent. -/
def answer (a : WebAnswer) : Text :=
  let length := (Text.Utf8.encode a.body).length
  text s!"HTTP/1.1 {a.status} {reason a.status}\r\nContent-Type: text/html; charset=utf-8\r\n" ++
    text s!"Content-Length: {length}\r\n\r\n" ++ a.body

end JobMeter.Service.Wire
