import JobMeter.Failure
import JobMeter.Text.Cut

/-!
# Requests and replies

A `Request` asks for what is found under a URL.  A `Reply` has a status, headers and a body, which
is pulled in: every `Pull` asks for a number of bytes at most, something may happen in the world
while they come, and it gives them, or fails.  A pull that gives nothing is the end of the body.

Names of headers are told apart regardless of case.
-/

namespace JobMeter.Http

/-- How long a request may take, in seconds. -/
inductive Timeout where
  | whole (seconds : Int)
  | seconds (x : Float)

/-- A request for what is found under a URL. -/
structure Request where
  url : Text
  /-- The form that is asked for. -/
  accept : Text
  authorization : Option Text
  /-- The version of the interface that is asked. -/
  version : Option Text
  /-- Is the body left to be pulled in by the one who asked? -/
  streamed : Bool
  timeout : Timeout

/-- An attempt to get bytes of a body. -/
structure Pull (ω : Type) where
  /-- What happens meanwhile. -/
  meanwhile : ω → ω
  result : Except RequestKind (List UInt8)

/-- The answer to a request. -/
structure Reply (ω : Type) where
  status : Int
  reason : Text
  headers : List (Text × Text)
  /-- The pulls of the body that ask for a number of bytes. -/
  body : Nat → List (Pull ω)

/-- Where requests are sent. -/
structure Transport (ω : Type) where
  send : Request → EStateM Failure ω (Reply ω)
  /-- Gives up the reply that was opened last. -/
  release : ω → ω

namespace Reply

variable {ω : Type}

/-- The value of a header; values given apart are listed with commas. -/
def header? (r : Reply ω) (name : String) : Option Text :=
  match r.headers.filter fun (n, _) => n.lower == text name with
  | [] => none
  | hs => some (Text.joinWith (text ", ") (hs.map (·.2)))

/-- Does the status report an error? -/
def isError (r : Reply ω) : Bool := 400 ≤ r.status && r.status < 600

/-- The failure that the status reports. -/
def statusFailure (r : Reply ω) (url : Text) : Failure :=
  let side := if r.status < 500 then "Client" else "Server"
  ⟨.request (.status (some r.status)),
    text (toString r.status) ++ text (" " ++ side ++ " Error: ") ++ r.reason ++
      text " for url: " ++ url,
    none⟩

/-- The parameter of a header, without quotes.  One without a value is passed over. -/
def parameter? (t : Text) : Option (Text × Text) :=
  let quote := CodePoint.has fun c => c == '"' || c == '\'' || c == ' '
  (Text.cut? '=' (Text.trim t)).map fun (key, value) =>
    (Text.lower (Text.strip quote key), Text.strip quote value)

/-- The charset of the body: the last that its type gives as a parameter, or the usual one of the
type. -/
def charset? (r : Reply ω) : Option Text := do
  let (type, parameters) ←
    match (← r.header? "content-type") with
    | [] => none
    | value => some ((Text.cut ';' value).1, (Text.splitOn ';' value).drop 1)
  let given := (parameters.filterMap parameter?).filter fun (key, _) => key == text "charset"
  match given.getLast? with
  | some (_, charset) => some charset
  | none =>
    if Text.mentions "text" type then some (text "ISO-8859-1")
    else if Text.mentions "application/json" type then some (text "utf-8")
    else none

end Reply

end JobMeter.Http
