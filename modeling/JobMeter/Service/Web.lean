import JobMeter.Http.Reference
import JobMeter.Json.Bytes
import JobMeter.Json.Writer
import JobMeter.Service.Assembly

/-!
# The web interface

The service answers requests over HTTP:

* events come in at `/webhook`;
* `/metrics` gives the metrics, `/jobs/in-progress` the jobs in progress, and `/health` nothing.

`Endpoint.at?` finds the endpoint of a path, and `answer` answers a request.
-/

namespace JobMeter.Service

/-- A request to the service. -/
structure WebRequest where
  method : Text
  target : Text
  headers : List (Text × Text)
  /-- The type of the body. -/
  contentType : Option Text
  body : List UInt8

/-- An answer of the service. -/
structure WebAnswer where
  status : Nat
  body : Text
  deriving DecidableEq

/-- What a path stands for. -/
inductive Endpoint where
  | health
  | metrics
  | jobs
  | webhook
  /-- Files that lie beside the program, of which there are none. -/
  | files
  deriving DecidableEq, Repr

namespace Endpoint

/-- The endpoint of a path. -/
def at? (path : Text) : Option Endpoint :=
  if path == text "/health" then some health
  else if path == text "/metrics" then some metrics
  else if path == text "/jobs/in-progress" then some jobs
  else if path == text "/webhook" then some webhook
  else if path.startsWith "/static/" && !(path.drop 8).isEmpty && !Text.startsWith "/" (path.drop 8)
    then some files
  else none

/-- The methods that an endpoint answers, besides the question which they are. -/
def methods : Endpoint → List String
  | webhook => ["POST"]
  | _ => ["GET", "HEAD"]

end Endpoint

/-- A path in which each two slashes are one. -/
def mergeSlashes : Text → Text
  | p :: q :: r =>
    if CodePoint.is '/' p && CodePoint.is '/' q then p :: mergeSlashes r
    else p :: mergeSlashes (q :: r)
  | t => t

/-- The path of a target. -/
def pathOf (target : Text) : Except Failure Text := do
  let r ← Http.Reference.read target
  let path := r.path ++ Http.Reference.marked ';' r.parameters
  if path.isEmpty then pure []
  else pure (text "/" ++ (Http.unescape path).dropWhile (CodePoint.is '/'))

namespace WebRequest

/-- The name of a header, as it is compared. -/
def headerName (t : Text) : Text :=
  t.lower.map fun p => if CodePoint.is '_' p then CodePoint.ofChar '-' else p

/-- The value of a header; nothing, if it is missing. -/
def header (r : WebRequest) (name : String) : Text :=
  Text.joinWith (text ", ") ((r.headers.filter fun (n, _) => headerName n == text name).map (·.2))

/-- Is the body said to be a JSON text? -/
def isJson (r : WebRequest) : Bool :=
  let type := (Text.trim (Text.cut ';' (r.contentType.getD [])).1).lower
  type == text "application/json" ||
    (type.startsWith "application/" && (text "+json").isSuffixOf type)

/-- How deep a body may be nested. -/
def deepestBody : Nat := 950

end WebRequest

/-! ## Answers -/

/-- An answer with a text. -/
def reply (status : Nat) (body : String := "") : WebAnswer := ⟨status, text body⟩

/-- A job in the listing of the jobs in progress. -/
def listedJson (l : Listed Float) : Json :=
  .map [(text "job_id", .int l.id),
    (text "labels", .map (l.labels.map fun (k, v) => (k, .text v))),
    (text "running_seconds", .float l.running)]

variable {τ ω : Type}

/-- Takes in a document that is said to be an event. -/
def receiveDocument [Quantity τ] (env : Environment τ ω) : Json → Act τ ω WebAnswer
  | v@(.map _) => do
    match Event.check v with
    | .error _ => return reply 400 "Invalid workflow_job payload"
    | .ok e =>
      if ← Reader.submit env (.event e) then return reply 202
      else return reply 503 "Event queue full"
  | _ => return reply 400 "Invalid JSON payload"

/-- Takes in an event. -/
def receive [Quantity τ] (env : Environment τ ω) (r : WebRequest) : Act τ ω WebAnswer := do
  let kind := r.header "x-github-event"
  if kind == text "ping" then return reply 200
  if kind != text "workflow_job" then return reply 204
  if !r.isJson then return reply 400 "Invalid JSON payload"
  match Json.readBytes WebRequest.deepestBody r.body with
  | .ok v => receiveDocument env v
  | .error .malformed => return reply 400 "Invalid JSON payload"
  | .error .tooDeep => return reply 500

/-- What an endpoint answers. -/
def answerAt (h : Host ω) (env : Environment Float ω) (r : WebRequest) :
    Endpoint → Act Float ω WebAnswer
  | .health => return reply 204
  | .metrics => do
    match h.exposition (← get).world with
    | .ok t => return ⟨200, t⟩
    | .error _ => return reply 500
  | .jobs => do
    let listing : Json := .seq ((Reader.inProgress env (← get)).map listedJson)
    return reply 200 (Json.write listing)
  | .webhook => receive env r
  | .files => return reply 404

/-- Answers a request to a path. -/
def answerPath (h : Host ω) (env : Environment Float ω) (r : WebRequest) (path : Text) :
    Act Float ω WebAnswer := do
  let method := r.method.upper
  match Endpoint.at? path with
  | some e =>
    if method == text "OPTIONS" then return reply 200
    else if !e.methods.any (text · == method) then return reply 405
    else
      let a ← answerAt h env r e
      return if method == text "HEAD" then { a with body := [] } else a
  | none =>
    match Endpoint.at? (mergeSlashes path) with
    | none => return reply 404
    | some e =>
      if method == text "OPTIONS" || e.methods.any (text · == method) then return reply 308
      else return reply 405

/-- Answers a request. -/
def answer (h : Host ω) (env : Environment Float ω) (r : WebRequest) : Act Float ω WebAnswer := do
  match pathOf r.target with
  | .ok path => answerPath h env r path
  | .error f => throw f

end JobMeter.Service
