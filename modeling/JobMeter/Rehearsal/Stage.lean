import JobMeter.Log.Fetch
import JobMeter.Metric.Store
import JobMeter.Reader.Basic
import JobMeter.Rehearsal.Script

/-!
# Rehearsals

In a rehearsal the reader runs in a world that follows a script: the `Stage`.  Its clock moves
only when the script says so, measurements and requests for logs are written down as calls, and
logs come from scripts, of which each request takes the next.  Requests to the platform are written
down, too, and get scripted replies.

Measurements of the metrics in `failing` fail after they have been written down.
-/

namespace JobMeter.Rehearsal

/-- What a scripted log does. -/
inductive Cue (τ : Type) where
  | line (l : List Char)
  /-- Time passes. -/
  | advance (d : τ)
  /-- A stop is requested. -/
  | stop
  | fail (f : Failure)

/-- How a request for a log goes. -/
structure LogScript (τ : Type) where
  /-- How long it takes to find the log. -/
  delay : Option τ
  locateFailure : Option Failure
  retrieveFailure : Option Failure
  charset : Option Text
  cues : List (Cue τ)

/-- A call that the reader made. -/
inductive Call (τ : Type) where
  | increased (m : Metric) (labels : Labels) (amount : τ)
  | observed (m : Metric) (labels : Labels) (value : τ)
  | located (job : JobIdentity)
  | opened (url : Text)
  /-- The first line was asked for. -/
  | read (charset : Text)
  | closed

/-- What is put on the queue while the reader waits. -/
structure Arrival (τ : Type) where
  /-- The time from the arrival before. -/
  after : τ
  items : List Item
  stop : Bool

/-- The world of a rehearsal. -/
structure Stage (τ : Type) where
  clock : τ
  stopped : Bool := false
  failing : List Metric := []
  scripts : List (LogScript τ) := []
  /-- The script of the log that was found last. -/
  script : Option (LogScript τ) := none
  arrivals : List (Arrival τ) := []
  /-- The measurements of a service. -/
  store : Store τ
  /-- What comes of the requests that are sent. -/
  outcomes : List Outcome := []
  /-- The requests, the last one first. -/
  requests : List Http.Request := []
  /-- The calls, the last one first. -/
  calls : List (Call τ) := []
  /-- The notices, the last one first. -/
  notices : List Notice := []

namespace Stage

variable {τ : Type} [Quantity τ]

/-- Writes a call down. -/
def record (c : Call τ) (s : Stage τ) : Stage τ := { s with calls := c :: s.calls }

/-- Lets time pass. -/
def advance (d : τ) (s : Stage τ) : Stage τ := { s with clock := Quantity.add s.clock d }

/-- Requests a stop. -/
def requestStop (s : Stage τ) : Stage τ := { s with stopped := true }

/-- A measurement. -/
def measure (m : Metric) (c : Call τ) : EStateM Failure (Stage τ) Unit := do
  modify (record c)
  if (← get).failing.contains m then
    throw (Failure.of (.foreign "RuntimeError") s!"sink failed: {m.name}")

/-- The address of a job's log. -/
def address (job : JobIdentity) : Text :=
  text "log:" ++ job.owner ++ text "/" ++ job.repository ++ text "/" ++ text (toString job.job)

/-- Throws a failure, if there is one. -/
def failIf {ω : Type} (f : Option Failure) : EStateM Failure ω Unit :=
  match f with
  | some f => throw f
  | none => pure ()

/-- Finds a log; the next script tells how. -/
def locate (job : JobIdentity) : EStateM Failure (Stage τ) Text := do
  modify (record (.located job))
  let s ← get
  match s.scripts with
  | [] => throw ⟨.platform .notFound, [], none⟩
  | script :: rest =>
    set { s with scripts := rest, script := some script }
    match script.delay with
    | some d => modify (advance d)
    | none => pure ()
    failIf script.locateFailure
    return address job

/-- What happens when a cue comes. -/
def feedItem : Cue τ → FeedItem (Stage τ)
  | .line l => .line l
  | .advance d => .meanwhile (advance d)
  | .stop => .meanwhile requestStop
  | .fail f => .fail f

/-- Opens a log. -/
def retrieve (url : Text) : EStateM Failure (Stage τ) (LogStream (Stage τ)) := do
  modify (record (.opened url))
  match (← get).script with
  | none => throw ⟨.platform .notFound, [], none⟩
  | some script =>
    failIf script.retrieveFailure
    return ⟨script.charset, fun charset =>
      .meanwhile (record (.read charset)) :: script.cues.map feedItem⟩

/-- The scripted logs.  `shared` tells whether their reader sees the request to stop. -/
def logs (shared : Bool) : LogSource (Stage τ) where
  locate := locate
  retrieve := retrieve
  release := record .closed
  stopped s := shared && s.stopped

/-- The transport of a rehearsal.  Without a script there is no connection. -/
def transport : Http.Transport (Stage τ) where
  send r := do
    let s ← get
    let (outcome, outcomes) := nextOutcome s.outcomes
    set { s with outcomes, requests := r :: s.requests }
    match outcome with
    | none => throw (Failure.ofRequest .connection)
    | some (.fails f) => throw f
    | some (.reply r) => return r.toReply requestStop
  release := id

/-- The environment of a reader in a rehearsal. -/
def environment (interval : τ) (logs? : Option (LogSource (Stage τ))) :
    Environment τ (Stage τ) where
  interval := interval
  now s := s.clock
  increase m labels amount := measure m (.increased m labels amount)
  observe m labels value := measure m (.observed m labels value)
  fetch? := logs?.map fun source => source.fetch
  note n s := { s with notices := n :: s.notices }
  stopped s := s.stopped
  requestStop := requestStop

end Stage

end JobMeter.Rehearsal
