import JobMeter.Failure
import JobMeter.Job.Event
import JobMeter.Log.Summary

/-!
# Fetching a job log

A `LogSource` tells where the log of a job is and opens it; the open log is a feed of lines, in
which other things may happen between two lines.  `LogSource.fetch` reads a log line by line and
sums it up.

* What the platform refuses, and what breaks while the lines come in, is reported as a failure of
  kind `jobLogs` with what caused it; other failures pass through.
* A line that is delivered after a stop was requested ends the reading.
* The log is closed in every case once it is open.
-/

namespace JobMeter

/-- What comes next from an open log. -/
inductive FeedItem (ω : Type) where
  | line (l : List Char)
  /-- Something happens in the world while the next line is awaited. -/
  | meanwhile (f : ω → ω)
  /-- The reading fails. -/
  | fail (f : Failure)

/-- An open log. -/
structure LogStream (ω : Type) where
  /-- The charset that the platform gives. -/
  charset : Option Text
  /-- What comes, read in a charset. -/
  feed : Text → List (FeedItem ω)

/-- Where logs come from. -/
structure LogSource (ω : Type) where
  /-- Asks where the log of a job is. -/
  locate : JobIdentity → EStateM Failure ω Text
  /-- Opens a log. -/
  retrieve : Text → EStateM Failure ω (LogStream ω)
  /-- Closes the open log. -/
  release : ω → ω
  /-- Was the reading asked to stop? -/
  stopped : ω → Bool

namespace LogSource

variable {ω : Type}

/-- The charset of logs of which the platform gives none. -/
def defaultCharset : Text := text "utf-8"

/-- A failure to have the log of a job. -/
def logsFailure (before : String) (job : Int) (after : String) (cause : Option FailureKind) :
    Failure :=
  ⟨.jobLogs, text before ++ text (toString job) ++ text after, cause⟩

/-- Reads the lines of an open log. -/
def readFeed (source : LogSource ω) (job : Int) :
    Log.Progress → List (FeedItem ω) → EStateM Failure ω Log.Summary
  | p, [] => pure p.summary
  | p, .line l :: rest => do
    if source.stopped (← get) then
      throw (logsFailure "Reading the log of job " job " interrupted by shutdown" none)
    else readFeed source job (p.step l) rest
  | p, .meanwhile f :: rest => do
    modify f
    readFeed source job p rest
  | _, .fail f :: _ =>
    if f.isRequest then throw (logsFailure "Cannot read the log of job " job "" (some f.kind))
    else throw f

/-- Finds and opens the log of a job. -/
def openLog (source : LogSource ω) (job : JobIdentity) : EStateM Failure ω (LogStream ω) :=
  tryCatch (do source.retrieve (← source.locate job)) fun f =>
    if f.isPlatform then
      throw (logsFailure "Cannot retrieve the log of job " job.job "" (some f.kind))
    else throw f

/-- Runs an action and then, whether it fails or not, a last step. -/
def ending {α : Type} (act : EStateM Failure ω α) (last : ω → ω) : EStateM Failure ω α := fun w =>
  match act w with
  | .ok a w' => .ok a (last w')
  | .error f w' => .error f (last w')

/-- Reads the log of a job. -/
def fetch (source : LogSource ω) (job : JobIdentity) : EStateM Failure ω Log.Summary := do
  let stream ← source.openLog job
  ending (source.readFeed job.job {} (stream.feed (stream.charset.getD defaultCharset)))
    source.release

end LogSource

end JobMeter
