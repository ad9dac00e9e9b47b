import JobMeter.Log.Timestamp

/-!
# What a job log says

A log is read line by line.  Its valid lines set three instants, of which the last of each kind
counts: when the job was queued, when a runner started it, and when its last ordinary line was
written.  Lines that report errors may hold an exit code.

* `Progress.step` takes one line in, `Progress.summary` closes the account;
* `summarize` is the fold of `step` over a log.
-/

namespace JobMeter.Log

/-- The facts of a job log. -/
structure Summary where
  /-- The last exit code that was reported. -/
  exitCode : Option Char
  /-- Microseconds from the queueing of the job to its start. -/
  queueTime : Int
  /-- Microseconds from the start of the job to its last line. -/
  runTime : Int
  deriving DecidableEq, Repr

/-- The exit code of a log without one. -/
def noExitCode : String := "null"

/-- The exit code as a text. -/
def Summary.exitText (s : Summary) : String :=
  match s.exitCode with
  | some d => String.singleton d
  | none => noExitCode

/-- What the lines read so far have said.  An instant that no line has set yet is the start of
the year 1. -/
structure Progress where
  exitCode : Option Char := none
  queued : Instant := 0
  started : Instant := 0
  completed : Instant := 0
  deriving DecidableEq, Repr

namespace Progress

/-- Takes in a message and its instant. -/
def note (p : Progress) (at_ : Instant) (message : List Char) : Progress :=
  match Kind.ofMessage message with
  | .error => { p with exitCode := (exitDigit? message).or p.exitCode }
  | .queued => { p with queued := at_ }
  | .started => { p with started := at_ }
  | .ordinary => { p with completed := at_ }

/-- Takes in a line.  A line of another form or without a real instant changes nothing. -/
def step (p : Progress) (line : List Char) : Progress :=
  match Line.parse? line with
  | none => p
  | some l =>
    match instant? l.date l.fraction with
    | none => p
    | some i => p.note i l.message

/-- The facts at the end of a log. -/
def summary (p : Progress) : Summary where
  exitCode := p.exitCode
  queueTime := (p.started : Int) - p.queued
  runTime := (p.completed : Int) - p.started

end Progress

/-- The facts of the lines of a log. -/
def summarize (lines : List (List Char)) : Summary :=
  (lines.foldl Progress.step {}).summary

end JobMeter.Log
