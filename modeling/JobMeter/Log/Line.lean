import JobMeter.Text.Blank
import JobMeter.Text.Digit

/-!
# The lines of a job log

A line that counts has the form `D.FZcM`, possibly with one line feed after it:

* `D` is a date and a time of day in the shape `dddd-dd-ddTdd:dd:dd`;
* `F` is a fraction of one to nine digits;
* `c` is one blank, a line feed included;
* `M` is the message, not empty and without a line feed.

Digits and blanks are those of any script.  `Line.parse?` takes such a line apart and
`Line.render` puts it together.  Messages that report a failed process are searched for an exit
code by `exitDigit?`.
-/

namespace JobMeter.Log

open JobMeter.Text

/-- One place of a fixed shape. -/
inductive Place where
  /-- A decimal digit of any script. -/
  | digit
  /-- This character. -/
  | mark (c : Char)
  deriving DecidableEq, Repr

namespace Place

/-- Does a character fill the place? -/
def admits : Place → Char → Bool
  | digit, c => isDecimal c
  | mark m, c => m == c

end Place

/-- Does a list of characters fill a shape, place by place? -/
def fills : List Place → List Char → Bool
  | [], [] => true
  | p :: ps, c :: cs => p.admits c && fills ps cs
  | _, _ => false

/-- The shape of a date and a time of day. -/
def dateShape : List Place :=
  [.digit, .digit, .digit, .digit, .mark '-', .digit, .digit, .mark '-', .digit, .digit,
   .mark 'T', .digit, .digit, .mark ':', .digit, .digit, .mark ':', .digit, .digit]

/-- The parts of a line that counts. -/
structure Line where
  date : List Char
  fraction : List Char
  message : List Char
  deriving DecidableEq, Repr

namespace Line

/-- The message of what follows the blank: up to the end, or up to a line feed at the end. -/
def message? (rest : List Char) : Option (List Char) :=
  let m := rest.takeWhile (· != '\n')
  match m, rest.dropWhile (· != '\n') with
  | [], _ => none
  | _, [] => some m
  | _, ['\n'] => some m
  | _, _ => none

/-- The parts of a line, if it has the form. -/
def parse? (cs : List Char) : Option Line :=
  let date := cs.take dateShape.length
  if fills dateShape date then
    match cs.drop dateShape.length with
    | '.' :: rest =>
      let fraction := rest.takeWhile isDecimal
      if 1 ≤ fraction.length ∧ fraction.length ≤ 9 then
        match rest.dropWhile isDecimal with
        | 'Z' :: c :: tail =>
          if isBlank c then (message? tail).map fun m => ⟨date, fraction, m⟩ else none
        | _ => none
      else none
    | _ => none
  else none

/-- A line with its parts and the blank between the time and the message. -/
def render (blank : Char) (l : Line) : List Char :=
  l.date ++ '.' :: l.fraction ++ 'Z' :: blank :: l.message

end Line

/-! ## Exit codes -/

/-- What stands before the exit code in a message. -/
def exitLead : List Char := "##[error]Process completed with exit code ".toList

/-- The exit code at the start of a text: a digit, with a full stop after it. -/
def exitDigitHere? (cs : List Char) : Option Char :=
  if exitLead.isPrefixOf cs then
    match cs.drop exitLead.length with
    | d :: '.' :: _ => if isDecimal d then some d else none
    | _ => none
  else none

/-- The first exit code that a message holds. -/
def exitDigit? : List Char → Option Char
  | [] => none
  | c :: cs =>
    match exitDigitHere? (c :: cs) with
    | some d => some d
    | none => exitDigit? cs

/-! ## Kinds of messages -/

/-- The start of a message that reports an error. -/
def errorLead : List Char := "##[error]".toList

/-- The start of the message written when a job is queued. -/
def queuedLead : List Char := "Waiting for a runner to pick up this job...".toList

/-- The start of the message written when a runner starts a job. -/
def startedLead : List Char := "Job is about to start running on the runner:".toList

/-- What a message says about its job. -/
inductive Kind where
  | error
  | queued
  | started
  | ordinary
  deriving DecidableEq, Repr

/-- The kind of a message, from how it starts. -/
def Kind.ofMessage (m : List Char) : Kind :=
  if errorLead.isPrefixOf m then .error
  else if queuedLead.isPrefixOf m then .queued
  else if startedLead.isPrefixOf m then .started
  else .ordinary

end JobMeter.Log
