import JobMeter.Reader.Basic

/-!
# Processing an event

`Reader.dispatch` measures what an event tells:

* a queued job is counted;
* a job in progress is counted and registered, and its log tells how long it was queued;
* a completed job is counted with how it ended and leaves the registry, and its log tells how long
  it ran.  If it failed, the failure is counted with the step that failed and the exit code.

Anything else is noted and passed over.

A failure is noted together with a description of the item.  Where the item cannot be described,
the failure to describe it takes the place of the first one and goes on (`Reader.noteFailed`).
-/

namespace JobMeter

namespace Action

def queued : Text := text "queued"
def inProgress : Text := text "in_progress"
def completed : Text := text "completed"

@[simp] theorem queued_ne_inProgress : queued ≠ inProgress := by decide

@[simp] theorem queued_ne_completed : queued ≠ completed := by decide

@[simp] theorem inProgress_ne_queued : inProgress ≠ queued := by decide

@[simp] theorem inProgress_ne_completed : inProgress ≠ completed := by decide

@[simp] theorem completed_ne_queued : completed ≠ queued := by decide

@[simp] theorem completed_ne_inProgress : completed ≠ inProgress := by decide

end Action

namespace Conclusion

def failure : Text := text "failure"
def timedOut : Text := text "timed_out"

end Conclusion

/-- How a failed job failed. -/
structure FailurePoint where
  /-- The place of the first step that failed, from zero. -/
  step : Nat
  /-- It ran out of time. -/
  timedOut : Bool
  deriving DecidableEq, Repr

namespace Job

/-- The first of some steps that failed; they are numbered from `n`. -/
def failurePointFrom? (n : Nat) : List JobStep → Option FailurePoint
  | [] => none
  | s :: rest =>
    if s.conclusion = some Conclusion.failure then some ⟨n, false⟩
    else if s.conclusion = some Conclusion.timedOut then some ⟨n, true⟩
    else failurePointFrom? (n + 1) rest

/-- The first step of a job that failed. -/
def failurePoint? (j : Job) : Option FailurePoint := failurePointFrom? 0 j.steps

/-- The label value of the step of a job that failed. -/
def failedStepLabel (j : Job) : Text :=
  match j.failurePoint? with
  | some p => text (toString p.step)
  | none => text "null"

/-- The label value of the exit code of a job that failed; `logged` is what its log gives. -/
def exitCodeLabel (j : Job) (logged : Text) : Text :=
  match j.failurePoint? with
  | some ⟨_, true⟩ => Conclusion.timedOut
  | _ => logged

end Job

/-- What came of the attempt to read a log. -/
inductive Reading where
  /-- Logs cannot be had at all. -/
  | disabled
  | failed
  | read (s : Log.Summary)
  deriving DecidableEq

/-- The exit code of jobs whose log cannot be had. -/
def exitCodeUnknown : Text := text "na"

namespace Reader

variable {τ ω : Type} [Quantity τ]

/-- Reads the log of the job of an event, if logs can be had. -/
def readLog (env : Environment τ ω) (e : Event) : Act τ ω Reading :=
  match env.fetch? with
  | none => return .disabled
  | some fetch =>
    match e.identity? with
    | none => do
      note env (.noRepository e.context)
      return .failed
    | some job =>
      tryCatch (Reading.read <$> onWorld (fetch job)) fun f => do
        if f.kind = .jobLogs then
          note env (.logFailed e.context f)
          return .failed
        else throw f

/-- Registers the job of an event from now on. -/
def register (env : Environment τ ω) (e : Event) : Act τ ω Unit := do
  let t ← now env
  modify fun r => { r with registry := r.registry.add e.job.id t e.labels }

/-- Takes the job of an event out of the registry. -/
def deregister (e : Event) : Act τ ω Unit := modify fun r =>
  { r with registry := r.registry.remove e.job.id }

/-- Adds one to a counter. -/
def countOne (env : Environment τ ω) (m : Metric) (labels : Labels) : Act τ ω Unit :=
  onWorld (env.increase m labels Quantity.one)

/-- Sorts a duration, in microseconds, into a histogram. -/
def observeDuration (env : Environment τ ω) (m : Metric) (labels : Labels) (d : Int) :
    Act τ ω Unit :=
  onWorld (env.observe m labels (Quantity.ofMicroseconds d))

/-- Processes the start of a job. -/
def startJob (env : Environment τ ω) (e : Event) : Act τ ω Unit := do
  countOne env .jobsStarted e.labels
  register env e
  match ← readLog env e with
  | .read s =>
    note env (.logRead e.context)
    observeDuration env .queueDuration e.labels s.queueTime
  | _ => return ()

/-- Counts the failure of a job, if its conclusion is that it failed. -/
def countFailure (env : Environment τ ω) (e : Event) (conclusion logged : Text) :
    Act τ ω Unit := do
  if conclusion = Conclusion.failure then
    countOne env .jobFailures
      ((e.labels.withLabel Labels.exitCode (e.job.exitCodeLabel logged)).withLabel
        Labels.failedStep e.job.failedStepLabel)

/-- Processes the end of a job. -/
def completeJob (env : Environment τ ω) (e : Event) : Act τ ω Unit := do
  countOne env .jobsCompleted e.labels
  deregister e
  match e.job.conclusion with
  | none => note env (.noConclusion e.context)
  | some conclusion =>
    let concluded := e.labels.withLabel Labels.jobConclusion conclusion
    countOne env .jobConclusions concluded
    match ← readLog env e with
    | .failed => return ()
    | .disabled => countFailure env e conclusion exitCodeUnknown
    | .read s =>
      note env (.logReadWithExit e.context (text s.exitText))
      countFailure env e conclusion (text s.exitText)
      observeDuration env .runDuration concluded s.runTime

/-- Processes an event. -/
def dispatchEvent (env : Environment τ ω) (e : Event) : Act τ ω Unit :=
  if e.action = Action.queued then countOne env .jobsQueued e.labels
  else if e.action = Action.inProgress then startJob env e
  else if e.action = Action.completed then completeJob env e
  else note env (.ignoredAction e.action e.context)

/-- Processes an item. -/
def dispatch (env : Environment τ ω) : Item → Act τ ω Unit
  | .event e => dispatchEvent env e
  | .other v => note env (.ignoredItem (Item.typeName v))
  | .object o =>
    match o.typeName with
    | .ok name => note env (.ignoredItem name)
    | .error f => throw f

/-- Notes that the processing of an item failed, if the item can be described. -/
def noteFailed (env : Environment τ ω) (i : Item) (f : Failure) : Act τ ω Unit :=
  match i.describe with
  | .ok description => note env (.processingFailed description f)
  | .error g => throw g

/-- Processes an item; a failure is noted. -/
def dispatchSafely (env : Environment τ ω) (i : Item) : Act τ ω Unit :=
  guarded (noteFailed env i) (dispatch env i)

end Reader

end JobMeter
