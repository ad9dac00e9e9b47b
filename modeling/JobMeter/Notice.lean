import JobMeter.Failure
import JobMeter.Text.Quoted

/-!
# Notices

What the service tells its operator.  A `Notice` says what happened; `Notice.level`,
`Notice.message` and `Notice.failure?` say how it is recorded.
-/

namespace JobMeter

/-- How urgent a notice is. -/
inductive Level where
  | debug
  | info
  | warning
  | error
  deriving DecidableEq, Repr

/-- The name of a level. -/
def Level.name : Level → String
  | debug => "DEBUG"
  | info => "INFO"
  | warning => "WARNING"
  | error => "ERROR"

/-- What happened.  `context` are the rendered log fields of an event. -/
inductive Notice where
  /-- An item on the queue is no event. -/
  | ignoredItem (type : String)
  | ignoredAction (action context : Text)
  | noRepository (context : Text)
  | noConclusion (context : Text)
  | logFailed (context : Text) (f : Failure)
  | logRead (context : Text)
  | logReadWithExit (context exit : Text)
  | queueFull (item : Text)
  | processingFailed (item : Text) (f : Failure)
  | accrualFailed (f : Failure)
  | loopStarted
  | loopStopped
  | logsDisabled
  | threadFailed (f : Failure)
  | signalled (name : String)

namespace Notice

/-- How urgent it is. -/
def level : Notice → Level
  | ignoredItem _ | ignoredAction .. => .debug
  | logRead _ | logReadWithExit .. | loopStarted | loopStopped | signalled _ => .info
  | noRepository _ | noConclusion _ | queueFull _ | logsDisabled => .warning
  | logFailed .. | processingFailed .. | accrualFailed _ | threadFailed _ => .error

/-- What is written. -/
def message : Notice → Text
  | ignoredItem type => text "Ignoring event of type " ++ text type
  | ignoredAction action context =>
    text "Ignoring workflow job action " ++ action ++ text ", " ++ context
  | noRepository context =>
    text "Cannot fetch workflow job log without repository, " ++ context
  | noConclusion context => text "Completed workflow job without conclusion, " ++ context
  | logFailed context _ => text "Failed to read workflow job log, " ++ context
  | logRead context => text "Read workflow job log, " ++ context
  | logReadWithExit context exit =>
    text "Read workflow job log, " ++ context ++ text " exit_code=" ++ Text.quote exit
  | queueFull item => text "Event queue full, dropping event: " ++ item
  | processingFailed item _ => text "Unexpected error processing event: " ++ item
  | accrualFailed _ => text "Unexpected error accruing in progress time"
  | loopStarted => text "Starting the workflow job event loop"
  | loopStopped => text "Workflow job event loop stopped"
  | logsDisabled => text "No GitHub configuration, the metrics from the job logs are disabled"
  | threadFailed _ => text "Caught exception in thread"
  | signalled name => text "Signal '" ++ text name ++ text "' received. Will terminate."

/-- The failure that is recorded with it. -/
def failure? : Notice → Option Failure
  | logFailed _ f | processingFailed _ f | accrualFailed f | threadFailed f => some f
  | _ => none

end Notice

end JobMeter
