import JobMeter.CommandLine.Invocation
import JobMeter.Failure

/-!
# What the program reports

The first message of the service tells its version.  It is written where messages of its level are.
At its end the program gives an exit code, and the failure it ended with.
-/

namespace JobMeter.Service

/-- The version of the service. -/
def version : String := "0.1.0"

/-- The lines that are written at the start, without the time. -/
def openingLines (level : CommandLine.LogLevel) : List String :=
  if level.writes .info then
    [s!"INFO - root - Starting GitHub actions metrics service version: {version}"]
  else []

/-- The exit code when the command line is refused. -/
def usageCode : Nat := 2

/-- The exit code of a run. -/
def exitCode : Except Failure Unit → Nat
  | .ok () => 0
  | .error _ => 1

/-- The failure that is told when a run ends.  The end of the input is not worth telling. -/
def told : Except Failure Unit → Option Failure
  | .ok () => none
  | .error f => if f.kind = .foreign "EOFError" then none else some f

end JobMeter.Service
