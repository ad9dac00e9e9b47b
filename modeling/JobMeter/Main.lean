import JobMeter.CommandLine.Help
import JobMeter.Service.Report
import JobMeter.Service.Session
import JobMeter.Service.Wire

/-!
# The program

The outermost layer: it reads the command line and the file with the settings, and then answers
requests that come in on the standard input, one after the other, until it ends.  Notices go to the
standard error output.

The program has no connection of its own to the outside.  So requests to the platform fail, as they
do without a network.
-/

namespace JobMeter.Program

open Service

/-- What the program keeps while it runs. -/
structure Hub where
  clock : Float
  store : Store Float := Store.empty
  notices : List Notice := []
  stopped : Bool := false

/-- What the service runs on. -/
def host : Host Hub where
  now hub := hub.clock
  store hub := hub.store
  setStore store hub := { hub with store }
  transport := ⟨fun _ => throw (Failure.ofRequest .connection), id⟩
  note n hub := { hub with notices := n :: hub.notices }
  stopped hub := hub.stopped
  requestStop hub := { hub with stopped := true }

/-- The time in seconds. -/
def now : IO Float := return (← IO.monoMsNow).toFloat / 1000

/-- Why a file cannot be read. -/
def reason : IO.Error → Text
  | .noFileOrDirectory .. => text "No such file or directory"
  | .permissionDenied .. => text "Permission denied"
  | .inappropriateType .. => text "Is a directory"
  | e => text (toString e)

/-- What a file holds. -/
def readText (path : String) : IO (Except Text Text) := do
  try
    let bytes ← IO.FS.readBinFile path
    return .ok (Text.Utf8.decodeReplacing bytes.toList)
  catch e => return .error (reason e)

/-- What the command line asks for. -/
def demand (arguments : List Text) : IO (Except CommandLine.Refusal CommandLine.Demand) := do
  let path := match CommandLine.Given.read arguments with
    | .ok g => g.value? "--config-file"
    | .error _ => none
  let settings ← match path with
    | some path => readText path.toStringReplacing
    | none => pure (.ok [])
  return CommandLine.Invocation.read (fun _ => settings) arguments

/-- Writes the notices. -/
def report (level : CommandLine.LogLevel) (r : Reader Float Hub) : IO (Reader Float Hub) := do
  for n in r.world.notices.reverse do
    if level.writes n.level then
      IO.eprintln s!"{n.level.name} - {n.message.toStringReplacing}"
  return { r with world := { r.world with notices := [] } }

/-- Does a step of the reader at the time. -/
def stepNow {α : Type} (level : CommandLine.LogLevel) (act : Act Float Hub α)
    (r : Reader Float Hub) : IO (Except Failure α × Reader Float Hub) := do
  let clock ← now
  match act { r with world := { r.world with clock } } with
  | .ok a r => return (.ok a, ← report level r)
  | .error f r => return (.error f, ← report level r)

/-- Reads the headers of a request. -/
partial def readHeaders (input : IO.FS.Stream) : IO (List (Text × Text)) := do
  match Wire.header? (text (← input.getLine)) with
  | some h => return h :: (← readHeaders input)
  | none => return []

/-- Reads bytes until there are enough of them. -/
partial def readBody (input : IO.FS.Stream) (n : Nat) : IO (List UInt8) := do
  if n == 0 then return []
  let bytes ← input.read n.toUSize
  if bytes.isEmpty then return []
  return bytes.toList ++ (← readBody input (n - bytes.size))

/-- Reads a request; none, when the input has ended. -/
def readRequest (input : IO.FS.Stream) : IO (Option WebRequest) := do
  match Wire.requestLine? (text (← input.getLine)) with
  | none => return none
  | some (method, target) =>
    let r := Wire.request method target (← readHeaders input)
    return some { r with body := ← readBody input (Wire.bodyLength r) }

/-- Answers requests until there are no more.  What is due for an accrual is accrued in between. -/
partial def serve (level : CommandLine.LogLevel) (env : Environment Float Hub) (due : Float)
    (r : Reader Float Hub) : IO (Reader Float Hub) := do
  match ← readRequest (← IO.getStdin) with
  | none => return r
  | some request =>
    let (answer, r) ← stepNow level (Service.serve host env request) r
    let out ← IO.getStdout
    let answer := match answer with
      | .ok a => a
      | .error _ => reply 500
    out.putStr (Wire.answer answer).toStringReplacing
    out.flush
    let (due?, r) ← stepNow level (Reader.accrueIfDue env due) r
    serve level env (due?.toOption.getD due) r

/-- Runs the service. -/
def run (i : CommandLine.Invocation) : IO UInt32 := do
  for line in openingLines i.level do IO.eprintln line
  match Settings.read i.settings with
  | .error f =>
    IO.eprintln (f.message.toStringReplacing)
    return (exitCode (.error f)).toUInt32
  | .ok settings =>
    let env := settings.environment host
    let start ← now
    let r := settings.reader host { clock := start }
    let (_, r) ← stepNow i.level (Reader.note env .loopStarted) r
    let r ← serve i.level env (start + env.interval) r
    discard (stepNow i.level (do Reader.stop env; Reader.note env .loopStopped) r)
    return 0

end JobMeter.Program

open JobMeter in
/-- Runs the program with its arguments. -/
def main (arguments : List String) : IO UInt32 := do
  match ← Program.demand (arguments.map text) with
  | .error r =>
    IO.eprint r.report.toStringReplacing
    return Service.usageCode.toUInt32
  | .ok .help =>
    IO.print CommandLine.help
    return 0
  | .ok (.run i) => Program.run i
