import JobMeter.CommandLine.Parameter
import JobMeter.Notice
import JobMeter.Number.Numeral

/-!
# Invocations

An `Invocation` is what the service is started with.  `Invocation.read` makes one of the arguments:
the values of the parameters are looked into in the order in which they were given, and then the
parameters that were not given.  Asking for help comes before all that.
-/

namespace JobMeter.CommandLine

/-- The levels from which on messages are written. -/
inductive LogLevel where
  | critical
  | error
  | warning
  | info
  | debug
  deriving DecidableEq, Repr

namespace LogLevel

/-- The name of a level. -/
def name : LogLevel → String
  | critical => "CRITICAL"
  | error => "ERROR"
  | warning => "WARNING"
  | info => "INFO"
  | debug => "DEBUG"

/-- The level with a name; the most urgent one has two. -/
def named? (t : Text) : Option LogLevel :=
  if t == text "FATAL" then some critical
  else [critical, error, warning, info, debug].find? fun l => text l.name == t

/-- Are messages of a level written? -/
def writes (l : LogLevel) : Level → Bool
  | .error => l != critical
  | .warning => (l matches warning | info | debug)
  | .info => (l matches info | debug)
  | .debug => l == debug

end LogLevel

/-- What the service is started with. -/
structure Invocation where
  /-- The settings as they stand in their file. -/
  settings : Text
  host : Text := text "127.0.0.1"
  port : Int := 8080
  debug : Bool := false
  level : LogLevel := .info

/-- What a command line asks for. -/
inductive Demand where
  | help
  | run (i : Invocation)

namespace Invocation

/-- The integer that a text writes. -/
def integer? (t : Text) : Option Int := t.toChars?.bind Number.Numeral.integer?

/-- A text in which every line break is a line feed. -/
def plainBreaks : Text → Text
  | p :: q :: r =>
    if CodePoint.is '\r' p then
      if CodePoint.is '\n' q then q :: plainBreaks r
      else CodePoint.ofChar '\n' :: plainBreaks (q :: r)
    else p :: plainBreaks (q :: r)
  | [p] => [if CodePoint.is '\r' p then CodePoint.ofChar '\n' else p]
  | [] => []

/-- Looks into the value of a parameter.  `file` reads a file, or tells why it cannot be read. -/
def set (file : Text → Except Text Text) (g : Given) (i : Invocation) (name : String) :
    Except Refusal Invocation :=
  match name, g.value? name with
  | "--config-file", some v =>
    match file v with
    | .ok t => .ok { i with settings := plainBreaks t }
    | .error reason => .error (.invalid name (text "'" ++ v ++ text "': " ++ reason))
  | "--config-file", none => .error (.missing name)
  | "--host", some v => .ok { i with host := v }
  | "--port", some v =>
    match integer? v with
    | some n => .ok { i with port := n }
    | none => .error (.invalid name (Text.quote v ++ text " is not a valid integer."))
  | "--log-level", some v =>
    match LogLevel.named? v with
    | some l => .ok { i with level := l }
    | none =>
      let choices := ", ".intercalate (levelNames.map fun n => s!"'{n}'")
      .error (.invalid name (Text.quote v ++ text s!" is not one of {choices}."))
  | "--debug", _ => .ok { i with debug := g.names.contains name }
  | _, _ => .ok i

/-- The parameters in the order in which they are looked into. -/
def order (g : Given) : List String :=
  g.names ++ (parameters.map (·.name)).filter fun n => !g.names.contains n

/-- What arguments ask for. -/
def read (file : Text → Except Text Text) (arguments : List Text) : Except Refusal Demand := do
  let g ← Given.read arguments
  if g.names.contains helpName then return .help
  let i ← (order g).foldlM (set file g) { settings := [] }
  if g.extra.isEmpty then return .run i else throw (.extra g.extra)

end Invocation

end JobMeter.CommandLine
