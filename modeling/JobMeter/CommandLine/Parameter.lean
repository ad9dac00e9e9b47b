import JobMeter.Text.Quoted
import JobMeter.Text.Cut
import JobMeter.Text.Similarity

/-!
# Parameters of the command line

The command line takes the `parameters`, each under a name that starts with two hyphens.  Most take
a value, which follows as the next argument or after an equals sign.

`Given.read` takes arguments in.  It does not look into values, but refuses names that it does not
know and values that are missing or not wanted.
-/

namespace JobMeter.CommandLine

/-- A parameter of the command line. -/
structure Parameter where
  name : String
  /-- What its value is called, if it takes one. -/
  value : Option String
  help : String
  /-- Does it have to be given? -/
  required : Bool := false

/-- The name of the parameter that asks for help. -/
def helpName : String := "--help"

/-- The names of the levels from which on the messages of the service are written. -/
def levelNames : List String := ["CRITICAL", "FATAL", "ERROR", "WARNING", "INFO", "DEBUG"]

/-- The parameters. -/
def parameters : List Parameter :=
  [⟨"--config-file", some "FILENAME", "The file path containing the configurations.", true⟩,
   ⟨"--host", some "TEXT", "The hostname to listen on for the HTTP server.", false⟩,
   ⟨"--port", some "INTEGER", "The port to listen on for the HTTP server.", false⟩,
   ⟨"--debug", none, "Debug mode for testing.", false⟩,
   ⟨"--log-level", some ("[" ++ "|".intercalate levelNames ++ "]"),
     "The log level for the application.", false⟩,
   ⟨helpName, none, "Show this message and exit.", false⟩]

/-- Why a command line is refused. -/
inductive Refusal where
  /-- There is no such parameter; those that are like it. -/
  | unknown (name : Text) (like : List String)
  | noValue (name : Text)
  | unwantedValue (name : Text)
  /-- The value of a parameter is not one it can have. -/
  | invalid (name : String) (reason : Text)
  | missing (name : String)
  /-- Arguments that belong to no parameter. -/
  | extra (arguments : List Text)
  deriving DecidableEq

namespace Refusal

/-- The reason in words. -/
def message : Refusal → Text
  | unknown name [] => text "No such option " ++ Text.quote name ++ text "."
  | unknown name [one] =>
    text "No such option " ++ Text.quote name ++ text s!". Did you mean '{one}'?"
  | unknown name like =>
    let names := ", ".intercalate (like.mergeSort.map fun n => s!"'{n}'")
    text "No such option " ++ Text.quote name ++ text s!". (Did you mean one of: {names}?)"
  | noValue name => text "Option " ++ Text.quote name ++ text " requires an argument."
  | unwantedValue name => text "Option " ++ Text.quote name ++ text " does not take a value."
  | invalid name reason => text s!"Invalid value for '{name}': " ++ reason
  | missing name => text s!"Missing option '{name}'."
  | extra [one] => text "Got unexpected extra argument (" ++ one ++ text ")"
  | extra arguments =>
    text "Got unexpected extra arguments (" ++ Text.joinWith (text " ") arguments ++ text ")"

/-- Is the usage of the program told along with it? -/
def tellsUsage : Refusal → Bool
  | noValue _ | unwantedValue _ => false
  | _ => true

end Refusal

/-- What the arguments give. -/
structure Given where
  /-- The names of the parameters in the order in which they are given. -/
  names : List String := []
  /-- The values; the last one counts. -/
  values : List (String × Text) := []
  /-- Arguments that belong to no parameter. -/
  extra : List Text := []

namespace Given

/-- The value of a parameter. -/
def value? (g : Given) (name : String) : Option Text :=
  ((g.values.filter fun v => v.1 == name).getLast?).map (·.2)

/-- Takes a parameter in. -/
def add (g : Given) (p : Parameter) (value : Option Text) : Given :=
  { g with
    names := if g.names.contains p.name then g.names else g.names ++ [p.name]
    values := g.values ++ (value.map fun v => (p.name, v)).toList }

/-- The parameter with a name. -/
def parameter? (name : Text) : Option Parameter := parameters.find? fun p => text p.name == name

/-- The refusal of an argument that names no parameter.  After a single hyphen only the first
character is a name. -/
def unknown (argument name : Text) : Refusal :=
  if argument.startsWith "--" then
    .unknown name (Text.similar name.toCharsReplacing (parameters.map (·.name)))
  else .unknown (argument.take 2) []

/-- Does the argument name a parameter? -/
def isName (t : Text) : Bool := t.startsWith "-" && 1 < t.length

/-- Takes in arguments. -/
def readFrom (g : Given) : List Text → Except Refusal Given
  | [] => .ok g
  | t :: rest =>
    if t == text "--" then .ok { g with extra := g.extra ++ rest }
    else if !isName t then readFrom { g with extra := g.extra ++ [t] } rest
    else
      let (name, attached) := match Text.cut? '=' t with
        | some (name, value) => (name, some value)
        | none => (t, none)
      match parameter? name, attached, rest with
      | none, _, _ => .error (unknown t name)
      | some p, attached, rest =>
        if p.value.isNone then
          match attached with
          | some _ => .error (.unwantedValue name)
          | none => readFrom (g.add p none) rest
        else
          match attached, rest with
          | some v, rest => readFrom (g.add p (some v)) rest
          | none, v :: rest => readFrom (g.add p (some v)) rest
          | none, [] => .error (.noValue name)

/-- What arguments give. -/
def read (arguments : List Text) : Except Refusal Given := readFrom {} arguments

end Given

end JobMeter.CommandLine
