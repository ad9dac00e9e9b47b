import JobMeter.CommandLine.Parameter
import JobMeter.Text.Wrap

/-!
# Help

`help` tells what the program does and which parameters it takes, and `Refusal.report` what is
wrong with a command line.  Both fit a terminal with 80 columns.
-/

namespace JobMeter.CommandLine

/-- The name of the program. -/
def program : String := "github-actions-metrics"

/-- How the program is called. -/
def usage : String := s!"Usage: {program} [OPTIONS]"

/-- What the program does. -/
def description : List String :=
  ["Start the webhook receiver and the workflow job event loop.",
   "     ".intercalate
     ["Args:", "config_file: The configuration file.",
      "host: The hostname to listen on for the HTTP server",
      "port: The port to listen on the HTTP server.",
      "debug: Whether to start the application in debug mode.",
      "log_level: The log level."]]

/-- The columns of a line of help. -/
def width : Nat := 78

/-- The column in which what is said about parameters starts. -/
def column : Nat := 34

/-- Blanks. -/
def blanks (n : Nat) : String := String.ofList (List.replicate n ' ')

/-- The lines of a paragraph. -/
def paragraph (t : String) : List String :=
  (Text.wrap (width - 2) t.toList).map fun l => blanks 2 ++ String.ofList l

namespace Parameter

/-- The name with what its value is called. -/
def heading (p : Parameter) : String :=
  match p.value with
  | some v => s!"  {p.name} {v}"
  | none => s!"  {p.name}"

/-- What is said about the parameter. -/
def remark (p : Parameter) : String := if p.required then p.help ++ "  [required]" else p.help

/-- The lines of a parameter: its heading, and from a column on what is said about it. -/
def lines (p : Parameter) : List String :=
  let remarks := (Text.wrap (width - column) p.remark.toList).map String.ofList
  let heading := p.heading
  let room := column - heading.length
  if 2 ≤ room then
    match remarks with
    | [] => [heading]
    | first :: rest => (heading ++ blanks room ++ first) :: rest.map (blanks column ++ ·)
  else heading :: remarks.map (blanks column ++ ·)

end Parameter

/-- What the program does and which parameters it takes. -/
def help : String :=
  let lines := usage :: description.flatMap (fun d => "" :: paragraph d) ++
    "" :: "Options:" :: parameters.flatMap Parameter.lines
  "\n".intercalate lines ++ "\n"

/-- What is wrong with a command line. -/
def Refusal.report (r : Refusal) : Text :=
  let before := if r.tellsUsage then s!"{usage}\nTry '{program} {helpName}' for help.\n\n" else ""
  text before ++ text "Error: " ++ r.message ++ text "\n"

end JobMeter.CommandLine
