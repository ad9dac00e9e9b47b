import JobMeter.Text.Cut

/-!
# Files of a rehearsal

In a rehearsal the program finds itself in a directory with nothing but the files of the script.  A
hyphen names the standard input, on which nothing comes.
-/

namespace JobMeter.Rehearsal

/-- The files of a directory with what they hold. -/
abbrev Files := List (Text × Text)

namespace Files

/-- The segments of a path that lead anywhere. -/
def segments (path : Text) : List Text :=
  (Text.splitOn '/' path).filter fun s => !s.isEmpty && s != text "."

/-- What a file holds, or why it cannot be read. -/
def read (files : Files) (path : Text) : Except Text Text :=
  if path == text "-" then .ok []
  else
    match segments path, path.getLast? with
    | [], some _ => .error (text "Is a directory")
    | name :: deeper, some last =>
      match files.find? fun f => f.1 == name with
      | some (_, t) =>
        if deeper.isEmpty && !CodePoint.is '/' last then .ok t else .error (text "Not a directory")
      | none =>
        if name == text ".." && deeper.isEmpty then .error (text "Is a directory")
        else .error (text "No such file or directory")
    | _, none => .error (text "No such file or directory")

end Files

end JobMeter.Rehearsal
