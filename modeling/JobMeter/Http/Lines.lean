import JobMeter.Http.Body
import JobMeter.Log.Fetch
import JobMeter.Text.Charset
import JobMeter.Text.Lines

/-!
# The lines of a body

The pieces of a body are decoded one after the other and cut into lines.  The end of a piece is the
end of a line only if a line break stands there; so a carriage return at the end of a piece and a
line feed at the start of the next end two lines.
-/

namespace JobMeter.Http

/-- A line of a feed. -/
def lineItem {ω : Type} (t : Text) : FeedItem ω := .line t.toCharsReplacing

/-- The feed of pieces.  `open_` is, in reverse, what there is of a line that is not complete. -/
def feedFrom {ω : Type} (d : Text.Decoder) (open_ : Text) : List (Piece ω) → List (FeedItem ω)
  | [] =>
    match d.finish with
    | .error f => [.fail f]
    | .ok t =>
      let (lines, left) := Text.endedLines open_ t
      (if left.isEmpty then lines else lines ++ [left.reverse]).map lineItem
  | .meanwhile f :: rest => .meanwhile f :: feedFrom d open_ rest
  | .fail k :: _ => [.fail (Failure.ofRequest k)]
  | .bytes b :: rest =>
    match d.read b with
    | .error f => [.fail f]
    | .ok (t, d) =>
      let (lines, left) := Text.endedLines open_ t
      lines.map lineItem ++ feedFrom d left rest

/-- How much of a log is asked for at once. -/
def lineAmount : Nat := 512

/-- The feed of the lines of a body in a charset. -/
def Reply.lines {ω : Type} (r : Reply ω) (charset : Text) : List (FeedItem ω) :=
  match Text.Charset.named charset with
  | .error f => [.fail f]
  | .ok c => feedFrom { charset := c } [] (r.pieces lineAmount)

end JobMeter.Http
