import JobMeter.Http.Lines
import JobMeter.Proofs.Log.Lasts
import JobMeter.Proofs.Log.Reading
import JobMeter.Proofs.Text.Carrying

/-!
# A log comes in pieces

The body of a log comes in pieces, cut wherever the transfer happens to cut it: in the middle of a
character, of a timestamp or of a line break.

* `Http.linesIn`, `Http.bodyOf` — the feed of pieces, and their bytes.
* `Http.filled_feedFrom` — the filled lines of the feed are those of the whole text.
* `Http.feedWorld_feedFrom`, `Http.free_feedFrom` — what happens while they come is what happens
  while the pieces come, and nothing ends the reading.
* `Log.summarize_filled` — a summary does not depend on empty lines.
* `fetch_any_pieces` — **cuts do not matter**: what comes of a log is the summary of its whole body.
  `Http.lines_eq_linesIn` says that the reply of a platform is read piece by piece in this way.
-/

namespace JobMeter

variable {ω : Type}

/-! ## Summaries -/

namespace Log

open JobMeter.Text

theorem dated?_nil : dated? [] = none := by decide

/-- Empty lines are not valid. -/
theorem entries_filled (lines : List (List Char)) : entries (filled lines) = entries lines := by
  induction lines with
  | nil => rfl
  | cons line lines ih =>
    cases line with
    | nil =>
      rw [entries, entries, List.filterMap_cons_none dated?_nil]
      exact ih
    | cons c line =>
      rw [filled_cons, entries, List.filterMap_append]
      show entries [c :: line] ++ entries (filled lines) = _
      rw [ih, entries, entries, ← List.filterMap_append]
      rfl

/-- A summary does not depend on empty lines. -/
theorem summarize_filled (lines : List (List Char)) :
    summarize (filled lines) = summarize lines := by
  rw [summarize, summarize, foldl_step, foldl_step, entries_filled]

end Log

/-! ## Feeds of pieces -/

namespace Http

open JobMeter.Text

/-- The bytes of a piece. -/
def Piece.content : Piece ω → List UInt8
  | .bytes b => b
  | .meanwhile _ | .fail _ => []

/-- The bytes of pieces. -/
def bodyOf (pieces : List (Piece ω)) : List UInt8 := pieces.flatMap Piece.content

/-- The feed of the lines of pieces in a charset. -/
def linesIn (charset : Text) (pieces : List (Piece ω)) : List (FeedItem ω) :=
  match Charset.named charset with
  | .error f => [.fail f]
  | .ok c => feedFrom { charset := c } [] pieces

/-- What is read of a reply are the lines of its pieces. -/
theorem lines_eq_linesIn (r : Reply ω) (charset : Text) :
    r.lines charset = linesIn charset (r.pieces lineAmount) := rfl

variable {d : Decoder} {line : Text} {pieces : List (Piece ω)} {source : LogSource ω} {w : ω}

/-- The lines that end in a piece come first. -/
theorem feedFrom_bytes (hd : d.charset = .utf8 false) (line : Text) (b : List UInt8)
    (pieces : List (Piece ω)) :
    feedFrom d line (.bytes b :: pieces) =
      (endedLines line (d.readUtf8 b).1).1.map lineItem ++
        feedFrom (d.readUtf8 b).2 (endedLines line (d.readUtf8 b).1).2 pieces := by
  rw [feedFrom, Decoder.read_utf8 hd]

theorem feedLines_map_lineItem (lines : List Text) :
    feedLines (lines.map (lineItem : Text → FeedItem ω)) = lines.map toCharsReplacing := by
  rw [feedLines, List.filterMap_map, ← List.filterMap_eq_map]
  rfl

theorem feedLines_append (feed feed' : List (FeedItem ω)) :
    feedLines (feed ++ feed') = feedLines feed ++ feedLines feed' :=
  List.filterMap_append

theorem feedWorld_append (w : ω) (feed feed' : List (FeedItem ω)) :
    feedWorld w (feed ++ feed') = feedWorld (feedWorld w feed) feed' :=
  List.foldl_append

/-- While the lines of a piece are read, nothing happens. -/
theorem feedWorld_map_lineItem (w : ω) (lines : List Text) :
    feedWorld w (lines.map lineItem) = w := by
  induction lines with
  | nil => rfl
  | cons line lines ih => exact ih

theorem free_map_lineItem_append {lines : List Text} {feed : List (FeedItem ω)}
    (hstopped : source.stopped w = false) (hfeed : source.Free w feed) :
    source.Free w (lines.map lineItem ++ feed) := by
  induction lines with
  | nil => exact hfeed
  | cons line lines ih =>
    exact LogSource.free_cons.2 ⟨by simp [lineItem, LogSource.Stops, hstopped], ih⟩

/-- **The filled lines of the feed are those of the whole text.** -/
theorem filled_feedFrom (hd : d.charset = .utf8 false) (hpieces : ∀ k, Piece.fail k ∉ pieces) :
    filled (feedLines (feedFrom d line pieces)) =
      (filledFrom line (Utf8.textFrom d.sequence (bodyOf pieces))).map toCharsReplacing := by
  induction pieces generalizing d line with
  | nil =>
    rw [feedFrom, Decoder.finish_utf8 hd]
    dsimp only
    rw [feedLines_map_lineItem, filled_map_toCharsReplacing]
    exact congrArg _ (filled_endedLines line _)
  | cons piece pieces ih =>
    have hrest : ∀ k, Piece.fail k ∉ pieces := fun k => List.not_mem_of_not_mem_cons (hpieces k)
    cases piece with
    | meanwhile f => exact ih hd hrest
    | fail k => exact absurd List.mem_cons_self (hpieces k)
    | bytes b =>
      have hbody : bodyOf (.bytes b :: pieces) = b ++ bodyOf pieces := rfl
      rw [feedFrom_bytes hd, feedLines_append, feedLines_map_lineItem, filled_append,
        filled_map_toCharsReplacing, ih (d := (d.readUtf8 b).2) hd hrest, hbody, d.textFrom_append,
        filledFrom_append, List.map_append]

/-- What happens while the lines come is what happens while the pieces come. -/
theorem feedWorld_feedFrom (hd : d.charset = .utf8 false) (hpieces : ∀ k, Piece.fail k ∉ pieces) :
    feedWorld w (feedFrom d line pieces) = (Reply.consumePieces pieces w).2 := by
  induction pieces generalizing d line w with
  | nil =>
    rw [feedFrom, Decoder.finish_utf8 hd]
    exact feedWorld_map_lineItem w _
  | cons piece pieces ih =>
    have hrest : ∀ k, Piece.fail k ∉ pieces := fun k => List.not_mem_of_not_mem_cons (hpieces k)
    cases piece with
    | meanwhile f => exact ih hd hrest
    | fail k => exact absurd List.mem_cons_self (hpieces k)
    | bytes b =>
      rw [feedFrom_bytes hd, feedWorld_append, feedWorld_map_lineItem]
      exact ih hd hrest

/-- If no stop is requested while the pieces come, then nothing ends the reading. -/
theorem free_feedFrom (hd : d.charset = .utf8 false) (hpieces : ∀ k, Piece.fail k ∉ pieces)
    (hstopped : ∀ before, before <+: pieces →
      source.stopped (Reply.consumePieces before w).2 = false) :
    source.Free w (feedFrom d line pieces) := by
  induction pieces generalizing d line w with
  | nil =>
    obtain ⟨lines, hlines⟩ : ∃ lines : List Text, feedFrom d line ([] : List (Piece ω)) =
        lines.map lineItem := by
      rw [feedFrom, Decoder.finish_utf8 hd]
      exact ⟨_, rfl⟩
    rw [hlines, ← List.append_nil (lines.map lineItem)]
    exact free_map_lineItem_append (hstopped [] List.nil_prefix) LogSource.free_nil
  | cons piece pieces ih =>
    have hrest : ∀ k, Piece.fail k ∉ pieces := fun k => List.not_mem_of_not_mem_cons (hpieces k)
    have hnext (before) (h : before <+: pieces) :
        source.stopped (Reply.consumePieces (piece :: before) w).2 = false :=
      hstopped (piece :: before) (List.prefix_cons_inj piece |>.2 h)
    cases piece with
    | meanwhile f => exact LogSource.free_cons.2 ⟨id, ih hd hrest hnext⟩
    | fail k => exact absurd List.mem_cons_self (hpieces k)
    | bytes b =>
      rw [feedFrom_bytes hd]
      exact free_map_lineItem_append (hstopped [] List.nil_prefix) (ih hd hrest hnext)

end Http

/-- Logs of which the platform gives no charset are in UTF-8. -/
theorem LogSource.named_defaultCharset :
    Text.Charset.named defaultCharset = .ok (.utf8 false) := by decide +kernel

/-- **Cuts do not matter.**  Let the log of a job be opened, and let its body come in pieces,
however it is cut, while other things happen.  If its charset is UTF-8, no piece fails to come and
no stop is requested while they come, then what is fetched is the summary of the lines of the whole
body, decoded at once, with the replacement character for what is no UTF-8.

Neither a character nor a line, a timestamp or a message has to be whole in a piece.  A line break
of two code points that is cut makes an empty line, which says nothing. -/
theorem fetch_any_pieces (source : LogSource ω) (job : JobIdentity) {w w₁ : ω}
    {stream : LogStream ω} {pieces : List (Http.Piece ω)} {body : List UInt8}
    (hopen : source.openLog job w = .ok stream w₁)
    (hfeed : stream.feed = fun charset => Http.linesIn charset pieces)
    (hbody : Http.bodyOf pieces = body)
    (hcharset :
      Text.Charset.named (stream.charset.getD LogSource.defaultCharset) = .ok (.utf8 false))
    (hpieces : ∀ k, Http.Piece.fail k ∉ pieces)
    (hstopped : ∀ before, before <+: pieces →
      source.stopped (Http.Reply.consumePieces before w₁).2 = false) :
    source.fetch job w =
      .ok (Log.summarize
          ((Text.splitLines (Text.Utf8.decodeReplacing body)).map Text.toCharsReplacing))
        (source.release (Http.Reply.consumePieces pieces w₁).2) := by
  have hd : ({ charset := .utf8 false } : Text.Decoder).charset = .utf8 false := rfl
  have hfeed : LogSource.feedOf stream = Http.feedFrom { charset := .utf8 false } [] pieces := by
    rw [LogSource.feedOf, hfeed]
    show Http.linesIn (stream.charset.getD LogSource.defaultCharset) pieces = _
    rw [Http.linesIn, hcharset]
  have hlines : Text.filled (feedLines (LogSource.feedOf stream)) =
      Text.filled
        ((Text.splitLines (Text.Utf8.decodeReplacing body)).map Text.toCharsReplacing) := by
    rw [hfeed, Http.filled_feedFrom hd hpieces, hbody, Text.Utf8.textFrom_none,
      Text.filled_map_toCharsReplacing, Text.filled_splitLines]
  have hfree : source.Free w₁ (LogSource.feedOf stream) := by
    rw [hfeed]
    exact Http.free_feedFrom hd hpieces hstopped
  have hread : source.readFeed job.job {} (LogSource.feedOf stream) w₁ =
      .ok (Log.summarize (feedLines (LogSource.feedOf stream)))
        (Http.Reply.consumePieces pieces w₁).2 := by
    rw [LogSource.readFeed_of_free hfree, hfeed, Http.feedWorld_feedFrom hd hpieces]
    rfl
  rw [LogSource.fetch_of_open hopen, LogSource.ending, hread, ← Log.summarize_filled, hlines,
    Log.summarize_filled]

/-- A log that comes byte by byte, so that every character, timestamp, message and line break is
cut; after its lines stands a byte that is no UTF-8. -/
theorem fetch_any_pieces_bytewise :
    let body := Text.Utf8.encode (text ("2024-02-29T10:00:00.5Z " ++
      "Job is about to start running on the runner: é\r\n" ++
      "2024-02-29T10:00:09.0Z ##[error]Process completed with exit code 7.\r\n" ++
      "2024-02-29T10:00:10.0Z done\r\n")) ++ [0xFF]
    let pieces : List (Http.Piece Unit) := body.map fun b => .bytes [b]
    let stream : LogStream Unit := ⟨none, fun charset => Http.linesIn charset pieces⟩
    let source : LogSource Unit :=
      { locate := fun _ => pure (text "https://logs"), retrieve := fun _ => pure stream,
        release := id, stopped := fun _ => false }
    [] ∈ feedLines (LogSource.feedOf stream) ∧
      source.fetch ⟨text "owner", text "repo", 1⟩ () =
        .ok ⟨some '7', 63844797600500000, 9500000⟩ () := by
  intro body pieces stream source
  refine ⟨by decide +kernel, ?_⟩
  have hbody : Http.bodyOf pieces = body := by
    simp [Http.bodyOf, pieces, List.flatMap_map, Http.Piece.content]
  have hpieces : ∀ k, Http.Piece.fail k ∉ pieces := by simp [pieces]
  have hsummary : Log.summarize
      ((Text.splitLines (Text.Utf8.decodeReplacing body)).map Text.toCharsReplacing) =
        ⟨some '7', 63844797600500000, 9500000⟩ := by decide +kernel
  have hopen : source.openLog ⟨text "owner", text "repo", 1⟩ () = .ok stream () := rfl
  rw [fetch_any_pieces source _ hopen rfl hbody LogSource.named_defaultCharset hpieces
    fun _ _ => rfl, hsummary]

end JobMeter
