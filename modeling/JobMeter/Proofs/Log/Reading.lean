import JobMeter.Proofs.Failing
import JobMeter.Log.Fetch

/-!
# Reading a log to its end

A log comes in as a feed: lines, things that happen between them, and possibly a failure.  The
reading sums the lines up as they come, so it has to be shown that what it gives is never the sum of
a part of them.

* `feedLines`, `feedWorld` — the lines of a feed, and the world after a part of it.
* `LogSource.Stops source w item` — the item ends the reading when it comes in the world `w`: it is
  a failure, or a line that comes after a stop was requested.
* `LogSource.Free source w feed` — no item of the feed ends the reading.
* `LogSource.readFeed_of_free`, `LogSource.readFeed_of_stops` — what comes of the reading in either
  case; one of them is the case (`LogSource.free_or_stops`).
* `fetch_whole_log` — **there is no summary of a part of a log**: a fetch gives a summary exactly if
  the log was opened and read to its end without a failure, and it is the summary of all lines.
-/

namespace JobMeter

variable {ω : Type}

/-! ## Feeds -/

namespace FeedItem

/-- The line that comes, if one does. -/
def line? : FeedItem ω → Option (List Char)
  | .line l => some l
  | .meanwhile _ | .fail _ => none

/-- The world after the item. -/
def world (w : ω) : FeedItem ω → ω
  | .meanwhile f => f w
  | .line _ | .fail _ => w

end FeedItem

/-- The lines of a feed. -/
def feedLines (feed : List (FeedItem ω)) : List (List Char) := feed.filterMap FeedItem.line?

/-- The world after a feed. -/
def feedWorld (w : ω) (feed : List (FeedItem ω)) : ω := feed.foldl FeedItem.world w

theorem feedWorld_cons (w : ω) (item : FeedItem ω) (feed : List (FeedItem ω)) :
    feedWorld w (item :: feed) = feedWorld (item.world w) feed := rfl

/-- What no happening of a feed takes back holds after it. -/
theorem feedWorld_induction {P : ω → Prop} {feed : List (FeedItem ω)} {w : ω} (hw : P w)
    (h : ∀ f, FeedItem.meanwhile f ∈ feed → ∀ v, P v → P (f v)) : P (feedWorld w feed) := by
  induction feed generalizing w with
  | nil => exact hw
  | cons item feed ih =>
    rw [feedWorld_cons]
    refine ih ?_ fun f hf => h f (List.mem_cons_of_mem item hf)
    cases item with
    | line l => exact hw
    | meanwhile f => exact h f List.mem_cons_self w hw
    | fail f => exact hw

namespace LogSource

variable {source : LogSource ω} {job : Int} {p : Log.Progress} {w : ω}

/-! ## What ends a reading -/

/-- The item ends the reading when it comes. -/
def Stops (source : LogSource ω) (w : ω) : FeedItem ω → Prop
  | .line _ => source.stopped w
  | .meanwhile _ => False
  | .fail _ => True

/-- The failure that comes of an item which ends the reading. -/
def failureAt (job : Int) : FeedItem ω → Failure
  | .line _ | .meanwhile _ =>
    logsFailure "Reading the log of job " job " interrupted by shutdown" none
  | .fail f =>
    if f.isRequest then logsFailure "Cannot read the log of job " job "" (some f.kind) else f

/-- No item of the feed ends the reading. -/
def Free (source : LogSource ω) (w : ω) (feed : List (FeedItem ω)) : Prop :=
  ∀ before item after, feed = before ++ item :: after → ¬ source.Stops (feedWorld w before) item

theorem free_nil : source.Free w [] := by
  intro before item after h
  simp at h

theorem free_cons {item : FeedItem ω} {feed : List (FeedItem ω)} :
    source.Free w (item :: feed) ↔ ¬ source.Stops w item ∧ source.Free (item.world w) feed := by
  constructor
  · intro h
    refine ⟨h [] item feed rfl, ?_⟩
    rintro before next after rfl
    exact h (item :: before) next after rfl
  · rintro ⟨hitem, hfeed⟩ before next after heq
    cases before with
    | nil =>
      obtain ⟨rfl, -⟩ := List.cons.inj heq
      exact hitem
    | cons first before =>
      obtain ⟨rfl, hrest⟩ := List.cons.inj heq
      exact hfeed before next after hrest

/-- A feed is free if it holds no failure and no line comes after a stop was requested. -/
theorem free_iff {feed : List (FeedItem ω)} :
    source.Free w feed ↔ (∀ f, FeedItem.fail f ∉ feed) ∧
      ∀ before l after, feed = before ++ .line l :: after →
        source.stopped (feedWorld w before) = false := by
  constructor
  · intro h
    refine ⟨fun f hf => ?_, fun before l after heq => ?_⟩
    · obtain ⟨before, after, heq⟩ := List.append_of_mem hf
      exact h before _ after heq trivial
    · exact Bool.not_eq_true _ ▸ h before _ after heq
  · rintro ⟨hfail, hline⟩ before item after heq hstops
    cases item with
    | line l => exact absurd hstops (by simp [Stops, hline before l after heq])
    | meanwhile f => exact hstops
    | fail f => exact hfail f (by simp [heq])

/-- Either nothing ends the reading, or a first item does. -/
theorem free_or_stops (source : LogSource ω) (w : ω) (feed : List (FeedItem ω)) :
    source.Free w feed ∨ ∃ before item after, feed = before ++ item :: after ∧
      source.Free w before ∧ source.Stops (feedWorld w before) item := by
  induction feed generalizing w with
  | nil => exact .inl free_nil
  | cons item feed ih =>
    by_cases hitem : source.Stops w item
    · exact .inr ⟨[], item, feed, rfl, free_nil, hitem⟩
    · rcases ih (item.world w) with hfree | ⟨before, next, after, rfl, hbefore, hnext⟩
      · exact .inl (free_cons.2 ⟨hitem, hfree⟩)
      · exact .inr ⟨item :: before, next, after, rfl, free_cons.2 ⟨hitem, hbefore⟩, hnext⟩

/-! ## Reading a feed -/

theorem readFeed_line (l : List Char) (feed : List (FeedItem ω)) :
    source.readFeed job p (.line l :: feed) w =
      if source.stopped w then .error (failureAt job (.line l : FeedItem ω)) w
      else source.readFeed job (p.step l) feed w := by
  rw [readFeed]
  show (if source.stopped w then throw _ else source.readFeed job (p.step l) feed :
    EStateM Failure ω Log.Summary) w = _
  split <;> rfl

theorem readFeed_meanwhile (f : ω → ω) (feed : List (FeedItem ω)) :
    source.readFeed job p (.meanwhile f :: feed) w = source.readFeed job p feed (f w) := rfl

theorem readFeed_fail (f : Failure) (feed : List (FeedItem ω)) :
    source.readFeed job p (.fail f :: feed) w =
      .error (failureAt job (.fail f : FeedItem ω)) w := by
  rw [readFeed, failureAt]
  split <;> rfl

/-- A feed in which nothing ends the reading is read to its end. -/
theorem readFeed_of_free {feed : List (FeedItem ω)} (h : source.Free w feed) :
    source.readFeed job p feed w =
      .ok ((feedLines feed).foldl Log.Progress.step p).summary (feedWorld w feed) := by
  induction feed generalizing p w with
  | nil => rfl
  | cons item feed ih =>
    obtain ⟨hitem, hfeed⟩ := free_cons.1 h
    cases item with
    | line l =>
      have hline : ¬ source.stopped w := hitem
      rw [readFeed_line, if_neg hline]
      exact ih hfeed
    | meanwhile f => exact ih hfeed
    | fail f => exact absurd trivial hitem

/-- The first item that ends the reading decides what comes of it. -/
theorem readFeed_of_stops {before after : List (FeedItem ω)} {item : FeedItem ω}
    (hbefore : source.Free w before) (hitem : source.Stops (feedWorld w before) item) :
    source.readFeed job p (before ++ item :: after) w =
      .error (failureAt job item) (feedWorld w before) := by
  induction before generalizing p w with
  | nil =>
    cases item with
    | line l => exact (readFeed_line l after).trans (if_pos hitem)
    | meanwhile f => exact hitem.elim
    | fail f => exact readFeed_fail f after
  | cons first before ih =>
    obtain ⟨hfirst, hbefore⟩ := free_cons.1 hbefore
    cases first with
    | line l =>
      have hline : ¬ source.stopped w := hfirst
      rw [List.cons_append, readFeed_line, if_neg hline]
      exact ih hbefore hitem
    | meanwhile f => exact ih hbefore hitem
    | fail f => exact absurd trivial hfirst

theorem readFeed_eq_ok {feed : List (FeedItem ω)} {s : Log.Summary} {w' : ω} :
    source.readFeed job {} feed w = .ok s w' ↔
      source.Free w feed ∧ s = Log.summarize (feedLines feed) ∧ w' = feedWorld w feed := by
  constructor
  · intro h
    rcases free_or_stops source w feed with hfree | ⟨before, item, after, rfl, hbefore, hitem⟩
    · rw [readFeed_of_free hfree] at h
      injection h with hs hw
      exact ⟨hfree, hs.symm, hw.symm⟩
    · rw [readFeed_of_stops hbefore hitem] at h
      cases h
  · rintro ⟨hfree, rfl, rfl⟩
    exact readFeed_of_free hfree

/-- A line that comes after a stop was requested, or a failed request, leaves no log. -/
theorem readFeed_no_log {before after : List (FeedItem ω)} {item : FeedItem ω}
    (hbefore : ∀ f, FeedItem.fail f ∉ before) (hitem : source.Stops (feedWorld w before) item)
    (hkind : (failureAt job item).kind = .jobLogs) :
    ∃ f w', source.readFeed job p (before ++ item :: after) w = .error f w' ∧
      f.kind = .jobLogs := by
  rcases free_or_stops source w before with hfree | ⟨before', first, between, rfl, hfree, hfirst⟩
  · exact ⟨_, _, readFeed_of_stops hfree hitem, hkind⟩
  · rw [List.append_assoc, List.cons_append]
    refine ⟨_, _, readFeed_of_stops hfree hfirst, ?_⟩
    -- what came before is no failure, so it was a line
    cases first with
    | line l => rfl
    | meanwhile f => exact hfirst.elim
    | fail f => exact absurd (by simp) (hbefore f)

/-! ## Fetching a log -/

/-- What comes of an open log, read in the charset that it says. -/
def feedOf (stream : LogStream ω) : List (FeedItem ω) :=
  stream.feed (stream.charset.getD defaultCharset)

/-- After a log was opened, the fetching is the reading of it. -/
theorem fetch_of_open {job : JobIdentity} {stream : LogStream ω} {w₁ : ω}
    (h : source.openLog job w = .ok stream w₁) :
    source.fetch job w =
      ending (source.readFeed job.job {} (feedOf stream)) source.release w₁ :=
  bind_of_eq_ok h _

theorem ending_eq_ok {α : Type} {act : EStateM Failure ω α} {last : ω → ω} {a : α} {w' : ω} :
    ending act last w = .ok a w' ↔ ∃ v, act w = .ok a v ∧ w' = last v := by
  rw [ending]
  cases act w with
  | error f v => simp
  | ok b v =>
    constructor
    · intro h
      injection h with ha hw
      exact ⟨v, by rw [ha], hw.symm⟩
    · rintro ⟨u, hu, rfl⟩
      injection hu with ha hv
      rw [ha, hv]

theorem ending_of_error {α : Type} {act : EStateM Failure ω α} {f : Failure} {v : ω}
    (h : act w = .error f v) (last : ω → ω) : ending act last w = .error f (last v) := by
  rw [ending, h]

theorem exists_open_of_fetch_eq_ok {job : JobIdentity} {s : Log.Summary} {w' : ω}
    (h : source.fetch job w = .ok s w') : ∃ stream w₁, source.openLog job w = .ok stream w₁ :=
  have ⟨stream, w₁, hopen, _⟩ := exists_of_bind_eq_ok h
  ⟨stream, w₁, hopen⟩

/-- If an item ends the reading of an open log, then the fetching fails. -/
theorem exists_error_of_not_free {job : JobIdentity} {stream : LogStream ω} {w₁ : ω}
    (hopen : source.openLog job w = .ok stream w₁) (h : ¬ source.Free w₁ (feedOf stream)) :
    ∃ f w', source.fetch job w = .error f w' := by
  rw [fetch_of_open hopen]
  cases hread : source.readFeed job.job {} (feedOf stream) w₁ with
  | ok s v => exact absurd (readFeed_eq_ok.1 hread).1 h
  | error f v => exact ⟨f, _, ending_of_error hread _⟩

end LogSource

/-- **There is no summary of a part of a log.**  Let the log of a job come from any source, line by
line, while a stop may be requested at any time and the source may fail at any place.

* A fetch gives a summary exactly if the log was opened and read to its end, without a failure and
  without a line that came after a stop was requested.  Then it is the summary of all lines, and all
  that happened while they came has happened.
* If a request fails while the lines come, or a line comes after a stop was requested, then the
  fetch fails because there is no log. -/
theorem fetch_whole_log (source : LogSource ω) (job : JobIdentity) (w : ω) :
    (∀ s w', source.fetch job w = .ok s w' ↔
      ∃ stream w₁, source.openLog job w = .ok stream w₁ ∧
        let feed := stream.feed (stream.charset.getD LogSource.defaultCharset)
        (∀ f, FeedItem.fail f ∉ feed) ∧
        (∀ before l after, feed = before ++ .line l :: after →
          source.stopped (feedWorld w₁ before) = false) ∧
        s = Log.summarize (feedLines feed) ∧ w' = source.release (feedWorld w₁ feed)) ∧
    ∀ stream w₁, source.openLog job w = .ok stream w₁ → ∀ before item after,
      stream.feed (stream.charset.getD LogSource.defaultCharset) = before ++ item :: after →
      (∀ f, FeedItem.fail f ∉ before) →
      ((∃ l, item = .line l ∧ source.stopped (feedWorld w₁ before)) ∨
        ∃ f, item = .fail f ∧ f.isRequest) →
      ∃ f w', source.fetch job w = .error f w' ∧ f.kind = .jobLogs := by
  constructor
  · intro s w'
    constructor
    · intro h
      obtain ⟨stream, w₁, hopen⟩ := LogSource.exists_open_of_fetch_eq_ok h
      rw [LogSource.fetch_of_open hopen, LogSource.ending_eq_ok] at h
      obtain ⟨v, hread, rfl⟩ := h
      obtain ⟨hfree, hs, rfl⟩ := LogSource.readFeed_eq_ok.1 hread
      obtain ⟨hfail, hline⟩ := LogSource.free_iff.1 hfree
      exact ⟨stream, w₁, hopen, hfail, hline, hs, rfl⟩
    · rintro ⟨stream, w₁, hopen, hfail, hline, hs, rfl⟩
      rw [LogSource.fetch_of_open hopen, LogSource.ending_eq_ok]
      exact ⟨_, LogSource.readFeed_eq_ok.2 ⟨LogSource.free_iff.2 ⟨hfail, hline⟩, hs, rfl⟩, rfl⟩
  · intro stream w₁ hopen before item after hfeed hbefore hitem
    have hread : ∃ f v, source.readFeed job.job {} (LogSource.feedOf stream) w₁ = .error f v ∧
        f.kind = .jobLogs := by
      rw [LogSource.feedOf, hfeed]
      rcases hitem with ⟨l, rfl, hstopped⟩ | ⟨f, rfl, hrequest⟩
      · exact LogSource.readFeed_no_log hbefore hstopped rfl
      · refine LogSource.readFeed_no_log hbefore trivial ?_
        rw [LogSource.failureAt, if_pos hrequest]
        rfl
    obtain ⟨f, v, hf, hkind⟩ := hread
    rw [LogSource.fetch_of_open hopen]
    exact ⟨f, _, LogSource.ending_of_error hf _, hkind⟩

/-- A stop is requested between two lines.  A reading that listens to it finds no log, and one that
does not gives the summary of both lines. -/
theorem fetch_whole_log_interrupted :
    let first := "2024-05-01T10:00:00.0000000Z Waiting for a runner to pick up this job...".toList
    let second :=
      "2024-05-01T10:00:12.5000000Z Job is about to start running on the runner: r".toList
    let stream : LogStream Bool :=
      ⟨none, fun _ => [.line first, .meanwhile fun _ => true, .line second]⟩
    let source : LogSource Bool := ⟨fun _ => pure [], fun _ => pure stream, id, id⟩
    let deaf : LogSource Bool := { source with stopped := fun _ => false }
    let job : JobIdentity := ⟨text "owner", text "repo", 42⟩
    (∃ f w', source.fetch job false = .error f w' ∧ f.kind = .jobLogs) ∧
      deaf.fetch job false = .ok (Log.summarize [first, second]) true ∧
      (Log.summarize [first, second]).queueTime = 12500000 := by
  intro first second stream source deaf job
  refine ⟨?_, ?_, by decide +kernel⟩
  · exact (fetch_whole_log source job false).2 stream false rfl
      [.line first, .meanwhile fun _ => true] (.line second) [] rfl (by simp)
      (.inl ⟨second, rfl, rfl⟩)
  · exact ((fetch_whole_log deaf job false).1 _ _).2
      ⟨stream, false, rfl, by simp [stream], fun _ _ _ _ => rfl, rfl, rfl⟩

end JobMeter
