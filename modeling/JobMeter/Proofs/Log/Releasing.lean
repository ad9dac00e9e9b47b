import JobMeter.Proofs.Log.Reading

/-!
# An open log is released

Fetching a log calls upon its source: to ask where the log is, to open it, for one line after the
other, and to close it.  To say in which order this happens, the source notes its calls.

* `LogCall`, `Noted ω` — a call, and a world with the calls that were noted in it.
* `LogSource.noting` — the source that notes its calls.  A call for a line is noted when it is
  answered: by a line, by a failure, or by the end of the log.
* `LogSource.fetch_noting` — **noting changes nothing**: the fetch comes to the same, and notes
  `LogSource.calls`.
* `LogSource.readCalls_eq` — a reading is some lines, and one answer that ends it.
* `log_released` — **a log that was opened is closed once**, and no line is asked for too early or
  too late.
-/

namespace JobMeter

variable {ω : Type}

/-- A call upon a source of logs. -/
inductive LogCall where
  /-- Where the log of a job is. -/
  | asked (job : JobIdentity)
  /-- To open the log. -/
  | opened (url : Text)
  /-- For lines in a charset. -/
  | settled (charset : Text)
  /-- For the next line, which comes, while a stop is requested or not. -/
  | line (stopping : Bool)
  /-- For the next line, which cannot be read. -/
  | failed
  /-- For the next line, of which there is none. -/
  | ended
  /-- To close the log. -/
  | closed
  deriving DecidableEq

namespace LogCall

/-- Is it a call for a line? -/
def isRead : LogCall → Bool
  | line _ | failed | ended => true
  | asked _ | opened _ | settled _ | closed => false

/-- Is it a call for a line whose answer ends the reading: the line comes while a stop is requested,
it cannot be read, or there is none? -/
def endsReading : LogCall → Bool
  | line stopping => stopping
  | failed | ended => true
  | asked _ | opened _ | settled _ | closed => false

/-- Is it a call for the place of a log? -/
def isAsked : LogCall → Bool
  | asked _ => true
  | opened _ | settled _ | line _ | failed | ended | closed => false

/-- Is it a call to open a log? -/
def isOpened : LogCall → Bool
  | opened _ => true
  | asked _ | settled _ | line _ | failed | ended | closed => false

/-- No line is asked for after a call that ends the reading, or that closes the log. -/
def Final (c d : LogCall) : Prop := c = closed ∨ c.endsReading = true → d.isRead = false

/-- The charset is not settled after a call for a line. -/
def Timely (c d : LogCall) : Prop := c.isRead = true → ∀ charset, d ≠ settled charset

end LogCall

/-- A world, and the calls that were noted in it, the first one first. -/
structure Noted (ω : Type) where
  world : ω
  calls : List LogCall

/-- Notes a call. -/
def Noted.note (c : LogCall) (x : Noted ω) : Noted ω := { x with calls := x.calls ++ [c] }

/-- Something happens in the world. -/
def Noted.on (f : ω → ω) (x : Noted ω) : Noted ω := { x with world := f x.world }

/-- What an action comes to, in a world with calls. -/
def withCalls {α : Type} (cs : List LogCall) :
    EStateM.Result Failure ω α → EStateM.Result Failure (Noted ω) α
  | .ok a w => .ok a ⟨w, cs⟩
  | .error f w => .error f ⟨w, cs⟩

/-- An action that notes a call first. -/
def noting {α : Type} (c : LogCall) (act : EStateM Failure ω α) : EStateM Failure (Noted ω) α :=
  fun x => withCalls (x.calls ++ [c]) (act x.world)

namespace LogSource

/-! ## Sources that note their calls -/

/-- An item of a feed, with the call that it answers. -/
def notingItem (source : LogSource ω) : FeedItem ω → List (FeedItem (Noted ω))
  | .line l => [.meanwhile fun x => x.note (.line (source.stopped x.world)), .line l]
  | .meanwhile f => [.meanwhile (Noted.on f)]
  | .fail f => [.meanwhile (Noted.note .failed), .fail f]

/-- A feed that notes the calls for its lines. -/
def notingFeed (source : LogSource ω) (feed : List (FeedItem ω)) : List (FeedItem (Noted ω)) :=
  feed.flatMap source.notingItem ++ [.meanwhile (Noted.note .ended)]

/-- An open log that notes the calls upon it. -/
def notingStream (source : LogSource ω) (stream : LogStream ω) : LogStream (Noted ω) where
  charset := stream.charset
  feed charset :=
    .meanwhile (Noted.note (.settled charset)) :: source.notingFeed (stream.feed charset)

/-- The source, which notes the calls upon it. -/
def noting (source : LogSource ω) : LogSource (Noted ω) where
  locate job := JobMeter.noting (.asked job) (source.locate job)
  retrieve url := source.notingStream <$> JobMeter.noting (.opened url) (source.retrieve url)
  release x := (x.on source.release).note .closed
  stopped x := source.stopped x.world

/-! ## The calls of a fetch -/

/-- The calls for lines in the reading of a feed. -/
def readCalls (source : LogSource ω) (w : ω) : List (FeedItem ω) → List LogCall
  | [] => [.ended]
  | .line _ :: rest =>
    if source.stopped w then [.line true] else .line false :: readCalls source w rest
  | .meanwhile f :: rest => readCalls source (f w) rest
  | .fail _ :: _ => [.failed]

/-- The calls to find and open the log of a job. -/
def openCalls (source : LogSource ω) (job : JobIdentity) (w : ω) : List LogCall :=
  match source.locate job w with
  | .ok url _ => [.asked job, .opened url]
  | .error _ _ => [.asked job]

/-- The calls of the fetch of a log. -/
def calls (source : LogSource ω) (job : JobIdentity) (w : ω) : List LogCall :=
  source.openCalls job w ++
    match source.openLog job w with
    | .ok stream w' =>
      let charset := stream.charset.getD defaultCharset
      .settled charset :: source.readCalls w' (stream.feed charset) ++ [.closed]
    | .error _ _ => []

variable {source : LogSource ω} {job : JobIdentity} {w : ω} {cs : List LogCall}

/-- The calls for lines are noted, and the reading comes to the same. -/
theorem readFeed_notingFeed (id : Int) (p : Log.Progress) (feed : List (FeedItem ω)) :
    source.noting.readFeed id p (source.notingFeed feed) ⟨w, cs⟩ =
      withCalls (cs ++ source.readCalls w feed) (source.readFeed id p feed w) := by
  induction feed generalizing p w cs with
  | nil => rfl
  | cons item feed ih =>
    cases item with
    | line l =>
      have hnoted : source.noting.readFeed id p (source.notingFeed (.line l :: feed)) ⟨w, cs⟩ =
          source.noting.readFeed id p (.line l :: source.notingFeed feed)
            ⟨w, cs ++ [.line (source.stopped w)]⟩ := rfl
      have hstopped (cs : List LogCall) : source.noting.stopped ⟨w, cs⟩ = source.stopped w := rfl
      rw [hnoted, readFeed_line, readFeed_line, hstopped, readCalls]
      by_cases hstops : source.stopped w = true
      · rw [if_pos hstops, if_pos hstops, if_pos hstops, hstops]
        rfl
      · rw [if_neg hstops, if_neg hstops, if_neg hstops, ih, Bool.eq_false_iff.2 hstops,
          ← List.append_cons]
    | meanwhile f => exact ih p
    | fail f =>
      have hnoted : source.noting.readFeed id p (source.notingFeed (.fail f :: feed)) ⟨w, cs⟩ =
          source.noting.readFeed id p (.fail f :: source.notingFeed feed)
            ⟨w, cs ++ [.failed]⟩ := rfl
      rw [hnoted, readFeed_fail, readFeed_fail, readCalls]
      rfl

/-- The failure to find or open a log, and what it is reported as. -/
def openFailure (job : JobIdentity) (f : Failure) : Failure :=
  if f.isPlatform then logsFailure "Cannot retrieve the log of job " job.job "" (some f.kind) else f

theorem openLog_eq (source : LogSource ω) (job : JobIdentity) (w : ω) :
    source.openLog job w =
      match source.locate job w with
      | .error f w₁ => .error (openFailure job f) w₁
      | .ok url w₁ =>
        match source.retrieve url w₁ with
        | .error f w₂ => .error (openFailure job f) w₂
        | .ok stream w₂ => .ok stream w₂ := by
  have hhandle (f : Failure) (v : ω) : (if f.isPlatform then
      throw (logsFailure "Cannot retrieve the log of job " job.job "" (some f.kind)) else throw f :
        EStateM Failure ω (LogStream ω)) v = .error (openFailure job f) v := by
    rw [openFailure]
    split <;> rfl
  unfold openLog
  cases hlocate : source.locate job w with
  | error f w₁ => exact (tryCatch_of_eq_error (bind_of_eq_error hlocate _) _).trans (hhandle f w₁)
  | ok url w₁ =>
    have hbind := bind_of_eq_ok hlocate source.retrieve
    dsimp only
    cases hretrieve : source.retrieve url w₁ with
    | error f w₂ => exact (tryCatch_of_eq_error (hbind.trans hretrieve) _).trans (hhandle f w₂)
    | ok stream w₂ => exact tryCatch_of_eq_ok (hbind.trans hretrieve) _

/-- A log was opened exactly if its place was found and the log was retrieved from there. -/
theorem openLog_eq_ok {stream : LogStream ω} {w₂ : ω} :
    source.openLog job w = .ok stream w₂ ↔
      ∃ url w₁, source.locate job w = .ok url w₁ ∧ source.retrieve url w₁ = .ok stream w₂ := by
  rw [openLog_eq]
  constructor
  · intro h
    cases hlocate : source.locate job w with
    | error f w₁ =>
      rw [hlocate] at h
      cases h
    | ok url w₁ =>
      rw [hlocate] at h
      dsimp only at h
      cases hretrieve : source.retrieve url w₁ with
      | error f w₂ =>
        rw [hretrieve] at h
        cases h
      | ok stream w₂ =>
        rw [hretrieve] at h
        cases h
        exact ⟨url, w₁, rfl, hretrieve⟩
  · rintro ⟨url, w₁, hlocate, hretrieve⟩
    rw [hlocate]
    dsimp only
    rw [hretrieve]

/-- The calls to find and open a log are noted. -/
theorem openLog_noting :
    source.noting.openLog job ⟨w, cs⟩ =
      match source.openLog job w with
      | .ok stream w' => .ok (source.notingStream stream) ⟨w', cs ++ source.openCalls job w⟩
      | .error f w' => .error f ⟨w', cs ++ source.openCalls job w⟩ := by
  rw [openLog_eq, openLog_eq, openCalls]
  have hlocate : source.noting.locate job ⟨w, cs⟩ =
      withCalls (cs ++ [.asked job]) (source.locate job w) := rfl
  rw [hlocate]
  cases source.locate job w with
  | error f w₁ => rfl
  | ok url w₁ =>
    have hretrieve : source.noting.retrieve url ⟨w₁, cs ++ [.asked job]⟩ =
        match source.retrieve url w₁ with
        | .ok stream w₂ => .ok (source.notingStream stream) ⟨w₂, cs ++ [.asked job, .opened url]⟩
        | .error f w₂ => .error f ⟨w₂, cs ++ [.asked job, .opened url]⟩ := by
      show EStateM.map _ _ _ = _
      unfold EStateM.map JobMeter.noting
      dsimp only
      cases source.retrieve url w₁ <;> simp [withCalls]
    dsimp only [withCalls]
    rw [hretrieve]
    cases source.retrieve url w₁ <;> rfl

/-- **Noting changes nothing**: the fetch comes to the same. -/
theorem fetch_noting :
    source.noting.fetch job ⟨w, cs⟩ =
      withCalls (cs ++ source.calls job w) (source.fetch job w) := by
  cases hopen : source.openLog job w with
  | error f w₁ =>
    have hnoting : source.noting.openLog job ⟨w, cs⟩ =
        .error f ⟨w₁, cs ++ source.openCalls job w⟩ := by rw [openLog_noting, hopen]
    have hfetch : source.fetch job w = .error f w₁ := bind_of_eq_error hopen _
    rw [calls, hopen, List.append_nil, hfetch]
    exact bind_of_eq_error hnoting _
  | ok stream w₁ =>
    have hnoting : source.noting.openLog job ⟨w, cs⟩ =
        .ok (source.notingStream stream) ⟨w₁, cs ++ source.openCalls job w⟩ := by
      rw [openLog_noting, hopen]
    let charset := stream.charset.getD defaultCharset
    let noted := cs ++ source.openCalls job w ++ [.settled charset] ++
      source.readCalls w₁ (feedOf stream)
    have hread : source.noting.readFeed job.job {} (feedOf (source.notingStream stream))
        ⟨w₁, cs ++ source.openCalls job w⟩ =
          withCalls noted (source.readFeed job.job {} (feedOf stream) w₁) :=
      readFeed_notingFeed job.job {} (feedOf stream)
    have hcalls : cs ++ source.calls job w = noted ++ [.closed] := by
      simp [noted, calls, hopen, charset, feedOf]
    rw [hcalls, fetch_of_open hopen, fetch_of_open hnoting, ending, ending, hread]
    cases source.readFeed job.job {} (feedOf stream) w₁ <;> rfl

/-! ## The order of the calls -/

/-- **A reading is some lines, and one answer that ends it.** -/
theorem readCalls_eq (source : LogSource ω) (w : ω) (feed : List (FeedItem ω)) :
    ∃ n last, source.readCalls w feed = List.replicate n (.line false) ++ [last] ∧
      last.endsReading = true := by
  induction feed generalizing w with
  | nil => exact ⟨0, .ended, rfl, rfl⟩
  | cons item feed ih =>
    cases item with
    | line l =>
      rw [readCalls]
      split
      · exact ⟨0, .line true, rfl, rfl⟩
      · obtain ⟨n, last, hcalls, hlast⟩ := ih w
        exact ⟨n + 1, last, by rw [hcalls, List.replicate_succ, List.cons_append], hlast⟩
    | meanwhile f => exact ih (f w)
    | fail f => exact ⟨0, .failed, rfl, rfl⟩

/-- The calls of a fetch that opened the log. -/
theorem calls_of_open {url : Text} {w₁ w₂ : ω} {stream : LogStream ω}
    (hlocate : source.locate job w = .ok url w₁)
    (hretrieve : source.retrieve url w₁ = .ok stream w₂) :
    ∃ n last, last.endsReading = true ∧
      source.calls job w =
        [.asked job, .opened url, .settled (stream.charset.getD defaultCharset)] ++
          (List.replicate n (.line false) ++ [last, .closed]) := by
  obtain ⟨n, last, hcalls, hlast⟩ := source.readCalls_eq w₂ (feedOf stream)
  refine ⟨n, last, hlast, ?_⟩
  rw [feedOf] at hcalls
  rw [calls, openLog_eq_ok.2 ⟨url, w₁, hlocate, hretrieve⟩, openCalls, hlocate]
  simp [hcalls]

/-- The calls of a fetch that did not open the log. -/
theorem calls_of_not_open
    (h : ¬ ∃ url w₁ stream w₂, source.locate job w = .ok url w₁ ∧
      source.retrieve url w₁ = .ok stream w₂) :
    source.calls job w = source.openCalls job w := by
  rw [calls]
  cases hopen : source.openLog job w with
  | error f w₁ => exact List.append_nil _
  | ok stream w₂ =>
    obtain ⟨url, w₁, hlocate, hretrieve⟩ := openLog_eq_ok.1 hopen
    exact absurd ⟨url, w₁, stream, w₂, hlocate, hretrieve⟩ h

/-- The calls of a fetch are in order. -/
theorem pairwise_calls (source : LogSource ω) (job : JobIdentity) (w : ω) :
    (source.calls job w).Pairwise LogCall.Final ∧ (source.calls job w).Pairwise LogCall.Timely := by
  by_cases h : ∃ url w₁ stream w₂, source.locate job w = .ok url w₁ ∧
      source.retrieve url w₁ = .ok stream w₂
  · obtain ⟨url, w₁, stream, w₂, hlocate, hretrieve⟩ := h
    obtain ⟨n, last, hlast, hcalls⟩ := calls_of_open hlocate hretrieve
    have hsettled : ∀ charset, last ≠ .settled charset := by
      rintro charset rfl
      cases hlast
    rw [hcalls]
    constructor
    · simp [List.pairwise_append, List.pairwise_replicate, LogCall.Final, LogCall.endsReading,
        LogCall.isRead]
    · simp [List.pairwise_append, List.pairwise_replicate, LogCall.Timely, LogCall.isRead, hsettled]
  · rw [calls_of_not_open h, openCalls]
    split <;> simp [LogCall.Final, LogCall.Timely, LogCall.endsReading, LogCall.isRead]

/-- A log is looked for once at most, and opened once at most. -/
theorem count_calls (source : LogSource ω) (job : JobIdentity) (w : ω) :
    (source.calls job w).countP LogCall.isAsked ≤ 1 ∧
      (source.calls job w).countP LogCall.isOpened ≤ 1 := by
  by_cases h : ∃ url w₁ stream w₂, source.locate job w = .ok url w₁ ∧
      source.retrieve url w₁ = .ok stream w₂
  · obtain ⟨url, w₁, stream, w₂, hlocate, hretrieve⟩ := h
    obtain ⟨n, last, hlast, hcalls⟩ := calls_of_open hlocate hretrieve
    rw [hcalls]
    cases last with
    | asked _ | opened _ | settled _ | closed => cases hlast
    | line _ | failed | ended =>
      simp [List.countP_cons, List.countP_append, List.countP_replicate, LogCall.isAsked,
        LogCall.isOpened]
  · rw [calls_of_not_open h, openCalls]
    split <;> simp [List.countP_cons, LogCall.isAsked, LogCall.isOpened]

end LogSource

/-- **An open log is released.**  Let the place of a log be found or not, let the log be opened or
not, and let anything come of it, line by line, while a stop may be requested at any time: any
number of lines, and any failure at any place.

* Noting the calls upon the source changes nothing: the fetch comes to the same.
* The place of the log is asked for once at most, and the log is opened once at most.
* If the log was opened, then it is closed exactly once, and lines are asked for only after their
  charset was settled, as the one that the platform gives or else the usual one.
* If it was not opened, then nothing is closed and no line is asked for.
* No line is asked for after the log was closed, after a line could not be read, after a line that
  came while a stop was requested, or after the end of the log. -/
theorem log_released (source : LogSource ω) (job : JobIdentity) (w : ω) :
    let calls := source.calls job w
    source.noting.fetch job ⟨w, []⟩ = withCalls calls (source.fetch job w) ∧
    calls.countP LogCall.isAsked ≤ 1 ∧ calls.countP LogCall.isOpened ≤ 1 ∧
    (∀ url w₁ stream w₂, source.locate job w = .ok url w₁ →
      source.retrieve url w₁ = .ok stream w₂ →
        calls.count .closed = 1 ∧
        ∀ before c after, calls = before ++ c :: after → c.isRead = true →
          .settled (stream.charset.getD LogSource.defaultCharset) ∈ before) ∧
    ((¬ ∃ url w₁ stream w₂, source.locate job w = .ok url w₁ ∧
      source.retrieve url w₁ = .ok stream w₂) →
        .closed ∉ calls ∧ ∀ c ∈ calls, c.isRead = false) ∧
    ∀ before c after, calls = before ++ c :: after → c = .closed ∨ c.endsReading = true →
      ∀ d ∈ after, d.isRead = false := by
  intro calls
  obtain ⟨hfinal, htimely⟩ := source.pairwise_calls job w
  -- what comes after a call, in words of pairs of calls
  have hafter {R : LogCall → LogCall → Prop} (h : calls.Pairwise R) {before after : List LogCall}
      {c : LogCall} (heq : calls = before ++ c :: after) : ∀ d ∈ after, R c d := by
    rw [heq] at h
    exact (List.pairwise_cons.1 (List.pairwise_append.1 h).2.1).1
  refine ⟨LogSource.fetch_noting, (source.count_calls job w).1, (source.count_calls job w).2,
    ?_, ?_, ?_⟩
  · intro url w₁ stream w₂ hlocate hretrieve
    obtain ⟨n, last, hlast, hcalls⟩ := LogSource.calls_of_open hlocate hretrieve
    have hclosed : last ≠ .closed := by
      rintro rfl
      cases hlast
    refine ⟨?_, fun before c after heq hc => ?_⟩
    · show (source.calls job w).count .closed = 1
      rw [hcalls]
      simp [List.count_replicate, hclosed]
    · have hsettled : .settled (stream.charset.getD LogSource.defaultCharset) ∈ calls := by
        show _ ∈ source.calls job w
        simp [hcalls]
      rw [heq, List.mem_append, List.mem_cons] at hsettled
      rcases hsettled with hbefore | hself | hlater
      · exact hbefore
      · rw [← hself] at hc
        cases hc
      · exact absurd rfl (hafter htimely heq _ hlater hc _)
  · intro h
    have hcalls : calls = source.openCalls job w := LogSource.calls_of_not_open h
    rw [hcalls, LogSource.openCalls]
    split <;> simp [LogCall.isRead]
  · exact fun before c after heq hc d hd => hafter hfinal heq d hd hc

/-- A log of three lines of which the second comes while a stop is requested: the third is not asked
for, and the log is closed. -/
theorem log_released_interrupted :
    let url : Text := text "https://logs"
    let stream : LogStream Bool :=
      ⟨none, fun _ => [.line ['a'], .meanwhile fun _ => true, .line ['b'], .line ['c']]⟩
    let source : LogSource Bool :=
      { locate := fun _ => pure url, retrieve := fun _ => pure stream, release := id,
        stopped := id }
    let job : JobIdentity := ⟨text "owner", text "repo", 1⟩
    source.calls job false =
        [.asked job, .opened url, .settled LogSource.defaultCharset, .line false, .line true,
          .closed] ∧
      (source.calls job false).count .closed = 1 := by
  intro url stream source job
  obtain ⟨-, -, -, hopen, -⟩ := log_released source job false
  exact ⟨rfl, (hopen url false stream false rfl rfl).1⟩

end JobMeter
