import JobMeter.Proofs.Log.Reading
import JobMeter.Proofs.Platform.Fetching
import JobMeter.Proofs.Text.Carrying

/-!
# The reply that a log is read from

The place of a log may redirect to another one, and that to a third.  A log is read from the reply
at the end of these redirections, provided that its status reports no error.

* `Http.Reply.Redirects` — the reply leads on: it has one of the statuses that redirect, and a
  location.
* `Http.Trail` — the exchanges from a request to a reply that leads no further.
* `Http.sendFollowing_eq_ok` — redirections are followed to the end of the trail, unless it is too
  long.
* `Platform.Client.Downloads` — the trail from the place of a log.
* `fetch_status` — **which replies are read**: the last one of the trail, unless its status is from
  400 to 599; then there is no log.  Other statuses than those of success are read as well
  (`fetch_status_multipleChoices`).
-/

namespace JobMeter

variable {ω : Type}

/-! ## Empty locations -/

namespace Text.Utf8

theorem begin_ne_nil (surrogates : Bool) (b : UInt8) :
    (begin surrogates b).1 ≠ [] ∨ (begin surrogates b).2 ≠ none := by
  unfold begin
  cases lead surrogates b <;> simp

theorem step_ne_nil (surrogates : Bool) (state : Option Sequence) (b : UInt8) :
    (step surrogates state b).1 ≠ [] ∨ (step surrogates state b).2 ≠ none := by
  cases state with
  | none => exact begin_ne_nil surrogates b
  | some s =>
    simp only [step]
    split
    · split <;> simp
    · simp

/-- Once something was read, there is something to show for it. -/
theorem run_ne_nil (surrogates : Bool) (bytes : List UInt8) {out : List (Option CodePoint)}
    {state : Option Sequence} (h : out ≠ [] ∨ state ≠ none) :
    (run surrogates out state bytes).1 ≠ [] ∨ (run surrogates out state bytes).2 ≠ none := by
  induction bytes generalizing out state with
  | nil => simpa [run] using h
  | cons b bytes ih =>
    rw [run_cons]
    apply ih
    rcases step_ne_nil surrogates state b with hnew | hstate
    · left
      simp only [ne_eq, List.append_eq_nil_iff, List.reverse_eq_nil_iff, hnew, false_and,
        not_false_eq_true]
    · exact .inr hstate

/-- Only of no bytes the text is empty. -/
theorem eq_nil_of_decode? {surrogates : Bool} {bytes : List UInt8}
    (h : decode? surrogates bytes = some []) : bytes = [] := by
  cases bytes with
  | nil => rfl
  | cons b bytes =>
    have hrun : (run surrogates [] none (b :: bytes)).1 ≠ [] ∨
        (run surrogates [] none (b :: bytes)).2 ≠ none := by
      rw [run_cons, List.append_nil]
      apply run_ne_nil
      simpa only [ne_eq, List.reverse_eq_nil_iff] using step_ne_nil surrogates none b
    rw [decode?] at h
    split at h
    · rename_i out heq
      rw [heq] at hrun
      rcases hrun with hout | hstate
      · cases out with
        | nil => exact absurd rfl hout
        | cons p? out => simp [List.mapM_cons, Option.bind_eq_some_iff] at h
      · exact absurd rfl hstate
    · cases h

end Text.Utf8

namespace Http

/-! ## Redirections -/

theorem lifted_eq_ok {α : Type} {e : Except Failure α} {w w' : ω} {a : α} :
    (lifted e : EStateM Failure ω α) w = .ok a w' ↔ e = .ok a ∧ w' = w := by
  cases e with
  | error f =>
    constructor
    · intro h
      cases h
    · rintro ⟨h, -⟩
      cases h
  | ok b =>
    constructor
    · intro h
      injection h with ha hw
      exact ⟨by rw [ha], hw.symm⟩
    · rintro ⟨hb, rfl⟩
      injection hb with hb
      rw [hb]
      rfl

/-- The reply leads on to another place: its status redirects, and it has a location. -/
def Reply.Redirects (r : Reply ω) : Prop :=
  r.status ∈ redirections ∧ ∃ location, r.header? "location" = some location ∧ location ≠ []

theorem Reply.redirects_iff {r : Reply ω} {location? : Option Text}
    (h : r.redirection? = .ok location?) : r.Redirects ↔ location?.isSome := by
  unfold redirection? at h
  unfold Redirects
  cases hlocation : r.header? "location" with
  | none =>
    simp only [hlocation] at h
    injection h with h
    simp [← h]
  | some location =>
    simp only [hlocation, List.contains_eq_mem, Bool.not_eq_eq_eq_not, Bool.not_true,
      decide_eq_false_iff_not] at h
    split at h
    · rename_i hstatus
      injection h with h
      simp [← h, hstatus]
    · rename_i hother
      have hstatus : r.status ∈ redirections := Decidable.not_not.1 hother
      split at h
      · cases h
      · split at h
        · cases h
        · rename_i hdecode
          have hempty : location = [] := by simpa using Text.Utf8.eq_nil_of_decode? hdecode
          injection h with h
          simp [← h, hempty]
        · rename_i t hsome hdecode
          have hlocation : location ≠ [] := by
            rintro rfl
            injection hdecode with ht
            exact hsome ht.symm
          injection h with h
          simp [← h, hstatus, hlocation]

/-- What a reply leads on to decides whether there is a next request. -/
theorem Exchange.redirects_iff {e : Exchange ω} {fragment : Text} {w w' : ω}
    {next? : Option (Request × Text)} (h : e.next? fragment w = .ok next? w') :
    e.reply.Redirects ↔ next?.isSome := by
  obtain ⟨location?, v, hlifted, hrest⟩ := exists_of_bind_eq_ok h
  rw [Reply.redirects_iff (lifted_eq_ok.1 hlifted).1]
  cases location? with
  | none =>
    injection hrest with hnext
    simp [← hnext]
  | some location =>
    obtain ⟨k?, u, -, hrest⟩ := exists_of_bind_eq_ok hrest
    have hsome : ∀ {u}, (lifted (redirected e.request.url fragment location) >>= fun p => do
        return some (← lifted (e.request.redirect p.1), p.2) :
          EStateM Failure ω (Option (Request × Text))) u = .ok next? w' → next?.isSome := by
      intro u hu
      obtain ⟨p, s, -, hu⟩ := exists_of_bind_eq_ok hu
      obtain ⟨r, s', -, hu⟩ := exists_of_bind_eq_ok hu
      injection hu with hnext
      rw [← hnext]
      rfl
    simp only [Option.isSome_some, true_iff]
    split at hrest
    · exact hsome hrest
    · exact hsome hrest
    · exact hsome hrest
    · cases hrest

/-- The exchanges from a request to a reply that leads no further: `via` are those that lead on,
and `last` is the last one. -/
inductive Trail (transport : Transport ω) :
    Text → Request → ω → List (Exchange ω) → Exchange ω → ω → Prop where
  | last {fragment : Text} {r : Request} {w v w' : ω} {last : Exchange ω}
      (hsend : send transport r w = .ok last v) (hnext : last.next? fragment v = .ok none w') :
      Trail transport fragment r w [] last w'
  | next {fragment fragment' : Text} {r r' : Request} {w v u w' : ω} {e last : Exchange ω}
      {via : List (Exchange ω)} (hsend : send transport r w = .ok e v)
      (hnext : e.next? fragment v = .ok (some (r', fragment')) u)
      (hrest : Trail transport fragment' r' u via last w') :
      Trail transport fragment r w (e :: via) last w'

namespace Trail

variable {transport : Transport ω} {fragment : Text} {r : Request} {w w' : ω}
  {via : List (Exchange ω)} {last : Exchange ω}

theorem redirects_of_mem (h : Trail transport fragment r w via last w') :
    ∀ e ∈ via, e.reply.Redirects := by
  induction h with
  | last => simp
  | next hsend hnext hrest ih =>
    rw [List.forall_mem_cons]
    exact ⟨(Exchange.redirects_iff hnext).2 rfl, ih⟩

theorem not_redirects (h : Trail transport fragment r w via last w') :
    ¬ last.reply.Redirects := by
  induction h with
  | last hsend hnext => simp [Exchange.redirects_iff hnext]
  | next hsend hnext hrest ih => exact ih

end Trail

/-- Redirections are followed to the end of the trail, unless it is too long. -/
theorem send_follow_eq_ok {transport : Transport ω} {left : Nat} {fragment : Text} {r : Request}
    {w w' : ω} {last : Exchange ω} :
    (send transport r >>= follow transport left fragment) w = .ok last w' ↔
      ∃ via, via.length ≤ left ∧ Trail transport fragment r w via last w' := by
  induction left generalizing fragment r w with
  | zero =>
    constructor
    · intro h
      obtain ⟨e, v, hsend, hfollow⟩ := exists_of_bind_eq_ok h
      rw [follow] at hfollow
      obtain ⟨next?, u, hnext, hrest⟩ := exists_of_bind_eq_ok hfollow
      cases next? with
      | none =>
        injection hrest with he hw
        subst he hw
        exact ⟨[], Nat.le_refl 0, .last hsend hnext⟩
      | some p => cases hrest
    · rintro ⟨via, hlength, htrail⟩
      cases htrail with
      | last hsend hnext =>
        rw [bind_of_eq_ok hsend, follow, bind_of_eq_ok hnext]
        rfl
      | next => simp at hlength
  | succ left ih =>
    constructor
    · intro h
      obtain ⟨e, v, hsend, hfollow⟩ := exists_of_bind_eq_ok h
      rw [follow] at hfollow
      obtain ⟨next?, u, hnext, hrest⟩ := exists_of_bind_eq_ok hfollow
      cases next? with
      | none =>
        injection hrest with he hw
        subst he hw
        exact ⟨[], Nat.zero_le _, .last hsend hnext⟩
      | some p =>
        obtain ⟨via, hlength, htrail⟩ := ih.1 hrest
        exact ⟨e :: via, Nat.succ_le_succ hlength, .next hsend hnext htrail⟩
    · rintro ⟨via, hlength, htrail⟩
      cases htrail with
      | last hsend hnext =>
        rw [bind_of_eq_ok hsend, follow, bind_of_eq_ok hnext]
        rfl
      | next hsend hnext hrest =>
        rw [bind_of_eq_ok hsend, follow, bind_of_eq_ok hnext]
        exact ih.2 ⟨_, Nat.le_of_succ_le_succ hlength, hrest⟩

theorem sendFollowing_eq_ok {transport : Transport ω} {r : Request} {w w' : ω}
    {last : Exchange ω} :
    sendFollowing transport r w = .ok last w' ↔ ∃ reference, Reference.read r.url = .ok reference ∧
      ∃ via, via.length ≤ mostRedirections ∧
        Trail transport reference.fragment r w via last w' := by
  constructor
  · intro h
    obtain ⟨reference, v, hlifted, hrest⟩ := exists_of_bind_eq_ok h
    obtain ⟨hread, rfl⟩ := lifted_eq_ok.1 hlifted
    exact ⟨reference, hread, send_follow_eq_ok.1 hrest⟩
  · rintro ⟨reference, hread, htrail⟩
    rw [sendFollowing, bind_of_eq_ok (lifted_eq_ok.2 ⟨hread, rfl⟩)]
    exact send_follow_eq_ok.2 htrail

theorem reply_of_send {transport : Transport ω} {r : Request} {w w' : ω} {e : Exchange ω}
    (h : send transport r w = .ok e w') : transport.send r w = .ok e.reply w' := by
  unfold send at h
  split at h
  · obtain ⟨reply, v, hreply, hrest⟩ := exists_of_bind_eq_ok h
    injection hrest with he hw
    rw [hreply, ← he, hw]
  · cases h

theorem Exchange.check_eq (e : Exchange ω) :
    e.check = if 400 ≤ e.reply.status ∧ e.reply.status < 600 then
      .error (e.reply.statusFailure e.request.url) else .ok () := by
  rw [check, Reply.isError]
  simp only [Bool.and_eq_true, decide_eq_true_eq]

end Http

/-! ## Downloads -/

namespace Platform

open Http

/-- A status that reports an error is reported as a failure of the platform. -/
theorem isPlatform_refusal_statusFailure (r : Reply ω) (url : Text) :
    (refusal (r.statusFailure url)).isPlatform := by
  unfold refusal Reply.statusFailure
  dsimp only
  split
  · rfl
  · rfl
  · rfl
  · rfl
  · rename_i hrequest
    exact absurd rfl (hrequest _)

namespace Client

variable {c : Client} {transport : Transport ω} {stopped : ω → Bool} {job : JobIdentity}
  {url : Text} {w v u w' : ω} {via : List (Exchange ω)} {last : Exchange ω}

/-- The exchanges from the place of a log to the reply at the end of its redirections. -/
def Downloads (c : Client) (transport : Transport ω) (url : Text) (w : ω)
    (via : List (Exchange ω)) (last : Exchange ω) (w' : ω) : Prop :=
  ∃ r reference, prepare (c.retrieveRequest url) = .ok r ∧
    Reference.read r.url = .ok reference ∧ via.length ≤ mostRedirections ∧
    Trail transport reference.fragment r w via last w'

theorem refusing_eq_ok {α : Type} {act : EStateM Failure ω α} {a : α} :
    refusing act w = .ok a w' ↔ act w = .ok a w' := by
  rw [refusing]
  cases act w <;> simp

theorem refusing_of_error {α : Type} {act : EStateM Failure ω α} {f : Failure}
    (h : act w = .error f w') : refusing act w = .error (refusal f) w' := by
  rw [refusing, h]

/-- What is retrieved is the last reply, if its status reports no error. -/
theorem retrieve_of_downloads (h : c.Downloads transport url w via last w') :
    c.retrieve transport url w = match last.check with
      | .ok () => .ok last w'
      | .error f => .error (refusal f) (transport.release w') := by
  obtain ⟨r, reference, hprepare, hread, hlength, htrail⟩ := h
  have hsend := sendFollowing_eq_ok.2 ⟨reference, hread, via, hlength, htrail⟩
  unfold retrieve
  cases hcheck : last.check with
  | ok u =>
    rw [refusing_eq_ok, bind_of_eq_ok (lifted_eq_ok.2 ⟨hprepare, rfl⟩), bind_of_eq_ok hsend, hcheck]
    rfl
  | error f =>
    refine refusing_of_error ?_
    rw [bind_of_eq_ok (lifted_eq_ok.2 ⟨hprepare, rfl⟩), bind_of_eq_ok hsend, hcheck]
    rfl

/-- What is retrieved was downloaded. -/
theorem exists_downloads_of_retrieve (h : c.retrieve transport url w = .ok last w') :
    ∃ via, c.Downloads transport url w via last w' ∧ last.check = .ok () := by
  rw [retrieve, refusing_eq_ok] at h
  obtain ⟨r, v, hlifted, hrest⟩ := exists_of_bind_eq_ok h
  obtain ⟨hprepare, rfl⟩ := lifted_eq_ok.1 hlifted
  obtain ⟨e, u, hsend, hrest⟩ := exists_of_bind_eq_ok hrest
  obtain ⟨reference, hread, via, hlength, htrail⟩ := sendFollowing_eq_ok.1 hsend
  cases hcheck : e.check with
  | error f =>
    rw [hcheck] at hrest
    cases hrest
  | ok a =>
    rw [hcheck] at hrest
    injection hrest with he hw
    subst he hw
    exact ⟨via, ⟨r, reference, hprepare, hread, hlength, htrail⟩, hcheck⟩

/-- The log that is read from a reply. -/
def streamOf (e : Exchange ω) : LogStream ω := ⟨e.reply.charset?, e.reply.lines⟩

theorem locate_retrieve (hlocate : c.locate transport job w = .ok url v) :
    (do (c.logs transport stopped).retrieve (← (c.logs transport stopped).locate job) :
      EStateM Failure ω (LogStream ω)) w =
      (do return streamOf (← c.retrieve transport url) : EStateM Failure ω (LogStream ω)) v := by
  rw [locate_logs, retrieve_logs, bind_of_eq_ok hlocate]
  rfl

theorem openLog_of_retrieve (hlocate : c.locate transport job w = .ok url v)
    (hretrieve : c.retrieve transport url v = .ok last u) :
    (c.logs transport stopped).openLog job w = .ok (streamOf last) u := by
  unfold LogSource.openLog
  refine tryCatch_of_eq_ok ?_ _
  rw [locate_retrieve hlocate, bind_of_eq_ok hretrieve]
  rfl

/-- An open log was located and retrieved. -/
theorem exists_retrieve_of_openLog {stream : LogStream ω}
    (h : (c.logs transport stopped).openLog job w = .ok stream w') :
    ∃ url v last, c.locate transport job w = .ok url v ∧
      c.retrieve transport url v = .ok last w' ∧ stream = streamOf last := by
  unfold LogSource.openLog at h
  rcases eq_ok_of_tryCatch_eq_ok h with hopen | ⟨f, s, hhandled⟩
  · obtain ⟨url, v, hlocate, hretrieve⟩ := exists_of_bind_eq_ok hopen
    rw [locate_logs] at hlocate
    rw [retrieve_logs] at hretrieve
    obtain ⟨last, s', hlast, hstream⟩ := exists_of_bind_eq_ok hretrieve
    injection hstream with hstream hs
    subst hs
    exact ⟨url, v, last, hlocate, hlast, hstream.symm⟩
  · split at hhandled
    · cases hhandled
    · cases hhandled

/-- A download that the platform refuses leaves no log. -/
theorem openLog_of_refused {f : Failure} (hlocate : c.locate transport job w = .ok url v)
    (hretrieve : c.retrieve transport url v = .error f u) (hf : f.isPlatform) :
    ∃ g, (c.logs transport stopped).openLog job w = .error g u ∧ g.kind = .jobLogs := by
  have hopen : (do (c.logs transport stopped).retrieve (← (c.logs transport stopped).locate job) :
      EStateM Failure ω (LogStream ω)) w = .error f u := by
    rw [locate_retrieve hlocate, bind_of_eq_error hretrieve]
  unfold LogSource.openLog
  rw [tryCatch_of_eq_error hopen, if_pos hf]
  exact ⟨_, rfl, rfl⟩

/-- A summary is that of the log which the last reply held. -/
theorem exists_downloads_of_fetch {s : Log.Summary}
    (h : (c.logs transport stopped).fetch job w = .ok s w') :
    ∃ url v via last u, c.locate transport job w = .ok url v ∧
      c.Downloads transport url v via last u ∧ last.check = .ok () ∧
      s = Log.summarize (feedLines (LogSource.feedOf (streamOf last))) := by
  obtain ⟨stream, u, hopen⟩ := LogSource.exists_open_of_fetch_eq_ok h
  rw [LogSource.fetch_of_open hopen, LogSource.ending_eq_ok] at h
  obtain ⟨v', hread, -⟩ := h
  obtain ⟨-, hs, -⟩ := LogSource.readFeed_eq_ok.1 hread
  obtain ⟨url, v, last, hlocate, hretrieve, rfl⟩ := exists_retrieve_of_openLog hopen
  obtain ⟨via, hdownloads, hcheck⟩ := exists_downloads_of_retrieve hretrieve
  exact ⟨url, v, via, last, u, hlocate, hdownloads, hcheck, hs⟩

end Client

end Platform

/-- **Which replies a log is read from.**  Let the place of the log of a job be known, and let its
redirections be followed to a last reply.

* If a fetch gives a summary, then it is that of the last reply, and its status is none from 400 to
  599.
* If the status of the last reply is one of these, then the fetch fails because there is no log.
  With any other status the reply is read, be it a status of success or not. -/
theorem fetch_status (c : Platform.Client) (transport : Http.Transport ω) (stopped : ω → Bool)
    (job : JobIdentity) (w : ω) :
    let source := c.logs transport stopped
    let feed := fun last : Http.Exchange ω =>
      last.reply.lines (last.reply.charset?.getD LogSource.defaultCharset)
    (∀ s w', source.fetch job w = .ok s w' → ∃ url v via last u,
      c.locate transport job w = .ok url v ∧ c.Downloads transport url v via last u ∧
      (∀ e ∈ via, e.reply.Redirects) ∧ ¬ last.reply.Redirects ∧
      ¬ (400 ≤ last.reply.status ∧ last.reply.status < 600) ∧
      s = Log.summarize (feedLines (feed last))) ∧
    ∀ url v via last u, c.locate transport job w = .ok url v →
      c.Downloads transport url v via last u →
      if 400 ≤ last.reply.status ∧ last.reply.status < 600 then
        ∃ f w', source.fetch job w = .error f w' ∧ f.kind = .jobLogs
      else
        source.fetch job w =
          LogSource.ending (source.readFeed job.job {} (feed last)) transport.release u := by
  intro source feed
  constructor
  · intro s w' hfetch
    obtain ⟨url, v, via, last, u, hlocate, hdownloads, hcheck, hs⟩ :=
      Platform.Client.exists_downloads_of_fetch hfetch
    obtain ⟨_, _, -, -, -, htrail⟩ := id hdownloads
    refine ⟨url, v, via, last, u, hlocate, hdownloads, htrail.redirects_of_mem,
      htrail.not_redirects, fun hstatus => ?_, hs⟩
    rw [last.check_eq, if_pos hstatus] at hcheck
    cases hcheck
  · intro url v via last u hlocate hdownloads
    have hretrieve := Platform.Client.retrieve_of_downloads hdownloads
    rw [last.check_eq] at hretrieve
    split
    · rename_i hstatus
      rw [if_pos hstatus] at hretrieve
      obtain ⟨g, hopen, hg⟩ : ∃ g, source.openLog job w = .error g _ ∧ g.kind = .jobLogs :=
        Platform.Client.openLog_of_refused hlocate hretrieve
          (Platform.isPlatform_refusal_statusFailure _ _)
      exact ⟨g, _, bind_of_eq_error hopen _, hg⟩
    · rename_i hstatus
      rw [if_neg hstatus] at hretrieve
      exact LogSource.fetch_of_open (Platform.Client.openLog_of_retrieve hlocate hretrieve)

/-- The place of a log is told, and another place that the log moved to; it is read there. -/
theorem fetch_status_moved :
    let located : Http.Reply Nat :=
      ⟨302, text "Found", [(text "Location", text "https://logs.example.com/job?sig=abc")],
        fun _ => [⟨id, .ok []⟩]⟩
    let moved : Http.Reply Nat :=
      ⟨307, text "Temporary Redirect", [(text "Location", text "https://logs.example.com/moved")],
        fun _ => [⟨id, .ok []⟩]⟩
    let log : Http.Reply Nat :=
      ⟨200, text "OK", [(text "Content-Type", text "text/plain")],
        fun _ => [⟨id, .ok [0x61, 0x0A]⟩, ⟨id, .ok []⟩]⟩
    let c := Platform.Client.ofToken (text "token") Platform.Client.usualUrl
      Platform.Client.usualTimeout
    let transport := Http.Transport.prepared [located, moved, log]
    let source := c.logs transport fun _ => false
    let job : JobIdentity := ⟨text "owner", text "repo", 42⟩
    ∃ s url v via last u, source.fetch job 0 = .ok s 3 ∧
      c.locate transport job 0 = .ok url v ∧ c.Downloads transport url v via last u ∧
      (∀ e ∈ via, e.reply.Redirects) ∧ ¬ last.reply.Redirects ∧
      source.fetch job 0 = LogSource.ending (source.readFeed job.job {}
        (last.reply.lines (last.reply.charset?.getD LogSource.defaultCharset)))
        transport.release u := by
  intro located moved log c transport source job
  have hfetched : (match source.fetch job 0 with
      | .ok _ w' => w' == 3
      | .error _ _ => false) = true := by decide +kernel
  split at hfetched
  · rename_i s w' hfetch
    obtain rfl := eq_of_beq hfetched
    obtain ⟨url, v, via, last, u, hlocate, hdownloads, hvia, hlast, hstatus, -⟩ :=
      (fetch_status c transport (fun _ => false) job 0).1 s _ hfetch
    have hread := (fetch_status c transport (fun _ => false) job 0).2 url v via last u hlocate
      hdownloads
    rw [if_neg hstatus] at hread
    exact ⟨s, url, v, via, last, u, hfetch, hlocate, hdownloads, hvia, hlast, hread⟩
  · cases hfetched

/-- Not only replies of success are read: one that offers multiple choices is neither followed nor
refused. -/
theorem fetch_status_multipleChoices :
    let located : Http.Reply Nat :=
      ⟨302, text "Found", [(text "Location", text "https://logs.example.com/job?sig=abc")],
        fun _ => [⟨id, .ok []⟩]⟩
    let choices : Http.Reply Nat :=
      ⟨300, text "Multiple Choices", [(text "Content-Type", text "text/plain")],
        fun _ => [⟨id, .ok [0x61, 0x0A]⟩, ⟨id, .ok []⟩]⟩
    let c := Platform.Client.ofToken (text "token") Platform.Client.usualUrl
      Platform.Client.usualTimeout
    let transport := Http.Transport.prepared [located, choices]
    let job : JobIdentity := ⟨text "owner", text "repo", 42⟩
    ¬ ∀ s w' url v via last u, (c.logs transport fun _ => false).fetch job 0 = .ok s w' →
      c.locate transport job 0 = .ok url v → c.Downloads transport url v via last u →
      200 ≤ last.reply.status ∧ last.reply.status < 300 := by
  intro located choices c transport job hall
  have hfetched : (match (c.logs transport fun _ => false).fetch job 0 with
      | .ok _ _ => true
      | .error _ _ => false) = true := by decide +kernel
  have hlocated : (match c.locate transport job 0 with
      | .ok _ v => v == 1
      | .error _ _ => false) = true := by decide +kernel
  split at hfetched
  · rename_i s w' hfetch
    obtain ⟨url, v, via, last, u, hlocate, hdownloads, -, -⟩ :=
      Platform.Client.exists_downloads_of_fetch hfetch
    rw [hlocate] at hlocated
    obtain rfl := eq_of_beq hlocated
    have hstatus := hall s w' url _ via last u hfetch hlocate hdownloads
    obtain ⟨r, reference, -, -, -, htrail⟩ := hdownloads
    -- The second reply is that to the first request for the log, and it does not lead on.
    have hreply : ∀ {e : Http.Exchange Nat} {v'}, Http.send transport r 1 = .ok e v' →
        e.reply = choices := fun hsend => by
      have hsent := Http.reply_of_send hsend
      exact (EStateM.Result.ok.inj hsent).1.symm
    cases htrail with
    | last hsend =>
      rw [hreply hsend] at hstatus
      exact absurd hstatus.2 (by decide)
    | next hsend hnext =>
      have hredirects := (Http.Exchange.redirects_iff hnext).2 rfl
      rw [hreply hsend] at hredirects
      exact absurd hredirects.1 (by decide)
  · cases hfetched

end JobMeter
