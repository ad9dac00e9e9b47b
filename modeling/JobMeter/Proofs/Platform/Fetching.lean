import JobMeter.Platform.Client
import JobMeter.Proofs.Failing

/-!
# How the fetching of a log fails

The log of a job is located, opened and read line by line.  A failure on the way is translated
twice: the client reports a failed request as a refusal of the platform, and the fetch reports a
refusal, or a failed request while the lines come in, as the failure to have a log.  What is not
translated are failures of texts: of a URL that is none, of a header that cannot be read, and of a
charset that is not known, cannot be applied, or is a coding for something else.

* `FailureKind.isOfText` — the kinds of failures that are not translated.
* `FailureKind.IsOfExchange`, `Platform.IsRefusal`, `IsOfFetch` — how an exchange fails, what the
  client makes of it, and what the fetch makes of that.
* `Transport.Honest` — a transport that fails as exchanges do.
* `fetch_failure` — **how the fetching of a log fails**: there is no log, or it is a text.  The
  second does occur (`fetch_failure_unknownCharset`).
-/

namespace JobMeter

/-- The names of failures of texts that have no kind of their own: a charset is the name of a coding
for something else. -/
def FailureKind.namesOfText : List String := ["AssertionError", "TypeError"]

/-- A text is not what it should be: a URL, a header, or the body of a reply with its charset. -/
def FailureKind.isOfText : FailureKind → Bool
  | .invalidValue | .unknownCharset | .charset | .unencodable | .undecodable => true
  | .foreign name => namesOfText.contains name
  | _ => false

/-- What goes wrong in exchanges with the platform: an exchange, what the platform answers, or a
text. -/
inductive FailureKind.IsOfExchange : FailureKind → Prop where
  | request (k : RequestKind) : IsOfExchange (.request k)
  | platform (k : PlatformKind) : IsOfExchange (.platform k)
  | text {k : FailureKind} (h : k.isOfText) : IsOfExchange k

open FailureKind

theorem isOfExchange_of_eq {k : FailureKind} (h : k = .invalidValue) : k.IsOfExchange :=
  .text (by rw [h]; rfl)

namespace Http

/-! ## References -/

namespace Reference

theorem failsAs_checkBracketed (t : Text) : FailsAs (· = .invalidValue) (checkBracketed t) := by
  unfold checkBracketed
  exact .ite (.ite (.pure _) (.throw rfl)) (.ite (.throw rfl) (.ite (.pure _) (.throw rfl)))

theorem failsAs_checkAuthority (t : Text) : FailsAs (· = .invalidValue) (checkAuthority t) := by
  unfold checkAuthority
  exact .throwIf rfl (.ite (.bind (failsAs_checkBracketed _) fun _ => .ite (.throw rfl) (.pure _))
    (.ite (.throw rfl) (.pure _)))

theorem failsAs_readAs (scheme t : Text) : FailsAs (· = .invalidValue) (readAs scheme t) := by
  unfold readAs
  exact .bind (failsAs_checkAuthority _) fun _ => .pure _

theorem failsAs_read (t : Text) : FailsAs (· = .invalidValue) (read t) := failsAs_readAs [] t

theorem failsAs_port? (r : Reference) : FailsAs (· = .invalidValue) r.port? := by
  unfold port?
  exact .ite (.pure _) (.ite (.ite (.pure _) (.throw rfl)) (.throw rfl))

end Reference

/-! ## Requests -/

theorem failsAs_resolve (base reference : Text) :
    FailsAs (· = .invalidValue) (resolve base reference) := by
  unfold resolve
  refine .ite (.pure _) (.ite (.pure _) ?_)
  refine .bind (Reference.failsAs_read base) fun b => ?_
  refine .bind (Reference.failsAs_readAs b.scheme reference) fun r => ?_
  exact .ite (.pure _) (.ite (.pure _) (.ite (.pure _) (.pure _)))

theorem failsAs_redirected (base fragment location : Text) :
    FailsAs (· = .invalidValue) (redirected base fragment location) := by
  have hrest : ∀ location, FailsAs (· = .invalidValue) (do
      let r ← Reference.read location
      let fragment := if r.fragment.isEmpty then fragment else r.fragment
      let url := Reference.write { r with fragment }
      if r.authority.isEmpty then pure (← resolve base (requote url), fragment)
      else pure (requote url, fragment)) := by
    intro location
    refine .bind (Reference.failsAs_read location) fun r => ?_
    exact .ite (.bind (failsAs_resolve _ _) fun _ => .pure _) (.pure _)
  unfold redirected
  exact .ite (.bind (Reference.failsAs_read base) fun _ => hrest _) (hrest _)

theorem failsAs_changesPlace (old new : Text) :
    FailsAs (· = .invalidValue) (changesPlace old new) := by
  unfold changesPlace
  refine .bind (Reference.failsAs_read old) fun o => .bind (Reference.failsAs_read new) fun n => ?_
  refine .ite (.pure _) (.bind (Reference.failsAs_port? o) fun oldPort => ?_)
  have hrest : ∀ same different : Option Nat → Bool, FailsAs (· = .invalidValue) (do
      let newPort ← n.port?
      if same newPort then pure false else pure (different newPort)) := fun _ _ =>
    .bind (Reference.failsAs_port? n) fun _ => .ite (.pure _) (.pure _)
  exact .ite (.bind (Reference.failsAs_port? n) fun _ => .ite (.pure _) (hrest _ _)) (hrest _ _)

theorem failsAs_redirect (r : Request) (url : Text) :
    FailsAs (· = .invalidValue) (r.redirect url) := by
  unfold Request.redirect
  cases r.authorization with
  | none => exact .pure _
  | some a => exact .bind (failsAs_changesPlace r.url url) fun _ => .pure _

theorem failsAs_requestUrl (t : Text) : FailsAs IsOfExchange (requestUrl t) := by
  unfold requestUrl
  refine .ite (.pure _) ?_
  split
  · exact .throw (.request _)
  · exact .throwIf (.request _) (.throwIf (.request _) (.throwIf (.request _) (.pure _)))

theorem failsAs_basicCredentials (user password : Text) :
    FailsAs IsOfExchange (basicCredentials user password) := by
  unfold basicCredentials
  exact .ite (.pure _) (.throw (.text rfl))

theorem failsAs_urlCredentials? (t : Text) : FailsAs IsOfExchange (urlCredentials? t) := by
  unfold urlCredentials?
  refine .bind ((Reference.failsAs_read t).mono fun _ => isOfExchange_of_eq) fun r => ?_
  split
  · exact .ite (.pure _) (.map _ (failsAs_basicCredentials _ _))
  · exact .pure _

theorem failsAs_prepare (r : Request) : FailsAs IsOfExchange (prepare r) := by
  unfold prepare
  refine .bind (.map _ ((Reference.failsAs_read r.url).mono fun _ => isOfExchange_of_eq))
    fun _ => ?_
  refine .bind (failsAs_requestUrl r.url) fun url => ?_
  have hrest : FailsAs IsOfExchange (do
      let given ← urlCredentials? url
      pure { r with url, authorization := given.or r.authorization }) :=
    .bind (failsAs_urlCredentials? url) fun _ => .pure _
  exact .ite hrest (.bind (.throw (.request _)) fun _ => hrest)

/-! ## Exchanges -/

variable {ω : Type}

theorem failsAs_redirection? (r : Reply ω) : FailsAs IsOfExchange r.redirection? := by
  unfold Reply.redirection?
  split
  · exact .pure _
  · refine .ite (.pure _) (.ite (.throw (.text rfl)) ?_)
    split
    · exact .throw (.text rfl)
    · exact .pure _
    · exact .pure _

theorem actFailsAs_consume (r : Reply ω) : ActFailsAs IsOfExchange r.consume :=
  fun _ _ _ h => nomatch h

theorem actFailsAs_next? (e : Exchange ω) (fragment : Text) :
    ActFailsAs IsOfExchange (e.next? fragment) := by
  unfold Exchange.next?
  refine .bind (.lifted (failsAs_redirection? e.reply)) fun location? => ?_
  split
  · exact .pure _
  · rename_i location
    have hlocation : ActFailsAs IsOfExchange (lifted (redirected e.request.url fragment location) :
        EStateM Failure ω _) :=
      .lifted ((failsAs_redirected _ _ _).mono fun _ => isOfExchange_of_eq)
    have hredirect : ∀ url, ActFailsAs IsOfExchange (lifted (e.request.redirect url) :
        EStateM Failure ω _) := fun url =>
      .lifted ((failsAs_redirect _ url).mono fun _ => isOfExchange_of_eq)
    refine .bind (actFailsAs_consume e.reply) fun k? => ?_
    split
    · exact .bind hlocation fun p => .bind (hredirect p.1) fun _ => .pure _
    · exact .bind hlocation fun p => .bind (hredirect p.1) fun _ => .pure _
    · exact .bind hlocation fun p => .bind (hredirect p.1) fun _ => .pure _
    · refine .bind (.throw (.request _)) fun _ => ?_
      exact .bind hlocation fun p => .bind (hredirect p.1) fun _ => .pure _

/-- A transport fails as exchanges do, or because of a header that cannot be written or read. -/
def Transport.Honest (transport : Transport ω) : Prop :=
  ∀ r, ActFailsAs (fun k => (∃ q, k = .request q) ∨ k = .unencodable ∨ k = .undecodable)
    (transport.send r)

variable {transport : Transport ω}

theorem actFailsAs_send (ht : transport.Honest) (r : Request) :
    ActFailsAs IsOfExchange (send transport r) := by
  have hsend : ActFailsAs IsOfExchange (transport.send r) := by
    refine (ht r).mono ?_
    rintro k (⟨q, rfl⟩ | rfl | rfl)
    · exact .request q
    · exact .text rfl
    · exact .text rfl
  unfold send
  have hrest : ActFailsAs IsOfExchange (do return (⟨r, ← transport.send r⟩ : Exchange ω)) :=
    .bind hsend fun _ => .pure _
  exact .ite hrest (.bind (.throw (.request _)) fun _ => hrest)

theorem actFailsAs_follow (ht : transport.Honest) (left : Nat) (fragment : Text)
    (e : Exchange ω) : ActFailsAs IsOfExchange (follow transport left fragment e) := by
  induction left generalizing fragment e with
  | zero =>
    unfold follow
    refine .bind (actFailsAs_next? e fragment) fun next? => ?_
    split
    · exact .pure _
    · exact .throw (.request _)
  | succ left ih =>
    unfold follow
    refine .bind (actFailsAs_next? e fragment) fun next? => ?_
    split
    · exact .pure _
    · exact .bind (actFailsAs_send ht _) fun _ => ih _ _

theorem actFailsAs_sendFollowing (ht : transport.Honest) (r : Request) :
    ActFailsAs IsOfExchange (sendFollowing transport r) := by
  unfold sendFollowing
  refine .bind (.lifted ((Reference.failsAs_read _).mono fun _ => isOfExchange_of_eq)) fun _ => ?_
  exact .bind (actFailsAs_send ht r) fun e => actFailsAs_follow ht _ _ e

theorem failsAs_check (e : Exchange ω) : FailsAs IsOfExchange e.check := by
  unfold Exchange.check
  exact .ite (.throw (.request _)) (.pure _)

/-! ## Lines of a body -/

theorem isOfText_misuse (m : Text.Misuse) : m.failure.kind.isOfText := by
  cases m <;> rfl

theorem failsAs_read (d : Text.Decoder) (piece : List UInt8) :
    FailsAs (·.isOfText) (d.read piece) := by
  unfold Text.Decoder.read
  split
  · exact .pure _
  · split
    · exact .pure _
    · exact .throw rfl
  · exact .throw (isOfText_misuse _)
  · exact .pure _
  · exact .ite (.ite (.pure _) (.ite (.pure _) (.pure _))) (.pure _)
  · exact .pure _
  · exact .pure _
  · dsimp only
    split
    · exact .pure _
    · exact .pure _
    · exact .throw rfl
    · exact .pure _
  · dsimp only
    split
    · exact .pure _
    · exact .pure _
    · exact .throw rfl
    · exact .pure _

theorem failsAs_finish (d : Text.Decoder) : FailsAs (·.isOfText) d.finish := by
  unfold Text.Decoder.finish
  split
  · exact .throw (isOfText_misuse _)
  · exact .pure _
  · exact .pure _

/-- What can end the feed of a body. -/
def FeedEnd (f : Failure) : Prop := (∃ k, f.kind = .request k) ∨ f.kind.isOfText

theorem fail_not_mem_map_lineItem {f : Failure} {lines : List Text} :
    FeedItem.fail f ∉ lines.map (lineItem : Text → FeedItem ω) := by
  intro h
  obtain ⟨line, -, hline⟩ := List.mem_map.1 h
  cases hline

theorem feedEnd_of_mem_feedFrom {d : Text.Decoder} {open_ : Text} {pieces : List (Piece ω)}
    {f : Failure} (h : FeedItem.fail f ∈ feedFrom d open_ pieces) : FeedEnd f := by
  induction pieces generalizing d open_ with
  | nil =>
    rw [feedFrom] at h
    cases hfinish : d.finish with
    | error e =>
      rw [hfinish] at h
      obtain rfl : f = e := FeedItem.fail.inj (List.mem_singleton.1 h)
      exact .inr (failsAs_finish d f hfinish)
    | ok t =>
      rw [hfinish] at h
      exact absurd h fail_not_mem_map_lineItem
  | cons piece pieces ih =>
    cases piece with
    | meanwhile g =>
      rcases List.mem_cons.1 h with hfirst | hrest
      · cases hfirst
      · exact ih hrest
    | fail k =>
      obtain rfl : f = Failure.ofRequest k := FeedItem.fail.inj (List.mem_singleton.1 h)
      exact .inl ⟨k, rfl⟩
    | bytes b =>
      rw [feedFrom] at h
      cases hread : d.read b with
      | error e =>
        rw [hread] at h
        obtain rfl : f = e := FeedItem.fail.inj (List.mem_singleton.1 h)
        exact .inr (failsAs_read d b f hread)
      | ok p =>
        rw [hread] at h
        rcases List.mem_append.1 h with hline | hrest
        · exact absurd hline fail_not_mem_map_lineItem
        · exact ih hrest

theorem failsAs_named (charset : Text) : FailsAs (·.isOfText) (Text.Charset.named charset) := by
  unfold Text.Charset.named
  refine .ite (.throw rfl) (.ite (.throw rfl) ?_)
  split
  · exact .throw rfl
  · exact .pure _
  · exact .throw rfl

theorem feedEnd_of_mem_lines {r : Reply ω} {charset : Text} {f : Failure}
    (h : FeedItem.fail f ∈ r.lines charset) : FeedEnd f := by
  unfold Reply.lines at h
  split at h
  · rename_i e hnamed
    obtain rfl : f = e := FeedItem.fail.inj (List.mem_singleton.1 h)
    exact .inr (failsAs_named charset f hnamed)
  · exact feedEnd_of_mem_feedFrom h

end Http

/-! ## Refusals of the platform -/

namespace Platform

open Http

/-- What is reported of an exchange with the platform: a refusal, or a text. -/
def IsRefusal (k : FailureKind) : Prop := (∃ p, k = .platform p) ∨ k.isOfText

theorem isRefusal_refusal {f : Failure} (h : f.kind.IsOfExchange) : IsRefusal (refusal f).kind := by
  obtain ⟨kind, message, cause⟩ := f
  cases h with
  | request k =>
    refine .inl ?_
    unfold refusal
    dsimp only
    split
    · exact ⟨_, rfl⟩
    · exact ⟨_, rfl⟩
    · exact ⟨_, rfl⟩
    · exact ⟨_, rfl⟩
    · rename_i hrequest
      exact absurd rfl (hrequest k)
  | platform k => exact .inl ⟨k, rfl⟩
  | text h =>
    have hsame : refusal ⟨kind, message, cause⟩ = ⟨kind, message, cause⟩ := by
      cases kind <;> first | rfl | cases h
    rw [hsame]
    exact .inr h

namespace Client

variable {ω α : Type} {transport : Transport ω}

theorem actFailsAs_refusing {act : EStateM Failure ω α} (h : ActFailsAs IsOfExchange act) :
    ActFailsAs IsRefusal (refusing act) := by
  intro w g w' hg
  unfold refusing at hg
  cases hact : act w with
  | ok a s =>
    rw [hact] at hg
    cases hg
  | error f s =>
    rw [hact] at hg
    obtain rfl := (EStateM.Result.error.inj hg).1
    exact isRefusal_refusal (h w f s hact)

theorem actFailsAs_ask (ht : transport.Honest) (r : Request) :
    ActFailsAs IsOfExchange (ask transport r) := by
  unfold ask
  refine .bind (.lifted (failsAs_prepare r)) fun r => .bind (actFailsAs_send ht r) fun e => ?_
  refine .bind (.lifted ((Reference.failsAs_read _).mono fun _ => isOfExchange_of_eq)) fun _ => ?_
  refine .bind (actFailsAs_next? e _) fun next? => ?_
  have hrest : ActFailsAs IsOfExchange (do
      (lifted e.check : EStateM Failure ω _)
      return e) := .bind (.lifted (failsAs_check e)) fun _ => .pure _
  split
  · exact hrest
  · refine .bind (.bind (actFailsAs_consume e.reply) fun k? => ?_) fun _ => hrest
    split
    · exact .pure _
    · exact .throw (.request _)

theorem actFailsAs_locate (ht : transport.Honest) (c : Client) (job : JobIdentity) :
    ActFailsAs IsRefusal (c.locate transport job) := by
  refine actFailsAs_refusing (.bind (actFailsAs_ask ht _) fun e => ?_)
  split
  · exact .throw (.platform _)
  · exact .throw (.platform _)
  · exact .pure _

theorem actFailsAs_retrieve (ht : transport.Honest) (c : Client) (url : Text) :
    ActFailsAs IsRefusal (c.retrieve transport url) := by
  refine actFailsAs_refusing (.bind (.lifted (failsAs_prepare _)) fun r => ?_)
  refine .bind (actFailsAs_sendFollowing ht r) fun e => ?_
  split
  · exact .pure _
  · rename_i f hcheck
    exact .bind (.modify _) fun _ => .throw (failsAs_check e f hcheck)

end Client

end Platform

/-! ## The fetching of a log -/

/-- What comes of a fetch that fails: there is no log, or a text is not what it should be. -/
def IsOfFetch (k : FailureKind) : Prop := k = .jobLogs ∨ k.isOfText

namespace LogSource

variable {ω : Type} {source : LogSource ω}

theorem actFailsAs_openLog {job : JobIdentity}
    (hlocate : ActFailsAs Platform.IsRefusal (source.locate job))
    (hretrieve : ∀ url, ActFailsAs Platform.IsRefusal (source.retrieve url)) :
    ActFailsAs IsOfFetch (source.openLog job) := by
  unfold openLog
  refine .tryCatch (.bind hlocate hretrieve) fun f hf => ?_
  split
  · exact .throw (.inl rfl)
  · rename_i hplatform
    rcases hf with ⟨p, hp⟩ | htext
    · refine absurd ?_ hplatform
      rw [Failure.isPlatform, hp]
    · exact .throw (.inr htext)

theorem actFailsAs_readFeed (job : Int) {feed : List (FeedItem ω)}
    (hfeed : ∀ f, FeedItem.fail f ∈ feed → Http.FeedEnd f) (p : Log.Progress) :
    ActFailsAs IsOfFetch (source.readFeed job p feed) := by
  induction feed generalizing p with
  | nil => exact .pure _
  | cons item feed ih =>
    have hrest := ih fun f hf => hfeed f (List.mem_cons_of_mem _ hf)
    cases item with
    | line l => exact .bind .get fun w => .ite (.throw (.inl rfl)) (hrest _)
    | meanwhile g => exact .bind (.modify g) fun _ => hrest p
    | fail f =>
      unfold readFeed
      split
      · exact .throw (.inl rfl)
      · rename_i hrequest
        rcases hfeed f List.mem_cons_self with ⟨k, hk⟩ | htext
        · refine absurd ?_ hrequest
          rw [Failure.isRequest, hk]
        · exact .throw (.inr htext)

theorem actFailsAs_ending {α : Type} {P : FailureKind → Prop} {act : EStateM Failure ω α}
    (h : ActFailsAs P act) (last : ω → ω) : ActFailsAs P (ending act last) := by
  intro w g w' hg
  unfold ending at hg
  cases hact : act w with
  | ok a s =>
    rw [hact] at hg
    cases hg
  | error f s =>
    rw [hact] at hg
    obtain rfl : f = g := (EStateM.Result.error.inj hg).1
    exact h w f s hact

end LogSource

namespace Platform.Client

variable {ω : Type} {transport : Http.Transport ω}

theorem locate_logs (c : Client) (stopped : ω → Bool) :
    (c.logs transport stopped).locate = c.locate transport := by
  simp only [logs]

theorem retrieve_logs (c : Client) (stopped : ω → Bool) :
    (c.logs transport stopped).retrieve = fun url => do
      let e ← c.retrieve transport url
      return ⟨e.reply.charset?, e.reply.lines⟩ := by
  simp only [logs]

/-- An open log of the platform is the body of a reply. -/
theorem exists_reply_of_openLog {c : Client} {stopped : ω → Bool} {job : JobIdentity} {w w' : ω}
    {stream : LogStream ω} (h : (c.logs transport stopped).openLog job w = .ok stream w') :
    ∃ r : Http.Reply ω, stream.feed = r.lines := by
  unfold LogSource.openLog at h
  rcases eq_ok_of_tryCatch_eq_ok h with hopen | ⟨f, s, hhandled⟩
  · obtain ⟨url, s, -, hretrieve⟩ := exists_of_bind_eq_ok hopen
    obtain ⟨e, s', -, hstream⟩ := exists_of_bind_eq_ok hretrieve
    obtain rfl := (EStateM.Result.ok.inj hstream).1
    exact ⟨e.reply, rfl⟩
  · split at hhandled
    · cases hhandled
    · cases hhandled

end Platform.Client

/-- **How the fetching of a log fails.**  Whatever a transport replies, a request for a log gives a
summary, or it fails because there is no log, or because of a text in a reply that is not what it
should be.  A log in one of the charsets in `Text.Charset.asciiOnly` may have another summary than
the one that is given, but what it may fail with is among these. -/
theorem fetch_failure {ω : Type} (c : Platform.Client) (transport : Http.Transport ω)
    (ht : transport.Honest) (stopped : ω → Bool) (job : JobIdentity) (w : ω) :
    (∃ s w', (c.logs transport stopped).fetch job w = .ok s w') ∨
      ∃ f w', (c.logs transport stopped).fetch job w = .error f w' ∧
        (f.kind = .jobLogs ∨ f.kind.isOfText) := by
  have hopen : ActFailsAs IsOfFetch ((c.logs transport stopped).openLog job) := by
    refine LogSource.actFailsAs_openLog ?_ fun url => ?_
    · rw [Platform.Client.locate_logs]
      exact Platform.Client.actFailsAs_locate ht c job
    · rw [Platform.Client.retrieve_logs]
      exact .bind (Platform.Client.actFailsAs_retrieve ht c url) fun _ => .pure _
  have hfetch : ActFailsAs IsOfFetch ((c.logs transport stopped).fetch job) := by
    refine hopen.bind_of_ok fun w stream w' hstream => ?_
    obtain ⟨r, hr⟩ := Platform.Client.exists_reply_of_openLog hstream
    refine LogSource.actFailsAs_ending (LogSource.actFailsAs_readFeed job.job ?_ _) _
    rw [hr]
    exact fun f => Http.feedEnd_of_mem_lines
  cases hrun : (c.logs transport stopped).fetch job w with
  | ok s w' => exact .inl ⟨s, w', rfl⟩
  | error f w' => exact .inr ⟨f, w', rfl, hfetch w f w' hrun⟩

/-- A transport that gives prepared replies one after the other.  Its world is the number of
requests that were sent. -/
def Http.Transport.prepared (replies : List (Http.Reply Nat)) : Http.Transport Nat where
  send _ n :=
    match replies[n]? with
    | some r => .ok r (n + 1)
    | none => .error (Failure.ofRequest .connection) (n + 1)
  release := id

theorem Http.Transport.honest_prepared (replies : List (Http.Reply Nat)) :
    (Http.Transport.prepared replies).Honest := by
  intro r n f n' h
  unfold Http.Transport.prepared at h
  dsimp only at h
  split at h
  · cases h
  · obtain rfl := (EStateM.Result.error.inj h).1
    exact .inl ⟨_, rfl⟩

/-- There is no such job, and so there is no log. -/
theorem fetch_failure_notFound :
    let refused : Http.Reply Nat := ⟨404, text "Not Found", [], fun _ => []⟩
    let transport := Http.Transport.prepared [refused]
    let c := Platform.Client.ofToken (text "token") Platform.Client.usualUrl
      Platform.Client.usualTimeout
    let source := c.logs transport fun _ => false
    transport.Honest ∧ ∃ f w', source.fetch ⟨text "owner", text "repo", 42⟩ 0 = .error f w' ∧
      (f.kind = .jobLogs ∨ f.kind.isOfText) := by
  intro refused transport c source
  have ht : transport.Honest := Http.Transport.honest_prepared _
  have hkind : failureKind? (source.fetch ⟨text "owner", text "repo", 42⟩ 0) = some .jobLogs := by
    decide +kernel
  refine ⟨ht, ?_⟩
  rcases fetch_failure c transport ht (fun _ => false) ⟨text "owner", text "repo", 42⟩ 0 with
    ⟨s, w', hrun⟩ | hfailure
  · rw [hrun] at hkind
    cases hkind
  · exact hfailure

/-- Not every failure says that there is no log: the charset of a log may not be known. -/
theorem fetch_failure_unknownCharset :
    let located : Http.Reply Nat :=
      ⟨302, text "Found", [(text "Location", text "https://logs.example.com/job?sig=abc")],
        fun _ => []⟩
    let log : Http.Reply Nat :=
      ⟨200, text "OK", [(text "Content-Type", text "text/plain; charset=bogus")],
        fun _ => [⟨id, .ok [0x61, 0x0A]⟩, ⟨id, .ok []⟩]⟩
    let c := Platform.Client.ofToken (text "token") Platform.Client.usualUrl
      Platform.Client.usualTimeout
    let source := c.logs (.prepared [located, log]) fun _ => false
    ¬ ∀ w f w', source.fetch ⟨text "owner", text "repo", 42⟩ w = .error f w' →
      f.kind = .jobLogs := by
  intro located log c source hall
  have hkind : failureKind? (source.fetch ⟨text "owner", text "repo", 42⟩ 0) =
      some .unknownCharset := by decide +kernel
  obtain ⟨f, w', hrun, hf⟩ := exists_of_failureKind? hkind
  rw [hall 0 f w' hrun] at hf
  cases hf

end JobMeter
