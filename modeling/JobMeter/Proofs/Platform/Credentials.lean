import JobMeter.Proofs.Platform.Fetching
import JobMeter.Proofs.Platform.Watching

/-!
# Where the token goes

The token is sent to the platform itself, when it is asked where a log is, and nowhere else.

* `Http.Request.Twin` — requests that differ at most in their credentials.
* `Http.Transport.Blind` — a transport that replies the same, whatever the credentials.
* `fetch_token` — **the token only reaches the platform**: with two tokens the same comes of a
  fetch, and the same requests are sent, but for the credentials of the first.
-/

namespace JobMeter

namespace Http

/-! ## Twins -/

/-- The requests differ at most in their credentials, and both have some or none has. -/
structure Request.Twin (r r' : Request) : Prop where
  same : { r with authorization := r'.authorization } = r'
  given : r.authorization.isSome = r'.authorization.isSome

namespace Request.Twin

variable {r r' : Request}

theorem exists_eq (h : r.Twin r') :
    ∃ a, r' = { r with authorization := a } ∧ r.authorization.isSome = a.isSome :=
  ⟨r'.authorization, h.same.symm, h.given⟩

/-- Whether credentials are taken along does not depend on what they are. -/
theorem redirect (h : r.Twin r') (url : Text) :
    AlikeChecks Twin (r.redirect url) (r'.redirect url) := by
  obtain ⟨a', rfl, hgiven⟩ := h.exists_eq
  unfold Request.redirect
  cases ha : r.authorization with
  | none =>
    have ha' : a' = none := by simpa [ha] using hgiven.symm
    rw [ha']
    exact .ok ⟨rfl, rfl⟩
  | some a =>
    obtain ⟨b, rfl⟩ : ∃ b, a' = some b :=
      Option.isSome_iff_exists.1 (by simpa [ha] using hgiven.symm)
    dsimp only
    cases changesPlace r.url url with
    | error f => exact .error f
    | ok changes =>
      cases changes with
      | true => exact .ok ⟨rfl, rfl⟩
      | false => exact .ok ⟨rfl, rfl⟩

/-- All that matters of credentials where a request is made is that they can be sent. -/
theorem prepare (h : r.Twin r')
    (hvalue : isHeaderValue (r.authorization.getD []) = isHeaderValue (r'.authorization.getD [])) :
    AlikeChecks Twin (prepare r) (prepare r') := by
  have hurl : r.url = r'.url := by rw [← h.same]
  unfold Http.prepare
  rw [hurl, hvalue]
  refine .bind (.refl _) fun _ _ _ => .bind (.refl _) ?_
  rintro url _ rfl
  cases isHeaderValue (r'.authorization.getD []) with
  | false => exact .error _
  | true =>
    refine .bind (.refl (urlCredentials? url)) ?_
    rintro given _ rfl
    refine .ok ⟨?_, ?_⟩
    · rw [← h.same]
    · cases given with
      | some a => rfl
      | none => exact h.given

end Request.Twin

/-- The transport replies the same, whatever the credentials. -/
def Transport.Blind {ω : Type} (transport : Transport ω) : Prop :=
  ∀ r a w, transport.send { r with authorization := a } w = transport.send r w

theorem Transport.blind_prepared (replies : List (Reply Nat)) :
    (Transport.prepared replies).Blind := fun _ _ _ => rfl

end Http

/-! ## Two tokens -/

namespace Platform.Client

open Http

theorem isHeaderValue_bearer (token : Text) :
    isHeaderValue (text "Bearer " ++ token) = isHeaderValue token := by
  have hreturn : Text.holds '\r' (text "Bearer ") = false := by decide
  have hfeed : Text.holds '\n' (text "Bearer ") = false := by decide
  rw [Text.holds] at hreturn hfeed
  simp [isHeaderValue, Text.holds, hreturn, hfeed]

/-- The requests are what clients make of their requests to tell where the log of a job is, and
differ at most in their credentials. -/
structure Asks (c c' : Client) (job : JobIdentity) (r r' : Request) : Prop where
  left : prepare (c.locateRequest job) = .ok r
  right : prepare (c'.locateRequest job) = .ok r'
  twin : r.Twin r'

/-- The same was sent, but for the credentials of the first request, if that is how the clients ask
where the log of a job is. -/
def SameButAsking (c c' : Client) (job : JobIdentity) (sent sent' : List Request) : Prop :=
  sent = sent' ∨ ∃ r r' later, Asks c c' job r r' ∧ sent = r :: later ∧ sent' = r' :: later

variable {c c' : Client} {job : JobIdentity}

theorem leads_asks : Request.Leads (Asks c c' job) Request.Twin where
  url_eq h := by rw [← h.twin.same]
  redirect h := h.twin.redirect

theorem alikeChecks_asks (hbase : c.baseUrl = c'.baseUrl) (htimeout : c.timeout = c'.timeout)
    (htoken : isHeaderValue c.token = isHeaderValue c'.token) :
    AlikeChecks (Asks c c' job) (prepare (c.locateRequest job))
      (prepare (c'.locateRequest job)) := by
  have htwin : (c.locateRequest job).Twin (c'.locateRequest job) := by
    refine ⟨?_, rfl⟩
    unfold locateRequest logUrl
    rw [hbase, htimeout]
  have hvalue : isHeaderValue (text "Bearer " ++ c.token) =
      isHeaderValue (text "Bearer " ++ c'.token) := by
    rw [isHeaderValue_bearer, isHeaderValue_bearer, htoken]
  have halike := htwin.prepare hvalue
  generalize hleft : prepare (c.locateRequest job) = x at halike
  generalize hright : prepare (c'.locateRequest job) = x' at halike
  cases halike with
  | ok h => exact .ok ⟨hleft, hright, h⟩
  | error f => exact .error f

theorem alikeTransports_asks {ω : Type} {transport : Transport ω} (ht : transport.Blind) :
    AlikeTransports (Asks c c' job) (SameWorld fun sent sent' => sent = [] ∧ sent' = [])
      (SameWorld (SameButAsking c c' job)) transport.watched transport.watched := by
  have hstarts : AlikeStarts (Asks c c' job)
      (SameWorld fun sent sent' => sent = [] ∧ sent' = [])
      (SameWorld (SameButAsking c c' job)) transport.watched transport.watched := by
    refine alikeStarts_watched ?_ ?_ ?_
    · intro r r' h w
      rw [← h.twin.same]
      exact (ht r r'.authorization w).symm
    · rintro _ _ ⟨rfl, rfl⟩
      exact .inl rfl
    · rintro r r' h _ _ ⟨rfl, rfl⟩
      exact .inr ⟨r, r', [], h, rfl, rfl⟩
  refine alikeTransports_watched hstarts ?_
  rintro r sent _ (rfl | ⟨first, first', later, h, rfl, rfl⟩)
  · exact .inl rfl
  · exact .inr ⟨first, first', later ++ [r], h, rfl, rfl⟩

end Platform.Client

open Http Platform

/-- **The token only reaches the platform.**  With two tokens that can be sent the same comes of a
fetch, whatever is replied, and the same requests are sent, but for the credentials of the request
that asks the platform where the log is. -/
theorem fetch_token {ω : Type} {transport : Transport ω} (ht : transport.Blind)
    {token token' : Text} (htoken : isHeaderValue token) (htoken' : isHeaderValue token')
    (url : Text) (timeout : Timeout) (job : JobIdentity) (stopped : ω → Bool) (w : ω) :
    let c := Client.ofToken token url timeout
    let c' := Client.ofToken token' url timeout
    AlikeResults Eq (SameWorld (Client.SameButAsking c c' job))
      ((c.logs transport.watched fun x => stopped x.world).fetch job ⟨w, []⟩)
      ((c'.logs transport.watched fun x => stopped x.world).fetch job ⟨w, []⟩) := by
  intro c c'
  have hvalue : isHeaderValue c.token = isHeaderValue c'.token := htoken.trans htoken'.symm
  have hprepare : AlikeChecks (Client.Asks c c' job) (prepare (c.locateRequest job))
      (prepare (c'.locateRequest job)) := Client.alikeChecks_asks rfl rfl hvalue
  refine Client.runAlike_fetch (Client.alikeTransports_asks ht) Client.leads_asks hprepare rfl ?_
    ⟨w, []⟩ ⟨w, []⟩ ⟨rfl, rfl, rfl⟩
  rintro ⟨v, sent⟩ ⟨_, sent'⟩ ⟨rfl, -⟩
  rfl

/-- The location of a log redirects to another host, and neither gets a token. -/
theorem fetch_token_elsewhere :
    let located : Reply Nat :=
      ⟨302, text "Found", [(text "Location", text "https://logs.example.com/job?sig=abc")],
        fun _ => []⟩
    let moved : Reply Nat :=
      ⟨301, text "Moved", [(text "Location", text "https://elsewhere.example.com/job")],
        fun _ => []⟩
    let log : Reply Nat :=
      ⟨200, text "OK", [], fun _ => [⟨id, .ok [0x61, 0x0A]⟩, ⟨id, .ok []⟩]⟩
    let transport := Transport.prepared [located, moved, log]
    let job : JobIdentity := ⟨text "owner", text "repo", 42⟩
    let c := Client.ofToken (text "one") Client.usualUrl Client.usualTimeout
    let c' := Client.ofToken (text "another") Client.usualUrl Client.usualTimeout
    let fetched := (c.logs transport.watched fun _ => false).fetch job ⟨0, []⟩
    let fetched' := (c'.logs transport.watched fun _ => false).fetch job ⟨0, []⟩
    transport.Blind ∧ isHeaderValue (text "one") ∧ isHeaderValue (text "another") ∧
      (worldAfter fetched).sent.map (·.authorization) = [some (text "Bearer one"), none, none] ∧
      AlikeResults Eq (SameWorld (Client.SameButAsking c c' job)) fetched fetched' := by
  intro located moved log transport job c c' fetched fetched'
  have ht : transport.Blind := Transport.blind_prepared _
  have hone : isHeaderValue (text "one") := by decide
  have hanother : isHeaderValue (text "another") := by decide
  have hsent : (worldAfter fetched).sent.map (·.authorization) =
      [some (text "Bearer one"), none, none] := by decide +kernel
  exact ⟨ht, hone, hanother, hsent,
    fetch_token ht hone hanother Client.usualUrl Client.usualTimeout job (fun _ => false) 0⟩

end JobMeter
