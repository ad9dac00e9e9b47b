import Mathlib.Data.List.Forall2
import JobMeter.Platform.Client
import JobMeter.Proofs.TwoRuns

/-!
# Fetching a log twice

The same log is fetched twice, over transports whose worlds may differ, and by clients of which the
first requests may differ.  As long as the transports reply alike, the fetches run alike.

* `Pull.Alike S`, `Piece.Alike S`, `FeedItem.Alike S`, `Reply.Alike S` — the same comes, and what
  happens meanwhile keeps the worlds related by `S`.
* `Request.Leads T U` — requests that `T` relates are for the same URL, and are redirected to
  requests that `U` relates.
* `AlikeStarts T P S` — over both transports first requests that `T` relates get alike replies, in
  worlds related by `P`.
* `AlikeTransports T P S` — and so do later requests, if they are the same, in worlds related by
  `S`.
* `Platform.Client.runAlike_locate` — over transports that start alike a log is located alike.
* `Platform.Client.runAlike_fetch` — over alike transports a log is fetched alike.
-/

namespace JobMeter

variable {ω ω' : Type} {P S : ω → ω' → Prop}

/-! ## What comes alike -/

namespace Http

/-- The same comes, and what happens meanwhile keeps the worlds related. -/
structure Pull.Alike (S : ω → ω' → Prop) (p : Pull ω) (p' : Pull ω') : Prop where
  result : p.result = p'.result
  meanwhile : ∀ w w', S w w' → S (p.meanwhile w) (p'.meanwhile w')

/-- The same pieces come, and what happens meanwhile keeps the worlds related. -/
inductive Piece.Alike (S : ω → ω' → Prop) : Piece ω → Piece ω' → Prop where
  | bytes (b : List UInt8) : Alike S (.bytes b) (.bytes b)
  | meanwhile {f : ω → ω} {f' : ω' → ω'} (h : ∀ w w', S w w' → S (f w) (f' w')) :
    Alike S (.meanwhile f) (.meanwhile f')
  | fail (k : RequestKind) : Alike S (.fail k) (.fail k)

/-- The replies say the same, and their bodies come alike. -/
structure Reply.Alike (S : ω → ω' → Prop) (r : Reply ω) (r' : Reply ω') : Prop where
  status : r.status = r'.status
  reason : r.reason = r'.reason
  headers : r.headers = r'.headers
  body : ∀ amount, List.Forall₂ (Pull.Alike S) (r.body amount) (r'.body amount)

end Http

/-- The same comes from both logs, and what happens meanwhile keeps the worlds related. -/
inductive FeedItem.Alike (S : ω → ω' → Prop) : FeedItem ω → FeedItem ω' → Prop where
  | line (l : List Char) : Alike S (.line l) (.line l)
  | meanwhile {f : ω → ω} {f' : ω' → ω'} (h : ∀ w w', S w w' → S (f w) (f' w')) :
    Alike S (.meanwhile f) (.meanwhile f')
  | fail (f : Failure) : Alike S (.fail f) (.fail f)

namespace Http

/-! ## Bodies -/

namespace Reply

theorem pulled_eq {ps : List (Pull ω)} {ps' : List (Pull ω')}
    (h : List.Forall₂ (Pull.Alike S) ps ps') : pulled ps = pulled ps' := by
  induction h with
  | nil => rfl
  | cons hp hps ih =>
    rename_i p p' ps ps'
    rw [pulled, pulled, ih, hp.result]

theorem alike_remainder (b : List UInt8) :
    List.Forall₂ (Piece.Alike S) (remainder b) (remainder b) := by
  unfold remainder
  by_cases hb : b.isEmpty
  · simp [hb]
  · simp [hb, Piece.Alike.bytes]

theorem alike_map_bytes (bs : List (List UInt8)) :
    List.Forall₂ (Piece.Alike S) (bs.map Piece.bytes) (bs.map Piece.bytes) := by
  induction bs with
  | nil => exact .nil
  | cons b bs ih => exact .cons (.bytes b) ih

theorem alike_gather {ps : List (Pull ω)} {ps' : List (Pull ω')}
    (h : List.Forall₂ (Pull.Alike S) ps ps') (amount : Nat) (missing : Option Int)
    (gathered : List UInt8) (decoded : List (Option (List UInt8))) :
    List.Forall₂ (Piece.Alike S) (gather amount missing gathered ps decoded)
      (gather amount missing gathered ps' decoded) := by
  induction h generalizing missing gathered decoded with
  | nil => exact alike_remainder gathered
  | cons hp hps ih =>
    rename_i p p' ps ps'
    unfold gather
    rw [hp.result]
    refine .cons (.meanwhile hp.meanwhile) ?_
    split
    · exact .cons (.fail _) .nil
    · by_cases hmissing : missing.getD 0 = 0
      · rw [if_pos hmissing, if_pos hmissing]
        exact alike_remainder gathered
      · rw [if_neg hmissing, if_neg hmissing]
        exact .cons (.fail _) .nil
    · exact List.rel_append (alike_map_bytes _) (ih _ _ _)
    · exact .cons (.fail _) .nil

namespace Alike

variable {r : Reply ω} {r' : Reply ω'}

theorem header?_eq (h : r.Alike S r') (name : String) : r.header? name = r'.header? name := by
  rw [header?, header?, h.headers]

theorem redirection?_eq (h : r.Alike S r') : r.redirection? = r'.redirection? := by
  rw [redirection?, redirection?, h.header?_eq, h.status]

theorem charset?_eq (h : r.Alike S r') : r.charset? = r'.charset? := by
  rw [charset?, charset?, h.header?_eq]

theorem declaredLength?_eq (h : r.Alike S r') : r.declaredLength? = r'.declaredLength? := by
  rw [declaredLength?, declaredLength?, h.header?_eq, h.header?_eq, h.status]

theorem pieces (h : r.Alike S r') (amount : Nat) :
    List.Forall₂ (Piece.Alike S) (r.pieces amount) (r'.pieces amount) := by
  rw [Reply.pieces, Reply.pieces, h.header?_eq, h.declaredLength?_eq, pulled_eq (h.body amount)]
  exact alike_gather (h.body amount) _ _ _ _

end Alike

theorem consumePieces_alike {ps : List (Piece ω)} {ps' : List (Piece ω')}
    (h : List.Forall₂ (Piece.Alike S) ps ps') {w : ω} {w' : ω'} (hw : S w w') :
    (consumePieces ps w).1 = (consumePieces ps' w').1 ∧
      S (consumePieces ps w).2 (consumePieces ps' w').2 := by
  induction h generalizing w w' with
  | nil => exact ⟨rfl, hw⟩
  | cons hp hps ih =>
    cases hp with
    | bytes b => exact ih hw
    | meanwhile hf => exact ih (hf w w' hw)
    | fail k => exact ⟨rfl, hw⟩

theorem runAlike_consume {r : Reply ω} {r' : Reply ω'} (h : r.Alike S r') :
    RunAlike S S Eq r.consume r'.consume := by
  intro w w' hw
  obtain ⟨hk, hv⟩ := consumePieces_alike (h.pieces wholeAmount) hw
  exact .ok hk hv

end Reply

/-! ## Lines -/

theorem alike_map_lineItem (lines : List Text) :
    List.Forall₂ (FeedItem.Alike S) (lines.map lineItem) (lines.map lineItem) := by
  induction lines with
  | nil => exact .nil
  | cons line lines ih => exact .cons (.line _) ih

theorem alike_feedFrom {ps : List (Piece ω)} {ps' : List (Piece ω')}
    (h : List.Forall₂ (Piece.Alike S) ps ps') (d : Text.Decoder) (open_ : Text) :
    List.Forall₂ (FeedItem.Alike S) (feedFrom d open_ ps) (feedFrom d open_ ps') := by
  induction h generalizing d open_ with
  | nil =>
    rw [feedFrom, feedFrom]
    cases d.finish with
    | error f => exact .cons (.fail f) .nil
    | ok t => exact alike_map_lineItem _
  | cons hp hps ih =>
    cases hp with
    | bytes b =>
      rw [feedFrom, feedFrom]
      cases d.read b with
      | error f => exact .cons (.fail f) .nil
      | ok p => exact List.rel_append (alike_map_lineItem _) (ih _ _)
    | meanwhile hf => exact .cons (.meanwhile hf) (ih d open_)
    | fail k => exact .cons (.fail _) .nil

theorem Reply.Alike.lines {r : Reply ω} {r' : Reply ω'} (h : r.Alike S r') (charset : Text) :
    List.Forall₂ (FeedItem.Alike S) (r.lines charset) (r'.lines charset) := by
  rw [Reply.lines, Reply.lines]
  cases Text.Charset.named charset with
  | error f => exact .cons (.fail f) .nil
  | ok c => exact alike_feedFrom (h.pieces lineAmount) _ _

/-! ## Requests -/

namespace Request

/-- Requests that `T` relates are for the same URL, and are redirected to requests that `U`
relates. -/
structure Leads (T U : Request → Request → Prop) : Prop where
  url_eq : ∀ {r r'}, T r r' → r.url = r'.url
  redirect : ∀ {r r'}, T r r' → ∀ url, AlikeChecks U (r.redirect url) (r'.redirect url)

theorem leads_eq : Leads Eq Eq where
  url_eq h := by rw [h]
  redirect h url := by
    rw [h]
    exact .refl _

end Request

/-! ## Exchanges -/

/-- The requests are related by `T`, and the replies are alike. -/
structure Exchange.Alike (T : Request → Request → Prop) (S : ω → ω' → Prop) (e : Exchange ω)
    (e' : Exchange ω') : Prop where
  request : T e.request e'.request
  reply : e.reply.Alike S e'.reply

section Exchanges

variable {T U : Request → Request → Prop} {e : Exchange ω} {e' : Exchange ω'}

theorem Exchange.Alike.check_eq (hT : Request.Leads T U) (h : e.Alike T S e') :
    e.check = e'.check := by
  rw [check, check, Reply.isError, Reply.isError, Reply.statusFailure, Reply.statusFailure,
    h.reply.status, h.reply.reason, hT.url_eq h.request]

/-- There is a next request in both runs or in none, and the next requests are related. -/
def NextAlike (U : Request → Request → Prop) : Option (Request × Text) → Option (Request × Text) →
    Prop
  | none, none => True
  | some p, some p' => U p.1 p'.1 ∧ p.2 = p'.2
  | none, some _ | some _, none => False

theorem runAlike_next? (hT : Request.Leads T U) (h : e.Alike T S e') (fragment : Text) :
    RunAlike S S (NextAlike U) (e.next? fragment) (e'.next? fragment) := by
  have hnext : ∀ location, RunAlike S S (NextAlike U)
      (do
        let p ← lifted (redirected e.request.url fragment location)
        return some (← lifted (e.request.redirect p.1), p.2))
      (do
        let p ← lifted (redirected e'.request.url fragment location)
        return some (← lifted (e'.request.redirect p.1), p.2)) := by
    intro location
    rw [hT.url_eq h.request]
    refine .bind (.lifted (.refl _)) (fun _ _ => id) ?_
    rintro p _ rfl
    refine .bind (.lifted (hT.redirect h.request p.1)) (fun _ _ => id) fun r r' hr => ?_
    exact .pure (fun _ _ => id) ⟨hr, rfl⟩
  unfold Exchange.next?
  rw [h.reply.redirection?_eq]
  refine .bind (.lifted (.refl _)) (fun _ _ => id) ?_
  rintro location? _ rfl
  cases location? with
  | none => exact .pure (fun _ _ => id) trivial
  | some location =>
    refine .bind (Reply.runAlike_consume h.reply) (fun _ _ => id) ?_
    rintro k? _ rfl
    split
    · exact hnext location
    · exact hnext location
    · exact hnext location
    · exact .bind (.throw (fun _ _ => id) _) (fun _ _ => id) fun _ _ (_ : True) => hnext location

theorem runAlike_send (hT : Request.Leads T U) {r r' : Request} (h : T r r')
    {transport : Transport ω} {transport' : Transport ω'} (hstart : ∀ w w', P w w' → S w w')
    (hsend : RunAlike P S (Reply.Alike S) (transport.send r) (transport'.send r')) :
    RunAlike P S (Exchange.Alike T S) (send transport r) (send transport' r') := by
  have hrest : RunAlike P S (Exchange.Alike T S)
      (do return (⟨r, ← transport.send r⟩ : Exchange ω))
      (do return (⟨r', ← transport'.send r'⟩ : Exchange ω')) :=
    .bind hsend (fun _ _ => id) fun reply reply' hreply => .pure (fun _ _ => id) ⟨h, hreply⟩
  unfold send
  rw [hT.url_eq h]
  exact .ite hrest (.bind (.throw (fun _ _ => id) _) hstart fun _ _ (_ : True) => hrest)

end Exchanges

/-- Over both transports first requests that `T` relates get alike replies, in worlds related by
`P`. -/
structure AlikeStarts (T : Request → Request → Prop) (P S : ω → ω' → Prop)
    (transport : Transport ω) (transport' : Transport ω') : Prop where
  start : ∀ w w', P w w' → S w w'
  first : ∀ r r', T r r' →
    RunAlike P S (Reply.Alike S) (transport.send r) (transport'.send r')

/-- Over both transports requests get alike replies: first requests that `T` relates, in worlds
related by `P`; later requests, if they are the same, in worlds related by `S`. -/
structure AlikeTransports (T : Request → Request → Prop) (P S : ω → ω' → Prop)
    (transport : Transport ω) (transport' : Transport ω') : Prop
    extends AlikeStarts T P S transport transport' where
  later : ∀ r, RunAlike S S (Reply.Alike S) (transport.send r) (transport'.send r)
  release : ∀ w w', S w w' → S (transport.release w) (transport'.release w')

section Following

variable {T : Request → Request → Prop} {transport : Transport ω} {transport' : Transport ω'}

theorem runAlike_follow (ht : AlikeTransports T P S transport transport') (left : Nat)
    (fragment : Text) {e : Exchange ω} {e' : Exchange ω'} (h : e.Alike Eq S e') :
    RunAlike S S (Exchange.Alike Eq S) (follow transport left fragment e)
      (follow transport' left fragment e') := by
  induction left generalizing fragment e e' with
  | zero =>
    unfold follow
    refine .bind (runAlike_next? Request.leads_eq h fragment) (fun _ _ => id) ?_
    rintro (_ | p) (_ | p') hnext
    · exact .pure (fun _ _ => id) h
    · exact hnext.elim
    · exact hnext.elim
    · exact .throw (fun _ _ => id) _
  | succ left ih =>
    unfold follow
    refine .bind (runAlike_next? Request.leads_eq h fragment) (fun _ _ => id) ?_
    rintro (_ | ⟨r, fragment⟩) (_ | ⟨r', fragment'⟩) hnext
    · exact .pure (fun _ _ => id) h
    · exact hnext.elim
    · exact hnext.elim
    · obtain ⟨rfl, rfl⟩ : r = r' ∧ fragment = fragment' := hnext
      exact .bind (runAlike_send Request.leads_eq rfl (fun _ _ => id) (ht.later r)) (fun _ _ => id)
        fun e e' h => ih fragment h

theorem runAlike_sendFollowing (ht : AlikeTransports T P S transport transport') (r : Request) :
    RunAlike S S (Exchange.Alike Eq S) (sendFollowing transport r)
      (sendFollowing transport' r) := by
  unfold sendFollowing
  refine .bind (.lifted (.refl _)) (fun _ _ => id) ?_
  rintro reference _ rfl
  exact .bind (runAlike_send Request.leads_eq rfl (fun _ _ => id) (ht.later r)) (fun _ _ => id)
    fun e e' h => runAlike_follow ht mostRedirections _ h

end Following

end Http

/-! ## Reading a log -/

/-- The logs are read alike, whatever charset they are read in. -/
structure LogStream.Alike (S : ω → ω' → Prop) (stream : LogStream ω) (stream' : LogStream ω') :
    Prop where
  charset : stream.charset = stream'.charset
  feed : ∀ charset, List.Forall₂ (FeedItem.Alike S) (stream.feed charset) (stream'.feed charset)

namespace LogSource

variable {source : LogSource ω} {source' : LogSource ω'} {α : Type} {R : α → α → Prop}

theorem runAlike_readFeed (hstopped : ∀ w w', S w w' → source.stopped w = source'.stopped w')
    (job : Int) (p : Log.Progress) {feed : List (FeedItem ω)} {feed' : List (FeedItem ω')}
    (h : List.Forall₂ (FeedItem.Alike S) feed feed') :
    RunAlike S S Eq (source.readFeed job p feed) (source'.readFeed job p feed') := by
  induction h generalizing p with
  | nil => exact .pure (fun _ _ => id) rfl
  | cons hitem hfeed ih =>
    cases hitem with
    | line l =>
      unfold readFeed
      intro w w' hw
      refine RunAlike.bind .get (fun _ _ => id) (fun v v' hv => ?_) w w' hw
      rw [hstopped v v' hv]
      exact .ite (.throw (fun _ _ => id) _) (ih _)
    | meanwhile hf =>
      unfold readFeed
      exact .bind (.modify hf) (fun _ _ => id) fun _ _ _ => ih p
    | fail f =>
      unfold readFeed
      exact .ite (.throw (fun _ _ => id) _) (.throw (fun _ _ => id) _)

theorem runAlike_ending {act : EStateM Failure ω α} {act' : EStateM Failure ω' α}
    {last : ω → ω} {last' : ω' → ω'} (h : RunAlike P S R act act')
    (hlast : ∀ w w', S w w' → S (last w) (last' w')) :
    RunAlike P S R (ending act last) (ending act' last') := by
  intro w w' hw
  have hresults := h w w' hw
  unfold ending
  generalize act w = x, act' w' = x' at hresults
  cases hresults with
  | ok ha hv => exact .ok ha (hlast _ _ hv)
  | error f hv => exact .error f (hlast _ _ hv)

/-- Logs that are found and opened alike are fetched alike. -/
theorem runAlike_fetch {job : JobIdentity}
    (hstopped : ∀ w w', S w w' → source.stopped w = source'.stopped w')
    (hrelease : ∀ w w', S w w' → S (source.release w) (source'.release w'))
    (hlocate : RunAlike P S Eq (source.locate job) (source'.locate job))
    (hretrieve : ∀ url, RunAlike S S (LogStream.Alike S) (source.retrieve url)
      (source'.retrieve url)) :
    RunAlike P S Eq (source.fetch job) (source'.fetch job) := by
  have hopen : RunAlike P S (LogStream.Alike S) (source.openLog job) (source'.openLog job) := by
    unfold openLog
    refine .tryCatch (.bind hlocate (fun _ _ => id) ?_) fun f => ?_
    · rintro url _ rfl
      exact hretrieve url
    · exact .ite (.throw (fun _ _ => id) _) (.throw (fun _ _ => id) _)
  unfold fetch
  refine .bind hopen (fun _ _ => id) fun stream stream' h => ?_
  rw [h.charset]
  exact runAlike_ending (runAlike_readFeed hstopped job.job {} (h.feed _)) hrelease

end LogSource

/-! ## The client of the platform -/

namespace Platform.Client

open Http

variable {T U : Request → Request → Prop} {c c' : Client} {transport : Transport ω}
  {transport' : Transport ω'}

theorem runAlike_refusing {α α' : Type} {R : α → α' → Prop} {act : EStateM Failure ω α}
    {act' : EStateM Failure ω' α'} (h : RunAlike P S R act act') :
    RunAlike P S R (refusing act) (refusing act') := by
  intro w w' hw
  have hresults := h w w' hw
  unfold refusing
  generalize act w = x, act' w' = x' at hresults
  cases hresults with
  | ok ha hv => exact .ok ha hv
  | error f hv => exact .error _ hv

theorem runAlike_settle {e : Exchange ω} {e' : Exchange ω'} (h : e.reply.Alike S e'.reply) :
    RunAlike S S Eq (settle e) (settle e') := by
  unfold settle
  refine .bind (Reply.runAlike_consume h) (fun _ _ => id) ?_
  rintro k? _ rfl
  cases k? with
  | none => exact .pure (fun _ _ => id) rfl
  | some k => exact .throw (fun _ _ => id) _

theorem runAlike_ask (ht : AlikeStarts T P S transport transport') (hT : Request.Leads T U)
    {r r' : Request} (h : AlikeChecks T (prepare r) (prepare r')) :
    RunAlike P S (Exchange.Alike T S) (ask transport r) (ask transport' r') := by
  unfold ask
  refine .bind (.lifted h) ht.start fun r r' h => ?_
  refine .bind (runAlike_send hT h ht.start (ht.first r r' h)) (fun _ _ => id) ?_
  intro e e' he
  rw [he.check_eq hT, hT.url_eq he.request]
  have hrest : RunAlike S S (Exchange.Alike T S)
      (do
        lifted e'.check
        return e)
      (do
        lifted e'.check
        return e') :=
    .bind (.lifted (.refl _)) (fun _ _ => id) fun _ _ _ => .pure (fun _ _ => id) he
  refine .bind (.lifted (.refl _)) (fun _ _ => id) ?_
  rintro reference _ rfl
  refine .bind (runAlike_next? hT he _) (fun _ _ => id) ?_
  rintro (_ | p) (_ | p') hnext
  · exact .bind (runAlike_settle he.reply) (fun _ _ => id) fun _ _ _ => hrest
  · exact hnext.elim
  · exact hnext.elim
  · exact hrest

/-- **Over transports that start alike a log is located alike.** -/
theorem runAlike_locate (ht : AlikeStarts T P S transport transport') (hT : Request.Leads T U)
    {job : JobIdentity}
    (h : AlikeChecks T (prepare (c.locateRequest job)) (prepare (c'.locateRequest job))) :
    RunAlike P S Eq (c.locate transport job) (c'.locate transport' job) := by
  refine runAlike_refusing (.bind (runAlike_ask ht hT h) (fun _ _ => id) fun e e' he => ?_)
  rw [he.reply.header?_eq, he.reply.status]
  split
  · exact .throw (fun _ _ => id) _
  · exact .throw (fun _ _ => id) _
  · exact .pure (fun _ _ => id) rfl

theorem runAlike_retrieve (ht : AlikeTransports T P S transport transport')
    (htimeout : c.timeout = c'.timeout) (url : Text) :
    RunAlike S S (Exchange.Alike Eq S) (c.retrieve transport url)
      (c'.retrieve transport' url) := by
  have hrequest : c.retrieveRequest url = c'.retrieveRequest url := by
    unfold retrieveRequest
    rw [htimeout]
  refine runAlike_refusing ?_
  rw [hrequest]
  refine .bind (.lifted (.refl _)) (fun _ _ => id) ?_
  rintro r _ rfl
  refine .bind (runAlike_sendFollowing ht r) (fun _ _ => id) fun e e' he => ?_
  rw [he.check_eq Request.leads_eq]
  cases e'.check with
  | ok _ => exact .pure (fun _ _ => id) he
  | error f =>
    exact .bind (.modify ht.release) (fun _ _ => id) fun _ _ _ => .throw (fun _ _ => id) f

theorem logs_locate (stopped : ω → Bool) (job : JobIdentity) :
    (c.logs transport stopped).locate job = c.locate transport job := by
  rw [logs]

/-- **Over alike transports a log is fetched alike.** -/
theorem runAlike_fetch (ht : AlikeTransports T P S transport transport') (hT : Request.Leads T U)
    {job : JobIdentity}
    (h : AlikeChecks T (prepare (c.locateRequest job)) (prepare (c'.locateRequest job)))
    (htimeout : c.timeout = c'.timeout) {stopped : ω → Bool} {stopped' : ω' → Bool}
    (hstopped : ∀ w w', S w w' → stopped w = stopped' w') :
    RunAlike P S Eq ((c.logs transport stopped).fetch job)
      ((c'.logs transport' stopped').fetch job) := by
  refine LogSource.runAlike_fetch hstopped ht.release ?_ fun url => ?_
  · rw [logs_locate, logs_locate]
    exact runAlike_locate ht.toAlikeStarts hT h
  · refine .bind (runAlike_retrieve ht htimeout url) (fun _ _ => id) fun e e' he => ?_
    exact .pure (fun _ _ => id) ⟨he.reply.charset?_eq, he.reply.lines⟩

end Platform.Client

end JobMeter
