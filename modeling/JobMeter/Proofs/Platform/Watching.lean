import JobMeter.Proofs.Platform.Alike

/-!
# Watching a transport

To say which requests are sent, a transport is watched: an account is kept of them.

* `Http.Watched ω`, `Http.Transport.watched` — a world with the requests that were sent in it, and
  the transport that keeps this account.
* `Platform.Client.runAlike_fetch_watched` — **watching changes nothing**: a log is fetched as it is
  without the account.
* `Http.SameWorld Q`, `Http.alikeTransports_watched` — two runs over the same transport whose
  accounts `Q` relates.
* `Platform.Client.asked`, `Platform.Client.asked_eq` — the requests that are sent to ask where the
  log of a job is: there is one at most, the one that the client makes.
-/

namespace JobMeter

variable {ω : Type} {transport : Http.Transport ω}

/-- The world that an action leaves, whether it failed or not. -/
def worldAfter {α : Type} : EStateM.Result Failure ω α → ω
  | .ok _ w => w
  | .error _ w => w

theorem AlikeResults.worldAfter {α α' ω' : Type} {R : α → α' → Prop} {S : ω → ω' → Prop}
    {x : EStateM.Result Failure ω α} {x' : EStateM.Result Failure ω' α'}
    (h : AlikeResults R S x x') : S (worldAfter x) (worldAfter x') := by
  cases h with
  | ok _ hw => exact hw
  | error _ hw => exact hw

namespace Http

/-! ## The account -/

/-- A world, and the requests that were sent in it. -/
structure Watched (ω : Type) where
  world : ω
  /-- The first request comes first. -/
  sent : List Request

/-- Something happens in the world. -/
def Watched.on (f : ω → ω) (x : Watched ω) : Watched ω := { x with world := f x.world }

def Pull.watched (p : Pull ω) : Pull (Watched ω) := ⟨Watched.on p.meanwhile, p.result⟩

def Reply.watched (r : Reply ω) : Reply (Watched ω) :=
  ⟨r.status, r.reason, r.headers, fun amount => (r.body amount).map Pull.watched⟩

/-- The transport with an account of what is sent over it. -/
def Transport.watched (transport : Transport ω) : Transport (Watched ω) where
  send r x :=
    match transport.send r x.world with
    | .ok reply w => .ok reply.watched ⟨w, x.sent ++ [r]⟩
    | .error f w => .error f ⟨w, x.sent ++ [r]⟩
  release := Watched.on transport.release

/-! ## Watching changes nothing -/

/-- The world, whatever the account. -/
def IsWorldOf (x : Watched ω) (w : ω) : Prop := x.world = w

theorem isWorldOf_on (f : ω → ω) (x : Watched ω) (w : ω) (h : IsWorldOf x w) :
    IsWorldOf (x.on f) (f w) := congrArg f h

theorem Reply.alike_watched (r : Reply ω) : r.watched.Alike IsWorldOf r where
  status := rfl
  reason := rfl
  headers := rfl
  body amount := by
    refine List.forall₂_map_left_iff.2 (List.forall₂_same.2 fun p _ => ?_)
    exact ⟨rfl, isWorldOf_on p.meanwhile⟩

theorem runAlike_send_watched (r : Request) :
    RunAlike IsWorldOf IsWorldOf (Reply.Alike IsWorldOf) (transport.watched.send r)
      (transport.send r) := by
  rintro x w rfl
  unfold Transport.watched
  dsimp only
  cases transport.send r x.world with
  | ok reply w => exact .ok reply.alike_watched rfl
  | error f w => exact .error f rfl

end Http

open Http

/-- **Watching changes nothing.**  Over a watched transport a log is fetched as it is without the
account. -/
theorem Platform.Client.runAlike_fetch_watched (c : Client) (transport : Transport ω)
    (stopped : ω → Bool) (job : JobIdentity) :
    RunAlike IsWorldOf IsWorldOf Eq
      ((c.logs transport.watched fun x => stopped x.world).fetch job)
      ((c.logs transport stopped).fetch job) := by
  have ht : AlikeTransports Eq IsWorldOf IsWorldOf transport.watched transport := by
    refine ⟨⟨fun _ _ => id, ?_⟩, runAlike_send_watched, isWorldOf_on transport.release⟩
    rintro r _ rfl
    exact runAlike_send_watched r
  refine Client.runAlike_fetch ht Request.leads_eq (.refl _) rfl ?_
  rintro x _ rfl
  rfl

namespace Http

/-! ## Two accounts -/

section Accounts

variable {Q Q' : List Request → List Request → Prop} {T : Request → Request → Prop}

/-- The worlds are the same, and `Q` relates the accounts. -/
def SameWorld (Q : List Request → List Request → Prop) (x y : Watched ω) : Prop :=
  x.world = y.world ∧ Q x.sent y.sent

theorem sameWorld_on (f : ω → ω) (x y : Watched ω) (h : SameWorld Q x y) :
    SameWorld Q (x.on f) (y.on f) := ⟨congrArg f h.1, h.2⟩

theorem Reply.sameWorld_watched (r : Reply ω) : r.watched.Alike (SameWorld Q) r.watched where
  status := rfl
  reason := rfl
  headers := rfl
  body amount := by
    refine List.forall₂_map_left_iff.2 (List.forall₂_map_right_iff.2 (List.forall₂_same.2 ?_))
    exact fun p _ => ⟨rfl, sameWorld_on p.meanwhile⟩

/-- Requests that get the same reply are sent alike. -/
theorem sameWorld_send {r r' : Request} (hsame : ∀ w, transport.send r w = transport.send r' w)
    (hQ : ∀ l l', Q l l' → Q' (l ++ [r]) (l' ++ [r'])) :
    RunAlike (SameWorld Q) (SameWorld Q') (Reply.Alike (SameWorld Q'))
      (transport.watched.send r) (transport.watched.send r') := by
  rintro ⟨w, l⟩ ⟨_, l'⟩ ⟨rfl, hl⟩
  unfold Transport.watched
  dsimp only
  rw [hsame w]
  cases transport.send r' w with
  | ok reply w => exact .ok reply.sameWorld_watched ⟨rfl, hQ l l' hl⟩
  | error f w => exact .error f ⟨rfl, hQ l l' hl⟩

theorem alikeStarts_watched
    (hsame : ∀ r r', T r r' → ∀ w, transport.send r w = transport.send r' w)
    (hstart : ∀ l l', Q l l' → Q' l l')
    (hfirst : ∀ r r', T r r' → ∀ l l', Q l l' → Q' (l ++ [r]) (l' ++ [r'])) :
    AlikeStarts T (SameWorld Q) (SameWorld Q') transport.watched transport.watched where
  start _ _ h := ⟨h.1, hstart _ _ h.2⟩
  first r r' h := sameWorld_send (hsame r r' h) (hfirst r r' h)

theorem alikeTransports_watched
    (ht : AlikeStarts T (SameWorld Q) (SameWorld Q') transport.watched transport.watched)
    (hlater : ∀ r l l', Q' l l' → Q' (l ++ [r]) (l' ++ [r])) :
    AlikeTransports T (SameWorld Q) (SameWorld Q') transport.watched transport.watched where
  toAlikeStarts := ht
  later r := sameWorld_send (fun _ => rfl) (hlater r)
  release := sameWorld_on transport.release

end Accounts

end Http

/-! ## Asking where a log is -/

namespace Platform.Client

/-- The requests that are sent to ask where the log of a job is. -/
def asked (c : Client) (transport : Transport ω) (job : JobIdentity) (w : ω) : List Request :=
  (worldAfter (c.locate transport.watched job ⟨w, []⟩)).sent

/-- There is one request at most, the one that the client makes. -/
theorem asked_eq (c : Client) (transport : Transport ω) (job : JobIdentity) (w : ω) :
    c.asked transport job w = [] ∨
      ∃ r, prepare (c.locateRequest job) = .ok r ∧ c.asked transport job w = [r] := by
  let T (r r' : Request) : Prop := r = r' ∧ prepare (c.locateRequest job) = .ok r
  let Q (l _ : List Request) : Prop := l = []
  let Q' (l _ : List Request) : Prop :=
    l = [] ∨ ∃ r, prepare (c.locateRequest job) = .ok r ∧ l = [r]
  have hT : Request.Leads T Eq := by
    refine ⟨fun h => by rw [h.1], ?_⟩
    rintro r _ ⟨rfl, -⟩ url
    exact .refl _
  have ht : AlikeStarts T (SameWorld Q) (SameWorld Q') transport.watched transport.watched := by
    refine alikeStarts_watched ?_ (fun l l' => .inl) ?_
    · rintro r _ ⟨rfl, -⟩ w
      rfl
    · rintro r _ ⟨-, hr⟩ l l' rfl
      exact .inr ⟨r, hr, rfl⟩
  have hprepare :
      AlikeChecks T (prepare (c.locateRequest job)) (prepare (c.locateRequest job)) := by
    cases h : prepare (c.locateRequest job) with
    | ok r => exact .ok ⟨rfl, h⟩
    | error f => exact .error f
  have hlocate := runAlike_locate ht hT hprepare ⟨w, []⟩ ⟨w, []⟩ ⟨rfl, rfl⟩
  exact hlocate.worldAfter.2

end Platform.Client

end JobMeter
