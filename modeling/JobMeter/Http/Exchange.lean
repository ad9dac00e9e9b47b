import JobMeter.Http.Body
import JobMeter.Http.Url
import JobMeter.Text.Base64

/-!
# Exchanges

An `Exchange` is a request with its reply.

* `prepare` makes a request: its URL is normalized, and a user and a password that stand in the URL
  take the place of any other credentials;
* `send` sends it, unless its scheme is none that the transport knows;
* `Exchange.next?` is the request that a reply redirects to: it goes to the location that the reply
  gives, and takes credentials along only to the same place;
* `follow` follows redirections, up to a number of them.
-/

namespace JobMeter.Http

variable {ω : Type}

/-- A step that fails without a change in the world. -/
def lifted {α : Type} (e : Except Failure α) : EStateM Failure ω α :=
  match e with
  | .ok a => pure a
  | .error f => throw f

/-! ## Requests -/

/-- The credentials of a user: both names in bytes, one for each character. -/
def basicCredentials (user password : Text) : Except Failure Text :=
  let t := user ++ text ":" ++ password
  if t.all fun p => p.val < 0x100 then
    .ok (text "Basic " ++ Text.Base64.encode (t.map fun p => UInt8.ofNat p.val))
  else .error ⟨.unencodable, [], none⟩

/-- The credentials that stand in a URL. -/
def urlCredentials? (url : Text) : Except Failure (Option Text) := do
  match (← Reference.read url).userInfo? with
  | some (user, some password) =>
    let user := unescape user
    let password := unescape password
    if user.isEmpty && password.isEmpty then pure none
    else some <$> basicCredentials user password
  | _ => pure none

/-- Can the text be the value of a header? -/
def isHeaderValue (t : Text) : Bool := !(Text.holds '\r' t || Text.holds '\n' t)

/-- A request that can be sent. -/
def prepare (r : Request) : Except Failure Request := do
  discard (Reference.read r.url)
  let url ← requestUrl r.url
  unless (r.authorization.getD []) |> isHeaderValue do throw (Failure.ofRequest .invalidHeader)
  let given ← urlCredentials? url
  pure { r with url, authorization := given.or r.authorization }

/-- Does the transport know the scheme of a URL? -/
def isSendable (url : Text) : Bool :=
  Text.startsWith "http://" url.lower || Text.startsWith "https://" url.lower

/-- A request with its reply. -/
structure Exchange (ω : Type) where
  request : Request
  reply : Reply ω

/-- Sends a request. -/
def send (transport : Transport ω) (r : Request) : EStateM Failure ω (Exchange ω) := do
  unless isSendable r.url do throw (Failure.ofRequest .unknownScheme)
  return ⟨r, ← transport.send r⟩

/-! ## Redirections -/

/-- The statuses of replies that redirect. -/
def redirections : List Int := [301, 302, 303, 307, 308]

/-- The location that a reply redirects to.  The characters of a header are bytes, and these are
read as UTF-8. -/
def Reply.redirection? (r : Reply ω) : Except Failure (Option Text) :=
  match r.header? "location" with
  | none => .ok none
  | some location =>
    if !redirections.contains r.status then .ok none
    else if !location.all fun p => p.val < 0x100 then .error ⟨.unencodable, [], none⟩
    else
      match Text.Utf8.decode? false (location.map fun p => UInt8.ofNat p.val) with
      | none => .error ⟨.undecodable, [], none⟩
      | some [] => .ok none
      | some t => .ok (some t)

/-- The URL that a location means in the reply to a request for `base`, and the fragment that goes
along with later locations. -/
def redirected (base fragment location : Text) : Except Failure (Text × Text) := do
  let location ←
    if location.startsWith "//" then pure ((← Reference.read base).scheme ++ text ":" ++ location)
    else pure location
  let r ← Reference.read location
  let fragment := if r.fragment.isEmpty then fragment else r.fragment
  let url := Reference.write { r with fragment }
  if r.authority.isEmpty then pure (← resolve base (requote url), fragment)
  else pure (requote url, fragment)

/-- The port of a scheme. -/
def usualPort? (scheme : Text) : Option Nat :=
  if scheme == text "http" then some 80 else if scheme == text "https" then some 443 else none

/-- Do two URLs differ in their place, so that credentials for the one are not for the other? -/
def changesPlace (old new : Text) : Except Failure Bool := do
  let o ← Reference.read old
  let n ← Reference.read new
  if o.host? != n.host? then return true
  let oldPort ← o.port?
  let usual := fun (r : Reference) port => port == none || port == usualPort? r.scheme
  if o.scheme == text "http" && usual o oldPort && n.scheme == text "https" then
    if usual n (← n.port?) then return false
  let newPort ← n.port?
  if o.scheme == n.scheme && usual o oldPort && usual n newPort then return false
  return oldPort != newPort || o.scheme != n.scheme

/-- The request that a redirection asks for. -/
def Request.redirect (r : Request) (url : Text) : Except Failure Request := do
  let kept ← match r.authorization with
    | none => pure none
    | some a => pure (if ← changesPlace r.url url then none else some a)
  pure { r with url, authorization := kept }

/-- The request that a reply redirects to, and the fragment that goes along.  Its body is read
before, and what is wrong with it does not matter, as long as the connection holds. -/
def Exchange.next? (e : Exchange ω) (fragment : Text) :
    EStateM Failure ω (Option (Request × Text)) := do
  match ← lifted e.reply.redirection? with
  | none => return none
  | some location =>
    match ← e.reply.consume with
    | none | some .brokenTransfer | some .undecodableBody => pure ()
    | some k => throw (Failure.ofRequest k)
    let (url, fragment) ← lifted (redirected e.request.url fragment location)
    return some (← lifted (e.request.redirect url), fragment)

/-- How many redirections are followed. -/
def mostRedirections : Nat := 30

/-- Follows the redirections from an exchange on. -/
def follow (transport : Transport ω) :
    Nat → Text → Exchange ω → EStateM Failure ω (Exchange ω)
  | left, fragment, e => do
    match ← e.next? fragment with
    | none => return e
    | some (r, fragment) =>
      match left with
      | 0 => throw (Failure.ofRequest .tooManyRedirects)
      | left + 1 => follow transport left fragment (← send transport r)

/-- Sends a request and follows redirections. -/
def sendFollowing (transport : Transport ω) (r : Request) : EStateM Failure ω (Exchange ω) := do
  let fragment := (← lifted (Reference.read r.url)).fragment
  follow transport mostRedirections fragment (← send transport r)

/-- Refuses a reply whose status reports an error. -/
def Exchange.check (e : Exchange ω) : Except Failure Unit :=
  if e.reply.isError then .error (e.reply.statusFailure e.request.url) else .ok ()

end JobMeter.Http
