import JobMeter.Http.HostName
import JobMeter.Http.Reference

/-!
# The URL of a request

A request names its target by an absolute URL of the schemes `http` and `https` in a normal form:
scheme and host in lower case, the host in ASCII, no dot segments in the path, and everything
escaped that a URL may not hold.

* `Url.parse?` reads a URL into its components and normalizes each of them;
* `Url.write` writes it;
* `requestUrl` is the normal form, or the reason why there is none.
-/

namespace JobMeter.Http

/-- A URL in its components. -/
structure Url where
  scheme : Option Text
  /-- The user, and possibly a password. -/
  userInfo : Text
  host : Text
  port : Option Nat
  path : Text
  query : Text
  fragment : Text
  deriving DecidableEq

namespace Url

/-- What may stand in the part of a URL that names the user. -/
def inUserInfo (c : Char) : Bool := isUnreserved c || isSubDelimiter c || c == ':'

/-- What may stand in a path. -/
def inPath (c : Char) : Bool := inUserInfo c || c == '@' || c == '/'

/-- What may stand in a query or a fragment. -/
def inQuery (c : Char) : Bool := inPath c || c == '?'

/-- Is there nothing to cut a scheme off from, but a scheme or a path? -/
def startsPath (t : Text) : Bool :=
  t.startsWith "/" ||
    match t, Text.cut? ':' t with
    | p :: _, some (scheme, _) =>
      p.has Char.isAlpha && scheme.all (·.has fun c => c.isAlphanum || c == '+' || c == '-')
    | _, _ => false

/-- The scheme of a URL, in lower case, and what follows it. -/
def cutScheme (t : Text) : Option Text × Text :=
  match t, Text.cut? ':' t with
  | p :: _, some (scheme, rest) =>
    if p.has Char.isAlpha && scheme.all (·.has Reference.isSchemeChar) then
      (some scheme.lower, rest)
    else (none, t)
  | _, _ => (none, t)

/-- The port that a text writes: at most five digits after zeros. -/
def port? (t : Text) : Option (Option Nat) :=
  if t.all (·.has Text.isAsciiDigit) then
    if t.isEmpty then some none
    else
      let n := Text.decimalNumber t.toCharsReplacing
      if n ≤ 65535 then some (some n) else none
  else none

/-- Is it a name, in which escapes may stand? -/
def isName : Text → Bool
  | [] => true
  | p :: r =>
    if CodePoint.is '%' p then
      match r with
      | a :: b :: r => (byteOf? a b).isSome && isName r
      | _ => false
    else !(CodePoint.is '[' p || CodePoint.is ']' p || CodePoint.is ':' p) && isName r

/-- The host and the port of an authority, as they are written.  A line break after an address or a
port counts for nothing. -/
def hostAndPort? (t : Text) : Option (Text × Option Nat) := do
  let (host, rest) ←
    if t.startsWith "[" then do
      let (address, rest) ← Text.cut? ']' t
      if isVersion6 (address.drop 1) then pure (address ++ text "]", rest) else none
    else
      let (host, rest) := t.span fun p => !CodePoint.is ':' p
      if isName host then pure (host, rest) else none
  let rest := if rest.getLast? == some (CodePoint.ofChar '\n') then rest.dropLast else rest
  match rest with
  | [] => pure (host, none)
  | p :: port => if CodePoint.is ':' p then (port? port).map fun port => (host, port) else none

/-- An address in brackets in its normal form: its zone keeps its case. -/
def lowerAddress? (t : Text) : Option Text :=
  match Text.cut? '%' t with
  | none => some t.lower
  | some (address, zone) =>
    let zone := zone.take (zone.length - 1)
    if isName zone && zone.all (fun p => p.has (fun c => isUnreserved c || c == '%')) then
      let zone := if Text.startsWith "25" zone && zone.length != 2 then zone.drop 2 else zone
      some (address.lower ++ text "%" ++ escapeRest isUnreserved zone ++ text "]")
    else none

/-- A path without dot segments. -/
def removeDots (path : Text) : Text :=
  let kept := (Reference.follow (Text.splitOn '/' path)).reverse
  let kept := if path.startsWith "/" && kept.head? != some [] then [] :: kept else kept
  let last := (Text.splitOn '/' path).getLastD []
  let closed :=
    if Text.holds '/' path && (last == text "." || last == text "..") then kept ++ [[]] else kept
  Text.joinWith (text "/") closed

/-- The components of a URL.  Those of another scheme than `http` and `https` are left as they
are. -/
def parse? (t : Text) : Option Url := do
  let t := if startsPath t || t.isEmpty then t else text "//" ++ t
  let (scheme, t) := cutScheme t
  let normal := scheme == none || scheme == some (text "http") || scheme == some (text "https")
  let (authority, t) :=
    if t.startsWith "//" then
      (t.drop 2).span fun p =>
        !(CodePoint.is '\\' p || CodePoint.is '/' p || CodePoint.is '?' p || CodePoint.is '#' p)
    else ([], t)
  let (t, fragment) := Text.cut '#' t
  let (path, query) := Text.cut '?' t
  let (info, rest) := (Text.cutLast? '@' authority).getD ([], authority)
  let (host, port) ← if authority.isEmpty then some ([], none) else hostAndPort? rest
  if normal then
    let host ← if Text.startsWith "[" host then lowerAddress? host else HostName.toAscii? host
    pure ⟨scheme, escapeRest inUserInfo info, host, port, escapeRest inPath (removeDots path),
      escapeRest inQuery query, escapeRest inQuery fragment⟩
  else pure ⟨scheme, info, host, port, path, query, fragment⟩

/-- A URL as a text. -/
def write (u : Url) : Text :=
  let port :=
    match u.port with
    | none | some 0 => []
    | some n => text ":" ++ text (toString n)
  let info := if u.userInfo.isEmpty then [] else u.userInfo ++ text "@"
  let path := if u.path.startsWith "/" then u.path else CodePoint.ofChar '/' :: u.path
  (u.scheme.getD []) ++ text "://" ++ info ++ u.host ++ port ++ path ++
    Reference.marked '?' u.query ++ Reference.marked '#' u.fragment

end Url

/-- The normal form of the URL of a request.  A URL that does not start like one of the scheme
`http` is left as it is. -/
def requestUrl (t : Text) : Except Failure Text := do
  let t := Text.stripLeft (·.has Text.isBlank) t
  if Text.holds ':' t && !(Text.lower (t.take 4)).startsWith "http" then return t
  match Url.parse? t with
  | none => throw (Failure.ofRequest .invalidUrl)
  | some u =>
    if u.scheme.isNone then throw (Failure.ofRequest .missingScheme)
    if u.host.isEmpty then throw (Failure.ofRequest .invalidUrl)
    if u.host.startsWith "*" || u.host.startsWith "." then throw (Failure.ofRequest .invalidUrl)
    return requote u.write

end JobMeter.Http
