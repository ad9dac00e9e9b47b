import JobMeter.Failure
import JobMeter.Http.Address
import JobMeter.Text.Quoted

/-!
# References

A reference is a URL, or a part of one that is read relative to another.  It is cut into its
components without a look at what they hold:

* `Reference.read` and `Reference.write`, of which the second leaves out empty components;
* `Reference.host?`, `Reference.port?` and `Reference.userInfo?` look into the authority;
* `resolve` reads a reference relative to a URL.
-/

namespace JobMeter.Http

/-- A reference in its components. -/
structure Reference where
  scheme : Text
  authority : Text
  path : Text
  /-- What stands after a semicolon in the last segment of the path. -/
  parameters : Text
  query : Text
  fragment : Text
  deriving DecidableEq

namespace Reference

/-- The schemes whose references can be relative. -/
def relativeSchemes : List String :=
  ["", "ftp", "http", "gopher", "nntp", "imap", "wais", "file", "https", "shttp", "mms",
   "prospero", "rtsp", "rtsps", "rtspu", "sftp", "svn", "svn+ssh", "ws", "wss"]

/-- The schemes whose references have an authority. -/
def authoritySchemes : List String :=
  ["ftp", "http", "gopher", "nntp", "telnet", "imap", "wais", "file", "mms", "https", "shttp",
   "snews", "prospero", "rtsp", "rtsps", "rtspu", "rsync", "svn", "svn+ssh", "sftp", "nfs", "git",
   "git+ssh", "ws", "wss"]

/-- The schemes whose paths have parameters. -/
def parameterSchemes : List String :=
  ["", "ftp", "hdl", "prospero", "http", "imap", "https", "shttp", "rtsp", "rtsps", "rtspu", "sip",
   "sips", "mms", "sftp", "tel"]

/-- Is the scheme one of a list? -/
def isOneOf (schemes : List String) (scheme : Text) : Bool := schemes.any fun s => text s == scheme

/-! ## Reading -/

/-- A reference without the control characters and blanks before it, and without the tabs and line
breaks in it. -/
def clean (t : Text) : Text :=
  (t.dropWhile fun p => p.val ≤ 0x20).filter fun p => p.val != 9 && p.val != 10 && p.val != 13

/-- May the character stand in a scheme? -/
def isSchemeChar (c : Char) : Bool := c.isAlphanum || c == '+' || c == '-' || c == '.'

/-- The scheme of a reference, in lower case, and what follows it. -/
def cutScheme (t : Text) (otherwise : Text) : Text × Text :=
  match t, Text.cut? ':' t with
  | p :: _, some (scheme, rest) =>
    if p.has Char.isAlpha && scheme.all (·.has isSchemeChar) then (scheme.lower, rest)
    else (otherwise, t)
  | _, _ => (otherwise, t)

/-- A failure of a text that is no reference. -/
def refused (message : Text) : Failure := ⟨.invalidValue, message, none⟩

/-- Is it the form that future versions of addresses have? -/
def isFutureAddress (t : Text) : Bool :=
  match Text.cut? '.' t with
  | some (v :: version, address) =>
    CodePoint.is 'v' v && !version.isEmpty && version.all (fun p => (hexValue? p).isSome) &&
      !address.isEmpty
  | _ => false

/-- Checks what stands in brackets: an address of version 6 or later. -/
def checkBracketed (t : Text) : Except Failure Unit :=
  if t.startsWith "v" then
    if isFutureAddress t then pure () else throw (refused (text "IPvFuture address is invalid"))
  else if isVersion4 t then throw (refused (text "An IPv4 address cannot be in brackets"))
  else if isVersion6 t then pure ()
  else throw (refused (Text.quote t ++ text " does not appear to be an IPv4 or IPv6 address"))

/-- The characters outside ASCII that are another writing of a delimiter, or contain one. -/
def hiddenDelimiters : List Nat :=
  [0x2047, 0x2048, 0x2049, 0x2100, 0x2101, 0x2105, 0x2106, 0x2A74, 0xFE13, 0xFE16, 0xFE55, 0xFE56,
   0xFE5F, 0xFE6B, 0xFF03, 0xFF0F, 0xFF1A, 0xFF1F, 0xFF20]

/-- Checks the authority of a reference. -/
def checkAuthority (t : Text) : Except Failure Unit := do
  if Text.holds '[' t != Text.holds ']' t then throw (refused (text "Invalid IPv6 URL"))
  if Text.holds '[' t then checkBracketed (Text.cut ']' (Text.cut '[' t).2).1
  if t.any fun p => hiddenDelimiters.contains p.val then
    throw (refused (text "netloc '" ++ t ++
      text "' contains invalid characters under NFKC normalization"))

/-- Cuts the parameters off a path. -/
def cutParameters (path : Text) : Text × Text :=
  match Text.cutLast? '/' path with
  | none => Text.cut ';' path
  | some (before, last) =>
    match Text.cut? ';' last with
    | none => (path, [])
    | some (last, parameters) => (before ++ CodePoint.ofChar '/' :: last, parameters)

/-- The authority of a reference, if it has one, and what follows it. -/
def cutAuthority (t : Text) : Text × Text :=
  if t.startsWith "//" then
    (t.drop 2).span fun p => !(CodePoint.is '/' p || CodePoint.is '?' p || CodePoint.is '#' p)
  else ([], t)

/-- The components of a reference, of a scheme if it gives none. -/
def readAs (scheme : Text) (t : Text) : Except Failure Reference := do
  let (scheme, t) := cutScheme (clean t) scheme
  let (authority, t) := cutAuthority t
  let (t, fragment) := Text.cut '#' t
  let (t, query) := Text.cut '?' t
  checkAuthority authority
  let (path, parameters) := if isOneOf parameterSchemes scheme then cutParameters t else (t, [])
  pure ⟨scheme, authority, path, parameters, query, fragment⟩

/-- The components of a reference. -/
def read (t : Text) : Except Failure Reference := readAs [] t

/-! ## Writing -/

/-- A component after a character, if it is not empty. -/
def marked (c : Char) (t : Text) : Text := if t.isEmpty then [] else CodePoint.ofChar c :: t

/-- The text of a reference. -/
def write (r : Reference) : Text :=
  let path := r.path ++ marked ';' r.parameters
  let path :=
    if !r.authority.isEmpty || isOneOf authoritySchemes r.scheme || path.startsWith "//" then
      let path := if path.isEmpty || path.startsWith "/" then path else CodePoint.ofChar '/' :: path
      text "//" ++ r.authority ++ path
    else path
  let path := if r.scheme.isEmpty then path else r.scheme ++ CodePoint.ofChar ':' :: path
  path ++ marked '?' r.query ++ marked '#' r.fragment

/-! ## The authority -/

/-- The user and the password that a reference gives. -/
def userInfo? (r : Reference) : Option (Text × Option Text) :=
  (Text.cutLast? '@' r.authority).map fun (info, _) =>
    match Text.cut? ':' info with
    | some (user, password) => (user, some password)
    | none => (info, none)

/-- The host and the port of a reference as they are written. -/
def hostAndPort (r : Reference) : Text × Text :=
  let t := ((Text.cutLast? '@' r.authority).map (·.2)).getD r.authority
  match Text.cut? '[' t with
  | some (_, bracketed) =>
    let (host, rest) := Text.cut ']' bracketed
    (host, (Text.cut ':' rest).2)
  | none => Text.cut ':' t

/-- The host of a reference in lower case; the zone of an address keeps its case. -/
def host? (r : Reference) : Option Text :=
  let host := r.hostAndPort.1
  if host.isEmpty then none
  else
    match Text.cut? '%' host with
    | some (address, zone) => some (Text.lower address ++ CodePoint.ofChar '%' :: zone)
    | none => some host.lower

/-- The port of a reference. -/
def port? (r : Reference) : Except Failure (Option Nat) :=
  let port := r.hostAndPort.2
  if port.isEmpty then pure none
  else if port.all (·.has Text.isAsciiDigit) then
    let n := Text.decimalNumber port.toCharsReplacing
    if n ≤ 65535 then pure (some n) else throw (refused (text "Port out of range 0-65535"))
  else throw (refused (text "Port could not be cast to integer value as " ++ Text.quote port))

/-! ## Relative references -/

/-- The segments of a path, the last one first, after the segments `.` and `..` have been
followed. -/
def follow (segments : List Text) : List Text :=
  segments.foldl (fun done s =>
    if s == text ".." then done.drop 1 else if s == text "." then done else s :: done) []

/-- The path that a relative path leads to. -/
def resolvePath (base path : Text) : Text :=
  let segments :=
    if path.startsWith "/" then Text.splitOn '/' path
    else
      let parts := Text.splitOn '/' base
      let parts := if (parts.getLastD []).isEmpty then parts else parts.dropLast
      let all := parts ++ Text.splitOn '/' path
      all.take 1 ++ ((all.drop 1).dropLast.filter (!·.isEmpty)) ++ (all.drop 1).getLast?.toList
  let last := segments.getLastD []
  let closing := if last == text "." || last == text ".." then [[]] else []
  let path := Text.joinWith (text "/") ((follow segments).reverse ++ closing)
  if path.isEmpty then text "/" else path

end Reference

/-- The URL that a reference means where `base` is the URL of the place it stands in. -/
def resolve (base reference : Text) : Except Failure Text := do
  if base.isEmpty then return reference
  if reference.isEmpty then return base
  let b ← Reference.read base
  let r ← Reference.readAs b.scheme reference
  if r.scheme != b.scheme || !Reference.isOneOf Reference.relativeSchemes r.scheme then
    return reference
  let ranked := r.scheme.isEmpty || Reference.isOneOf Reference.authoritySchemes r.scheme
  if ranked && !r.authority.isEmpty then return r.write
  let r := if ranked then { r with authority := b.authority } else r
  if r.path.isEmpty && r.parameters.isEmpty then
    let query := if r.query.isEmpty then b.query else r.query
    return { r with path := b.path, parameters := b.parameters, query }.write
  return { r with path := Reference.resolvePath b.path r.path }.write

end JobMeter.Http
