import JobMeter.Schema.Fault

/-!
# Failures

A `Failure` has a kind, a message, and possibly the kind of the failure that caused it.  The kinds
form groups that are handled together:

* `platform`: the platform that runs the jobs refused a request or did not answer it properly;
* `jobLogs`: the log of a job cannot be had;
* `request`: an exchange over HTTP went wrong;
* the others are failures of a part of the service or of what it is connected to.

`FailureKind.isOrdinary` tells failures from a demand to end the process.
-/

namespace JobMeter

/-- Failures of the platform. -/
inductive PlatformKind where
  /-- Any of them. -/
  | general
  /-- An answer that is of no use. -/
  | api
  /-- The token is refused. -/
  | token
  /-- There is no such job. -/
  | notFound
  deriving DecidableEq, Repr

/-- Failures of an exchange over HTTP. -/
inductive RequestKind where
  /-- Any of them. -/
  | general
  /-- The answer has a status that reports an error, if it is known which one. -/
  | status (code : Option Int)
  | connection
  | proxy
  | tls
  | timeout
  | connectTimeout
  | readTimeout
  | noUrl
  | tooManyRedirects
  | missingScheme
  | unknownScheme
  | invalidUrl
  | invalidHeader
  | invalidProxyUrl
  /-- The body ended before its time, or its chunks are malformed. -/
  | brokenTransfer
  /-- The body is not in the coding it claims to be in. -/
  | undecodableBody
  /-- The body has been read already. -/
  | consumedBody
  | retriesExhausted
  | notRewindable
  | invalidJson
  deriving DecidableEq, Repr

/-- Kinds of failures. -/
inductive FailureKind where
  | platform (k : PlatformKind)
  | jobLogs
  | request (k : RequestKind)
  /-- A value that an operation does not admit. -/
  | invalidValue
  /-- A number beyond what can be counted with. -/
  | overflow
  /-- A numeral without a single character. -/
  | emptyNumeral
  /-- A text that is no date. -/
  | noDate
  /-- A key that a table does not hold. -/
  | unknownKey
  /-- A charset that is not known. -/
  | unknownCharset
  /-- A text whose charset cannot be applied. -/
  | charset
  /-- A text that a charset cannot write. -/
  | unencodable
  /-- Bytes that a charset cannot read. -/
  | undecodable
  /-- A document that does not have the form it should have. -/
  | invalidDocument (faults : List Schema.Fault)
  /-- A text that is not a document at all. -/
  | malformedDocument
  /-- A failure of another part, under the name that part gives it. -/
  | foreign (name : String)
  /-- A demand to end the process. -/
  | exit (name : String)
  deriving DecidableEq

/-- Is it a failure, and not a demand to end the process? -/
def FailureKind.isOrdinary : FailureKind → Bool
  | .exit _ => false
  | _ => true

/-- A failure. -/
structure Failure where
  kind : FailureKind
  message : Text := []
  /-- The kind of the failure behind it. -/
  cause : Option FailureKind := none
  deriving DecidableEq

namespace Failure

/-- A failure with a message. -/
def of (kind : FailureKind) (message : String) : Failure := ⟨kind, text message, none⟩

/-- A failure of an exchange. -/
def ofRequest (kind : RequestKind) : Failure := ⟨.request kind, [], none⟩

/-- Does a handler for failures see it? -/
def isOrdinary (f : Failure) : Bool := f.kind.isOrdinary

/-- Is it one of the failures of the platform? -/
def isPlatform (f : Failure) : Bool := f.kind matches .platform _

/-- Is it one of the failures of an exchange? -/
def isRequest (f : Failure) : Bool := f.kind matches .request _

end Failure

end JobMeter
