import SourceAtlas.Text.Cut

/-!
# Errors

Everything that can make a scan or a summary fail, by its cause.  The wording of each cause is in
one place; where a cause has an inner one, as a root that cannot be read has, the inner text is part
of the cause.
-/

namespace SourceAtlas

/-- A span of time in milliseconds, written in the largest unit that it fills: seconds with a
decimal fraction, or milliseconds. -/
def renderMillis (ms : Nat) : String :=
  if ms = 0 then "0ns"
  else if ms < 1000 then s!"{ms}ms"
  else
    let fraction := toString (1000 + ms % 1000)
    let digits := (fraction.toList.drop 1).reverse.dropWhile (· = '0')
    if digits.isEmpty then s!"{ms / 1000}s"
    else s!"{ms / 1000}." ++ String.ofList digits.reverse ++ "s"

/-- The text without everything beyond a budget of octets; only whole characters are kept. -/
def takeOctets : Nat → List Char → List Char
  | _, [] => []
  | budget, c :: rest =>
    if c.utf8Size ≤ budget then c :: takeOctets (budget - c.utf8Size) rest else []

/-- How many octets of a reply an error quotes. -/
def quoteLimit : Nat := 400

/-- A reply as an error quotes it (`truncate_for_error`): cut after `quoteLimit` octets, with three
dots if it was longer. -/
def quoteReply (body : String) : String :=
  if body.utf8ByteSize ≤ quoteLimit then body
  else String.ofList (takeOctets quoteLimit body.toList) ++ "..."

/-- Why a configuration is of no use. -/
inductive ConfigError where
  /-- The configuration file is no valid configuration. -/
  | invalidFile (detail : String)
  /-- The configuration file cannot be read. -/
  | unreadable (path detail : String)
  /-- An ignore glob is malformed. -/
  | badGlob (glob detail : String)
  /-- Generated summaries are asked for without an endpoint. -/
  | endpointMissing
  /-- Any other cause, in words. -/
  | stated (text : String)
  deriving DecidableEq, Repr

/-- The name of the configuration file in the root of a project. -/
def configFileName : String := ".code-doc.toml"

/-- The wording of a configuration error. -/
def ConfigError.message : ConfigError → String
  | invalidFile detail => s!"Invalid {configFileName}: {detail}"
  | unreadable path detail => s!"Cannot read {path}: {detail}"
  | badGlob glob detail => "Invalid ignore glob '" ++ glob ++ "': " ++ detail
  | endpointMissing => "summarizer.endpoint is not set"
  | stated text => text

/-- Why a generated summary could not be had. -/
inductive SummaryError where
  /-- No reply came within the given number of milliseconds. -/
  | timedOut (millis : Nat) (model : String)
  /-- The request could not be sent. -/
  | requestFailed (model detail : String)
  /-- The reply broke off. -/
  | bodyUnreadable (detail : String)
  /-- The endpoint refused. -/
  | refused (status body : String)
  /-- The reply is not of the expected form. -/
  | invalidReply (detail body : String)
  /-- The reply offers nothing. -/
  | noChoices
  /-- The reply offers a blank text. -/
  | emptyContent
  /-- Any other cause, in words. -/
  | stated (text : String)
  deriving DecidableEq, Repr

/-- The wording of a summary error. -/
def SummaryError.message : SummaryError → String
  | timedOut millis model =>
    "request timed out after " ++ renderMillis millis ++ " (model=" ++ model ++ ")"
  | requestFailed model detail => s!"request failed (model={model}): {detail}"
  | bodyUnreadable detail => s!"failed to read response body: {detail}"
  | refused status body => s!"endpoint returned HTTP {status}: " ++ quoteReply body
  | invalidReply detail body =>
    s!"invalid JSON from endpoint: {detail} (body=" ++ quoteReply body ++ ")"
  | noChoices => "response had no choices"
  | emptyContent => "response had empty message content"
  | stated text => text

/-- Why a scan or a summary failed (`AnalyzerError`). -/
inductive Error where
  /-- The root of the project does not exist. -/
  | rootNotFound (path : String)
  /-- The root of the project cannot be listed. -/
  | rootNotReadable (path cause : String)
  /-- The scan was called off. -/
  | cancelled
  /-- A file operation failed. -/
  | io (cause : String)
  /-- An extraction pattern is malformed. -/
  | pattern (cause : String)
  /-- The configuration is of no use. -/
  | config (cause : ConfigError)
  /-- A summary could not be had. -/
  | summarizer (cause : SummaryError)
  /-- The workers could not be started. -/
  | threadPool (cause : String)
  deriving DecidableEq, Repr

namespace Error

/-- The wording of an error. -/
def message : Error → String
  | rootNotFound path => s!"Project root not found: {path}"
  | rootNotReadable path cause => s!"Project root not readable: {path}: {cause}"
  | cancelled => "Scan cancelled"
  | io cause => s!"IO error: {cause}"
  | pattern cause => s!"Invalid extraction pattern: {cause}"
  | config cause => "Configuration error: " ++ cause.message
  | summarizer cause => "Summarizer error: " ++ cause.message
  | threadPool cause => s!"Thread pool error: {cause}"

/-- The inner cause that is told separately, if there is one. -/
def innerCause? : Error → Option String
  | rootNotReadable _ cause => some cause
  | io cause => some cause
  | pattern cause => some cause
  | _ => none

end Error

end SourceAtlas
