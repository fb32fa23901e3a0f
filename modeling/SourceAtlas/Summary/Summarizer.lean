import SourceAtlas.Summary.Chat
import SourceAtlas.Summary.Http
import SourceAtlas.Summary.RuleBased

/-!
# Summarizers

A summarizer turns the record of a file into a short text, or fails.  The one by rule
(`RuleBasedSummarizer`) never fails; the generative one (`GenerativeSummarizer`) has a request sent
and reads what comes back; a fallback (`FallbackSummarizer`) asks the second when the first fails,
and notes that it did.

Sending requests and taking JSON texts apart is left to a *backend*.  Whatever becomes of a request
is an exchange, so an address that cannot be read is a request that could not be sent.
-/

namespace SourceAtlas

/-- What became of a request. -/
inductive Exchange where
  /-- It could not be sent. -/
  | failed (detail : String)
  /-- No reply came in time. -/
  | timedOut
  /-- The reply broke off. -/
  | brokenOff (detail : String)
  /-- A whole reply came. -/
  | reply (status : Nat) (body : String)
  deriving DecidableEq, Repr

/-- A request for a chat completion, as it is handed to those who send it. -/
structure ChatPost where
  /-- Where it goes. -/
  url : String
  /-- The key that authorizes it. -/
  bearer : Option String
  /-- What it says. -/
  body : String
  deriving DecidableEq, Repr

/-- What a client relies on: an HTTP client and a reader of JSON texts. -/
structure Backend where
  /-- Sends a request. -/
  send : ChatPost → Exchange
  /-- Takes a JSON text apart. -/
  parse? : String → Option Json.Source

/-- A client of a chat-completions endpoint. -/
structure ChatClient where
  /-- The endpoint as configured. -/
  endpoint : String
  /-- The model to ask. -/
  model : String
  /-- The key that the endpoint wants. -/
  apiKey : Option String
  /-- How many milliseconds to wait. -/
  timeout : Nat
  deriving DecidableEq, Repr

namespace ChatClient

/-- The text without any number of slashes at its end. -/
def dropSlashes (s : List Char) : List Char := (s.reverse.dropWhile (· = '/')).reverse

/-- The address of the completions of an endpoint (`chat_completions_url`).  The endpoint may be
given bare, with its version, or in full. -/
def completionsUrl (endpoint : String) : String :=
  let base := String.ofList (dropSlashes (Text.trim endpoint.toList))
  if Text.endsWith base "/chat/completions" then base
  else if Text.endsWith base "/v1" then base ++ "/chat/completions"
  else base ++ "/v1/chat/completions"

/-- The request that a conversation makes. -/
def post (client : ChatClient) (conversation : List Chat.Message) : ChatPost where
  url := completionsUrl client.endpoint
  bearer := client.apiKey
  body := (Chat.requestBody client.model conversation).render

/-- What an exchange means for the summary. -/
def readExchange (client : ChatClient) (parse? : String → Option Json.Source) :
    Exchange → Except SummaryError String
  | .failed detail => .error (.requestFailed client.model detail)
  | .timedOut => .error (.timedOut client.timeout client.model)
  | .brokenOff detail => .error (.bodyUnreadable detail)
  | .reply status body =>
    if Http.isSuccess status then Chat.readReply parse? body
    else .error (.refused (Http.renderStatus status) body)

/-- Asks for a completion of a conversation (`complete`). -/
def complete (client : ChatClient) (backend : Backend) (conversation : List Chat.Message) :
    Except SummaryError String :=
  client.readExchange backend.parse? (backend.send (client.post conversation))

end ChatClient

/-- A note that a fallback took over. -/
structure FallbackNote where
  /-- The summarizer that failed. -/
  primary : String
  /-- The file that was to be summarized. -/
  path : String
  /-- Why it failed. -/
  cause : Error
  /-- The summarizer that took over. -/
  fallback : String
  deriving DecidableEq, Repr

/-- The wording of a note. -/
def FallbackNote.message (n : FallbackNote) : String :=
  s!"{n.primary} summarizer failed for {n.path}: " ++ n.cause.message ++ s!"; using {n.fallback}"

/-- Turns the record of a file into a short text. -/
structure Summarizer where
  /-- Its name. -/
  name : String
  /-- The text, or why there is none, and the notes made on the way. -/
  run : SourceFile → Except Error String × List FallbackNote

namespace Summarizer

/-- The text that a summarizer gives for a file. -/
def summarize (s : Summarizer) (f : SourceFile) : Except Error String := (s.run f).1

/-- The summarizer by rule. -/
def ruleBased : Summarizer := ⟨"rule-based", fun f => (.ok (Summary.describe f), [])⟩

/-- The summarizer that asks an endpoint. -/
def generative (client : ChatClient) (backend : Backend) : Summarizer :=
  ⟨"generative", fun f =>
    (match client.complete backend (Chat.messages f) with
      | .ok text => .ok text
      | .error cause => .error (.summarizer cause), [])⟩

/-- Asks `primary`, and `fallback` when it fails. -/
def orElse (primary fallback : Summarizer) : Summarizer :=
  ⟨"fallback", fun f =>
    match primary.run f with
    | (.ok text, notes) => (.ok text, notes)
    | (.error cause, notes) =>
      let (result, more) := fallback.run f
      (result, notes ++ ⟨primary.name, f.path, cause, fallback.name⟩ :: more)⟩

end Summarizer

end SourceAtlas
