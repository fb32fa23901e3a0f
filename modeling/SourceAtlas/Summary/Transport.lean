import SourceAtlas.Summary.Summarizer

/-!
# Transports

The backend of the program.  It reads the address of a request and checks its header itself, hands
the request to a *transport*, and takes JSON texts apart by `Json.Source.parse?`.  An address is
read if its host is a plain name or number; other spellings of hosts are not known here, so requests
to them fail.
-/

namespace SourceAtlas

/-- A request that is ready to be sent. -/
structure ChatRequest where
  /-- Where it goes. -/
  address : Http.Address
  /-- The authorization it carries. -/
  authorization : Option String
  /-- What it says. -/
  body : String
  deriving DecidableEq, Repr

/-- The request that a post makes, unless its URL is no address or its key cannot stand in a
header. -/
def ChatRequest.ofPost? (post : ChatPost) : Option ChatRequest := do
  let address ← Http.Address.parse? post.url
  let authorization := post.bearer.map ("Bearer " ++ ·)
  if authorization.all Http.isHeaderValue then some ⟨address, authorization, post.body⟩ else none

/-- The request that a conversation makes. -/
def ChatClient.request? (client : ChatClient) (conversation : List Chat.Message) :
    Option ChatRequest :=
  ChatRequest.ofPost? (client.post conversation)

/-- The means by which requests are sent. -/
abbrev Transport := ChatRequest → Exchange

namespace Transport

/-- The transport without a network. -/
def offline : Transport := fun _ => .failed "no connection"

/-- The backend that sends by a transport. -/
def backend (transport : Transport) : Backend where
  send post :=
    match ChatRequest.ofPost? post with
    | none => .failed "the request could not be built"
    | some request => transport request
  parse? text := Json.Source.parse? text.toList

instance : Coe Transport Backend := ⟨backend⟩

end Transport

end SourceAtlas
