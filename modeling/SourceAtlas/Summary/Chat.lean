import SourceAtlas.Error
import SourceAtlas.Json.Printer
import SourceAtlas.Json.Source
import SourceAtlas.SourceFile

/-!
# Chat messages

The conversation by which a summary is asked for: a fixed instruction, and a prompt that carries the
record of a file but never its text.  The reply offers choices; the text of the first one is the
summary.  Its content is one text, or a list of parts that may have a text each.
-/

namespace SourceAtlas
namespace Chat

/-- One message of a conversation (`ChatMessage`). -/
structure Message where
  /-- Who speaks. -/
  role : String
  /-- What is said. -/
  content : String
  deriving DecidableEq, Repr

/-! ## Asking -/

/-- The instruction that opens the conversation. -/
def instruction : String :=
  "You describe source files for project documentation. " ++
  "Answer with one or two plain sentences about what the file is for. " ++
  "Do not restate the symbol lists."

/-- How many names of one kind the prompt lists. -/
def nameLimit : Nat := 20

/-- A list of names in the prompt. -/
def nameList (names : List String) : String :=
  match names with
  | [] => "none"
  | _ =>
    let more := if nameLimit < names.length then ["..."] else []
    Text.joinWith ", " (names.take nameLimit ++ more)

/-- The prompt on one file (`build_prompt`). -/
def prompt (f : SourceFile) : String :=
  Text.joinWith "\n"
    ["File: " ++ f.path,
     "Language: " ++ f.language.displayName,
     s!"Lines: {f.lineCount}",
     "Classes: " ++ nameList f.classes,
     "Functions: " ++ nameList f.functions,
     "Imports: " ++ nameList f.imports,
     "Detected purposes: " ++ Text.joinWith ", " (f.purposes.toList.map (·.tag))]

/-- The conversation that asks for a summary of a file. -/
def messages (f : SourceFile) : List Message :=
  [⟨"system", instruction⟩, ⟨"user", prompt f⟩]

/-- The body of the request (`ChatCompletionsRequest`). -/
def requestBody (model : String) (conversation : List Message) : Json :=
  .obj
    [("model", .str model),
     ("messages", .arr (conversation.map fun m =>
       .obj [("role", .str m.role), ("content", .str m.content)])),
     ("temperature", .num (.decimal false 0 (-1))),
     ("stream", .bool false)]

/-! ## Reading the reply -/

/-- The content of a reply (`ChatContent`). -/
inductive Content where
  /-- One text. -/
  | text (s : String)
  /-- Parts, of which some may have no text. -/
  | parts (ps : List (Option String))
  deriving DecidableEq, Repr

/-- The text of a content, trimmed (`into_text`); parts stand on lines of their own, blank ones are
left out. -/
def Content.text? (c : Content) : Option String :=
  let whole := match c with
    | .text s => Text.trimmed s
    | .parts ps =>
      Text.joinWith "\n" (((ps.filterMap id).map Text.trimmed).filter (!·.isEmpty))
  if whole.isEmpty then none else some whole

/-- The value of the only field that a record has: an object with that key at most once, or a list
of at most one value.  The outer option is whether the source is such a record, the inner one
whether it has the field. -/
def soleField? (name : String) : Json.Source → Option (Option Json.Source)
  | .obj fields => do
    let named ← fields.mapM fun (key, v) => (Json.string? key).map (·, v)
    match named.filter (·.1 == name) with
    | [] => some none
    | [(_, v)] => some (some v)
    | _ => none
  | .arr [] => some none
  | .arr [v] => some (some v)
  | _ => none

/-- The text of a part of a content (`ChatContentPart`): missing, null or a string. -/
def partText? (j : Json) : Option (Option String) :=
  let read : Json → Option (Option String)
    | .null => some none
    | .str s => some (some s)
    | _ => none
  match j with
  | .obj fields =>
    match fields.filter (·.1 == "text") with
    | [] => some none
    | [(_, v)] => read v
    | _ => none
  | .arr [] => some none
  | .arr [v] => read v
  | _ => none

/-- The content that a value is. -/
def content? : Json → Option Content
  | .str s => some (.text s)
  | .arr items => (items.mapM partText?).map .parts
  | _ => none

/-- The content of one choice (`ChatChoice`).  It stands four containers deep. -/
def choice? (s : Json.Source) : Option Content := do
  let message ← (← soleField? "message" s)
  let content ← (← soleField? "content" message)
  content? (← content.eval? (Json.depthLimit - 4))

/-- The contents of all choices of a reply (`ChatCompletionsResponse`); a reply without choices has
none. -/
def choices? (s : Json.Source) : Option (List Content) := do
  match ← soleField? "choices" s with
  | none => some []
  | some (.arr items) => items.mapM choice?
  | some _ => none

/-- The summary in the body of a reply, `parse?` being the reader of JSON texts. -/
def readReply (parse? : String → Option Json.Source) (body : String) :
    Except SummaryError String :=
  match (parse? body).bind choices? with
  | none => .error (.invalidReply "not a chat completion" body)
  | some [] => .error .noChoices
  | some (first :: _) =>
    match first.text? with
    | some text => .ok text
    | none => .error .emptyContent

end Chat
end SourceAtlas
