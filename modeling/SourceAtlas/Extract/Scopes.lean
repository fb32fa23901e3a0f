import SourceAtlas.Comment.Delimiters
import SourceAtlas.Text.Blank

/-!
# Open scopes

In a language that nests by braces, a function is top-level when no open brace belongs to a type or
to another function.  The tracker keeps the open braces, each tagged with the declaration that was
waiting for its body when the brace was read.  A waiting function loses its claim at a semicolon,
and at the end of a line that cannot be continued by a body on the next one.
-/

namespace SourceAtlas

/-- What opened a brace. -/
inductive Scope where
  /-- The body of a type. -/
  | type
  /-- The body of a function. -/
  | callable
  /-- Any other block. -/
  | block
  deriving DecidableEq, Repr

/-- The open braces of a text, innermost first, and the declaration that waits for its body
(`ScopeTracker`). -/
structure Scopes where
  /-- What opened each brace, innermost first. -/
  opened : List Scope
  /-- The declaration whose body has not opened yet. -/
  pending : Option Scope
  deriving DecidableEq, Repr

namespace Scopes

/-- Nothing is open and nothing waits. -/
def empty : Scopes := ⟨[], none⟩

/-- Whether no open brace belongs to a type or a function (`at_top_level`). -/
def atTopLevel (s : Scopes) : Bool := s.opened.all (· = .block)

/-- Notes a declaration whose body may follow (`ScopeTracker.declare`). -/
def declare (s : Scopes) (scope : Scope) : Scopes := { s with pending := some scope }

/-- The effect of one character outside string literals. -/
def read (s : Scopes) (c : Char) : Scopes :=
  if c = '\x7b' then ⟨s.pending.getD .block :: s.opened, none⟩
  else if c = '\x7d' then { s with opened := s.opened.tail }
  else if c = ';' then { s with pending := none }
  else s

/-- Where a line stands with regard to string literals. -/
inductive Quoting where
  /-- Outside string literals. -/
  | outside
  /-- Inside a literal with the given quote. -/
  | inside (quote : Char)
  /-- Inside a literal, after a backslash. -/
  | escaped (quote : Char)
  deriving DecidableEq, Repr

/-- How one character changes the standing of a line. -/
def Quoting.read (d : Delimiters) : Quoting → Char → Quoting
  | .outside, c => if d.isQuote c then .inside c else .outside
  | .inside quote, c =>
    if c = '\\' then .escaped quote else if c = quote then .outside else .inside quote
  | .escaped quote, _ => .inside quote

/-- Reads one more character of a line: `kept` holds the characters outside literals, last first. -/
def readUnquoted (d : Delimiters) : Quoting × List Char → Char → Quoting × List Char
  | (q, kept), c =>
    if q = .outside && !d.isQuote c then (q, c :: kept) else (q.read d c, kept)

/-- The characters of a line that stand outside its string literals. -/
def unquoted (d : Delimiters) (line : List Char) : List Char :=
  (line.foldl (readUnquoted d) (.outside, [])).2.reverse

/-- Whether a function head without its body may still open one on a later line
(`continues_signature`): wrapped parameters, or a brace on a line of its own.  An expression body
never does. -/
def continuesSignature (line : List Char) : Bool :=
  let trimmed := Text.trimEnd line
  match trimmed.getLast? with
  | some c => c = '(' || c = ',' || ((c = ')' || c = '>') && !trimmed.contains '=')
  | none => false

/-- The effect of one comment-free line (`ScopeTracker.advance`). -/
def advance (d : Delimiters) (s : Scopes) (line : List Char) : Scopes :=
  let after := (unquoted d line).foldl read s
  if after.pending = some .callable && !continuesSignature line then { after with pending := none }
  else after

end Scopes

end SourceAtlas
