import SourceAtlas.Comment.Delimiters

/-!
# Stripping comments

The scanner walks through a text and is at each moment in one *region*: code, a line comment, a
block comment with a known closing delimiter, or a string literal with a known quote.  Code and
string literals are copied.  A line comment leaves nothing, a block comment leaves one space and its
line breaks, so that every line of the result stands where it stood in the text.

A step may leave the text where it is (entering a line comment does), but between two steps that
consume nothing the region gets closer to consuming, unless some block comment has both delimiters
empty.  Twice the length of the text is therefore enough steps to reach its end.
-/

namespace SourceAtlas
namespace Comment

/-- Where the scanner stands. -/
inductive Region where
  /-- Ordinary program text. -/
  | code
  /-- A comment that lasts to the end of the line. -/
  | lineComment
  /-- A comment that lasts to its closing delimiter. -/
  | blockComment (closer : List Char)
  /-- A string literal with the given quote. -/
  | literal (quote : Char) (multiline : Bool)
  deriving DecidableEq, Repr

/-- A scan in progress. -/
structure Scan where
  /-- Where the scanner stands. -/
  region : Region
  /-- The text that has not been read yet. -/
  rest : List Char
  /-- What has been written so far, last character first. -/
  written : List Char
  deriving DecidableEq, Repr

namespace Scan

/-- The scan of a text, before its first step. -/
def start (text : List Char) : Scan := ⟨.code, text, []⟩

/-- One step in code: a block opener wins over a line marker, a line marker over a quote. -/
def stepCode (d : Delimiters) (s : Scan) (c : Char) (rest : List Char) : Scan :=
  match d.block.find? fun pair => pair.1.isPrefixOf s.rest with
  | some (opener, closer) =>
    ⟨.blockComment closer, s.rest.drop opener.length, ' ' :: s.written⟩
  | none =>
    if d.line.any (·.isPrefixOf s.rest) then { s with region := .lineComment }
    else if d.quotes.contains c then ⟨.literal c false, rest, c :: s.written⟩
    else if d.multilineQuotes.contains c then ⟨.literal c true, rest, c :: s.written⟩
    else ⟨.code, rest, c :: s.written⟩

/-- One step in a line comment: only the line feed is kept, and it ends the comment. -/
def stepLine (s : Scan) (c : Char) (rest : List Char) : Scan :=
  if c = '\n' then ⟨.code, rest, '\n' :: s.written⟩ else { s with rest := rest }

/-- One step in a block comment: the closing delimiter ends it, and line feeds are kept. -/
def stepBlock (closer : List Char) (s : Scan) (c : Char) (rest : List Char) : Scan :=
  if closer.isPrefixOf s.rest then
    { s with region := .code, rest := s.rest.drop closer.length }
  else if c = '\n' then { s with rest := rest, written := '\n' :: s.written }
  else { s with rest := rest }

/-- One step in a string literal: everything is copied, a backslash together with the character
after it, and the quote (or the end of the line) ends the literal. -/
def stepLiteral (quote : Char) (multiline : Bool) (s : Scan) (c : Char) (rest : List Char) : Scan :=
  if c = '\\' then
    match rest with
    | [] => { s with rest := [], written := c :: s.written }
    | e :: rest' => { s with rest := rest', written := e :: c :: s.written }
  else
    let ends := c = quote || (c = '\n' && !multiline)
    { region := if ends then .code else s.region, rest := rest, written := c :: s.written }

/-- One step of the scanner; at the end of the text nothing happens. -/
def step (d : Delimiters) (s : Scan) : Scan :=
  match s.rest with
  | [] => s
  | c :: rest =>
    match s.region with
    | .code => stepCode d s c rest
    | .lineComment => stepLine s c rest
    | .blockComment closer => stepBlock closer s c rest
    | .literal quote multiline => stepLiteral quote multiline s c rest

/-- At most `n` steps, stopping at the end of the text. -/
def run (d : Delimiters) : Nat → Scan → Scan
  | 0, s => s
  | n + 1, s => if s.rest.isEmpty then s else run d n (s.step d)

end Scan

/-- The scan of a whole text. -/
def scan (d : Delimiters) (text : List Char) : Scan :=
  (Scan.start text).run d (2 * text.length)

/-- The text without its comments, line for line (`strip_comments`). -/
def strip (d : Delimiters) (text : List Char) : List Char :=
  (scan d text).written.reverse

end Comment
end SourceAtlas
