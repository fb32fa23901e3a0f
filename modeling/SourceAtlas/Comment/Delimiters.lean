/-!
# Comment and string delimiters

What a comment scanner has to know of a language: the markers that comment out the rest of a line,
the pairs that enclose a block comment (or a documentation string), and the characters that delimit
string literals.  A string literal ends at its closing quote; one whose quote is not of the
multi-line kind also ends with its line.
-/

namespace SourceAtlas

/-- The delimiters of comments and string literals in one language (`CommentSyntax`). -/
structure Delimiters where
  /-- Markers that comment out the rest of the line, tried in order. -/
  line : List (List Char)
  /-- Opening and closing delimiters of block comments, tried in order. -/
  block : List (List Char × List Char)
  /-- Quotes of literals that end with their line at the latest. -/
  quotes : List Char
  /-- Quotes of literals that may span lines. -/
  multilineQuotes : List Char
  deriving DecidableEq, Repr

namespace Delimiters

/-- Delimiters given as strings; each character of the last two is one quote. -/
def ofStrings (line : List String) (block : List (String × String)) (quotes multiline : String) :
    Delimiters where
  line := line.map (·.toList)
  block := block.map fun (opener, closer) => (opener.toList, closer.toList)
  quotes := quotes.toList
  multilineQuotes := multiline.toList

/-- No comments and no string literals. -/
def empty : Delimiters := ofStrings [] [] "" ""

/-- Two slashes to the end of the line, slash-star blocks, and both plain quotes. -/
def slashStyle : Delimiters := ofStrings ["//"] [("/*", "*/")] "\"'" ""

/-- `slashStyle` with template literals between backquotes, which may span lines. -/
def slashStyleWithTemplates : Delimiters := ofStrings ["//"] [("/*", "*/")] "\"'" "`"

/-- Whether a character delimits string literals of either kind. -/
def isQuote (d : Delimiters) (c : Char) : Bool :=
  d.quotes.contains c || d.multilineQuotes.contains c

end Delimiters

end SourceAtlas
