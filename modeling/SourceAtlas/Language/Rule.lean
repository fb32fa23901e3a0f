import SourceAtlas.Comment.Delimiters
import SourceAtlas.Language.Basic
import SourceAtlas.Pattern.Build

/-!
# Extraction rules

What the extractor knows of a language: which lines declare types and functions or import something,
how declarations nest, which captured words are keywords rather than names, and how comments and
strings are delimited.  Lists of patterns are ordered, and the group of a pattern is the name that
is declared or imported.
-/

namespace SourceAtlas

/-- How declarations nest, which decides whether a function is top-level. -/
inductive Nesting where
  /-- Column zero is the top level. -/
  | indentation
  /-- The top level is everything outside the braces of types and functions. -/
  | braces
  deriving DecidableEq, Repr

namespace Nesting

/-- The spelling of a kind of nesting in records. -/
def tag : Nesting → String
  | indentation => "indentation"
  | braces => "braces"

end Nesting

/-- A group of imports over several lines. -/
structure ImportBlock where
  /-- The line that opens the group. -/
  opener : Pattern
  /-- A line of the group that imports something. -/
  entry : Pattern
  /-- What the closing line begins with, after its indentation. -/
  closer : List Char

namespace ImportBlock

/-- Whether a line opens the group. -/
def opensAt (b : ImportBlock) (line : List Char) : Bool := b.opener.fits line

/-- Whether a line closes the group. -/
def closesAt (b : ImportBlock) (line : List Char) : Bool :=
  b.closer.isPrefixOf (Text.trimStart line)

end ImportBlock

/-- The extraction rule of one language (`ExtractionRule`). -/
structure Rule where
  /-- The language it belongs to. -/
  language : Language
  /-- The file-name extensions that it claims. -/
  extensions : List String
  /-- Lines that declare a type. -/
  classes : List Pattern
  /-- Lines that declare a function. -/
  functions : List Pattern
  /-- Lines that import something. -/
  imports : List Pattern
  /-- Groups of imports over several lines. -/
  importBlock : Option ImportBlock
  /-- Captured words that are keywords and never names. -/
  reserved : List String
  /-- How declarations nest. -/
  nesting : Nesting
  /-- Lines that open a body whose functions are members, although they declare no type. -/
  memberScopes : List Pattern
  /-- Function lines that declare a member wherever they stand. -/
  methods : List Pattern
  /-- The delimiters of comments and strings. -/
  delimiters : Delimiters

namespace Rule

/-- Whether a captured word is a keyword. -/
def isReserved (r : Rule) (name : String) : Bool := r.reserved.contains name

/-- Whether a line opens a body whose functions are members. -/
def opensMemberScope (r : Rule) (line : List Char) : Bool := r.memberScopes.any (·.fits line)

/-- Whether a function line declares a member wherever it stands. -/
def isMethod (r : Rule) (line : List Char) : Bool := r.methods.any (·.fits line)

/-- The first captured name of a list of patterns that is no keyword (`first_declaration`). -/
def declaration? (r : Rule) (patterns : List Pattern) (line : List Char) : Option String :=
  (patterns.filterMap (·.capture? line)).find? (!r.isReserved ·)

end Rule

end SourceAtlas
