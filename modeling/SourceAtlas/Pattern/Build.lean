import SourceAtlas.Pattern.Basic

/-!
# Building patterns

The vocabulary in which the tables of declarations are written: literal text, classes of characters,
names, gaps of blanks, lists of modifiers.
-/

namespace SourceAtlas
namespace Pattern

/-! ## Composition -/

/-- The patterns of a list, one after another. -/
def all (ps : List Pattern) : Pattern := ps.foldr seq empty

/-- The first of the patterns that leads to a match. -/
def anyOf : List Pattern → Pattern
  | [] => one fun _ => false
  | [p] => p
  | p :: ps => alt p (anyOf ps)

/-- The patterns of a list, if they are there. -/
def optional (ps : List Pattern) : Pattern := alt (all ps) empty

/-- Any number of rounds of the patterns of a list. -/
def repeated (ps : List Pattern) : Pattern := star (all ps)

/-- At least one round of the patterns of a list. -/
def repeatedOnce (ps : List Pattern) : Pattern := seq (all ps) (star (all ps))

/-- The patterns of a list as the group. -/
def captured (ps : List Pattern) : Pattern := group (all ps)

/-! ## Characters -/

/-- Exactly this text. -/
def text (s : String) : Pattern := all (s.toList.map fun c => one (· == c))

/-- One of these texts; the first that leads to a match. -/
def anyText (ss : List String) : Pattern := anyOf (ss.map text)

/-- One of these characters. -/
def oneOf (chars : String) : Pattern := let cs := chars.toList; one cs.contains

/-- Any number of characters of a class, as many as possible. -/
def many (accepts : Char → Bool) : Pattern := span accepts true

/-- One or more characters of a class, as many as possible. -/
def many1 (accepts : Char → Bool) : Pattern := seq (one accepts) (many accepts)

/-- Any number of characters of a class, as few as possible. -/
def fewest (accepts : Char → Bool) : Pattern := span accepts false

/-- The class of all characters but these. -/
def except (chars : String) : Char → Bool := let cs := chars.toList; fun c => !cs.contains c

/-- The class of word characters and these. -/
def wordOr (chars : String) : Char → Bool :=
  let cs := chars.toList; fun c => cs.contains c || Text.isWordChar c

/-- The class of blanks and these. -/
def blankOr (chars : String) : Char → Bool :=
  let cs := chars.toList; fun c => cs.contains c || Text.isBlank c

/-- The class of the ASCII letters and the underscore. -/
def nameStart (c : Char) : Bool := c.isAlpha || c == '_'

/-! ## Words and names -/

/-- Any number of blanks. -/
def blanks : Pattern := many Text.isBlank

/-- At least one blank. -/
def gap : Pattern := many1 Text.isBlank

/-- An ASCII letter or underscore, then word characters. -/
def name : Pattern := seq (one nameStart) (many Text.isWordChar)

/-- A `name` in which the dollar sign counts as a letter. -/
def dollarName : Pattern :=
  seq (one fun c => nameStart c || c == '$') (many (wordOr "$"))

/-- A `name` that begins with an ASCII capital. -/
def capitalName : Pattern := seq (one Char.isUpper) (many Text.isWordChar)

/-- A `name` that may go on with dots. -/
def dottedName : Pattern := seq (one nameStart) (many (wordOr "."))

/-- A word and a gap after it. -/
def keyword (s : String) : Pattern := seq (text s) gap

/-- A word and a gap after it, if they are there. -/
def optionalKeyword (s : String) : Pattern := optional [text s, gap]

/-- Any number of the given words, each with a gap after it. -/
def modifiers (words : List String) : Pattern := repeated [anyText words, gap]

/-- The beginning of the line, its indentation, and then the patterns of a list. -/
def line (ps : List Pattern) : Pattern := all (lineStart :: blanks :: ps)

end Pattern
end SourceAtlas
