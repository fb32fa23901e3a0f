/-!
# Cutting texts

Ways to take a text apart at a mark: at the first or the last place where it stands, or at its front
or end if it stands there.
-/

namespace SourceAtlas
namespace Text

/-- Whether `needle` stands somewhere in a text. -/
def occursIn (needle : List Char) : List Char → Bool
  | [] => needle.isEmpty
  | c :: rest => needle.isPrefixOf (c :: rest) || occursIn needle rest

/-- What follows `head` in a text that begins with it. -/
def afterHead? (head s : List Char) : Option (List Char) :=
  if head.isPrefixOf s then some (s.drop head.length) else none

/-- What comes before `tail` in a text that ends in it. -/
def beforeTail? (tail s : List Char) : Option (List Char) :=
  if tail.isSuffixOf s then some (s.take (s.length - tail.length)) else none

/-- The parts of a text before and after the first `c`. -/
def cutFirst? (c : Char) (s : List Char) : Option (List Char × List Char) :=
  match s.span (· ≠ c) with
  | (before, _ :: after) => some (before, after)
  | (_, []) => none

/-- The parts of a text before and after the last `c`. -/
def cutLast? (c : Char) (s : List Char) : Option (List Char × List Char) :=
  (cutFirst? c s.reverse).map fun (after, before) => (before.reverse, after.reverse)

/-- The parts of a text before and after the last place where `mark` stands. -/
def cutAtLast? (mark : List Char) : List Char → Option (List Char × List Char)
  | [] => if mark.isEmpty then some ([], []) else none
  | c :: rest =>
    match cutAtLast? mark rest with
    | some (before, after) => some (c :: before, after)
    | none => (afterHead? mark (c :: rest)).map ([], ·)

/-- The pieces of a text between double colons. -/
def splitDoubleColon : List Char → List (List Char)
  | [] => [[]]
  | ':' :: ':' :: rest => [] :: splitDoubleColon rest
  | c :: rest =>
    match splitDoubleColon rest with
    | piece :: pieces => (c :: piece) :: pieces
    | [] => [[c]]

/-- The text without any number of double colons at its front. -/
def dropDoubleColons : List Char → List Char
  | ':' :: ':' :: rest => dropDoubleColons rest
  | s => s

/-- `occursIn` on strings. -/
def contains (s needle : String) : Bool := occursIn needle.toList s.toList

/-- `List.isPrefixOf` on strings. -/
def startsWith (s head : String) : Bool := head.toList.isPrefixOf s.toList

/-- `List.isSuffixOf` on strings. -/
def endsWith (s tail : String) : Bool := tail.toList.isSuffixOf s.toList

/-- A string with one character put in place of another. -/
def replaceChar (old new : Char) (s : String) : String :=
  String.ofList (s.toList.map fun c => if c = old then new else c)

/-- Strings with a text between any two of them. -/
def joinWith (sep : String) (parts : List String) : String :=
  String.ofList (List.intercalate sep.toList (parts.map (·.toList)))

end Text
end SourceAtlas
