import SourceAtlas.Text.Blank
import SourceAtlas.Text.Word

/-!
# Line patterns

A *pattern* describes a piece of one line of program text.  Patterns choose in order: of two
alternatives the left one is tried first, a repetition takes as many rounds as it can (or, for a
lazy span, as few), and the first way to complete the whole pattern wins.  One part of a pattern may
be marked as its *group*; the text that it covered last is what a match reports.

`Pattern.run` tries a pattern at one place, with the rest of the work passed along as a
continuation. Recursion follows the pattern; only the rounds of a repetition are counted by the
characters left, and each round has to consume one.  `Pattern.find?` takes the leftmost place at
which the pattern fits.
-/

namespace SourceAtlas

/-- A piece of one line of program text. -/
inductive Pattern where
  /-- Nothing at all. -/
  | empty
  /-- One character of a class. -/
  | one (accepts : Char → Bool)
  /-- Any number of characters of a class: as many as possible, or as few if not `greedy`. -/
  | span (accepts : Char → Bool) (greedy : Bool)
  /-- One pattern after another. -/
  | seq (first second : Pattern)
  /-- The first pattern, or else the second. -/
  | alt (first second : Pattern)
  /-- Any number of rounds of a pattern, as many as possible. -/
  | star (body : Pattern)
  /-- A pattern whose text is reported. -/
  | group (body : Pattern)
  /-- The beginning of the line. -/
  | lineStart
  /-- The end of the line. -/
  | lineEnd
  /-- A place with a word character on exactly one side. -/
  | wordEdge

namespace Pattern

/-- A place in a line, with the group as it stands there. -/
structure Cursor where
  /-- The number of characters before this place. -/
  offset : Nat
  /-- The character just before this place. -/
  before : Option Char
  /-- The characters from this place on. -/
  rest : List Char
  /-- Where the group began last, and how many characters it covered. -/
  covered : Option (List Char × Nat)

namespace Cursor

/-- The beginning of a line. -/
def start (line : List Char) : Cursor := ⟨0, none, line, none⟩

/-- The place after the next character `c`, which leaves `rest`. -/
def next (cur : Cursor) (c : Char) (rest : List Char) : Cursor :=
  { cur with offset := cur.offset + 1, before := some c, rest := rest }

/-- The places reached by reading accepted characters of `rest`, furthest first, in front of those
already known. -/
def stopsFrom (accepts : Char → Bool) : List Char → Cursor → List Cursor → List Cursor
  | [], _, known => known
  | c :: rest, cur, known =>
    if accepts c then stopsFrom accepts rest (cur.next c rest) (cur.next c rest :: known) else known

/-- All places reached by reading accepted characters, furthest first; the last is the cursor
itself. -/
def stops (accepts : Char → Bool) (cur : Cursor) : List Cursor :=
  stopsFrom accepts cur.rest cur [cur]

/-- Whether exactly one of the neighbours of this place is a word character. -/
def atWordEdge (cur : Cursor) : Bool :=
  cur.before.any Text.isWordChar != cur.rest.head?.any Text.isWordChar

/-- The text that the group covered last. -/
def groupText (cur : Cursor) : Option (List Char) :=
  cur.covered.map fun (text, length) => text.take length

end Cursor

/-- What remains to be matched after a pattern. -/
abbrev Continuation := Cursor → Option Cursor

/-- Up to `n` rounds of a body, as many as possible; a round that reads nothing does not count. -/
def rounds (body : Cursor → Continuation → Option Cursor) :
    Nat → Cursor → Continuation → Option Cursor
  | 0, cur, k => k cur
  | n + 1, cur, k =>
    match body cur fun cur' => if cur.offset < cur'.offset then rounds body n cur' k else none with
    | some done => some done
    | none => k cur

/-- Matches a pattern at a place and continues with `k`; the first way through wins. -/
def run : Pattern → Cursor → Continuation → Option Cursor
  | .empty, cur, k => k cur
  | .one accepts, cur, k =>
    match cur.rest with
    | c :: rest => if accepts c then k (cur.next c rest) else none
    | [] => none
  | .span accepts greedy, cur, k =>
    let places := cur.stops accepts
    (if greedy then places else places.reverse).findSome? k
  | .seq p q, cur, k => run p cur fun cur' => run q cur' k
  | .alt p q, cur, k =>
    match run p cur k with
    | some done => some done
    | none => run q cur k
  | .star p, cur, k => rounds (run p) cur.rest.length cur k
  | .group p, cur, k =>
    run p cur fun cur' => k { cur' with covered := some (cur.rest, cur'.offset - cur.offset) }
  | .lineStart, cur, k => if cur.offset = 0 then k cur else none
  | .lineEnd, cur, k => if cur.rest.isEmpty then k cur else none
  | .wordEdge, cur, k => if cur.atWordEdge then k cur else none

/-- Matches a pattern at the cursor or at the first place after it where it fits. -/
def searchFrom (p : Pattern) : List Char → Cursor → Option Cursor
  | [], cur => p.run cur some
  | c :: rest, cur =>
    match p.run cur some with
    | some done => some done
    | none => searchFrom p rest (cur.next c rest)

/-- The end of the leftmost match of a pattern in a line. -/
def search (p : Pattern) (line : List Char) : Option Cursor :=
  p.searchFrom line (Cursor.start line)

/-- Whether a pattern fits somewhere in a line. -/
def fits (p : Pattern) (line : List Char) : Bool := (p.search line).isSome

/-- The text of the group in the leftmost match of a pattern. -/
def groupIn? (p : Pattern) (line : List Char) : Option String :=
  ((p.search line).bind Cursor.groupText).map String.ofList

/-- As `groupIn?`, but a group that covered nothing does not count. -/
def capture? (p : Pattern) (line : List Char) : Option String :=
  (p.groupIn? line).filter (!·.isEmpty)

end Pattern

end SourceAtlas
