/-!
# Lines

A text is cut into lines at its line feeds.  A carriage return belongs to the line break only when a
line feed follows it, and a line feed at the very end opens no further line.
-/

namespace SourceAtlas
namespace Text

/-- The line without one carriage return at its end. -/
def dropReturn (line : List Char) : List Char :=
  if line.getLast? = some '\r' then line.dropLast else line

/-- The lines of a text. -/
def lines (s : List Char) : List (List Char) :=
  let pieces := s.splitOn '\n'
  pieces.dropLast.map dropReturn ++
    match pieces.getLast? with
    | some [] => []
    | some line => [line]
    | none => []

/-- The number of pieces between line feeds; an empty text has one. -/
def countLines (s : List Char) : Nat := s.count '\n' + 1

end Text
end SourceAtlas
