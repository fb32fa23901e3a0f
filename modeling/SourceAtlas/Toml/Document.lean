import SourceAtlas.Text.Utf8
import SourceAtlas.Toml.Scalar

/-!
# TOML documents

Reading a document takes its text apart into statements, one a line, and then builds the tables that
the statements make.  Lists may run over several lines with comments in them and a comma at their
end; tables in braces stand on one line without such a comma.
-/

namespace SourceAtlas
namespace Toml

/-- Skips blanks, line ends and comments; a comment has to end with its line. -/
def skipLines? : Nat → List Char → Option (List Char)
  | 0, s => some s
  | fuel + 1, s =>
    match skipSpaces s with
    | '#' :: rest => (lineEnd? (skipComment ('#' :: rest))).bind (skipLines? fuel)
    | '\n' :: rest => skipLines? fuel rest
    | '\r' :: rest => (lineEnd? ('\r' :: rest)).bind (skipLines? fuel)
    | s' => some s'

/-- Reads the items of a list after its opening bracket; `item` reads one of them. -/
def readItems (item : List Char → Option (Value × List Char)) :
    Nat → List Value → List Char → Option (Value × List Char)
  | 0, _, _ => none
  | fuel + 1, done, s => do
    match ← skipLines? s.length s with
    | ']' :: rest => return (.arr done.reverse, rest)
    | s' =>
      let (v, rest) ← item s'
      match ← skipLines? rest.length rest with
      | ',' :: rest' => readItems item fuel (v :: done) rest'
      | ']' :: rest' => return (.arr (v :: done).reverse, rest')
      | _ => none

/-- Reads a key, the equals sign and the value after it. -/
def readPair (value : List Char → Option (Value × List Char)) (s : List Char) :
    Option ((List String × String × Value) × List Char) := do
  let ((path, key), rest) ← readKey? (s.length + 1) [] s
  match rest with
  | '=' :: rest' =>
    let (v, after) ← value (skipSpaces rest')
    return ((path, key, v), after)
  | _ => none

/-- Reads the pairs of a table in braces, which is not empty. -/
def readPairs (value : List Char → Option (Value × List Char)) :
    Nat → List (List String × String × Value) → List Char → Option (Value × List Char)
  | 0, _, _ => none
  | fuel + 1, done, s => do
    let (pair, rest) ← readPair value s
    match skipSpaces rest with
    | ',' :: rest' => readPairs value fuel (pair :: done) rest'
    | '\x7d' :: rest' => return (← ofPairs? (pair :: done).reverse, rest')
    | _ => none

/-- Reads a value in which at most `room` lists and tables stand inside one another. -/
def readValue? : Nat → List Char → Option (Value × List Char)
  | 0, s => readScalar? s
  | room + 1, s =>
    match s with
    | '[' :: rest => readItems (readValue? room) (rest.length + 1) [] rest
    | '\x7b' :: rest =>
      match skipSpaces rest with
      | '\x7d' :: rest' => some (.table .braces [], rest')
      | rest' => readPairs (readValue? room) (rest'.length + 1) [] rest'
    | _ => readScalar? s

/-- How many lists and tables may stand inside one another. -/
def nestingLimit : Nat := 79

/-- Reads a header after its opening bracket. -/
def readHeader (s : List Char) : Option (Statement × List Char) := do
  match s with
  | '[' :: s' =>
    let ((path, key), rest) ← readKey? (s'.length + 1) [] s'
    match rest with
    | ']' :: ']' :: rest' => return (.next path key, rest')
    | _ => none
  | _ =>
    let ((path, key), rest) ← readKey? (s.length + 1) [] s
    match rest with
    | ']' :: rest' => return (.header path key, rest')
    | _ => none

/-- Reads what may follow a statement on its line, and the end of the line or of the document. -/
def endLine? (s : List Char) : Option (List Char) :=
  match skipComment (skipSpaces s) with
  | [] => some []
  | rest => lineEnd? rest

/-- Reads the statements of a document; every round reads a line. -/
def readStatements : Nat → List Statement → List Char → Option (List Statement)
  | 0, done, s => if s.isEmpty then some done.reverse else none
  | fuel + 1, done, s =>
    match skipSpaces s with
    | [] => some done.reverse
    | '[' :: rest => do
      let (statement, after) ← readHeader rest
      readStatements fuel (statement :: done) (← endLine? after)
    | c :: rest =>
      if c = '#' || c = '\n' || c = '\r' then
        (endLine? (c :: rest)).bind (readStatements fuel done)
      else do
        let ((path, key, v), after) ← readPair (readValue? nestingLimit) (c :: rest)
        readStatements fuel (.setting path key v :: done) (← endLine? after)

/-- Reads a document, which may begin with a byte order mark. -/
def parse? (s : String) : Option Entries :=
  let text := Text.withoutMark s.toList
  (readStatements (text.length + 1) [] text).bind ofStatements?

end Toml
end SourceAtlas
