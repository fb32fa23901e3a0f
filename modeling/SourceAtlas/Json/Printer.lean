import SourceAtlas.Json.Basic

/-!
# Writing JSON

Two layouts: one without any blanks, and one with a line for every item and an indentation of two
spaces a level.  In strings only the quote, the backslash and the control characters are escaped.
-/

namespace SourceAtlas
namespace Json

/-- A digit in base sixteen. -/
def hexDigit (n : Nat) : Char := "0123456789abcdef".toList.getD n '0'

/-- The characters that write one character of a string. -/
def escapeChar (c : Char) : List Char :=
  let n := c.toNat
  if c = '"' then ['\\', '"']
  else if c = '\\' then ['\\', '\\']
  else if n = 0x08 then ['\\', 'b']
  else if n = 0x09 then ['\\', 't']
  else if n = 0x0A then ['\\', 'n']
  else if n = 0x0C then ['\\', 'f']
  else if n = 0x0D then ['\\', 'r']
  else if n < 0x20 then ['\\', 'u', '0', '0', hexDigit (n / 16), hexDigit (n % 16)]
  else [c]

/-- A string between quotes. -/
def quoted (s : String) : String :=
  "\"" ++ String.ofList (s.toList.flatMap escapeChar) ++ "\""

/-- A number.  A decimal with a negative exponent is written with a point. -/
def Number.render : Number → String
  | .natural n => toString n
  | .decimal negative digits exponent =>
    let sign := if negative then "-" else ""
    match exponent with
    | .ofNat 0 => sign ++ toString digits
    | .ofNat e => sign ++ toString digits ++ "e" ++ toString e
    | .negSucc e =>
      let places := e + 1
      let tail := (toString (digits % Nat.pow 10 places)).toList
      sign ++ toString (digits / Nat.pow 10 places) ++ "." ++
        String.ofList (List.replicate (places - tail.length) '0' ++ tail)

mutual

/-- Writes a value without blanks. -/
def render : Json → String
  | .null => "null"
  | .bool b => if b then "true" else "false"
  | .num n => n.render
  | .str s => quoted s
  | .arr items => "[" ++ renderItems items ++ "]"
  | .obj fields => "\x7b" ++ renderFields fields ++ "\x7d"

/-- Writes the items of a list, with commas between them. -/
def renderItems : List Json → String
  | [] => ""
  | [v] => v.render
  | v :: rest => v.render ++ "," ++ renderItems rest

/-- Writes the fields of an object, with commas between them. -/
def renderFields : List (String × Json) → String
  | [] => ""
  | [(key, v)] => quoted key ++ ":" ++ v.render
  | (key, v) :: rest => quoted key ++ ":" ++ v.render ++ "," ++ renderFields rest

end

/-- A line break and the indentation of a level. -/
def lineBreak (level : Nat) : String := "\n" ++ String.ofList (List.replicate (2 * level) ' ')

mutual

/-- Writes a value with one item a line, the value itself standing at `level`. -/
def renderLines (level : Nat) : Json → String
  | .null => "null"
  | .bool b => if b then "true" else "false"
  | .num n => n.render
  | .str s => quoted s
  | .arr [] => "[]"
  | .arr (v :: rest) =>
    "[" ++ lineBreak (level + 1) ++ renderLines (level + 1) v ++ renderMoreItems level rest ++
      lineBreak level ++ "]"
  | .obj [] => "\x7b\x7d"
  | .obj ((key, v) :: rest) =>
    "\x7b" ++ lineBreak (level + 1) ++ quoted key ++ ": " ++ renderLines (level + 1) v ++
      renderMoreFields level rest ++ lineBreak level ++ "\x7d"

/-- Writes the items after the first one. -/
def renderMoreItems (level : Nat) : List Json → String
  | [] => ""
  | v :: rest =>
    "," ++ lineBreak (level + 1) ++ renderLines (level + 1) v ++ renderMoreItems level rest

/-- Writes the fields after the first one. -/
def renderMoreFields (level : Nat) : List (String × Json) → String
  | [] => ""
  | (key, v) :: rest =>
    "," ++ lineBreak (level + 1) ++ quoted key ++ ": " ++ renderLines (level + 1) v ++
      renderMoreFields level rest

end

/-- Writes a value with one item a line. -/
def pretty (j : Json) : String := renderLines 0 j

end Json
end SourceAtlas
