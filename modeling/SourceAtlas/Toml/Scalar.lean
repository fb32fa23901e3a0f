import SourceAtlas.Json.Source
import SourceAtlas.Toml.Basic

/-!
# TOML keys, strings and numbers

Readers for the parts of a document that hold no others.  Each takes the text from where it stands
and gives what it read with the text that follows, or nothing if the text is malformed there.
-/

namespace SourceAtlas
namespace Toml

/-! ## Blanks and comments -/

/-- The blanks inside a line. -/
def isSpace (c : Char) : Bool := c = ' ' || c = '\t'

/-- Skips blanks inside a line. -/
def skipSpaces (s : List Char) : List Char := s.dropWhile isSpace

/-- Whether a character may stand in a comment or a string: a tab, or no control character. -/
def isPlain (c : Char) : Bool := c = '\t' || (' ' ≤ c && c ≠ Char.ofNat 0x7F)

/-- Reads the end of a line. -/
def lineEnd? : List Char → Option (List Char)
  | '\n' :: rest => some rest
  | '\r' :: '\n' :: rest => some rest
  | _ => none

/-- Skips a comment. -/
def skipComment : List Char → List Char
  | '#' :: rest => rest.dropWhile isPlain
  | s => s

/-! ## Strings -/

/-- The character that a one-letter escape stands for. -/
def escaped? (c : Char) : Option Char :=
  if c = '"' || c = '\\' then some c
  else if c = 'b' then some (Char.ofNat 8)
  else if c = 't' then some '\t'
  else if c = 'n' then some '\n'
  else if c = 'f' then some (Char.ofNat 12)
  else if c = 'r' then some '\r'
  else none

/-- The character with a given number; numbers of surrogates are none. -/
def charOf? (n : Nat) : Option Char := if n.isValidChar then some (Char.ofNat n) else none

/-- Reads an escape after its backslash. -/
def readEscape : List Char → Option (Char × List Char)
  | [] => none
  | e :: rest =>
    let count := if e = 'u' then 4 else if e = 'U' then 8 else 0
    if count = 0 then (escaped? e).map (·, rest)
    else if rest.length < count then none
    else ((Json.hexValue? (rest.take count)).bind charOf?).map (·, rest.drop count)

/-- Reads a string in double quotes up to its end.  The characters so far stand in `done`, last
first, and every round reads a character. -/
def readBasic : Nat → List Char → List Char → Option (String × List Char)
  | _, _, [] => none
  | _, done, '"' :: rest => some (String.ofList done.reverse, rest)
  | 0, _, _ => none
  | fuel + 1, done, '\\' :: s =>
    (readEscape s).bind fun (c, rest) => readBasic fuel (c :: done) rest
  | fuel + 1, done, c :: rest => if isPlain c then readBasic fuel (c :: done) rest else none

/-- Reads a string in single quotes up to its end. -/
def readLiteral (s : List Char) : Option (String × List Char) :=
  match s.span fun c => isPlain c && c ≠ '\'' with
  | (text, '\'' :: rest) => some (String.ofList text, rest)
  | _ => none

/-- The text after an escaped line end: all blanks and line ends are skipped.  Nothing, if no line
end follows. -/
def skipFold? (s : List Char) : Option (List Char) :=
  (lineEnd? (skipSpaces s)).map go
where
  /-- Skips blanks and line ends. -/
  go : List Char → List Char
    | '\r' :: '\n' :: rest => go rest
    | c :: rest => if isSpace c || c = '\n' then go rest else c :: rest
    | [] => []

/-- Reads a string over several lines up to its end: three quotes, before which one or two more may
stand.  `folds` is whether backslashes count. -/
def readLong (quote : Char) (folds : Bool) :
    Nat → List Char → List Char → Option (String × List Char)
  | 0, _, _ => none
  | _, _, [] => none
  | fuel + 1, done, c :: s =>
    if c = quote then
      let run := ((c :: s).takeWhile (· = quote)).length
      if run < 3 then readLong quote folds fuel (c :: done) s
      else
        let extra := min (run - 3) 2
        some (String.ofList (done.reverse ++ List.replicate extra quote), (c :: s).drop (3 + extra))
    else if folds && c = '\\' then
      match skipFold? s with
      | some rest => readLong quote folds fuel done rest
      | none => (readEscape s).bind fun (e, rest) => readLong quote folds fuel (e :: done) rest
    else match lineEnd? (c :: s) with
      | some rest => readLong quote folds fuel ('\n' :: done) rest
      | none => if isPlain c then readLong quote folds fuel (c :: done) s else none

/-- Reads a string over several lines after its opening quotes; a line end right there does not
count. -/
def readLongFrom (quote : Char) (folds : Bool) (s : List Char) : Option (String × List Char) :=
  readLong quote folds (s.length + 1) [] ((lineEnd? s).getD s)

/-- Reads a string on one line. -/
def readShort? : List Char → Option (String × List Char)
  | '"' :: rest => readBasic rest.length [] rest
  | '\'' :: rest => readLiteral rest
  | _ => none

/-- Reads a string. -/
def readString? : List Char → Option (String × List Char)
  | '"' :: '"' :: '"' :: rest => readLongFrom '"' true rest
  | '\'' :: '\'' :: '\'' :: rest => readLongFrom '\'' false rest
  | s => readShort? s

/-! ## Keys -/

/-- Whether a character may stand in a key without quotes. -/
def isKeyChar (c : Char) : Bool := c.isAlphanum || c = '-' || c = '_'

/-- Reads one part of a key. -/
def readKeyPart? (s : List Char) : Option (String × List Char) :=
  match s.span isKeyChar with
  | ([], _) => readShort? s
  | (key, rest) => some (String.ofList key, rest)

/-- Reads a key: parts with dots between them, and blanks around each.  Every round reads a part. -/
def readKey? : Nat → List String → List Char → Option ((List String × String) × List Char)
  | 0, _, _ => none
  | fuel + 1, path, s =>
    (readKeyPart? (skipSpaces s)).bind fun (part, rest) =>
      match skipSpaces rest with
      | '.' :: rest' => readKey? fuel (path ++ [part]) rest'
      | rest' => some ((path, part), rest')

/-! ## Numbers -/

/-- The value of a digit in a base. -/
def digit? (base : Nat) (c : Char) : Option Nat := (Json.hexDigit? c).filter (· < base)

/-- Reads the digits of a number; an underscore may stand between two of them. -/
def readDigits (base : Nat) : Nat → List Char → Nat × List Char
  | n, '_' :: c :: rest =>
    match digit? base c with
    | some d => readDigits base (n * base + d) rest
    | none => (n, '_' :: c :: rest)
  | n, c :: rest =>
    match digit? base c with
    | some d => readDigits base (n * base + d) rest
    | none => (n, c :: rest)
  | n, [] => (n, [])

/-- Reads a number in a base, which begins with a digit. -/
def readIn (base : Nat) (s : List Char) : Option (Nat × List Char) :=
  match s with
  | c :: rest => (digit? base c).map fun d => readDigits base d rest
  | [] => none

/-- Reads a decimal number without a sign; one that begins with a zero is zero. -/
def readDecimal : List Char → Option (Nat × List Char)
  | '0' :: rest => some (0, rest)
  | s => readIn 10 s

/-- A number within the range of signed words of 64 bits. -/
def word? (n : Int) : Option Value :=
  let bound : Int := 0x8000000000000000
  if -bound ≤ n && n < bound then some (.int n) else none

/-- Reads an integer: with a mark for its base, or decimal with an optional sign. -/
def readInteger? (s : List Char) : Option (Value × List Char) :=
  let read : Option (Int × List Char) := match s with
    | '0' :: 'x' :: rest => (readIn 16 rest).map fun (n, r) => ((n : Int), r)
    | '0' :: 'o' :: rest => (readIn 8 rest).map fun (n, r) => ((n : Int), r)
    | '0' :: 'b' :: rest => (readIn 2 rest).map fun (n, r) => ((n : Int), r)
    | '+' :: rest => (readDecimal rest).map fun (n, r) => ((n : Int), r)
    | '-' :: rest => (readDecimal rest).map fun (n, r) => (-(n : Int), r)
    | _ => (readDecimal s).map fun (n, r) => ((n : Int), r)
  read.bind fun (n, rest) => (word? n).map (·, rest)

/-- Reads a value that holds no others. -/
def readScalar? (s : List Char) : Option (Value × List Char) :=
  match s with
  | 't' :: 'r' :: 'u' :: 'e' :: rest => some (.bool true, rest)
  | 'f' :: 'a' :: 'l' :: 's' :: 'e' :: rest => some (.bool false, rest)
  | '"' :: _ => (readString? s).map fun (text, rest) => (.str text, rest)
  | '\'' :: _ => (readString? s).map fun (text, rest) => (.str text, rest)
  | _ => readInteger? s

end Toml
end SourceAtlas
