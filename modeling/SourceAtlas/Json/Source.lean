import SourceAtlas.Json.Basic

/-!
# JSON text

Reading happens in two layers.  The first takes text apart by the grammar of the format; its result,
a `Json.Source`, holds strings with their numeric escapes unresolved and numbers of any size.  The
second evaluates a source: escapes have to form characters, numbers have to be finite, and the
nesting is limited.  A reader that skips parts of a document never evaluates what it skips.

The first layer is a machine with a stack of open containers, so nesting costs no recursion.  Every
step of it reads at least one character.
-/

namespace SourceAtlas
namespace Json

/-- A part of a string as it is written. -/
inductive Piece where
  /-- A character, or the escape of one. -/
  | char (c : Char)
  /-- A numeric escape: one unit of sixteen bits. -/
  | unit (n : Nat)
  deriving DecidableEq, Repr

/-- A document taken apart by the grammar. -/
inductive Source where
  | null
  | bool (b : Bool)
  | num (n : Number)
  | str (s : List Piece)
  | arr (items : List Source)
  | obj (fields : List (List Piece × Source))

/-! ## Tokens -/

/-- The blanks of the format. -/
def isSpace (c : Char) : Bool := c = ' ' || c = '\t' || c = '\n' || c = '\r'

/-- The value of a hexadecimal digit. -/
def hexDigit? (c : Char) : Option Nat :=
  let n := c.toNat
  if 0x30 ≤ n && n ≤ 0x39 then some (n - 0x30)
  else if 0x41 ≤ n && n ≤ 0x46 then some (n - 0x41 + 10)
  else if 0x61 ≤ n && n ≤ 0x66 then some (n - 0x61 + 10)
  else none

/-- The value of digits in base sixteen. -/
def hexValue? (digits : List Char) : Option Nat :=
  digits.foldl (fun acc c => acc.bind fun n => (hexDigit? c).map (n * 16 + ·)) (some 0)

/-- The character that a one-letter escape stands for. -/
def escaped? (c : Char) : Option Char :=
  if c = '"' || c = '\\' || c = '/' then some c
  else if c = 'b' then some (Char.ofNat 8)
  else if c = 'f' then some (Char.ofNat 12)
  else if c = 'n' then some '\n'
  else if c = 'r' then some '\r'
  else if c = 't' then some '\t'
  else none

/-- Reads a string up to its closing quote; `done` holds the pieces so far, last first. -/
def readString (done : List Piece) : List Char → Option (List Piece × List Char)
  | [] => none
  | '"' :: rest => some (done.reverse, rest)
  | '\\' :: 'u' :: d1 :: d2 :: d3 :: d4 :: rest =>
    match hexValue? [d1, d2, d3, d4] with
    | some n => readString (.unit n :: done) rest
    | none => none
  | '\\' :: e :: rest =>
    match escaped? e with
    | some c => readString (.char c :: done) rest
    | none => none
  | '\\' :: [] => none
  | c :: rest => if c.toNat < 0x20 then none else readString (.char c :: done) rest

/-- The digits at the front of a text, and what follows them. -/
def readDigits (s : List Char) : List Char × List Char := s.span Char.isDigit

/-- The value of decimal digits. -/
def digitsValue (digits : List Char) : Nat :=
  digits.foldl (fun n c => n * 10 + (c.toNat - 0x30)) 0

/-- The whole part of a number: a zero, or digits that begin with another digit. -/
def readWhole : List Char → Option (List Char × List Char)
  | '0' :: rest => some (['0'], rest)
  | s => match readDigits s with
    | ([], _) => none
    | (digits, rest) => some (digits, rest)

/-- The fraction of a number, if it has one. -/
def readFraction : List Char → Option (Option (List Char) × List Char)
  | '.' :: s => match readDigits s with
    | ([], _) => none
    | (digits, rest) => some (some digits, rest)
  | s => some (none, s)

/-- The digits of an exponent. -/
def readExponentDigits (negative : Bool) (s : List Char) : Option (Option Int × List Char) :=
  match readDigits s with
  | ([], _) => none
  | (digits, rest) =>
    let n : Int := digitsValue digits
    some (some (if negative then -n else n), rest)

/-- The exponent of a number, if it has one. -/
def readExponent : List Char → Option (Option Int × List Char)
  | c :: s =>
    if c = 'e' || c = 'E' then
      match s with
      | '-' :: s' => readExponentDigits true s'
      | '+' :: s' => readExponentDigits false s'
      | s' => readExponentDigits false s'
    else some (none, c :: s)
  | [] => some (none, [])

/-- The parts of a number put together. -/
def assemble (negative : Bool) (whole : List Char) (fraction : Option (List Char))
    (exponent : Option Int) : Number :=
  match negative, fraction, exponent with
  | false, none, none => .natural (digitsValue whole)
  | _, _, _ =>
    let tail := fraction.getD []
    .decimal negative (digitsValue (whole ++ tail)) (exponent.getD 0 - tail.length)

/-- Reads a number after its sign. -/
def readUnsigned (negative : Bool) (s : List Char) : Option (Number × List Char) := do
  let (whole, s) ← readWhole s
  let (fraction, s) ← readFraction s
  let (exponent, s) ← readExponent s
  return (assemble negative whole fraction exponent, s)

/-- Reads a number. -/
def readNumber : List Char → Option (Number × List Char)
  | '-' :: s => readUnsigned true s
  | s => readUnsigned false s

/-! ## The machine -/

/-- A container that is still open; what it holds so far stands last first. -/
inductive Frame where
  | inArray (items : List Source)
  | inObject (fields : List (List Piece × Source)) (key : List Piece)

/-- What the machine does next. -/
inductive Phase where
  /-- It expects a value. -/
  | value
  /-- It has just read one. -/
  | after (v : Source)

/-- The machine between two steps. -/
structure Machine where
  phase : Phase
  stack : List Frame
  rest : List Char

/-- Reads a key and the colon after it, and opens its field. -/
def readKey (fields : List (List Piece × Source)) (stack : List Frame) (s : List Char) :
    Option Machine :=
  match s.dropWhile isSpace with
  | '"' :: s' => do
    let (key, s'') ← readString [] s'
    match s''.dropWhile isSpace with
    | ':' :: rest => some ⟨.value, .inObject fields key :: stack, rest⟩
    | _ => none
  | _ => none

/-- Reads the beginning of a value, or a whole one that holds no others. -/
def beginValue (stack : List Frame) (s : List Char) : Option Machine :=
  match s.dropWhile isSpace with
  | '"' :: s' => (readString [] s').map fun (text, rest) => ⟨.after (.str text), stack, rest⟩
  | '[' :: s' =>
    match s'.dropWhile isSpace with
    | ']' :: rest => some ⟨.after (.arr []), stack, rest⟩
    | rest => some ⟨.value, .inArray [] :: stack, rest⟩
  | '\x7b' :: s' =>
    match s'.dropWhile isSpace with
    | '\x7d' :: rest => some ⟨.after (.obj []), stack, rest⟩
    | rest => readKey [] stack rest
  | 't' :: 'r' :: 'u' :: 'e' :: rest => some ⟨.after (.bool true), stack, rest⟩
  | 'f' :: 'a' :: 'l' :: 's' :: 'e' :: rest => some ⟨.after (.bool false), stack, rest⟩
  | 'n' :: 'u' :: 'l' :: 'l' :: rest => some ⟨.after .null, stack, rest⟩
  | s' => (readNumber s').map fun (n, rest) => ⟨.after (.num n), stack, rest⟩

/-- Adds a value to the innermost container, and closes the container or goes on in it. -/
def endValue (v : Source) (frame : Frame) (stack : List Frame) (s : List Char) : Option Machine :=
  match frame, s.dropWhile isSpace with
  | .inArray items, ',' :: rest => some ⟨.value, .inArray (v :: items) :: stack, rest⟩
  | .inArray items, ']' :: rest => some ⟨.after (.arr (v :: items).reverse), stack, rest⟩
  | .inObject fields key, ',' :: rest => readKey ((key, v) :: fields) stack rest
  | .inObject fields key, '\x7d' :: rest =>
    some ⟨.after (.obj ((key, v) :: fields).reverse), stack, rest⟩
  | _, _ => none

/-- Runs the machine for at most `n` steps; the document has to end with its value. -/
def Machine.run : Nat → Machine → Option Source
  | 0, _ => none
  | n + 1, ⟨.value, stack, s⟩ => (beginValue stack s).bind (Machine.run n)
  | _ + 1, ⟨.after v, [], s⟩ => if s.all isSpace then some v else none
  | n + 1, ⟨.after v, frame :: stack, s⟩ => (endValue v frame stack s).bind (Machine.run n)

/-- Takes a document apart by the grammar. -/
def Source.parse? (s : List Char) : Option Source :=
  Machine.run (s.length + 2) ⟨.value, [], s⟩

/-! ## Evaluation -/

/-- The text of a string: units of sixteen bits have to be characters or pair up to one.  The
characters read so far stand in `done`, last first. -/
def textOf? (done : List Char) : List Piece → Option (List Char)
  | [] => some done.reverse
  | .char c :: rest => textOf? (c :: done) rest
  | .unit hi :: .unit lo :: rest =>
    if 0xD800 ≤ hi && hi ≤ 0xDBFF then
      if 0xDC00 ≤ lo && lo ≤ 0xDFFF then
        textOf? (Char.ofNat (0x10000 + (hi - 0xD800) * 0x400 + (lo - 0xDC00)) :: done) rest
      else none
    else if 0xDC00 ≤ hi && hi ≤ 0xDFFF then none
    else textOf? (Char.ofNat hi :: done) (.unit lo :: rest)
  | .unit n :: rest =>
    if 0xD800 ≤ n && n ≤ 0xDFFF then none else textOf? (Char.ofNat n :: done) rest

/-- The string that pieces spell. -/
def string? (s : List Piece) : Option String := (textOf? [] s).map String.ofList

mutual

/-- The value of a source that nests less than `depth` containers. -/
def Source.eval? (depth : Nat) : Source → Option Json
  | .null => some .null
  | .bool b => some (.bool b)
  | .num n => if n.isFinite then some (.num n) else none
  | .str s => (string? s).map .str
  | .arr items => if depth ≤ 1 then none else (Source.evalAll? (depth - 1) items).map .arr
  | .obj fields => if depth ≤ 1 then none else (Source.evalFields? (depth - 1) fields).map .obj

/-- The values of the items of a list. -/
def Source.evalAll? (depth : Nat) : List Source → Option (List Json)
  | [] => some []
  | s :: rest =>
    match s.eval? depth with
    | some v => (Source.evalAll? depth rest).map (v :: ·)
    | none => none

/-- The values of the fields of an object. -/
def Source.evalFields? (depth : Nat) : List (List Piece × Source) → Option (List (String × Json))
  | [] => some []
  | (key, s) :: rest =>
    match string? key, s.eval? depth with
    | some k, some v => (Source.evalFields? depth rest).map ((k, v) :: ·)
    | _, _ => none

end

/-- The greatest number of containers that may stand inside one another, plus one. -/
def depthLimit : Nat := 128

/-- Reads a JSON document. -/
def parse? (s : String) : Option Json := (Source.parse? s.toList).bind (Source.eval? depthLimit)

end Json
end SourceAtlas
