/-!
# UTF-8

Reading text from octets.  A sequence of octets either decodes to characters, or it fails at a first
place, in one of two ways: some octets there can never begin a character, or the octets end in the
middle of one.  The failure keeps the index of that place, because reports quote it.  Names of files
are decoded all the same, with replacement characters where they are no text (`decodeLossy`).
-/

namespace SourceAtlas
namespace Text

/-- The first place at which octets are no text. -/
structure DecodeError where
  /-- The number of octets before that place. -/
  validUpTo : Nat
  /-- How many octets are wrong there; `none` when the input ends inside a character. -/
  badOctets : Option Nat
  deriving DecidableEq, Repr

/-- The wording of a decoding failure. -/
def DecodeError.message (e : DecodeError) : String :=
  match e.badOctets with
  | some n => s!"invalid utf-8 sequence of {n} bytes from index {e.validUpTo}"
  | none => s!"incomplete utf-8 byte sequence from index {e.validUpTo}"

/-- What the first octet of a longer character promises: how many octets follow it, and the range in
which the first of them has to lie.  Octets that begin no character promise nothing. -/
def lead? (n : Nat) : Option (Nat × Nat × Nat) :=
  if 0xC2 ≤ n && n ≤ 0xDF then some (1, 0x80, 0xBF)
  else if n == 0xE0 then some (2, 0xA0, 0xBF)
  else if n == 0xED then some (2, 0x80, 0x9F)
  else if 0xE1 ≤ n && n ≤ 0xEF then some (2, 0x80, 0xBF)
  else if n == 0xF0 then some (3, 0x90, 0xBF)
  else if n == 0xF4 then some (3, 0x80, 0x8F)
  else if 0xF1 ≤ n && n ≤ 0xF3 then some (3, 0x80, 0xBF)
  else none

/-- The bits that a first octet contributes to its character, when `tail` octets follow it. -/
def leadBits (tail n : Nat) : Nat :=
  match tail with
  | 1 => n % 0x20
  | 2 => n % 0x10
  | _ => n % 0x08

/-- Reads the remaining octets of a character.  The failure is the number of octets read so far, or
`none` when there are no more octets. -/
def readTail : Nat → Nat → Nat → Nat → Nat → List UInt8 → Except (Option Nat) (Nat × List UInt8)
  | 0, _, _, _, value, rest => .ok (value, rest)
  | _ + 1, _, _, _, _, [] => .error none
  | owed + 1, low, high, read, value, b :: rest =>
    if low ≤ b.toNat && b.toNat ≤ high then
      readTail owed 0x80 0xBF (read + 1) (value * 0x40 + b.toNat % 0x40) rest
    else .error (some read)

/-- Reads one character; the failure is as in `readTail`. -/
def readChar (b : UInt8) (rest : List UInt8) : Except (Option Nat) (Char × Nat × List UInt8) :=
  if b.toNat < 0x80 then .ok (Char.ofNat b.toNat, 1, rest)
  else match lead? b.toNat with
    | none => .error (some 1)
    | some (tail, low, high) =>
      match readTail tail low high 1 (leadBits tail b.toNat) rest with
      | .ok (value, rest') => .ok (Char.ofNat value, tail + 1, rest')
      | .error e => .error e

/-- Decodes octets from index `at_` on; `done` holds the characters before it, last first. -/
def decodeFrom : Nat → Nat → List Char → List UInt8 → Except DecodeError (List Char)
  | _, _, done, [] => .ok done.reverse
  | 0, _, done, _ => .ok done.reverse
  | fuel + 1, at_, done, b :: rest =>
    match readChar b rest with
    | .ok (c, width, rest') => decodeFrom fuel (at_ + width) (c :: done) rest'
    | .error bad => .error ⟨at_, bad⟩

/-- The text written by the octets, or the first place at which they are no text. -/
def decode (octets : List UInt8) : Except DecodeError String :=
  (decodeFrom octets.length 0 [] octets).map String.ofList

/-- The character that stands for octets that are no text. -/
def replacement : Char := Char.ofNat 0xFFFD

/-- Decodes octets that need not be a text: where they are none, the wrong octets, or all that is
left inside a character, become one replacement character. -/
def lossyChars : Nat → List UInt8 → List Char
  | 0, _ => []
  | _ + 1, [] => []
  | fuel + 1, b :: rest =>
    match readChar b rest with
    | .ok (c, _, rest') => c :: lossyChars fuel rest'
    | .error (some bad) => replacement :: lossyChars fuel (rest.drop (bad - 1))
    | .error none => [replacement]

/-- The text that is shown for octets. -/
def decodeLossy (octets : List UInt8) : String := String.ofList (lossyChars octets.length octets)

/-- The octets that write a text. -/
def encode (s : String) : List UInt8 := s.toUTF8.data.toList

/-- The character that some programs put at the front of a text to mark its encoding. -/
def byteOrderMark : Char := Char.ofNat 0xFEFF

/-- The text without a byte-order mark at its front. -/
def withoutMark : List Char → List Char
  | [] => []
  | c :: rest => if c = byteOrderMark then rest else c :: rest

end Text
end SourceAtlas
