/-!
# JSON values

The values in which records are written and read.  A number is kept as a natural number where it is
written as one; any other number is a signed decimal with an exponent of ten.  The fields of an
object keep their order, because written records have a fixed one.
-/

namespace SourceAtlas

namespace Json

/-- A number, by the way it is written. -/
inductive Number where
  /-- Digits only. -/
  | natural (n : Nat)
  /-- `digits · 10 ^ exponent`, written with a sign, a point or an exponent. -/
  | decimal (negative : Bool) (digits : Nat) (exponent : Int)
  deriving DecidableEq, Repr

namespace Number

/-- The least magnitude that no double can hold: half a unit above the greatest one. -/
def overflow : Nat := Nat.pow 2 1024 - Nat.pow 2 970

/-- Whether the nearest double is finite. -/
def isFinite : Number → Bool
  | natural n => n < overflow
  | decimal _ digits exponent =>
    match exponent with
    | .ofNat e => digits == 0 || (e ≤ 308 && digits * Nat.pow 10 e < overflow)
    | .negSucc e => digits.log2 < 1023 || digits / Nat.pow 10 (e + 1) < overflow

end Number

end Json

/-- A JSON value. -/
inductive Json where
  | null
  | bool (b : Bool)
  | num (n : Json.Number)
  | str (s : String)
  | arr (items : List Json)
  | obj (fields : List (String × Json))
  deriving Repr, BEq

namespace Json

/-- A natural number. -/
def nat (n : Nat) : Json := num (.natural n)

/-- A list of strings. -/
def strings (ss : List String) : Json := arr (ss.map str)

/-- A string, or null. -/
def ofString? : Option String → Json
  | some s => str s
  | none => null

/-- The value of a field; of several fields with one name the last counts. -/
def field? (key : String) : Json → Option Json
  | obj fields => (fields.reverse.find? (·.1 == key)).map (·.2)
  | _ => none

/-- The string that a value is. -/
def str? : Json → Option String
  | str s => some s
  | _ => none

/-- The truth value that a value is. -/
def bool? : Json → Option Bool
  | bool b => some b
  | _ => none

/-- The natural number that a value is, if it fits into 64 bits. -/
def nat64? : Json → Option Nat
  | num (.natural n) => if n < 0x10000000000000000 then some n else none
  | _ => none

/-- The list that a value is. -/
def arr? : Json → Option (List Json)
  | arr items => some items
  | _ => none

/-- The list of strings that a value is. -/
def strings? (j : Json) : Option (List String) := j.arr?.bind (·.mapM str?)

end Json

end SourceAtlas
