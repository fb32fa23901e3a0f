/-!
# Architecture styles

A project is object-oriented when its types outnumber its top-level functions three to two, and
functional or procedural when it is the other way round.  The comparison is made on binary numbers
of fifty-three significant bits, so above that size both counts and their multiples are rounded, a
half going to the even neighbour.
-/

namespace SourceAtlas

namespace Rounding

/-- A number rounded to a count of significant bits; a half goes to the even neighbour. -/
def toBits (bits n : Nat) : Nat :=
  let excess := n.log2 + 1 - bits
  let unit := Nat.pow 2 excess
  let kept := n / unit
  let dropped := n % unit
  if unit < 2 * dropped || (unit == 2 * dropped && kept % 2 == 1) then (kept + 1) * unit
  else kept * unit

/-- A number rounded to the precision of a double. -/
def toDouble (n : Nat) : Nat := toBits 53 n

end Rounding

/-- How a project is built (`ArchitectureStyle`). -/
inductive Architecture where
  | objectOriented | functionalProcedural | mixed
  deriving DecidableEq, Repr

namespace Architecture

/-- The spelling of a style in records. -/
def tag : Architecture → String
  | objectOriented => "object-oriented"
  | functionalProcedural => "functional/procedural"
  | mixed => "mixed"

/-- Whether `a` is at least one and a half times `b`, computed in doubles.  Both sides are doubled,
so that one and a half times a number is whole. -/
def dominates (a b : Nat) : Bool :=
  Rounding.toDouble (3 * Rounding.toDouble b) ≤ 2 * Rounding.toDouble a

/-- The style of a project with the given numbers of types and top-level functions
(`ArchitectureStyle.classify`). -/
def classify (classes functions : Nat) : Architecture :=
  if 0 < classes && dominates classes functions then objectOriented
  else if 0 < functions && dominates functions classes then functionalProcedural
  else mixed

end Architecture

end SourceAtlas
