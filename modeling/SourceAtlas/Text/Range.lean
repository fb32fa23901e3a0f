/-!
# Ranges of code points

The classes of characters that the scanner asks about are sets of code points given by ascending
tables.  A table is either a list of closed ranges, or a list of *strided* ranges `(first, last,
step)` for the blocks in which, say, capital and small letters alternate.  Because the tables
ascend, a lookup stops at the first range that begins beyond the code point, so the letters of the
ASCII block are decided after a few comparisons.
-/

namespace SourceAtlas
namespace Text

/-- Closed ranges `(first, last)`, ascending and disjoint. -/
abbrev RangeTable := List (Nat × Nat)

/-- Whether a code point lies in one of the ranges of an ascending table. -/
def RangeTable.has : RangeTable → Nat → Bool
  | [], _ => false
  | (first, last) :: rest, n =>
    if n < first then false
    else if n ≤ last then true
    else RangeTable.has rest n

/-- Strided ranges `(first, last, step)`: the code points `first`, `first + step`, …, `last`. -/
abbrev StridedTable := List (Nat × Nat × Nat)

/-- Whether a code point is met by one of the strided ranges of an ascending table. -/
def StridedTable.has : StridedTable → Nat → Bool
  | [], _ => false
  | (first, last, step) :: rest, n =>
    if n < first then false
    else if n ≤ last && (n - first) % step == 0 then true
    else StridedTable.has rest n

/-- Strided ranges with the distance from each code point to its image. -/
abbrev ShiftTable := List (Nat × Nat × Nat × Int)

/-- The image of a code point under an ascending table of shifts, if it has one. -/
def ShiftTable.image? : ShiftTable → Nat → Option Nat
  | [], _ => none
  | (first, last, step, shift) :: rest, n =>
    if n < first then none
    else if n ≤ last && (n - first) % step == 0 then some (Int.toNat (n + shift))
    else ShiftTable.image? rest n

end Text
end SourceAtlas
