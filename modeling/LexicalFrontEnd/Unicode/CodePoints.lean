/-!
Sets of characters given as ranges of code points.

The tables of this folder list the characters that have one property of the
Unicode Character Database, version 17.  A table is sorted and its ranges do not
touch, so a search may stop at the first range that lies above the code point it
looks for.
-/

namespace LexicalFrontEnd
namespace Unicode

/-- A set of code points: the first and the last code point of each range, in
increasing order. -/
abbrev CodePoints := List (Nat × Nat)

namespace CodePoints

def containsCode : CodePoints → Nat → Bool
  | [], _ => false
  | (first, last) :: rest, n =>
    if n < first then false else if n ≤ last then true else containsCode rest n

def contains (table : CodePoints) (c : Char) : Bool := table.containsCode c.toNat

end CodePoints
end Unicode
end LexicalFrontEnd
