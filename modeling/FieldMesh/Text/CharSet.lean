/-! # Sets of characters

A set of characters is a list of ranges of code points in ascending order, so that a search can
stop at the first range that begins beyond the character it is looking for. The sets that are
written out as tables are checked to be in that order.
-/

namespace FieldMesh

/-- The first and the last code point of every range. -/
abbrev CharSet := List (Nat × Nat)

namespace CharSet

/-- Whether the ranges begin at some code point or beyond it, and ascend without meeting. -/
def ascendsFrom : Nat → CharSet → Bool
  | _, [] => true
  | least, (first, last) :: rest =>
    least ≤ first && first ≤ last && ascendsFrom (last + 1) rest

def holds : CharSet → Nat → Bool
  | [], _ => false
  | (first, last) :: rest, n => first ≤ n && (n ≤ last || holds rest n)

end CharSet

end FieldMesh
