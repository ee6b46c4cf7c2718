/-!
# Sets of code points

A class of characters is written down as spans of code points. Scripts with capitals often lay a
capital beside its small letter, so a span may also stand for every second code point in it.
-/

namespace Unmask.Text

/-- A set of code points. A span is a pair of its first and its last code point. -/
structure CodeSet where
  /-- Spans that belong to the set whole. -/
  spans : List (Nat × Nat)
  /-- Spans of which every second code point belongs to the set, the first included. -/
  alternating : List (Nat × Nat) := []

namespace CodeSet

/-- Whether a character's code point is in the set. -/
def contains (set : CodeSet) (c : Char) : Bool :=
  set.spans.any (fun s => s.1 ≤ c.toNat && c.toNat ≤ s.2) ||
    set.alternating.any fun s => s.1 ≤ c.toNat && c.toNat ≤ s.2 && (c.toNat - s.1) % 2 == 0

end CodeSet

end Unmask.Text
