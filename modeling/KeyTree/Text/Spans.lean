/-
# Sets of characters

A set of characters given as spans of code points, both ends included.
-/

namespace KeyTree.Text

/-- Spans of code points, first and last of each. -/
abbrev Spans := List (Nat × Nat)

/-- Whether a character lies in one of the spans. -/
def Spans.contains (spans : Spans) (c : Char) : Bool :=
  spans.any fun (first, last) => first ≤ c.toNat && c.toNat ≤ last

end KeyTree.Text
