/-
# Dispatch on the length

The tests of the length above the subtrees of the single lengths. Up to three
lengths are tested one after the other; more are halved at the length in the
middle.

* `Tree.lengthChain` — one length after the other.
* `Tree.balanced` — the halving of ascending lengths.
* `Tree.dispatch` — builds the subtree of each bucket once and in order.
-/

import KeyTree.Tree.Basic

namespace KeyTree.Tree

/-- The most lengths that are tested one after the other. -/
def linearLengthLimit : Nat := 3

/-- Tests of one length after the other; at the end no length is left. -/
def lengthChain : List (Int × Tree) → Tree
  | [] => .miss
  | (n, subtree) :: rest => .lengthTest n subtree (lengthChain rest)

/-- The tests above subtrees with ascending lengths. -/
def balanced (subtrees : List (Int × Tree)) : Tree :=
  if many : linearLengthLimit < subtrees.length then
    have inside : subtrees.length / 2 < subtrees.length := by
      simp only [linearLengthLimit] at many
      omega
    .lengthSplit (subtrees[subtrees.length / 2]).1
      (balanced (subtrees.take (subtrees.length / 2)))
      (balanced (subtrees.drop (subtrees.length / 2)))
  else lengthChain subtrees
termination_by subtrees.length
decreasing_by
  all_goals
    simp only [linearLengthLimit] at many
    simp only [List.length_take, List.length_drop]
    omega

/-- The tests above the subtrees that `build` gives for the buckets of ascending
lengths. -/
def dispatch {m : Type → Type} [Monad m] {β : Type} (buckets : List (Int × β))
    (build : β → m Tree) : m Tree := do
  let subtrees ← buckets.mapM fun (n, bucket) => return (n, ← build bucket)
  return balanced subtrees

end KeyTree.Tree
