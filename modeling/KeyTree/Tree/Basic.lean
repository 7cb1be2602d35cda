/-
# Decision trees

The tree that tells the keys of a declaration apart. An inner node makes one test
on the input, of its length or of one of its characters; a leaf holds the only key
that is left, and `miss` means that no key is left.

* `Tree` — the five kinds of node.
* `Tree.children`, `Tree.size`, `Tree.height` — its structure.
* `Tree.preorder`, `Tree.leaves` — its nodes and the entries of its leaves in order.
-/

import KeyTree.Entry.Basic
import KeyTree.Total

namespace KeyTree

/-- A decision tree.

* `miss`: the input equals no key.
* `leaf e`: the input may equal the key of `e` and no other.
* `charTest p bs`: the branch of the character at position `p` decides; a
  character without a branch is a miss.
* `lengthTest n s o`: `s` decides for inputs of length `n`, `o` for the others.
* `lengthSplit n b a`: `b` decides for inputs shorter than `n`, `a` for the
  others. -/
inductive Tree where
  | miss
  | leaf (entry : Entry)
  | charTest (position : Int) (branches : List (String × Tree))
  | lengthTest (length : Int) (same other : Tree)
  | lengthSplit (pivot : Int) (below atLeast : Tree)
  deriving Repr, Inhabited

namespace Tree

/-- The direct children of a node from left to right. -/
def children : Tree → List Tree
  | .miss => []
  | .leaf _ => []
  | .charTest _ branches => branches.map Prod.snd
  | .lengthTest _ same other => [same, other]
  | .lengthSplit _ below atLeast => [below, atLeast]

/-! ### Structural measures -/

mutual

/-- The number of nodes. -/
def size : Tree → Nat
  | .miss => 1
  | .leaf _ => 1
  | .charTest _ branches => 1 + sizeBranches branches
  | .lengthTest _ same other => 1 + size same + size other
  | .lengthSplit _ below atLeast => 1 + size below + size atLeast

/-- The number of nodes under some branches. -/
def sizeBranches : List (String × Tree) → Nat
  | [] => 0
  | (_, child) :: rest => size child + sizeBranches rest

end

mutual

/-- The most tests on a path from the root, the comparison with the key of a leaf
counted as a test. -/
def height : Tree → Nat
  | .miss => 0
  | .leaf _ => 1
  | .charTest _ branches => 1 + heightBranches branches
  | .lengthTest _ same other => 1 + max (height same) (height other)
  | .lengthSplit _ below atLeast => 1 + max (height below) (height atLeast)

/-- The most tests on a path from one of the branches. -/
def heightBranches : List (String × Tree) → Nat
  | [] => 0
  | (_, child) :: rest => max (height child) (heightBranches rest)

end

/-! ### Nodes in order -/

mutual

/-- The subtrees, a node before its children, the children from left to right. -/
def preorder : Tree → List Tree
  | .miss => [.miss]
  | .leaf entry => [.leaf entry]
  | .charTest position branches => .charTest position branches :: preorderBranches branches
  | .lengthTest n same other => .lengthTest n same other :: (preorder same ++ preorder other)
  | .lengthSplit n below atLeast =>
    .lengthSplit n below atLeast :: (preorder below ++ preorder atLeast)

/-- The subtrees under some branches, in the same order. -/
def preorderBranches : List (String × Tree) → List Tree
  | [] => []
  | (_, child) :: rest => preorder child ++ preorderBranches rest

end

/-- The entry of a node that is a leaf. -/
def entry? : Tree → Option Entry
  | .leaf entry => some entry
  | _ => none

mutual

/-- The entries of the leaves from left to right. -/
def leaves : Tree → List Entry
  | .miss => []
  | .leaf entry => [entry]
  | .charTest _ branches => leavesBranches branches
  | .lengthTest _ same other => leaves same ++ leaves other
  | .lengthSplit _ below atLeast => leaves below ++ leaves atLeast

/-- The entries of the leaves under some branches. -/
def leavesBranches : List (String × Tree) → List Entry
  | [] => []
  | (_, child) :: rest => leaves child ++ leavesBranches rest

end

/-! ### Branches -/

/-- The child on the branch of a character, or a miss. -/
def branchFor (label : String) : List (String × Tree) → Tree
  | [] => .miss
  | (candidate, child) :: rest => if candidate = label then child else branchFor label rest

/-! ### Sizes of children -/

/-- The sizes of the children of some branches add up to the size of the
branches. -/
theorem total_size_branches (branches : List (String × Tree)) :
    total size (branches.map Prod.snd) = sizeBranches branches := by
  induction branches with
  | nil => rfl
  | cons b rest ih => simp only [List.map_cons, total_cons, sizeBranches, ih]

/-- A node is one more than its children together. -/
theorem total_size_children (t : Tree) : total size t.children + 1 = t.size := by
  cases t with
  | miss => rfl
  | leaf => rfl
  | charTest _ branches =>
    simp only [children, size, total_size_branches]
    omega
  | lengthTest => simp [children, size]; omega
  | lengthSplit => simp [children, size]; omega

end Tree

end KeyTree
