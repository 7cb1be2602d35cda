/-
# Traversals with a stack

Going through a tree of any depth with a list of the subtrees still to visit
instead of recursion into the children.

* `Tree.nodes` — all subtrees, a node before its children.
* `Tree.entries` — the entries of the leaves from left to right.
* `Tree.depth` — the most tests that one lookup can perform.
-/

import KeyTree.Tree.Basic

namespace KeyTree.Tree

/-- The subtrees of the trees on a stack. -/
def nodesFrom : List Tree → List Tree
  | [] => []
  | t :: rest => t :: nodesFrom (t.children ++ rest)
termination_by stack => total size stack
decreasing_by
  have := total_size_children t
  simp only [total_append, total_cons]
  omega

/-- The subtrees of a tree, a node before its children. -/
def nodes (t : Tree) : List Tree := nodesFrom [t]

/-- The number of nodes. -/
def nodeCount (t : Tree) : Nat := t.nodes.length

/-- The entries of the leaves from left to right. -/
def entries (t : Tree) : List Entry := t.nodes.filterMap entry?

/-- The number of tests with which a path ends at a node that is reached after
`above` tests, if it can end there. -/
def endDepth? (above : Nat) : Tree → Option Nat
  | .miss => some above
  | .leaf _ => some (above + 1)
  | _ => none

/-- The greatest number of tests on a path to the end of a tree on the stack, each
tree with the number of tests above it; `deepest` is the greatest so far. -/
def deepestFrom (deepest : Nat) : List (Tree × Nat) → Nat
  | [] => deepest
  | (t, above) :: rest =>
    deepestFrom (max deepest ((t.endDepth? above).getD 0))
      ((t.children.map (·, above + 1)).reverse ++ rest)
termination_by stack => total (fun item => item.1.size) stack
decreasing_by
  have : total (fun c => c.size) t.children + 1 = t.size := total_size_children t
  simp only [total_append, total_reverse, total_map, total_cons]
  omega

/-- The most tests that one lookup can perform. -/
def depth (t : Tree) : Nat := deepestFrom 0 [(t, 0)]

end KeyTree.Tree
