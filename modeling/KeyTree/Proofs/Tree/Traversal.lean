/-
# Traversals and recursion

A traversal with a list of the subtrees still to visit gives what recursion into the
children gives: the same subtrees in the same order, the same leaves, and the same
greatest number of tests.

* `Tree.nodes_eq_preorder`, `Tree.entries_eq_leaves` — the nodes and the leaves.
* `Tree.Branched` — every test of a character has a branch.
* `Tree.depth_eq_height` — the most tests on a path, for a tree that is branched.
* `Tree.traversals_eq_recursion` — the three together.
-/

import KeyTree.Tree.Traversal

namespace KeyTree.Tree

/-! ### Nodes in order -/

/-- The subtrees under branches are those of the children one after the other. -/
theorem preorderBranches_eq (branches : List (String × Tree)) :
    preorderBranches branches = branches.flatMap (·.2.preorder) := by
  induction branches with
  | nil => rfl
  | cons b rest ih => simp [preorderBranches, ih]

/-- A node stands before the subtrees of its children. -/
theorem preorder_eq (t : Tree) : t.preorder = t :: t.children.flatMap preorder := by
  cases t with
  | miss => rfl
  | leaf entry => rfl
  | charTest position branches => simp [preorder, preorderBranches_eq, children, List.flatMap_map]
  | lengthTest n same other => simp [preorder, children]
  | lengthSplit pivot below atLeast => simp [preorder, children]

/-- The subtrees of the trees on a stack are those of one tree after the other. -/
theorem nodesFrom_eq (stack : List Tree) : nodesFrom stack = stack.flatMap preorder := by
  fun_induction nodesFrom stack with
  | case1 => rfl
  | case2 t rest ih =>
    rw [ih, List.flatMap_append, List.flatMap_cons, preorder_eq t, List.cons_append]

/-- The traversal with a stack visits the nodes in order. -/
theorem nodes_eq_preorder (t : Tree) : t.nodes = t.preorder := by
  rw [nodes, nodesFrom_eq, List.flatMap_singleton]

mutual

/-- The leaves among the nodes in order. -/
theorem filterMap_entry?_preorder : ∀ t : Tree, t.preorder.filterMap entry? = t.leaves
  | .miss => rfl
  | .leaf _ => rfl
  | .charTest _ branches => filterMap_entry?_preorderBranches branches
  | .lengthTest _ same other => by
    rw [preorder, List.filterMap_cons_none rfl, List.filterMap_append, leaves,
      filterMap_entry?_preorder same, filterMap_entry?_preorder other]
  | .lengthSplit _ below atLeast => by
    rw [preorder, List.filterMap_cons_none rfl, List.filterMap_append, leaves,
      filterMap_entry?_preorder below, filterMap_entry?_preorder atLeast]

/-- The leaves among the nodes under some branches. -/
theorem filterMap_entry?_preorderBranches : ∀ branches : List (String × Tree),
    (preorderBranches branches).filterMap entry? = leavesBranches branches
  | [] => rfl
  | (_, child) :: rest => by
    simp [preorderBranches, leavesBranches, filterMap_entry?_preorder child,
      filterMap_entry?_preorderBranches rest]

end

/-- The traversal with a stack meets the leaves from left to right. -/
theorem entries_eq_leaves (t : Tree) : t.entries = t.leaves := by
  rw [entries, nodes_eq_preorder, filterMap_entry?_preorder]

/-! ### The most tests on a path -/

/-- Every test of a character in the tree has a branch. -/
def Branched (t : Tree) : Prop := ∀ position, Tree.charTest position [] ∉ t.preorder

/-- The children of a branched tree are branched. -/
theorem Branched.of_mem_children {t child : Tree} (branched : t.Branched)
    (member : child ∈ t.children) : child.Branched := by
  intro position inside
  refine branched position ?_
  rw [preorder_eq]
  exact List.mem_cons_of_mem _ (List.mem_flatMap.mpr ⟨child, member, inside⟩)

/-- Branches need no more tests than some number when no child does. -/
theorem heightBranches_le_iff {branches : List (String × Tree)} {bound : Nat} :
    heightBranches branches ≤ bound ↔ ∀ b ∈ branches, b.2.height ≤ bound := by
  induction branches with
  | nil => simp [heightBranches]
  | cons b rest ih => rw [heightBranches, Nat.max_le, ih, List.forall_mem_cons]

/-- A path through a branched tree ends at its root or goes on with a child. -/
theorem Branched.add_height_le_iff {t : Tree} (branched : t.Branched) {above bound : Nat} :
    above + t.height ≤ bound ↔
      (t.endDepth? above).getD 0 ≤ bound ∧ ∀ c ∈ t.children, above + 1 + c.height ≤ bound := by
  cases t with
  | miss => simp [height, endDepth?, children]
  | leaf entry => simp [height, endDepth?, children]
  | charTest position branches =>
    have nonempty : branches ≠ [] := by
      intro none
      refine branched position ?_
      simp [none, preorder]
    obtain ⟨first, member⟩ := List.exists_mem_of_ne_nil _ nonempty
    simp only [height, endDepth?, Option.getD_none, Nat.zero_le, true_and, children,
      List.forall_mem_map]
    constructor
    · intro le b inside
      have := heightBranches_le_iff.mp (Nat.le_refl (heightBranches branches)) b inside
      omega
    · intro le
      have least := le first member
      have all : heightBranches branches ≤ bound - (above + 1) := by
        refine heightBranches_le_iff.mpr ?_
        intro b inside
        have := le b inside
        omega
      omega
  | lengthTest n same other =>
    simp only [height, endDepth?, Option.getD_none, Nat.zero_le, true_and, children,
      List.forall_mem_cons, List.not_mem_nil, false_implies, implies_true, and_true]
    omega
  | lengthSplit pivot below atLeast =>
    simp only [height, endDepth?, Option.getD_none, Nat.zero_le, true_and, children,
      List.forall_mem_cons, List.not_mem_nil, false_implies, implies_true, and_true]
    omega

/-- The greatest number of tests below a stack of branched trees is bounded by what bounds
each of them. -/
theorem deepestFrom_le_iff {deepest bound : Nat} {stack : List (Tree × Nat)}
    (branched : ∀ item ∈ stack, item.1.Branched) :
    deepestFrom deepest stack ≤ bound ↔
      deepest ≤ bound ∧ ∀ item ∈ stack, item.2 + item.1.height ≤ bound := by
  fun_induction deepestFrom deepest stack with
  | case1 deepest => simp
  | case2 deepest t above rest ih =>
    obtain ⟨top, others⟩ := List.forall_mem_cons.mp branched
    have next : ∀ item ∈ (t.children.map (·, above + 1)).reverse ++ rest, item.1.Branched := by
      intro item member
      rcases List.mem_append.mp member with child | other
      · obtain ⟨c, inside, rfl⟩ := List.mem_map.mp (List.mem_reverse.mp child)
        exact top.of_mem_children inside
      · exact others item other
    rw [ih next, List.forall_mem_cons, top.add_height_le_iff, Nat.max_le]
    simp only [List.mem_append, List.mem_reverse, or_imp, forall_and, List.forall_mem_map,
      and_assoc]

/-- The traversal with a stack finds the most tests on a path. -/
theorem depth_eq_height {t : Tree} (branched : t.Branched) : t.depth = t.height := by
  have same (bound : Nat) : t.depth ≤ bound ↔ t.height ≤ bound := by
    rw [depth, deepestFrom_le_iff (by simpa using branched)]
    simp
  exact Nat.le_antisymm ((same _).mpr (Nat.le_refl _)) ((same _).mp (Nat.le_refl _))

/-- The traversals with a stack give what recursion into the children gives: the nodes in order, the
leaves from left to right and, where every test of a character has a branch, the most tests on a
path. -/
theorem traversals_eq_recursion (t : Tree) :
    t.nodes = t.preorder ∧ t.entries = t.leaves ∧ (t.Branched → t.depth = t.height) :=
  ⟨nodes_eq_preorder t, entries_eq_leaves t, depth_eq_height⟩

/-- A test of a character without branches ends no path, so that it adds nothing to the depth. -/
example : (charTest 0 []).depth = 0 ∧ (charTest 0 []).height = 1 := by
  cbv

/-- The leaf of a plain text. -/
def plainLeaf (s : String) (index : Int) : Tree := .leaf { text := ⟨s, .plain⟩, index }

/-- The tree of a letter and of two texts of two letters. -/
def letters : Tree :=
  .lengthTest 1 (plainLeaf "a" 0)
    (.lengthTest 2 (.charTest 0 [("a", plainLeaf "ab" 1), ("c", plainLeaf "cd" 2)]) .miss)

/-- It is branched, and the longest path to one of its three leaves makes four tests. -/
theorem traversals_eq_recursion_letters :
    letters.Branched ∧ letters.nodes.length = 7 ∧ letters.entries.length = 3 ∧
      letters.depth = 4 := by
  obtain ⟨nodes, entries, depth⟩ := traversals_eq_recursion letters
  have branched : letters.Branched := by
    intro position
    simp [letters, plainLeaf, preorder, preorderBranches]
  rw [nodes, entries, depth branched]
  exact ⟨branched, rfl, rfl, rfl⟩

end KeyTree.Tree
