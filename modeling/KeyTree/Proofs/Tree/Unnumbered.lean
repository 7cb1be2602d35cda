/-
# Trees without the order of the declaration

The index of an entry is the only trace that the order of a declaration leaves in a
tree. With the indices erased, the trees of two orders are the same tree, because every
position tested, every character of a branch and every length depends on the entries as
a collection only.

* `Tree.unnumbered` — a tree whose entries have lost their index.
* `Separates.unnumbered_eq`, `Decides.unnumbered_eq` — the trees of two orders.
* `Tree.walk_unnumbered`, `Tree.depth_unnumbered`, `Tree.nodeCount_unnumbered` — what an
  index has no part in.
-/

import KeyTree.Proofs.Tree.Decision
import KeyTree.Tree.Traversal

namespace KeyTree

/-! ### Erasing the indices -/

/-- The entry without its index. -/
def Entry.unnumbered (e : Entry) : Entry := { e with index := 0 }

namespace Tree

mutual

/-- The tree whose entries have no index. -/
def unnumbered : Tree → Tree
  | .miss => .miss
  | .leaf entry => .leaf entry.unnumbered
  | .charTest position branches => .charTest position (unnumberedBranches branches)
  | .lengthTest n same other => .lengthTest n (unnumbered same) (unnumbered other)
  | .lengthSplit pivot below atLeast => .lengthSplit pivot (unnumbered below) (unnumbered atLeast)

/-- The branches whose entries have no index. -/
def unnumberedBranches : List (String × Tree) → List (String × Tree)
  | [] => []
  | (label, child) :: rest => (label, unnumbered child) :: unnumberedBranches rest

end

/-- Branches lose the indices child by child. -/
theorem unnumberedBranches_eq (branches : List (String × Tree)) :
    unnumberedBranches branches = branches.map fun b => (b.1, b.2.unnumbered) := by
  induction branches with
  | nil => rfl
  | cons b rest ih => rw [unnumberedBranches, ih, List.map_cons]

/-- The children lose their indices with the tree. -/
theorem children_unnumbered (t : Tree) : t.unnumbered.children = t.children.map unnumbered := by
  cases t with
  | miss => rfl
  | leaf => rfl
  | charTest position branches =>
    rw [unnumbered, children, unnumberedBranches_eq, List.map_map, children, List.map_map]
    rfl
  | lengthTest => rfl
  | lengthSplit => rfl

end Tree

/-! ### Entries in two orders -/

/-- Two lists of entries hold the same keys with the same values, in any order. -/
def SameEntries (entries entries' : List Entry) : Prop :=
  (entries.map Entry.unnumbered).Perm (entries'.map Entry.unnumbered)

namespace SameEntries

variable {entries entries' : List Entry}

/-- The second list holds what the first holds, and the other way round. -/
theorem symm (same : SameEntries entries entries') : SameEntries entries' entries :=
  List.Perm.symm same

/-- Both lists hold the same keys. -/
theorem sameKeys (same : SameEntries entries entries') : SameKeys entries entries' := by
  have half {entries entries' : List Entry} (same : SameEntries entries entries') :
      ∀ e ∈ entries, ∃ e' ∈ entries', e'.chars = e.chars := by
    intro e member
    have inside := same.subset (List.mem_map_of_mem member)
    obtain ⟨e', member', eq⟩ := List.mem_map.mp inside
    have chars : e'.unnumbered.chars = e.unnumbered.chars := congrArg Entry.chars eq
    exact ⟨e', member', chars⟩
  exact ⟨half same, half same.symm⟩

/-- The entries that a property of the key selects are the same in both lists. -/
theorem filter (same : SameEntries entries entries') (property : List Char → Bool) :
    SameEntries (entries.filter (property ·.chars)) (entries'.filter (property ·.chars)) := by
  have selected := List.Perm.filter (fun e : Entry => property e.chars) same
  rw [List.filter_map, List.filter_map] at selected
  exact selected

end SameEntries

/-- Divisions of the same entries by a property of the key have the same classes with the
same entries in each. -/
theorem Division.sameEntries {κ : Type} [DecidableEq κ] [LT κ] [IsStrictTotalOrder κ (· < ·)]
    {key : List Char → Option κ} {entries entries' : List Entry}
    {classes classes' : List (κ × List Entry)} (d : Division (fun e => key e.chars) entries classes)
    (d' : Division (fun e => key e.chars) entries' classes')
    (same : SameEntries entries entries') :
    classes.map Prod.fst = classes'.map Prod.fst ∧
      ∀ k ∈ classes.map Prod.fst, ∃ xs xs', (k, xs) ∈ classes ∧ (k, xs') ∈ classes' ∧
        SameEntries xs xs' := by
  obtain ⟨keys, parts⟩ := d.classes_eq d' (same.sameKeys.exists_keyed key)
  refine ⟨keys, ?_⟩
  intro k member
  obtain ⟨inside, inside'⟩ := parts k member
  exact ⟨_, _, inside, inside', same.filter fun chars => key chars = some k⟩

/-- What is made of the keys of classes is the same for classes with the same keys. -/
theorem map_keys_congr {κ β : Type} {classes classes' : List (κ × List Entry)} (f f' : κ → β)
    (keys : classes.map Prod.fst = classes'.map Prod.fst)
    (eq : ∀ k ∈ classes.map Prod.fst, f k = f' k) :
    classes.map (fun c => f c.1) = classes'.map fun c => f' c.1 :=
  List.forall₂_eq_eq_eq ▸ forall₂_map_keys f f' keys eq

/-! ### Trees of two orders -/

/-- The trees that tell the same entries apart are equal without the indices. -/
theorem Separates.unnumbered_eq {entries entries' : List Entry} {t t' : Tree}
    (separates : Separates entries t) (separates' : Separates entries' t')
    (same : SameEntries entries entries') : t.unnumbered = t'.unnumbered := by
  induction separates generalizing entries' t' with
  | single e =>
    cases separates' with
    | single e' =>
      have eq : e.unnumbered = e'.unnumbered := List.singleton_perm_singleton.mp same
      rw [Tree.unnumbered, Tree.unnumbered, eq]
    | divide _ difference => exact absurd same.sameKeys (difference.not_sameKeys_singleton e)
  | divide child difference divided _ ih =>
    cases separates' with
    | single e' => exact absurd same.sameKeys.symm (difference.not_sameKeys_singleton e')
    | @divide _ p _ child' difference' divided' below' =>
      obtain rfl := (difference.of_keys same.sameKeys).unique difference'
      have division := division_byCharacter divided
      obtain ⟨keys, parts⟩ := @Division.sameEntries Char _ _ _ (charAt? · _) _ _ _ _ division
        (division_byCharacter divided') same
      rw [Tree.unnumbered, Tree.unnumbered, Tree.unnumberedBranches_eq, Tree.unnumberedBranches_eq,
        List.map_map, List.map_map]
      refine congrArg _ (map_keys_congr (fun c => (String.singleton c, (child c).unnumbered))
        (fun c => (String.singleton c, (child' c).unnumbered)) keys fun c member => ?_)
      obtain ⟨xs, xs', inside, inside', samePart⟩ := parts c member
      rw [ih _ inside (below' _ inside') samePart]

/-- A chain of tests of the length loses the indices subtree by subtree. -/
theorem unnumbered_lengthChain (subtrees : List (Int × Tree)) :
    (Tree.lengthChain subtrees).unnumbered
      = Tree.lengthChain (subtrees.map fun s => (s.1, s.2.unnumbered)) := by
  induction subtrees with
  | nil => rfl
  | cons s rest ih => rw [Tree.lengthChain, Tree.unnumbered, ih, List.map_cons, Tree.lengthChain]

/-- The tests of the length lose the indices subtree by subtree. -/
theorem unnumbered_balanced (subtrees : List (Int × Tree)) :
    (Tree.balanced subtrees).unnumbered
      = Tree.balanced (subtrees.map fun s => (s.1, s.2.unnumbered)) := by
  fun_induction Tree.balanced subtrees with
  | case1 subtrees many inside lower upper =>
    rw [Tree.unnumbered, lower, upper]
    conv => rhs; rw [Tree.balanced]
    simp [many]
  | case2 subtrees few =>
    rw [unnumbered_lengthChain, Tree.balanced]
    simp [few]

/-- The trees that decide between the same entries are equal without the indices. -/
theorem Decides.unnumbered_eq {entries entries' : List Entry} {t t' : Tree}
    (decides : Decides entries t) (decides' : Decides entries' t')
    (same : SameEntries entries entries') : t.unnumbered = t'.unnumbered := by
  obtain ⟨subtree, separates⟩ := decides
  obtain ⟨subtree', separates'⟩ := decides'
  have division : Division (fun e => some e.chars.length) entries (byLength entries) :=
    division_byLength entries
  obtain ⟨keys, parts⟩ := @Division.sameEntries Nat _ _ _ (fun chars => some chars.length)
    _ _ _ _ division (division_byLength entries') same
  rw [unnumbered_balanced, unnumbered_balanced, List.map_map, List.map_map]
  refine congrArg _ (map_keys_congr (fun n : Nat => ((n : Int), (subtree n).unnumbered))
    (fun n : Nat => ((n : Int), (subtree' n).unnumbered)) keys fun n member => ?_)
  obtain ⟨xs, xs', inside, inside', samePart⟩ := parts n member
  rw [(separates _ inside).unnumbered_eq (separates' _ inside') samePart]

/-! ### What an index has no part in -/

/-- The walk whose entry has no index. -/
def Walk.unnumbered (w : Walk) : Walk := { w with found := w.found.map Entry.unnumbered }

namespace Tree

/-- A test in front of a walk whose entry has no index. -/
theorem map_after_unnumbered (test : Test) (r : Except ReadFault Walk) :
    Walk.after test <$> Walk.unnumbered <$> r = Walk.unnumbered <$> Walk.after test <$> r := by
  rw [Functor.map_map, Functor.map_map]
  rfl

mutual

/-- The walk of a text through a tree without indices makes the same tests. -/
theorem walk_unnumbered (text : List Char) :
    ∀ t : Tree, t.unnumbered.walk text = Walk.unnumbered <$> t.walk text
  | .miss => rfl
  | .leaf entry => by
    rw [unnumbered, walk, walk]
    have same : entry.unnumbered.verify text = entry.verify text := rfl
    rw [same]
    cases entry.verify text <;> rfl
  | .charTest position branches => by
    rw [unnumbered, walk, walk]
    cases charAt? text position with
    | none => rfl
    | some c =>
      simp only
      rw [walkBranch_unnumbered text (String.singleton c) branches, map_after_unnumbered]
  | .lengthTest n same other => by
    rw [unnumbered, walk, walk]
    split
    · rw [walk_unnumbered text same, map_after_unnumbered]
    · rw [walk_unnumbered text other, map_after_unnumbered]
  | .lengthSplit pivot below atLeast => by
    rw [unnumbered, walk, walk]
    split
    · rw [walk_unnumbered text below, map_after_unnumbered]
    · rw [walk_unnumbered text atLeast, map_after_unnumbered]

/-- The walk of a text from a branch without indices makes the same tests. -/
theorem walkBranch_unnumbered (text : List Char) (label : String) :
    ∀ branches : List (String × Tree), walkBranch text label (unnumberedBranches branches)
      = Walk.unnumbered <$> walkBranch text label branches
  | [] => rfl
  | (candidate, child) :: rest => by
    rw [unnumberedBranches, walkBranch, walkBranch]
    split
    · exact walk_unnumbered text child
    · exact walkBranch_unnumbered text label rest

end

/-- The subtrees of trees without indices are those of the trees, without indices. -/
theorem nodesFrom_unnumbered (stack : List Tree) :
    nodesFrom (stack.map unnumbered) = (nodesFrom stack).map unnumbered := by
  fun_induction nodesFrom stack with
  | case1 => rw [List.map_nil, nodesFrom]
  | case2 t rest ih =>
    rw [List.map_cons, nodesFrom, children_unnumbered, ← List.map_append, ih, List.map_cons]

/-- A tree without indices has as many nodes. -/
theorem nodeCount_unnumbered (t : Tree) : t.unnumbered.nodeCount = t.nodeCount := by
  have nodes : t.unnumbered.nodes = t.nodes.map unnumbered := nodesFrom_unnumbered [t]
  rw [nodeCount, nodes, List.length_map, nodeCount]

/-- A path ends at the same nodes of a tree without indices. -/
theorem endDepth?_unnumbered (above : Nat) (t : Tree) :
    t.unnumbered.endDepth? above = t.endDepth? above := by
  cases t <;> rfl

/-- The longest path among trees without indices is as long. -/
theorem deepestFrom_unnumbered (deepest : Nat) (stack : List (Tree × Nat)) :
    deepestFrom deepest (stack.map fun item => (item.1.unnumbered, item.2))
      = deepestFrom deepest stack := by
  fun_induction deepestFrom deepest stack with
  | case1 deepest => rw [List.map_nil, deepestFrom]
  | case2 deepest t above rest ih =>
    rw [List.map_cons, deepestFrom, endDepth?_unnumbered, children_unnumbered, ← ih,
      List.map_append, List.map_reverse, List.map_map, List.map_map]
    rfl

/-- A tree without indices needs as many tests. -/
theorem depth_unnumbered (t : Tree) : t.unnumbered.depth = t.depth :=
  deepestFrom_unnumbered 0 [(t, 0)]

end Tree

end KeyTree
