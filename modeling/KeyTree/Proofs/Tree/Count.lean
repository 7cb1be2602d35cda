/-
# The number of nodes

How many nodes of each kind the tree of entries has. A test of a character has two branches at
least, each with entries of its own, so that there are fewer of these tests than entries of one
length. Above them stands one test for each length; these form chains of two or more, each with
a miss at its end, and there is one halving less than chains.

* `Tree.count` — the number of nodes of a kind.
* `Tree.nodeCount_eq` — together they are all nodes.
* `Separates.count_charTest_lt` — the tests of characters below a length.
* `Tree.count_balanced` — the nodes of the dispatch.
* `Decides.nodeCount_le` — all nodes of the tree of entries.
* `KeySet.tree_linear` — the number of nodes is linear in the number of keys.
-/

import KeyTree.Proofs.Entry.KeySet
import KeyTree.Proofs.Tree.Decision
import KeyTree.Proofs.Tree.Traversal

namespace KeyTree

/-! ### Totals -/

section Totals

variable {α : Type} {f g : α → Nat} {items : List α}

/-- The length of lists one after the other is the total of their lengths. -/
theorem length_flatMap_eq_total {β : Type} (f : α → List β) (items : List α) :
    (items.flatMap f).length = total (fun x => (f x).length) items := by
  induction items with
  | nil => rfl
  | cons x rest ih => simp [ih]

/-- What lists one after the other have of some kind is the total of what each has. -/
theorem countP_flatMap_eq_total {β : Type} (p : β → Bool) (f : α → List β) (items : List α) :
    (items.flatMap f).countP p = total (fun x => (f x).countP p) items := by
  induction items with
  | nil => rfl
  | cons x rest ih => simp [ih]

/-- A measure that vanishes on the items has no total. -/
theorem total_eq_zero (none : ∀ x ∈ items, f x = 0) : total f items = 0 := by
  induction items with
  | nil => rfl
  | cons x rest ih =>
    obtain ⟨first, others⟩ := List.forall_mem_cons.mp none
    rw [total_cons, first, ih others]

/-- A measure that is less on each item falls short by the number of items at least. -/
theorem total_add_length_le (less : ∀ x ∈ items, f x < g x) :
    total f items + items.length ≤ total g items := by
  induction items with
  | nil => exact Nat.le_refl 0
  | cons x rest ih =>
    obtain ⟨first, others⟩ := List.forall_mem_cons.mp less
    have := ih others
    simp only [total_cons, List.length_cons]
    omega

end Totals

/-- The classes of a division have together as many items as are divided. -/
theorem Division.total_length {κ α : Type} [DecidableEq κ] [LT κ] {key : α → Option κ}
    {items : List α} {classes : List (κ × List α)} (division : Division key items classes) :
    total (fun c => c.2.length) classes = items.length := by
  rw [← division.whole.length_eq, length_flatMap_eq_total]

/-- Entries that differ have at least two classes. -/
theorem LeastDifference.two_le_length_classes {entries : List Entry} {p : Nat}
    (difference : LeastDifference entries p) {classes : List (Char × List Entry)}
    (divided : byCharacter p entries = .ok classes) : 2 ≤ classes.length := by
  have whole := (division_byCharacter divided).total_length
  have several := difference.two_le_length
  match classes with
  | [] =>
    rw [total_nil] at whole
    omega
  | [c] =>
    have := length_class_lt difference.differ divided List.mem_cons_self
    rw [total_cons, total_nil] at whole
    omega
  | _ :: _ :: _ => simp

/-! ### Kinds of nodes -/

/-- The five kinds of node. -/
inductive NodeKind where
  | miss
  | leaf
  | charTest
  | lengthTest
  | lengthSplit
  deriving DecidableEq

namespace Tree

/-- The kind of the root of a tree. -/
def kind : Tree → NodeKind
  | .miss => .miss
  | .leaf _ => .leaf
  | .charTest _ _ => .charTest
  | .lengthTest _ _ _ => .lengthTest
  | .lengthSplit _ _ _ => .lengthSplit

/-- The number of nodes of a kind. -/
def count (k : NodeKind) (t : Tree) : Nat := t.nodes.countP (·.kind = k)

/-- A node counts for its own kind, in addition to those below its children. -/
theorem count_eq (k : NodeKind) (t : Tree) :
    t.count k = (if t.kind = k then 1 else 0) + total (count k) t.children := by
  have below (c : Tree) : c.count k = c.preorder.countP (·.kind = k) := by
    rw [count, nodes_eq_preorder]
  have children : total (count k) t.children
      = total (fun c => c.preorder.countP (·.kind = k)) t.children :=
    congrArg (total · t.children) (funext below)
  rw [below, preorder_eq, List.countP_cons, countP_flatMap_eq_total, children, Nat.add_comm]
  simp only [decide_eq_true_eq]

/-- Every node has one of the five kinds. -/
theorem nodeCount_eq (t : Tree) :
    t.nodeCount = t.count .miss + t.count .leaf + t.count .charTest + t.count .lengthTest
      + t.count .lengthSplit := by
  simp only [nodeCount, count]
  induction t.nodes with
  | nil => rfl
  | cons s rest ih =>
    simp only [List.length_cons, List.countP_cons, ih]
    cases s.kind with
    | miss => simp; omega
    | leaf => simp; omega
    | charTest => simp; omega
    | lengthTest => simp; omega
    | lengthSplit => simp; omega

/-- The nodes that are leaves are those of its entries. -/
theorem count_leaf (t : Tree) : t.count .leaf = t.leaves.length := by
  have isLeaf (s : Tree) : (decide (s.kind = .leaf)) = s.entry?.isSome := by
    cases s with
    | miss => rfl
    | leaf => rfl
    | charTest => rfl
    | lengthTest => rfl
    | lengthSplit => rfl
  rw [count, nodes_eq_preorder, ← filterMap_entry?_preorder, List.length_filterMap_eq_countP]
  simp only [isLeaf]

end Tree

/-! ### Trees of one length -/

namespace Separates

variable {entries : List Entry} {t : Tree}

/-- A tree that tells entries of one length apart has leaves and tests of characters only. -/
theorem count_eq_zero (separates : Separates entries t) {k : NodeKind} (leaf : k ≠ .leaf)
    (charTest : k ≠ .charTest) : t.count k = 0 := by
  induction separates with
  | single e =>
    rw [Tree.count_eq, Tree.kind, if_neg leaf.symm]
    rfl
  | divide child difference divided _ ih =>
    rw [Tree.count_eq, Tree.kind, if_neg charTest.symm, Tree.children, List.map_map, total_map,
      Nat.zero_add]
    exact total_eq_zero ih

/-- It has fewer tests of characters than there are entries. -/
theorem count_charTest_lt (separates : Separates entries t) :
    t.count .charTest < entries.length := by
  induction separates with
  | single e =>
    rw [Tree.count_eq]
    simp [Tree.kind, Tree.children]
  | @divide entries p classes child difference divided _ ih =>
    have fewer := total_add_length_le ih
    have two := difference.two_le_length_classes divided
    rw [(division_byCharacter divided).total_length] at fewer
    rw [Tree.count_eq, Tree.kind, if_pos rfl, Tree.children, List.map_map, total_map]
    simp only [Function.comp_apply]
    omega

end Separates

/-! ### The dispatch -/

namespace Tree

/-- The nodes of each kind in a dispatch over some number of lengths: a test for each length,
a miss at the end of each chain, and a halving between the chains. -/
def dispatchNodes (lengths chains : Nat) : NodeKind → Nat
  | .miss => chains
  | .lengthTest => lengths
  | .lengthSplit => chains - 1
  | .leaf => 0
  | .charTest => 0

/-- A chain has a test for each length and a miss at its end. -/
theorem count_lengthChain (k : NodeKind) (subtrees : List (Int × Tree)) :
    (lengthChain subtrees).count k
      = dispatchNodes subtrees.length 1 k + total (fun s => s.2.count k) subtrees := by
  induction subtrees with
  | nil =>
    rw [lengthChain, count_eq]
    cases k <;> rfl
  | cons s rest ih =>
    obtain ⟨n, subtree⟩ := s
    rw [lengthChain, count_eq]
    simp only [children, total_cons, total_nil, ih, List.length_cons]
    cases k <;> simp [kind, dispatchNodes] <;> omega

/-- The nodes of the dispatch. More than three lengths are halved, so that every chain has two
lengths at least unless there is only one chain. -/
theorem count_balanced (subtrees : List (Int × Tree)) :
    ∃ chains, 1 ≤ chains ∧ 2 * chains ≤ max subtrees.length 2 ∧ ∀ k,
      (balanced subtrees).count k
        = dispatchNodes subtrees.length chains k + total (fun s => s.2.count k) subtrees := by
  fun_induction balanced subtrees with
  | case1 subtrees many inside lower upper =>
    obtain ⟨low, some, few, counted⟩ := lower
    obtain ⟨high, some', few', counted'⟩ := upper
    rw [List.length_take] at few counted
    rw [List.length_drop] at few' counted'
    rw [linearLengthLimit] at many
    refine ⟨low + high, by omega, by omega, ?_⟩
    intro k
    have parts : total (fun s => s.2.count k) subtrees
        = total (fun s => s.2.count k) (subtrees.take (subtrees.length / 2))
          + total (fun s => s.2.count k) (subtrees.drop (subtrees.length / 2)) := by
      rw [← total_append, List.take_append_drop]
    rw [count_eq, parts]
    simp only [children, total_cons, total_nil, counted, counted']
    cases k <;> simp [kind, dispatchNodes] <;> omega
  | case2 subtrees few => exact ⟨1, Nat.le_refl 1, by omega, fun k => count_lengthChain k subtrees⟩

end Tree

/-! ### Trees of entries -/

namespace Decides

variable {entries : List Entry} {t : Tree}

/-- The tree of entries has a leaf for each of them. -/
theorem count_leaf (decides : Decides entries t) : t.count .leaf = entries.length := by
  rw [Tree.count_leaf, decides.leaves_perm.length_eq]

/-- It has the tests of the dispatch over the lengths, and no more tests of characters than there
are entries beyond one of each length. -/
theorem exists_chains (decides : Decides entries t) :
    t.count .lengthTest = (byLength entries).length ∧
      t.count .charTest + (byLength entries).length ≤ entries.length ∧
      ∃ chains, 1 ≤ chains ∧ 2 * chains ≤ max (byLength entries).length 2 ∧
        t.count .miss = chains ∧ t.count .lengthSplit = chains - 1 := by
  obtain ⟨subtree, separates⟩ := decides
  obtain ⟨chains, some, few, counted⟩ :=
    Tree.count_balanced ((byLength entries).map fun c => ((c.1 : Int), subtree c.1))
  simp only [List.length_map, total_map] at few counted
  have below {k : NodeKind} (leaf : k ≠ .leaf) (charTest : k ≠ .charTest) :
      total (fun c => (subtree c.1).count k) (byLength entries) = 0 :=
    total_eq_zero fun c member => (separates c member).count_eq_zero leaf charTest
  have characters := total_add_length_le fun c member => (separates c member).count_charTest_lt
  rw [(division_byLength entries).total_length] at characters
  refine ⟨?_, ?_, chains, some, few, ?_, ?_⟩
  · rw [counted, below (by simp) (by simp)]
    rfl
  · rw [counted, Tree.dispatchNodes, Nat.zero_add]
    exact characters
  · rw [counted, below (by simp) (by simp)]
    rfl
  · rw [counted, below (by simp) (by simp)]
    rfl

/-- The leaves and the tests are at most twice as many as the entries. A single length adds one
miss, and several lengths add fewer misses and halvings than there are lengths. -/
theorem nodeCount_le (decides : Decides entries t) :
    t.nodeCount ≤ 2 * entries.length + max (byLength entries).length 2 - 1 := by
  obtain ⟨lengthTests, charTests, chains, some, few, misses, splits⟩ := decides.exists_chains
  have leaves := decides.count_leaf
  rw [Tree.nodeCount_eq]
  omega

/-- There are at most three nodes for each entry. -/
theorem nodeCount_le_three_mul (decides : Decides entries t) (nonempty : entries ≠ []) :
    t.nodeCount ≤ 3 * entries.length := by
  have bound := decides.nodeCount_le
  have lengths := decides.exists_chains.2.1
  have one := List.length_pos_iff.mpr nonempty
  omega

end Decides

/-- The lengths of a key set are those that its keys have, each once. -/
theorem KeySet.lengths_spec (ks : KeySet) :
    ks.lengths.Nodup ∧ ∀ n, n ∈ ks.lengths ↔ ∃ e ∈ ks.entries, e.length = n := by
  have division := division_byLength ks.entries
  refine ⟨division.keys_nodup, ?_⟩
  intro n
  rw [lengths, division.mem_keys_iff]
  simp only [Option.some.injEq]

/-- The tree of a checked key set is linear in its declaration. With `n` keys of `d` different
lengths it has `n` leaves, `d` tests of the length and at most `n - d` tests of characters, at
most `2 n + max d 2 - 1` nodes and hence never more than `3 n`. -/
theorem KeySet.tree_linear {mode : Comparison} {valueType keys values : Value} {ks : KeySet}
    (made : KeySet.ofValues mode valueType keys values = .ok ks) :
    (ks.lengths.Nodup ∧ ∀ n, n ∈ ks.lengths ↔ ∃ e ∈ ks.entries, e.length = n) ∧
      ∃ t, ks.tree = .ok t ∧
        t.count .leaf = ks.size ∧
        t.count .lengthTest = ks.lengths.length ∧
        t.count .charTest + ks.lengths.length ≤ ks.size ∧
        t.nodeCount ≤ 2 * ks.size + max ks.lengths.length 2 - 1 ∧
        t.nodeCount ≤ 3 * ks.size := by
  refine ⟨ks.lengths_spec, ?_⟩
  obtain ⟨-, texts, items, -, -, checked, rfl⟩ := checked_of_ofValues made
  have distinct : ((entriesFrom 0 (texts.zip items)).map Entry.chars).Nodup :=
    nodup_chars_entriesFrom checked.distinct_zip
  obtain ⟨t, built, decides⟩ := ofEntries_decides distinct
  obtain ⟨lengthTests, charTests, -⟩ := decides.exists_chains
  have nonempty : entriesFrom 0 (texts.zip items) ≠ [] := by
    apply List.ne_nil_of_length_pos
    rw [length_entriesFrom, List.length_zip, ← checked.counts, Nat.min_self]
    exact List.length_pos_iff.mpr checked.nonempty
  simp only [size, lengths, List.length_map]
  exact ⟨t, built, decides.count_leaf, lengthTests, charTests, decides.nodeCount_le,
    decides.nodeCount_le_three_mul nonempty⟩

/-- Three names of two lengths have a tree of at most seven nodes. -/
theorem KeySet.tree_linear_names :
    ∃ ks t, KeySet.ofValues .ordinal .none (.list [.str "ab", .str "cb", .str "abc"])
        (.list [.int 1, .int 2, .int 3]) = .ok ks ∧
      ks.tree = .ok t ∧ t.count .leaf = 3 ∧ t.count .lengthTest = 2 ∧ t.count .charTest ≤ 1 ∧
      t.nodeCount ≤ 7 := by
  have made : KeySet.ofValues .ordinal .none (.list [.str "ab", .str "cb", .str "abc"])
      (.list [.int 1, .int 2, .int 3])
      = .ok ⟨entriesFrom 0 [(⟨"ab", .plain⟩, .int 1), (⟨"cb", .plain⟩, .int 2),
          (⟨"abc", .plain⟩, .int 3)], .none⟩ := rfl
  obtain ⟨-, t, built, leaves, lengthTests, charTests, nodes, -⟩ := tree_linear made
  exact ⟨_, t, made, built, leaves, lengthTests, Nat.le_of_add_le_add_right charTests, nodes⟩

end KeyTree
