/-
# The shape of a tree

The trees that are built have a shape of their own: tests of the length stand above tests
of characters, lengths that are tested one after the other form a chain, and the branches
of a character stand in the order of their labels. Code that decides like a tree relies on
this shape.

* `Branching`, `Chain`, `Dispatching` — the shape, from the leaves to the root.
* `Decides.dispatching` — the tree of entries has it.
* `Tree.Finds` — what the walk of a text finds, with one lemma for each node.
-/

import KeyTree.Proofs.Tree.Decision
import Mathlib.Data.String.Basic

namespace KeyTree

/-! ### Shapes -/

/-- `Branching t`: the tree tests characters only, and the branches of each test stand in
the order of their labels. -/
inductive Branching : Tree → Prop where
  | leaf (e : Entry) : Branching (.leaf e)
  | charTest {position : Int} {branches : List (String × Tree)}
      (ascending : (branches.map Prod.fst).Pairwise (· < ·))
      (children : ∀ b ∈ branches, Branching b.2) : Branching (.charTest position branches)

/-- `Chain t`: the tree tests one length after the other. -/
inductive Chain : Tree → Prop where
  | miss : Chain .miss
  | lengthTest {n : Int} {same other : Tree} (first : Branching same) (others : Chain other) :
      Chain (.lengthTest n same other)

/-- `Dispatching t`: the tree halves the lengths above chains of lengths. -/
inductive Dispatching : Tree → Prop where
  | chain {t : Tree} (chain : Chain t) : Dispatching t
  | lengthSplit {pivot : Int} {lower upper : Tree} (shorter : Dispatching lower)
      (longer : Dispatching upper) : Dispatching (.lengthSplit pivot lower upper)

/-- Texts of one character are ordered like the characters. -/
theorem singleton_lt_singleton {c d : Char} : String.singleton c < String.singleton d ↔ c < d := by
  rw [String.lt_iff, String.toList_singleton, String.toList_singleton, List.cons_lt_cons_iff]
  simp

/-- A tree that tells entries apart tests characters, in the order of the labels. -/
theorem Separates.branching {entries : List Entry} {t : Tree} (separates : Separates entries t) :
    Branching t := by
  induction separates with
  | single e => exact .leaf e
  | divide child difference divided _ ih =>
    refine .charTest ?_ ?_
    · have ascending := (division_byCharacter divided).ascending
      rw [List.pairwise_map] at ascending ⊢
      exact List.pairwise_map.mpr (ascending.imp singleton_lt_singleton.mpr)
    · intro b member
      obtain ⟨c, inside, rfl⟩ := List.mem_map.mp member
      exact ih c inside

/-- Tests of one length after the other form a chain. -/
theorem chain_lengthChain {subtrees : List (Int × Tree)}
    (branching : ∀ s ∈ subtrees, Branching s.2) : Chain (Tree.lengthChain subtrees) := by
  induction subtrees with
  | nil => exact .miss
  | cons s rest ih =>
    exact .lengthTest (branching s List.mem_cons_self)
      (ih fun s' member => branching s' (List.mem_cons_of_mem _ member))

/-- The tests of the length stand above the tests of characters. -/
theorem dispatching_balanced {subtrees : List (Int × Tree)}
    (branching : ∀ s ∈ subtrees, Branching s.2) : Dispatching (Tree.balanced subtrees) := by
  fun_induction Tree.balanced subtrees with
  | case1 subtrees many inside lower upper =>
    exact .lengthSplit (lower fun s member => branching s (List.mem_of_mem_take member))
      (upper fun s member => branching s (List.mem_of_mem_drop member))
  | case2 subtrees few => exact .chain (chain_lengthChain branching)

/-- The tree of entries tests the length above the characters. -/
theorem Decides.dispatching {entries : List Entry} {t : Tree} (decides : Decides entries t) :
    Dispatching t := by
  obtain ⟨subtree, separates⟩ := decides
  refine dispatching_balanced fun s member => ?_
  obtain ⟨c, inside, rfl⟩ := List.mem_map.mp member
  exact (separates c inside).branching

/-! ### What a walk finds -/

namespace Tree

/-- `t.Finds text found`: the text has a walk through the tree, and it finds `found`. -/
def Finds (text : List Char) (t : Tree) (found : Option Entry) : Prop :=
  ∃ w, t.walk text = .ok w ∧ w.found = found

variable {text : List Char} {found : Option Entry}

/-- A walk finds what it finds after its first test. -/
theorem exists_of_map_after {test : Test} {r : Except ReadFault Walk} {w : Walk}
    (walked : Walk.after test <$> r = .ok w) : ∃ v, r = .ok v ∧ v.found = w.found := by
  cases r with
  | error fault => cases walked
  | ok v =>
    cases walked
    exact ⟨v, rfl, rfl⟩

/-- A miss finds nothing. -/
theorem Finds.of_miss (finds : miss.Finds text found) : found = none := by
  obtain ⟨w, walked, rfl⟩ := finds
  cases walked
  rfl

/-- A leaf finds its entry for the text of its key. -/
theorem Finds.of_leaf {e : Entry} (finds : (leaf e).Finds text found) :
    found = if e.verify text then some e else none := by
  obtain ⟨w, walked, rfl⟩ := finds
  cases walked
  rfl

/-- A test of a character reads it and finds what its branch finds. -/
theorem Finds.of_charTest {position : Int} {branches : List (String × Tree)}
    (finds : (charTest position branches).Finds text found) :
    ∃ c, charAt? text position = some c ∧
      (branchFor (String.singleton c) branches).Finds text found := by
  obtain ⟨w, walked, rfl⟩ := finds
  rw [walk] at walked
  cases read : charAt? text position with
  | none =>
    rw [read] at walked
    cases walked
  | some c =>
    rw [read] at walked
    simp only [walkBranch_eq] at walked
    obtain ⟨v, inner, eq⟩ := exists_of_map_after walked
    exact ⟨c, rfl, v, inner, eq⟩

/-- A test of the length finds what one of its subtrees finds. -/
theorem Finds.of_lengthTest {n : Int} {same other : Tree}
    (finds : (lengthTest n same other).Finds text found) :
    if text.length = n then same.Finds text found else other.Finds text found := by
  obtain ⟨w, walked, rfl⟩ := finds
  rw [walk] at walked
  split at walked
  · rw [if_pos ‹_›]
    exact exists_of_map_after walked
  · rw [if_neg ‹_›]
    exact exists_of_map_after walked

/-- A halving of the lengths finds what one of its subtrees finds. -/
theorem Finds.of_lengthSplit {pivot : Int} {lower upper : Tree}
    (finds : (lengthSplit pivot lower upper).Finds text found) :
    if text.length < pivot then lower.Finds text found else upper.Finds text found := by
  obtain ⟨w, walked, rfl⟩ := finds
  rw [walk] at walked
  split at walked
  · rw [if_pos ‹_›]
    exact exists_of_map_after walked
  · rw [if_neg ‹_›]
    exact exists_of_map_after walked

/-- A label that no branch has leads to a miss. -/
theorem branchFor_of_fresh {label : String} {branches : List (String × Tree)}
    (fresh : ∀ b ∈ branches, b.1 ≠ label) : branchFor label branches = .miss := by
  induction branches with
  | nil => rfl
  | cons b rest ih =>
    obtain ⟨candidate, child⟩ := b
    rw [branchFor, if_neg (fresh _ List.mem_cons_self)]
    exact ih fun b' member => fresh b' (List.mem_cons_of_mem _ member)

/-- A label leads to the child of its branch when the branches have different labels. -/
theorem branchFor_of_mem {branches : List (String × Tree)}
    (distinct : (branches.map Prod.fst).Nodup) {b : String × Tree} (member : b ∈ branches) :
    branchFor b.1 branches = b.2 := by
  induction branches with
  | nil => cases member
  | cons head rest ih =>
    obtain ⟨candidate, child⟩ := head
    obtain ⟨new, distinctRest⟩ := List.nodup_cons.mp distinct
    rcases List.mem_cons.mp member with rfl | member
    · exact if_pos rfl
    · have other : candidate ≠ b.1 := fun eq =>
        new (List.mem_map.mpr ⟨b, member, eq.symm⟩)
      rw [branchFor, if_neg other]
      exact ih distinctRest member

end Tree

end KeyTree
