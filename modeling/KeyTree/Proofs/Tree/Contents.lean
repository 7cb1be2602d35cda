/-
# The contents of a tree

A tree that decides between numbered entries holds them all: its leaves, put in the order of
their numbers, are the entries. The entries in turn decide the tree, also where entries count
as equal that are not the same: two trees are equal node by node exactly when the entries are
equal one by one.

* `Numbered`, `Decides.sorted_entries` — the entries are the leaves in order.
* `Matched` — equal entries in equal order.
* `Tree.matched_leaves` — equal trees have equal leaves.
* `Separates.same`, `Decides.same_iff` — equal entries have equal trees, and only these.
-/

import KeyTree.Proofs.Outcome
import KeyTree.Proofs.Entry.KeySet
import KeyTree.Proofs.Tree.Decision
import KeyTree.Proofs.Tree.Traversal
import KeyTree.Tree.Display

namespace KeyTree

/-! ### Entries in the order of their numbers -/

/-- The index of each entry is its place. -/
def Numbered (entries : List Entry) : Prop :=
  ∀ (i : Nat) (e : Entry), entries[i]? = some e → e.index = i

/-- The entries of keys and values are numbered. -/
theorem numbered_entriesFrom (pairs : List (Text × Value)) : Numbered (entriesFrom 0 pairs) := by
  intro i e place
  rw [getElem?_entriesFrom] at place
  obtain ⟨p, -, rfl⟩ := Option.map_eq_some_iff.mp place
  simp

namespace Numbered

variable {entries : List Entry}

/-- Numbered entries stand in the order of their indices. -/
theorem ascending (numbered : Numbered entries) :
    entries.Pairwise fun a b => a.index < b.index := by
  rw [List.pairwise_iff_getElem]
  intro i j hi hj less
  rw [numbered i _ (List.getElem?_eq_getElem hi), numbered j _ (List.getElem?_eq_getElem hj)]
  omega

/-- Sorting numbered entries by their indices puts them in order. -/
theorem mergeSort_eq (numbered : Numbered entries) {shuffled : List Entry}
    (perm : shuffled.Perm entries) :
    (shuffled.mergeSort fun a b => a.index ≤ b.index) = entries := by
  have sorted : (shuffled.mergeSort fun a b => a.index ≤ b.index).Pairwise
      fun a b => a.index ≤ b.index := by
    have := @List.pairwise_mergeSort Entry (fun a b => decide (a.index ≤ b.index))
      (fun a b c ab bc => by simp at ab bc ⊢; omega) (fun a b => by simp; omega) shuffled
    simpa using this
  have same := (List.mergeSort_perm shuffled fun a b => decide (a.index ≤ b.index)).trans perm
  refine same.eq_of_pairwise ?_ sorted (numbered.ascending.imp Int.le_of_lt)
  -- No two entries share an index, so the order by indices leaves no choice.
  intro a b ha hb ab ba
  obtain ⟨i, hi, rfl⟩ := List.getElem_of_mem (same.subset ha)
  obtain ⟨j, hj, rfl⟩ := List.getElem_of_mem hb
  have at_i := numbered i _ (List.getElem?_eq_getElem hi)
  have at_j := numbered j _ (List.getElem?_eq_getElem hj)
  obtain rfl : i = j := by omega
  rfl

end Numbered

/-- The leaves of a tree that decides between numbered entries are the entries, when they are
put in the order of their indices. -/
theorem Decides.sorted_entries {entries : List Entry} {t : Tree} (decides : Decides entries t)
    (numbered : Numbered entries) :
    (t.entries.mergeSort fun a b => a.index ≤ b.index) = entries := by
  rw [Tree.entries_eq_leaves]
  exact numbered.mergeSort_eq decides.leaves_perm

/-! ### Equal entries -/

/-- Equal entries have the same characters and the same index. -/
theorem Entry.chars_and_index_of_same {a b : Entry} (same : a.same b = true) :
    a.chars = b.chars ∧ a.index = b.index := by
  simp only [Entry.same, Text.same, Bool.and_eq_true, decide_eq_true_eq] at same
  obtain ⟨⟨content, index⟩, -⟩ := same
  exact ⟨congrArg String.toList content, index⟩

/-- Two lists of entries are equal entry by entry. -/
def Matched (entries entries' : List Entry) : Prop :=
  List.Forall₂ (fun a b => a.same b = true) entries entries'

namespace Matched

variable {entries entries' : List Entry}

/-- Both lists hold the same keys. -/
theorem sameKeys (matched : Matched entries entries') : SameKeys entries entries' where
  left := by
    intro e member
    obtain ⟨e', member', same⟩ := exists_of_forall₂ matched member
    exact ⟨e', member', (Entry.chars_and_index_of_same same).1.symm⟩
  right := by
    intro e' member'
    obtain ⟨e, member, same⟩ := exists_of_forall₂ matched.flip member'
    exact ⟨e, member, (Entry.chars_and_index_of_same same).1⟩

/-- The entries that a property of the key selects are equal. -/
theorem filter (matched : Matched entries entries') (property : List Char → Bool) :
    Matched (entries.filter (property ·.chars)) (entries'.filter (property ·.chars)) := by
  refine List.rel_filter ?_ matched
  intro a b same
  simp only [(Entry.chars_and_index_of_same same).1]

end Matched

/-! ### Equal trees -/

namespace Tree

mutual

/-- Equal trees have equal leaves. -/
theorem matched_leaves : ∀ t t' : Tree, t.same t' = true → Matched t.leaves t'.leaves
  | .miss, t', same => by
    cases t' with
    | miss => exact .nil
    | _ => simp [Tree.same] at same
  | .leaf e, t', same => by
    cases t' with
    | leaf f => exact .cons (by simpa [Tree.same] using same) .nil
    | _ => simp [Tree.same] at same
  | .charTest p branches, t', same => by
    cases t' with
    | charTest q branches' =>
      simp only [Tree.same, Bool.and_eq_true] at same
      exact matched_leavesBranches branches branches' same.2
    | _ => simp [Tree.same] at same
  | .lengthTest n s o, t', same => by
    cases t' with
    | lengthTest m s' o' =>
      simp only [Tree.same, Bool.and_eq_true] at same
      exact List.rel_append (matched_leaves s s' same.1.2) (matched_leaves o o' same.2)
    | _ => simp [Tree.same] at same
  | .lengthSplit n b a, t', same => by
    cases t' with
    | lengthSplit m b' a' =>
      simp only [Tree.same, Bool.and_eq_true] at same
      exact List.rel_append (matched_leaves b b' same.1.2) (matched_leaves a a' same.2)
    | _ => simp [Tree.same] at same

/-- Equal branches have equal leaves. -/
theorem matched_leavesBranches : ∀ branches branches' : List (String × Tree),
    sameBranches branches branches' = true →
      Matched (leavesBranches branches) (leavesBranches branches')
  | [], branches', same => by
    cases branches' with
    | nil => exact .nil
    | cons b' rest' => simp [sameBranches] at same
  | (label, child) :: rest, branches', same => by
    cases branches' with
    | nil => simp [sameBranches] at same
    | cons b' rest' =>
      obtain ⟨label', child'⟩ := b'
      simp only [sameBranches, Bool.and_eq_true] at same
      exact List.rel_append (matched_leaves child child' same.1.2)
        (matched_leavesBranches rest rest' same.2)

end

/-- Two labelled trees are equal in both parts. -/
def SamePart {κ : Type} (s s' : κ × Tree) : Prop := s.1 = s'.1 ∧ s.2.same s'.2 = true

/-- Branches are equal when they are one by one. -/
theorem sameBranches_of_forall₂ {branches branches' : List (String × Tree)}
    (parts : List.Forall₂ SamePart branches branches') : sameBranches branches branches' = true := by
  induction parts with
  | nil => simp [sameBranches]
  | cons first _ ih => simp [sameBranches, first.1, first.2, ih]

/-- Chains of tests of the length are equal when their subtrees are. -/
theorem same_lengthChain {subtrees subtrees' : List (Int × Tree)}
    (parts : List.Forall₂ SamePart subtrees subtrees') :
    (lengthChain subtrees).same (lengthChain subtrees') = true := by
  induction parts with
  | nil => simp [lengthChain, Tree.same]
  | cons first _ ih => simp [lengthChain, Tree.same, first.1, first.2, ih]

/-- The tests of the length are equal when the subtrees are. -/
theorem same_balanced {subtrees subtrees' : List (Int × Tree)}
    (parts : List.Forall₂ SamePart subtrees subtrees') :
    (balanced subtrees).same (balanced subtrees') = true := by
  have count := parts.length_eq
  fun_induction balanced subtrees generalizing subtrees' with
  | case1 subtrees many inside lowerIH upperIH =>
    have many' : linearLengthLimit < subtrees'.length := count ▸ many
    have pivot := (parts.get inside (count ▸ inside)).1
    have lower := lowerIH (List.forall₂_take _ parts) (by simp [count])
    have upper := upperIH (List.forall₂_drop _ parts) (by simp [count])
    rw [balanced.eq_1 subtrees', dif_pos many']
    simp only [Tree.same, Bool.and_eq_true, decide_eq_true_eq, ← count]
    exact ⟨⟨by simpa using pivot, lower⟩, upper⟩
  | case2 subtrees few =>
    rw [balanced.eq_1 subtrees', dif_neg (count ▸ few)]
    exact same_lengthChain parts

end Tree

/-! ### Entries and their trees -/

/-- Trees that tell equal entries apart are equal. -/
theorem Separates.same {entries entries' : List Entry} {t t' : Tree}
    (separates : Separates entries t) (separates' : Separates entries' t')
    (matched : Matched entries entries') : t.same t' = true := by
  induction separates generalizing entries' t' with
  | single e =>
    cases separates' with
    | single e' =>
      rw [Tree.same]
      exact (List.forall₂_cons.mp matched).1
    | divide _ difference => exact absurd matched.sameKeys (difference.not_sameKeys_singleton e)
  | divide child difference divided below ih =>
    cases separates' with
    | single e' =>
      exact absurd matched.sameKeys.symm (difference.not_sameKeys_singleton e')
    | @divide _ p _ child' difference' divided' below' =>
      obtain rfl := (difference.of_keys matched.sameKeys).unique difference'
      obtain ⟨keys, parts⟩ := (division_byCharacter divided).classes_eq
        (division_byCharacter divided') (matched.sameKeys.exists_keyed fun chars => charAt? chars _)
      rw [Tree.same, Bool.and_eq_true]
      refine ⟨by simp, Tree.sameBranches_of_forall₂ ?_⟩
      refine forall₂_map_keys (fun c => (String.singleton c, child c))
        (fun c => (String.singleton c, child' c)) keys ?_
      intro c member
      obtain ⟨inside, inside'⟩ := parts c member
      refine ⟨rfl, ih _ inside (below' _ inside') ?_⟩
      exact matched.filter fun chars => charAt? chars _ = some c

namespace Decides

variable {entries entries' : List Entry} {t t' : Tree}

/-- Trees that decide between equal entries are equal. -/
theorem same (decides : Decides entries t) (decides' : Decides entries' t')
    (matched : Matched entries entries') : t.same t' = true := by
  obtain ⟨subtree, separates⟩ := decides
  obtain ⟨subtree', separates'⟩ := decides'
  obtain ⟨keys, parts⟩ := (division_byLength entries).classes_eq (division_byLength entries')
    (matched.sameKeys.exists_keyed fun chars => some chars.length)
  refine Tree.same_balanced ?_
  refine forall₂_map_keys (fun n : Nat => ((n : Int), subtree n))
    (fun n : Nat => ((n : Int), subtree' n)) keys ?_
  intro n member
  obtain ⟨inside, inside'⟩ := parts n member
  refine ⟨rfl, (separates _ inside).same (separates' _ inside') ?_⟩
  exact matched.filter fun chars => some chars.length = some n

/-- Trees that decide between numbered entries are equal exactly when the entries are. -/
theorem same_iff (decides : Decides entries t) (decides' : Decides entries' t')
    (numbered : Numbered entries) (numbered' : Numbered entries') :
    t.same t' = true ↔ Matched entries entries' := by
  constructor
  · intro same
    have leaves := Tree.matched_leaves t t' same
    have count : entries.length = entries'.length := by
      rw [← decides.leaves_perm.length_eq, ← decides'.leaves_perm.length_eq, leaves.length_eq]
    refine List.forall₂_iff_get.mpr ⟨count, ?_⟩
    intro i hi hi'
    have leaf : entries[i] ∈ t.leaves := decides.leaves_perm.symm.subset (List.getElem_mem hi)
    obtain ⟨e', member', equal⟩ := exists_of_forall₂ leaves leaf
    obtain ⟨j, hj, rfl⟩ := List.getElem_of_mem (decides'.leaves_perm.subset member')
    -- Equal entries have equal indices, so they stand at the same place.
    have at_i := numbered i _ (List.getElem?_eq_getElem hi)
    have at_j := numbered' j _ (List.getElem?_eq_getElem hj)
    have index := (Entry.chars_and_index_of_same equal).2
    obtain rfl : i = j := by omega
    exact equal
  · exact decides.same decides'

end Decides

end KeyTree
