/-
# What a lookup holds

The tree of a declaration holds its keys and values, none lost and none twice, and nothing of
the declaration but these shows in it. So the lookup lists the keys as they were declared and
has as many leaves as there are keys.

* `Lookup.Keeps`, `Declared.keeps_keys` — what the lookup lists, and how many keys it has.
* `Declared.tree_holds` — the tree as another form of the declared keys and values.
-/

import KeyTree.Proofs.Lookup.Recall
import KeyTree.Proofs.Tree.Contents

namespace KeyTree

/-- A lookup keeps keys: it lists them in their order, as many as its tree has leaves. The
number of keys can be told and the list can be made when there is room for as many. -/
structure Lookup.Keeps (l : Lookup) (keys : List Text) : Prop where
  inOrder : l.keys = keys
  counted : l.keyCount = l.root.entries.length
  told : l.root.entries.length < sizeBound → l.size = .ok l.root.entries.length
  listed : l.root.entries.length < roomBound → l.listed = .ok keys

namespace Declared

variable {d : Declared}

/-- A lookup knows how many keys are declared. -/
theorem keyCount_of_lookup {keys : List Text} {values : List Value} (lists : d.Lists keys values)
    {l : Lookup} (built : d.lookup = .ok l) : l.keyCount = keys.length := by
  obtain ⟨t, -, rfl⟩ := eq_of_lookup lists built
  rfl

/-- A lookup keeps the keys that are declared. -/
theorem keeps_keys {keys : List Text} {values : List Value} (lists : d.Lists keys values)
    {l : Lookup} (built : d.lookup = .ok l) : l.Keeps keys := by
  have checked := checked_of_lookup lists built
  obtain ⟨decides, -⟩ := decides_of_lookup lists built
  have leaves : l.root.entries.length = keys.length := by
    rw [Tree.entries_eq_leaves, decides.leaves_perm.length_eq, length_entriesFrom,
      List.length_zip, ← checked.counts, Nat.min_self]
  have counted : l.keyCount = l.root.entries.length := by
    rw [keyCount_of_lookup lists built, leaves]
  have inOrder : l.keys = keys := by
    rw [Lookup.keys, Lookup.entries, decides.sorted_entries (numbered_entriesFrom _)]
    exact checked.map_text_entries 0
  have told (small : l.root.entries.length < sizeBound) :
      l.size = .ok l.root.entries.length := by
    have positive : ¬ (l.root.entries.length : Int) < 0 := by omega
    rw [Lookup.size, counted, if_neg positive, Int.toNat_natCast, if_neg (Nat.not_le.mpr small)]
  refine ⟨inOrder, counted, told, ?_⟩
  intro room
  have small : l.root.entries.length < sizeBound := by
    refine Nat.lt_trans room ?_
    decide
  rw [Lookup.listed, told small]
  simp only [if_neg (Nat.not_le.mpr room), inOrder]

/-- The tree of checked keys holds what is declared. Its leaves, put in the order of their
indices, are the entries of the key set: each key declared with its value and its place, once.
A lookup with this tree keeps the keys as they are declared. Two such trees are equal exactly
when the entries are, one by one, and they are the same when the entries are the same. -/
theorem tree_holds {d' : Declared} {ks ks' : KeySet} (made : d.keySet = .ok ks)
    (made' : d'.keySet = .ok ks') :
    ∃ t t' keys values, ks.tree = .ok t ∧ ks'.tree = .ok t' ∧ d.Lists keys values ∧
      (t.entries.mergeSort fun a b => a.index ≤ b.index) = ks.entries ∧
      ks.entries.map Entry.text = keys ∧ ks.entries.map Entry.value = values ∧
      Numbered ks.entries ∧
      (∀ l, d.lookup = .ok l → l.root = t ∧ l.Keeps keys) ∧
      (t.same t' = true ↔ Matched ks.entries ks'.entries) ∧
      (t = t' ↔ ks.entries = ks'.entries) := by
  obtain ⟨keys, values, lists, checked, rfl⟩ := of_keySet made
  obtain ⟨keys', values', lists', checked', rfl⟩ := of_keySet made'
  obtain ⟨t, built, decides⟩ := ofEntries_decides (nodup_chars_entriesFrom checked.distinct_zip)
  obtain ⟨t', built', decides'⟩ := ofEntries_decides (nodup_chars_entriesFrom checked'.distinct_zip)
  have numbered := numbered_entriesFrom (keys.zip values)
  have numbered' := numbered_entriesFrom (keys'.zip values')
  refine ⟨t, t', keys, values, built, built', lists, decides.sorted_entries numbered,
    checked.map_text_entries 0, checked.map_value_entries 0, numbered, ?_,
    decides.same_iff decides' numbered numbered', ?_⟩
  · intro l looked
    obtain ⟨hashable, -⟩ := of_lookup looked
    have found := lookup_eq_ok_of_tree lists checked hashable built
    refine ⟨?_, keeps_keys lists looked⟩
    rw [← Except.ok.inj (found.symm.trans looked)]
  · constructor
    · rintro rfl
      rw [← decides.sorted_entries numbered, ← decides'.sorted_entries numbered']
    · intro eq
      simp only at eq
      rw [eq] at built
      exact Except.ok.inj (built.symm.trans built')

/-- Two names in two orders have different trees, and each tree holds its names in order. -/
theorem tree_holds_names :
    ∃ ks ks' t t',
      Declared.keySet { keys := .list [.str "b", .str "a"], values := .list [.int 1, .int 2] }
        = .ok ks ∧
      Declared.keySet { keys := .list [.str "a", .str "b"], values := .list [.int 2, .int 1] }
        = .ok ks' ∧
      ks.tree = .ok t ∧ ks'.tree = .ok t' ∧
      (t.entries.mergeSort fun a b => a.index ≤ b.index) = ks.entries ∧ t ≠ t' := by
  have made : Declared.keySet {
        keys := .list [.str "b", .str "a"]
        values := .list [.int 1, .int 2] }
      = .ok ⟨entriesFrom 0 [(⟨"b", .plain⟩, .int 1), (⟨"a", .plain⟩, .int 2)], .none⟩ := rfl
  have made' : Declared.keySet {
        keys := .list [.str "a", .str "b"]
        values := .list [.int 2, .int 1] }
      = .ok ⟨entriesFrom 0 [(⟨"a", .plain⟩, .int 2), (⟨"b", .plain⟩, .int 1)], .none⟩ := rfl
  obtain ⟨t, t', -, -, built, built', -, sorted, -, -, -, -, -, iff⟩ := tree_holds made made'
  refine ⟨_, _, t, t', made, made', built, built', sorted, ?_⟩
  intro eq
  simpa [entriesFrom] using iff.mp eq

end Declared

end KeyTree
