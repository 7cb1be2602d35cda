/-
# The order of a declaration

Keys with their values can be declared in any order. The order decides nothing but the
indices of the entries: the tests of the tree, the course of every walk, the answers and
the measures of the tree stay the same.

* `Trace.Alike` — two traces tell the same of their walks.
* `Declared.order_irrelevant` — the lookups of two orders.
-/

import KeyTree.Proofs.Lookup.Recall
import KeyTree.Proofs.Tree.Unnumbered

namespace KeyTree

/-! ### Pairs in two orders -/

/-- Without their indices, the entries of pairs depend on the pairs alone. -/
theorem map_unnumbered_entriesFrom (index : Nat) (pairs : List (Text × Value)) :
    (entriesFrom index pairs).map Entry.unnumbered = pairs.map fun p => ⟨p.1, 0, p.2⟩ := by
  induction pairs generalizing index with
  | nil => rfl
  | cons p rest ih =>
    obtain ⟨text, value⟩ := p
    rw [entriesFrom, List.map_cons, ih, List.map_cons]
    rfl

/-- Pairs in two orders have the same entries. -/
theorem sameEntries_of_perm {pairs pairs' : List (Text × Value)} (permuted : pairs.Perm pairs')
    (index index' : Nat) : SameEntries (entriesFrom index pairs) (entriesFrom index' pairs') := by
  rw [SameEntries, map_unnumbered_entriesFrom, map_unnumbered_entriesFrom]
  exact permuted.map _

/-- Pairs in another order pass the check as well. -/
theorem Checked.perm {pairs pairs' : List (Text × Value)} (permuted : pairs.Perm pairs')
    (checked : Checked (pairs.map Prod.fst) (pairs.map Prod.snd)) :
    Checked (pairs'.map Prod.fst) (pairs'.map Prod.snd) where
  nonempty := by
    intro none
    have keys := permuted.map Prod.fst
    rw [none, List.perm_nil] at keys
    exact checked.nonempty keys
  counts := by rw [List.length_map, List.length_map]
  distinct := ((permuted.map _).map _).nodup checked.distinct

/-! ### Traces -/

/-- Two traces are alike: they made as many tests of the length, read the characters at
the same positions, compared with a key or did not, and came to the same answer. -/
structure Trace.Alike (a b : Trace) : Prop where
  lengthTests : a.walk.lengthTests = b.walk.lengthTests
  positions : a.walk.positions = b.walk.positions
  verified : a.walk.verified = b.walk.verified
  answer : a.answer = b.answer

namespace Lookup

variable {l l' : Lookup}

/-- The answer at the end of a walk has no part in the index of the entry found. -/
theorem answer_congr {w w' : Walk} (same : w.unnumbered = w'.unnumbered)
    (default : l.default = l'.default) : l.answer w = l'.answer w' := by
  have found : w.found.map Entry.unnumbered = w'.found.map Entry.unnumbered :=
    congrArg Walk.found same
  rw [answer, answer]
  cases first : w.found with
  | none =>
    rw [first] at found
    rw [Option.map_eq_none_iff.mp found.symm, default]
  | some e =>
    rw [first] at found
    obtain ⟨e', second, eq⟩ := Option.map_eq_some_iff.mp found.symm
    have value : e'.unnumbered.value = e.unnumbered.value := congrArg Entry.value eq
    rw [second]
    exact congrArg (Answer.mk true) value.symm

/-- Lookups whose trees are equal without the indices take the same course with every
input. -/
theorem trace_alike {entries : List Entry} (decides : Decides entries l.root)
    (same : l.root.unnumbered = l'.root.unnumbered) (default : l.default = l'.default) (x : Value) :
    ∃ r r', l.trace x = .ok r ∧ l'.trace x = .ok r' ∧ r.Alike r' := by
  cases isText : x.text? with
  | none =>
    refine ⟨_, _, trace_of_not_text l isText, trace_of_not_text l' isText, rfl, rfl, rfl, ?_⟩
    rw [default]
  | some text =>
    obtain ⟨w, walked, -⟩ := decides.walk text.chars
    have both : Walk.unnumbered <$> l.root.walk text.chars
        = Walk.unnumbered <$> l'.root.walk text.chars := by
      rw [← Tree.walk_unnumbered, ← Tree.walk_unnumbered, same]
    cases walked' : l'.root.walk text.chars with
    | error fault =>
      rw [walked, walked'] at both
      cases both
    | ok w' =>
      rw [walked, walked'] at both
      have eq : w.unnumbered = w'.unnumbered := Except.ok.inj both
      have tests : w.unnumbered.tests = w'.unnumbered.tests := congrArg Walk.tests eq
      change w.tests = w'.tests at tests
      refine ⟨_, _, trace_of_walk isText walked, trace_of_walk isText walked', ?_, ?_, ?_,
        answer_congr eq default⟩
      · exact congrArg (List.count .length) tests
      · rw [Walk.positions, tests, Walk.positions]
      · rw [Walk.verified, tests, Walk.verified]

end Lookup

/-! ### Declarations in two orders -/

namespace Declared

/-- The order of a declaration decides nothing but the indices: the trees of keys with
their values in two orders are equal without the indices, and the lookups take the same
course with every input, come to the same answers, and need as many tests and nodes. -/
theorem order_irrelevant {d d' : Declared} {pairs pairs' : List (Text × Value)}
    (lists : d.Lists (pairs.map Prod.fst) (pairs.map Prod.snd))
    (lists' : d'.Lists (pairs'.map Prod.fst) (pairs'.map Prod.snd))
    (checked : Checked (pairs.map Prod.fst) (pairs.map Prod.snd)) (permuted : pairs.Perm pairs') :
    ∃ ks ks' t t', d.keySet = .ok ks ∧ d'.keySet = .ok ks' ∧
      ks.tree = .ok t ∧ ks'.tree = .ok t' ∧ t.unnumbered = t'.unnumbered ∧
      (d.valueType.unhashable? = none → d'.valueType = d.valueType →
        ∃ l l', d.lookup = .ok l ∧ d'.lookup = .ok l' ∧ l.root = t ∧ l'.root = t' ∧
          l.depth = l'.depth ∧ l.nodeCount = l'.nodeCount ∧
          ∀ x, ∃ r r', l.trace x = .ok r ∧ l'.trace x = .ok r' ∧ r.Alike r') := by
  have checked' := checked.perm permuted
  obtain ⟨t, built, decides⟩ := ofEntries_decides (nodup_chars_entriesFrom checked.distinct_zip)
  obtain ⟨t', built', decides'⟩ := ofEntries_decides (nodup_chars_entriesFrom checked'.distinct_zip)
  have same : t.unnumbered = t'.unnumbered := by
    refine decides.unnumbered_eq decides' ?_
    rw [← List.zip_of_prod rfl rfl, ← List.zip_of_prod rfl rfl]
    exact sameEntries_of_perm permuted 0 0
  refine ⟨_, _, t, t', keySet_eq_ok lists checked, keySet_eq_ok lists' checked', built, built',
    same, fun hashable sameType => ?_⟩
  have hashable' : d'.valueType.unhashable? = none := sameType ▸ hashable
  refine ⟨_, _, lookup_eq_ok_of_tree lists checked hashable built,
    lookup_eq_ok_of_tree lists' checked' hashable' built', rfl, rfl, ?_, ?_, fun x => ?_⟩
  · rw [Lookup.depth, ← Tree.depth_unnumbered, same, Tree.depth_unnumbered, Lookup.depth]
  · rw [Lookup.nodeCount, ← Tree.nodeCount_unnumbered, same, Tree.nodeCount_unnumbered,
      Lookup.nodeCount]
  · exact Lookup.trace_alike decides same (congrArg missValue sameType.symm) x

/-- Two names in two orders. -/
theorem order_irrelevant_names :
    ∃ l l',
      Declared.lookup { keys := .list [.str "ab", .str "cb"], values := .list [.int 1, .int 2] }
        = .ok l ∧
      Declared.lookup { keys := .list [.str "cb", .str "ab"], values := .list [.int 2, .int 1] }
        = .ok l' ∧
      l.root.unnumbered = l'.root.unnumbered ∧ l.depth = l'.depth := by
  obtain ⟨_, _, _, _, -, -, -, -, same, lookups⟩ := @order_irrelevant
    { keys := .list [.str "ab", .str "cb"], values := .list [.int 1, .int 2] }
    { keys := .list [.str "cb", .str "ab"], values := .list [.int 2, .int 1] }
    [(⟨"ab", .plain⟩, .int 1), (⟨"cb", .plain⟩, .int 2)]
    [(⟨"cb", .plain⟩, .int 2), (⟨"ab", .plain⟩, .int 1)]
    ⟨rfl, rfl, rfl⟩ ⟨rfl, rfl, rfl⟩ ⟨by simp, rfl, by decide⟩ (.swap _ _ _)
  obtain ⟨l, l', built, built', rfl, rfl, depth, -⟩ := lookups rfl rfl
  exact ⟨l, l', built, built', same, depth⟩

end Declared

end KeyTree
