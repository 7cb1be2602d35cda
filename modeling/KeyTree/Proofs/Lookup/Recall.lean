/-
# What a lookup recalls

A declaration of different keys always gives a lookup. The lookup knows the keys and
nothing else: an input equal to a key gets the value of the key, and every other input
gets the value reported on a miss. At any time, the tests of a walk leave exactly the
keys that agree with the input so far, so that one key at most is left at its end.

* `Declared.Lists` — the keys and values that a declaration lists.
* `Declared.lookup_eq_ok` — the lookup of checked keys.
* `Declared.of_lookup`, `Declared.eq_of_lookup` — a lookup comes from checked keys, and its
  tree decides between them.
* `Declared.recalls` — what the lookup answers.
* `Declared.one_candidate` — what the tests of a walk leave.
-/

import KeyTree.Lookup.Build
import KeyTree.Proofs.Entry.KeySet
import KeyTree.Proofs.Tree.Decision

namespace KeyTree

/-! ### Building from checked keys -/

namespace Declared

/-- `d.Lists keys values`: the declaration lists these keys, which are texts, and these
values, and asks for comparison by characters. -/
structure Lists (d : Declared) (keys : List Text) (values : List Value) : Prop where
  keysListed : d.keys.items = .ok (keys.map Text.toValue)
  valuesListed : d.values.items = .ok values
  ordinal : d.comparison = .ordinal

variable {d : Declared} {keys : List Text} {values : List Value}

/-- The key set of checked keys and values. -/
theorem keySet_eq_ok (lists : d.Lists keys values) (checked : Checked keys values) :
    d.keySet = .ok ⟨entriesFrom 0 (keys.zip values), d.valueType⟩ := by
  rw [Declared.keySet, lists.ordinal, ofValues_eq_ofLists lists.keysListed lists.valuesListed]
  exact checked.ofLists_eq_ok d.valueType

/-- A tree of the key set of checked keys and values is that of their lookup. -/
theorem lookup_eq_ok_of_tree (lists : d.Lists keys values) (checked : Checked keys values)
    (hashable : d.valueType.unhashable? = none) {t : Tree}
    (built : Tree.ofEntries (entriesFrom 0 (keys.zip values)) = .ok t) :
    d.lookup = .ok {
      root := t
      keyCount := keys.length
      valueType := d.valueType
      default := missValue d.valueType
      name := d.name } := by
  have size : (⟨entriesFrom 0 (keys.zip values), d.valueType⟩ : KeySet).size = keys.length := by
    rw [KeySet.size, length_entriesFrom, List.length_zip, ← checked.counts, Nat.min_self]
  rw [Declared.lookup, keySet_eq_ok lists checked, ← size]
  change Lookup.ofKeySet _ d.name = _
  rw [Lookup.ofKeySet, KeySet.tree, built, hashable]

/-- Checked keys and values have a lookup, whose tree decides between the keys. -/
theorem lookup_eq_ok (lists : d.Lists keys values) (checked : Checked keys values)
    (hashable : d.valueType.unhashable? = none) :
    ∃ t, Decides (entriesFrom 0 (keys.zip values)) t ∧
      d.lookup = .ok {
        root := t
        keyCount := keys.length
        valueType := d.valueType
        default := missValue d.valueType
        name := d.name } := by
  obtain ⟨t, built, decides⟩ := ofEntries_decides (nodup_chars_entriesFrom checked.distinct_zip)
  exact ⟨t, decides, lookup_eq_ok_of_tree lists checked hashable built⟩

/-- A key set comes from checked keys and values. -/
theorem of_keySet {ks : KeySet} (made : d.keySet = .ok ks) :
    ∃ keys values, d.Lists keys values ∧ Checked keys values ∧
      ks = ⟨entriesFrom 0 (keys.zip values), d.valueType⟩ := by
  obtain ⟨ordinal, keys, values, keysListed, valuesListed, checked, eq⟩ := checked_of_ofValues made
  exact ⟨keys, values, ⟨keysListed, valuesListed, ordinal⟩, checked, eq⟩

/-- A lookup comes from checked keys and values, with a value type that can be looked
up. -/
theorem of_lookup {l : Lookup} (built : d.lookup = .ok l) :
    d.valueType.unhashable? = none ∧ ∃ keys values, d.Lists keys values ∧ Checked keys values := by
  unfold Declared.lookup at built
  cases made : d.keySet with
  | error fault =>
    rw [made] at built
    cases built
  | ok ks =>
    rw [made] at built
    change Lookup.ofKeySet ks d.name = .ok l at built
    obtain ⟨keys, values, lists, checked, rfl⟩ := of_keySet made
    refine ⟨?_, keys, values, lists, checked⟩
    cases hashable : d.valueType.unhashable? with
    | none => rfl
    | some part =>
      simp only [Lookup.ofKeySet, hashable] at built
      split at built
      · cases built
      · cases built

/-- The keys and values that a declaration lists are those only. -/
theorem Lists.unique {keys' : List Text} {values' : List Value} (lists : d.Lists keys values)
    (lists' : d.Lists keys' values') : keys = keys' ∧ values = values' := by
  constructor
  · have same := lists.keysListed.symm.trans lists'.keysListed
    exact toValue_injective.list_map (Except.ok.inj same)
  · exact Except.ok.inj (lists.valuesListed.symm.trans lists'.valuesListed)

/-- The keys and values of a lookup pass the check. -/
theorem checked_of_lookup {l : Lookup} (lists : d.Lists keys values) (built : d.lookup = .ok l) :
    Checked keys values := by
  obtain ⟨-, keys', values', lists', checked⟩ := of_lookup built
  obtain ⟨rfl, rfl⟩ := lists.unique lists'
  exact checked

/-- A lookup consists of a tree that decides between the entries of the keys and values listed,
and of what is declared. -/
theorem eq_of_lookup {l : Lookup} (lists : d.Lists keys values) (built : d.lookup = .ok l) :
    ∃ t, Decides (entriesFrom 0 (keys.zip values)) t ∧
      l = {
        root := t
        keyCount := keys.length
        valueType := d.valueType
        default := missValue d.valueType
        name := d.name } := by
  obtain ⟨hashable, -⟩ := of_lookup built
  obtain ⟨t, decides, built'⟩ := lookup_eq_ok lists (checked_of_lookup lists built) hashable
  exact ⟨t, decides, Except.ok.inj (built.symm.trans built')⟩

/-- The tree of a lookup decides between the entries of the keys and values listed. -/
theorem decides_of_lookup {l : Lookup} (lists : d.Lists keys values) (built : d.lookup = .ok l) :
    Decides (entriesFrom 0 (keys.zip values)) l.root ∧ l.default = missValue d.valueType := by
  obtain ⟨t, decides, rfl⟩ := eq_of_lookup lists built
  exact ⟨decides, rfl⟩

/-- The tree of a lookup finds something. -/
theorem root_ne_miss {l : Lookup} (built : d.lookup = .ok l) : l.root ≠ .miss := by
  obtain ⟨-, keys, values, lists, checked⟩ := of_lookup built
  obtain ⟨decides, -⟩ := decides_of_lookup lists built
  intro nothing
  have count := decides.leaves_perm.length_eq
  rw [nothing, length_entriesFrom, List.length_zip, ← checked.counts, Nat.min_self] at count
  exact checked.nonempty (List.length_eq_zero_iff.mp count.symm)

end Declared

/-! ### Answers -/

namespace Lookup

/-- A value that is no text is not found, without any test. -/
theorem trace_of_not_text (l : Lookup) {x : Value} (other : x.text? = none) :
    l.trace x = .ok ⟨{}, ⟨false, l.default⟩⟩ := by
  rw [trace, other]
  rfl

/-- The trace of a text is the walk of its characters with its answer. -/
theorem trace_of_walk {l : Lookup} {x : Value} {text : Text} {w : Walk}
    (isText : x.text? = some text) (walked : l.root.walk text.chars = .ok w) :
    l.trace x = .ok ⟨w, l.answer w⟩ := by
  rw [trace, isText]
  simp only [walked]
  rfl

/-- A lookup whose tree decides between entries finds the value of an entry for each
text that is its key. -/
theorem find_of_mem {l : Lookup} {entries : List Entry} (decides : Decides entries l.root)
    {e : Entry} (member : e ∈ entries) {x : Value} (same : x.content? = some e.text.content) :
    l.find x = .ok ⟨true, e.value⟩ := by
  obtain ⟨text, isText, content⟩ := Option.map_eq_some_iff.mp same
  obtain ⟨w, walked, -⟩ := decides.walk text.chars
  have chars : text.chars = e.chars := congrArg String.toList content
  have found := (decides.found_eq_some_iff walked).mpr ⟨member, chars⟩
  rw [find, trace_of_walk isText walked, answer, found]
  rfl

/-- A lookup whose tree decides between entries misses what is the key of none. -/
theorem find_of_not_mem {l : Lookup} {entries : List Entry} (decides : Decides entries l.root)
    {x : Value} (other : ∀ e ∈ entries, x.content? ≠ some e.text.content) :
    l.find x = .ok ⟨false, l.default⟩ := by
  cases isText : x.text? with
  | none =>
    rw [find, trace_of_not_text l isText]
    rfl
  | some text =>
    obtain ⟨w, walked, -⟩ := decides.walk text.chars
    have missed : w.found = none := by
      refine Option.eq_none_iff_forall_ne_some.mpr fun e found => ?_
      obtain ⟨member, chars⟩ := (decides.found_eq_some_iff walked).mp found
      refine other e member ?_
      rw [Value.content?, isText]
      exact congrArg some (String.toList_inj.mp chars)
    rw [find, trace_of_walk isText walked, answer, missed]
    rfl

end Lookup

namespace Declared

variable {d : Declared} {keys : List Text} {values : List Value}

/-- The declaration of checked keys and values has a lookup, which recalls them: an
input that is equal to a key gets the value of the key, and every other input gets the
value reported on a miss. -/
theorem recalls (lists : d.Lists keys values) (checked : Checked keys values)
    (hashable : d.valueType.unhashable? = none) :
    ∃ l, d.lookup = .ok l ∧
      (∀ (i : Nat) key value x, keys[i]? = some key → values[i]? = some value →
        x.content? = some key.content → l.find x = .ok ⟨true, value⟩) ∧
      ∀ x, (∀ key ∈ keys, x.content? ≠ some key.content) →
        l.find x = .ok ⟨false, missValue d.valueType⟩ := by
  obtain ⟨t, decides, built⟩ := lookup_eq_ok lists checked hashable
  refine ⟨_, built, ?_, ?_⟩
  · intro i key value x keyAt valueAt same
    have pair : (key, value) ∈ keys.zip values :=
      List.mem_of_getElem? (List.getElem?_zip_eq_some.mpr ⟨keyAt, valueAt⟩)
    obtain ⟨e, member, eq⟩ := mem_iff_exists_entry.mp pair
    cases eq
    exact Lookup.find_of_mem decides member same
  · intro x other
    refine Lookup.find_of_not_mem decides fun e member => other e.text ?_
    rw [← checked.map_text_entries 0]
    exact List.mem_map_of_mem member

/-- Two names and their numbers are recalled, and a longer name is not. -/
theorem recalls_names :
    ∃ l, Declared.lookup {
        keys := .list [.str "ab", .str "b"]
        values := .list [.int 1, .int 2]
        valueType := .cls (.builtin "int") } = .ok l ∧
      l.find (.str "b") = .ok ⟨true, .int 2⟩ ∧ l.find (.str "abc") = .ok ⟨false, .int 0⟩ := by
  obtain ⟨l, built, hit, missed⟩ := @recalls {
      keys := .list [.str "ab", .str "b"]
      values := .list [.int 1, .int 2]
      valueType := .cls (.builtin "int") }
    [⟨"ab", .plain⟩, ⟨"b", .plain⟩] [.int 1, .int 2] ⟨rfl, rfl, rfl⟩ ⟨by decide, rfl, by decide⟩ rfl
  have default : missValue (.cls (.builtin "int")) = .int 0 := by cbv
  exact ⟨l, built, hit 1 _ _ _ rfl rfl rfl, default ▸ missed (.str "abc") (by decide)⟩

/-! ### Candidates -/

/-- The keys that agree with a text at the positions of its walk are the key of the leaf that
the text is led to, if there is one. -/
theorem filter_compatible_eq (checked : Checked keys values) {t : Tree}
    (decides : Decides (entriesFrom 0 (keys.zip values)) t) {text : List Char} {w : Walk}
    (walked : t.walk text = .ok w) :
    keys.filter (compatible w.positions text) = (t.leafFor text).toList.map Entry.text := by
  obtain ⟨w', walked', left⟩ := decides.walk text
  obtain rfl : w' = w := Except.ok.inj (walked'.symm.trans walked)
  have kept := congrArg (List.filter (compatible w'.positions text)) (checked.map_text_entries 0)
  rw [List.filter_map] at kept
  rw [← left]
  exact kept.symm

/-- The keys left by the tests of a walk: their number is one when the walk ends with the
comparison with a key and zero when it does not, and a key that is left is the one
compared with, so that the input is found exactly when it is equal to this key. -/
theorem one_candidate {l : Lookup} {x : Value} {text : Text}
    (listed : d.keys.items = .ok (keys.map Text.toValue)) (built : d.lookup = .ok l)
    (isText : x.text? = some text) :
    ∃ t, l.trace x = .ok t ∧
      keys.countP (compatible t.walk.positions text.chars)
        = (if t.walk.verified then 1 else 0) ∧
      (t.walk.verified = false → t.answer = ⟨false, l.default⟩) ∧
      ∀ key ∈ keys, compatible t.walk.positions text.chars key = true →
        ∃ e, l.root.leafFor text.chars = some e ∧ e.text = key ∧
          t.answer = if text.content = key.content then ⟨true, e.value⟩ else ⟨false, l.default⟩ := by
  obtain ⟨-, keys', values, lists, checked⟩ := of_lookup built
  obtain rfl : keys' = keys := by
    have same := lists.keysListed.symm.trans listed
    exact toValue_injective.list_map (Except.ok.inj same)
  obtain ⟨decides, -⟩ := decides_of_lookup lists built
  obtain ⟨w, walked, -⟩ := decides.walk text.chars
  obtain ⟨verified, found⟩ := Tree.walk_leafFor text.chars l.root w walked
  have left := filter_compatible_eq checked decides walked
  refine ⟨_, Lookup.trace_of_walk isText walked, ?_, ?_, ?_⟩
  · rw [List.countP_eq_length_filter, left, verified]
    cases l.root.leafFor text.chars <;> rfl
  · intro unverified
    rw [verified, Option.isSome_eq_false_iff, Option.isNone_iff_eq_none] at unverified
    rw [Lookup.answer, found, unverified]
    rfl
  · intro key member agrees
    have inside : key ∈ (l.root.leafFor text.chars).toList.map Entry.text :=
      left ▸ List.mem_filter.mpr ⟨member, agrees⟩
    obtain ⟨e, leaf, rfl⟩ := List.mem_map.mp inside
    rw [Option.mem_toList] at leaf
    refine ⟨e, leaf, rfl, ?_⟩
    rw [leaf, Option.filter_some] at found
    by_cases same : text.content = e.text.content
    · have verify : e.verify text.chars = true := decide_eq_true (congrArg String.toList same)
      rw [verify, if_pos rfl] at found
      rw [Lookup.answer, found, if_pos same]
    · have verify : e.verify text.chars = false :=
        decide_eq_false fun chars => same (String.toList_inj.mp chars)
      rw [verify, if_neg Bool.false_ne_true] at found
      rw [Lookup.answer, found, if_neg same]

/-- Of two names of one length, one is left after the test of a character. -/
theorem one_candidate_names :
    ∃ l t, Declared.lookup { keys := .list [.str "ab", .str "cb"], values := .list [.int 1, .int 2] }
        = .ok l ∧
      l.trace (.str "cd") = .ok t ∧
      List.countP (compatible t.walk.positions ['c', 'd']) [⟨"ab", .plain⟩, ⟨"cb", .plain⟩]
        = if t.walk.verified then 1 else 0 := by
  have lists : Lists { keys := .list [.str "ab", .str "cb"], values := .list [.int 1, .int 2] }
      [⟨"ab", .plain⟩, ⟨"cb", .plain⟩] [.int 1, .int 2] := ⟨rfl, rfl, rfl⟩
  obtain ⟨root, -, built⟩ := lookup_eq_ok lists ⟨by decide, rfl, by decide⟩ rfl
  have isText : (Value.str "cd").text? = some ⟨"cd", .plain⟩ := rfl
  obtain ⟨t, traced, count, -⟩ := one_candidate lists.keysListed built isText
  exact ⟨_, t, built, traced, count⟩

end Declared

end KeyTree
