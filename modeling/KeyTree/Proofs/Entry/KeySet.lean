/-
# Checked keys

What the check of a declaration lets through: keys that are texts of different content,
as many values, and at least one of each. Everything that is built from a key set
relies on this and on nothing else.

* `entriesFrom` — the entries of keys and values, numbered in the order given.
* `Checked` — what is checked of keys and values.
* `KeySet.checkPairs_append` — the check goes on behind pairs that pass it.
* `ofLists_eq_ok` — checked keys and values make a key set.
* `checked_of_ofLists`, `checked_of_ofValues` — a key set comes from checked keys and values.
-/

import KeyTree.Entry.KeySet
import Mathlib.Data.List.Nodup

namespace KeyTree

/-! ### Texts as values -/

/-- The text that a value was made from. -/
@[simp] theorem text?_toValue (t : Text) : t.toValue.text? = some t := by
  obtain ⟨content, form⟩ := t
  cases form <;> rfl

/-- A value that is a text was made from it. -/
theorem eq_toValue_of_text? {v : Value} {t : Text} (isText : v.text? = some t) :
    v = t.toValue := by
  unfold Value.text? at isText
  split at isText
  · cases isText
    rfl
  · cases isText
    rfl
  · cases isText
    rfl
  · cases isText

/-- Different texts are different values. -/
theorem toValue_injective : Function.Injective Text.toValue := by
  intro t u eq
  have := congrArg Value.text? eq
  simpa using this

/-- Values that are texts come from texts. -/
theorem exists_texts {items : List Value} (texts : ∀ v ∈ items, v.content?.isSome = true) :
    ∃ keys : List Text, items = keys.map Text.toValue := by
  induction items with
  | nil => exact ⟨[], rfl⟩
  | cons v rest ih =>
    obtain ⟨first, others⟩ := List.forall_mem_cons.mp texts
    obtain ⟨keys, rfl⟩ := ih others
    rw [Value.content?, Option.isSome_map, Option.isSome_iff_exists] at first
    obtain ⟨text, isText⟩ := first
    exact ⟨text :: keys, by rw [List.map_cons, ← eq_toValue_of_text? isText]⟩

/-! ### Entries of a declaration -/

/-- A key and its value as they are declared. -/
def declaredPair (p : Text × Value) : Value × Value := (p.1.toValue, p.2)

/-- The entries of keys and values in the order given, the first with the index
`index`. -/
def entriesFrom (index : Nat) : List (Text × Value) → List Entry
  | [] => []
  | (text, value) :: rest => ⟨text, index, value⟩ :: entriesFrom (index + 1) rest

/-- The entries without their indices are the keys and values. -/
theorem map_entriesFrom (index : Nat) (pairs : List (Text × Value)) :
    (entriesFrom index pairs).map (fun e => (e.text, e.value)) = pairs := by
  induction pairs generalizing index with
  | nil => rfl
  | cons p rest ih =>
    obtain ⟨text, value⟩ := p
    rw [entriesFrom, List.map_cons, ih]

/-- The keys and values are those of the entries. -/
theorem mem_iff_exists_entry {index : Nat} {pairs : List (Text × Value)} {p : Text × Value} :
    p ∈ pairs ↔ ∃ e ∈ entriesFrom index pairs, (e.text, e.value) = p := by
  rw [← @List.mem_map _ _ _ fun e : Entry => (e.text, e.value), map_entriesFrom]

/-- The texts of the entries are the keys. -/
theorem map_text_entriesFrom (index : Nat) (pairs : List (Text × Value)) :
    (entriesFrom index pairs).map Entry.text = pairs.map Prod.fst := by
  have texts := congrArg (List.map Prod.fst) (map_entriesFrom index pairs)
  rwa [List.map_map] at texts

/-- There are as many entries as keys. -/
theorem length_entriesFrom (index : Nat) (pairs : List (Text × Value)) :
    (entriesFrom index pairs).length = pairs.length := by
  rw [← List.length_map Entry.text, map_text_entriesFrom, List.length_map]

/-- The entry at a place is the key and value there, numbered from the first index on. -/
theorem getElem?_entriesFrom (index : Nat) (pairs : List (Text × Value)) (i : Nat) :
    (entriesFrom index pairs)[i]? = pairs[i]?.map fun p => ⟨p.1, (index + i : Nat), p.2⟩ := by
  induction pairs generalizing index i with
  | nil => rfl
  | cons p rest ih =>
    cases i with
    | zero => rfl
    | succ i =>
      rw [entriesFrom, List.getElem?_cons_succ, List.getElem?_cons_succ, ih]
      have place : index + 1 + i = index + (i + 1) := by omega
      rw [place]

/-- The entries have different keys when the texts have different contents. -/
theorem nodup_chars_entriesFrom {index : Nat} {pairs : List (Text × Value)}
    (distinct : (pairs.map (·.1.content)).Nodup) :
    ((entriesFrom index pairs).map Entry.chars).Nodup := by
  have chars : (entriesFrom index pairs).map Entry.chars
      = (pairs.map (·.1.content)).map String.toList := by
    have texts := congrArg (List.map Text.chars) (map_text_entriesFrom index pairs)
    rw [List.map_map] at texts
    rw [List.map_map]
    exact texts.trans List.map_map
  rw [chars]
  exact distinct.map fun s t eq => String.toList_inj.mp eq

/-- Keys of different contents have them in pairs with values as well. -/
theorem nodup_contents_zip {keys : List Text} {values : List Value}
    (counts : keys.length = values.length) (distinct : (keys.map Text.content).Nodup) :
    ((keys.zip values).map (·.1.content)).Nodup := by
  have contents := congrArg (List.map Text.content) (List.map_fst_zip (Nat.le_of_eq counts))
  rw [List.map_map] at contents
  exact contents ▸ distinct

/-! ### The check -/

namespace KeySet

/-- No earlier key has the content of a new one exactly when none is found. -/
theorem find?_same_eq_none {earlier : List Entry} {text : Text} :
    earlier.find? (·.text.same text) = none ↔ ∀ e ∈ earlier, e.text.content ≠ text.content := by
  rw [List.find?_eq_none]
  simp [Text.same]

/-- Pairs with keys of different contents, none of them among the earlier, pass the check, which
goes on behind them. -/
theorem checkPairs_append {earlier : List Entry} {index : Nat} {pairs : List (Text × Value)}
    (fresh : ∀ e ∈ earlier, ∀ p ∈ pairs, e.text.content ≠ p.1.content)
    (distinct : (pairs.map (·.1.content)).Nodup) (more : List (Value × Value)) :
    checkPairs .ordinal earlier index (pairs.map declaredPair ++ more)
      = (entriesFrom index pairs ++ ·) <$> checkPairs .ordinal
          ((entriesFrom index pairs).reverse ++ earlier) (index + pairs.length) more := by
  induction pairs generalizing earlier index with
  | nil => exact (id_map _).symm
  | cons p rest ih =>
    obtain ⟨text, value⟩ := p
    obtain ⟨new, distinctRest⟩ := List.nodup_cons.mp distinct
    have absent := find?_same_eq_none.mpr fun e member => fresh e member _ List.mem_cons_self
    have freshRest : ∀ e ∈ (⟨text, index, value⟩ : Entry) :: earlier, ∀ p ∈ rest,
        e.text.content ≠ p.1.content := by
      intro e member p inside
      rcases List.mem_cons.mp member with rfl | member
      · exact fun eq => new (List.mem_map.mpr ⟨p, inside, eq.symm⟩)
      · exact fresh e member p (List.mem_cons_of_mem _ inside)
    simp only [List.map_cons, List.cons_append, declaredPair, checkPairs, text?_toValue, absent]
    have next : index + (rest.length + 1) = index + 1 + rest.length := by omega
    rw [ih freshRest distinctRest, Functor.map_map, entriesFrom, List.length_cons, next,
      List.reverse_cons, List.append_assoc]
    rfl

/-- Pairs with keys of different contents, none of them among the earlier, pass the
check. -/
theorem checkPairs_eq_ok {earlier : List Entry} {index : Nat} {pairs : List (Text × Value)}
    (fresh : ∀ e ∈ earlier, ∀ p ∈ pairs, e.text.content ≠ p.1.content)
    (distinct : (pairs.map (·.1.content)).Nodup) :
    checkPairs .ordinal earlier index (pairs.map declaredPair)
      = .ok (entriesFrom index pairs) := by
  have passed := @checkPairs_append earlier index pairs fresh distinct []
  simpa [checkPairs] using passed

/-- The first pair that passes the check has a text as its key, whose content no earlier key
has, and is compared by its characters; the others pass the check behind it. -/
theorem of_checkPairs_cons {mode : Comparison} {earlier : List Entry} {index : Nat}
    {key value : Value} {rest : List (Value × Value)} {entries : List Entry}
    (passed : checkPairs mode earlier index ((key, value) :: rest) = .ok entries) :
    mode = .ordinal ∧ ∃ text, key = text.toValue ∧
      (∀ e ∈ earlier, e.text.content ≠ text.content) ∧
      ∃ later, checkPairs mode (⟨text, index, value⟩ :: earlier) (index + 1) rest = .ok later := by
  rw [checkPairs] at passed
  cases isText : key.text? with
  | none =>
    rw [isText] at passed
    cases passed
  | some text =>
    rw [isText] at passed
    cases mode with
    | unknown given => cases passed
    | ordinal =>
      cases absent : earlier.find? (·.text.same text) with
      | some e =>
        simp only [absent] at passed
        cases passed
      | none =>
        simp only [absent] at passed
        refine ⟨rfl, text, eq_toValue_of_text? isText, find?_same_eq_none.mp absent, ?_⟩
        cases later : checkPairs .ordinal (⟨text, index, value⟩ :: earlier) (index + 1) rest with
        | error fault =>
          rw [later] at passed
          cases passed
        | ok entries' => exact ⟨entries', rfl⟩

/-- Pairs that pass the check have texts of different contents as keys, none of them
among the earlier, and are compared by their characters. -/
theorem of_checkPairs {mode : Comparison} {earlier : List Entry} {index : Nat}
    {raw : List (Value × Value)} {entries : List Entry}
    (passed : checkPairs mode earlier index raw = .ok entries) :
    (raw ≠ [] → mode = .ordinal) ∧ ∃ pairs : List (Text × Value), raw = pairs.map declaredPair ∧
      (∀ e ∈ earlier, ∀ p ∈ pairs, e.text.content ≠ p.1.content) ∧
      (pairs.map (·.1.content)).Nodup := by
  induction raw generalizing earlier index entries with
  | nil => exact ⟨fun nonempty => absurd rfl nonempty, [], rfl, by simp, .nil⟩
  | cons p rest ih =>
    obtain ⟨key, value⟩ := p
    obtain ⟨ordinal, text, rfl, new, entries', later⟩ := of_checkPairs_cons passed
    obtain ⟨-, pairs, rfl, fresh, distinct⟩ := ih later
    refine ⟨fun _ => ordinal, (text, value) :: pairs, rfl, ?_, ?_⟩
    · intro e member p inside
      rcases List.mem_cons.mp inside with rfl | inside
      · exact new e member
      · exact fresh e (List.mem_cons_of_mem _ member) p inside
    · refine List.nodup_cons.mpr ⟨fun member => ?_, distinct⟩
      obtain ⟨p, inside, eq⟩ := List.mem_map.mp member
      exact fresh _ List.mem_cons_self p inside eq.symm

end KeySet

/-! ### Checked keys and values -/

/-- Keys and values as the check wants them: there are keys, as many values, and the
keys have different contents. -/
structure Checked (keys : List Text) (values : List Value) : Prop where
  nonempty : keys ≠ []
  counts : keys.length = values.length
  distinct : (keys.map Text.content).Nodup

namespace Checked

variable {keys : List Text} {values : List Value}

/-- The keys among the pairs of checked keys and values. -/
theorem map_fst_zip (checked : Checked keys values) : (keys.zip values).map Prod.fst = keys :=
  List.map_fst_zip (Nat.le_of_eq checked.counts)

/-- The texts of the entries of checked keys and values are the keys. -/
theorem map_text_entries (checked : Checked keys values) (index : Nat) :
    (entriesFrom index (keys.zip values)).map Entry.text = keys :=
  (map_text_entriesFrom index _).trans checked.map_fst_zip

/-- The values of the entries of checked keys and values are the values. -/
theorem map_value_entries (checked : Checked keys values) (index : Nat) :
    (entriesFrom index (keys.zip values)).map Entry.value = values := by
  have pairs := congrArg (List.map Prod.snd) (map_entriesFrom index (keys.zip values))
  rw [List.map_map] at pairs
  exact pairs.trans (List.map_snd_zip (Nat.le_of_eq checked.counts.symm))

/-- The contents among the pairs are different. -/
theorem distinct_zip (checked : Checked keys values) :
    ((keys.zip values).map (·.1.content)).Nodup :=
  nodup_contents_zip checked.counts checked.distinct

/-- Checked keys and values make a key set. -/
theorem ofLists_eq_ok (checked : Checked keys values) (valueType : Value) :
    KeySet.ofLists .ordinal valueType (keys.map Text.toValue) values
      = .ok ⟨entriesFrom 0 (keys.zip values), valueType⟩ := by
  have counts : ¬ (keys.map Text.toValue).length ≠ values.length := by
    simpa using checked.counts
  have nonempty : ¬ (keys.map Text.toValue).isEmpty = true := by
    simpa using checked.nonempty
  have raw : (keys.map Text.toValue).zip values = (keys.zip values).map declaredPair := by
    rw [List.zip_map_left]
    rfl
  rw [KeySet.ofLists, if_neg counts, if_neg nonempty, raw,
    KeySet.checkPairs_eq_ok (by simp) checked.distinct_zip]
  rfl

end Checked

/-- A key set comes from checked keys and values, compared by their characters. -/
theorem checked_of_ofLists {mode : Comparison} {valueType : Value} {rawKeys values : List Value}
    {ks : KeySet} (made : KeySet.ofLists mode valueType rawKeys values = .ok ks) :
    mode = .ordinal ∧ ∃ keys, rawKeys = keys.map Text.toValue ∧ Checked keys values := by
  unfold KeySet.ofLists at made
  split at made
  · cases made
  · rename_i counts
    have counts : rawKeys.length = values.length := Decidable.not_not.mp counts
    split at made
    · cases made
    · rename_i nonempty
      cases passed : KeySet.checkPairs mode [] 0 (rawKeys.zip values) with
      | error fault =>
        rw [passed] at made
        cases made
      | ok entries =>
        obtain ⟨ordinal, pairs, raw, -, distinct⟩ := KeySet.of_checkPairs passed
        have rawKeys_eq : rawKeys = (pairs.map Prod.fst).map Text.toValue := by
          have keys := congrArg (List.map Prod.fst) raw
          rw [List.map_fst_zip (Nat.le_of_eq counts), List.map_map] at keys
          rw [keys, List.map_map]
          rfl
        have present : rawKeys ≠ [] := by simpa using nonempty
        refine ⟨ordinal fun none => present ?_, pairs.map Prod.fst, rawKeys_eq, ?_, ?_, ?_⟩
        · rw [← List.map_fst_zip (Nat.le_of_eq counts), none, List.map_nil]
        · rintro none
          exact present (by rw [rawKeys_eq, none, List.map_nil])
        · rw [← counts, rawKeys_eq]
          exact (List.length_map _).symm
        · rwa [List.map_map]

/-! ### Collections of keys and values -/

/-- Two collections have the key set of their items. -/
theorem ofValues_eq_ofLists {mode : Comparison} {valueType keys values : Value}
    {keyItems valueItems : List Value} (keysListed : keys.items = .ok keyItems)
    (valuesListed : values.items = .ok valueItems) :
    KeySet.ofValues mode valueType keys values
      = KeySet.ofLists mode valueType keyItems valueItems := by
  unfold KeySet.ofValues
  split
  · cases keysListed
  · cases valuesListed
  · rw [KeySet.itemsOf, keysListed, KeySet.itemsOf, valuesListed]
    rfl

/-- A key set is made from the items of two collections. -/
theorem items_of_ofValues {mode : Comparison} {valueType keys values : Value} {ks : KeySet}
    (made : KeySet.ofValues mode valueType keys values = .ok ks) :
    ∃ keyItems valueItems, keys.items = .ok keyItems ∧ values.items = .ok valueItems := by
  unfold KeySet.ofValues at made
  split at made
  · cases made
  · cases made
  · rw [KeySet.itemsOf, KeySet.itemsOf] at made
    cases keysListed : keys.items with
    | error fault =>
      rw [keysListed] at made
      cases made
    | ok keyItems =>
      cases valuesListed : values.items with
      | error fault =>
        rw [keysListed, valuesListed] at made
        cases made
      | ok valueItems => exact ⟨keyItems, valueItems, rfl, rfl⟩

/-- The key set of two collections comes from checked keys and values, compared by their
characters, and holds their entries. -/
theorem checked_of_ofValues {mode : Comparison} {valueType keys values : Value} {ks : KeySet}
    (made : KeySet.ofValues mode valueType keys values = .ok ks) :
    mode = .ordinal ∧ ∃ texts items, keys.items = .ok (texts.map Text.toValue) ∧
      values.items = .ok items ∧ Checked texts items ∧
      ks = ⟨entriesFrom 0 (texts.zip items), valueType⟩ := by
  obtain ⟨keyItems, items, keysListed, valuesListed⟩ := items_of_ofValues made
  rw [ofValues_eq_ofLists keysListed valuesListed] at made
  obtain ⟨rfl, texts, rfl, checked⟩ := checked_of_ofLists made
  rw [checked.ofLists_eq_ok] at made
  cases made
  exact ⟨rfl, texts, items, keysListed, valuesListed, checked, rfl⟩

end KeyTree
