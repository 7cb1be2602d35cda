/-
# The first fault of keys

The check of keys and values tells the counts first, and whether there are keys at all. Then it
goes from key to key and stops at the first that is no text or repeats an earlier one. What it
reports there is decided by the keys up to that place alone, and a repeated key has one earlier
place only, because the check would have stopped before otherwise.

* `KeySet.FaultAt` — a key that cannot be accepted behind those before it.
* `KeySet.exists_texts_of_sound` — keys without a fault are texts of different contents.
* `KeySet.ofLists_of_faultAt` — the check reports the first fault.
* `KeySet.reports_first_fault` — what the check makes of two lists.
-/

import KeyTree.Proofs.Entry.KeySet

namespace KeyTree

namespace KeySet

/-! ### Faults of keys -/

/-- `FaultAt keys j fault`: the key at the place `j` cannot be accepted behind the keys before
it. It is no text, or it has the content of the key at an earlier place. -/
inductive FaultAt (keys : List Value) (j : Nat) : BuildFault → Prop where
  | notText {key : Value} (here : keys[j]? = some key) (noText : key.text? = none) :
      FaultAt keys j (.keyNotText j key.typeName)
  | repeated {i : Nat} {key earlier : Value} {text text' : Text} (here : keys[j]? = some key)
      (isText : key.text? = some text) (before : i < j) (there : keys[i]? = some earlier)
      (isText' : earlier.text? = some text') (same : text'.content = text.content) :
      FaultAt keys j (.duplicateKey text i j)

/-- No key is at fault. -/
def Sound (keys : List Value) : Prop := ∀ j fault, ¬ FaultAt keys j fault

variable {keys : List Value} {j : Nat}

/-- A fault among the first keys is a fault among all of them. -/
theorem FaultAt.of_take {k : Nat} {fault : BuildFault} (atFault : FaultAt (keys.take j) k fault) :
    k < j ∧ FaultAt keys k fault := by
  have known {i : Nat} {key : Value} (here : (keys.take j)[i]? = some key) :
      i < j ∧ keys[i]? = some key := by
    rw [List.getElem?_take] at here
    split at here
    · exact ⟨‹_›, here⟩
    · cases here
  cases atFault with
  | notText here noText => exact ⟨(known here).1, .notText (known here).2 noText⟩
  | repeated here isText before there isText' same =>
    exact ⟨(known here).1, .repeated (known here).2 isText before (known there).2 isText' same⟩

/-- The keys before the first fault have none. -/
theorem sound_take (first : ∀ k < j, ∀ fault, ¬ FaultAt keys k fault) : Sound (keys.take j) := by
  intro k fault atFault
  obtain ⟨before, earlier⟩ := atFault.of_take
  exact first k before fault earlier

/-- Keys without a fault are texts of different contents. -/
theorem exists_texts_of_sound (sound : Sound keys) :
    ∃ texts : List Text, keys = texts.map Text.toValue ∧ (texts.map Text.content).Nodup := by
  have allTexts : ∀ key ∈ keys, key.content?.isSome = true := by
    intro key member
    obtain ⟨j, here⟩ := List.getElem?_of_mem member
    cases isText : key.text? with
    | none => exact absurd (.notText here isText) (sound j _)
    | some text => simp [Value.content?, isText]
  obtain ⟨texts, rfl⟩ := exists_texts allTexts
  refine ⟨texts, rfl, ?_⟩
  rw [List.Nodup, List.pairwise_iff_getElem]
  intro i j hi hj before same
  simp only [List.getElem_map] at same
  simp only [List.length_map] at hi hj
  have place {k : Nat} (hk : k < texts.length) :
      (texts.map Text.toValue)[k]? = some texts[k].toValue := by
    simp [hk]
  exact sound j _ (.repeated (place hj) (text?_toValue _) before (place hi) (text?_toValue _) same)

/-! ### The check at a fault -/

/-- The entry found for a content among those of different keys is at the place of its key. -/
theorem exists_find?_entriesFrom {pairs : List (Text × Value)}
    (distinct : (pairs.map (·.1.content)).Nodup) {i : Nat} {p : Text × Value}
    (there : pairs[i]? = some p) {text : Text} (same : p.1.content = text.content) :
    ∃ e, (entriesFrom 0 pairs).reverse.find? (·.text.same text) = some e ∧ e.index = i := by
  have entry : (⟨p.1, i, p.2⟩ : Entry) ∈ (entriesFrom 0 pairs).reverse := by
    rw [List.mem_reverse, List.mem_iff_getElem?]
    refine ⟨i, ?_⟩
    rw [getElem?_entriesFrom, there, Option.map_some, Nat.zero_add]
  cases found : (entriesFrom 0 pairs).reverse.find? (·.text.same text) with
  | none => exact absurd same (find?_same_eq_none.mp found _ entry)
  | some e =>
    refine ⟨e, rfl, ?_⟩
    have member : e ∈ entriesFrom 0 pairs := List.mem_reverse.mp (List.mem_of_find?_eq_some found)
    have same' : e.text.content = text.content := by
      simpa [Text.same] using List.find?_some found
    obtain ⟨k, at_k⟩ := List.getElem?_of_mem member
    rw [getElem?_entriesFrom] at at_k
    obtain ⟨q, there', rfl⟩ := Option.map_eq_some_iff.mp at_k
    -- Two places with the same content are one, as the contents are different.
    have eq : (pairs.map (·.1.content))[k]? = (pairs.map (·.1.content))[i]? := by
      rw [List.getElem?_map, List.getElem?_map, there, there', Option.map_some, Option.map_some,
        same]
      exact congrArg some same'
    have inside : k < (pairs.map (·.1.content)).length := by
      rw [List.length_map]
      exact (List.getElem?_eq_some_iff.mp there').1
    have place := (List.getElem?_inj inside distinct).mp eq
    simp [place]

/-- The check goes on behind keys without a fault. -/
theorem checkPairs_behind {texts : List Text} {values : List Value}
    (counts : texts.length = values.length) (distinct : (texts.map Text.content).Nodup)
    (more : List (Value × Value)) :
    checkPairs .ordinal [] 0 ((texts.map Text.toValue).zip values ++ more)
      = (entriesFrom 0 (texts.zip values) ++ ·) <$>
          checkPairs .ordinal (entriesFrom 0 (texts.zip values)).reverse texts.length more := by
  have raw : (texts.map Text.toValue).zip values = (texts.zip values).map declaredPair := by
    rw [List.zip_map_left]
    rfl
  have length : (texts.zip values).length = texts.length := by
    rw [List.length_zip, ← counts, Nat.min_self]
  rw [raw, checkPairs_append (by simp) (nodup_contents_zip counts distinct), List.append_nil,
    Nat.zero_add, length]

/-- The check of two lists reports the first fault of the keys. -/
theorem ofLists_of_faultAt {values : List Value} {fault : BuildFault} (valueType : Value)
    (counts : keys.length = values.length) (atFault : FaultAt keys j fault)
    (first : ∀ k < j, ∀ fault, ¬ FaultAt keys k fault) :
    ofLists .ordinal valueType keys values = .error fault := by
  obtain ⟨texts, before, distinct⟩ := exists_texts_of_sound (sound_take first)
  obtain ⟨key, here⟩ : ∃ key, keys[j]? = some key := by
    cases atFault with
    | notText here => exact ⟨_, here⟩
    | repeated here => exact ⟨_, here⟩
  obtain ⟨inside, rfl⟩ := List.getElem?_eq_some_iff.mp here
  have length : texts.length = j := by
    rw [← List.length_map Text.toValue, ← before, List.length_take]
    omega
  have countsBefore : texts.length = (values.take j).length := by
    rw [length, List.length_take, ← counts]
    omega
  have split : keys.zip values = (keys.take j).zip (values.take j) ++
      (keys[j], values[j]) :: (keys.drop (j + 1)).zip (values.drop (j + 1)) := by
    rw [← List.zip_cons_cons, ← List.drop_eq_getElem_cons, ← List.drop_eq_getElem_cons,
      ← List.zip_append (by simp [counts]), List.take_append_drop, List.take_append_drop]
  have failed : checkPairs .ordinal (entriesFrom 0 (texts.zip (values.take j))).reverse j
      ((keys[j], values[j]) :: (keys.drop (j + 1)).zip (values.drop (j + 1)))
        = .error fault := by
    cases atFault with
    | notText here' noText =>
      obtain rfl := Option.some.inj (here.symm.trans here')
      simp only [checkPairs, noText]
    | @repeated i key earlier text text' here' isText less there isText' same =>
      obtain rfl := Option.some.inj (here.symm.trans here')
      -- The earlier key is one of the texts that have passed, and the check finds it there.
      have passed : (keys.take j)[i]? = some earlier := by
        rw [List.getElem?_take_of_lt less, there]
      rw [before, List.getElem?_map] at passed
      obtain ⟨t, at_i, rfl⟩ := Option.map_eq_some_iff.mp passed
      obtain rfl : t = text' := by simpa using isText'
      obtain ⟨value, valued⟩ : ∃ value, (values.take j)[i]? = some value :=
        ⟨_, List.getElem?_eq_getElem (by simp; omega)⟩
      have pair : (texts.zip (values.take j))[i]? = some (t, value) :=
        List.getElem?_zip_eq_some.mpr ⟨at_i, valued⟩
      obtain ⟨e, found, index⟩ :=
        exists_find?_entriesFrom (nodup_contents_zip countsBefore distinct) pair same
      simp only [checkPairs, isText, found, index]
  have nonempty : ¬ keys.isEmpty = true := by
    intro none
    rw [List.isEmpty_iff.mp none] at inside
    exact absurd inside (Nat.not_lt_zero _)
  rw [ofLists, if_neg (not_not.mpr counts), if_neg nonempty, split, before,
    checkPairs_behind countsBefore distinct, length, failed]
  rfl

/-- The check of two lists without a fault numbers the keys and values in their order. -/
theorem ofLists_of_sound {values : List Value} (valueType : Value) (nonempty : keys ≠ [])
    (counts : keys.length = values.length) (sound : Sound keys) :
    ∃ entries : List Entry, ofLists .ordinal valueType keys values = .ok ⟨entries, valueType⟩ ∧
      entries.length = keys.length ∧ ∀ (i : Nat) (e : Entry), entries[i]? = some e →
        keys[i]? = some e.text.toValue ∧ e.index = i ∧ values[i]? = some e.value := by
  obtain ⟨texts, rfl, distinct⟩ := exists_texts_of_sound sound
  have counts' : texts.length = values.length := by simpa using counts
  have checked : Checked texts values := ⟨by simpa using nonempty, counts', distinct⟩
  refine ⟨_, checked.ofLists_eq_ok valueType, ?_, ?_⟩
  · rw [length_entriesFrom, List.length_zip, ← counts', Nat.min_self, List.length_map]
  · intro i e place
    rw [getElem?_entriesFrom] at place
    obtain ⟨⟨text, value⟩, pair, rfl⟩ := Option.map_eq_some_iff.mp place
    obtain ⟨at_i, valued⟩ := List.getElem?_zip_eq_some.mp pair
    refine ⟨?_, by simp, valued⟩
    rw [List.getElem?_map, at_i]
    rfl

/-! ### The check of two lists -/

/-- What the check makes of two lists, compared by their characters. Lists of different lengths
are reported with both lengths, whatever they hold, and empty ones as such. Otherwise the least
place with a fault decides: there is one fault only at it, a key that is no text or a text with
the only earlier place of its content, and this is reported. Without a fault the key set holds
each key with its place and its value. -/
theorem reports_first_fault (valueType : Value) (keys values : List Value) :
    (keys.length ≠ values.length →
      ofValues .ordinal valueType (.list keys) (.list values)
        = .error (.countMismatch keys.length values.length)) ∧
    (keys = [] → values = [] →
      ofValues .ordinal valueType (.list keys) (.list values) = .error .noKeys) ∧
    (keys.length = values.length → keys ≠ [] →
      (∀ j, (∃ fault, FaultAt keys j fault) → (∀ k < j, ∀ fault, ¬ FaultAt keys k fault) →
        ∃ fault, (∀ fault', FaultAt keys j fault' ↔ fault' = fault) ∧
          ofValues .ordinal valueType (.list keys) (.list values) = .error fault) ∧
      (Sound keys →
        ∃ entries : List Entry,
          ofValues .ordinal valueType (.list keys) (.list values) = .ok ⟨entries, valueType⟩ ∧
          entries.length = keys.length ∧ ∀ (i : Nat) (e : Entry), entries[i]? = some e →
            keys[i]? = some e.text.toValue ∧ e.index = i ∧ values[i]? = some e.value)) := by
  have lists : ofValues .ordinal valueType (.list keys) (.list values)
      = ofLists .ordinal valueType keys values := ofValues_eq_ofLists rfl rfl
  rw [lists]
  refine ⟨?_, ?_, ?_⟩
  · intro differ
    rw [ofLists, if_pos differ]
  · rintro rfl rfl
    rfl
  · intro counts nonempty
    refine ⟨?_, ofLists_of_sound valueType nonempty counts⟩
    rintro j ⟨fault, atFault⟩ first
    have reported := ofLists_of_faultAt valueType counts atFault first
    refine ⟨fault, ?_, reported⟩
    intro fault'
    constructor
    · intro atFault'
      have reported' := ofLists_of_faultAt valueType counts atFault' first
      exact Except.error.inj (reported'.symm.trans reported)
    · rintro rfl
      exact atFault

/-- A key that is a plain string repeats one that is an instance of a subclass, and this is
reported before the number behind it. -/
theorem reports_first_fault_subclass :
    ofValues .ordinal .none (.list [.str "b", .subStr ⟨"m", "Label"⟩ "a" none, .str "a", .int 1])
        (.list [.none, .none, .none, .none])
      = .error (.duplicateKey ⟨"a", .plain⟩ 1 2) := by
  obtain ⟨-, -, behind⟩ := reports_first_fault .none
    [.str "b", .subStr ⟨"m", "Label"⟩ "a" none, .str "a", .int 1] [.none, .none, .none, .none]
  obtain ⟨reports, -⟩ := behind rfl (by simp)
  have atFault : FaultAt [.str "b", .subStr ⟨"m", "Label"⟩ "a" none, .str "a", .int 1] 2
      (.duplicateKey ⟨"a", .plain⟩ 1 2) :=
    .repeated rfl rfl (by decide) rfl rfl rfl
  have first : ∀ k < 2, ∀ fault,
      ¬ FaultAt [.str "b", .subStr ⟨"m", "Label"⟩ "a" none, .str "a", .int 1] k fault := by
    intro k less fault atFault
    have known : k = 0 ∨ k = 1 := by omega
    cases atFault with
    | notText here noText =>
      rcases known with rfl | rfl
      · cases here
        cases noText
      · cases here
        cases noText
    | @repeated i key earlier text text' here isText before there isText' same =>
      obtain rfl : i = 0 := by omega
      obtain rfl : k = 1 := by omega
      cases here
      cases isText
      cases there
      cases isText'
      exact absurd same (by decide)
  obtain ⟨fault, only, reported⟩ := reports 2 ⟨_, atFault⟩ first
  rw [reported, ← (only _).mp atFault]

end KeySet

end KeyTree
