/-
# Lookups that conform to their declared type

A declaration that passes the check and is converted gives a lookup whose answers have the
declared type. The check admits values by the declared type, the conversion takes each of them
as this type wants it, and the value reported on a miss is chosen by the type as well: the three
tables agree.

* `ValueKind.describes`, `ValueKind.Takes` — the values of a type, and how a type takes a
  declared value.
* `checkFields_eq_ok_iff` — what the check of a declaration lets through.
* `of_lookupOfFields` — what a conversion that succeeds has done.
* `lookup_conforms` — the answers of the lookup.
-/

import KeyTree.Class.Known
import KeyTree.Declaration.Conversion
import KeyTree.Proofs.Lookup.Recall
import KeyTree.Proofs.Outcome
import Mathlib.Data.List.Permutation

namespace KeyTree

/-! ### Values of a type -/

namespace ValueKind

/-- Whether a value is of a type. Truth values are no integers here. -/
def describes : ValueKind → Value → Bool
  | .any, _ => true
  | .bool, v => v.isBool
  | .float, v => v.isNumber && !v.isInteger
  | .int, v => v.isInteger && !v.isBool
  | .str, v => v.content?.isSome
  | .type, .cls _ => true
  | .type, _ => false

/-- `kind.Takes env v w`: a value that is declared as `v` is stored as `w`. Names of classes are
resolved, numbers become floating-point numbers, and other values are stored as they are. -/
inductive Takes (env : Environment) : ValueKind → Value → Value → Prop where
  | named {v : Value} {c : ClassName} (resolved : env.resolve v = .ok c) :
      Takes env .type v (.cls c)
  | number {v : Value} {x : Binary64} (converted : toFloat v = .ok x) :
      Takes env .float v (.float x)
  | same {kind : ValueKind} {v : Value} (scalar : kind ∈ [.any, .bool, .int, .str]) :
      Takes env kind v v

variable {env : Environment} {kind : ValueKind} {fields : Fields} {v w : Value}

/-- A converted value is the value taken. -/
theorem takes_of_convert (converted : kind.convert env fields v = .ok w) :
    kind.Takes env v w := by
  obtain ⟨name, -, converted⟩ := bind_eq_ok_iff.mp converted
  cases kind with
  | type =>
    obtain ⟨c, resolved, rfl⟩ := map_eq_ok_iff.mp converted
    exact .named (mapError_eq_ok_iff.mp resolved)
  | float =>
    obtain ⟨x, number, rfl⟩ := map_eq_ok_iff.mp converted
    exact .number (mapError_eq_ok_iff.mp number)
  | any | bool | int | str =>
    cases converted
    exact .same (by decide)

/-- What a type takes of an admitted value is of the type. -/
theorem Takes.describes (takes : kind.Takes env v w) (admitted : kind.admits v = true) :
    kind.describes w = true := by
  cases takes with
  | named => rfl
  | number => rfl
  | same scalar =>
    cases kind with
    | any => rfl
    | bool | int | str => exact admitted
    | float | type => exact absurd scalar (by decide)

/-- The value reported on a miss is that of the declared type. -/
theorem missValue_className (kind : ValueKind) :
    KeyTree.missValue (.cls kind.className) = kind.missValue := by
  cases kind <;> cbv

/-- The value reported on a miss is of the type, unless the type is that of classes. -/
theorem describes_missValue (other : kind ≠ .type) : kind.describes kind.missValue = true := by
  cases kind with
  | type => exact absurd rfl other
  | any | bool | float | int | str => rfl

end ValueKind

/-! ### What the check lets through -/

/-- The items of a field that must be a list are those that the field yields. -/
theorem of_listField {name field : String} {fields : Fields} {items : List Value}
    (listed : listField name field fields = .ok items) :
    ∃ given, Value.field? fields field = some given ∧ given.items = .ok items := by
  unfold listField at listed
  cases found : Value.field? fields field with
  | none =>
    rw [found] at listed
    cases listed
  | some given =>
    rw [found, Option.map_some] at listed
    split at listed
    · contradiction
    · rename_i parts unfolded
      cases listed
      have list : given.unfold = .list items := Option.some.inj unfolded
      have other : given.text? = none := by
        cases given with
        | list | loop => rfl
        | _ => cases list
      exact ⟨given, rfl, by rw [Value.items, other, list]⟩
    · cases listed

/-- A value that names a type when it is checked names the same type when it is used. -/
theorem ofValue_of_declaredKind {name : String} {fields : Fields} {kind : ValueKind}
    (declared : declaredKind name fields = .ok kind) :
    ValueKind.ofValue (fields.getD "value_type" (.str ValueKind.any.name)) = .ok kind := by
  unfold declaredKind at declared
  generalize fields.getD "value_type" (.str ValueKind.any.name) = given at declared ⊢
  dsimp only at declared
  cases named : given.content? >>= ValueKind.ofName? with
  | none =>
    rw [named] at declared
    cases declared
  | some other =>
    rw [named] at declared
    cases declared
    obtain ⟨s, content, -⟩ := Option.bind_eq_some_iff.mp named
    obtain ⟨text, isText, -⟩ := Option.map_eq_some_iff.mp content
    have hashable : given.unhashable? = none := by
      rw [eq_toValue_of_text? isText]
      obtain ⟨content, form⟩ := text
      cases form <;> rfl
    rw [ValueKind.ofValue, hashable, named]

/-- No item lacks a property exactly when all items have it. -/
theorem firstWithout_eq_none {p : Value → Bool} {items : List Value} :
    firstWithout p items = none ↔ ∀ v ∈ items, p v = true := by
  rw [firstWithout, List.find?_eq_none]
  constructor
  · intro all v member
    obtain ⟨i, at_i⟩ := List.mem_iff_getElem?.mp member
    have found := all (v, i) (List.mem_zipIdx_iff_getElem?.mpr at_i)
    simpa using found
  · rintro all ⟨v, i⟩ member
    have inside : v ∈ items := List.mem_of_getElem? (List.mem_zipIdx_iff_getElem?.mp member)
    simp [all v inside]

/-- The check of the fields of a declaration succeeds when the keys are a list of texts, the
values a list of values that the declared type admits, and the documentation, if there is one,
is a text. -/
theorem checkFields_eq_ok_iff {name : String} {fields : Fields} :
    checkFields name fields = .ok () ↔
      ∃ keys values kind, listField name "keys" fields = .ok keys ∧
        listField name "values" fields = .ok values ∧ declaredKind name fields = .ok kind ∧
        (∀ key ∈ keys, key.content?.isSome = true) ∧ (∀ v ∈ values, kind.admits v = true) ∧
        ∀ doc, Value.field? fields "doc" = some doc → doc.content?.isSome = true := by
  constructor
  · intro passed
    obtain ⟨keys, keysListed, passed⟩ := bind_eq_ok_iff.mp passed
    obtain ⟨values, valuesListed, passed⟩ := bind_eq_ok_iff.mp passed
    cases texts : firstWithout (·.content?.isSome) keys with
    | some item =>
      simp only [texts] at passed
      cases passed
    | none =>
      simp only [texts] at passed
      obtain ⟨kind, declared, passed⟩ := bind_eq_ok_iff.mp passed
      cases admitted : firstWithout kind.admits values with
      | some item =>
        simp only [admitted] at passed
        cases passed
      | none =>
        simp only [admitted] at passed
        refine ⟨keys, values, kind, keysListed, valuesListed, declared,
          firstWithout_eq_none.mp texts, firstWithout_eq_none.mp admitted, ?_⟩
        intro doc documented
        simp only [documented] at passed
        by_cases isText : doc.content?.isSome = true
        · exact isText
        · rw [if_neg isText] at passed
          cases passed
  · rintro ⟨keys, values, kind, keysListed, valuesListed, declared, texts, admitted, documented⟩
    simp only [checkFields, keysListed, valuesListed, declared, firstWithout_eq_none.mpr texts,
      firstWithout_eq_none.mpr admitted, bind, Except.bind]
    cases doc : Value.field? fields "doc" with
    | none => rfl
    | some doc =>
      simp only [documented _ doc, if_true]
      rfl

/-- The check of a declaration keeps its fields, which pass the check. -/
theorem of_checkLookup {index : Nat} {given : Value} {name : String} {fields : Fields}
    (accepted : checkLookup index given = .ok (name, fields)) :
    checkFields name fields = .ok () := by
  unfold checkLookup at accepted
  split at accepted
  · obtain ⟨n, -, accepted⟩ := bind_eq_ok_iff.mp accepted
    obtain ⟨⟨⟩, passed, accepted⟩ := bind_eq_ok_iff.mp accepted
    cases accepted
    exact passed
  · cases accepted

/-- A mapping whose name and fields pass the checks is accepted as it is. -/
theorem checkLookup_eq_ok {index : Nat} {name : String} {fields : Fields}
    (named : declaredName index fields = .ok name) (checked : checkFields name fields = .ok ()) :
    checkLookup index (.dict fields) = .ok (name, fields) := by
  change (declaredName index fields >>= fun name =>
    checkFields name fields >>= fun _ => .ok (name, fields)) = .ok (name, fields)
  exact bind_eq_ok_iff.mpr ⟨name, named, bind_eq_ok_iff.mpr ⟨(), checked, rfl⟩⟩

/-! ### What a conversion has done -/

/-- A required field is there. -/
theorem requiredField_eq_ok_iff {fields : Fields} {field : String} {v : Value} :
    requiredField fields field = .ok v ↔ Value.field? fields field = some v := by
  unfold requiredField
  cases Value.field? fields field <;> simp

/-- A conversion that succeeds has taken each of the values as the declared type wants it, and
has built the lookup of the keys with these values. -/
theorem of_lookupOfFields {env : Environment} {fields : Fields} {l : Lookup}
    (converted : lookupOfFields env fields = .ok l) :
    ∃ kind given items values keys name,
      ValueKind.ofValue (fields.getD "value_type" (.str ValueKind.any.name)) = .ok kind ∧
      Value.field? fields "values" = some given ∧ given.items = .ok items ∧
      List.Forall₂ (kind.Takes env) items values ∧ Value.field? fields "keys" = some keys ∧
      Declared.lookup { keys, values := .list values, valueType := .cls kind.className, name }
        = .ok l := by
  obtain ⟨kind, declared, converted⟩ := bind_eq_ok_iff.mp converted
  obtain ⟨given, found, converted⟩ := bind_eq_ok_iff.mp converted
  obtain ⟨items, listed, converted⟩ := bind_eq_ok_iff.mp converted
  obtain ⟨values, taken, converted⟩ := bind_eq_ok_iff.mp converted
  obtain ⟨keys, keysFound, converted⟩ := bind_eq_ok_iff.mp converted
  obtain ⟨name, -, converted⟩ := bind_eq_ok_iff.mp converted
  refine ⟨kind, given, items, values, keys, name, mapError_eq_ok_iff.mp declared,
    requiredField_eq_ok_iff.mp found, mapError_eq_ok_iff.mp listed, ?_,
    requiredField_eq_ok_iff.mp keysFound, mapError_eq_ok_iff.mp converted⟩
  exact (forall₂_of_mapM_eq_ok taken).imp fun v w => ValueKind.takes_of_convert

/-! ### Answers of a declared type -/

/-- The answers of a lookup whose declaration passes the check and is converted. A key gets its
value as the declared type takes it, every other input gets the value that the type reports on a
miss, and all of them are of the type; only a lookup of classes reports a miss by a value that
is no class. -/
theorem lookup_conforms {env : Environment} {index : Nat} {given : Value} {name : String}
    {fields : Fields} {l : Lookup} (accepted : checkLookup index given = .ok (name, fields))
    (converted : lookupOfFields env fields = .ok l) :
    ∃ (kind : ValueKind) (keys : List Text) (values : List Value),
      declaredKind name fields = .ok kind ∧
      listField name "keys" fields = .ok (keys.map Text.toValue) ∧
      listField name "values" fields = .ok values ∧ keys.length = values.length ∧
      (∀ (i : Nat) key value, keys[i]? = some key → values[i]? = some value →
        ∃ v, kind.Takes env value v ∧ kind.describes v = true ∧
          ∀ x, x.content? = some key.content → l.find x = .ok ⟨true, v⟩) ∧
      (∀ x, (∀ key ∈ keys, x.content? ≠ some key.content) →
        l.find x = .ok ⟨false, kind.missValue⟩) ∧
      (kind ≠ .type → kind.describes kind.missValue = true) := by
  obtain ⟨rawKeys, values, kind, keysListed, valuesListed, declared, -, admitted, -⟩ :=
    checkFields_eq_ok_iff.mp (of_checkLookup accepted)
  obtain ⟨kind', given, items, stored, rawKeys', n, declared', found, listed, taken, keysFound,
    built⟩ := of_lookupOfFields converted
  obtain rfl := Except.ok.inj ((ofValue_of_declaredKind declared).symm.trans declared')
  -- The lists that are checked are those that are converted.
  obtain ⟨given', found', listed'⟩ := of_listField valuesListed
  obtain rfl := Option.some.inj (found.symm.trans found')
  obtain rfl := Except.ok.inj (listed.symm.trans listed')
  obtain ⟨given', keysFound', keysListed'⟩ := of_listField keysListed
  obtain rfl := Option.some.inj (keysFound.symm.trans keysFound')
  obtain ⟨hashable, keys, stored', lists, checked⟩ := Declared.of_lookup built
  obtain rfl := Except.ok.inj (lists.keysListed.symm.trans keysListed')
  obtain rfl : stored = stored' := Except.ok.inj lists.valuesListed
  obtain ⟨decides, default⟩ := Declared.decides_of_lookup lists built
  refine ⟨kind, keys, items, declared, keysListed, valuesListed,
    checked.counts.trans taken.length_eq.symm, ?_, ?_, ValueKind.describes_missValue⟩
  · intro i key value keyAt valueAt
    obtain ⟨bound, rfl⟩ := List.getElem?_eq_some_iff.mp valueAt
    have inside : i < stored.length := taken.length_eq ▸ bound
    have takes : kind.Takes env items[i] stored[i] := taken.get bound inside
    refine ⟨stored[i], takes, takes.describes (admitted _ (List.getElem_mem bound)), ?_⟩
    have pair : (key, stored[i]) ∈ keys.zip stored :=
      List.mem_of_getElem? (List.getElem?_zip_eq_some.mpr
        ⟨keyAt, List.getElem?_eq_some_iff.mpr ⟨inside, rfl⟩⟩)
    obtain ⟨e, member, eq⟩ := mem_iff_exists_entry.mp pair
    obtain ⟨text, stands⟩ := Prod.mk.inj eq
    intro x same
    rw [← stands]
    exact Lookup.find_of_mem decides member (text ▸ same)
  · intro x other
    rw [← ValueKind.missValue_className, ← default]
    refine Lookup.find_of_not_mem decides fun e member => other e.text ?_
    rw [← checked.map_text_entries 0]
    exact List.mem_map_of_mem member

/-- The answers of a declaration of two integers. -/
theorem lookup_conforms_integers :
    ∃ fields l, checkLookup 0 (.dict fields) = .ok ("find", fields) ∧
      lookupOfFields .known fields = .ok l ∧ l.find (.str "bc") = .ok ⟨true, .int (-2)⟩ ∧
      l.find (.int 7) = .ok ⟨false, .int 0⟩ := by
  let fields : Fields := [(.str "name", .str "find"), (.str "keys", .list [.str "a", .str "bc"]),
    (.str "values", .list [.int 7, .int (-2)]), (.str "value_type", .str "int")]
  have named : declaredName 0 fields = .ok "find" := by
    have found : Value.field? fields "name" = some (.str "find") := by cbv
    rw [declaredName, found]
    rfl
  have accepted := checkLookup_eq_ok named (by cbv)
  obtain ⟨l, converted⟩ : ∃ l, lookupOfFields .known fields = .ok l := by
    refine ⟨⟨.lengthTest 1 (.leaf ⟨⟨"a", .plain⟩, 0, .int 7⟩)
      (.lengthTest 2 (.leaf ⟨⟨"bc", .plain⟩, 1, .int (-2)⟩) .miss), 2, .cls (.builtin "int"),
      .int 0, .str "find"⟩, ?_⟩
    cbv
  obtain ⟨kind, keys, values, declared, keysListed, valuesListed, -, hits, missed, -⟩ :=
    lookup_conforms accepted converted
  obtain rfl : kind = .int := by
    have known : declaredKind "find" fields = .ok .int := by cbv
    exact Except.ok.inj (declared.symm.trans known)
  obtain rfl : keys = [⟨"a", .plain⟩, ⟨"bc", .plain⟩] := by
    have known : listField "find" "keys" fields = .ok [.str "a", .str "bc"] := by cbv
    exact toValue_injective.list_map (Except.ok.inj (keysListed.symm.trans known))
  obtain rfl : values = [.int 7, .int (-2)] := by
    have known : listField "find" "values" fields = .ok [.int 7, .int (-2)] := by cbv
    exact Except.ok.inj (valuesListed.symm.trans known)
  obtain ⟨v, takes, -, found⟩ := hits 1 _ _ rfl rfl
  cases takes
  exact ⟨fields, l, accepted, converted, found (.str "bc") rfl, missed (.int 7) (by decide)⟩

end KeyTree
