/-
# The format of a lookup

Which declarations of lookups the check accepts, told by the format alone, and what is at fault with
the others. A lookup has a name that may name a function, keys that are texts, values that conform
to a type, and perhaps a text that documents it. The check stops at a first fault; where this should
show a value that has no written form, something else shows.

* `ValueKind.Conforms`, `admits_iff_conforms` — the values of a type.
* `Fields.WellFormed`, `Value.DeclaresAs` — the format.
* `Fields.LookupFault`, `Value.LookupFault` — what can be at fault, which is never the case with a
  lookup of the format: `Value.LookupFault.not_declaresAs`.
* `FormatFault.raised` — what shows of a fault.
* `checkLookup_eq_ok_iff`, `checkLookup_eq_error` — the check of a lookup.
-/

import KeyTree.Proofs.Declaration.Accepted

namespace KeyTree

/-! ### Values of a type -/

/-- `kind.Conforms v`: the value may be declared with the type. Truth values are no numbers,
integers are numbers, and classes are declared by their names. -/
inductive ValueKind.Conforms : ValueKind → Value → Prop where
  | any (v : Value) : Conforms .any v
  | bool (b : Bool) : Conforms .bool (.bool b)
  | int {v : Value} {n : Int} (integer : v.number? = some (.int n)) (other : ∀ b, v ≠ .bool b) :
      Conforms .int v
  | float {v : Value} {x : Value.Numeral} (number : v.number? = some x)
      (other : ∀ b, v ≠ .bool b) : Conforms .float v
  | str {v : Value} {s : String} (text : v.content? = some s) : Conforms .str v
  | type {v : Value} {s : String} (text : v.content? = some s) : Conforms .type v

/-- A value that is a truth value. -/
theorem isBool_eq_true_iff {v : Value} : v.isBool = true ↔ ∃ b, v = .bool b := by
  cases v <;> simp [Value.isBool]

/-- A value that is an integer. -/
theorem isInteger_eq_true_iff {v : Value} :
    v.isInteger = true ↔ ∃ n, v.number? = some (.int n) := by
  unfold Value.isInteger
  cases v.number? with
  | none => simp
  | some x => cases x <;> simp

/-- The values that a type admits are those that conform to it. -/
theorem admits_iff_conforms {kind : ValueKind} {v : Value} :
    kind.admits v = true ↔ kind.Conforms v := by
  have texts : v.content?.isSome = true ↔ ∃ s, v.content? = some s := Option.isSome_iff_exists
  have others : (!v.isBool) = true ↔ ∀ b, v ≠ .bool b := by
    rw [Bool.not_eq_true', ← Bool.not_eq_true, isBool_eq_true_iff, not_exists]
  constructor
  · intro admitted
    cases kind with
    | any => exact .any v
    | bool =>
      obtain ⟨b, rfl⟩ := isBool_eq_true_iff.mp admitted
      exact .bool b
    | int =>
      obtain ⟨integer, other⟩ := Bool.and_eq_true_iff.mp admitted
      obtain ⟨n, integer⟩ := isInteger_eq_true_iff.mp integer
      exact .int integer (others.mp other)
    | float =>
      obtain ⟨number, other⟩ := Bool.and_eq_true_iff.mp admitted
      obtain ⟨x, number⟩ := Option.isSome_iff_exists.mp number
      exact .float number (others.mp other)
    | str =>
      obtain ⟨s, text⟩ := texts.mp admitted
      exact .str text
    | type =>
      obtain ⟨s, text⟩ := texts.mp admitted
      exact .type text
  · intro conforms
    cases conforms with
    | any | bool => rfl
    | int integer other =>
      exact Bool.and_eq_true_iff.mpr ⟨isInteger_eq_true_iff.mpr ⟨_, integer⟩, others.mpr other⟩
    | float number other =>
      exact Bool.and_eq_true_iff.mpr ⟨Option.isSome_iff_exists.mpr ⟨_, number⟩, others.mpr other⟩
    | str text => exact texts.mpr ⟨_, text⟩
    | type text => exact texts.mpr ⟨_, text⟩

/-! ### The format of a lookup -/

namespace Fields

variable (fields : Fields)

/-- `fields.Lists field items`: the field is there, and it is the list of these items. -/
def Lists (field : String) (items : List Value) : Prop :=
  ∃ given, Value.field? fields field = some given ∧ given.unfold = .list items

/-- `fields.Named name`: the name is there, a text that may name a function. -/
structure Named (name : String) : Prop where
  text : ∃ given, Value.field? fields "name" = some given ∧ given.content? = some name
  valid : Text.isFunctionName name = true

/-- `fields.Typed kind`: the values are declared with a type, which is any when none is given. -/
inductive Typed : ValueKind → Prop where
  | undeclared (absent : Value.field? fields "value_type" = none) : Typed .any
  | declared {given : Value} {kind : ValueKind}
      (found : Value.field? fields "value_type" = some given)
      (names : given.content? = some kind.name) : Typed kind

/-- `fields.WellFormed name`: the fields declare a lookup of this name. -/
structure WellFormed (name : String) : Prop where
  named : fields.Named name
  keys : ∃ keys, fields.Lists "keys" keys ∧ ∀ key ∈ keys, ∃ s, key.content? = some s
  values : ∃ values kind, fields.Lists "values" values ∧ fields.Typed kind ∧
    ∀ v ∈ values, kind.Conforms v
  documented : ∀ doc, Value.field? fields "doc" = some doc → ∃ s, doc.content? = some s

/-- The faults of the fields of the lookup with an index. -/
inductive LookupFault (index : Nat) : FormatFault → Prop where
  | nameMissing (absent : Value.field? fields "name" = none) :
      LookupFault index (.nameMissing index)
  | nameNotText {given : Value} (found : Value.field? fields "name" = some given)
      (other : given.content? = none) : LookupFault index (.nameNotText index)
  | nameInvalid {given : Value} {name : String} (found : Value.field? fields "name" = some given)
      (text : given.content? = some name) (invalid : Text.isFunctionName name = false) :
      LookupFault index (.nameInvalid index name)
  | fieldMissing {name field : String} (named : fields.Named name)
      (required : field ∈ ["keys", "values"]) (absent : Value.field? fields field = none) :
      LookupFault index (.fieldMissing name field)
  | fieldNotList {name field : String} {given : Value} (named : fields.Named name)
      (required : field ∈ ["keys", "values"]) (found : Value.field? fields field = some given)
      (other : ∀ items, given.unfold ≠ .list items) : LookupFault index (.fieldNotList name field)
  | keyNotText {name : String} {keys : List Value} {i : Nat} {key : Value}
      (named : fields.Named name) (listed : fields.Lists "keys" keys) (at_i : keys[i]? = some key)
      (other : key.content? = none) : LookupFault index (.keyNotText name i key)
  | kindInvalid {name : String} {given : Value} (named : fields.Named name)
      (found : Value.field? fields "value_type" = some given)
      (other : ∀ kind : ValueKind, given.content? ≠ some kind.name) :
      LookupFault index (.kindInvalid name given)
  | valueMismatch {name : String} {kind : ValueKind} {values : List Value} {i : Nat} {v : Value}
      (named : fields.Named name) (typed : fields.Typed kind)
      (listed : fields.Lists "values" values) (at_i : values[i]? = some v)
      (other : ¬ kind.Conforms v) : LookupFault index (.valueMismatch name i v kind)
  | docNotText {name : String} {doc : Value} (named : fields.Named name)
      (found : Value.field? fields "doc" = some doc) (other : doc.content? = none) :
      LookupFault index (.docNotText name)

end Fields

/-! ### Faults that cannot be shown -/

namespace FormatFault

/-- Whether a fault cannot be put into words, because these show a value that has no written
form. -/
def isUnwritten : FormatFault → Bool
  | .keyNotText _ _ key => key.isTooLong
  | .kindInvalid _ given => given.printsTooLong
  | .valueMismatch _ _ value _ => value.isTooLong
  | _ => false

/-- The fault that shows when a fault is to be put into words. -/
def raised (fault : FormatFault) : FormatFault := if fault.isUnwritten then .tooLong else fault

/-- Whether a fault is one of the format. The others show where a value is used as what it is
not. -/
def isParseError : FormatFault → Bool
  | .notMapping _ => false
  | .tooLong => false
  | _ => true

end FormatFault

/-! ### The check of a lookup -/

/-- `fields.Raises index e`: the fields of the lookup with an index are at fault, and this shows. -/
def Fields.Raises (fields : Fields) (index : Nat) (e : FormatFault) : Prop :=
  ∃ fault, fields.LookupFault index fault ∧ e = fault.raised

section Lookup

variable {fields : Fields} {name : String} {index : Nat} {e : FormatFault}

/-- The items of a field are those of the list. -/
theorem listField_eq_ok_iff {field : String} {items : List Value} :
    listField name field fields = .ok items ↔ fields.Lists field items := by
  unfold listField Fields.Lists
  cases Value.field? fields field with
  | none => simp
  | some given =>
    rw [Option.map_some]
    cases unfolded : given.unfold with
    | list parts => simp [unfolded]
    | _ => simp [unfolded]

/-- A required field that is no list is at fault. -/
theorem listField_eq_error {field : String} (named : fields.Named name)
    (required : field ∈ ["keys", "values"]) (failed : listField name field fields = .error e) :
    fields.Raises index e := by
  unfold listField at failed
  cases found : Value.field? fields field with
  | none =>
    rw [found] at failed
    cases failed
    exact ⟨_, .fieldMissing named required found, rfl⟩
  | some given =>
    rw [found, Option.map_some] at failed
    split at failed
    · contradiction
    · cases failed
    · rename_i parts other unfolded
      cases failed
      refine ⟨_, .fieldNotList named required found fun items list => ?_, rfl⟩
      exact other items ((Option.some.inj unfolded).symm.trans list)

/-- The type of a name. -/
theorem ofName?_eq_some_iff {s : String} {kind : ValueKind} :
    ValueKind.ofName? s = some kind ↔ s = kind.name := by
  constructor
  · intro found
    have same := List.find?_some found
    exact (of_decide_eq_true same).symm
  · rintro rfl
    cases kind <;> rfl

/-- The type that a value names. -/
theorem bind_ofName?_eq_some_iff {given : Value} {kind : ValueKind} :
    given.content? >>= ValueKind.ofName? = some kind ↔ given.content? = some kind.name := by
  rw [Option.bind_eq_bind, Option.bind_eq_some_iff]
  simp only [ofName?_eq_some_iff, exists_eq_right]

/-- The declared type is that of its name. -/
theorem declaredKind_eq_ok_iff {kind : ValueKind} :
    declaredKind name fields = .ok kind ↔ fields.Typed kind := by
  unfold declaredKind Fields.getD
  cases found : Value.field? fields "value_type" with
  | none =>
    constructor
    · intro declared
      cases declared
      exact .undeclared found
    · intro typed
      cases typed with
      | undeclared => rfl
      | declared given => simp [found] at given
  | some given =>
    have typed : fields.Typed kind ↔ given.content? = some kind.name := by
      constructor
      · intro typed
        cases typed with
        | undeclared absent => simp [found] at absent
        | declared found' names =>
          obtain rfl := Option.some.inj (found.symm.trans found')
          exact names
      · exact .declared found
    rw [typed, ← bind_ofName?_eq_some_iff, Option.getD_some]
    dsimp only
    split
    · rename_i other names
      rw [names, Except.ok.injEq, Option.some.injEq]
    · rename_i names
      simp [names]

/-- A declared type without a name of a type is at fault. -/
theorem declaredKind_eq_error (named : fields.Named name)
    (failed : declaredKind name fields = .error e) : fields.Raises index e := by
  unfold declaredKind Fields.getD at failed
  cases found : Value.field? fields "value_type" with
  | none =>
    rw [found] at failed
    cases failed
  | some given =>
    rw [found, Option.getD_some] at failed
    cases names : given.content? >>= ValueKind.ofName? with
    | some kind =>
      simp only [names] at failed
      cases failed
    | none =>
      simp only [names] at failed
      cases failed
      refine ⟨_, .kindInvalid named found fun kind content => ?_, rfl⟩
      rw [bind_ofName?_eq_some_iff.mpr content] at names
      cases names

/-- The name that is found is declared. -/
theorem declaredName_eq_ok_iff_named :
    declaredName index fields = .ok name ↔ fields.Named name := by
  rw [declaredName_eq_ok_iff, Option.bind_eq_bind, Option.bind_eq_some_iff]
  exact ⟨fun ⟨text, valid⟩ => ⟨text, valid⟩, fun ⟨text, valid⟩ => ⟨text, valid⟩⟩

/-- A name that is not declared is at fault. -/
theorem declaredName_eq_error (failed : declaredName index fields = .error e) :
    fields.Raises index e := by
  unfold declaredName at failed
  cases found : Value.field? fields "name" with
  | none =>
    rw [found] at failed
    cases failed
    exact ⟨_, .nameMissing found, rfl⟩
  | some given =>
    simp only [found] at failed
    cases text : given.content? with
    | none =>
      simp only [text] at failed
      cases failed
      exact ⟨_, .nameNotText found text, rfl⟩
    | some name =>
      simp only [text] at failed
      split at failed
      · cases failed
      · rename_i invalid
        cases failed
        exact ⟨_, .nameInvalid found text (Bool.not_eq_true _ ▸ invalid), rfl⟩

/-- The fields of a name that pass the check are well formed. -/
theorem checkFields_eq_ok_iff_wellFormed (named : fields.Named name) :
    checkFields name fields = .ok () ↔ fields.WellFormed name := by
  simp only [checkFields_eq_ok_iff, listField_eq_ok_iff, declaredKind_eq_ok_iff,
    admits_iff_conforms, Option.isSome_iff_exists]
  constructor
  · rintro ⟨keys, values, kind, keysListed, valuesListed, typed, texts, conform, documented⟩
    exact ⟨named, ⟨keys, keysListed, texts⟩, ⟨values, kind, valuesListed, typed, conform⟩,
      documented⟩
  · rintro ⟨-, ⟨keys, keysListed, texts⟩, ⟨values, kind, valuesListed, typed, conform⟩, documented⟩
    exact ⟨keys, values, kind, keysListed, valuesListed, typed, texts, conform, documented⟩

/-- The first item of which a property does not hold. -/
theorem of_firstWithout {p : Value → Bool} {items : List Value} {v : Value} {i : Nat}
    (found : firstWithout p items = some (v, i)) : items[i]? = some v ∧ p v = false := by
  constructor
  · exact List.mem_zipIdx_iff_getElem?.mp (List.mem_of_find?_eq_some found)
  · simpa using List.find?_some found

/-- Fields of a name that fail the check are at fault. -/
theorem checkFields_eq_error (named : fields.Named name)
    (failed : checkFields name fields = .error e) : fields.Raises index e := by
  rcases bind_eq_error_iff.mp failed with failed | ⟨keys, keysListed, failed⟩
  · exact listField_eq_error named (by simp) failed
  rcases bind_eq_error_iff.mp failed with failed | ⟨values, valuesListed, failed⟩
  · exact listField_eq_error named (by simp) failed
  rw [listField_eq_ok_iff] at keysListed valuesListed
  cases texts : firstWithout (·.content?.isSome) keys with
  | some item =>
    obtain ⟨key, i⟩ := item
    obtain ⟨at_i, other⟩ := of_firstWithout texts
    simp only [texts] at failed
    cases failed
    refine ⟨_, .keyNotText named keysListed at_i ?_, rfl⟩
    simpa using other
  | none =>
    simp only [texts] at failed
    rcases bind_eq_error_iff.mp failed with failed | ⟨kind, declared, failed⟩
    · exact declaredKind_eq_error named failed
    rw [declaredKind_eq_ok_iff] at declared
    cases admitted : firstWithout kind.admits values with
    | some item =>
      obtain ⟨v, i⟩ := item
      obtain ⟨at_i, other⟩ := of_firstWithout admitted
      simp only [admitted] at failed
      cases failed
      refine ⟨_, .valueMismatch named declared valuesListed at_i fun conforms => ?_, rfl⟩
      rw [admits_iff_conforms.mpr conforms] at other
      cases other
    | none =>
      simp only [admitted] at failed
      cases found : Value.field? fields "doc" with
      | none =>
        simp only [found] at failed
        cases failed
      | some doc =>
        simp only [found] at failed
        split at failed
        · cases failed
        · rename_i other
          cases failed
          exact ⟨_, .docNotText named found (by simpa using other), rfl⟩

/-- A lookup has one name. -/
theorem Fields.Named.unique {other : String} (named : fields.Named name)
    (named' : fields.Named other) : name = other := by
  obtain ⟨given, found, text⟩ := named.text
  obtain ⟨given', found', text'⟩ := named'.text
  obtain rfl := Option.some.inj (found.symm.trans found')
  exact Option.some.inj (text.symm.trans text')

/-- A field has one list of items. -/
theorem Fields.Lists.unique {field : String} {items items' : List Value}
    (listed : fields.Lists field items) (listed' : fields.Lists field items') : items = items' := by
  obtain ⟨given, found, list⟩ := listed
  obtain ⟨given', found', list'⟩ := listed'
  obtain rfl := Option.some.inj (found.symm.trans found')
  exact Value.list.inj (list.symm.trans list')

/-- The values are declared with one type. -/
theorem Fields.Typed.unique {kind kind' : ValueKind} (typed : fields.Typed kind)
    (typed' : fields.Typed kind') : kind = kind' := by
  rw [← @declaredKind_eq_ok_iff _ ""] at typed typed'
  exact Except.ok.inj (typed.symm.trans typed')

/-- Required fields of a well-formed lookup are lists. -/
theorem Fields.WellFormed.exists_lists {field : String} (formed : fields.WellFormed name)
    (required : field ∈ ["keys", "values"]) : ∃ items, fields.Lists field items := by
  simp only [List.mem_cons, List.not_mem_nil, or_false] at required
  rcases required with rfl | rfl
  · obtain ⟨keys, listed, -⟩ := formed.keys
    exact ⟨keys, listed⟩
  · obtain ⟨values, kind, listed, -⟩ := formed.values
    exact ⟨values, listed⟩

/-- Well-formed fields are not at fault. -/
theorem Fields.LookupFault.not_wellFormed {fault : FormatFault}
    (blamed : fields.LookupFault index fault) (name : String) : ¬ fields.WellFormed name := by
  intro formed
  cases blamed with
  | nameMissing absent =>
    obtain ⟨given, found, -⟩ := formed.named.text
    simp [absent] at found
  | nameNotText found other =>
    obtain ⟨given, found', text⟩ := formed.named.text
    obtain rfl := Option.some.inj (found.symm.trans found')
    simp [other] at text
  | nameInvalid found text invalid =>
    obtain ⟨given, found', text'⟩ := formed.named.text
    obtain rfl := Option.some.inj (found.symm.trans found')
    obtain rfl := Option.some.inj (text.symm.trans text')
    simp [formed.named.valid] at invalid
  | fieldMissing _ required absent =>
    obtain ⟨items, given, found, -⟩ := formed.exists_lists required
    simp [absent] at found
  | fieldNotList _ required found other =>
    obtain ⟨items, given, found', list⟩ := formed.exists_lists required
    obtain rfl := Option.some.inj (found.symm.trans found')
    exact other items list
  | keyNotText _ listed at_i other =>
    obtain ⟨keys, listed', texts⟩ := formed.keys
    obtain rfl := listed.unique listed'
    obtain ⟨s, text⟩ := texts _ (List.mem_of_getElem? at_i)
    simp [other] at text
  | kindInvalid _ found other =>
    obtain ⟨values, kind, -, typed, -⟩ := formed.values
    cases typed with
    | undeclared absent => simp [absent] at found
    | declared found' names =>
      obtain rfl := Option.some.inj (found.symm.trans found')
      exact other _ names
  | valueMismatch _ typed listed at_i other =>
    obtain ⟨values, kind, listed', typed', conform⟩ := formed.values
    obtain rfl := listed.unique listed'
    obtain rfl := typed.unique typed'
    exact other (conform _ (List.mem_of_getElem? at_i))
  | docNotText _ found other =>
    obtain ⟨s, text⟩ := formed.documented _ found
    simp [other] at text

end Lookup

/-! ### Declared lookups -/

namespace Value

/-- `given.DeclaresAs x`: the value is a mapping that declares a lookup under a name. -/
def DeclaresAs (given : Value) (x : String × Fields) : Prop :=
  given.unfold = .dict x.2 ∧ x.2.WellFormed x.1

/-- The faults of the lookup with an index. -/
inductive LookupFault (given : Value) (index : Nat) : FormatFault → Prop where
  | notMapping (other : ∀ fields, given.unfold ≠ .dict fields) :
      LookupFault given index (.lookupNotMapping index)
  | mapping {fields : Fields} {fault : FormatFault} (mapping : given.unfold = .dict fields)
      (blamed : fields.LookupFault index fault) : LookupFault given index fault

/-- A value declares one lookup. -/
theorem DeclaresAs.unique {given : Value} {x y : String × Fields} (declares : given.DeclaresAs x)
    (declares' : given.DeclaresAs y) : x = y := by
  obtain ⟨mapping, formed⟩ := declares
  obtain ⟨mapping', formed'⟩ := declares'
  have fields : x.2 = y.2 := Value.dict.inj (mapping.symm.trans mapping')
  have names : x.1 = y.1 := formed.named.unique (fields ▸ formed'.named)
  exact Prod.ext names fields

/-- A lookup at fault is not declared. -/
theorem LookupFault.not_declaresAs {given : Value} {index : Nat} {fault : FormatFault}
    (blamed : given.LookupFault index fault) (x : String × Fields) : ¬ given.DeclaresAs x := by
  rintro ⟨mapping, formed⟩
  cases blamed with
  | notMapping other => exact other _ mapping
  | mapping mapping' blamed =>
    obtain rfl := Value.dict.inj (mapping.symm.trans mapping')
    exact blamed.not_wellFormed _ formed

end Value

/-- A lookup is accepted when it is declared. -/
theorem checkLookup_eq_ok_iff {index : Nat} {given : Value} {x : String × Fields} :
    checkLookup index given = .ok x ↔ given.DeclaresAs x := by
  obtain ⟨name, fields⟩ := x
  constructor
  · intro accepted
    have checked := of_checkLookup accepted
    unfold checkLookup at accepted
    split at accepted
    · rename_i parts mapping
      obtain ⟨n, named, accepted⟩ := bind_eq_ok_iff.mp accepted
      obtain ⟨⟨⟩, -, accepted⟩ := bind_eq_ok_iff.mp accepted
      cases accepted
      rw [declaredName_eq_ok_iff_named] at named
      exact ⟨mapping, (checkFields_eq_ok_iff_wellFormed named).mp checked⟩
    · cases accepted
  · rintro ⟨mapping, formed⟩
    have named : declaredName index fields = .ok name :=
      declaredName_eq_ok_iff_named.mpr formed.named
    have checked := (checkFields_eq_ok_iff_wellFormed formed.named).mpr formed
    have accepted := checkLookup_eq_ok named checked
    unfold checkLookup at accepted ⊢
    rw [mapping]
    exact accepted

/-- A lookup that is not accepted is at fault. -/
theorem checkLookup_eq_error {index : Nat} {given : Value} {e : FormatFault}
    (failed : checkLookup index given = .error e) :
    ∃ fault, given.LookupFault index fault ∧ e = fault.raised := by
  unfold checkLookup at failed
  split at failed
  · rename_i fields mapping
    have raises : Fields.Raises fields index e := by
      rcases bind_eq_error_iff.mp failed with failed | ⟨name, named, failed⟩
      · exact declaredName_eq_error failed
      rw [declaredName_eq_ok_iff_named] at named
      rcases bind_eq_error_iff.mp failed with failed | ⟨-, -, failed⟩
      · exact checkFields_eq_error named failed
      · cases failed
    obtain ⟨fault, blamed, shown⟩ := raises
    exact ⟨fault, .mapping mapping blamed, shown⟩
  · rename_i other
    cases failed
    exact ⟨_, .notMapping other, rfl⟩

end KeyTree
