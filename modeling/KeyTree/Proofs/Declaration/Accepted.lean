/-
# Accepted declarations

A declaration that passes the check declares a name, texts as keys, and values that its type admits.
No step of its conversion can fail but two: a value cannot be taken as the type wants it, or the
keys and the values taken make no key set.

* `Fields.Declares` — what a declaration declares; `checkLookup_declares`,
  `Fields.Declares.checkLookup_eq` — the accepted declarations are those that declare a lookup.
* `Fields.Declares.lookupOfFields_eq` — the conversion of an accepted declaration.
* `Fields.Declares.of_ok`, `Fields.Declares.of_error` — how the conversion ends.
* `singleDeclaration`, `lookupOfFields_singleDeclaration` — declarations of one key.
-/

import KeyTree.Proofs.Declaration.Conformity
import KeyTree.Proofs.Lookup.Faults

namespace KeyTree

/-- `fields.Declares name kind keys values`: the fields declare a lookup of this name, of these
keys, and of these values of a type. -/
structure Fields.Declares (fields : Fields) (name : String) (kind : ValueKind) (keys : List Text)
    (values : List Value) : Prop where
  named : Value.field? fields "name" >>= Value.content? = some name
  valid : Text.isFunctionName name = true
  declared : declaredKind name fields = .ok kind
  keysListed : listField name "keys" fields = .ok (keys.map Text.toValue)
  valuesListed : listField name "values" fields = .ok values
  admitted : ∀ v ∈ values, kind.admits v = true
  documented : ∀ doc, Value.field? fields "doc" = some doc → doc.content?.isSome = true

/-- A declared name is the text of the field, and can name a function. -/
theorem declaredName_eq_ok_iff {index : Nat} {fields : Fields} {name : String} :
    declaredName index fields = .ok name ↔
      Value.field? fields "name" >>= Value.content? = some name ∧
        Text.isFunctionName name = true := by
  rw [Option.bind_eq_bind, declaredName]
  cases Value.field? fields "name" with
  | none => simp
  | some given =>
    dsimp only [Option.bind_some]
    cases given.content? with
    | none => simp
    | some text =>
      by_cases valid : Text.isFunctionName text = true
      · simp only [valid, if_true, Except.ok.injEq, Option.some.injEq]
        exact ⟨fun same => ⟨same, same ▸ valid⟩, And.left⟩
      · simp only [valid, Bool.false_eq_true, if_false, reduceCtorEq, Option.some.injEq, false_iff]
        rintro ⟨rfl, other⟩
        exact valid other

/-- An accepted declaration declares a lookup. -/
theorem checkLookup_declares {index : Nat} {given : Value} {name : String} {fields : Fields}
    (accepted : checkLookup index given = .ok (name, fields)) :
    ∃ kind keys values, fields.Declares name kind keys values := by
  obtain ⟨rawKeys, values, kind, keysListed, valuesListed, declared, texts, admitted, documented⟩ :=
    checkFields_eq_ok_iff.mp (of_checkLookup accepted)
  obtain ⟨keys, rfl⟩ := exists_texts texts
  have named : declaredName index fields = .ok name := by
    unfold checkLookup at accepted
    split at accepted
    · obtain ⟨n, named, accepted⟩ := bind_eq_ok_iff.mp accepted
      obtain ⟨⟨⟩, -, accepted⟩ := bind_eq_ok_iff.mp accepted
      cases accepted
      exact named
    · cases accepted
  obtain ⟨isText, valid⟩ := declaredName_eq_ok_iff.mp named
  exact ⟨kind, keys, values, isText, valid, declared, keysListed, valuesListed, admitted,
    documented⟩

/-- The configuration and the lookups of an accepted file have been checked. -/
theorem DeclarationFile.of_ofFields {fields : Fields} {file : DeclarationFile}
    (accepted : DeclarationFile.ofFields fields = .ok file) :
    checkConfig (fields.getD "config" .none) = .ok file.config ∧
      ∃ items, checkLookups [] 0 items = .ok file.lookups := by
  obtain ⟨config, configured, accepted⟩ := bind_eq_ok_iff.mp accepted
  obtain ⟨items, -, accepted⟩ := bind_eq_ok_iff.mp accepted
  obtain ⟨lookups, checked, accepted⟩ := bind_eq_ok_iff.mp accepted
  cases accepted
  exact ⟨configured, items, checked⟩

/-- The conversion of a value succeeds when the type takes it. -/
theorem ValueKind.convert_eq_ok_iff {env : Environment} {kind : ValueKind} {fields : Fields}
    {name v : Value} (named : Value.field? fields "name" = some name) {w : Value} :
    kind.convert env fields v = .ok w ↔ kind.Takes env v w := by
  refine ⟨takes_of_convert, fun takes => ?_⟩
  rw [convert, requiredField_eq_ok_iff.mpr named]
  cases takes with
  | named resolved =>
    exact map_eq_ok_iff.mpr ⟨_, mapError_eq_ok_iff.mpr resolved, rfl⟩
  | number converted =>
    exact map_eq_ok_iff.mpr ⟨_, mapError_eq_ok_iff.mpr converted, rfl⟩
  | same scalar =>
    cases kind with
    | any | bool | int | str => rfl
    | float | type => exact absurd scalar (by decide)

namespace Fields.Declares

variable {env : Environment} {fields : Fields} {name : String} {kind : ValueKind}
  {keys : List Text} {values : List Value}

/-- The fields declare one lookup only. -/
theorem unique (declares : fields.Declares name kind keys values) {name' : String}
    {kind' : ValueKind} {keys' : List Text} {values' : List Value}
    (declares' : fields.Declares name' kind' keys' values') :
    name = name' ∧ kind = kind' ∧ keys = keys' ∧ values = values' := by
  obtain rfl := Option.some.inj (declares.named.symm.trans declares'.named)
  refine ⟨rfl, Except.ok.inj (declares.declared.symm.trans declares'.declared), ?_,
    Except.ok.inj (declares.valuesListed.symm.trans declares'.valuesListed)⟩
  exact toValue_injective.list_map
    (Except.ok.inj (declares.keysListed.symm.trans declares'.keysListed))

/-- The declaration of a lookup is accepted. -/
theorem checkLookup_eq (declares : fields.Declares name kind keys values) (index : Nat) :
    checkLookup index (.dict fields) = .ok (name, fields) := by
  have texts : ∀ key ∈ keys.map Text.toValue, key.content?.isSome = true := by
    intro key member
    obtain ⟨text, -, rfl⟩ := List.mem_map.mp member
    rw [Value.content?, text?_toValue]
    rfl
  exact checkLookup_eq_ok (declaredName_eq_ok_iff.mpr ⟨declares.named, declares.valid⟩)
    (checkFields_eq_ok_iff.mpr ⟨_, values, kind, declares.keysListed, declares.valuesListed,
      declares.declared, texts, declares.admitted, declares.documented⟩)

/-- The conversion takes the values one by one and builds the lookup of the keys with them. -/
theorem lookupOfFields_eq (declares : fields.Declares name kind keys values) :
    ∃ given raw, Value.field? fields "name" = some given ∧ given.content? = some name ∧
      Value.field? fields "keys" = some raw ∧ raw.items = .ok (keys.map Text.toValue) ∧
      lookupOfFields env fields = (values.mapM (kind.convert env fields) >>= fun stored =>
        (Declared.mk raw (.list stored) (.cls kind.className) .ordinal given).lookup.mapError
          .build) := by
  obtain ⟨given, named, content⟩ := Option.bind_eq_some_iff.mp declares.named
  obtain ⟨raw, keysFound, keysListed⟩ := of_listField declares.keysListed
  obtain ⟨list, valuesFound, valuesListed⟩ := of_listField declares.valuesListed
  refine ⟨given, raw, named, content, keysFound, keysListed, ?_⟩
  rw [lookupOfFields, ofValue_of_declaredKind declares.declared,
    requiredField_eq_ok_iff.mpr valuesFound, requiredField_eq_ok_iff.mpr keysFound,
    requiredField_eq_ok_iff.mpr named]
  simp only [bind, Except.bind, Except.mapError, valuesListed]

/-- The lookup of an accepted declaration is that of its keys with the values taken. -/
theorem of_ok (declares : fields.Declares name kind keys values) {l : Lookup}
    (converted : lookupOfFields env fields = .ok l) :
    ∃ stored d, List.Forall₂ (kind.Takes env) values stored ∧ Declared.Lists d keys stored ∧
      d.valueType = .cls kind.className ∧ d.lookup = .ok l ∧ l.name.content? = some name := by
  obtain ⟨given, raw, -, content, -, listed, eq⟩ := @lookupOfFields_eq env _ _ _ _ _ declares
  rw [eq] at converted
  obtain ⟨stored, taken, built⟩ := bind_eq_ok_iff.mp converted
  have built := mapError_eq_ok_iff.mp built
  have lists : (Declared.mk raw (.list stored) (.cls kind.className) .ordinal given).Lists keys
      stored := ⟨listed, rfl, rfl⟩
  refine ⟨stored, _, (forall₂_of_mapM_eq_ok taken).imp fun v w => ValueKind.takes_of_convert,
    lists, rfl, built, ?_⟩
  obtain ⟨_, -, rfl⟩ := Declared.eq_of_lookup lists built
  exact content

/-- An accepted declaration without a lookup has a value that cannot be taken, or its keys and
values make no key set. -/
theorem of_error (declares : fields.Declares name kind keys values) {fault : ConversionFault}
    (failed : lookupOfFields env fields = .error fault) :
    values.mapM (kind.convert env fields) = .error fault ∨
      ∃ cause : BuildFault, cause.OfKeys ∧ fault = .build cause := by
  obtain ⟨given, raw, -, -, -, listed, eq⟩ := @lookupOfFields_eq env _ _ _ _ _ declares
  rw [eq] at failed
  rcases bind_eq_error_iff.mp failed with failed | ⟨stored, -, failed⟩
  · exact .inl failed
  · obtain ⟨cause, unbuilt, rfl⟩ := mapError_eq_error_iff.mp failed
    exact .inr ⟨cause, Declared.ofKeys_of_lookup ⟨listed, rfl, rfl⟩ rfl unbuilt, rfl⟩

/-- A value that cannot be taken ends the conversion. -/
theorem error_of_mapM (declares : fields.Declares name kind keys values) {fault : ConversionFault}
    (failed : values.mapM (kind.convert env fields) = .error fault) :
    lookupOfFields env fields = .error fault := by
  obtain ⟨given, raw, -, -, -, -, eq⟩ := @lookupOfFields_eq env _ _ _ _ _ declares
  rw [eq]
  exact bind_eq_error_iff.mpr (.inl failed)

end Fields.Declares

/-! ### Declarations of one key -/

/-- The declaration of one key with a value of a type. -/
def singleDeclaration (kind : ValueKind) (v : Value) : Fields :=
  [(.str "name", .str "f"), (.str "keys", .list [.str "a"]), (.str "values", .list [v]),
    (.str "value_type", .str kind.name)]

/-- The declaration of one key with a value that the type admits. -/
theorem declares_singleDeclaration {kind : ValueKind} {v : Value}
    (admitted : kind.admits v = true) :
    (singleDeclaration kind v).Declares "f" kind [⟨"a", .plain⟩] [v] := by
  have named : Value.field? (singleDeclaration kind v) "name" = some (.str "f") := by cbv
  have undocumented : Value.field? (singleDeclaration kind v) "doc" = none := by cbv
  refine ⟨by rw [named]; rfl, by decide, by cases kind <;> cbv, by cbv, by cbv, ?_, ?_⟩
  · exact List.forall_mem_singleton.mpr admitted
  · rw [undocumented]
    exact fun _ none => absurd none (Option.some_ne_none _).symm

/-- The lookup of one key with a value that the type takes. -/
def singleLookup (kind : ValueKind) (w : Value) : Lookup where
  root := .lengthTest 1 (.leaf ⟨⟨"a", .plain⟩, 0, w⟩) .miss
  keyCount := 1
  valueType := .cls kind.className
  default := kind.missValue
  name := .str "f"

/-- It is the lookup of the declaration. -/
theorem lookupOfFields_singleDeclaration {env : Environment} {kind : ValueKind} {v w : Value}
    (admitted : kind.admits v = true) (takes : kind.Takes env v w) :
    lookupOfFields env (singleDeclaration kind v) = .ok (singleLookup kind w) := by
  obtain ⟨given, raw, named, -, keysFound, -, eq⟩ :=
    @Fields.Declares.lookupOfFields_eq env _ _ _ _ _ (declares_singleDeclaration admitted)
  have name : Value.field? (singleDeclaration kind v) "name" = some (.str "f") := by cbv
  have keys : Value.field? (singleDeclaration kind v) "keys" = some (.list [.str "a"]) := by cbv
  obtain rfl := Option.some.inj (named.symm.trans name)
  obtain rfl := Option.some.inj (keysFound.symm.trans keys)
  have lists : (Declared.mk (.list [.str "a"]) (.list [w]) (.cls kind.className) .ordinal
      (.str "f")).Lists [⟨"a", .plain⟩] [w] := ⟨rfl, rfl, rfl⟩
  have built := Declared.lookup_eq_ok_of_tree lists ⟨by decide, rfl, by decide⟩ rfl
    (t := .lengthTest 1 (.leaf ⟨⟨"a", .plain⟩, 0, w⟩) .miss) (by cbv)
  have taken : [v].mapM (kind.convert env (singleDeclaration kind v)) = .ok [w] := by
    rw [List.mapM_cons, (ValueKind.convert_eq_ok_iff named).mpr takes]
    rfl
  rw [eq, taken]
  refine mapError_eq_ok_iff.mpr (built.trans ?_)
  rw [ValueKind.missValue_className]
  rfl

end KeyTree
