/-
# Faults of accepted declarations

A declaration that passes the check can still fail to give a lookup. Most of what goes wrong is
documented: a value of a lookup of classes names no class, or the keys and values make no key set.
Three kinds of values that pass the check can end in another fault: an integer that is beyond the
range of floating-point numbers, the name of a class that starts with a dot and holds another, and
the name of a class that leads to a module or an attribute which raises an exception of its own.

* `ConversionFault.Documented` — the documented faults.
* `toFloat_eq_error_iff`, `ValueKind.convert_eq_error_iff` — how the conversion of a value fails.
* `Fields.Declares.tooLarge_iff`, `Fields.Declares.relativeModule_iff`,
  `Fields.Declares.raised_iff` — when an accepted declaration has one of the other faults.
* `documented_unless` — it has no further one that is not documented.
-/

import KeyTree.Proofs.Class.Resolution
import KeyTree.Proofs.Declaration.Accepted
import KeyTree.Proofs.Number.Range

namespace KeyTree

/-- The faults that a conversion is documented to have: a value names no class, which is an error
about the value, or the keys and values make no key set. -/
inductive ConversionFault.Documented : ConversionFault → Prop where
  | className {lookup : Value} {fault : ClassNameFault} (ofValue : fault.isValueError = true) :
      Documented (.className lookup fault)
  | build {fault : BuildFault} (ofKeys : fault.OfKeys) : Documented (.build fault)

/-! ### Values -/

/-- A number that may be declared as a floating-point number is none when it is an integer beyond
the range. -/
theorem toFloat_eq_error_iff {v : Value} (admitted : ValueKind.float.admits v = true)
    {fault : FloatFault} :
    toFloat v = .error fault ↔
      fault = .tooLarge ∧ ∃ n, v.number? = some (.int n) ∧ Binary64.overflowBound ≤ n.natAbs := by
  obtain ⟨number, -⟩ := (Bool.and_eq_true _ _).mp admitted
  obtain ⟨x, isNumber⟩ := Option.isSome_iff_exists.mp number
  rw [toFloat, isNumber]
  cases x with
  | float x => simp
  | int n =>
    dsimp only
    cases near : Binary64.ofInt? n with
    | none =>
      have beyond := Binary64.ofInt?_eq_none_iff.mp near
      simp [beyond, eq_comm]
    | some x =>
      have inside : ¬ Binary64.overflowBound ≤ n.natAbs := by
        rw [← Binary64.ofInt?_eq_none_iff, near]
        exact nofun
      simp [inside]

namespace ValueKind

variable {env : Environment} {kind : ValueKind} {fields : Fields} {name v : Value}

/-- The conversion of a value fails when it names no class or is no number. -/
theorem convert_eq_error_iff (named : Value.field? fields "name" = some name)
    {fault : ConversionFault} :
    kind.convert env fields v = .error fault ↔
      (kind = .type ∧ ∃ cause, env.resolve v = .error cause ∧ fault = .className name cause) ∨
        (kind = .float ∧ ∃ cause, toFloat v = .error cause ∧ fault = .float cause) := by
  rw [convert, requiredField_eq_ok_iff.mpr named, bind_eq_error_iff]
  cases kind with
  | type =>
    simp only [reduceCtorEq, false_or, false_and, or_false, true_and, Except.ok.injEq,
      exists_eq_left', map_eq_error_iff, mapError_eq_error_iff, eq_comm (b := fault)]
  | float =>
    simp only [reduceCtorEq, false_or, false_and, true_and, Except.ok.injEq,
      exists_eq_left', map_eq_error_iff, mapError_eq_error_iff, eq_comm (b := fault)]
  | any | bool | int | str => simp [pure, Except.pure]

end ValueKind

/-! ### Declarations -/

section Declarations

variable {env : Environment} {fields : Fields} {name : String} {kind : ValueKind}
  {keys : List Text} {values : List Value}

/-- The name of a declared lookup is there. -/
theorem Fields.Declares.exists_name (declares : fields.Declares name kind keys values) :
    ∃ given, Value.field? fields "name" = some given := by
  obtain ⟨given, named, -⟩ := Option.bind_eq_some_iff.mp declares.named
  exact ⟨given, named⟩

/-- An accepted declaration fails by an integer beyond the range exactly when it declares one among
floating-point numbers. -/
theorem Fields.Declares.tooLarge_iff (declares : fields.Declares name kind keys values) :
    lookupOfFields env fields = .error (.float .tooLarge) ↔
      kind = .float ∧ ∃ v ∈ values, ∃ n, v.number? = some (.int n) ∧
        Binary64.overflowBound ≤ n.natAbs := by
  obtain ⟨given, named⟩ := declares.exists_name
  constructor
  · intro failed
    rcases declares.of_error failed with untaken | ⟨cause, -, other⟩
    · obtain ⟨before, v, after, rfl, -, refused⟩ := mapM_eq_error_iff.mp untaken
      rcases (ValueKind.convert_eq_error_iff named).mp refused with
        ⟨-, cause, -, other⟩ | ⟨rfl, cause, tooLarge, -⟩
      · cases other
      · have member : v ∈ before ++ v :: after := List.mem_append_right _ List.mem_cons_self
        obtain ⟨-, beyond⟩ := (toFloat_eq_error_iff (declares.admitted v member)).mp tooLarge
        exact ⟨rfl, v, member, beyond⟩
    · cases other
  · rintro ⟨rfl, v, member, beyond⟩
    refine declares.error_of_mapM ?_
    -- One value cannot be taken, and the first such value has the same fault.
    cases taken : values.mapM (ValueKind.float.convert env fields) with
    | ok stored =>
      obtain ⟨w, -, made⟩ := exists_of_forall₂ (forall₂_of_mapM_eq_ok taken) member
      have failed : toFloat v = .error .tooLarge :=
        (toFloat_eq_error_iff (declares.admitted v member)).mpr ⟨rfl, beyond⟩
      cases (ValueKind.convert_eq_ok_iff named).mp made with
      | number converted => cases failed.symm.trans converted
      | same scalar => exact absurd scalar (by decide)
    | error fault =>
      obtain ⟨before, w, after, rfl, -, refused⟩ := mapM_eq_error_iff.mp taken
      rcases (ValueKind.convert_eq_error_iff named).mp refused with
        ⟨other, -⟩ | ⟨-, cause, failed, rfl⟩
      · cases other
      · obtain ⟨rfl, -⟩ := (toFloat_eq_error_iff (declares.admitted w
          (List.mem_append_right _ List.mem_cons_self))).mp failed
        rfl

/-- An accepted declaration fails by a fault of the name of a class exactly when it declares such a
name among classes, and only names of classes in front of it. -/
theorem Fields.Declares.className_iff (declares : fields.Declares name kind keys values)
    {cause : ClassNameFault} :
    (∃ lookup, lookupOfFields env fields = .error (.className lookup cause)) ↔
      kind = .type ∧ ∃ before v after, values = before ++ v :: after ∧
        (∀ w ∈ before, ∃ c, env.resolve w = .ok c) ∧ env.resolve v = .error cause := by
  obtain ⟨given, named⟩ := declares.exists_name
  constructor
  · rintro ⟨lookup, failed⟩
    rcases declares.of_error failed with untaken | ⟨other, -, same⟩
    · obtain ⟨before, v, after, rfl, sound, refused⟩ := mapM_eq_error_iff.mp untaken
      rcases (ValueKind.convert_eq_error_iff named).mp refused with
        ⟨rfl, cause', unresolved, same⟩ | ⟨-, other, -, same⟩
      · cases same
        refine ⟨rfl, before, v, after, rfl, fun w member => ?_, unresolved⟩
        obtain ⟨r, made⟩ := sound w member
        cases (ValueKind.convert_eq_ok_iff named).mp made with
        | named resolved => exact ⟨_, resolved⟩
        | same scalar => exact absurd scalar (by decide)
      · cases same
    · cases same
  · rintro ⟨rfl, before, v, after, rfl, sound, failed⟩
    refine ⟨given, declares.error_of_mapM (mapM_eq_error_iff.mpr ⟨before, v, after, rfl, ?_,
      (ValueKind.convert_eq_error_iff named).mpr (.inl ⟨rfl, _, failed, rfl⟩)⟩)⟩
    intro w member
    obtain ⟨c, resolved⟩ := sound w member
    exact ⟨_, (ValueKind.convert_eq_ok_iff named).mpr (.named resolved)⟩

/-- An accepted declaration fails by a relative module exactly when it declares the name of one
among classes, and only names of classes in front of it. -/
theorem Fields.Declares.relativeModule_iff (declares : fields.Declares name kind keys values) :
    (∃ lookup module,
        lookupOfFields env fields = .error (.className lookup (.relativeModule module))) ↔
      kind = .type ∧ ∃ before v after dotted rest, values = before ++ v :: after ∧
        (∀ w ∈ before, ∃ c, env.resolve w = .ok c) ∧ v.content? = some dotted ∧
        dotted.toList = '.' :: rest ∧ '.' ∈ rest := by
  constructor
  · rintro ⟨lookup, module, failed⟩
    obtain ⟨rfl, before, v, after, rfl, sound, unresolved⟩ :=
      declares.className_iff.mp ⟨lookup, failed⟩
    obtain ⟨dotted, rest, content, starts, more, -⟩ :=
      Environment.resolve_eq_relativeModule_iff.mp unresolved
    exact ⟨rfl, before, v, after, dotted, rest, rfl, sound, content, starts, more⟩
  · rintro ⟨rfl, before, v, after, dotted, rest, rfl, sound, content, starts, more⟩
    have failed : env.resolve v = .error (.relativeModule (joinDots (dottedParts dotted).dropLast)) :=
      Environment.resolve_eq_relativeModule_iff.mpr ⟨dotted, rest, content, starts, more, rfl⟩
    obtain ⟨lookup, failed⟩ := declares.className_iff.mpr
      ⟨rfl, before, v, after, rfl, sound, failed⟩
    exact ⟨lookup, _, failed⟩

/-- An accepted declaration fails by an exception exactly when it declares a name among classes
that leads to it, and only names of classes in front of it. -/
theorem Fields.Declares.raised_iff (declares : fields.Declares name kind keys values)
    {exception : Raised} :
    (∃ lookup, lookupOfFields env fields = .error (.className lookup (.raised exception))) ↔
      kind = .type ∧ ∃ before v after dotted, values = before ++ v :: after ∧
        (∀ w ∈ before, ∃ c, env.resolve w = .ok c) ∧ v.content? = some dotted ∧ dotted ≠ "" ∧
        env.Raises dotted exception := by
  rw [declares.className_iff]
  simp only [Environment.resolve_eq_raised_iff]
  constructor
  · rintro ⟨rfl, before, v, after, rfl, sound, dotted, raises⟩
    exact ⟨rfl, before, v, after, dotted, rfl, sound, raises⟩
  · rintro ⟨rfl, before, v, after, dotted, rfl, sound, raises⟩
    exact ⟨rfl, before, v, after, rfl, sound, dotted, raises⟩

/-- An accepted declaration gives a lookup or has a documented fault, unless it declares an integer
beyond the range among floating-point numbers or, behind names of classes, the name of a relative
module or a name that leads to an exception which is no error about a value. -/
theorem documented_unless {index : Nat} {given : Value}
    (accepted : checkLookup index given = .ok (name, fields)) :
    ∃ kind keys values, fields.Declares name kind keys values ∧
      (∀ fault, lookupOfFields env fields = .error fault →
        fault.Documented ∨ fault = .float .tooLarge ∨
          (∃ lookup module, fault = .className lookup (.relativeModule module)) ∨
          ∃ lookup exception, fault = .className lookup (.raised exception) ∧
            exception.kind ≠ .valueError) ∧
      (lookupOfFields env fields = .error (.float .tooLarge) ↔
        kind = .float ∧ ∃ v ∈ values, ∃ n, v.number? = some (.int n) ∧
          Binary64.overflowBound ≤ n.natAbs) ∧
      ((∃ lookup module,
          lookupOfFields env fields = .error (.className lookup (.relativeModule module))) ↔
        kind = .type ∧ ∃ before v after dotted rest, values = before ++ v :: after ∧
          (∀ w ∈ before, ∃ c, env.resolve w = .ok c) ∧ v.content? = some dotted ∧
          dotted.toList = '.' :: rest ∧ '.' ∈ rest) ∧
      ∀ exception,
        (∃ lookup, lookupOfFields env fields = .error (.className lookup (.raised exception))) ↔
          kind = .type ∧ ∃ before v after dotted, values = before ++ v :: after ∧
            (∀ w ∈ before, ∃ c, env.resolve w = .ok c) ∧ v.content? = some dotted ∧ dotted ≠ "" ∧
            env.Raises dotted exception := by
  obtain ⟨kind, keys, values, declares⟩ := checkLookup_declares accepted
  refine ⟨kind, keys, values, declares, fun fault failed => ?_, declares.tooLarge_iff,
    declares.relativeModule_iff, fun exception => declares.raised_iff⟩
  obtain ⟨lookup, named⟩ := declares.exists_name
  rcases declares.of_error failed with untaken | ⟨cause, ofKeys, rfl⟩
  · obtain ⟨before, v, after, rfl, -, refused⟩ := mapM_eq_error_iff.mp untaken
    rcases (ValueKind.convert_eq_error_iff named).mp refused with
      ⟨-, cause, -, rfl⟩ | ⟨rfl, cause, beyond, rfl⟩
    · cases cause with
      | relativeModule module => exact .inr (.inr (.inl ⟨lookup, module, rfl⟩))
      | raised exception =>
        by_cases ofValue : exception.kind = .valueError
        · exact .inl (.className (by simpa [ClassNameFault.isValueError] using ofValue))
        · exact .inr (.inr (.inr ⟨lookup, exception, rfl, ofValue⟩))
      | notName | notClass | emptyModule => exact .inl (.className rfl)
    · obtain ⟨rfl, -⟩ := (toFloat_eq_error_iff (declares.admitted v
        (List.mem_append_right _ List.mem_cons_self))).mp beyond
      exact .inr (.inl rfl)
  · exact .inl (.build ofKeys)

end Declarations

/-! ### Undocumented faults -/

/-- The integer 10⁴⁰⁰ is accepted among floating-point numbers, and is beyond the range. -/
theorem documented_unless_tooLarge :
    checkLookup 0 (.dict (singleDeclaration .float (.int (10 ^ 400)))) =
        .ok ("f", singleDeclaration .float (.int (10 ^ 400))) ∧
      lookupOfFields .known (singleDeclaration .float (.int (10 ^ 400))) =
        .error (.float .tooLarge) ∧
      ¬ (ConversionFault.float .tooLarge).Documented := by
  have beyond : Binary64.overflowBound ≤ (10 ^ 400 : Int).natAbs := by decide +kernel
  generalize (10 ^ 400 : Int) = n at beyond ⊢
  have declares := @declares_singleDeclaration .float (.int n) rfl
  obtain ⟨kind, keys, values, declares', -, tooLarge, -, -⟩ :=
    @documented_unless .known _ _ _ _ (declares.checkLookup_eq 0)
  obtain ⟨-, rfl, -, rfl⟩ := declares.unique declares'
  refine ⟨declares.checkLookup_eq 0, tooLarge.mpr ⟨rfl, _, List.mem_singleton_self _, n, rfl,
    beyond⟩, ?_⟩
  rintro ⟨⟩

/-- The name "..a" is accepted among names of classes, and leads to a relative module. -/
theorem relative_undocumented :
    checkLookup 0 (.dict (singleDeclaration .type (.str "..a"))) =
        .ok ("f", singleDeclaration .type (.str "..a")) ∧
      lookupOfFields .known (singleDeclaration .type (.str "..a")) =
        .error (.className (.str "f") (.relativeModule ".")) ∧
      ¬ (ConversionFault.className (.str "f") (.relativeModule ".")).Documented := by
  have declares := @declares_singleDeclaration .type (.str "..a") rfl
  have named : Value.field? (singleDeclaration .type (.str "..a")) "name" = some (.str "f") := by
    cbv
  have failed : Environment.known.resolve (.str "..a") = .error (.relativeModule ".") := rfl
  refine ⟨declares.checkLookup_eq 0, declares.error_of_mapM (mapM_eq_error_iff.mpr
    ⟨[], .str "..a", [], rfl, List.forall_mem_nil _, ?_⟩), ?_⟩
  · exact (ValueKind.convert_eq_error_iff named).mpr (.inl ⟨rfl, _, failed, rfl⟩)
  · rintro ⟨⟨⟩⟩

end KeyTree
