/-
# Names that are taken

A name that a function reads means what it is written for unless something takes it: a function of
the module, a variable of the function itself or, for the name of a builtin object, the import of a
module. The names of builtin functions are not taken by helpers, which carry underscores, nor by
variables, which have other names; the first name of a class can be taken by all of these. A lookup
with the name of the builtin objects takes them all from the functions behind it. Where nothing is
taken and the expression of each class leads to the class, every lookup answers under its name as it
does by itself.

* `Scope.resolves_module_iff`, `Scope.resolves_builtin_iff` — when a name means what it is written
  for.
* `Program.Takes` — what takes a name; `Program.not_resolves_iff` — nothing else does.
* `Program.clear_of_untaken` — where names mean what they are written for, literals do.
* `Program.answers_unless_captured` — the answers of the lookups of a module.
* `Program.builtin_captured` — a lookup that takes the name of a builtin class.
-/

import KeyTree.Proofs.Source.Binding

namespace KeyTree.Source

/-! ### What names mean -/

/-- A program binds a name when one of its functions does. -/
theorem Program.binder?_eq_none_iff {p : Program} {name : String} :
    p.binder? name = none ↔ name ∉ p.bound := by
  simp [binder?, bound, List.find?_eq_none]

namespace Scope

variable {scope : Scope} {name : String}

/-- What a name stands for that neither a variable nor a function takes. -/
theorem binding_of_free (own : name ∉ scope.function.locals) (free : name ∉ scope.program.bound) :
    scope.binding name =
      if name ∈ scope.program.roots then .module
      else if name ∈ presetNames then .preset
      else .builtin := by
  rw [binding, if_neg (by simpa using own), Program.binder?_eq_none_iff.mpr free]
  simp only [List.contains_iff_mem]

/-- What a name stands for that a variable or a function takes. -/
theorem read_of_taken (taken : name ∈ scope.function.locals ∨ name ∈ scope.program.bound) :
    ∃ b, scope.read name = .ok b ∧ b ≠ .module ∧ b ≠ .builtin := by
  by_cases own : name ∈ scope.function.locals
  · refine ⟨.variable, ?_, nofun, nofun⟩
    rw [read, binding, if_pos (by simpa using own)]
  · have bound := taken.resolve_left own
    obtain ⟨f, found⟩ := Option.ne_none_iff_exists'.mp
      (Program.binder?_eq_none_iff.not.mpr (not_not.mpr bound))
    refine ⟨.function f, ?_, nofun, nofun⟩
    rw [read, binding, if_neg (by simpa using own), found]

/-- The first name of a module means the module when it is imported and nothing takes it. -/
theorem resolves_module_iff :
    scope.Resolves (.module name) ↔
      name ∉ scope.function.locals ∧ name ∉ scope.program.bound ∧ name ∈ scope.program.roots := by
  rw [← and_assoc, ← not_or]
  by_cases taken : name ∈ scope.function.locals ∨ name ∈ scope.program.bound
  · obtain ⟨b, reads, other, -⟩ := read_of_taken taken
    refine iff_of_false (fun resolves => ?_) fun free => free.1 taken
    exact other (Except.ok.inj (reads.symm.trans resolves))
  · obtain ⟨own, free⟩ := not_or.mp taken
    rw [Resolves, and_iff_right taken]
    change scope.read name = .ok .module ↔ _
    rw [read, binding_of_free own free]
    by_cases imported : name ∈ scope.program.roots
    · simp [imported]
    · by_cases known : name ∈ presetNames
      · simp [imported, known]
      · simp only [imported, known, if_false, iff_false]
        split_ifs <;> simp

/-- The name of a builtin object means the object when nothing takes it and the builtin objects are
found. -/
theorem resolves_builtin_iff :
    scope.Resolves (.builtin name) ↔
      name ∉ scope.function.locals ∧ name ∉ scope.program.bound ∧ name ∉ scope.program.roots ∧
        name ∉ presetNames ∧ scope.losesBuiltins = false ∧ builtinsName ∉ scope.program.roots := by
  rw [← and_assoc, ← not_or]
  by_cases taken : name ∈ scope.function.locals ∨ name ∈ scope.program.bound
  · obtain ⟨b, reads, -, other⟩ := read_of_taken taken
    refine iff_of_false (fun resolves => ?_) fun free => free.1 taken
    exact other (Except.ok.inj (reads.symm.trans resolves))
  · obtain ⟨own, free⟩ := not_or.mp taken
    rw [Resolves, and_iff_right taken]
    change scope.read name = .ok .builtin ↔ _
    rw [read, binding_of_free own free]
    by_cases imported : name ∈ scope.program.roots
    · simp [imported]
    · by_cases known : name ∈ presetNames
      · simp [imported, known]
      · simp only [imported, known, if_false, not_false_iff, true_and, List.contains_iff_mem]
        split_ifs with loses taken
        · simp [loses]
        · simp [taken]
        · simp [loses, taken]

end Scope
/-! ### What takes a name -/

namespace Program

variable {docs : List (String × String)} {lookups : List (Value × Lookup)}
  {named : List (String × Lookup)} {p : Program} {f : Function}

/-- `Takes docs lookups p f g`: something takes the name from the function. A lookup takes its own
name, and one with the name of the builtin objects takes them from the functions behind its own. -/
inductive Takes (docs : List (String × String)) (lookups : List (Value × Lookup)) (p : Program)
    (f : Function) : Global → Prop where
  | lookup {g : Global} {given : Value × Lookup} {n : String} (member : given ∈ lookups)
      (valid : functionName given.1 = .ok n) (same : Text.normalForm n = g.name) :
      Takes docs lookups p f g
  | helper {g : Global} {helper : Function} {n : String} {number : Nat}
      (other : g.name ∉ builtinNames) (member : helper ∈ p.functions)
      (carries : helper.name = helperName n number)
      (same : Text.normalForm helper.name = g.name) : Takes docs lookups p f g
  | own {g : Global} (other : g.name ∉ builtinNames) (binds : g.name ∈ f.locals) :
      Takes docs lookups p f g
  | root {name : String} (imported : name ∈ p.roots) : Takes docs lookups p f (.builtin name)
  | preset {name : String} (other : name ∉ builtinNames) (known : name ∈ presetNames) :
      Takes docs lookups p f (.builtin name)
  | builtins {name : String} {given : Value × Lookup} {n : String} (member : given ∈ lookups)
      (valid : functionName given.1 = .ok n) (same : Text.normalForm n = builtinsName)
      (before : mainFunction n (docs.lookup n) given.2.root given.2.default ∈ p.earlier f) :
      Takes docs lookups p f (.builtin name)
  | builtinsRoot {name : String} (imported : builtinsName ∈ p.roots) :
      Takes docs lookups p f (.builtin name)

/-- The names that the functions of a module bind are those of its lookups and, if they are not
those of builtin functions, those of helpers. -/
theorem Assembles.mem_bound_iff (assembles : Assembles docs lookups named p) {name : String} :
    name ∈ p.bound ↔
      (∃ given ∈ lookups, ∃ n, functionName given.1 = .ok n ∧ Text.normalForm n = name) ∨
        name ∉ builtinNames ∧ ∃ helper ∈ p.functions, ∃ n number,
          helper.name = helperName n number ∧ Text.normalForm helper.name = name := by
  constructor
  · intro taken
    obtain ⟨g, member, same⟩ := List.mem_map.mp taken
    obtain ⟨x, inside, belongs⟩ := assembles.mem_functions_iff.mp member
    rcases List.mem_cons.mp belongs with rfl | helper
    · obtain ⟨v, valid, given⟩ := assembles.exists_given inside
      exact .inl ⟨_, given, x.1, valid, same⟩
    · obtain ⟨number, carries⟩ := exists_name_of_mem_helpersOf helper
      refine .inr ⟨?_, g, member, x.1, number, carries, same⟩
      rw [← same, carries]
      exact normalForm_helperName_not_mem_builtinNames x.1 number
  · rintro (⟨given, member, n, valid, same⟩ | ⟨-, helper, member, -, -, -, same⟩)
    · obtain ⟨n', valid', inside⟩ := assembles.exists_named member
      obtain rfl := Except.ok.inj (valid.symm.trans valid')
      have main := assembles.mem_functions_iff.mpr ⟨_, inside, List.mem_cons_self⟩
      exact List.mem_map.mpr ⟨_, main, same⟩
    · exact List.mem_map.mpr ⟨helper, member, same⟩

/-- The builtin objects are taken from a function by a lookup before it that has their name. -/
theorem Assembles.losesBuiltins_iff (assembles : Assembles docs lookups named p) :
    (p.scope f).losesBuiltins = true ↔
      ∃ given ∈ lookups, ∃ n, functionName given.1 = .ok n ∧ Text.normalForm n = builtinsName ∧
        mainFunction n (docs.lookup n) given.2.root given.2.default ∈ p.earlier f := by
  rw [Scope.losesBuiltins, List.any_eq_true]
  constructor
  · rintro ⟨g, before, same⟩
    have same := of_decide_eq_true same
    have member : g ∈ p.functions := (List.takeWhile_sublist _).subset before
    obtain ⟨x, inside, belongs⟩ := assembles.mem_functions_iff.mp member
    rcases List.mem_cons.mp belongs with rfl | helper
    · obtain ⟨v, valid, given⟩ := assembles.exists_given inside
      exact ⟨_, given, x.1, valid, same, before⟩
    · obtain ⟨number, carries⟩ := exists_name_of_mem_helpersOf helper
      rw [carries] at same
      exact absurd same (normalForm_helperName_ne_of_getLast? (by decide) x.1 number)
  · rintro ⟨given, -, n, -, same, before⟩
    exact ⟨_, before, decide_eq_true same⟩

/-- The first name of a class outside the builtin module is that of a module that is imported. -/
theorem mem_roots (member : f ∈ p.functions) {name : String} (reads : .module name ∈ f.globals) :
    name ∈ p.roots := by
  generalize which : Global.module name = g at reads
  cases Function.globalOf reads with
  | builtin => cases which
  | @literal v c written names =>
    rw [classGlobal] at which
    split at which
    · cases which
    · rename_i foreign
      obtain rfl := Global.module.inj which
      have needed : v.importedModule? = some c.module := by
        rw [Value.importedModule?, names]
        exact if_neg foreign
      have imported := mem_imports_iff.mpr ⟨v, List.mem_flatMap.mpr ⟨f, member, written⟩, needed⟩
      refine List.mem_map.mpr ⟨c.module, imported, ?_⟩
      obtain ⟨rest, parts⟩ := exists_dottedParts_eq_cons c.module
      rw [ClassName.root, ClassName.reference, if_neg foreign, dottedParts_append, parts]
      rfl

/-- A name that something takes is that of a variable or of a function, or the builtin object is not
found. -/
theorem Assembles.loses_of_takes (assembles : Assembles docs lookups named p) {g : Global}
    (takes : Takes docs lookups p f g) :
    g.name ∈ f.locals ∨ g.name ∈ p.bound ∨ ∃ name, g = .builtin name ∧
      (name ∈ p.roots ∨ name ∈ presetNames ∨ (p.scope f).losesBuiltins = true ∨
        builtinsName ∈ p.roots) := by
  cases takes with
  | lookup given valid same =>
    exact .inr (.inl (assembles.mem_bound_iff.mpr (.inl ⟨_, given, _, valid, same⟩)))
  | helper _ member _ same => exact .inr (.inl (List.mem_map.mpr ⟨_, member, same⟩))
  | own _ binds => exact .inl binds
  | root imported => exact .inr (.inr ⟨_, rfl, .inl imported⟩)
  | preset _ known => exact .inr (.inr ⟨_, rfl, .inr (.inl known)⟩)
  | builtins given valid same before =>
    have loses := assembles.losesBuiltins_iff.mpr ⟨_, given, _, valid, same, before⟩
    exact .inr (.inr ⟨_, rfl, .inr (.inr (.inl loses))⟩)
  | builtinsRoot imported => exact .inr (.inr ⟨_, rfl, .inr (.inr (.inr imported))⟩)

/-- A variable takes its name, and a function takes the name that it binds. -/
theorem Assembles.takes_of_bound (assembles : Assembles docs lookups named p) {g : Global}
    (taken : g.name ∈ f.locals ∨ g.name ∈ p.bound) : Takes docs lookups p f g := by
  rcases taken with own | taken
  · exact .own (not_mem_builtinNames_of_mem_locals own) own
  · rcases assembles.mem_bound_iff.mp taken with
      ⟨given, member, n, valid, same⟩ | ⟨other, helper, member, n, number, carries, same⟩
    · exact .lookup member valid same
    · exact .helper other member carries same

/-- A name that a function of a module reads means what it is written for unless something takes
it. -/
theorem not_resolves_iff (made : ofLookups docs lookups = .ok p) (member : f ∈ p.functions)
    {g : Global} (reads : g ∈ f.globals) :
    ¬ (p.scope f).Resolves g ↔ Takes docs lookups p f g := by
  obtain ⟨named, assembles⟩ := ofLookups_eq_ok_iff.mp made
  cases g with
  | module name =>
    have imported : name ∈ (p.scope f).program.roots := mem_roots member reads
    rw [Scope.resolves_module_iff, ← and_assoc, ← not_or, and_iff_left imported, not_not]
    refine ⟨assembles.takes_of_bound (g := .module name), fun takes => ?_⟩
    rcases assembles.loses_of_takes takes with lost | lost | ⟨_, ⟨⟩, -⟩
    · exact .inl lost
    · exact .inr lost
  | builtin name =>
    rw [Scope.resolves_builtin_iff]
    constructor
    · intro lost
      by_contra free
      refine lost ⟨fun own => free (assembles.takes_of_bound (.inl own)),
        fun taken => free (assembles.takes_of_bound (.inr taken)),
        fun imported => free (.root imported), fun known => free (.preset ?_ known), ?_,
        fun imported => free (.builtinsRoot imported)⟩
      · have apart : ∀ name ∈ presetNames, name ∉ builtinNames := by decide
        exact apart name known
      · by_contra loses
        obtain ⟨given, inside, n, valid, same, before⟩ :=
          assembles.losesBuiltins_iff.mp (Bool.eq_true_of_not_eq_false loses)
        exact free (.builtins inside valid same before)
    · rintro takes ⟨notOwn, notBound, notRoot, notPreset, kept, notImported⟩
      rcases assembles.loses_of_takes takes with lost | lost | ⟨_, ⟨⟩, lost | lost | lost | lost⟩
      · exact notOwn lost
      · exact notBound lost
      · exact notRoot lost
      · exact notPreset lost
      · exact Bool.false_ne_true (kept.symm.trans lost)
      · exact notImported lost

/-! ### Where nothing is taken -/

/-- A module does not bind a name that is none of its lookups' and not like that of a helper. -/
theorem Assembles.not_mem_bound (assembles : Assembles docs lookups named p) {name : String}
    (other : ∀ given ∈ lookups, ∀ n, functionName given.1 = .ok n → Text.normalForm n ≠ name)
    (plain : '_' ∉ name.toList ∨ name.toList.getLast? = some '_') : name ∉ p.bound := by
  intro taken
  rcases assembles.mem_bound_iff.mp taken with
    ⟨given, member, n, valid, same⟩ | ⟨-, helper, -, n, number, carries, same⟩
  · exact other given member n valid same
  · rw [carries] at same
    rcases plain with plain | ends
    · exact plain (same ▸ underscore_mem_normalForm_helperName n number)
    · exact normalForm_helperName_ne_of_getLast? ends n number same

/-- Nothing is taken where no function and no import has the name of a builtin function or of the
builtin objects, and the first names of classes mean what they are written for. -/
theorem untaken_of_free
    (free : ∀ name ∈ builtinsName :: builtinNames, name ∉ p.bound ∧ name ∉ p.roots)
    (classes : ∀ f ∈ p.functions, ∀ v ∈ f.values, ∀ c, v.namedClass? = some c →
      (p.scope f).Resolves (classGlobal c)) : p.Untaken := by
  obtain ⟨⟨objects, objects'⟩, functions⟩ := List.forall_mem_cons.mp free
  intro f member g reads
  cases Function.globalOf reads with
  | literal written names => exact classes f member _ written _ names
  | @builtin name known =>
    obtain ⟨notBound, notRoot⟩ := functions name known
    have apart : ∀ name ∈ builtinNames, name ∉ presetNames := by decide
    refine Scope.resolves_builtin_iff.mpr
      ⟨fun own => not_mem_builtinNames_of_mem_locals own known, notBound, notRoot,
        apart name known, ?_, objects'⟩
    rw [Scope.losesBuiltins, List.any_eq_false]
    intro g before same
    have inside : g ∈ p.functions := (List.takeWhile_sublist _).subset before
    exact objects (List.mem_map.mpr ⟨g, inside, of_decide_eq_true same⟩)

/-- A module that reads back and is loaded is clear when nothing takes the names that it reads and
the expression of each class leads to the class. -/
theorem clear_of_untaken {env : Environment} (readable : readFault? p.firstLine p.lines = none)
    (loads : p.loadFault? env = none) (untaken : p.Untaken)
    (located : ∀ f ∈ p.functions, ∀ v ∈ f.values, ∀ c, v.namedClass? = some c → env.Locates c) :
    p.Clear env where
  loads
  untaken
  literals := by
    intro f member v written
    cases names : v.namedClass? with
    | none => exact Scope.denotes_of_namedClass?_eq_none names
    | some c =>
      have resolves := untaken f member _ (classGlobal_mem_globals written names)
      exact Scope.denotes_of_namedClass? names (valueReading_of_mem readable member written)
        resolves (located f member v written c names)

/-- A module of values that are no classes is clear when it reads back and no lookup has the name of
a builtin function, of the builtin objects or of the constant that cannot be bound. -/
theorem Assembles.clear_of_scalars (assembles : Assembles docs lookups named p) (env : Environment)
    (readable : readFault? p.firstLine p.lines = none)
    (scalar : ∀ v ∈ p.functions.flatMap Function.values, v.namedClass? = none)
    (names : ∀ given ∈ lookups, ∀ n, functionName given.1 = .ok n →
      Text.normalForm n ∉ guardName :: builtinsName :: builtinNames) : p.Clear env := by
  have imports := imports_eq_nil scalar
  have roots : p.roots = [] := by simp [roots, imports]
  have unbound : ∀ name ∈ guardName :: builtinsName :: builtinNames, name ∉ p.bound := by
    have plain : ∀ name ∈ guardName :: builtinsName :: builtinNames,
        '_' ∉ name.toList ∨ name.toList.getLast? = some '_' := by decide
    intro name known
    refine assembles.not_mem_bound (fun given member n valid same => ?_) (plain name known)
    exact names given member n valid (same ▸ known)
  obtain ⟨guard, free⟩ := List.forall_mem_cons.mp unbound
  have apart {f : Function} (member : f ∈ p.functions) {v : Value} (written : v ∈ f.values)
      (c : ClassName) : v.namedClass? ≠ some c := by
    rw [scalar v (List.mem_flatMap.mpr ⟨f, member, written⟩)]
    exact (Option.some_ne_none c).symm
  refine clear_of_untaken readable ?_ (untaken_of_free ?_ ?_) ?_
  · exact loadFault?_eq_none_iff.mpr ⟨by simp [roots], guard, by simp [imports]⟩
  · exact fun name known => ⟨free name known, by simp [roots]⟩
  · exact fun f member v written c own => absurd own (apart member written c)
  · exact fun f member v written c own => absurd own (apart member written c)

/-- The names that the functions of a module read mean what they are written for unless something
takes them: a lookup, a helper, a variable or an import with the name, or a lookup or an import with
the name of the builtin objects. If the module reads back and is loaded, nothing takes a name, the
expression of each class leads to the class and no function replaces another, then every declared
lookup answers under its name as it does by itself. -/
theorem answers_unless_captured (env : Environment) (made : ofLookups docs lookups = .ok p) :
    (∀ f ∈ p.functions, ∀ g ∈ f.globals,
      ¬ (p.scope f).Resolves g ↔ Takes docs lookups p f g) ∧
    (readFault? p.firstLine p.lines = none → p.loadFault? env = none →
      (∀ f ∈ p.functions, ∀ g ∈ f.globals, ¬ Takes docs lookups p f g) →
      (∀ f ∈ p.functions, ∀ v ∈ f.values, ∀ c, v.namedClass? = some c → env.Locates c) →
      p.bound.Nodup → ∀ given ∈ lookups, ∀ n, functionName given.1 = .ok n →
        ∀ d : Declared, d.lookup = .ok given.2 →
          ∀ key, ∃ a, given.2.find key = .ok a ∧ p.run env n key = .ok a) := by
  refine ⟨fun f member g reads => not_resolves_iff made member reads, ?_⟩
  intro readable loads free located distinct given member n valid d built key
  have untaken : p.Untaken := fun f inside g reads =>
    not_not.mp ((not_resolves_iff made inside reads).not.mpr (free f inside g reads))
  obtain ⟨named, assembles⟩ := ofLookups_eq_ok_iff.mp made
  obtain ⟨n', valid', inside⟩ := assembles.exists_named member
  obtain rfl := Except.ok.inj (valid.symm.trans valid')
  obtain ⟨-, keys, values, lists, checked⟩ := Declared.of_lookup built
  obtain ⟨decides, -⟩ := Declared.decides_of_lookup lists built
  have whole : functionsFor docs (n, given.2) ⊆ p.functions := fun f belongs =>
    assembles.mem_functions_iff.mpr ⟨_, inside, belongs⟩
  exact run_eq_find_of_subset decides whole distinct
    (clear_of_untaken readable loads untaken located) key

/-! ### A class of an imported module -/

/-- The expression of the class leads to the class. -/
theorem locates_decimal : decimalHome.Locates decimalClass := by
  have start : decimalClass.start = "decimal" := by decide
  have path : decimalClass.path = ["Decimal"] := by decide
  rw [Environment.Locates, start, path]
  rfl

/-- Its expression consists of names. -/
theorem isSpelled_decimal : decimalClass.isSpelled = true :=
  @isSpelled_of_ascii _ ["decimal", "Decimal"] (by decide) (by decide)

section Decimal

variable (names : ∀ given ∈ lookups, ∀ n, functionName given.1 = .ok n →
    n ∈ ["find", "pick", "f"] ∧ Text.normalForm n = n)
  (only : ∀ v ∈ p.functions.flatMap Function.values, ∀ c, v.namedClass? = some c →
    c = decimalClass)

include only

/-- A program that names no other class imports no other module. -/
theorem eq_of_mem_imports_decimal {m : String} (imported : m ∈ p.imports) : m = "decimal" := by
  obtain ⟨v, member, needed⟩ := mem_imports_iff.mp imported
  obtain ⟨c, names, foreign⟩ := Option.bind_eq_some_iff.mp needed
  rw [only v member c names] at foreign
  exact (Option.some.inj foreign).symm

include names

/-- Neither a function nor an import has the name of a builtin function, of the builtin objects or
of the constant. -/
theorem unbound_decimal (assembles : Assembles docs lookups named p) :
    ∀ name ∈ guardName :: builtinsName :: builtinNames, name ∉ p.bound ∧ name ∉ p.roots := by
  have apart : ∀ name ∈ guardName :: builtinsName :: builtinNames,
      name ∉ ["find", "pick", "f"] ∧ ('_' ∉ name.toList ∨ name.toList.getLast? = some '_') ∧
        name ≠ (dottedParts "decimal").headD "" := by decide
  intro name known
  obtain ⟨other, plain, foreign⟩ := apart name known
  constructor
  · refine assembles.not_mem_bound (fun given member n valid same => ?_) plain
    obtain ⟨given, normal⟩ := names given member n valid
    exact other (same ▸ normal.symm ▸ given)
  · intro root
    obtain ⟨m, imported, rfl⟩ := List.mem_map.mp root
    rw [eq_of_mem_imports_decimal only imported] at foreign
    exact foreign rfl

/-- The program is loaded. -/
theorem loads_decimal (assembles : Assembles docs lookups named p) :
    p.loadFault? decimalHome = none := by
  obtain ⟨notBound, notRoot⟩ := unbound_decimal names only assembles guardName List.mem_cons_self
  refine loadFault?_eq_none_iff.mpr ⟨notRoot, notBound, fun m imported => ?_⟩
  rw [eq_of_mem_imports_decimal only imported]
  rfl

/-- Nothing takes a name that it reads. -/
theorem untaken_decimal (assembles : Assembles docs lookups named p) : p.Untaken := by
  refine untaken_of_free (fun name known =>
    unbound_decimal names only assembles name (.tail _ known)) ?_
  intro f member v written c own
  obtain rfl := only v (List.mem_flatMap.mpr ⟨f, member, written⟩) c own
  have global : classGlobal decimalClass = .module "decimal" := by decide
  have reads : .module "decimal" ∈ f.globals := global ▸ classGlobal_mem_globals written own
  rw [global]
  refine Scope.resolves_module_iff.mpr ⟨fun own => ?_, ?_, mem_roots member reads⟩
  · exact absurd (mem_locals own) (by decide)
  · refine assembles.not_mem_bound (fun given inside n valid same => ?_) (.inl (by decide))
    obtain ⟨known, normal⟩ := names given inside n valid
    rw [← normal, same] at known
    exact absurd known (by decide)

end Decimal

/-- A lookup with a helper and one of a class, which is imported, answer as they do by themselves. -/
theorem answers_unless_captured_class :
    ∃ l, Declared.deep.lookup = .ok l ∧
      ofLookups [] [(.str "find", l), (.str "pick", letterLookup (.cls decimalClass))]
        = .ok (pairProgram l (.cls decimalClass)) ∧
      (∀ key, ∃ a, l.find key = .ok a ∧
        (pairProgram l (.cls decimalClass)).run decimalHome "find" key = .ok a) ∧
      (pairProgram l (.cls decimalClass)).run decimalHome "pick" (.str "a")
        = .ok ⟨true, .cls decimalClass⟩ := by
  obtain ⟨l, built, -⟩ := Declared.lookup_deep
  have assembles := assembles_pair built (v := .cls decimalClass) rfl
  have made := ofLookups_eq_ok_iff.mpr ⟨_, assembles⟩
  have names : ∀ given ∈ [(Value.str "find", l), (.str "pick", letterLookup (.cls decimalClass))],
      ∀ n, functionName given.1 = .ok n → n ∈ ["find", "pick", "f"] ∧ Text.normalForm n = n :=
    fun given member n valid => (name_pair member valid).imp_left (List.mem_append_left ["f"])
  have only : ∀ v ∈ (pairProgram l (.cls decimalClass)).functions.flatMap Function.values, ∀ c,
      v.namedClass? = some c → c = decimalClass := by
    intro v member c own
    rcases values_pairProgram built v member with rfl | ⟨-, scalar⟩
    · exact (Option.some.inj own).symm
    · cases scalar.symm.trans own
  have readable := readFault?_pairProgram built (valueReading_cls_iff.mpr isSpelled_decimal)
    (pairProgram l (.cls decimalClass)).firstLine
  have loads := loads_decimal names only assembles
  have distinct := assembles.nodup_bound fun x member => by
    obtain ⟨v, valid, given⟩ := assembles.exists_given member
    exact (name_pair given valid).2
  obtain ⟨taken, answers⟩ := answers_unless_captured decimalHome made
  have answers := answers readable loads
    (fun f member g reads takes => (taken f member g reads).mpr takes
      (untaken_decimal names only assembles f member g reads))
    (fun f member v written c own => by
      rw [only v (List.mem_flatMap.mpr ⟨f, member, written⟩) c own]
      exact locates_decimal) distinct
  have hit : (letterLookup (.cls decimalClass)).find (.str "a")
      = .ok ⟨true, .cls decimalClass⟩ := by cbv
  obtain ⟨a, found, ran⟩ := answers _ (.tail _ (.head _)) "pick" rfl _ (lookup_letter _) (.str "a")
  obtain rfl := Except.ok.inj (hit.symm.trans found)
  exact ⟨l, built, made, answers _ (.head _) "find" rfl _ built, ran⟩

/-- A lookup may have the name of a builtin class that its function reads. Then the function
gives no answer to the key that the lookup finds. -/
theorem builtin_captured :
    Declared.lookup { keys := .list [.str "a"], values := .list [.int 1] }
        = .ok (letterLookup (.int 1)) ∧
      (letterLookup (.int 1)).find (.str "a") = .ok ⟨true, .int 1⟩ ∧
      Source.compile .bare (letterLookup (.int 1)) (.str "str")
        = .ok ⟨lookupProgram "str" (letterLookup (.int 1)), "str"⟩ ∧
      (lookupProgram "str" (letterLookup (.int 1))).run .bare "str" (.str "a")
        = .error .notType := by
  have made := @ofLookups_letter (.int 1) (.str "str") "str" rfl (literalFault?_int (by decide))
  refine ⟨lookup_letter _, by cbv, ?_, by cbv⟩
  have imports : imports (lookupProgram "str" (letterLookup (.int 1))) = [] :=
    imports_eq_nil (@namedClass?_of_mem_letter [] (.int 1) "str" rfl)
  have bound : bound (lookupProgram "str" (letterLookup (.int 1))) = ["str"] := by
    rw [bound, lookupProgram, functionsOf, helpersOf_letter]
    exact congrArg (List.cons · []) (Text.normalForm_of_ascii rfl)
  rw [@compile_of_ofLookups _ .bare (letterLookup (.int 1)) (.str "str") made]
  refine compile_eq_ok_iff.mpr ⟨readFault?_eq_none _ (Declared.readable_letter rfl "str" none),
    loadFault?_eq_none_iff.mpr ?_, Text.normalForm_of_ascii rfl, rfl⟩
  rw [bound, roots, imports]
  decide

end Program

end KeyTree.Source
