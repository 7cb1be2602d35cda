/-
# Names that functions read

A function reads the names of builtin functions, and for a value that is a class or a member of an
enumeration the first name of its expression. Where such a name stands for what it is written for,
the expression of a class leads to what the attributes that it names lead to from there. So the
literal of a class denotes the class exactly when its expression leads to the class; where packages
lead to the modules in them, this is so when the class is found where it says that it is.

* `Global`, `Function.globals` — the names that a function reads; `Function.globalOf` — which they
  are.
* `Scope.Resolves` — a name stands for what it is written for.
* `Environment.Locates` — the expression of a class leads to the class; `locates_iff_atHome` — when
  it does.
* `evaluate_of_resolves` — what the expression of a class leads to in a function.
* `Scope.Denotes`, `meaning_cls_iff` — literals that denote their values.
* `Program.Untaken`, `Program.Clear` — programs whose names and literals mean what they are written
  for.
-/

import KeyTree.Proofs.Class.Reference
import KeyTree.Source.Run

namespace KeyTree

/-- An environment without modules and attributes. -/
def Environment.bare : Environment where
  importable _ := .ok false
  attribute? _ _ := .ok none

/-- The environment of one module, in which one name leads to a class. -/
def singleEnvironment (module name : String) (c : ClassName) : Environment where
  importable m := .ok (m = module)
  attribute? e n := .ok (if e = .module module ∧ n = name then some (.cls c) else none)

/-- The class of decimal numbers. -/
def decimalClass : ClassName := ⟨"decimal", "Decimal"⟩

/-- The environment of the module of this class. -/
def decimalHome : Environment := singleEnvironment "decimal" "Decimal" decimalClass

/-- A dotted name has a first part. -/
theorem exists_dottedParts_eq_cons (name : String) :
    ∃ rest, dottedParts name = (dottedParts name).headD "" :: rest := by
  cases parts : dottedParts name with
  | nil => simp [dottedParts, Text.parts_ne_nil] at parts
  | cons first rest => exact ⟨rest, rfl⟩

namespace ClassName

/-- The first name of the expression of a class. -/
def root (c : ClassName) : String := (dottedParts c.reference).headD ""

/-- The module that the expression of a class starts from. -/
def start (c : ClassName) : String := if c.module = "builtins" then "builtins" else c.root

/-- The attributes that the expression of a class names. -/
def path (c : ClassName) : List String :=
  if c.module = "builtins" then dottedParts c.reference else (dottedParts c.reference).tail

end ClassName

namespace Environment

variable {env : Environment}

/-- The expression of a class leads to the class. -/
def Locates (env : Environment) (c : ClassName) : Prop :=
  env.reach (.module c.start) c.path = .ok (.cls c)

/-- The packages around a module lead to the module. -/
def Nests (env : Environment) (module : String) : Prop :=
  env.reach (.module ((dottedParts module).headD "")) (dottedParts module).tail
    = .ok (.module module)

/-- A module without a package around it. -/
theorem nests_of_single {module : String} (single : dottedParts module = [module]) :
    env.Nests module := by
  rw [Nests, single]
  rfl

/-- Attributes behind attributes. -/
theorem reach_append {e middle : Entity} {first : List String}
    (reached : env.reach e first = .ok middle) (second : List String) :
    env.reach e (first ++ second) = env.reach middle second := by
  induction first generalizing e with
  | nil =>
    obtain rfl := Except.ok.inj reached
    rfl
  | cons name rest ih =>
    rw [List.cons_append, reach]
    rw [reach] at reached
    split at reached
    · cases reached
    · cases reached
    · exact ih reached

/-- Where its module is imported and the packages around it lead to it, the expression of a class
leads to the class exactly when the class is found where it says. -/
theorem locates_iff_atHome {c : ClassName}
    (imported : c.module = "builtins" ∨ env.importable c.module = .ok true ∧ env.Nests c.module) :
    env.Locates c ↔ env.AtHome c := by
  have reaches : env.reach (.module c.start) c.path
      = env.reach (.module c.module) (dottedParts c.qualname) := by
    rw [ClassName.start, ClassName.path, ClassName.root, ClassName.reference]
    rcases imported with builtin | ⟨-, nests⟩
    · rw [if_pos builtin, if_pos builtin, if_pos builtin, builtin]
    · by_cases builtin : c.module = "builtins"
      · rw [if_pos builtin, if_pos builtin, if_pos builtin, builtin]
      · rw [if_neg builtin, if_neg builtin, if_neg builtin, dottedParts_append]
        obtain ⟨rest, parts⟩ := exists_dottedParts_eq_cons c.module
        rw [Nests] at nests
        rw [parts] at nests ⊢
        exact reach_append nests _
  rw [Locates, reaches, ← reach?_eq_some_iff]
  exact ⟨fun reached => ⟨imported.imp_right And.left, reached⟩, AtHome.reached⟩

end Environment

namespace Source

/-! ### The names that are read -/

/-- A name that is read: that of a builtin object, or the first name of an imported module. -/
inductive Global where
  | builtin (name : String)
  | module (name : String)
  deriving DecidableEq, Repr

namespace Global

/-- The name itself. -/
def name : Global → String
  | .builtin name => name
  | .module name => name

/-- What the name is written for. -/
def binding : Global → Binding
  | .builtin _ => .builtin
  | .module _ => .module

end Global

/-- The name that the expression of a class reads. -/
def classGlobal (c : ClassName) : Global :=
  if c.module = "builtins" then .builtin c.root else .module c.root

/-- The names that a condition reads. -/
def Condition.globals : Condition → List Global
  | .keyIsNoText => [.builtin "isinstance", .builtin "str"]
  | _ => []

/-- The names that the literal of a value reads. -/
def literalGlobals (v : Value) : List Global := (v.namedClass?.map classGlobal).toList

namespace Statement

mutual

/-- The names that a statement reads, apart from those of helpers that it calls. -/
def globals : Statement → List Global
  | .measure => [.builtin "len"]
  | .read _ => []
  | .answer _ value => literalGlobals value
  | .call _ => []
  | .choose arms => armGlobals arms
  | .either condition yes no => condition.globals ++ (blockGlobals yes ++ blockGlobals no)

/-- The names that a block reads. -/
def blockGlobals : List Statement → List Global
  | [] => []
  | s :: rest => globals s ++ blockGlobals rest

/-- The names that the arms of a choice read. -/
def armGlobals : List (Condition × List Statement) → List Global
  | [] => []
  | (condition, block) :: rest => condition.globals ++ (blockGlobals block ++ armGlobals rest)

end

end Statement

/-- The names that a function reads. -/
def Function.globals (f : Function) : List Global := Statement.blockGlobals f.body

namespace Statement

mutual

/-- A statement reads the names of its literals. -/
theorem literalGlobals_subset_globals {v : Value} : ∀ {s : Statement}, v ∈ values s →
    literalGlobals v ⊆ globals s
  | .measure, member => absurd member List.not_mem_nil
  | .read _, member => absurd member List.not_mem_nil
  | .answer _ _, member => by
    rw [List.mem_singleton.mp member]
    exact List.Subset.refl _
  | .call _, member => absurd member List.not_mem_nil
  | .choose _, member => literalGlobals_subset_armGlobals member
  | .either condition yes no, member => by
    refine List.subset_append_of_subset_right condition.globals ?_
    rcases List.mem_append.mp member with first | second
    · exact List.subset_append_of_subset_left _ (literalGlobals_subset_blockGlobals first)
    · exact List.subset_append_of_subset_right _ (literalGlobals_subset_blockGlobals second)

/-- A block reads the names of its literals. -/
theorem literalGlobals_subset_blockGlobals {v : Value} : ∀ {block : List Statement},
    v ∈ blockValues block → literalGlobals v ⊆ blockGlobals block
  | [], member => absurd member List.not_mem_nil
  | s :: rest, member => by
    rcases List.mem_append.mp member with first | later
    · exact List.subset_append_of_subset_left _ (literalGlobals_subset_globals first)
    · exact List.subset_append_of_subset_right _ (literalGlobals_subset_blockGlobals later)

/-- The arms of a choice read the names of their literals. -/
theorem literalGlobals_subset_armGlobals {v : Value} :
    ∀ {arms : List (Condition × List Statement)}, v ∈ armValues arms →
      literalGlobals v ⊆ armGlobals arms
  | [], member => absurd member List.not_mem_nil
  | (condition, block) :: rest, member => by
    refine List.subset_append_of_subset_right condition.globals ?_
    rcases List.mem_append.mp member with first | later
    · exact List.subset_append_of_subset_left _ (literalGlobals_subset_blockGlobals first)
    · exact List.subset_append_of_subset_right _ (literalGlobals_subset_armGlobals later)

end

end Statement

/-- The names of the builtin functions that a program reads. -/
def Program.builtinNames : List String := ["isinstance", "str", "len"]

/-- `GlobalOf values g`: the name is that of a builtin function, or a literal of a value reads it. -/
inductive GlobalOf (values : List Value) : Global → Prop where
  | builtin {name : String} (known : name ∈ Program.builtinNames) :
      GlobalOf values (.builtin name)
  | literal {v : Value} {c : ClassName} (written : v ∈ values) (names : v.namedClass? = some c) :
      GlobalOf values (classGlobal c)

/-- A name that literals read is read by literals among which they are. -/
theorem GlobalOf.mono {values values' : List Value} {g : Global} (among : values ⊆ values')
    (reads : GlobalOf values g) : GlobalOf values' g := by
  cases reads with
  | builtin known => exact .builtin known
  | literal written names => exact .literal (among written) names

/-- A condition reads names of builtin functions. -/
theorem Condition.globalOf {values : List Value} {g : Global} {condition : Condition}
    (member : g ∈ condition.globals) : GlobalOf values g := by
  cases condition with
  | keyIsNoText =>
    rcases List.mem_pair.mp member with rfl | rfl <;> exact .builtin (by decide)
  | keyIs | lengthBelow | lengthIs | characterBelow | characterIs => cases member

namespace Statement

mutual

/-- A statement reads the names of builtin functions and of its literals. -/
theorem globalOf {g : Global} : ∀ {s : Statement}, g ∈ globals s → GlobalOf (values s) g
  | .measure, member => by
    rw [List.mem_singleton.mp member]
    exact .builtin (by decide)
  | .read _, member => absurd member List.not_mem_nil
  | .answer _ value, member => by
    obtain ⟨c, names, rfl⟩ := Option.map_eq_some_iff.mp (Option.mem_toList.mp member)
    exact .literal (List.mem_singleton.mpr rfl) names
  | .call _, member => absurd member List.not_mem_nil
  | .choose _, member => globalOf_arms member
  | .either condition yes no, member => by
    rcases List.mem_append.mp member with test | member
    · exact Condition.globalOf test
    · rcases List.mem_append.mp member with first | second
      · exact (globalOf_block first).mono (List.subset_append_left _ _)
      · exact (globalOf_block second).mono (List.subset_append_right _ _)

/-- A block reads the names of builtin functions and of its literals. -/
theorem globalOf_block {g : Global} : ∀ {block : List Statement}, g ∈ blockGlobals block →
    GlobalOf (blockValues block) g
  | [], member => absurd member List.not_mem_nil
  | s :: rest, member => by
    rcases List.mem_append.mp member with first | later
    · exact (globalOf first).mono (List.subset_append_left _ _)
    · exact (globalOf_block later).mono (List.subset_append_right _ _)

/-- The arms of a choice read the names of builtin functions and of their literals. -/
theorem globalOf_arms {g : Global} : ∀ {arms : List (Condition × List Statement)},
    g ∈ armGlobals arms → GlobalOf (armValues arms) g
  | [], member => absurd member List.not_mem_nil
  | (condition, block) :: rest, member => by
    rcases List.mem_append.mp member with test | member
    · exact Condition.globalOf test
    · rcases List.mem_append.mp member with first | later
      · exact (globalOf_block first).mono (List.subset_append_left _ _)
      · exact (globalOf_arms later).mono (List.subset_append_right _ _)

end

end Statement

/-- A function reads the names of builtin functions and of its literals. -/
theorem Function.globalOf {f : Function} {g : Global} (member : g ∈ f.globals) :
    GlobalOf f.values g :=
  Statement.globalOf_block member

/-- A function reads the names of its literals. -/
theorem classGlobal_mem_globals {f : Function} {v : Value} (written : v ∈ f.values) {c : ClassName}
    (names : v.namedClass? = some c) : classGlobal c ∈ f.globals := by
  refine Statement.literalGlobals_subset_blockGlobals written ?_
  rw [literalGlobals, names]
  exact List.mem_singleton.mpr rfl

/-- A main function reads the names that tell whether the key is a text. -/
theorem typeTest_mem_globals {name : String} {doc : Option String} {root : Tree} {default : Value} :
    .builtin "isinstance" ∈ (mainFunction name doc root default).globals ∧
      .builtin "str" ∈ (mainFunction name doc root default).globals := by
  simp [Function.globals, mainFunction, Statement.blockGlobals, Statement.globals,
    Statement.armGlobals, Condition.globals]

/-- A tree that is no miss is decided after the length has been taken. -/
theorem decision_of_ne_miss {root : Tree} (filled : root ≠ .miss) (name : String) :
    decision name root = .measure :: (mainBlock name root).body := by
  cases root with
  | miss => exact absurd rfl filled
  | leaf | charTest | lengthTest | lengthSplit => rfl

/-- A main function reads the name of the length unless its tree finds nothing. -/
theorem len_mem_globals {name : String} {doc : Option String} {root : Tree} {default : Value}
    (filled : root ≠ .miss) :
    .builtin "len" ∈ (mainFunction name doc root default).globals := by
  rw [Function.globals, mainFunction, decision_of_ne_miss filled]
  simp [Statement.blockGlobals, Statement.globals]

/-! ### What names and literals mean -/

namespace Scope

/-- A name stands for what it is written for. -/
def Resolves (scope : Scope) (g : Global) : Prop := scope.read g.name = .ok g.binding

/-- The literal of a value denotes the value, for any key and any variables. -/
def Denotes (env : Environment) (scope : Scope) (v : Value) : Prop :=
  ∀ key locals, meaning env scope key locals v = .ok v

end Scope

section Literals

variable {env : Environment} {scope : Scope} {key : Value} {locals : Locals}

/-- Where its first name stands for what it is written for, the expression of a class leads to what
its path leads to from there. -/
theorem evaluate_of_resolves {c : ClassName} (resolves : scope.Resolves (classGlobal c)) :
    evaluate env scope key locals c
      = (env.reach (.module c.start) c.path).mapError attributeFault := by
  obtain ⟨attributes, parts⟩ := exists_dottedParts_eq_cons c.reference
  rw [Scope.Resolves, classGlobal] at resolves
  unfold evaluate ClassName.start ClassName.path
  rw [parts]
  change (scope.read c.root >>= _) = _
  by_cases builtin : c.module = "builtins"
  · rw [if_pos builtin] at resolves
    change scope.read c.root = .ok .builtin at resolves
    rw [resolves, if_pos builtin, if_pos builtin]
    rfl
  · rw [if_neg builtin] at resolves
    change scope.read c.root = .ok .module at resolves
    rw [resolves, if_neg builtin, if_neg builtin]
    rfl

/-- Where its first name stands for what it is written for, the literal of a class denotes the class
exactly when its expression leads to the class. -/
theorem meaning_cls_iff {c : ClassName} (spelled : c.isSpelled = true)
    (resolves : scope.Resolves (classGlobal c)) :
    meaning env scope key locals (.cls c) = .ok (.cls c) ↔ env.Locates c := by
  rw [meaning, valueReading, if_pos spelled, if_neg (by decide), Environment.Locates]
  simp only [evaluate_of_resolves resolves]
  cases env.reach (.module c.start) c.path with
  | error fault => simp [Except.mapError, bind, Except.bind]
  | ok e => cases e <;> simp [Except.mapError, bind, Except.bind, pure, Except.pure]

namespace Scope

/-- A value whose literal names no class is denoted by it, whatever names are bound. -/
theorem denotes_of_namedClass?_eq_none {v : Value} (scalar : v.namedClass? = none) :
    scope.Denotes env v := by
  intro key locals
  cases v with
  | cls | member => cases scalar
  | _ => rfl

/-- The literal of a value denotes the value where it is spelled by names, the first of them stands
for what it is written for, and the expression of the class leads to the class. -/
theorem denotes_of_namedClass? {v : Value} {c : ClassName} (names : v.namedClass? = some c)
    (spelled : valueReading v = .faithful) (resolves : scope.Resolves (classGlobal c))
    (located : env.Locates c) : scope.Denotes env v := by
  intro key locals
  cases v with
  | cls own =>
    obtain rfl := Option.some.inj names
    rw [valueReading] at spelled
    refine (meaning_cls_iff ?_ resolves).mpr located
    by_contra other
    rw [if_neg other] at spelled
    cases spelled
  | member own kind name value =>
    obtain rfl := Option.some.inj names
    rw [meaning, spelled, if_neg (by decide)]
    rw [Environment.Locates] at located
    simp only [evaluate_of_resolves resolves, located]
    simp [Except.mapError, bind, Except.bind, pure, Except.pure]
  | _ => cases names

end Scope

end Literals

/-! ### Programs -/

namespace Program

/-- A text is put into a list besides what is there. -/
theorem mem_insertSorted {s t : String} {sorted : List String} :
    t ∈ insertSorted s sorted ↔ t = s ∨ t ∈ sorted := by
  induction sorted with
  | nil => rw [insertSorted, List.mem_cons]
  | cons first rest ih =>
    rw [insertSorted]
    split
    · rename_i same
      subst same
      simp
    · split
      · simp
      · rw [List.mem_cons, ih, List.mem_cons, or_left_comm]

/-- A program imports the modules of its literals. -/
theorem mem_imports_iff {p : Program} {module : String} :
    module ∈ p.imports ↔
      ∃ v ∈ p.functions.flatMap Function.values, v.importedModule? = some module := by
  rw [imports, importedModules, List.nil_append, ← List.mem_filterMap]
  induction (p.functions.flatMap Function.values).filterMap Value.importedModule? with
  | nil => exact Iff.rfl
  | cons first rest ih => rw [List.foldr_cons, mem_insertSorted, ih, List.mem_cons]

/-- A program whose literals name no classes imports nothing. -/
theorem imports_eq_nil {p : Program}
    (scalar : ∀ v ∈ p.functions.flatMap Function.values, v.namedClass? = none) :
    p.imports = [] := by
  refine List.eq_nil_iff_forall_not_mem.mpr fun m imported => ?_
  obtain ⟨v, member, needed⟩ := mem_imports_iff.mp imported
  rw [Value.importedModule?, scalar v member] at needed
  cases needed

/-- The scope of a function of a program. -/
def scope (p : Program) (f : Function) : Scope := ⟨p, f⟩

/-- Every name that a function of the program reads stands for what it is written for. -/
def Untaken (p : Program) : Prop :=
  ∀ f ∈ p.functions, ∀ g ∈ f.globals, (p.scope f).Resolves g

/-- The program is loaded, and the names and literals in its functions mean what they are written
for. -/
structure Clear (env : Environment) (p : Program) : Prop where
  loads : p.loadFault? env = none
  untaken : p.Untaken
  literals : ∀ f ∈ p.functions, ∀ v ∈ f.values, (p.scope f).Denotes env v

end Program

end Source

end KeyTree
