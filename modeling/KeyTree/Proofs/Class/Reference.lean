/-
# What the literal of a class denotes

The literal of a class gives the module and the qualified name that the class has for its own. It
is evaluated after the module has been imported: the qualified name is followed from the module
attribute by attribute, and each attribute must be there. So the literal denotes the class exactly
when the class is found where it says that it is. A name that the class was found by need not lead
there; one that spells the module and the qualified name of the class does.

* `Environment.Denotes` — what an expression denotes.
* `Environment.AtHome` — the classes that are found where they say.
* `Environment.denotes_reference_iff` — the literals that denote their classes.
* `Environment.atHome_of_spells` — names that spell the home of a class.
-/

import KeyTree.Proofs.Class.Resolution
import KeyTree.Value.Literal

namespace KeyTree

/-! ### Parts of joined names -/

/-- A text without the mark is its only part. -/
theorem parts_of_not_mem {mark : Char} {s : List Char} (plain : mark ∉ s) :
    Text.parts mark s = [s] := by
  induction s with
  | nil => rfl
  | cons c rest ih =>
    obtain ⟨other, plain⟩ := not_or.mp (List.mem_cons.not.mp plain)
    rw [Text.parts, if_neg (Ne.symm other), ih plain]

/-- The parts of a text that goes on behind a mark. -/
theorem parts_append (mark : Char) (s rest : List Char) :
    Text.parts mark (s ++ mark :: rest) = Text.parts mark s ++ Text.parts mark rest := by
  induction s with
  | nil =>
    rw [List.nil_append, Text.parts.eq_2, if_pos rfl]
    rfl
  | cons c others ih =>
    rw [List.cons_append, Text.parts, Text.parts, ih]
    split
    · rfl
    · cases parts : Text.parts mark others with
      | nil => exact absurd parts (Text.parts_ne_nil mark others)
      | cons part more => rfl

/-- A character other than the mark is in one of the parts. -/
theorem exists_part_of_mem {mark c : Char} {s : List Char} (member : c ∈ s) (other : c ≠ mark) :
    ∃ part ∈ Text.parts mark s, c ∈ part := by
  fun_induction Text.parts mark s with
  | case1 => cases member
  | case2 rest ih =>
    obtain ⟨part, inside, found⟩ := ih ((List.mem_cons.mp member).resolve_left other)
    exact ⟨part, List.mem_cons_of_mem _ inside, found⟩
  | case3 d rest _ part others parts ih =>
    rcases List.mem_cons.mp member with rfl | member
    · exact ⟨_, List.mem_cons_self, List.mem_cons_self⟩
    · obtain ⟨found, inside, below⟩ := ih member
      rw [parts] at inside
      rcases List.mem_cons.mp inside with rfl | inside
      · exact ⟨_, List.mem_cons_self, List.mem_cons_of_mem _ below⟩
      · exact ⟨found, List.mem_cons_of_mem _ inside, below⟩
  | case4 d rest _ parts => exact absurd parts (Text.parts_ne_nil mark rest)

/-- The parts of two names with a dot between them are those of both. -/
theorem dottedParts_append (first second : String) :
    dottedParts (first ++ "." ++ second) = dottedParts first ++ dottedParts second := by
  have whole : (first ++ "." ++ second).toList = first.toList ++ '.' :: second.toList := by
    rw [String.toList_append, String.toList_append, List.append_assoc]
    rfl
  rw [dottedParts, whole, parts_append, List.map_append, ← dottedParts, ← dottedParts]

/-- The parts of a joined name are what has been joined. -/
theorem dottedParts_joinDots {parts : List String} (filled : parts ≠ [])
    (plain : ∀ part ∈ parts, '.' ∉ part.toList) : dottedParts (joinDots parts) = parts := by
  induction parts with
  | nil => exact absurd rfl filled
  | cons first rest ih =>
    obtain ⟨dotless, others⟩ := List.forall_mem_cons.mp plain
    cases rest with
    | nil =>
      rw [joinDots, String.intercalate_singleton, dottedParts, parts_of_not_mem dotless,
        List.map_singleton, String.ofList_toList]
    | cons second rest =>
      have single : dottedParts first = [first] := by
        rw [dottedParts, parts_of_not_mem dotless, List.map_singleton, String.ofList_toList]
      rw [joinDots, String.intercalate_cons_cons, dottedParts_append, single, ← joinDots,
        ih (List.cons_ne_nil _ _) others, List.singleton_append]

namespace Environment

variable {env : Environment}

/-! ### Expressions -/

/-- What attributes lead to, one after the other, when none is missing and none raises an
exception. -/
def reach? (env : Environment) (e : Entity) (attributes : List String) : Option Entity :=
  (env.reach e attributes).toOption

/-- Attributes lead to an object when they reach it. -/
theorem reach?_eq_some_iff {e found : Entity} {attributes : List String} :
    env.reach? e attributes = some found ↔ env.reach e attributes = .ok found := by
  rw [reach?]
  cases env.reach e attributes <;> simp [Except.toOption]

/-- Where no attribute is missing, following them leads to the same object. -/
theorem follow_of_reach {e found : Entity} {attributes : List String}
    (reached : env.reach e attributes = .ok found) : env.follow e attributes = .ok found := by
  induction attributes generalizing e with
  | nil => exact congrArg Except.ok (Except.ok.inj reached)
  | cons name rest ih =>
    rw [reach] at reached
    split at reached
    · cases reached
    · cases reached
    · next next there =>
      rw [follow, there]
      exact ih reached

/-- Where no attribute is missing, following them leads to the same object. -/
theorem follow_of_reach? {e found : Entity} {attributes : List String}
    (reached : env.reach? e attributes = some found) : env.follow e attributes = .ok found :=
  follow_of_reach (reach?_eq_some_iff.mp reached)

/-- `env.Denotes imported expression e`: the expression denotes the object, when it is evaluated
where this module is imported. An expression without import starts among the builtins. -/
inductive Denotes (env : Environment) : Option String → String → Entity → Prop where
  | builtin {expression : String} {e : Entity}
      (reached : env.reach? (.module "builtins") (dottedParts expression) = some e) :
      Denotes env none expression e
  | imported {module attributes : String} {e : Entity} (importable : env.importable module = .ok true)
      (reached : env.reach? (.module module) (dottedParts attributes) = some e) :
      Denotes env (some module) (module ++ "." ++ attributes) e

/-- Whether a class is found where it says that it is: by its qualified name in its module, which
can be imported unless it is the builtin one. -/
structure AtHome (env : Environment) (c : ClassName) : Prop where
  importable : c.module = "builtins" ∨ env.importable c.module = .ok true
  reached : env.reach? (.module c.module) (dottedParts c.qualname) = some (.cls c)

/-- The literal of a class denotes the class when it is found where it says. -/
theorem denotes_reference_iff {c : ClassName} :
    env.Denotes c.importedModule? c.reference (.cls c) ↔ env.AtHome c := by
  by_cases builtin : c.module = "builtins"
  · rw [ClassName.importedModule?, if_pos builtin, ClassName.reference, if_pos builtin]
    constructor
    · rintro ⟨reached⟩
      exact ⟨.inl builtin, builtin ▸ reached⟩
    · rintro ⟨-, reached⟩
      exact .builtin (builtin ▸ reached)
  · rw [ClassName.importedModule?, if_neg builtin, ClassName.reference, if_neg builtin]
    constructor
    · generalize whole : c.module ++ "." ++ c.qualname = expression
      intro denotes
      cases denotes with
      | @imported _ attributes _ importable reached =>
        obtain rfl : c.qualname = attributes := by simpa using whole
        exact ⟨.inr importable, reached⟩
    · rintro ⟨importable, reached⟩
      exact .imported (importable.resolve_left builtin) reached

/-! ### Names that spell a home -/

/-- The attributes that a name spells are there, and hold no dots. -/
theorem Spells.attributes {name module : String} {attributes : List String}
    (spells : env.Spells name module attributes) :
    attributes ≠ [] ∧ ∀ part ∈ attributes, '.' ∉ part.toList := by
  cases spells with
  | bare plain => exact ⟨List.cons_ne_nil _ _, List.forall_mem_singleton.mpr plain⟩
  | dotted longest =>
    refine ⟨?_, fun part member => dot_notMem_of_mem_dottedParts (List.mem_of_mem_drop member)⟩
    rw [ne_eq, List.drop_eq_nil_iff]
    exact Nat.not_le.mpr longest.inside

/-- The module that a name spells is the builtin one, or can be imported. -/
theorem Spells.importable {name module : String} {attributes : List String}
    (spells : env.Spells name module attributes) :
    module = "builtins" ∨ env.importable module = .ok true := by
  cases spells with
  | bare => exact .inl rfl
  | dotted longest => exact .inr longest.imported

/-- A class that a name leads to is found where it says when the name spells its module and its
qualified name, and no attribute on the way is missing. -/
theorem atHome_of_spells {name : String} {c : ClassName} {attributes : List String}
    (spells : env.Spells name c.module attributes) (own : joinDots attributes = c.qualname)
    (leads : env.follow (.module c.module) attributes = .ok (.cls c))
    (there : (env.reach? (.module c.module) attributes).isSome = true) : env.AtHome c := by
  obtain ⟨filled, plain⟩ := spells.attributes
  obtain ⟨e, reached⟩ := Option.isSome_iff_exists.mp there
  obtain rfl : e = .cls c := Except.ok.inj ((follow_of_reach? reached).symm.trans leads)
  refine ⟨spells.importable, ?_⟩
  rw [← own, dottedParts_joinDots filled plain]
  exact reached

end Environment

end KeyTree
