/-
# What a module consists of

Lookups give a module when each has a name that may name a function, no two of the names are the
same text, no helper takes the name of a lookup, and every value has a literal. The module then
holds the functions of each lookup, in the order in which the lookups are given.

* `functionName_eq_ok_iff`, `functionNames_eq_ok_iff` — the names that are accepted.
* `functionsFrom_eq_ok_iff` — the functions that are written.
* `Assembles`, `ofLookups_eq_ok_iff` — when lookups give a module, and which.
* `Assembles.nodup_name` — no two functions of a module have the same name.
* `ofLookups_singleton_eq_ok_iff`, `render_eq_ok_iff` — the module of one lookup and its text.
-/

import KeyTree.Lookup.Build
import KeyTree.Proofs.Outcome
import KeyTree.Proofs.Source.Names
import KeyTree.Proofs.Source.Values
import Mathlib.Data.List.Permutation

namespace KeyTree.Source

open KeyTree.Text

/-! ### Names -/

/-- A text counts as true unless it is empty. -/
theorem isTruthy_of_text? {v : Value} {t : Text} (isText : v.text? = some t)
    (filled : t.content ≠ "") : v.isTruthy = true := by
  unfold Value.text? at isText
  split at isText <;> cases isText <;> exact decide_eq_true filled

/-- The empty text names no function. -/
theorem ne_empty_of_isFunctionName {n : String} (valid : isFunctionName n = true) : n ≠ "" := by
  rintro rfl
  exact absurd valid (by decide)

/-- A value names a function when it is a text that may name one. -/
theorem functionName_eq_ok_iff {name : Value} {n : String} :
    functionName name = .ok n ↔ name.content? = some n ∧ isFunctionName n = true := by
  unfold functionName Value.content?
  cases isText : name.text? with
  | none => cases name.isTruthy <;> simp
  | some t =>
    constructor
    · intro named
      split at named
      · cases named
      · dsimp only at named
        split at named
        · rename_i valid
          cases named
          exact ⟨rfl, valid⟩
        · cases named
    · rintro ⟨content, valid⟩
      obtain rfl := Option.some.inj content
      have truthy := isTruthy_of_text? isText (ne_empty_of_isFunctionName valid)
      simp [truthy, valid]

/-- The bare form of a name is the name of its function. -/
theorem print_of_functionName {name : Value} {n : String} (named : functionName name = .ok n) :
    name.print = n := by
  unfold Value.print
  rw [(functionName_eq_ok_iff.mp named).1]

/-- The names of functions are accepted when each may name a function and they differ from each
other and from those seen before. -/
theorem functionNames_eq_ok_iff {seen names : List String} {values : List Value} :
    functionNames seen values = .ok names ↔
      List.Forall₂ (fun v n => functionName v = .ok n) values names ∧ names.Nodup ∧
        ∀ n ∈ names, n ∉ seen := by
  induction values generalizing seen names with
  | nil =>
    rw [functionNames, List.forall₂_nil_left_iff]
    constructor
    · intro made
      cases made
      exact ⟨rfl, .nil, by simp⟩
    · rintro ⟨rfl, -, -⟩
      rfl
  | cons v rest ih =>
    rw [functionNames]
    constructor
    · intro made
      cases named : functionName v with
      | error fault =>
        rw [named] at made
        cases made
      | ok n =>
        rw [named] at made
        dsimp only at made
        split at made
        · cases made
        · rename_i fresh
          obtain ⟨others, later, rfl⟩ := map_eq_ok_iff.mp made
          obtain ⟨named', distinct, unseen⟩ := ih.mp later
          refine ⟨.cons named named', ?_, ?_⟩
          · exact List.nodup_cons.mpr ⟨fun member => unseen n member List.mem_cons_self, distinct⟩
          · refine List.forall_mem_cons.mpr ⟨by simpa using fresh, fun m member seen => ?_⟩
            exact unseen m member (List.mem_cons_of_mem _ seen)
    · rintro ⟨named, distinct, unseen⟩
      cases named with
      | @cons _ n _ others named named' =>
        obtain ⟨fresh, distinct⟩ := List.nodup_cons.mp distinct
        obtain ⟨first, unseen⟩ := List.forall_mem_cons.mp unseen
        have later : functionNames (n :: seen) rest = .ok others := by
          refine ih.mpr ⟨named', distinct, fun m member old => ?_⟩
          rcases List.mem_cons.mp old with rfl | old
          · exact fresh member
          · exact unseen m member old
        rw [named]
        simp [first, later]

/-! ### Functions -/

/-- The functions of a lookup under a name. -/
def functionsFor (docs : List (String × String)) (named : String × Lookup) : List Function :=
  functionsOf named.1 (docs.lookup named.1) named.2.root named.2.default

/-- The helpers of a lookup under a name. -/
def helpersFor (named : String × Lookup) : List Function :=
  helpersOf named.1 named.2.root named.2.default

/-- A helper of a lookup carries another name than the helpers of a lookup of another name. -/
theorem name_notMem_helpersFor {x y : String × Lookup} (other : x.1 ≠ y.1) {helper : Function}
    (inside : helper ∈ helpersFor x) : helper.name ∉ (helpersFor y).map Function.name := by
  intro clash
  obtain ⟨f, belongs, same⟩ := List.mem_map.mp clash
  obtain ⟨i, named⟩ := exists_name_of_mem_helpersOf inside
  obtain ⟨j, named'⟩ := exists_name_of_mem_helpersOf belongs
  rw [named, named', helperName_inj] at same
  exact other same.1.symm

/-- A name is none of some names when no helper has it. -/
theorem find?_contains_eq_none_iff {names taken : List String} :
    names.find? taken.contains = none ↔ ∀ n ∈ names, n ∉ taken := by
  simp [List.find?_eq_none]

/-- The functions of lookups with different names are written when all values have literals and
no helper has a name that is taken. They are those of one lookup after the other. -/
theorem functionsFrom_eq_ok_iff {docs : List (String × String)} {taken : List String}
    {named : List (String × Lookup)} {functions : List Function}
    (distinct : (named.map Prod.fst).Nodup) :
    Program.functionsFrom docs taken named = .ok functions ↔
      functions = named.flatMap (functionsFor docs) ∧
        (∀ v ∈ functions.flatMap Function.values, v.literalFault? = none) ∧
        ∀ x ∈ named, ∀ helper ∈ helpersFor x, helper.name ∉ taken := by
  induction named generalizing taken functions with
  | nil =>
    rw [Program.functionsFrom]
    constructor
    · intro made
      cases made
      exact ⟨rfl, by simp, by simp⟩
    · rintro ⟨rfl, -, -⟩
      rfl
  | cons first rest ih =>
    obtain ⟨name, l⟩ := first
    rw [List.map_cons, List.nodup_cons] at distinct
    obtain ⟨fresh, distinct⟩ := distinct
    have apart : ∀ x ∈ rest, ∀ helper ∈ helpersFor x,
        helper.name ∉ (helpersFor (name, l)).map Function.name := fun x member _ =>
      name_notMem_helpersFor fun same => fresh (same ▸ List.mem_map_of_mem member)
    have whole : functionsFor docs (name, l)
        = mainFunction name (docs.lookup name) l.root l.default :: helpersFor (name, l) := rfl
    rw [Program.functionsFrom, ← helpersFor.eq_1 (name, l), ← whole]
    constructor
    · intro made
      split at made
      · cases made
      · rename_i literals
        split at made
        · cases made
        · rename_i untaken
          obtain ⟨others, later, rfl⟩ := map_eq_ok_iff.mp made
          obtain ⟨rfl, literals', untaken'⟩ := (ih distinct).mp later
          refine ⟨rfl, ?_, ?_⟩
          · rw [List.flatMap_append]
            exact List.forall_mem_append.mpr ⟨List.findSome?_eq_none_iff.mp literals, literals'⟩
          · refine List.forall_mem_cons.mpr
              ⟨fun helper inside => ?_, fun x member helper inside => ?_⟩
            · exact find?_contains_eq_none_iff.mp untaken _ (List.mem_map_of_mem inside)
            · exact fun old => untaken' x member helper inside (List.mem_append_right _ old)
    · rintro ⟨rfl, literals, untaken⟩
      rw [List.flatMap_cons, List.flatMap_append, List.forall_mem_append] at literals
      obtain ⟨first, others⟩ := List.forall_mem_cons.mp untaken
      have later := (@ih ((helpersFor (name, l)).map Function.name ++ taken) _ distinct).mpr
        ⟨rfl, literals.2, fun x member helper inside old =>
          (List.mem_append.mp old).elim (apart x member helper inside)
            (others x member helper inside)⟩
      have free : ((helpersFor (name, l)).map Function.name).find? taken.contains = none :=
        find?_contains_eq_none_iff.mpr (List.forall_mem_map.mpr first)
      rw [List.findSome?_eq_none_iff.mpr literals.1]
      dsimp only
      rw [free, later]
      rfl

/-! ### Modules -/

/-- `Assembles docs lookups named p`: the lookups `named` are those given under names that may
name functions, and `p` is made of their functions. -/
structure Program.Assembles (docs : List (String × String)) (lookups : List (Value × Lookup))
    (named : List (String × Lookup)) (p : Program) : Prop where
  names : List.Forall₂ (fun given x => functionName given.1 = .ok x.1 ∧ given.2 = x.2) lookups named
  distinct : (named.map Prod.fst).Nodup
  functions : p.functions = named.flatMap (functionsFor docs)
  literals : ∀ v ∈ p.functions.flatMap Function.values, v.literalFault? = none
  helpers : ∀ x ∈ named, ∀ helper ∈ helpersFor x, helper.name ∉ named.map Prod.fst

namespace Program

variable {docs : List (String × String)} {lookups : List (Value × Lookup)}
  {named : List (String × Lookup)} {p : Program}

/-- Pairs agree one by one when their first parts do and their second parts are the same. -/
theorem forall₂_pairs_iff {α β γ : Type} {R : α → β → Prop} {as : List (α × γ)}
    {bs : List (β × γ)} :
    List.Forall₂ (fun a b => R a.1 b.1 ∧ a.2 = b.2) as bs ↔
      List.Forall₂ R (as.map Prod.fst) (bs.map Prod.fst) ∧ as.map Prod.snd = bs.map Prod.snd := by
  induction as generalizing bs with
  | nil => cases bs <;> simp
  | cons a rest ih => cases bs <;> simp [ih, and_assoc, and_left_comm]

/-- Lookups give a module when there is one that they assemble. -/
theorem ofLookups_eq_ok_iff :
    ofLookups docs lookups = .ok p ↔ ∃ named, Assembles docs lookups named p := by
  unfold ofLookups
  constructor
  · intro made
    cases found : functionNames [] (lookups.map Prod.fst) with
    | error fault =>
      rw [found] at made
      cases made
    | ok names =>
      rw [found] at made
      obtain ⟨functions, written, rfl⟩ := map_eq_ok_iff.mp made
      obtain ⟨valid, distinct, -⟩ := functionNames_eq_ok_iff.mp found
      have counts : names.length = (lookups.map Prod.snd).length := by
        rw [← valid.length_eq, List.length_map, List.length_map]
      have first := List.map_fst_zip (Nat.le_of_eq counts)
      have second := List.map_snd_zip (Nat.le_of_eq counts.symm)
      rw [← first] at valid distinct
      obtain ⟨rfl, literals, helpers⟩ := (functionsFrom_eq_ok_iff distinct).mp written
      exact ⟨_, forall₂_pairs_iff.mpr ⟨valid, second.symm⟩, distinct, rfl, literals,
        first.symm ▸ helpers⟩
  · rintro ⟨named, assembles⟩
    obtain ⟨valid, same⟩ :=
      (forall₂_pairs_iff (R := fun v n => functionName v = .ok n)).mp assembles.names
    have found := (@functionNames_eq_ok_iff [] _ _).mpr ⟨valid, assembles.distinct, by simp⟩
    have written := (functionsFrom_eq_ok_iff assembles.distinct).mpr
      ⟨assembles.functions, assembles.literals, assembles.helpers⟩
    rw [found]
    dsimp only
    rw [← List.zip_of_prod rfl same.symm, written]
    rfl

namespace Assembles

/-- A lookup that is given stands under its name. -/
theorem exists_named (assembles : Assembles docs lookups named p) {given : Value × Lookup}
    (member : given ∈ lookups) : ∃ n, functionName given.1 = .ok n ∧ (n, given.2) ∈ named := by
  have names := assembles.names
  clear assembles
  induction names with
  | nil => exact absurd member List.not_mem_nil
  | @cons _ x _ _ first _ ih =>
    rcases List.mem_cons.mp member with rfl | member
    · exact ⟨x.1, first.1, first.2 ▸ List.mem_cons_self⟩
    · obtain ⟨n, valid, inside⟩ := ih member
      exact ⟨n, valid, List.mem_cons_of_mem _ inside⟩

/-- A lookup that stands under a name is given. -/
theorem exists_given (assembles : Assembles docs lookups named p) {x : String × Lookup}
    (member : x ∈ named) : ∃ v, functionName v = .ok x.1 ∧ (v, x.2) ∈ lookups := by
  have names := assembles.names
  clear assembles
  induction names with
  | nil => exact absurd member List.not_mem_nil
  | @cons given _ _ _ first _ ih =>
    rcases List.mem_cons.mp member with rfl | member
    · exact ⟨given.1, first.1, first.2 ▸ List.mem_cons_self⟩
    · obtain ⟨v, valid, inside⟩ := ih member
      exact ⟨v, valid, List.mem_cons_of_mem _ inside⟩

/-- The functions of a module are those of its lookups. -/
theorem mem_functions_iff (assembles : Assembles docs lookups named p) {f : Function} :
    f ∈ p.functions ↔ ∃ x ∈ named, f ∈ functionsFor docs x := by
  rw [assembles.functions, List.mem_flatMap]

/-- No two functions of a module have the same name: those of one lookup carry its name in
different ways, and the helpers of a lookup carry no other name. -/
theorem nodup_name (assembles : Assembles docs lookups named p) :
    (p.functions.map Function.name).Nodup := by
  rw [assembles.functions, List.map_flatMap, List.nodup_flatMap]
  constructor
  · intro x _
    refine List.Nodup.of_map Text.normalForm ?_
    rw [List.map_map]
    exact nodup_normalForm_functionsOf x.1 _ x.2.root x.2.default
  · refine List.Pairwise.imp_of_mem ?_ (List.pairwise_map.mp assembles.distinct)
    intro x y first second other name inX inY
    obtain ⟨f, belongs, rfl⟩ := List.mem_map.mp inX
    obtain ⟨g, belongs', same⟩ := List.mem_map.mp inY
    rcases List.mem_cons.mp belongs with rfl | helper
    · rcases List.mem_cons.mp belongs' with rfl | helper'
      · exact other same.symm
      · exact assembles.helpers y second g helper' (same ▸ List.mem_map_of_mem first)
    · rcases List.mem_cons.mp belongs' with rfl | helper'
      · exact assembles.helpers x first f helper (same ▸ List.mem_map_of_mem second)
      · exact name_notMem_helpersFor (Ne.symm other) helper' (same ▸ List.mem_map_of_mem helper)

end Assembles

end Program

/-! ### The module of one lookup -/

/-- The program of a lookup under a name. -/
def lookupProgram (n : String) (l : Lookup) : Program := ⟨functionsOf n none l.root l.default⟩

/-- A value that names a function counts as true. -/
theorem isTruthy_of_functionName {name : Value} {n : String} (named : functionName name = .ok n) :
    name.isTruthy = true := by
  obtain ⟨content, valid⟩ := functionName_eq_ok_iff.mp named
  obtain ⟨t, isText, rfl⟩ := Option.map_eq_some_iff.mp content
  exact isTruthy_of_text? isText (ne_empty_of_isFunctionName valid)

/-- A lookup gives a module when all values in its functions have literals. -/
theorem ofLookups_singleton_eq_ok_iff {l : Lookup} {name : Value} {n : String} {p : Program}
    (named : functionName name = .ok n) :
    Program.ofLookups [] [(name, l)] = .ok p ↔
      p = lookupProgram n l ∧
        ∀ v ∈ p.functions.flatMap Function.values, v.literalFault? = none := by
  rw [Program.ofLookups_eq_ok_iff]
  constructor
  · rintro ⟨_, assembles⟩
    obtain ⟨⟨m, l'⟩, none, ⟨named', rfl⟩, nothing, rfl⟩ :=
      List.forall₂_cons_left_iff.mp assembles.names
    obtain rfl := List.forall₂_nil_left_iff.mp nothing
    obtain rfl := Except.ok.inj (named.symm.trans named')
    have functions := assembles.functions
    rw [List.flatMap_singleton] at functions
    exact ⟨congrArg Program.mk functions, assembles.literals⟩
  · rintro ⟨rfl, literals⟩
    refine ⟨[(n, l)], ⟨.cons ⟨named, rfl⟩ .nil, List.nodup_singleton n, ?_, literals, ?_⟩⟩
    · exact (List.flatMap_singleton ..).symm
    · intro x member helper inside taken
      obtain rfl := List.mem_singleton.mp member
      obtain ⟨number, carries⟩ := exists_name_of_mem_helpersOf inside
      exact helperName_ne n number (carries ▸ List.mem_singleton.mp taken)

/-- The program of one lookup, whose name may name a function and whose values have
literals, consists of the functions of its tree. -/
theorem Program.ofLookups_eq_ok {l : Lookup} {name : Value} {n : String}
    (named : functionName name = .ok n) (dispatching : Dispatching l.root)
    (miss : l.default.literalFault? = none)
    (hits : ∀ e ∈ l.root.leaves, e.value.literalFault? = none) :
    ofLookups [] [(name, l)] = .ok ⟨functionsOf n none l.root l.default⟩ := by
  refine (ofLookups_singleton_eq_ok_iff named).mpr ⟨rfl, fun v member => ?_⟩
  rcases of_mem_values_functionsOf dispatching member with rfl | ⟨e, leaf, rfl⟩
  · exact miss
  · exact hits e leaf

/-- The same with texts that document functions. -/
theorem Program.ofLookups_documented_eq_ok (docs : List (String × String)) {l : Lookup}
    {name : Value} {n : String} (named : functionName name = .ok n)
    (dispatching : Dispatching l.root) (miss : l.default.literalFault? = none)
    (hits : ∀ e ∈ l.root.leaves, e.value.literalFault? = none) :
    ofLookups docs [(name, l)] = .ok ⟨functionsFor docs (n, l)⟩ := by
  rw [ofLookups_eq_ok_iff]
  refine ⟨[(n, l)], .cons ⟨named, rfl⟩ .nil, List.nodup_singleton n, ?_, ?_, ?_⟩
  · exact (List.flatMap_singleton ..).symm
  · intro v member
    rcases of_mem_values_functionsOf dispatching member with rfl | ⟨e, leaf, rfl⟩
    · exact miss
    · exact hits e leaf
  · intro x member helper inside taken
    obtain rfl := List.mem_singleton.mp member
    obtain ⟨number, carries⟩ := exists_name_of_mem_helpersOf inside
    exact helperName_ne n number (carries ▸ List.mem_singleton.mp taken)

/-- A lookup is written when all values in its functions have literals. -/
theorem render_eq_ok_iff {l : Lookup} {name : Value} {n s : String}
    (named : functionName name = .ok n) :
    render l name = .ok s ↔
      (∀ v ∈ (lookupProgram n l).functions.flatMap Function.values, v.literalFault? = none) ∧
        (lookupProgram n l).text standardUnit = s := by
  rw [render, if_pos (isTruthy_of_functionName named), renderModule, map_eq_ok_iff]
  simp only [ofLookups_singleton_eq_ok_iff named]
  constructor
  · rintro ⟨_, ⟨rfl, literals⟩, text⟩
    exact ⟨literals, text⟩
  · rintro ⟨literals, text⟩
    exact ⟨_, ⟨rfl, literals⟩, text⟩

/-! ### The lookup of a letter -/

/-- The lookup of the letter `a`, which answers with a value. -/
def letterLookup (v : Value) : Lookup where
  root := .lengthTest 1 (.leaf ⟨⟨"a", .plain⟩, 0, v⟩) .miss
  keyCount := 1

/-- It is declared by one key and one value. -/
theorem lookup_letter (v : Value) :
    Declared.lookup { keys := .list [.str "a"], values := .list [v] } = .ok (letterLookup v) := by
  cbv

/-- It is written without helpers. -/
theorem helpersOf_letter (n : String) (v : Value) :
    helpersOf n (letterLookup v).root (letterLookup v).default = [] := by
  have none : (mainBlock n (letterLookup v).root).cut = [] := rfl
  rw [helpersOf, none, helpersFrom]

/-- It is written under every name that may name a function. -/
theorem ofLookups_letter {v : Value} {name : Value} {n : String} (named : functionName name = .ok n)
    (literal : v.literalFault? = none) :
    Program.ofLookups [] [(name, letterLookup v)] = .ok (lookupProgram n (letterLookup v)) := by
  refine Program.ofLookups_eq_ok named (.chain (.lengthTest (.leaf _) .miss)) rfl fun e leaf => ?_
  obtain rfl := List.mem_singleton.mp leaf
  exact literal

end KeyTree.Source
