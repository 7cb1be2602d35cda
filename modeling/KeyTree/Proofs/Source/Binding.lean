/-
# Names and the functions that they bind

A definition binds the normal form of the name that it is written with. Names are only compared
as texts, so different names can bind the same identifier, and a name that is not its own normal
form is not bound at all. Where every name is its own normal form, each of the functions of a
module is bound under its own name, and none replaces another.

* `Assembles.nodup_bound` — the functions of a module bind different identifiers.
* `compile_eq_ok_iff` — when a function is found after its module has been read back in.
* `Program.requested_bound` — every name is bound to the function of its own lookup.
* `Program.ordinal_unbound` — a name that is accepted and not bound.
-/

import KeyTree.Proofs.Source.Readable
import KeyTree.Source.Compiled

namespace KeyTree.Source.Program

open KeyTree.Text

variable {docs : List (String × String)} {lookups : List (Value × Lookup)}
  {named : List (String × Lookup)} {p : Program}

/-- The functions of a module have names in normal form when its lookups do. -/
theorem Assembles.normalForm_name (assembles : Assembles docs lookups named p)
    (normal : ∀ x ∈ named, normalForm x.1 = x.1) {f : Function} (member : f ∈ p.functions) :
    normalForm f.name = f.name := by
  obtain ⟨x, inside, belongs⟩ := assembles.mem_functions_iff.mp member
  rcases List.mem_cons.mp belongs with rfl | helper
  · exact normal x inside
  · obtain ⟨number, carries⟩ := exists_name_of_mem_helpersOf helper
    rw [carries, normalForm_helperName, normal x inside]

/-- The functions of a module bind different identifiers when its lookups have names in normal
form. -/
theorem Assembles.nodup_bound (assembles : Assembles docs lookups named p)
    (normal : ∀ x ∈ named, normalForm x.1 = x.1) : p.bound.Nodup := by
  have same : p.bound = p.functions.map Function.name :=
    List.map_congr_left fun f member => assembles.normalForm_name normal member
  rw [same]
  exact assembles.nodup_name

/-! ### Loading -/

/-- The names that a program binds are those of its imports and of its functions. -/
theorem map_fst_bindings (p : Program) : p.bindings.map Prod.fst = p.roots ++ p.bound := by
  have headers (line : Nat) (functions : List Function) :
      (headersFrom line functions).map Prod.fst
        = functions.map fun f => Text.normalForm f.name := by
    induction functions generalizing line with
    | nil => rfl
    | cons f rest ih => rw [headersFrom, List.map_cons, ih, List.map_cons]
  rw [bindings, List.map_append, headers, bound, List.zipIdx_map_fst]

/-- A program is loaded when it does not bind the constant and its modules can be imported. -/
theorem loadFault?_eq_none_iff {env : Environment} :
    p.loadFault? env = none ↔
      guardName ∉ p.roots ∧ guardName ∉ p.bound ∧ ∀ m ∈ p.imports, env.importable m = .ok true := by
  have names : (∀ b ∈ p.bindings, b.1 ≠ guardName) ↔ guardName ∉ p.roots ∧ guardName ∉ p.bound := by
    rw [← not_or, ← List.mem_append, ← map_fst_bindings, List.mem_map, not_exists]
    exact forall_congr' fun b => not_and.symm
  rw [← and_assoc, ← names, loadFault?]
  split
  · rename_i found
    refine iff_of_false (fun loads => ?_) fun loads => ?_
    · cases loads
    · refine loads.1 _ (List.mem_of_find?_eq_some found) ?_
      exact of_decide_eq_true (List.find?_eq_some_iff_append.mp found).1
  · rename_i free
    have free : ∀ b ∈ p.bindings, b.1 ≠ guardName := by simpa using free
    rw [List.findSome?_eq_none_iff, and_iff_right free]
    refine forall₂_congr fun m _ => ?_
    -- Of what an import can come to, only a module leaves no fault.
    split
    · next there => simp [there]
    · next missing => simp [missing]
    · next exception raised => simp [raised]

/-- The functions of a module bind the constant when one of its lookups has its name. -/
theorem Assembles.guardName_mem_bound_iff (assembles : Assembles docs lookups named p) :
    guardName ∈ p.bound ↔ ∃ x ∈ named, normalForm x.1 = guardName := by
  constructor
  · intro member
    obtain ⟨f, inside, same⟩ := List.mem_map.mp member
    obtain ⟨x, belongs, own⟩ := assembles.mem_functions_iff.mp inside
    rcases List.mem_cons.mp own with rfl | helper
    · exact ⟨x, belongs, same⟩
    · obtain ⟨number, carries⟩ := exists_name_of_mem_helpersOf helper
      rw [carries] at same
      exact absurd same (normalForm_helperName_ne_of_getLast? (by decide) x.1 number)
  · rintro ⟨x, belongs, same⟩
    exact List.mem_map.mpr
      ⟨_, assembles.mem_functions_iff.mpr ⟨x, belongs, List.mem_cons_self⟩, same⟩

/-! ### Compiling -/

/-- A module that reads back in and is loaded has a function under a name when the name is its own
normal form. -/
theorem compile_eq_ok_iff {env : Environment} {name : Value} {c : Compiled} :
    p.compile env name = .ok c ↔
      readFault? p.firstLine p.lines = none ∧ p.loadFault? env = none ∧
        normalForm name.print = name.print ∧ c = ⟨p, name.print⟩ := by
  unfold compile
  split
  · rename_i unreadable
    simp [unreadable]
  · rename_i readable
    split
    · rename_i unloaded
      simp [unloaded]
    · rename_i loads
      split
      · rename_i normal
        simp [readable, loads, normal, eq_comm]
      · rename_i denormal
        simp [denormal]

/-- A module that reads back in and is loaded has no function under a name that is not its own
normal form. -/
theorem compile_eq_unbound {env : Environment} {name : Value}
    (readable : readFault? p.firstLine p.lines = none) (loads : p.loadFault? env = none)
    (denormal : normalForm name.print ≠ name.print) :
    p.compile env name = .error (.unbound name) := by
  rw [compile, readable]
  dsimp only
  rw [loads]
  dsimp only
  rw [if_neg denormal]

/-- A lookup is compiled by reading its module in. -/
theorem compile_of_ofLookups {env : Environment} {l : Lookup} {name : Value}
    (made : ofLookups [] [(compiledName l name, l)] = .ok p) :
    Source.compile env l name = p.compile env (compiledName l name) := by
  unfold Source.compile
  dsimp only
  rw [made]

/-- Every name of a module is bound to the function of its own lookup when the names are their own
normal forms. The module is loaded unless one of its lookups or imports has the name of the constant
or a module cannot be imported; and if it reads back and is loaded, it has a function under each
of its names. -/
theorem requested_bound (env : Environment) (made : ofLookups docs lookups = .ok p)
    (normal : ∀ given ∈ lookups, ∀ n, functionName given.1 = .ok n → normalForm n = n) :
    p.bound.Nodup ∧
      (p.loadFault? env = none ↔
        (∀ given ∈ lookups, functionName given.1 ≠ .ok guardName) ∧ guardName ∉ p.roots ∧
          ∀ m ∈ p.imports, env.importable m = .ok true) ∧
      ∀ given ∈ lookups, ∃ n, functionName given.1 = .ok n ∧
        p.function? n = some (mainFunction n (docs.lookup n) given.2.root given.2.default) ∧
        (readFault? p.firstLine p.lines = none → p.loadFault? env = none →
          p.compile env given.1 = .ok ⟨p, n⟩) := by
  obtain ⟨named, assembles⟩ := ofLookups_eq_ok_iff.mp made
  have normal : ∀ x ∈ named, normalForm x.1 = x.1 := by
    intro x member
    obtain ⟨v, valid, given⟩ := assembles.exists_given member
    exact normal _ given x.1 valid
  have distinct : p.bound.Nodup := assembles.nodup_bound normal
  refine ⟨distinct, ?_, fun given member => ?_⟩
  · have guarded : guardName ∉ p.bound ↔
        ∀ given ∈ lookups, functionName given.1 ≠ .ok guardName := by
      rw [assembles.guardName_mem_bound_iff]
      constructor
      · intro free given member valid
        obtain ⟨n, valid', inside⟩ := assembles.exists_named member
        obtain rfl := Except.ok.inj (valid.symm.trans valid')
        exact free ⟨_, inside, normal _ inside⟩
      · rintro free ⟨x, inside, same⟩
        obtain ⟨v, valid, given⟩ := assembles.exists_given inside
        exact free _ given ((normal x inside).symm.trans same ▸ valid)
    rw [loadFault?_eq_none_iff, guarded]
    exact and_left_comm
  · obtain ⟨n, valid, inside⟩ := assembles.exists_named member
    have print := print_of_functionName valid
    refine ⟨n, valid, ?_, fun readable loads => compile_eq_ok_iff.mpr ⟨readable, loads, ?_, ?_⟩⟩
    · exact function?_eq_some distinct
        (assembles.mem_functions_iff.mpr ⟨_, inside, List.mem_cons_self⟩)
    · rw [print]
      exact normal _ inside
    · rw [print]

/-! ### Two lookups -/

/-- Values in the functions of a declared lookup are those declared or that reported on a miss. -/
theorem of_mem_values_functionsFor {d : Declared} {keys : List Text} {values : List Value}
    {l : Lookup} {n : String} (lists : d.Lists keys values) (built : d.lookup = .ok l) {v : Value}
    (member : v ∈ (functionsFor docs (n, l)).flatMap Function.values) :
    v = missValue d.valueType ∨ v ∈ values := by
  obtain ⟨decides, default⟩ := Declared.decides_of_lookup lists built
  rcases of_mem_values_functionsOf decides.dispatching member with rfl | ⟨e, leaf, rfl⟩
  · exact .inl default
  · exact .inr (Declared.value_mem_of_mem_leaves decides leaf)

/-- The values in the functions of a letter name no classes when its own names none. -/
theorem namedClass?_of_mem_letter {v : Value} {n : String} (scalar : v.namedClass? = none) :
    ∀ w ∈ (functionsFor docs (n, letterLookup v)).flatMap Function.values, w.namedClass? = none := by
  intro w member
  rcases of_mem_values_functionsFor (Declared.lists_letter v) (lookup_letter v) member
    with rfl | given
  · exact Value.namedClass?_missValue _
  · rw [List.mem_singleton.mp given, scalar]

/-- The program of a lookup and of that of a letter. -/
def pairProgram (l : Lookup) (v : Value) : Program where
  functions := functionsFor [] ("find", l) ++ functionsFor [] ("pick", letterLookup v)

section Pair

variable {l : Lookup} {v : Value}

/-- The values in this program are that of the letter and others, which have literals and name no
classes. -/
theorem values_pairProgram (built : Declared.deep.lookup = .ok l) :
    ∀ w ∈ (pairProgram l v).functions.flatMap Function.values,
      w = v ∨ w.literalFault? = none ∧ w.namedClass? = none := by
  intro w member
  rw [pairProgram, List.flatMap_append] at member
  rcases List.mem_append.mp member with first | second
  · rcases of_mem_values_functionsFor Declared.lists_deep built first with rfl | given
    · exact .inr ⟨literalFault?_missValue _, Value.namedClass?_missValue _⟩
    · obtain ⟨i, -, rfl⟩ := List.mem_map.mp given
      exact .inr ⟨rfl, rfl⟩
  · rcases of_mem_values_functionsFor (Declared.lists_letter v) (lookup_letter _) second
      with rfl | given
    · exact .inr ⟨literalFault?_missValue _, Value.namedClass?_missValue _⟩
    · exact .inl (List.mem_singleton.mp given)

/-- The two lookups give this program when the value of the letter has a literal. -/
theorem assembles_pair (built : Declared.deep.lookup = .ok l) (literal : v.literalFault? = none) :
    Assembles [] [(.str "find", l), (.str "pick", letterLookup v)]
      [("find", l), ("pick", letterLookup v)] (pairProgram l v) := by
  refine ⟨.cons ⟨rfl, rfl⟩ (.cons ⟨rfl, rfl⟩ .nil), by simp, by simp [pairProgram],
    fun w member => ?_, fun x _ helper belongs taken => ?_⟩
  · rcases values_pairProgram built w member with rfl | ⟨literal, -⟩ <;> exact literal
  · obtain ⟨number, carries⟩ := exists_name_of_mem_helpersOf belongs
    have leads : ∀ n ∈ ["find", "pick"], n.toList.head? ≠ some '_' := by decide
    refine leads _ (carries ▸ taken) ?_
    rw [toList_helperName]
    rfl

/-- The program reads back when the literal of the value of the letter does. -/
theorem readFault?_pairProgram (built : Declared.deep.lookup = .ok l)
    (faithful : valueReading v = .faithful) (number : Nat) :
    readFault? number (pairProgram l v).lines = none := by
  refine readFault?_eq_none number (List.forall_mem_append.mpr ⟨?_, ?_⟩)
  · refine Declared.readable_functionsOf Declared.lists_deep built Declared.few_lengths_deep ?_ ?_
      "find" none
    · exact List.forall_mem_map.mpr fun k _ => keyReading_of_plain rfl
    · exact List.forall_mem_map.mpr fun i _ => rfl
  · exact Declared.readable_letter faithful "pick" none

/-- The names of the two lookups. -/
theorem name_pair {given : Value × Lookup}
    (member : given ∈ [(.str "find", l), (.str "pick", letterLookup v)]) {n : String}
    (valid : functionName given.1 = .ok n) :
    n ∈ ["find", "pick"] ∧ normalForm n = n := by
  have ascii : ∀ n ∈ ["find", "pick"], n.toList.all (·.toNat < 0x80) = true := by decide
  have known : n ∈ ["find", "pick"] := by
    simp only [List.mem_cons, List.not_mem_nil, or_false] at member
    rcases member with rfl | rfl <;> cases valid <;> decide
  exact ⟨known, normalForm_of_ascii (ascii n known)⟩

end Pair

/-- Both lookups are compiled under their names, and the helper stands between them. -/
theorem requested_bound_pair :
    ∃ l, Declared.deep.lookup = .ok l ∧
      ofLookups [] [(.str "find", l), (.str "pick", letterLookup (.int 1))]
        = .ok (pairProgram l (.int 1)) ∧
      (pairProgram l (.int 1)).functions.length = 3 ∧ (pairProgram l (.int 1)).bound.Nodup ∧
      (pairProgram l (.int 1)).compile .bare (.str "find")
        = .ok ⟨pairProgram l (.int 1), "find"⟩ ∧
      (pairProgram l (.int 1)).compile .bare (.str "pick")
        = .ok ⟨pairProgram l (.int 1), "pick"⟩ := by
  obtain ⟨l, built, helper, -⟩ := Declared.lookup_deep
  have made := ofLookups_eq_ok_iff.mpr
    ⟨_, assembles_pair built (v := .int 1) (literalFault?_int (by decide))⟩
  obtain ⟨distinct, loads, bound⟩ := requested_bound .bare made fun given member n valid =>
    (name_pair member valid).2
  have scalar : ∀ w ∈ (pairProgram l (.int 1)).functions.flatMap Function.values,
      w.namedClass? = none := fun w member =>
    (values_pairProgram built w member).elim (fun same => same ▸ rfl) And.right
  have imports := imports_eq_nil scalar
  have loads := loads.mpr ⟨fun given member named => by
      have other : guardName ∉ ["find", "pick"] := by decide
      exact other (name_pair member named).1, by simp [roots, imports], by simp [imports]⟩
  have compiled {given : Value × Lookup} {n : String}
      (member : given ∈ [(Value.str "find", l), (.str "pick", letterLookup (.int 1))])
      (named : functionName given.1 = .ok n) :
      (pairProgram l (.int 1)).compile .bare given.1 = .ok ⟨pairProgram l (.int 1), n⟩ := by
    obtain ⟨n', named', -, compiles⟩ := bound given member
    obtain rfl := Except.ok.inj (named.symm.trans named')
    exact compiles (readFault?_pairProgram built rfl _) loads
  refine ⟨l, built, made, ?_, distinct, compiled List.mem_cons_self rfl,
    compiled (List.mem_cons_of_mem _ List.mem_cons_self) rfl⟩
  have first : (functionsFor [] ("find", l)).length = 2 := congrArg (· + 1) helper
  have second : (functionsFor [] ("pick", letterLookup (.int 1))).length = 1 :=
    congrArg (List.length · + 1) (helpersOf_letter "pick" (.int 1))
  rw [pairProgram, List.length_append, first, second]

/-- The feminine ordinal indicator stands for the letter `a`. -/
theorem normalForm_ordinal : normalForm "ª" = "a" := by
  have stands : decomposition? 'ª' = some ['a'] := by
    rw [decomposition?, decompositionBlocks, List.find?_cons_of_pos (by decide)]
    dsimp only
    rw [List.flatMap_cons, List.findSome?_append, Option.or_eq_some_iff]
    exact .inl rfl
  have whole : decompose ['ª'] = ['a'] := by
    rw [decompose, List.flatMap_cons, stands]
    rfl
  rw [normalForm_of_not_ascii (by decide)]
  change String.ofList (compose (orderMarks (decompose ['ª']))) = _
  rw [whole]
  rfl

/-- A name that is not its own normal form is accepted, but its function is not found under it. -/
theorem ordinal_unbound :
    Declared.lookup { keys := .list [.str "a"], values := .list [.int 1] }
        = .ok (letterLookup (.int 1)) ∧
      (∃ s, render (letterLookup (.int 1)) (.str "ª") = .ok s) ∧
      Source.compile .bare (letterLookup (.int 1)) (.str "ª") = .error (.unbound (.str "ª")) := by
  have made := @ofLookups_letter (.int 1) (.str "ª") "ª" rfl (literalFault?_int (by decide))
  refine ⟨lookup_letter _, ?_, ?_⟩
  · rw [render, renderModule, show (Value.str "ª").isTruthy = true from rfl, if_pos rfl, made]
    exact ⟨_, rfl⟩
  · have readable : readFault? (firstLine (lookupProgram "ª" (letterLookup (.int 1))))
        (lines (lookupProgram "ª" (letterLookup (.int 1)))) = none :=
      readFault?_eq_none _ (Declared.readable_letter rfl "ª" none)
    have imports : imports (lookupProgram "ª" (letterLookup (.int 1))) = [] :=
      imports_eq_nil (@namedClass?_of_mem_letter [] (.int 1) "ª" rfl)
    have bound : bound (lookupProgram "ª" (letterLookup (.int 1))) = ["a"] := by
      rw [bound, lookupProgram, functionsOf, helpersOf_letter]
      exact congrArg (List.cons · []) normalForm_ordinal
    have loads : loadFault? .bare (lookupProgram "ª" (letterLookup (.int 1))) = none := by
      rw [loadFault?_eq_none_iff, bound, roots, imports]
      decide
    have denormal : normalForm (Value.str "ª").print ≠ (Value.str "ª").print := by
      have normal : normalForm (Value.str "ª").print = "a" := normalForm_ordinal
      rw [normal]
      decide
    rw [@compile_of_ofLookups _ .bare (letterLookup (.int 1)) (.str "ª") made]
    exact compile_eq_unbound readable loads denormal

end KeyTree.Source.Program
