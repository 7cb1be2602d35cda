/-
# What a dotted name leads to

A name with dots is cut before its last part, or earlier: what stands in front of the cut is taken
for a module, the longest that can be imported, and the rest leads from the module through
attributes. A module that raises an exception when it is imported ends the search, as does an
attribute that raises one when it is read. A name that starts with a dot has an empty part in front
and leads to a fault at once. The fault is that of a module without a name when this dot is the only
one, and that of a relative module when another dot follows; no other name leads to a relative
module.

* `Environment.Spells` — the module and the attributes that a name stands for.
* `Environment.Raises` — the exceptions that a name leads to.
* `Environment.find_eq_ok_iff`, `Environment.find_eq_error_iff` — what a name leads to.
* `Environment.resolve_eq_ok_iff` — the class that a value names.
* `Environment.resolve_eq_relativeModule_iff` — the values that name a relative module.
* `Environment.resolve_eq_raised_iff` — the values that lead to an exception.
-/

import KeyTree.Class.Environment
import KeyTree.Proofs.Outcome

namespace KeyTree

/-! ### Parts of names -/

/-- There is one part more than there are dots. -/
theorem length_dottedParts (name : String) :
    (dottedParts name).length = name.toList.count '.' + 1 := by
  rw [dottedParts, List.length_map]
  generalize name.toList = s
  fun_induction Text.parts '.' s with
  | case1 => rfl
  | case2 rest ih => rw [List.length_cons, ih, List.count_cons_self]
  | case3 c rest other part others split ih =>
    rw [split] at ih
    rw [List.count_cons_of_ne other, ← ih, List.length_cons, List.length_cons]
  | case4 c rest other split ih => exact absurd split (Text.parts_ne_nil '.' rest)

/-- No part holds a dot. -/
theorem dot_notMem_of_mem_dottedParts {name part : String} (member : part ∈ dottedParts name) :
    '.' ∉ part.toList := by
  obtain ⟨chars, inside, rfl⟩ := List.mem_map.mp member
  rw [String.toList_ofList]
  exact Text.not_mem_of_mem_parts name.toList chars inside

/-- The parts with dots between them are the name. -/
theorem joinDots_dottedParts (name : String) : joinDots (dottedParts name) = name := by
  have chars : (dottedParts name).map String.toList = Text.parts '.' name.toList := by
    rw [dottedParts, List.map_map]
    exact (List.map_congr_left fun part _ => String.toList_ofList).trans (List.map_id _)
  rw [← String.toList_inj, joinDots, String.toList_intercalate, chars]
  exact Text.intercalate_parts '.' name.toList

/-- The parts of a name that starts with a dot start with an empty one. -/
theorem dottedParts_of_dot {name : String} {rest : List Char} (starts : name.toList = '.' :: rest) :
    dottedParts name = "" :: dottedParts (String.ofList rest) := by
  rw [dottedParts, starts, Text.parts, if_pos rfl, List.map_cons, dottedParts, String.toList_ofList]

/-- The parts of a name that starts otherwise start with one that is not empty. -/
theorem exists_dottedParts {name : String} (filled : name ≠ "")
    (other : name.toList.head? ≠ some '.') :
    ∃ first rest, dottedParts name = first :: rest ∧ first ≠ "" := by
  cases chars : name.toList with
  | nil => exact absurd (String.toList_eq_nil_iff.mp chars) filled
  | cons c rest =>
    rw [chars, List.head?_cons] at other
    have differs : c ≠ '.' := fun dot => other (congrArg some dot)
    rw [dottedParts, chars, Text.parts, if_neg differs]
    split
    · exact ⟨_, _, rfl, by simp⟩
    · exact ⟨_, _, rfl, by simp⟩

/-- A name that starts with a part that is not empty is not empty, and does not start with a
dot. -/
theorem joinDots_cons {first : String} (filled : first ≠ "") (plain : '.' ∉ first.toList)
    (rest : List String) :
    joinDots (first :: rest) ≠ "" ∧ (joinDots (first :: rest)).toList.head? ≠ some '.' := by
  have begins : ∃ behind, joinDots (first :: rest) = first ++ behind := by
    cases rest with
    | nil => exact ⟨"", by rw [joinDots, String.intercalate_singleton, String.append_empty]⟩
    | cons next others =>
      exact ⟨"." ++ joinDots (next :: others), by
        rw [joinDots, String.intercalate_cons_cons, String.append_assoc, joinDots]⟩
  obtain ⟨behind, whole⟩ := begins
  obtain ⟨c, cs, chars⟩ := List.exists_cons_of_ne_nil
    (fun none => filled (String.toList_eq_nil_iff.mp none))
  rw [whole]
  constructor
  · intro none
    have empty := congrArg String.toList none
    rw [String.toList_append, chars] at empty
    cases empty
  · rw [String.toList_append, chars, List.cons_append, List.head?_cons]
    rintro dot
    rw [chars, Option.some.inj dot] at plain
    exact plain List.mem_cons_self

/-! ### Following names -/

namespace Environment

variable {env : Environment}

/-- `env.Longest name count outcome`: in front of the last part of a name, importing its first
`count` parts has an outcome, and longer parts in front are no modules. -/
structure Longest (env : Environment) (name : String) (count : Nat)
    (outcome : Except Raised Bool) : Prop where
  starts : name.toList.head? ≠ some '.'
  cut : 0 < count
  inside : count < (dottedParts name).length
  imported : env.importable (joinDots ((dottedParts name).take count)) = outcome
  longer : ∀ k, count < k → k < (dottedParts name).length →
    env.importable (joinDots ((dottedParts name).take k)) = .ok false

/-- `env.Spells name module attributes`: the name stands for these attributes, one after the other,
of the module. -/
inductive Spells (env : Environment) (name : String) : String → List String → Prop where
  /-- A name without dots is an attribute of the builtin module. -/
  | bare (plain : '.' ∉ name.toList) : Spells env name "builtins" [name]
  /-- Of a dotted name the longest part in front that can be imported is the module. -/
  | dotted {count : Nat} (longest : env.Longest name count (.ok true)) :
      Spells env name (joinDots ((dottedParts name).take count)) ((dottedParts name).drop count)

/-- `env.Raises name exception`: looking a name up raises an exception. -/
inductive Raises (env : Environment) (name : String) (exception : Raised) : Prop where
  /-- The longest part in front that is no missing module raises it when it is imported. -/
  | importing {count : Nat} (longest : env.Longest name count (.error exception)) :
      Raises env name exception
  /-- An attribute raises it when it is read. -/
  | reading {module : String} {attributes : List String} (spells : env.Spells name module attributes)
      (raised : env.follow (.module module) attributes = .error exception) :
      Raises env name exception

/-- A name without dots has one part, so that nothing of it can stand for a module. -/
theorem not_lt_length_dottedParts {name : String} (plain : '.' ∉ name.toList) {count : Nat}
    (cut : 0 < count) : ¬ count < (dottedParts name).length := by
  rw [length_dottedParts, List.count_eq_zero_of_not_mem plain]
  omega

/-- One part in front is the longest that is no missing module. -/
theorem Longest.unique {name : String} {count count' : Nat} {outcome outcome' : Except Raised Bool}
    (longest : env.Longest name count outcome) (longest' : env.Longest name count' outcome')
    (there : outcome ≠ .ok false) (there' : outcome' ≠ .ok false) :
    count = count' ∧ outcome = outcome' := by
  rcases Nat.lt_trichotomy count count' with less | rfl | more
  · exact absurd (longest'.imported.symm.trans (longest.longer count' less longest'.inside)) there'
  · exact ⟨rfl, longest.imported.symm.trans longest'.imported⟩
  · exact absurd (longest.imported.symm.trans (longest'.longer count more longest.inside)) there

/-- A name stands for one module with one list of attributes. -/
theorem Spells.unique {name module module' : String} {attributes attributes' : List String}
    (spells : env.Spells name module attributes) (spells' : env.Spells name module' attributes') :
    module = module' ∧ attributes = attributes' := by
  cases spells with
  | bare plain =>
    cases spells' with
    | bare => exact ⟨rfl, rfl⟩
    | dotted longest =>
      exact absurd longest.inside (not_lt_length_dottedParts plain longest.cut)
  | dotted longest =>
    cases spells' with
    | bare plain => exact absurd longest.inside (not_lt_length_dottedParts plain longest.cut)
    | dotted longest' =>
      obtain ⟨rfl, -⟩ := longest.unique longest' (by simp) (by simp)
      exact ⟨rfl, rfl⟩

/-- A name that spells a module in front raises no exception when that is imported. -/
theorem Spells.not_longest_error {name module : String} {attributes : List String}
    (spells : env.Spells name module attributes) {count : Nat} {exception : Raised} :
    ¬ env.Longest name count (.error exception) := by
  intro raising
  cases spells with
  | bare plain => exact not_lt_length_dottedParts plain raising.cut raising.inside
  | dotted longest => exact nomatch (longest.unique raising (by simp) (by simp)).2

/-- A name that spells a module and attributes starts with no dot. -/
theorem Spells.head?_ne {name module : String} {attributes : List String}
    (spells : env.Spells name module attributes) : name.toList.head? ≠ some '.' := by
  cases spells with
  | bare plain => exact fun starts => plain (List.mem_of_head? starts)
  | dotted longest => exact longest.starts

/-- A name that raises an exception starts with no dot. -/
theorem Raises.head?_ne {name : String} {exception : Raised} (raises : env.Raises name exception) :
    name.toList.head? ≠ some '.' := by
  cases raises with
  | importing longest => exact longest.starts
  | reading spells => exact spells.head?_ne

/-- The module in front is the longest that is not missing, when the first part is not empty;
without such a module the name leads to the absent object. -/
theorem followLongest_of_filled {first : String} (filled : first ≠ "")
    (plain : '.' ∉ first.toList) (rest : List String) (count : Nat) :
    (∀ k, 0 < k → k ≤ count →
        env.importable (joinDots ((first :: rest).take k)) = .ok false) ∧
      env.followLongest (first :: rest) count = .ok .absent ∨
    ∃ k, 0 < k ∧ k ≤ count ∧
      (∀ j, k < j → j ≤ count →
        env.importable (joinDots ((first :: rest).take j)) = .ok false) ∧
      (env.importable (joinDots ((first :: rest).take k)) = .ok true ∧
          env.followLongest (first :: rest) count
            = (env.follow (.module (joinDots ((first :: rest).take k)))
                ((first :: rest).drop k)).mapError .raised ∨
        ∃ exception, env.importable (joinDots ((first :: rest).take k)) = .error exception ∧
          env.followLongest (first :: rest) count = .error (.raised exception)) := by
  induction count with
  | zero => exact .inl ⟨fun k positive none => absurd positive (by omega), rfl⟩
  | succ count ih =>
    obtain ⟨named, undotted⟩ := joinDots_cons filled plain (rest.take count)
    have filledModule : ¬ (joinDots ((first :: rest).take (count + 1))).isEmpty = true := by
      simpa [String.isEmpty_iff] using named
    have undottedModule :
        ¬ (joinDots ((first :: rest).take (count + 1))).toList.head? = some '.' := undotted
    have longest : ∀ j, count + 1 < j → j ≤ count + 1 →
        env.importable (joinDots ((first :: rest).take j)) = .ok false :=
      fun j above below => absurd above (by omega)
    cases outcome : env.importable (joinDots ((first :: rest).take (count + 1))) with
    | error exception =>
      have step : env.followLongest (first :: rest) (count + 1) = .error (.raised exception) := by
        simp only [followLongest, if_neg filledModule, if_neg undottedModule, outcome]
      exact .inr ⟨count + 1, count.succ_pos, Nat.le_refl _, longest,
        .inr ⟨exception, outcome, step⟩⟩
    | ok there =>
      cases there with
      | true =>
        have step : env.followLongest (first :: rest) (count + 1)
            = (env.follow (.module (joinDots ((first :: rest).take (count + 1))))
                ((first :: rest).drop (count + 1))).mapError .raised := by
          simp only [followLongest, if_neg filledModule, if_neg undottedModule, outcome]
        exact .inr ⟨count + 1, count.succ_pos, Nat.le_refl _, longest, .inl ⟨outcome, step⟩⟩
      | false =>
        have step : env.followLongest (first :: rest) (count + 1)
            = env.followLongest (first :: rest) count := by
          simp only [followLongest, if_neg filledModule, if_neg undottedModule, outcome]
        -- The next shorter part in front is tried, and this one is missing.
        have extend (low : Nat) (longer : ∀ j, low < j → j ≤ count →
            env.importable (joinDots ((first :: rest).take j)) = .ok false) :
            ∀ j, low < j → j ≤ count + 1 →
              env.importable (joinDots ((first :: rest).take j)) = .ok false := by
          intro j above le
          rcases Nat.lt_or_eq_of_le le with less | rfl
          · exact longer j above (by omega)
          · exact outcome
        rw [step]
        rcases ih with ⟨nothing, absent⟩ | ⟨k, positive, below, longer, leads⟩
        · exact .inl ⟨extend 0 nothing, absent⟩
        · exact .inr ⟨k, positive, by omega, extend k longer, leads⟩

/-- A name without dots leads to a builtin. -/
theorem find_of_plain {name : String} (plain : '.' ∉ name.toList) :
    env.find name = (env.follow (.module "builtins") [name]).mapError .raised := by
  have count := length_dottedParts name
  rw [List.count_eq_zero_of_not_mem plain] at count
  obtain ⟨single, alone⟩ := List.length_eq_one_iff.mp count
  have same := joinDots_dottedParts name
  rw [alone, joinDots, String.intercalate_singleton] at same
  rw [find, alone, same]

/-- A name with dots leads to what its longest module in front leads to. -/
theorem find_of_dotted {name : String} (dotted : '.' ∈ name.toList) :
    env.find name = env.followLongest (dottedParts name) ((dottedParts name).length - 1) := by
  have count := length_dottedParts name
  have positive := List.count_pos_iff.mpr dotted
  rw [find]
  split
  · rename_i single alone
    rw [alone, List.length_singleton] at count
    omega
  · rfl

/-- A name that starts with a dot leads to a fault: that of a relative module when another dot
follows. -/
theorem find_of_dot {name : String} {rest : List Char} (starts : name.toList = '.' :: rest) :
    env.find name = .error (if '.' ∈ rest then .relativeModule (joinDots (dottedParts name).dropLast)
      else .emptyModule) := by
  have dotted : '.' ∈ name.toList := starts ▸ List.mem_cons_self
  have count := length_dottedParts (String.ofList rest)
  rw [String.toList_ofList] at count
  rw [find_of_dotted dotted, dottedParts_of_dot starts]
  generalize dottedParts (String.ofList rest) = parts at count
  have behind : ("" :: parts).length - 1 = rest.count '.' + 1 := by rw [← count]; rfl
  have front : ("" :: parts).take (rest.count '.' + 1) = "" :: parts.take (rest.count '.') := rfl
  have most : ("" :: parts).dropLast = "" :: parts.take (rest.count '.') := by
    rw [List.dropLast_eq_take, behind, front]
  rw [behind, followLongest, front, most]
  by_cases more : '.' ∈ rest
  · have positive := List.count_pos_iff.mpr more
    have longer : parts.take (rest.count '.') ≠ [] := by
      intro none
      have zero := congrArg List.length none
      rw [List.length_take, count, List.length_nil] at zero
      omega
    obtain ⟨next, others, split⟩ := List.exists_cons_of_ne_nil longer
    have leading : (joinDots ("" :: next :: others)).toList
        = '.' :: (joinDots (next :: others)).toList := by
      rw [joinDots, String.intercalate_cons_cons, String.empty_append, String.toList_append]
      rfl
    have filled : (joinDots ("" :: next :: others)).isEmpty = false := by
      rw [Bool.eq_false_iff, ne_eq, String.isEmpty_iff]
      intro none
      rw [none] at leading
      cases leading
    simp only [split, filled, leading, more, List.head?_cons, if_true, Bool.false_eq_true, if_false]
  · have alone : parts.take (rest.count '.') = [] := by
      rw [List.count_eq_zero_of_not_mem more, List.take_zero]
    rw [alone, if_neg more]
    rfl

/-- `env.Leads name outcome`: what looking a name up ends in that does not start with a dot. -/
inductive Leads (env : Environment) (name : String) : Except ClassNameFault Entity → Prop where
  /-- No part in front is a module. -/
  | nowhere (dotted : '.' ∈ name.toList)
      (missing : ∀ k, 0 < k → k < (dottedParts name).length →
        env.importable (joinDots ((dottedParts name).take k)) = .ok false) :
      Leads env name (.ok .absent)
  /-- Attributes are followed from the module that the name spells. -/
  | spelled {module : String} {attributes : List String}
      (spells : env.Spells name module attributes) :
      Leads env name ((env.follow (.module module) attributes).mapError .raised)
  /-- A part in front raises an exception. -/
  | raising {count : Nat} {exception : Raised} (longest : env.Longest name count (.error exception)) :
      Leads env name (.error (.raised exception))

/-- What a name leads to that does not start with a dot. -/
theorem find_leads {name : String} (filled : name ≠ "") (starts : name.toList.head? ≠ some '.') :
    env.Leads name (env.find name) := by
  by_cases dotted : '.' ∈ name.toList
  · obtain ⟨first, rest, parts, named⟩ := exists_dottedParts filled starts
    have plain : '.' ∉ first.toList :=
      dot_notMem_of_mem_dottedParts (parts ▸ List.mem_cons_self : first ∈ dottedParts name)
    have cases := @followLongest_of_filled env first named plain rest
      ((dottedParts name).length - 1)
    rw [← parts] at cases
    rw [find_of_dotted dotted]
    rcases cases with ⟨nothing, absent⟩ | ⟨k, positive, below, longer, leads⟩
    · rw [absent]
      exact .nowhere dotted fun k positive inside => nothing k positive (by omega)
    · have longest {outcome : Except Raised Bool}
          (imported : env.importable (joinDots ((dottedParts name).take k)) = outcome) :
          env.Longest name k outcome :=
        ⟨starts, positive, by omega, imported, fun j above inside => longer j above (by omega)⟩
      rcases leads with ⟨imported, leads⟩ | ⟨exception, imported, leads⟩
      · rw [leads]
        exact .spelled (.dotted (longest imported))
      · rw [leads]
        exact .raising (longest imported)
  · rw [find_of_plain dotted]
    exact .spelled (.bare dotted)

/-- A name without a part in front that is a module spells nothing. -/
theorem not_spells_of_missing {name : String} (dotted : '.' ∈ name.toList)
    (missing : ∀ k, 0 < k → k < (dottedParts name).length →
      env.importable (joinDots ((dottedParts name).take k)) = .ok false)
    {module : String} {attributes : List String} : ¬ env.Spells name module attributes := by
  intro spells
  cases spells with
  | bare plain => exact plain dotted
  | dotted longest =>
    exact nomatch longest.imported.symm.trans (missing _ longest.cut longest.inside)

/-- A name that spells attributes of a module leads to what they lead to. -/
theorem Spells.find_eq {name module : String} {attributes : List String} (filled : name ≠ "")
    (spells : env.Spells name module attributes) :
    env.find name = (env.follow (.module module) attributes).mapError .raised := by
  have leads := @find_leads env name filled spells.head?_ne
  generalize env.find name = outcome at leads
  cases leads with
  | nowhere dotted missing => exact absurd spells (not_spells_of_missing dotted missing)
  | spelled spells' =>
    obtain ⟨rfl, rfl⟩ := spells.unique spells'
    rfl
  | raising longest => exact absurd longest spells.not_longest_error

/-- What a name leads to is what the attributes lead to that it spells, or the absent object. -/
theorem find_eq_ok_iff {name : String} (filled : name ≠ "") {e : Entity} (found : e ≠ .absent) :
    env.find name = .ok e ↔
      ∃ module attributes, env.Spells name module attributes ∧
        env.follow (.module module) attributes = .ok e := by
  constructor
  · intro leads
    by_cases starts : name.toList.head? = some '.'
    · -- A dot in front is a fault.
      obtain ⟨rest, chars⟩ := List.head?_eq_some_iff.mp starts
      rw [find_of_dot chars] at leads
      cases leads
    · have cases := @find_leads env name filled starts
      rw [leads] at cases
      generalize outcome : Except.ok e = result at cases
      cases cases with
      | nowhere => exact absurd (Except.ok.inj outcome) found
      | spelled spells => exact ⟨_, _, spells, mapError_eq_ok_iff.mp outcome.symm⟩
      | raising => cases outcome
  · rintro ⟨module, attributes, spells, leads⟩
    rw [spells.find_eq filled, leads]
    rfl

/-- Looking a name up raises the exceptions that it leads to. -/
theorem find_eq_raised_iff {name : String} (filled : name ≠ "") {exception : Raised} :
    env.find name = .error (.raised exception) ↔ env.Raises name exception := by
  constructor
  · intro failed
    by_cases starts : name.toList.head? = some '.'
    · obtain ⟨rest, chars⟩ := List.head?_eq_some_iff.mp starts
      rw [find_of_dot chars] at failed
      split at failed <;> cases failed
    · have cases := @find_leads env name filled starts
      rw [failed] at cases
      generalize outcome : Except.error (ClassNameFault.raised exception) = result at cases
      cases cases with
      | nowhere => cases outcome
      | spelled spells =>
        obtain ⟨cause, raised, same⟩ := mapError_eq_error_iff.mp outcome.symm
        cases same
        exact .reading spells raised
      | raising longest =>
        cases outcome
        exact .importing longest
  · intro raises
    cases raises with
    | importing longest =>
      have leads := @find_leads env name filled longest.starts
      generalize env.find name = outcome at leads
      cases leads with
      | nowhere dotted missing =>
        exact nomatch longest.imported.symm.trans (missing _ longest.cut longest.inside)
      | spelled spells => exact absurd longest spells.not_longest_error
      | raising longest' =>
        obtain ⟨-, same⟩ := longest.unique longest' (by simp) (by simp)
        rw [Except.error.inj same]
    | reading spells raised =>
      rw [spells.find_eq filled, raised]
      rfl

/-- A name that does not start with a dot leads somewhere, or raises an exception. -/
theorem exists_find {name : String} (filled : name ≠ "")
    (starts : name.toList.head? ≠ some '.') :
    (∃ e, env.find name = .ok e) ∨ ∃ exception, env.find name = .error (.raised exception) := by
  have leads := @find_leads env name filled starts
  generalize env.find name = outcome at leads
  cases leads with
  | nowhere => exact .inl ⟨_, rfl⟩
  | @spelled module attributes =>
    cases env.follow (.module module) attributes with
    | error exception => exact .inr ⟨exception, rfl⟩
    | ok e => exact .inl ⟨e, rfl⟩
  | raising => exact .inr ⟨_, rfl⟩

/-! ### Naming classes -/

/-- A name names the class that it leads to. -/
theorem classOfName_eq_ok_iff {name : String} {c : ClassName} :
    env.classOfName name = .ok c ↔ env.find name = .ok (.cls c) := by
  rw [classOfName]
  split
  · rename_i fault found
    rw [found]
    exact iff_of_false nofun nofun
  · rename_i other found
    rw [found]
    simp
  · rename_i e other found
    rw [found]
    refine iff_of_false nofun fun same => ?_
    exact other c (Except.ok.inj same)

/-- A name fails to name a class as looking it up does. -/
theorem classOfName_eq_error_iff {name : String} {fault : ClassNameFault} :
    env.classOfName name = .error fault ↔
      env.find name = .error fault ∨
        fault = .notClass name ∧ ∃ e, env.find name = .ok e ∧ ∀ c, e ≠ .cls c := by
  rw [classOfName]
  cases found : env.find name with
  | error cause => simp
  | ok e => cases e <;> simp [eq_comm]

section Values

variable {v : Value}

/-- A value that is a text is looked up by its name. -/
theorem resolve_of_content {name : String} (content : v.content? = some name) (filled : name ≠ "") :
    env.resolve v = env.classOfName name := by
  have named : name.isEmpty = false := by simpa [String.isEmpty_iff] using filled
  simp [resolve, content, named]

/-- A value that names something is a text, and not empty. -/
theorem resolve_of_unnamed (unnamed : ∀ name, v.content? = some name → name = "") :
    env.resolve v = .error (.notName v) := by
  unfold resolve
  split
  · rfl
  · next name content => simp [unnamed name content]

/-- A value is the name of something, or it is no name. -/
theorem content_cases (v : Value) :
    (∃ name, v.content? = some name ∧ name ≠ "") ∨ ∀ name, v.content? = some name → name = "" := by
  by_cases named : ∃ name, v.content? = some name ∧ name ≠ ""
  · exact .inl named
  · exact .inr fun name content => by_contra fun filled => named ⟨name, content, filled⟩

/-- A value names the class that the attributes lead to that it spells. -/
theorem resolve_eq_ok_iff {c : ClassName} :
    env.resolve v = .ok c ↔
      ∃ name module attributes, v.content? = some name ∧ name ≠ "" ∧
        env.Spells name module attributes ∧
        env.follow (.module module) attributes = .ok (.cls c) := by
  rcases content_cases v with ⟨name, content, filled⟩ | unnamed
  · rw [resolve_of_content content filled, classOfName_eq_ok_iff, find_eq_ok_iff filled (by simp)]
    simp [content, filled]
  · rw [resolve_of_unnamed unnamed]
    refine iff_of_false nofun ?_
    rintro ⟨name, -, -, content, filled, -⟩
    exact filled (unnamed name content)

/-- A value names a relative module when it is a text that starts with a dot, which is not its
only one. -/
theorem resolve_eq_relativeModule_iff {module : String} :
    env.resolve v = .error (.relativeModule module) ↔
      ∃ name rest, v.content? = some name ∧ name.toList = '.' :: rest ∧ '.' ∈ rest ∧
        module = joinDots (dottedParts name).dropLast := by
  rcases content_cases v with ⟨name, content, filled⟩ | unnamed
  · rw [resolve_of_content content filled, classOfName_eq_error_iff]
    constructor
    · intro failed
      have fault := failed.resolve_right fun other => nomatch other.1
      by_cases starts : name.toList.head? = some '.'
      · obtain ⟨rest, chars⟩ := List.head?_eq_some_iff.mp starts
        rw [find_of_dot chars] at fault
        split at fault
        · rename_i more
          cases fault
          exact ⟨name, rest, content, chars, more, rfl⟩
        · cases fault
      · rcases @exists_find env name filled starts with ⟨e, found⟩ | ⟨exception, raised⟩
        · cases found.symm.trans fault
        · cases raised.symm.trans fault
    · rintro ⟨_, rest, same, chars, more, rfl⟩
      obtain rfl := Option.some.inj (content.symm.trans same)
      rw [find_of_dot chars, if_pos more]
      exact .inl rfl
  · rw [resolve_of_unnamed unnamed]
    refine iff_of_false nofun ?_
    rintro ⟨name, rest, content, chars, -⟩
    rw [unnamed name content] at chars
    cases chars

/-- A value leads to an exception when looking its name up raises it. -/
theorem resolve_eq_raised_iff {exception : Raised} :
    env.resolve v = .error (.raised exception) ↔
      ∃ name, v.content? = some name ∧ name ≠ "" ∧ env.Raises name exception := by
  rcases content_cases v with ⟨name, content, filled⟩ | unnamed
  · rw [resolve_of_content content filled, classOfName_eq_error_iff, find_eq_raised_iff filled]
    simp [content, filled]
  · rw [resolve_of_unnamed unnamed]
    refine iff_of_false nofun ?_
    rintro ⟨name, content, filled, -⟩
    exact filled (unnamed name content)

end Values

end Environment

end KeyTree
