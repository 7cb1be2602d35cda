/-
# Agreement of a lookup with its code

A lookup can be written as soon as its name may name a function and its values have
literals. What is written answers every key as the lookup does: a walk through the tree and
a run through the functions end in the same answer, and neither ends in a fault.

* `run_returns_find`, `run_eq_find` — the functions of a tree that decides answer like the tree.
* `Declared.ofLookups_eq_ok` — the program of a declared lookup.
* `Declared.text_eq`, `Declared.linesOf_text` — its text, and the lines of the text.
-/

import KeyTree.Proofs.Lookup.Recall
import KeyTree.Proofs.Source.Assembly
import KeyTree.Proofs.Source.Helpers
import KeyTree.Proofs.Source.Written
import KeyTree.Proofs.Value.Literal

namespace KeyTree.Source

/-! ### Running what is written -/

section Runs

variable {env : Environment} {p : Program} {l : Lookup} {entries : List Entry} {n : String}
  {doc : Option String}

/-- In a program of different identifiers whose names are not taken, the functions of a tree that
decides between entries answer every key as the tree does, as far as the literals denote their
values. -/
theorem run_returns_find (decides : Decides entries l.root)
    (inside : functionsOf n doc l.root l.default ⊆ p.functions) (distinct : p.bound.Nodup)
    (loads : p.loadFault? env = none) (untaken : p.Untaken) (key : Value) :
    ∃ a, l.find key = .ok a ∧ p.Returns env key a (p.run env n key) := by
  cases isText : key.text? with
  | none =>
    refine ⟨⟨false, l.default⟩, ?_, run_of_not_text inside distinct loads untaken isText⟩
    rw [Lookup.find, l.trace_of_not_text isText]
    rfl
  | some text =>
    obtain ⟨w, walked, -⟩ := decides.walk text.chars
    refine ⟨l.answer w, ?_, ?_⟩
    · rw [Lookup.find, Lookup.trace_of_walk isText walked]
      rfl
    · have answer : l.answer w = answerFor l.default w.found := by
        rw [Lookup.answer]
        cases w.found <;> rfl
      rw [answer]
      exact run_of_text inside distinct loads untaken isText decides.dispatching ⟨w, walked, rfl⟩

/-- In a clear program of different identifiers, the functions of a tree that decides between
entries answer every key as the tree does. -/
theorem run_eq_find_of_subset (decides : Decides entries l.root)
    (inside : functionsOf n doc l.root l.default ⊆ p.functions) (distinct : p.bound.Nodup)
    (clear : p.Clear env) (key : Value) : ∃ a, l.find key = .ok a ∧ p.run env n key = .ok a := by
  obtain ⟨a, found, returns⟩ :=
    run_returns_find decides inside distinct clear.loads clear.untaken key
  exact ⟨a, found, returns.eq_ok clear.literals⟩

/-- The functions of a tree that decides between entries answer every key as the tree
does. -/
theorem run_eq_find (decides : Decides entries l.root)
    (functions : p.functions = functionsOf n doc l.root l.default) (clear : p.Clear env)
    (key : Value) : ∃ a, l.find key = .ok a ∧ p.run env n key = .ok a :=
  run_eq_find_of_subset decides (fun _ member => functions ▸ member) (nodup_bound functions) clear
    key

end Runs

end KeyTree.Source

namespace KeyTree.Declared

open KeyTree.Source

/-- The leaves of a tree that decides between the entries of keys and values hold these
values. -/
theorem value_mem_of_mem_leaves {keys : List Text} {values : List Value} {root : Tree}
    (decides : Decides (entriesFrom 0 (keys.zip values)) root) {e : Entry}
    (leaf : e ∈ root.leaves) : e.value ∈ values := by
  have member := decides.leaves_perm.mem_iff.mp leaf
  have pair : (e.text, e.value) ∈ keys.zip values := mem_iff_exists_entry.mpr ⟨e, member, rfl⟩
  exact (List.of_mem_zip pair).2

/-- A declared lookup is written as soon as its values have literals and its name may name a
function. -/
theorem ofLookups_eq_ok {d : Declared} {keys : List Text} {values : List Value} {l : Lookup}
    {name : Value} {n : String} (docs : List (String × String)) (lists : d.Lists keys values)
    (built : d.lookup = .ok l) (literals : ∀ v ∈ values, v.literalFault? = none)
    (named : functionName name = .ok n) :
    Program.ofLookups docs [(name, l)] = .ok ⟨functionsFor docs (n, l)⟩ := by
  obtain ⟨decides, default⟩ := decides_of_lookup lists built
  refine Program.ofLookups_documented_eq_ok docs named decides.dispatching ?_ ?_
  · exact default ▸ literalFault?_missValue d.valueType
  · exact fun e leaf => literals e.value (value_mem_of_mem_leaves decides leaf)

/-- The text of a declared lookup has its lines one after the other, each with a line end. -/
theorem text_eq {d : Declared} {keys : List Text} {values : List Value} {l : Lookup}
    (unit n : String) (docs : List (String × String)) (lists : d.Lists keys values)
    (built : d.lookup = .ok l) :
    Program.text unit ⟨functionsFor docs (n, l)⟩
      = String.intercalate "\n" (Program.writtenLines unit ⟨functionsFor docs (n, l)⟩ ++ [""]) := by
  obtain ⟨-, default⟩ := decides_of_lookup lists built
  exact Program.text_eq unit (endsInMiss_functionsOf n _ l.root l.default)
    (default ▸ (Value.literalText_missValue_bounds d.valueType).1)

/-- The lines of the text of a declared lookup, when none of them holds a line end. -/
theorem linesOf_text {d : Declared} {keys : List Text} {values : List Value} {l : Lookup}
    {unit : String} {n : String} {docs : List (String × String)} (lists : d.Lists keys values)
    (built : d.lookup = .ok l) (indents : OneLine unit)
    (imports : ∀ m ∈ Program.imports ⟨functionsFor docs (n, l)⟩, OneLine m)
    (single : ∀ line ∈ Program.lines ⟨functionsFor docs (n, l)⟩, OneLine line.text) :
    linesOf (Program.text unit ⟨functionsFor docs (n, l)⟩)
      = Program.writtenLines unit ⟨functionsFor docs (n, l)⟩ ++ [""] := by
  obtain ⟨-, default⟩ := decides_of_lookup lists built
  exact Program.linesOf_text indents (endsInMiss_functionsOf n _ l.root l.default)
    (default ▸ (Value.literalText_missValue_bounds d.valueType).1) imports single

/-! ### The declaration of a letter -/

/-- The lookup of a letter is declared by lists. -/
theorem lists_letter (v : Value) :
    Lists { keys := .list [.str "a"], values := .list [v] } [⟨"a", .plain⟩] [v] :=
  ⟨rfl, rfl, rfl⟩

/-! ### A declaration with a helper -/

/-- The texts of a length that consist of one letter but for one place. -/
def ladder (length : Nat) : List String :=
  (List.range length).map fun i =>
    String.ofList (List.replicate i 'a' ++ 'b' :: List.replicate (length - 1 - i) 'a')

/-- Keys of four lengths: more letters than are tested one after the other, two words, and a ladder
that is too deep for one function. -/
def deepKeys : List String :=
  (List.range 9).map (fun i => String.singleton (Char.ofNat (0x61 + i))) ++ ["ab", "abc"]
    ++ ladder 33

/-- The values of these keys. -/
def deepValues : List Value := (List.range 44).map fun i => .bool (i % 2 = 0)

/-- The declaration of these keys and values. -/
def deep : Declared where
  keys := .list (deepKeys.map .str)
  values := .list deepValues

/-- It is declared by lists. -/
theorem lists_deep : deep.Lists (deepKeys.map (⟨·, .plain⟩)) deepValues := ⟨rfl, rfl, rfl⟩

/-- Its values have literals. -/
theorem literals_deep : ∀ v ∈ deepValues, v.literalFault? = none := by
  simp [deepValues, Value.literalFault?]

/-- The lookup of the declaration is written with tests of all kinds and one helper. -/
theorem lookup_deep :
    ∃ l, deep.lookup = .ok l ∧ (helpersOf "find" l.root l.default).length = 1 ∧
      ∀ header : Header, ∃ line ∈ (mainFunction "find" none l.root l.default).lines,
        line.header = some header := by
  have built : deep.lookup.toOption.any (fun l =>
      (helpersOf "find" l.root l.default).length = 1 &&
        [Header.function, .first, .further, .otherwise].all (fun header =>
          (mainFunction "find" none l.root l.default).lines.any (·.header = some header))) = true := by
    decide +kernel
  obtain ⟨l, made, rest⟩ := exists_of_any_toOption built
  simp only [Bool.and_eq_true, decide_eq_true_eq, List.all_eq_true, List.any_eq_true] at rest
  obtain ⟨helper, headers⟩ := rest
  refine ⟨l, made, helper, fun header => headers header ?_⟩
  cases header <;> decide

end KeyTree.Declared
