/-
# Functions that call helpers

The functions of a lookup work together like its tree: the main function settles a text or
hands it to the helper of a subtree, and so does each helper. A function only calls functions
behind it, so no more calls are needed than there are functions.

* `Implemented` — the helper of a subtree stands at a place, and what it leaves behind it.
* `implemented_of_helpersFrom` — every subtree in a queue has its helper.
* `Program.Returns` — a function answers with the literal of a value.
* `call_helper` — what a helper returns.
* `run_of_not_text`, `run_of_text` — what the main function returns.
-/

import KeyTree.Proofs.Source.Emission
import KeyTree.Proofs.Source.Globals
import KeyTree.Proofs.Source.Names
import KeyTree.Proofs.Source.Values

namespace KeyTree.Source

/-! ### Helpers of subtrees -/

/-- `Implemented name default functions i t`: the helper of the subtree `t` stands at the
place `i` of some functions. It numbers its own helpers from a later place on, where the
helpers of the subtrees stand that it leaves. -/
inductive Implemented (name : String) (default : Value) (functions : List Function) :
    Nat → Tree → Prop where
  | intro {i helpers : Nat} {t : Tree} {f : Function} (place : functions[i]? = some f)
      (named : f.name = helperName name (i + 1))
      (body : f.body = (emit name t bodyLevel helpers).body ++ [missStatement default])
      (later : i < helpers)
      (cut : ∀ (k : Nat) (s : Tree), (emit name t bodyLevel helpers).cut[k]? = some s →
        Implemented name default functions (helpers + k) s) :
      Implemented name default functions i t

/-- Every subtree in a queue has its helper, at the place of the subtree. -/
theorem implemented_of_helpersFrom {name : String} {default : Value} {done : Nat}
    {queue : List Tree} {functions before : List Function} (count : before.length = done)
    (whole : functions = before ++ helpersFrom name default done queue) :
    ∀ (i : Nat) (t : Tree), queue[i]? = some t →
      Implemented name default functions (done + i) t := by
  fun_induction helpersFrom name default done queue generalizing before with
  | case1 done =>
    intro i t at_i
    cases at_i
  | case2 done t rest block =>
    rename_i ih
    have next := @ih (before ++ [_]) (by rw [List.length_append, count]; rfl)
      (by rw [whole, List.append_assoc]; rfl)
    intro i t' at_i
    cases i with
    | zero =>
      cases at_i
      have place : functions[done]? = some
          { name := helperName name (done + 1), body := block.body ++ [missStatement default] } := by
        rw [whole, List.getElem?_append_right (Nat.le_of_eq count), count, Nat.sub_self]
        rfl
      have later : done < done + 1 + rest.length :=
        Nat.lt_add_right _ (Nat.lt_succ_self done)
      refine .intro place rfl rfl later fun k s left => ?_
      -- What the helper leaves joins the queue behind the subtrees that wait already.
      have queued : (rest ++ block.cut)[rest.length + k]? = some s := by
        rw [getElem?_append_add]
        exact left
      have implemented := next _ s queued
      rwa [← Nat.add_assoc] at implemented
    | succ j =>
      rw [List.getElem?_cons_succ] at at_i
      have implemented := next j t' (getElem?_append_of_eq_some at_i)
      rwa [Nat.add_assoc, Nat.add_comm 1] at implemented

/-! ### What a body returns -/

/-- The answer for an entry that was found, or for none. -/
def answerFor (default : Value) : Option Entry → Answer
  | some e => ⟨true, e.value⟩
  | none => ⟨false, default⟩

section Bodies

variable {env : Environment} {scope : Scope} {key : Value} {locals : Locals}

/-- An answer holds what its literal denotes. -/
theorem run_answer (found : Bool) (value : Value) :
    Statement.run env scope key locals (.answer found value)
      = (meaning env scope key locals value).map fun v => .returned ⟨found, v⟩ := by
  rw [Statement.run]
  cases meaning env scope key locals value <;> rfl

/-- A body ends with the answer for what the text finds, or it calls the helper of a subtree that
finds the same, when its block settles the text. -/
theorem run_body {name : String} {text : List Char} {found : Option Entry} {helpers : Nat}
    {values : List Value} {cut : List Tree} {default : Value} {block : List Statement}
    (settled : Settled env scope key name text found helpers values cut
      (Statement.runBlock env scope key locals block)) :
    ((answerFor default found).value ∈ values ++ [default] ∧ ∃ locals',
        Statement.runBlock env scope key locals (block ++ [missStatement default])
          = (meaning env scope key locals' (answerFor default found).value).map
              fun v => .returned ⟨(answerFor default found).found, v⟩) ∨
      ∃ (k : Nat) (t : Tree), cut[k]? = some t ∧ Branching t ∧ t.Finds text found ∧
        Statement.runBlock env scope key locals (block ++ [missStatement default])
          = .ok (.calling (helperName name (helpers + k + 1))) := by
  rw [runBlock_append]
  generalize Statement.runBlock env scope key locals block = outcome at settled
  cases settled with
  | onward locals' missed =>
    rw [missed]
    refine .inl ⟨List.mem_append_right _ List.mem_cons_self, locals', ?_⟩
    exact (runBlock_singleton _).trans (run_answer false default)
  | @answered e locals' _ hit written ran =>
    rw [hit, ran, run_answer]
    refine .inl ⟨List.mem_append_left _ written, locals', ?_⟩
    change _ = (meaning env scope key locals' e.value).map _
    cases meaning env scope key locals' e.value <;> rfl
  | @calling k t left branching finds => exact .inr ⟨k, t, left, branching, finds, rfl⟩

end Bodies

namespace Program

/-- `p.Returns env key a outcome`: the outcome is the answer `a` with the value that its literal
denotes, in a function of the program that holds it. -/
def Returns (env : Environment) (p : Program) (key : Value) (a : Answer)
    (outcome : Except RunFault Answer) : Prop :=
  ∃ f ∈ p.functions, a.value ∈ f.values ∧ ∃ locals,
    outcome = (meaning env (p.scope f) key locals a.value).map fun v => ⟨a.found, v⟩

/-- Where the literals denote their values, the outcome is the answer. -/
theorem Returns.eq_ok {env : Environment} {p : Program} {key : Value} {a : Answer}
    {outcome : Except RunFault Answer} (returns : p.Returns env key a outcome)
    (literals : ∀ f ∈ p.functions, ∀ v ∈ f.values, (p.scope f).Denotes env v) :
    outcome = .ok a := by
  obtain ⟨f, member, written, locals, rfl⟩ := returns
  rw [literals f member a.value written key locals]
  rfl

/-- The variables of a function have three names at most. -/
theorem mem_locals {f : Function} {name : String} (member : name ∈ f.locals) :
    name ∈ ["key", "n", "ch"] := by
  unfold Function.locals at member
  split at member <;> split at member <;> simp at member ⊢ <;> grind

/-- No helper has the name of a builtin function. -/
theorem normalForm_helperName_not_mem_builtinNames (name : String) (number : Nat) :
    Text.normalForm (helperName name number) ∉ builtinNames := by
  intro known
  have plain : ∀ builtin ∈ builtinNames, '_' ∉ builtin.toList := by decide
  exact plain _ known (underscore_mem_normalForm_helperName name number)

/-- No variable has the name of a builtin function. -/
theorem not_mem_builtinNames_of_mem_locals {f : Function} {name : String}
    (member : name ∈ f.locals) : name ∉ builtinNames := by
  have apart : ∀ name ∈ ["key", "n", "ch"], name ∉ builtinNames := by decide
  exact apart name (mem_locals member)

/-- A call runs the body of the function found. -/
theorem call_eq {env : Environment} {p : Program} (distinct : p.bound.Nodup) {f : Function}
    (member : f ∈ p.functions) (key : Value) (calls : Nat) :
    p.call env key (calls + 1) f.name = (do
      match ← Statement.runBlock env (p.scope f) key {} f.body with
      | .returned answer => return answer
      | .calling function => p.call env key calls function
      | .onward _ => .error .noAnswer) := by
  rw [call, function?_eq_some distinct member]
  rfl

/-- A call of a function whose body ends with an answer. -/
theorem returns_call {env : Environment} {p : Program} (distinct : p.bound.Nodup) {f : Function}
    (member : f ∈ p.functions) {key : Value} {a : Answer} (written : a.value ∈ f.values)
    {locals : Locals}
    (ran : Statement.runBlock env (p.scope f) key {} f.body
      = (meaning env (p.scope f) key locals a.value).map fun v => .returned ⟨a.found, v⟩)
    (calls : Nat) : p.Returns env key a (p.call env key (calls + 1) f.name) := by
  refine ⟨f, member, written, locals, ?_⟩
  rw [call_eq distinct member, ran]
  cases meaning env (p.scope f) key locals a.value <;> rfl

end Program

/-! ### Calls -/

section Calls

variable {env : Environment} {p : Program} {name : String} {default : Value} {key : Value}
  {x : Text} {found : Option Entry}

/-- A helper returns what its subtree finds, when as many calls are left as functions stand
from it on. -/
theorem call_helper (distinct : p.bound.Nodup) (isText : key.text? = some x)
    {functions : List Function} (inside : ∀ f ∈ functions, f ∈ p.functions) {i : Nat} {t : Tree}
    (implemented : Implemented name default functions i t) (branching : Branching t)
    (finds : t.Finds x.chars found) {calls : Nat} (enough : functions.length ≤ calls + i) :
    p.Returns env key (answerFor default found)
      (p.call env key calls (helperName name (i + 1))) := by
  induction implemented generalizing calls with
  | @intro i helpers t f place named body later _ ih =>
    obtain ⟨bound, at_i⟩ := List.getElem?_eq_some_iff.mp place
    obtain ⟨calls, rfl⟩ : ∃ c, calls = c + 1 := ⟨calls - 1, by omega⟩
    have member : f ∈ p.functions := inside f (at_i ▸ List.getElem_mem bound)
    have values : f.values
        = Statement.blockValues (emit name t bodyLevel helpers).body ++ [default] := by
      rw [Function.values, body, blockValues_append]
      rfl
    have settled := @emit_settles_of_branching env (p.scope f) key name found x isText t branching
      finds bodyLevel {} helpers
    rw [← named]
    rcases @run_body _ _ _ _ _ _ _ _ _ _ default _ settled with
      ⟨written, locals, ran⟩ | ⟨k, s, left, branching, finds, called⟩
    · rw [← body] at ran
      exact Program.returns_call distinct member (values ▸ written) ran calls
    · rw [← body] at called
      rw [Program.call_eq distinct member, called]
      exact ih k s left branching finds (by omega)

/-- The statements that decide about a text settle it, once its length can be taken. -/
theorem decision_settles {scope : Scope} (isText : key.text? = some x) {root : Tree}
    (free : root ≠ .miss → scope.read "len" = .ok .builtin) (dispatching : Dispatching root)
    (finds : root.Finds x.chars found) (locals : Locals) :
    Settled env scope key name x.chars found 0 (Statement.blockValues (decision name root))
      (mainBlock name root).cut (Statement.runBlock env scope key locals (decision name root)) := by
  by_cases empty : root = .miss
  · subst empty
    exact .onward locals finds.of_miss
  · have measured : ({ locals with length := some x.chars.length } : Locals).length
        = some x.chars.length := rfl
    rw [decision_of_ne_miss empty, runBlock_cons_of_onward (by rw [Statement.run, free empty]; rfl),
      keyChars_of_text isText]
    exact emit_settles isText measured dispatching finds bodyLevel 0

/-- The main function first tells whether the key is a text. -/
theorem runBlock_mainFunction (untaken : p.Untaken) {doc : Option String} {root : Tree}
    (member : mainFunction name doc root default ∈ p.functions) :
    Statement.runBlock env (p.scope (mainFunction name doc root default)) key {}
        (mainFunction name doc root default).body
      = if key.text?.isNone then
          (meaning env (p.scope (mainFunction name doc root default)) key {} default).map
            fun v => .returned ⟨false, v⟩
        else
          Statement.runBlock env (p.scope (mainFunction name doc root default)) key {}
            (decision name root ++ [missStatement default]) := by
  obtain ⟨test, type⟩ := @typeTest_mem_globals name doc root default
  have told : Condition.keyIsNoText.holds (p.scope (mainFunction name doc root default)) key {}
      = .ok key.text?.isNone := by
    have test : (p.scope (mainFunction name doc root default)).read "isinstance" = .ok .builtin :=
      untaken _ member _ test
    have type : (p.scope (mainFunction name doc root default)).read "str" = .ok .builtin :=
      untaken _ member _ type
    rw [Condition.holds, test, type]
    rfl
  generalize p.scope (mainFunction name doc root default) = scope at told
  rw [mainFunction]
  cases other : key.text?.isNone with
  | true =>
    rw [other] at told
    rw [if_pos rfl, Statement.runBlock, Statement.run, Statement.runArms, told]
    change (Statement.runBlock env scope key {} [missStatement default] >>= _) = _
    rw [runBlock_singleton, missStatement, run_answer]
    cases meaning env scope key {} default <;> rfl
  | false =>
    rw [other] at told
    rw [if_neg Bool.false_ne_true]
    refine runBlock_cons_of_onward ?_ _
    rw [Statement.run, Statement.runArms, told]
    rfl

end Calls

/-! ### Runs -/

section Runs

variable {env : Environment} {p : Program} {name : String} {doc : Option String} {root : Tree}
  {default : Value} {key : Value}

/-- The functions of a lookup are different identifiers in their program. -/
theorem nodup_bound (functions : p.functions = functionsOf name doc root default) :
    p.bound.Nodup := by
  rw [Program.bound, functions]
  exact nodup_normalForm_functionsOf name doc root default

/-- A program that holds the functions of a lookup has as many functions at least. -/
theorem length_functionsOf_le (inside : functionsOf name doc root default ⊆ p.functions) :
    (functionsOf name doc root default).length ≤ p.functions.length :=
  ((nodup_normalForm_functionsOf name doc root default).of_map.subperm inside).length_le

/-- A program that is loaded calls the function with as many calls as it has functions. -/
theorem run_of_loads (loads : p.loadFault? env = none) :
    p.run env name key = p.call env key p.functions.length name := by
  rw [Program.run, loads]

/-- A key that is no text is not found. -/
theorem run_of_not_text (inside : functionsOf name doc root default ⊆ p.functions)
    (distinct : p.bound.Nodup) (loads : p.loadFault? env = none) (untaken : p.Untaken)
    (other : key.text? = none) : p.Returns env key ⟨false, default⟩ (p.run env name key) := by
  have member : mainFunction name doc root default ∈ p.functions := inside List.mem_cons_self
  have ran := @runBlock_mainFunction env p name default key untaken doc root member
  rw [other, Option.isNone_none, if_pos rfl] at ran
  obtain ⟨calls, count⟩ := Nat.exists_eq_add_one_of_ne_zero (List.length_pos_of_mem member).ne'
  rw [run_of_loads loads, count]
  exact @Program.returns_call _ _ distinct _ member _ ⟨false, default⟩ List.mem_cons_self _ ran calls

/-- A text finds what the tree finds. -/
theorem run_of_text (inside : functionsOf name doc root default ⊆ p.functions)
    (distinct : p.bound.Nodup) (loads : p.loadFault? env = none) (untaken : p.Untaken) {x : Text}
    {found : Option Entry} (isText : key.text? = some x) (dispatching : Dispatching root)
    (finds : root.Finds x.chars found) :
    p.Returns env key (answerFor default found) (p.run env name key) := by
  have member : mainFunction name doc root default ∈ p.functions := inside List.mem_cons_self
  have helpers : ∀ f ∈ helpersOf name root default, f ∈ p.functions := fun f helper =>
    inside (List.mem_cons_of_mem _ helper)
  have main := @runBlock_mainFunction env p name default key untaken doc root member
  rw [isText, Option.isNone_some, if_neg Bool.false_ne_true] at main
  have settled := @decision_settles env name key x found
    (p.scope (mainFunction name doc root default)) isText root
    (fun filled => untaken _ member _ (len_mem_globals filled)) dispatching finds {}
  have values : Statement.blockValues (decision name root) ++ [default]
      ⊆ (mainFunction name doc root default).values := by
    intro v written
    rw [Function.values, mainFunction, Statement.blockValues, blockValues_append]
    exact List.mem_append_right _ written
  have enough := length_functionsOf_le inside
  rw [functionsOf, List.length_cons] at enough
  obtain ⟨calls, count⟩ := Nat.exists_eq_add_one_of_ne_zero (List.length_pos_of_mem member).ne'
  rw [run_of_loads loads, count]
  rcases run_body settled with ⟨written, locals, ran⟩ | ⟨k, t, left, branching, inner, called⟩
  · exact Program.returns_call distinct member (values written) (main.trans ran) calls
  · have step := @Program.call_eq env p distinct _ member key calls
    rw [main.trans called] at step
    have implemented : Implemented name default (helpersOf name root default) (0 + k) t :=
      implemented_of_helpersFrom rfl (List.nil_append _).symm k t left
    change p.Returns env key _ (p.call env key (calls + 1) (mainFunction name doc root default).name)
    rw [step]
    exact call_helper distinct isText helpers implemented branching inner (by omega)

end Runs

end KeyTree.Source
