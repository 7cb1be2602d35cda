/-
# Code that decides like its tree

What becomes of a text in the block of a tree. The block answers with the value of the entry that
the tree finds, hands the text to the helper of a subtree that finds the same, or runs to its end
when the tree finds nothing. The length is taken and a character is read before it is compared, and
no character is read that the text does not have, so that nothing else can go wrong in the block
than the evaluation of the literal that it answers with.

* `Settled` — how a block may end.
* `Emitter.Settles` — a block ends so, with one lemma for each way to combine blocks.
* `fan_settles` — halving the branches of a character loses none.
* `emit_settles` — the block of a tree.
-/

import KeyTree.Proofs.Tree.Shape
import KeyTree.Source.Run

namespace KeyTree.Source

/-- How a block may end when the text finds `found`: it runs to its end when this is nothing, it
answers with the value of the entry found, or it calls the helper of a subtree that finds the same.
The block holds the values and leaves the subtrees `cut` to helpers, the first of which has the
number after `helpers`. -/
inductive Settled (env : Environment) (scope : Scope) (key : Value) (name : String)
    (text : List Char) (found : Option Entry) (helpers : Nat) (values : List Value)
    (cut : List Tree) : Except RunFault Flow → Prop where
  | onward (locals : Locals) (missed : found = none) :
      Settled env scope key name text found helpers values cut (.ok (.onward locals))
  | answered {e : Entry} {locals : Locals} {outcome : Except RunFault Flow} (hit : found = some e)
      (written : e.value ∈ values)
      (ran : outcome = Statement.run env scope key locals (.answer true e.value)) :
      Settled env scope key name text found helpers values cut outcome
  | calling {k : Nat} {t : Tree} (left : cut[k]? = some t) (branching : Branching t)
      (finds : t.Finds text found) :
      Settled env scope key name text found helpers values cut
        (.ok (.calling (helperName name (helpers + k + 1))))

variable {env : Environment} {scope : Scope} {key : Value} {locals : Locals} {name : String}
  {text : List Char} {found : Option Entry}

namespace Settled

variable {helpers : Nat} {values more : List Value} {first second : List Tree}
  {outcome : Except RunFault Flow}

/-- Further values, and further subtrees that are left to helpers, do not change the numbers of the
first. -/
theorem append_left (settled : Settled env scope key name text found helpers values first outcome) :
    Settled env scope key name text found helpers (values ++ more) (first ++ second) outcome := by
  cases settled with
  | onward locals missed => exact .onward locals missed
  | answered hit written ran => exact .answered hit (List.mem_append_left _ written) ran
  | calling left branching finds =>
    refine .calling ?_ branching finds
    rwa [List.getElem?_append_left (List.getElem?_eq_some_iff.mp left).1]

/-- Subtrees that are left to helpers before are counted before. -/
theorem append_right
    (settled : Settled env scope key name text found (helpers + first.length) more second outcome) :
    Settled env scope key name text found helpers (values ++ more) (first ++ second) outcome := by
  cases settled with
  | onward locals missed => exact .onward locals missed
  | answered hit written ran => exact .answered hit (List.mem_append_right _ written) ran
  | @calling k t left branching finds =>
    rw [Nat.add_assoc helpers]
    refine .calling ?_ branching finds
    rwa [List.getElem?_append_right (Nat.le_add_right _ _), Nat.add_sub_cancel_left]

end Settled

/-! ### Running blocks -/

/-- A block of one statement runs like the statement. -/
theorem runBlock_singleton (s : Statement) :
    Statement.runBlock env scope key locals [s] = Statement.run env scope key locals s := by
  rw [Statement.runBlock]
  cases Statement.run env scope key locals s with
  | error fault => rfl
  | ok flow => cases flow <;> rfl

/-- A statement that runs to its end goes on with what stands behind it. -/
theorem runBlock_cons_of_onward {s : Statement} {locals' : Locals}
    (ran : Statement.run env scope key locals s = .ok (.onward locals')) (rest : List Statement) :
    Statement.runBlock env scope key locals (s :: rest)
      = Statement.runBlock env scope key locals' rest := by
  rw [Statement.runBlock, ran]
  rfl

/-- A block that runs to its end goes on with what stands behind it. -/
theorem runBlock_append (first second : List Statement) :
    Statement.runBlock env scope key locals (first ++ second) = (do
      match ← Statement.runBlock env scope key locals first with
      | .onward locals => Statement.runBlock env scope key locals second
      | ended => return ended) := by
  induction first generalizing locals with
  | nil => rfl
  | cons s rest ih =>
    rw [List.cons_append, Statement.runBlock, Statement.runBlock]
    cases Statement.run env scope key locals s with
    | error fault => rfl
    | ok flow =>
      cases flow with
      | onward locals' => exact ih
      | returned answer => rfl
      | calling function => rfl

/-! ### Conditions -/

section Conditions

variable {x : Text} {n : Nat} {c : Char}

/-- The characters of a key that is a text. -/
theorem keyChars_of_text (isText : key.text? = some x) : keyChars key = x.chars := by
  rw [keyChars, isText]
  rfl

/-- A key that is a text is compared with a text. -/
theorem holds_keyIs (isText : key.text? = some x) (t : Text) :
    (Condition.keyIs t).holds scope key locals = .ok (x.same t) := by
  rw [Condition.holds, isText]
  rfl

/-- The length is compared once it is taken. -/
theorem holds_lengthBelow (measured : locals.length = some n) (limit : Int) :
    (Condition.lengthBelow limit).holds scope key locals = .ok (decide ((n : Int) < limit)) := by
  rw [Condition.holds, measured]
  rfl

/-- The length is compared once it is taken. -/
theorem holds_lengthIs (measured : locals.length = some n) (length : Int) :
    (Condition.lengthIs length).holds scope key locals = .ok (decide ((n : Int) = length)) := by
  rw [Condition.holds, measured]
  rfl

/-- A character is compared once it is read. -/
theorem holds_characterBelow (read : locals.character = some c) (label : String) :
    (Condition.characterBelow label).holds scope key locals
      = .ok (decide (String.singleton c < label)) := by
  rw [Condition.holds, read]
  rfl

/-- A character is compared once it is read. -/
theorem holds_characterIs (read : locals.character = some c) (label : String) :
    (Condition.characterIs label).holds scope key locals
      = .ok (decide (String.singleton c = label)) := by
  rw [Condition.holds, read]
  rfl

end Conditions

/-! ### Combining blocks -/

namespace Emitter

/-- The blocks of an emitter settle a text that finds `found`. -/
def Settles (env : Environment) (scope : Scope) (key : Value) (locals : Locals) (name : String)
    (text : List Char) (found : Option Entry) (block : Emitter) : Prop :=
  ∀ helpers, Settled env scope key name text found helpers
    (Statement.blockValues (block helpers).body) (block helpers).cut
    (Statement.runBlock env scope key locals (block helpers).body)

/-- A block behind the reading of a character that the key has. -/
theorem after_settles {position : Int} {c : Char} {block : Emitter}
    (read : charAt? (keyChars key) position = some c)
    (settles : block.Settles env scope key { locals with character := some c } name text found) :
    (after (.read position) block).Settles env scope key locals name text found := by
  intro helpers
  rw [after, runBlock_cons_of_onward (by rw [Statement.run, read]; rfl)]
  exact settles helpers

/-- One of two blocks, by a condition that can be told. -/
theorem either_settles {condition : Condition} {yes no : Emitter} {truth : Bool}
    (told : condition.holds scope key locals = .ok truth)
    (first : truth = true → yes.Settles env scope key locals name text found)
    (second : truth = false → no.Settles env scope key locals name text found) :
    (either condition yes no).Settles env scope key locals name text found := by
  intro helpers
  simp only [either, Statement.blockValues, Statement.values, List.append_nil, runBlock_singleton]
  rw [Statement.run, told]
  cases truth with
  | true => exact (first rfl helpers).append_left
  | false => exact (second rfl _).append_right

/-- `ArmsSettle blocks`: the conditions of a choice can be told up to the first that holds.
Its block settles the text; when none holds, the text finds nothing. -/
inductive ArmsSettle (env : Environment) (scope : Scope) (key : Value) (locals : Locals)
    (name : String) (text : List Char) (found : Option Entry) :
    List (Condition × Emitter) → Prop where
  | none (missed : found = none) : ArmsSettle env scope key locals name text found []
  | here {condition : Condition} {block : Emitter} {rest : List (Condition × Emitter)}
      (told : condition.holds scope key locals = .ok true)
      (settles : block.Settles env scope key locals name text found) :
      ArmsSettle env scope key locals name text found ((condition, block) :: rest)
  | later {condition : Condition} {block : Emitter} {rest : List (Condition × Emitter)}
      (told : condition.holds scope key locals = .ok false)
      (others : ArmsSettle env scope key locals name text found rest) :
      ArmsSettle env scope key locals name text found ((condition, block) :: rest)

/-- A choice among blocks. -/
theorem choose_settles {blocks : List (Condition × Emitter)}
    (settle : ArmsSettle env scope key locals name text found blocks) :
    (choose blocks).Settles env scope key locals name text found := by
  have run (helpers : Nat) :
      Settled env scope key name text found helpers
        (Statement.armValues (arms helpers blocks).1) (arms helpers blocks).2
        (Statement.runArms env scope key locals (arms helpers blocks).1) := by
    induction settle generalizing helpers with
    | none missed => exact .onward locals missed
    | here told settles =>
      rw [arms, Statement.runArms, told]
      exact (settles helpers).append_left
    | later told _ ih =>
      rw [arms, Statement.runArms, told]
      exact (ih _).append_right
  intro helpers
  simp only [choose, Statement.blockValues, Statement.values, List.append_nil, runBlock_singleton]
  rw [Statement.run]
  exact run helpers

end Emitter

/-! ### Branches of a character -/

/-- A choice among branches, when every branch with the label of the character read settles
the text, and the text finds nothing when no branch has this label. -/
theorem armsSettle_branches {c : Char} (read : locals.character = some c) (level : Nat)
    {branches : List (String × (Nat → Emitter))}
    (hit : ∀ b ∈ branches, b.1 = String.singleton c → ∀ level,
      (b.2 level).Settles env scope key locals name text found)
    (missed : (∀ b ∈ branches, b.1 ≠ String.singleton c) → found = none) :
    Emitter.ArmsSettle env scope key locals name text found
      (branches.map fun b => (.characterIs b.1, b.2 level)) := by
  induction branches with
  | nil => exact .none (missed fun b member => absurd member List.not_mem_nil)
  | cons b rest ih =>
    have told := @holds_characterIs scope key locals c read b.1
    by_cases same : b.1 = String.singleton c
    · rw [decide_eq_true same.symm] at told
      exact .here told (hit b List.mem_cons_self same level)
    · rw [decide_eq_false (Ne.symm same)] at told
      refine .later told (ih (fun b' member => hit b' (List.mem_cons_of_mem _ member)) ?_)
      intro others
      refine missed fun b' member => ?_
      rcases List.mem_cons.mp member with rfl | member
      · exact same
      · exact others b' member

/-- The halved choice among branches in the order of their labels: the half that is not
taken holds no branch with the label of the character read. -/
theorem fan_settles {c : Char} (read : locals.character = some c) {level : Nat}
    {branches : List (String × (Nat → Emitter))}
    (ascending : (branches.map Prod.fst).Pairwise (· < ·))
    (hit : ∀ b ∈ branches, b.1 = String.singleton c → ∀ level,
      (b.2 level).Settles env scope key locals name text found)
    (missed : (∀ b ∈ branches, b.1 ≠ String.singleton c) → found = none) :
    (fan level branches).Settles env scope key locals name text found := by
  fun_induction fan level branches with
  | case1 level branches many inside lowerIH upperIH =>
    obtain ⟨low, high, below, least⟩ := Tree.ascending_cut inside ascending
    have whole {b : String × (Nat → Emitter)} (member : b ∈ branches) :
        b ∈ branches.take (branches.length / 2) ∨ b ∈ branches.drop (branches.length / 2) := by
      rw [← List.mem_append, List.take_append_drop]
      exact member
    refine Emitter.either_settles (holds_characterBelow read _) (fun less => ?_) fun notLess => ?_
    · have less := of_decide_eq_true less
      refine lowerIH low (fun b member => hit b (List.mem_of_mem_take member)) fun others => ?_
      refine missed fun b member => ?_
      rcases whole member with member | member
      · exact others b member
      · exact ne_of_gt (lt_of_lt_of_le less (least b.1 (List.mem_map_of_mem member)))
    · have notLess := of_decide_eq_false notLess
      refine upperIH high (fun b member => hit b (List.mem_of_mem_drop member)) fun others => ?_
      refine missed fun b member => ?_
      rcases whole member with member | member
      · rintro same
        exact notLess (same ▸ below b.1 (List.mem_map_of_mem member))
      · exact others b member
  | case2 level branches few =>
    exact Emitter.choose_settles (armsSettle_branches read (level + 1) hit missed)

/-! ### Blocks of trees -/

section Text

variable {x : Text}

/-- The block of a leaf compares the text with the key of the leaf. -/
theorem emit_leaf_settles (isText : key.text? = some x) {e : Entry}
    (finds : (Tree.leaf e).Finds x.chars found) (level : Nat) :
    (emit name (.leaf e) level).Settles env scope key locals name x.chars found := by
  intro helpers
  have verify : x.same e.text = e.verify x.chars := by
    rw [Text.same, Entry.verify]
    exact decide_eq_decide.mpr String.toList_inj.symm
  have entry := finds.of_leaf
  rw [← verify] at entry
  rw [emit, runBlock_singleton, Statement.run, Statement.runArms, holds_keyIs isText]
  cases same : x.same e.text with
  | true =>
    rw [same, if_pos rfl] at entry
    exact .answered entry List.mem_cons_self (runBlock_singleton _)
  | false =>
    rw [same, if_neg Bool.false_ne_true] at entry
    exact .onward locals entry

/-- The block of a tree that tests characters settles every text that has a walk. -/
theorem emit_settles_of_branching (isText : key.text? = some x) {t : Tree}
    (branching : Branching t) (finds : t.Finds x.chars found) (level : Nat) (locals : Locals) :
    (emit name t level).Settles env scope key locals name x.chars found := by
  induction branching generalizing level locals with
  | leaf e => exact emit_leaf_settles isText finds level
  | @charTest position branches ascending children ih =>
    obtain ⟨c, read, inner⟩ := finds.of_charTest
    rw [emit]
    split
    · intro helpers
      rw [runBlock_singleton, Statement.run]
      exact @Settled.calling _ _ _ _ _ _ _ _ _ 0 _ rfl (.charTest ascending children) finds
    · refine Emitter.after_settles (keyChars_of_text isText ▸ read) (fan_settles rfl ?_ ?_ ?_)
      · rw [emitBranches_eq, List.map_map]
        exact ascending
      · intro b member same level
        rw [emitBranches_eq] at member
        obtain ⟨child, inside, rfl⟩ := List.mem_map.mp member
        refine ih child inside ?_ level _
        have distinct : (branches.map Prod.fst).Nodup := ascending.imp fun less => ne_of_lt less
        rwa [← same, Tree.branchFor_of_mem distinct inside] at inner
      · intro others
        have fresh : ∀ b ∈ branches, b.1 ≠ String.singleton c := fun b member =>
          others (b.1, emit name b.2) (emitBranches_eq name branches ▸ List.mem_map_of_mem member)
        rw [Tree.branchFor_of_fresh fresh] at inner
        exact inner.of_miss

/-- The arms of a chain of lengths settle every text whose length has been taken. -/
theorem armsSettle_chain (isText : key.text? = some x)
    (measured : locals.length = some x.chars.length) {t : Tree} (chain : Chain t)
    (finds : t.Finds x.chars found) (level : Nat) :
    Emitter.ArmsSettle env scope key locals name x.chars found (emitChain name t level) := by
  induction chain with
  | miss =>
    rw [emitChain]
    · exact .none finds.of_miss
    · simp
  | @lengthTest n same other first _ ih =>
    have told := @holds_lengthIs scope key locals _ measured n
    have inner := finds.of_lengthTest
    rw [emitChain]
    by_cases eq : (x.chars.length : Int) = n
    · rw [decide_eq_true eq] at told
      rw [if_pos eq] at inner
      exact .here told (emit_settles_of_branching isText first inner (level + 1) locals)
    · rw [decide_eq_false eq] at told
      rw [if_neg eq] at inner
      exact .later told (ih inner)

/-- The block of a tree settles every text whose length has been taken. -/
theorem emit_settles (isText : key.text? = some x)
    (measured : locals.length = some x.chars.length) {t : Tree} (dispatching : Dispatching t)
    (finds : t.Finds x.chars found) (level : Nat) :
    (emit name t level).Settles env scope key locals name x.chars found := by
  induction dispatching generalizing level with
  | chain chain =>
    have arms : Emitter.ArmsSettle env scope key locals name x.chars found (emitChain name _ level) :=
      armsSettle_chain isText measured chain finds level
    cases chain with
    | miss =>
      intro helpers
      exact .onward locals finds.of_miss
    | lengthTest =>
      rw [emitChain] at arms
      rw [emit]
      exact Emitter.choose_settles arms
  | @lengthSplit pivot lower upper _ _ lowerIH upperIH =>
    have inner := finds.of_lengthSplit
    rw [emit]
    refine Emitter.either_settles (holds_lengthBelow measured pivot) (fun less => ?_)
      fun notLess => ?_
    · rw [if_pos (of_decide_eq_true less)] at inner
      exact lowerIH inner (level + 1)
    · rw [if_neg (of_decide_eq_false notLess)] at inner
      exact upperIH inner (level + 1)

end Text

end KeyTree.Source
