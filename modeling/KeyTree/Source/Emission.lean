/-
# Code of a tree

The functions that decide like a given tree. The tests of a tree become nested
choices: the lengths of a chain are the arms of one choice, and the branches of a
character are halved until at most eight are the arms of one choice. A test of a
character that would be nested too deeply moves into a helper function, which is
numbered in the order in which the helpers are called.

* `Block` — statements with the subtrees that they leave to helpers.
* `emit` — the block of a tree at a level of indentation.
-/

import KeyTree.Source.Code
import KeyTree.Tree.Basic

namespace KeyTree.Source

/-- The deepest level of indentation at which a character is tested in place. -/
def nestingLimit : Nat := 32

/-- The most branches of a character that are compared one after the other. -/
def linearBranchLimit : Nat := 8

/-- The name of the helper with a number of a function. -/
def helperName (name : String) (number : Nat) : String :=
  "_" ++ name ++ "_" ++ toString number

/-- Statements, with the subtrees that they leave to helpers in the order of the
calls. -/
structure Block where
  body : List Statement
  cut : List Tree := []

/-- A block that depends on the number of helpers called before it. -/
abbrev Emitter := Nat → Block

namespace Emitter

/-- A statement before a block. -/
def after (first : Statement) (block : Emitter) : Emitter := fun helpers =>
  ⟨first :: (block helpers).body, (block helpers).cut⟩

/-- One of two blocks. -/
def either (condition : Condition) (yes no : Emitter) : Emitter := fun helpers =>
  let first := yes helpers
  let second := no (helpers + first.cut.length)
  ⟨[.either condition first.body second.body], first.cut ++ second.cut⟩

/-- The arms of a choice, with the subtrees that they leave to helpers. -/
def arms (helpers : Nat) :
    List (Condition × Emitter) → List (Condition × List Statement) × List Tree
  | [] => ([], [])
  | (condition, block) :: rest =>
    let first := block helpers
    let others := arms (helpers + first.cut.length) rest
    ((condition, first.body) :: others.1, first.cut ++ others.2)

/-- A choice among blocks. -/
def choose (blocks : List (Condition × Emitter)) : Emitter := fun helpers =>
  let all := arms helpers blocks
  ⟨[.choose all.1], all.2⟩

end Emitter

/-- The choice among the branches of a character at a level. Each branch is a block
that depends on its own level. -/
def fan (level : Nat) (branches : List (String × (Nat → Emitter))) : Emitter :=
  if many : linearBranchLimit < branches.length then
    have inside : branches.length / 2 < branches.length := by
      simp only [linearBranchLimit] at many
      omega
    .either (.characterBelow (branches[branches.length / 2]).1)
      (fan (level + 1) (branches.take (branches.length / 2)))
      (fan (level + 1) (branches.drop (branches.length / 2)))
  else .choose (branches.map fun b => (.characterIs b.1, b.2 (level + 1)))
termination_by branches.length
decreasing_by
  all_goals
    simp only [linearBranchLimit] at many
    simp only [List.length_take, List.length_drop]
    omega

mutual

/-- The block of a tree at a level of indentation, in the function of a name. -/
def emit (name : String) : Tree → Nat → Emitter
  | .miss, _ => fun _ => ⟨[], []⟩
  | .leaf entry, _ => fun _ =>
    ⟨[.choose [(.keyIs entry.text, [.answer true entry.value])]], []⟩
  | .charTest position branches, level =>
    if nestingLimit < level then fun helpers =>
      ⟨[.call (helperName name (helpers + 1))], [.charTest position branches]⟩
    else .after (.read position) (fan level (emitBranches name branches))
  | .lengthTest length same other, level =>
    .choose ((.lengthIs length, emit name same (level + 1)) :: emitChain name other level)
  | .lengthSplit pivot below atLeast, level =>
    .either (.lengthBelow pivot) (emit name below (level + 1)) (emit name atLeast (level + 1))

/-- The blocks of the branches of a character. -/
def emitBranches (name : String) : List (String × Tree) → List (String × (Nat → Emitter))
  | [] => []
  | (label, child) :: rest => (label, emit name child) :: emitBranches name rest

/-- The further arms of a chain of lengths. -/
def emitChain (name : String) : Tree → Nat → List (Condition × Emitter)
  | .lengthTest length same other, level =>
    (.lengthIs length, emit name same (level + 1)) :: emitChain name other level
  | _, _ => []

end

end KeyTree.Source
