/-
# Walking a tree

Deciding which entry a text equals by the tests of a tree. The walk records the
tests in the order in which they are made.

* `Test` — the kinds of test; `Walk` — the tests made and the entry found.
* `Tree.walk` — the walk of a text.
-/

import KeyTree.Tree.Basic

namespace KeyTree

/-- A test on the input: of its length, of the character at a position, or its
comparison with a whole key. -/
inductive Test where
  | length
  | character (position : Int)
  | key
  deriving DecidableEq, Repr

/-- What a walk did: the tests in order, and the entry that the text equals. -/
structure Walk where
  tests : List Test := []
  found : Option Entry := none
  deriving Repr

namespace Walk

/-- The walk with one more test before it. -/
def after (test : Test) (w : Walk) : Walk := { w with tests := test :: w.tests }

/-- The number of tests of the length. -/
def lengthTests (w : Walk) : Nat := w.tests.count .length

/-- The positions of the characters read, in order. -/
def positions (w : Walk) : List Int :=
  w.tests.filterMap fun
    | .character position => some position
    | _ => none

/-- Whether the text was compared with a whole key. -/
def verified (w : Walk) : Bool := w.tests.contains .key

end Walk

/-- Whether a text is the key of the entry. -/
def Entry.verify (text : List Char) (e : Entry) : Bool := text = e.chars

namespace Tree

mutual

/-- The walk of a text through a tree. It fails only where a node reads a
character that the text does not have. -/
def walk (text : List Char) : Tree → Except ReadFault Walk
  | .miss => .ok {}
  | .leaf entry => .ok { tests := [.key], found := if entry.verify text then some entry else none }
  | .charTest position branches =>
    match charAt? text position with
    | none => .error .outOfRange
    | some c => Walk.after (.character position) <$> walkBranch text (String.singleton c) branches
  | .lengthTest n same other =>
    if text.length = n then Walk.after .length <$> walk text same
    else Walk.after .length <$> walk text other
  | .lengthSplit pivot below atLeast =>
    if text.length < pivot then Walk.after .length <$> walk text below
    else Walk.after .length <$> walk text atLeast

/-- The walk of a text from the branch of a character. -/
def walkBranch (text : List Char) (label : String) :
    List (String × Tree) → Except ReadFault Walk
  | [] => .ok {}
  | (candidate, child) :: rest =>
    if candidate = label then walk text child else walkBranch text label rest

end

/-- A walk from the branch of a character is the walk through its child. -/
theorem walkBranch_eq (text : List Char) (label : String) (branches : List (String × Tree)) :
    walkBranch text label branches = walk text (branchFor label branches) := by
  induction branches with
  | nil => simp [walkBranch, branchFor, walk]
  | cons b rest ih =>
    obtain ⟨candidate, child⟩ := b
    by_cases h : candidate = label <;> simp [walkBranch, branchFor, h, ih]

end Tree

end KeyTree
