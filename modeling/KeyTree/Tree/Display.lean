/-
# Written form of trees

How a decision tree and an entry are shown, and when two trees are equal. The
values at the leaves are compared as values, so trees can be equal that hold
different values of equal number.
-/

import KeyTree.Tree.Basic
import KeyTree.Value.Display
import KeyTree.Value.Equality

namespace KeyTree

/-- How an entry is shown. -/
def Entry.display (e : Entry) : String :=
  "Key(text=" ++ e.text.display ++ ", index=" ++ toString e.index
    ++ ", value=" ++ e.value.display ++ ")"

/-- Whether two entries have equal texts, indices and values. -/
def Entry.same (a b : Entry) : Bool :=
  a.text.same b.text && a.index = b.index && a.value.same b.value

namespace Tree

mutual

/-- How a tree is shown. -/
def display : Tree → String
  | .miss => "MISS"
  | .leaf entry => "Leaf(key=" ++ entry.display ++ ")"
  | .charTest position branches =>
    "CharTest(position=" ++ toString position ++ ", branches="
      ++ tupleText (displayBranches branches) ++ ")"
  | .lengthTest n same other =>
    "LengthTest(length=" ++ toString n ++ ", if_equal=" ++ display same
      ++ ", if_not=" ++ display other ++ ")"
  | .lengthSplit pivot below atLeast =>
    "LengthSplit(pivot=" ++ toString pivot ++ ", below=" ++ display below
      ++ ", at_least=" ++ display atLeast ++ ")"

/-- How the branches of a node are shown. -/
def displayBranches : List (String × Tree) → List String
  | [] => []
  | (label, child) :: rest =>
    tupleText [Text.quote label, display child] :: displayBranches rest

end

mutual

/-- Whether two trees are equal node by node. -/
def same (a b : Tree) : Bool :=
  match a, b with
  | .miss, .miss => true
  | .leaf e, .leaf f => e.same f
  | .charTest p bs, .charTest q cs => p = q && sameBranches bs cs
  | .lengthTest n s o, .lengthTest m s' o' => n = m && same s s' && same o o'
  | .lengthSplit n b l, .lengthSplit m b' l' => n = m && same b b' && same l l'
  | _, _ => false

/-- Whether two lists of branches are equal branch by branch. -/
def sameBranches : List (String × Tree) → List (String × Tree) → Bool
  | [], [] => true
  | (c, t) :: rest, (d, u) :: rest' => c = d && same t u && sameBranches rest rest'
  | _, _ => false

end

end Tree

end KeyTree
