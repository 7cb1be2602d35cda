/-
# Collections that hold themselves

A collection that holds itself is written as a loop, in which a mark stands for the collection.
A part that is taken out of the loop has the whole loop in the place of the mark, and the loops
around the mark become marks in turn, so that the part is a value of its own.

* `Value.unfold` — a value whose parts are values of their own.
-/

import KeyTree.Value.Basic

namespace KeyTree.Value

/-- The kind of a collection. -/
def enclosure : Value → Enclosure
  | .tuple _ => .tuple
  | .dict _ => .dict
  | _ => .list

mutual

/-- A value with marks in the place of the loops whose labels are open. -/
def closeLoops (opened : List Nat) : Value → Value
  | .loop label body =>
    if opened.contains label then .again label body.enclosure
    else .loop label (closeLoops opened body)
  | .list items => .list (closeItems opened items)
  | .tuple items => .tuple (closeItems opened items)
  | .dict entries => .dict (closeEntries opened entries)
  | other => other

/-- The parts of a collection with such marks. -/
def closeItems (opened : List Nat) : List Value → List Value
  | [] => []
  | v :: vs => closeLoops opened v :: closeItems opened vs

/-- The entries of a dictionary with such marks. -/
def closeEntries (opened : List Nat) : List (Value × Value) → List (Value × Value)
  | [] => []
  | (k, v) :: rest => (k, closeLoops opened v) :: closeEntries opened rest

end

mutual

/-- A value with a whole loop in the place of the marks of its label; `opened` are the labels of
the loops around the value. -/
def putBack (label : Nat) (whole : Value) (opened : List Nat) : Value → Value
  | .again l enclosure => if l = label then closeLoops opened whole else .again l enclosure
  | .loop l body => .loop l (putBack label whole (l :: opened) body)
  | .list items => .list (putBackItems label whole opened items)
  | .tuple items => .tuple (putBackItems label whole opened items)
  | .dict entries => .dict (putBackEntries label whole opened entries)
  | other => other

/-- The parts of a collection with the loop put back. -/
def putBackItems (label : Nat) (whole : Value) (opened : List Nat) : List Value → List Value
  | [] => []
  | v :: vs => putBack label whole opened v :: putBackItems label whole opened vs

/-- The entries of a dictionary with the loop put back. -/
def putBackEntries (label : Nat) (whole : Value) (opened : List Nat) :
    List (Value × Value) → List (Value × Value)
  | [] => []
  | (k, v) :: rest => (k, putBack label whole opened v) :: putBackEntries label whole opened rest

end

/-- A value whose parts are values of their own: a loop without its label. -/
def unfold : Value → Value
  | .loop label body => putBack label (.loop label body) [] body
  | other => other

end KeyTree.Value
