/-
# Classes of entries

Dividing entries by their length or by the character at a position. The classes
come in ascending order, none is empty, and each keeps the order of the
declaration.

* `addToClass` — puts one item in front of its class.
* `byLength`, `byCharacter` — the two divisions.
-/

import KeyTree.Entry.Basic

namespace KeyTree

section Classes

variable {κ α : Type} [DecidableEq κ] [LT κ] [DecidableLT κ]

/-- Puts an item in front of the class of `k`; a new class takes its place among
the ascending ones. -/
def addToClass (k : κ) (x : α) : List (κ × List α) → List (κ × List α)
  | [] => [(k, [x])]
  | (k', xs) :: rest =>
    if k = k' then (k', x :: xs) :: rest
    else if k < k' then (k, [x]) :: (k', xs) :: rest
    else (k', xs) :: addToClass k x rest

end Classes

/-- The entries divided by their length. -/
def byLength : List Entry → List (Nat × List Entry)
  | [] => []
  | e :: rest => addToClass e.length e (byLength rest)

/-- The entries divided by their character at a position, which each must have. -/
def byCharacter (position : Int) : List Entry → Except ReadFault (List (Char × List Entry))
  | [] => .ok []
  | e :: rest =>
    match charAt? e.chars position with
    | some c => addToClass c e <$> byCharacter position rest
    | none => .error .outOfRange

end KeyTree
