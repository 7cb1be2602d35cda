/-
# Entries

A key with its place in the declaration and its value, and reading single
characters of a text.

* `Entry` — a declared key.
* `charAt?` — the character at a position.
-/

import KeyTree.Value.Basic

namespace KeyTree

/-- A declared key: its text, its place in the declaration, its value. -/
structure Entry where
  text : Text
  index : Int
  value : Value := .none
  deriving Repr, Inhabited

namespace Entry

/-- The characters of the key. -/
def chars (e : Entry) : List Char := e.text.chars

/-- The number of characters of the key. -/
def length (e : Entry) : Nat := e.text.length

end Entry

/-- The character at a position. A negative position counts from the end. -/
def charAt? (s : List Char) (position : Int) : Option Char :=
  if 0 ≤ position then s[position.toNat]?
  else if -position ≤ s.length then s[(s.length + position).toNat]?
  else none

/-- A position that is not negative counts from the start. -/
@[simp]
theorem charAt?_natCast (s : List Char) (p : Nat) : charAt? s p = s[p]? := by
  simp [charAt?]

/-- A character was read at a position that its text does not have. -/
inductive ReadFault where
  | outOfRange
  deriving DecidableEq, Repr

/-- The wording of a fault. -/
def ReadFault.message : ReadFault → String
  | .outOfRange => "string index out of range"

end KeyTree
