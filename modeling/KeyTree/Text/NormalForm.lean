/-
# Normal forms of identifiers

Identifiers that look alike are one. Their common form has every character replaced by
those it stands for, the marks behind a letter in the order of their classes, and then
every pair composed that makes one character.

* `normalForm` — the common form of a text.
-/

import KeyTree.Text.CombiningClass
import KeyTree.Text.Composition
import KeyTree.Text.Decomposition

namespace KeyTree.Text

/-! ### Decomposition -/

/-- A text with every character replaced by those it stands for. -/
def decompose (s : List Char) : List Char :=
  s.flatMap fun c =>
    match syllableLetters? c with
    | some letters => letters
    | none => (decomposition? c).getD [c]

/-! ### Order of marks -/

/-- Adds a character to a text given from its end, before the marks of a higher class. -/
def insertMark (c : Char) : List Char → List Char
  | [] => [c]
  | d :: rest =>
    if 0 < combiningClass c ∧ combiningClass c < combiningClass d then d :: insertMark c rest
    else c :: d :: rest

/-- A text with the marks behind each letter in the order of their classes. -/
def orderMarks (s : List Char) : List Char :=
  (s.foldl (fun done c => insertMark c done) []).reverse

/-! ### Composition -/

/-- A text of which a part has been composed. Each list is given from its end. -/
structure Composing where
  /-- What stands before the last letter. -/
  done : List Char := []
  /-- The last letter. -/
  letter : Option Char := none
  /-- The marks behind the last letter that did not compose. -/
  marks : List Char := []

namespace Composing

/-- The characters so far, from the end. -/
def chars (t : Composing) : List Char := t.marks ++ t.letter.toList ++ t.done

/-- Adds a character. It composes with the last letter unless a mark stands in between
whose class is not lower. -/
def add (t : Composing) (c : Char) : Composing :=
  let composed := do
    let letter ← t.letter
    if t.marks.head?.all fun m => combiningClass m < combiningClass c then
      composition? letter c
    else none
  match composed with
  | some letter => { t with letter := some letter }
  | none =>
    if combiningClass c = 0 then { done := t.chars, letter := some c }
    else { t with marks := c :: t.marks }

end Composing

/-- A text with every pair composed that makes one character. -/
def compose (s : List Char) : List Char := (s.foldl Composing.add {}).chars.reverse

/-- The form that identifiers which look alike have in common. A text of ASCII characters is
its own. -/
def normalForm (s : String) : String :=
  if s.toList.all (·.toNat < 0x80) then s
  else String.ofList (compose (orderMarks (decompose s.toList)))

end KeyTree.Text
