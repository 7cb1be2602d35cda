/-
# Reading a text from front to back

The place in a text up to which it has been read, with the line and the column that
indentation is measured by, and the reading of characters from there.

* `Cursor` — a place in a text; `Scan` — a reading that may find the text at fault.
* `isBreak`, `endsLine`, `endsWord` — the characters that end lines and words.
* `Scan.lineBreak`, `Scan.takeWhile`, `Scan.atMarker` — the readings used everywhere.
-/

import KeyTree.Yaml.Fault

namespace KeyTree.Yaml

/-! ### Characters -/

/-- Whether a text may hold a character at all. -/
def isAllowed (c : Char) : Bool :=
  let n := c.toNat
  n = 0x09 || n = 0x0A || n = 0x0D || (0x20 ≤ n && n ≤ 0x7E) || n = 0x85
    || (0xA0 ≤ n && n ≤ 0xFFFD) || 0x10000 ≤ n

/-- The mark that may stand in front of a text. -/
def byteOrderMark : Char := '\uFEFF'

/-- Whether a character ends a line. -/
def isBreak (c : Char) : Bool :=
  c = '\n' || c = '\r' || c = '\x85' || c = '\u2028' || c = '\u2029'

/-- Whether a character separates words: a space, a tabulator or the end of a line. -/
def isSeparator (c : Char) : Bool :=
  c = ' ' || c = '\t' || isBreak c

/-- Whether a line ends before the next character, if there is one. -/
def endsLine (next : Option Char) : Bool := next.all isBreak

/-- Whether a word ends before the next character, tabulators not counted. -/
def endsPlainly (next : Option Char) : Bool := next.all fun c => c = ' ' || isBreak c

/-- Whether a word ends before the next character. -/
def endsWord (next : Option Char) : Bool := next.all isSeparator

/-- Whether a character may be part of the name of an anchor, a directive or a
handle. -/
def isWordChar (c : Char) : Bool := c.isAlphanum || c = '-' || c = '_'

/-! ### Places -/

/-- A place in a text: what is left to read, and where it starts. -/
structure Cursor where
  rest : List Char
  index : Nat := 0
  line : Nat := 0
  column : Nat := 0
  deriving Repr

namespace Cursor

/-- The place after the next character. The mark in front of a text takes no
column. -/
def next (c : Cursor) : Cursor :=
  match c.rest with
  | [] => c
  | ch :: rest =>
    if isBreak ch && !(ch = '\r' && rest.head? = some '\n') then
      { rest, index := c.index + 1, line := c.line + 1, column := 0 }
    else
      { rest, index := c.index + 1, line := c.line
        column := if ch = byteOrderMark then c.column else c.column + 1 }

/-- The place after a number of characters. -/
def advance (c : Cursor) : Nat → Cursor
  | 0 => c
  | n + 1 => c.next.advance n

/-- Whether a marker of the start or the end of a document is next: three equal
characters that stand alone. -/
def atMarker (mark : Char) (c : Cursor) : Bool :=
  c.rest.take 3 = [mark, mark, mark] && endsWord c.rest[3]?

/-- Whether a marker of either kind is next. -/
def atAnyMarker (c : Cursor) : Bool := c.atMarker '-' || c.atMarker '.'

end Cursor

/-! ### Readings -/

/-- A reading from a place on. It fails where the text is at fault. -/
abbrev Scan := StateT Cursor (Except LoadFault)

namespace Scan

/-- Fails on a malformed text. -/
def malformed {α : Type} : Scan α := throw .malformed

/-- The next character. -/
def peek : Scan (Option Char) := do return (← get).rest.head?

/-- The character a number of places further on. -/
def peekAt (n : Nat) : Scan (Option Char) := do return (← get).rest[n]?

/-- Moves on by a number of characters. -/
def skip (n : Nat) : Scan Unit := modify (·.advance n)

/-- The characters from here on that have a property. -/
def takeWhile (p : Char → Bool) : Scan (List Char) := do
  let taken := (← get).rest.takeWhile p
  skip taken.length
  return taken

/-- Moves on over the characters that have a property. -/
def skipWhile (p : Char → Bool) : Scan Unit := do
  let _ ← takeWhile p

/-- Moves on over spaces. -/
def skipSpaces : Scan Unit := skipWhile (· = ' ')

/-- Fails unless a condition holds. -/
def require (condition : Bool) : Scan Unit := if condition then pure () else malformed

/-- Reads the end of a line, if it is next: as a line feed, unless it is one of the
two separators that keep their character. -/
def lineBreak : Scan (Option Char) := do
  match (← get).rest with
  | '\r' :: '\n' :: _ => skip 2; return some '\n'
  | c :: _ =>
    if c = '\u2028' || c = '\u2029' then do skip 1; return some c
    else if isBreak c then do skip 1; return some '\n'
    else return none
  | [] => return none

/-- Moves on over a comment up to the end of its line, if one is next. -/
def skipComment : Scan Unit := do
  if (← peek) = some '#' then skipWhile fun c => !isBreak c

/-- Moves on to the next line, if nothing but spaces and a comment is left on this
one. -/
def finishLine : Scan Unit := do
  skipSpaces
  skipComment
  require (endsLine (← peek))
  let _ ← lineBreak

end Scan

end KeyTree.Yaml
