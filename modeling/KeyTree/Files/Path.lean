/-
# Paths

A path names a file by way of directories. Empty names and single dots say nothing and
are dropped; double dots are kept, since where they lead depends on the directories.

* `Path.ofString`, `Path.text` — from a text and back.
* `Path.parent`, `Path.join` — the directory of a path, and a path from there on.
-/

import KeyTree.Text.Parts

namespace KeyTree

/-- A path: the slashes at its start, and its names. Two slashes differ from one, more
than two do not. -/
structure Path where
  slashes : Nat := 0
  names : List String := []
  deriving DecidableEq, Repr

namespace Path

/-- Whether a part between slashes is a name that says something. -/
def isName (part : List Char) : Bool := part ≠ [] && part ≠ ['.']

/-- The path of a text. -/
def ofString (text : String) : Path :=
  let start := (text.toList.takeWhile (· = '/')).length
  { slashes := if 2 < start then 1 else start
    names := ((Text.parts '/' text.toList).filter isName).map String.ofList }

/-- Whether a path starts at the root. -/
def isAbsolute (p : Path) : Bool := p.slashes ≠ 0

/-- The text of a path. The path without names is the directory itself. -/
def text (p : Path) : String :=
  if p.slashes = 0 ∧ p.names = [] then "."
  else String.ofList (List.replicate p.slashes '/') ++ String.intercalate "/" p.names

/-- The directory of a path. -/
def parent (p : Path) : Path := { p with names := p.names.dropLast }

/-- The path that another one names from a directory on. -/
def join (directory p : Path) : Path :=
  if p.isAbsolute then p else { directory with names := directory.names ++ p.names }

end Path

end KeyTree
