/-
# Writing indented lines

A writer collects lines at a level of indentation. Blank lines are only asked for:
they appear when another line follows, as many as were asked for at most, so that
runs of blank lines collapse and none stands at either end.

* `Writer.line`, `Writer.blank` — a line, and a request for blank lines.
* `Writer.indent`, `Writer.dedent` — the level of indentation.
* `Writer.render` — the text collected so far.
-/

import KeyTree.Text.Blank

namespace KeyTree.Source

/-- A writer of indented lines. The lines are kept last first. -/
structure Writer where
  unit : String := "    "
  level : Nat := 0
  reversed : List String := []
  pending : Nat := 0
  started : Bool := false
  deriving Repr

/-- The level of indentation cannot fall below zero. -/
inductive IndentFault where
  | underflow
  deriving DecidableEq, Repr

/-- The wording of the fault. -/
def IndentFault.message : IndentFault → String
  | .underflow => "indentation underflow"

namespace Writer

/-- The indentation at a level. -/
def margin (unit : String) (level : Nat) : String :=
  String.join (List.replicate level unit)

/-- Asks for blank lines before the next line. Before the first line none are
kept. -/
def blank (count : Int) (w : Writer) : Writer :=
  if w.started then { w with pending := max w.pending count.toNat } else w

/-- Writes a line at the current level after the blank lines asked for. An empty
text asks for one blank line instead. -/
def line (text : String) (w : Writer) : Writer :=
  if text.isEmpty then w.blank 1
  else
    { w with
      reversed := (margin w.unit w.level ++ text) :: (List.replicate w.pending "" ++ w.reversed)
      pending := 0
      started := true }

/-- Raises the level by one. -/
def indent (w : Writer) : Writer := { w with level := w.level + 1 }

/-- Lowers the level by one. -/
def dedent (w : Writer) : Except IndentFault Writer :=
  match w.level with
  | 0 => .error .underflow
  | level + 1 => .ok { w with level }

/-- The text of the lines: without the white space at the end, and with one line
end. -/
def render (w : Writer) : String :=
  String.ofList (Text.trimEnd (String.intercalate "\n" w.reversed.reverse).toList) ++ "\n"

end Writer

end KeyTree.Source
