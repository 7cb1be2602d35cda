/-
# Lines of a function

The text of the generated functions, line by line, each line with its level of
indentation.

* `Reading` — how a literal reads back; `keyReading`, `valueReading` — the literals of keys and
  of values.
* `Condition.text` — a condition as it is written.
* `Statement.lines`, `Function.lines` — the lines of a statement and of a function.
-/

import KeyTree.Class.Environment
import KeyTree.Source.Code
import KeyTree.Text.Identifier
import KeyTree.Text.NormalForm
import KeyTree.Value.Literal

namespace KeyTree

/-! ### Literals that are read back -/

namespace Source

/-- How a literal reads back: as what it is written for, or not at all. What a literal reads back
as that a class spells in a way of its own is left open. -/
inductive Reading where
  | faithful
  | invalid
  | foreign
  deriving DecidableEq, Repr

/-- The constant that cannot be bound. -/
def guardName : String := "__debug__"

end Source

/-- Whether a name stands for itself in code. -/
def Text.isSpelled (name : String) : Bool :=
  Text.isFunctionName name && Text.normalForm name = name && name ≠ Source.guardName

/-- Whether the expression of a class consists of names with dots between them. -/
def ClassName.isSpelled (c : ClassName) : Bool := (dottedParts c.reference).all Text.isSpelled

namespace Source

/-- How the literal of a value reads back. -/
def valueReading : Value → Reading
  | .cls c => if c.isSpelled then .faithful else .foreign
  | .member c _ name _ => if c.isSpelled && Text.isSpelled name then .faithful else .foreign
  | _ => .faithful

/-- How the literal of a key reads back. A member of an enumeration is shown in angle brackets. -/
def keyReading (t : Text) : Reading :=
  if Text.unquote? t.display.toList = some t.chars then .faithful
  else
    match t.form with
    | .member _ _ => .invalid
    | _ => .foreign

/-! ### Lines -/

/-- The headers of blocks: of a function, of the first and of a further arm of a choice, and
of what is left. -/
inductive Header where
  | function
  | first
  | further
  | otherwise
  deriving DecidableEq, Repr

/-- The word that a header starts with. -/
def Header.word : Header → String
  | .function => "def"
  | .first => "if"
  | .further => "elif"
  | .otherwise => "else"

/-- A line of text at a level of indentation. A header is followed by its block. How the line
reads back depends on the literals in it. -/
structure Line where
  level : Nat
  text : String
  header : Option Header := none
  reading : Reading := .faithful
  deriving DecidableEq, Repr

/-- A condition as it is written. -/
def Condition.text : Condition → String
  | .keyIsNoText => "not isinstance(key, str)"
  | .keyIs t => "key == " ++ t.display
  | .lengthBelow bound => "n < " ++ toString bound
  | .lengthIs length => "n == " ++ toString length
  | .characterBelow bound => "ch < " ++ Text.quote bound
  | .characterIs label => "ch == " ++ Text.quote label

/-- How a condition reads back. -/
def Condition.reading : Condition → Reading
  | .keyIs t => keyReading t
  | _ => .faithful

/-- The header of an arm with a condition. -/
def Header.line (header : Header) (level : Nat) (condition : Condition) : Line where
  level
  text := header.word ++ " " ++ condition.text ++ ":"
  header
  reading := condition.reading

/-- The header of what is left. -/
def otherwiseLine (level : Nat) : Line where
  level
  text := Header.otherwise.word ++ ":"
  header := some .otherwise

namespace Statement

mutual

/-- The lines of a statement at a level. -/
def lines (level : Nat) : Statement → List Line
  | .measure => [{ level, text := "n = len(key)" }]
  | .read position => [{ level, text := "ch = key[" ++ toString position ++ "]" }]
  | .answer found value =>
    [{ level
       text := "return " ++ boolText found ++ ", " ++ value.literalText
       reading := valueReading value }]
  | .call function => [{ level, text := "return " ++ function ++ "(key)" }]
  | .choose arms => armLines level .first arms
  | .either condition yes no =>
    Header.first.line level condition :: (blockLines (level + 1) yes
      ++ otherwiseLine level :: blockLines (level + 1) no)

/-- The lines of a block at a level. -/
def blockLines (level : Nat) : List Statement → List Line
  | [] => []
  | s :: rest => lines level s ++ blockLines level rest

/-- The lines of the arms of a choice; `header` is that of the first. -/
def armLines (level : Nat) (header : Header) : List (Condition × List Statement) → List Line
  | [] => []
  | (condition, block) :: rest =>
    header.line level condition
      :: (blockLines (level + 1) block ++ armLines level .further rest)

end

end Statement

/-- The line of the text that documents a function, if there is one. -/
def docLines : Option String → List Line
  | none => []
  | some doc => if doc.isEmpty then [] else [{ level := 1, text := Text.quote doc }]

/-- The header of a function. -/
def Function.headerLine (f : Function) : Line where
  level := 0
  text := Header.function.word ++ " " ++ f.name ++ "(key):"
  header := some .function

/-- The lines of a function. -/
def Function.lines (f : Function) : List Line :=
  f.headerLine :: (docLines f.doc ++ Statement.blockLines 1 f.body)

end Source

end KeyTree
