/-
# Reading modules

The program that the text of a module is read as. The lines that are not blank are read from the
last to the first. The deeper lines right behind a line are its block: they must have one
indentation and make up statements, a test together with the further tests behind it or with what
is left. Literals are read by a function that is given. A text that is laid out otherwise than
generated modules are is not read at all. How deeply blocks may be nested is left aside.

* `readBehind?` — reads a text by how it opens.
* `Condition.read?` — conditions; `Piece` — what a line is with its block; `Piece.read?` — reads it.
* `assemble?` — the statements that pieces make up.
* `readLines?` — the pieces of lines; `Program.read?` — the program of a text.
* `Condition.read?_text`, `Piece.read?_read` and the like — what is written reads back.
-/

import KeyTree.Proofs.Source.Layout
import KeyTree.Proofs.Text.Quoted
import Mathlib.Data.List.Infix
import Std.Data.String.ToInt

namespace KeyTree.Source

/-! ### Openings -/

/-- Reads what stands behind the first opening of a table that a text has. -/
def readBehind? {α : Type} : List (String × (List Char → Option α)) → List Char → Option α
  | [], _ => none
  | (opening, read) :: rest, s =>
    match s.dropPrefix? opening.toList with
    | some behind => read behind
    | none => readBehind? rest s

/-- What stands in front of a closing. -/
def before? (closing : String) (s : List Char) : Option (List Char) := s.dropSuffix? closing.toList

/-- Nothing more stands there. -/
def finish? {α : Type} (x : α) (s : List Char) : Option α := if s.isEmpty then some x else none

/-! ### One line -/

/-- The text that a literal denotes. -/
def readText? (s : List Char) : Option String := (Text.unquote? s).map String.ofList

/-- The number that a literal denotes. -/
def readNumber? (s : List Char) : Option Int :=
  (String.ofList s).toInt?.filter (toString · = String.ofList s)

/-- The name of a function. -/
def readName? (s : List Char) : Option String :=
  (some (String.ofList s)).filter Text.isFunctionName

/-- The name of a module. -/
def readModule? (s : List Char) : Option String :=
  (some (String.ofList s)).filter fun name => (dottedParts name).all Text.isFunctionName

/-- The ways in which conditions open. -/
def conditionTable : List (String × (List Char → Option Condition)) :=
  [("not isinstance(key, str)", finish? .keyIsNoText),
   ("key == ", fun s => (readText? s).map fun t => .keyIs ⟨t, .plain⟩),
   ("n < ", fun s => (readNumber? s).map .lengthBelow),
   ("n == ", fun s => (readNumber? s).map .lengthIs),
   ("ch < ", fun s => (readText? s).map .characterBelow),
   ("ch == ", fun s => (readText? s).map .characterIs)]

/-- The condition that a text is read as. -/
def Condition.read? (s : List Char) : Option Condition := readBehind? conditionTable s

/-! ### Lines with their blocks -/

/-- What a line is with its block: a statement, a first or a further test, what is left, a function,
an import, or a text that documents the module. -/
inductive Piece where
  | statement (s : Statement)
  | first (condition : Condition) (block : List Statement)
  | further (condition : Condition) (block : List Statement)
  | otherwise (block : List Statement)
  | function (f : Function)
  | module (name : String)
  | note

section Literals

variable (denote : String → Option Value)

/-- The ways in which lines without a block open. -/
def plainTable : List (String × (List Char → Option Piece)) :=
  [("n = len(key)", finish? (.statement .measure)),
   ("ch = key[", fun s => (before? "]" s >>= readNumber?).map fun p => .statement (.read p)),
   ("return True, ", fun s => (denote (String.ofList s)).map fun v => .statement (.answer true v)),
   ("return False, ", fun s => (denote (String.ofList s)).map fun v => .statement (.answer false v)),
   ("return ", fun s => (before? "(key)" s >>= readName?).map fun f => .statement (.call f)),
   ("import ", fun s => (readModule? s).map .module),
   ("\x22\x22\x22", fun s => ((before? "\x22\x22\x22" s).filter
      (·.all fun c => c ≠ '\x22' && c ≠ '\\')).map fun _ => .note)]

/-- The ways in which headers open, with the block behind. -/
def headerTable (block : List Statement) : List (String × (List Char → Option Piece)) :=
  [("if ", fun s => (before? ":" s >>= Condition.read?).map (.first · block)),
   ("elif ", fun s => (before? ":" s >>= Condition.read?).map (.further · block)),
   ("else:", finish? (.otherwise block)),
   ("def ", fun s => (before? "(key):" s >>= readName?).map fun name =>
      .function { name, body := block })]

/-- The piece that a line is read as with its block. -/
def Piece.read? (s : List Char) (block : List Statement) : Option Piece :=
  if block.isEmpty then readBehind? (plainTable denote) s else readBehind? (headerTable block) s

/-- What is read of a block from its end: the further tests and what is left that wait for their
first test, and the statements behind. -/
structure Waiting where
  arms : List (Condition × List Statement) := []
  otherwise : Option (List Statement) := none
  behind : List Statement := []

/-- A piece in front of what is read. -/
def Piece.join? : Piece → Waiting → Option Waiting
  | .statement s, ⟨[], none, behind⟩ => some ⟨[], none, s :: behind⟩
  | .first c block, ⟨arms, none, behind⟩ =>
    some ⟨[], none, .choose ((c, block) :: arms) :: behind⟩
  | .first c block, ⟨[], some no, behind⟩ => some ⟨[], none, .either c block no :: behind⟩
  | .further c block, ⟨arms, none, behind⟩ => some ⟨(c, block) :: arms, none, behind⟩
  | .otherwise block, ⟨[], none, behind⟩ => some ⟨[], some block, behind⟩
  | _, _ => none

/-- The statements that pieces make up. -/
def assemble? (pieces : List Piece) : Option (List Statement) :=
  match pieces.foldrM Piece.join? {} with
  | some ⟨[], none, block⟩ => some block
  | _ => none

/-! ### Modules -/

/-- A line with its indentation. -/
def indented (line : String) : Nat × List Char :=
  ((line.toList.takeWhile (· = ' ')).length, line.toList.dropWhile (· = ' '))

/-- A line in front of pieces with their indentation. The deeper ones right behind it are its
block. -/
def takeLine? (line : Nat × List Char) (behind : List (Nat × Piece)) :
    Option (List (Nat × Piece)) := do
  let inside := behind.takeWhile (line.1 < ·.1)
  guard (inside.all (some ·.1 = inside.head?.map Prod.fst))
  let block ← assemble? (inside.map Prod.snd)
  let piece ← Piece.read? denote line.2 block
  return (line.1, piece) :: behind.dropWhile (line.1 < ·.1)

/-- The pieces of lines, in front of others. -/
def readLines? (lines : List String) (behind : List (Nat × Piece)) : Option (List (Nat × Piece)) :=
  (lines.map indented).foldrM (takeLine? denote) behind

/-- The function that a piece is. -/
def Piece.function? : Piece → Option Function
  | .function f => some f
  | _ => none

/-- The module that a piece imports. -/
def Piece.module? : Piece → Option String
  | .module name => some name
  | _ => none

/-- The program that the pieces of a module make up: behind the text that documents it the imports
that its functions need, and the functions. -/
def Program.ofPieces? : List Piece → Option Program
  | .note :: rest => do
    let modules := rest.takeWhile (·.module?.isSome)
    let functions ← (rest.dropWhile (·.module?.isSome)).mapM Piece.function?
    guard (modules.filterMap Piece.module? = imports ⟨functions⟩)
    return ⟨functions⟩
  | _ => none

/-- The program that a text is read as. -/
def Program.read? (text : String) : Option Program := do
  let pieces ← readLines? denote ((linesOf text).filter (!·.isEmpty)) []
  guard (pieces.all (·.1 = 0))
  ofPieces? (pieces.map Prod.snd)

end Literals

/-! ### Texts that open in a known way -/

/-- `Apart first second`: no text starts with both. -/
abbrev Apart (first second : String) : Prop :=
  ¬ first.toList <+: second.toList ∧ ¬ second.toList <+: first.toList

/-- A text that opens apart from an opening does not open so. -/
theorem dropPrefix?_eq_none {opening front : String} (apart : Apart opening front)
    (rest : List Char) : (front.toList ++ rest).dropPrefix? opening.toList = none := by
  rw [Option.eq_none_iff_forall_ne_some]
  intro behind found
  obtain ⟨start, whole, same⟩ := List.dropPrefix?_eq_some_iff.mp found
  obtain rfl := eq_of_beq same
  rcases List.prefix_or_prefix_of_prefix ⟨rest, rfl⟩ (whole ▸ List.prefix_append _ behind)
    with first | second
  · exact apart.2 first
  · exact apart.1 second

/-- A text that opens apart from the earlier openings of a table is read by what stands behind the
next. -/
theorem readBehind?_of_apart {α : Type} (table : List (String × (List Char → Option α))) (i : Nat)
    {opening front : String} {read : List Char → Option α} {rest behind : List Char}
    (entry : table[i]? = some (opening, read))
    (apart : ∀ o ∈ (table.map Prod.fst).take i, Apart o front)
    (opens : (front.toList ++ rest).dropPrefix? opening.toList = some behind) :
    readBehind? table (front.toList ++ rest) = read behind := by
  induction table generalizing i with
  | nil => cases entry
  | cons first others ih =>
    obtain ⟨opening', read'⟩ := first
    cases i with
    | zero =>
      cases entry
      rw [readBehind?, opens]
    | succ i =>
      rw [List.map_cons, List.take_succ_cons, List.forall_mem_cons] at apart
      rw [readBehind?, dropPrefix?_eq_none apart.1]
      exact ih i entry apart.2

/-- A text that opens in one of the ways of a table. -/
theorem readBehind?_append {α : Type} (table : List (String × (List Char → Option α))) (i : Nat)
    (opening : String) {read : List Char → Option α} (entry : table[i]? = some (opening, read))
    (apart : ∀ o ∈ (table.map Prod.fst).take i, Apart o opening) (rest : String) :
    readBehind? table (opening ++ rest).toList = read rest.toList := by
  rw [String.toList_append]
  exact readBehind?_of_apart table i entry apart
    (List.dropPrefix?_append_of_beq rest.toList (beq_self_eq_true _))

/-- What stands in front of a closing is found. -/
theorem before?_append (s closing : String) :
    before? closing (s ++ closing).toList = some s.toList := by
  rw [before?, String.toList_append, List.dropSuffix?_eq_some_iff]
  exact ⟨closing.toList, rfl, beq_self_eq_true _⟩

/-! ### Literals and names -/

/-- A number reads back. -/
theorem readNumber?_toString (n : Int) : readNumber? (toString n).toList = some n := by
  have number : (toString n).toInt? = some n := by
    rw [Int.toString_eq_repr, Int.toInt?_repr]
  rw [readNumber?, String.ofList_toList, number, Option.filter_some, if_pos (decide_eq_true rfl)]

/-- A text in quotes reads back. -/
theorem readText?_quote (s : String) : readText? (Text.quote s).toList = some s := by
  have inner : Text.unquote? (Text.quote s).toList = some s.toList :=
    (congrArg Text.unquote? String.toList_ofList).trans (Text.unquote?_quoteChars ..)
  rw [readText?, inner, Option.map_some, String.ofList_toList]

/-- The name of a function reads back. -/
theorem readName?_eq_some {name : String} (valid : Text.isFunctionName name = true) :
    readName? name.toList = some name := by
  rw [readName?, String.ofList_toList, Option.filter_some, if_pos valid]

/-- A condition reads back, unless it compares with a key that is not plain. -/
theorem Condition.read?_text {c : Condition} (plain : ∀ t, c = .keyIs t → t.form = .plain) :
    Condition.read? c.text.toList = some c := by
  have apart (i : Nat) (inside : i < 6) : ∀ o ∈ (conditionTable.map Prod.fst).take i,
      Apart o (conditionTable.map Prod.fst)[i] := by
    revert i
    decide
  cases c with
  | keyIsNoText => rfl
  | keyIs t =>
    obtain ⟨content, form⟩ := t
    obtain rfl : form = .plain := plain _ rfl
    refine (readBehind?_append conditionTable 1 "key == " rfl (apart 1 (by decide)) _).trans ?_
    exact congrArg _ (readText?_quote content)
  | lengthBelow bound =>
    refine (readBehind?_append conditionTable 2 "n < " rfl (apart 2 (by decide)) _).trans ?_
    rw [readNumber?_toString, Option.map_some]
  | lengthIs length =>
    refine (readBehind?_append conditionTable 3 "n == " rfl (apart 3 (by decide)) _).trans ?_
    rw [readNumber?_toString, Option.map_some]
  | characterBelow bound =>
    refine (readBehind?_append conditionTable 4 "ch < " rfl (apart 4 (by decide)) _).trans ?_
    rw [readText?_quote, Option.map_some]
  | characterIs label =>
    refine (readBehind?_append conditionTable 5 "ch == " rfl (apart 5 (by decide)) _).trans ?_
    rw [readText?_quote, Option.map_some]

/-! ### Lines -/

namespace Piece

variable {denote : String → Option Value} {block : List Statement}

/-- The line that takes the length reads back. -/
theorem read?_measure : read? denote "n = len(key)".toList [] = some (.statement .measure) := rfl

/-- The line that reads a character reads back. -/
theorem read?_read (position : Int) :
    read? denote ("ch = key[" ++ toString position ++ "]").toList []
      = some (.statement (.read position)) := by
  have apart : ∀ o ∈ ["n = len(key)"], Apart o "ch = key[" := by decide
  rw [String.append_assoc]
  refine (readBehind?_append (plainTable denote) 1 "ch = key[" rfl apart _).trans ?_
  rw [before?_append, Option.bind_eq_bind, Option.bind_some, readNumber?_toString, Option.map_some]

/-- The line of an answer reads back when its literal does. -/
theorem read?_answer (found : Bool) {v : Value} (denoted : denote v.literalText = some v) :
    read? denote ("return " ++ boolText found ++ ", " ++ v.literalText).toList []
      = some (.statement (.answer found v)) := by
  have apart : ∀ o ∈ ["n = len(key)", "ch = key["], Apart o "return True, " := by decide
  have apart' : ∀ o ∈ ["n = len(key)", "ch = key[", "return True, "], Apart o "return False, " := by
    decide
  cases found with
  | true =>
    refine (readBehind?_append (plainTable denote) 2 "return True, " rfl apart _).trans ?_
    rw [String.ofList_toList, denoted, Option.map_some]
  | false =>
    refine (readBehind?_append (plainTable denote) 3 "return False, " rfl apart' _).trans ?_
    rw [String.ofList_toList, denoted, Option.map_some]

/-- The line of a call of a helper reads back. -/
theorem read?_call {name : String} {number : Nat}
    (valid : Text.isFunctionName (helperName name number) = true) :
    read? denote ("return " ++ helperName name number ++ "(key)").toList []
      = some (.statement (.call (helperName name number))) := by
  have apart : ∀ o ∈ ["n = len(key)", "ch = key[", "return True, ", "return False, "],
      Apart o "return _" := by
    decide
  have whole : ("return " ++ helperName name number ++ "(key)").toList
      = "return _".toList ++ (name ++ "_" ++ toString number ++ "(key)").toList := by
    simp only [helperName, ← String.toList_append, String.append_assoc]
    rfl
  have behind : ("return _".toList ++ (name ++ "_" ++ toString number ++ "(key)").toList).dropPrefix?
      "return ".toList = some (helperName name number ++ "(key)").toList := by
    rw [← whole, String.append_assoc, String.toList_append]
    exact List.dropPrefix?_append_of_beq _ (beq_self_eq_true _)
  rw [whole]
  refine (readBehind?_of_apart (plainTable denote) 4 rfl apart behind).trans ?_
  rw [before?_append, Option.bind_eq_bind, Option.bind_some, readName?_eq_some valid,
    Option.map_some]

/-- The header of an arm reads back with its block when its condition does. -/
theorem read?_arm {c : Condition} (plain : ∀ t, c = .keyIs t → t.form = .plain)
    (filled : block ≠ []) :
    read? denote (Header.first.word ++ " " ++ c.text ++ ":").toList block = some (.first c block) ∧
      read? denote (Header.further.word ++ " " ++ c.text ++ ":").toList block
        = some (.further c block) := by
  have apart : ∀ o ∈ ["if "], Apart o "elif " := by decide
  have some : block.isEmpty = false := by simpa using filled
  rw [read?, read?, some]
  constructor
  · rw [String.append_assoc]
    refine (readBehind?_append (headerTable block) 0 "if " rfl (by simp) _).trans ?_
    rw [before?_append, Option.bind_eq_bind, Option.bind_some, Condition.read?_text plain,
      Option.map_some]
  · rw [String.append_assoc]
    refine (readBehind?_append (headerTable block) 1 "elif " rfl apart _).trans ?_
    rw [before?_append, Option.bind_eq_bind, Option.bind_some, Condition.read?_text plain,
      Option.map_some]

/-- The header of what is left reads back with its block. -/
theorem read?_otherwise (filled : block ≠ []) :
    read? denote (Header.otherwise.word ++ ":").toList block = some (.otherwise block) := by
  have some : block.isEmpty = false := by simpa using filled
  rw [read?, some]
  rfl

/-- The header of a function reads back with its block. -/
theorem read?_function {name : String} (valid : Text.isFunctionName name = true)
    (filled : block ≠ []) :
    read? denote (Header.function.word ++ " " ++ name ++ "(key):").toList block
      = some (.function { name, body := block }) := by
  have apart : ∀ o ∈ ["if ", "elif ", "else:"], Apart o "def " := by decide
  have some : block.isEmpty = false := by simpa using filled
  rw [read?, some, String.append_assoc]
  refine (readBehind?_append (headerTable block) 3 "def " rfl apart _).trans ?_
  rw [before?_append, Option.bind_eq_bind, Option.bind_some, readName?_eq_some valid,
    Option.map_some]

/-- The line of an import reads back. -/
theorem read?_import {name : String}
    (valid : (dottedParts name).all Text.isFunctionName = true) :
    read? denote ("import " ++ name).toList [] = some (.module name) := by
  have apart : ∀ o ∈ ["n = len(key)", "ch = key[", "return True, ", "return False, ", "return "],
      Apart o "import " := by
    decide
  refine (readBehind?_append (plainTable denote) 5 "import " rfl apart _).trans ?_
  rw [readModule?, String.ofList_toList, Option.filter_some, if_pos valid, Option.map_some]

/-- The text that documents a module reads back. -/
theorem read?_note : read? denote Program.headerLine.toList [] = some .note := rfl

end Piece

end KeyTree.Source
