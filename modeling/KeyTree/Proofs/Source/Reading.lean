/-
# Leaves in generated code

A leaf is written in two lines: a test of its key and, one level deeper, the answer with its
value. All other lines are the frame around the leaves: tests of the length and of characters,
calls, the answer on a miss and the headers of functions. What a block holds is told by its
values and by its lines alike, and both follow from the blocks that it is put together from.

* `Frame`, `Reads` — the lines of the frame, and what lines say.
* `Reads.reading_iff` — lines that read back.
* `Holds` — the leaves that a block holds, with one lemma for each kind of statement.
* `ArmsHold` — the same for the arms of a choice.
-/

import KeyTree.Source.Helpers
import KeyTree.Source.Lines

namespace KeyTree.Source

/-! ### Lines -/

/-- The lines that belong to no leaf, in the functions of a lookup with a name and a value that is
reported on a miss, and how they read back. -/
inductive Frame (name : String) (default : Value) : String → Reading → Prop where
  | main : Frame name default ("def " ++ name ++ "(key):") .faithful
  | helper (number : Nat) :
      Frame name default ("def " ++ helperName name number ++ "(key):") .faithful
  | measure : Frame name default "n = len(key)" .faithful
  | read (position : Int) :
      Frame name default ("ch = key[" ++ toString position ++ "]") .faithful
  | call (number : Nat) :
      Frame name default ("return " ++ helperName name number ++ "(key)") .faithful
  | test (header : Header) {condition : Condition} (other : ∀ t, condition ≠ .keyIs t) :
      Frame name default (header.word ++ " " ++ condition.text ++ ":") condition.reading
  | otherwise : Frame name default (Header.otherwise.word ++ ":") .faithful
  | miss :
      Frame name default ("return " ++ boolText false ++ ", " ++ default.literalText)
        (valueReading default)

/-- The test of the key of a leaf. -/
def testLine (e : Entry) (level : Nat) : Line := Header.first.line level (.keyIs e.text)

/-- The answer with the value of a leaf. -/
def hitLine (e : Entry) (level : Nat) : Line where
  level
  text := "return " ++ boolText true ++ ", " ++ e.value.literalText
  reading := valueReading e.value

/-- `Reads name default lines entries`: the lines hold the leaves of the entries, one after the
other, and nothing else but a frame. -/
inductive Reads (name : String) (default : Value) : List Line → List Entry → Prop where
  | nil : Reads name default [] []
  | frame {line : Line} {lines : List Line} {entries : List Entry}
      (frame : Frame name default line.text line.reading) (others : Reads name default lines entries) :
      Reads name default (line :: lines) entries
  | leaf (e : Entry) (level : Nat) {lines : List Line} {entries : List Entry}
      (others : Reads name default lines entries) :
      Reads name default (testLine e level :: hitLine e (level + 1) :: lines) (e :: entries)

variable {name : String} {default : Value}

/-- Lines behind others hold their leaves behind those of the others. -/
theorem Reads.append {lines lines' : List Line} {entries entries' : List Entry}
    (reads : Reads name default lines entries) (reads' : Reads name default lines' entries') :
    Reads name default (lines ++ lines') (entries ++ entries') := by
  induction reads with
  | nil => exact reads'
  | frame frame _ ih => exact .frame frame ih
  | leaf e level _ ih => exact .leaf e level ih

/-- A line of the frame reads back if the value reported on a miss does. -/
theorem Frame.reading_eq_faithful {text : String} {reading : Reading}
    (frame : Frame name default text reading) (missed : valueReading default = .faithful) :
    reading = .faithful := by
  cases frame with
  | miss => exact missed
  | @test _ condition other =>
    cases condition with
    | keyIs t => exact absurd rfl (other t)
    | keyIsNoText | lengthBelow | lengthIs | characterBelow | characterIs => rfl
  | main | helper | measure | read | call | otherwise => rfl

/-- Lines that hold leaves in a frame read back exactly when the literals of the leaves do, if that
of the value reported on a miss does. -/
theorem Reads.reading_iff {lines : List Line} {entries : List Entry}
    (reads : Reads name default lines entries) (missed : valueReading default = .faithful) :
    (∀ l ∈ lines, l.reading = .faithful) ↔
      ∀ e ∈ entries, keyReading e.text = .faithful ∧ valueReading e.value = .faithful := by
  induction reads with
  | nil => exact iff_of_true (by simp) (by simp)
  | frame frame _ ih =>
    rw [List.forall_mem_cons, ih]
    exact and_iff_right (frame.reading_eq_faithful missed)
  | leaf e level _ ih =>
    rw [List.forall_mem_cons, List.forall_mem_cons, List.forall_mem_cons, ih, and_assoc]
    rfl

/-- The lines of two blocks. -/
theorem blockLines_append (level : Nat) (first second : List Statement) :
    Statement.blockLines level (first ++ second)
      = Statement.blockLines level first ++ Statement.blockLines level second := by
  induction first with
  | nil => rfl
  | cons s rest ih =>
    rw [List.cons_append, Statement.blockLines, ih, Statement.blockLines, List.append_assoc]

/-- The values of two blocks. -/
theorem blockValues_append (first second : List Statement) :
    Statement.blockValues (first ++ second)
      = Statement.blockValues first ++ Statement.blockValues second := by
  induction first with
  | nil => rfl
  | cons s rest ih =>
    rw [List.cons_append, Statement.blockValues, ih, Statement.blockValues, List.append_assoc]

/-! ### Blocks -/

/-- `Holds name default block entries`: the block holds the leaves of the entries, one after the
other. -/
structure Holds (name : String) (default : Value) (block : List Statement)
    (entries : List Entry) : Prop where
  values : Statement.blockValues block = entries.map Entry.value
  reads : ∀ level, Reads name default (Statement.blockLines level block) entries

/-- `ArmsHold name default arms entries`: the arms of a choice hold the leaves of the entries, one
after the other. -/
structure ArmsHold (name : String) (default : Value) (arms : List (Condition × List Statement))
    (entries : List Entry) : Prop where
  values : Statement.armValues arms = entries.map Entry.value
  reads : ∀ level header, Reads name default (Statement.armLines level header arms) entries

namespace Holds

variable {block yes no : List Statement} {entries more : List Entry}

/-- The empty block holds no leaves. -/
theorem nil : Holds name default [] [] := ⟨rfl, fun _ => .nil⟩

/-- A leaf is a block. -/
theorem leaf (e : Entry) :
    Holds name default [.choose [(.keyIs e.text, [.answer true e.value])]] [e] :=
  ⟨rfl, fun level => .leaf e level .nil⟩

/-- A call holds no leaves. -/
theorem call (number : Nat) : Holds name default [.call (helperName name number)] [] :=
  ⟨rfl, fun _ => .frame (.call number) .nil⟩

/-- Reading a character adds no leaves to a block. -/
theorem cons_read (position : Int) (holds : Holds name default block entries) :
    Holds name default (.read position :: block) entries :=
  ⟨holds.values, fun level => .frame (.read position) (holds.reads level)⟩

/-- Taking the length adds no leaves to a block. -/
theorem cons_measure (holds : Holds name default block entries) :
    Holds name default (.measure :: block) entries :=
  ⟨holds.values, fun level => .frame .measure (holds.reads level)⟩

/-- One of two blocks holds the leaves of both. -/
theorem either {condition : Condition} (other : ∀ t, condition ≠ .keyIs t)
    (first : Holds name default yes entries) (second : Holds name default no more) :
    Holds name default [.either condition yes no] (entries ++ more) where
  values := by
    simp only [Statement.blockValues, Statement.values, List.append_nil, List.map_append,
      first.values, second.values]
  reads := by
    intro level
    rw [Statement.blockLines, Statement.lines, Statement.blockLines, List.append_nil]
    exact .frame (.test .first other)
      ((first.reads (level + 1)).append (.frame .otherwise (second.reads (level + 1))))

end Holds

namespace ArmsHold

variable {block : List Statement} {arms : List (Condition × List Statement)}
  {entries more : List Entry}

/-- No arms hold no leaves. -/
theorem nil : ArmsHold name default [] [] := ⟨rfl, fun _ _ => .nil⟩

/-- An arm before others. -/
theorem cons {condition : Condition} (other : ∀ t, condition ≠ .keyIs t)
    (first : Holds name default block entries) (others : ArmsHold name default arms more) :
    ArmsHold name default ((condition, block) :: arms) (entries ++ more) where
  values := by
    rw [Statement.armValues, first.values, others.values, List.map_append]
  reads := by
    intro level header
    rw [Statement.armLines]
    exact .frame (.test header other)
      ((first.reads (level + 1)).append (others.reads level .further))

/-- A choice holds the leaves of its arms. -/
theorem choose (holds : ArmsHold name default arms entries) :
    Holds name default [.choose arms] entries where
  values := by
    rw [Statement.blockValues, Statement.values, Statement.blockValues, List.append_nil,
      holds.values]
  reads := by
    intro level
    rw [Statement.blockLines, Statement.lines, Statement.blockLines, List.append_nil]
    exact holds.reads level .first

end ArmsHold

end KeyTree.Source
