/-
# Layout of generated functions

The text of functions has their lines in order, each behind its indentation, and two blank lines
between two functions. Where no line holds a line end, the lines are told by the text.

* `Writer.Shows` — the lines that a writer has written.
* `writeFunction_shows` — a function behind others.
* `textLines`, `body_eq` — the lines of functions, and their text.
* `linesOf`, `linesOf_intercalate` — the lines of a text.
-/

import KeyTree.Source.Module

namespace KeyTree.Source

/-- The line as it stands in the text, behind one unit of indentation for each of its levels. -/
def Line.written (unit : String) (l : Line) : String :=
  String.join (List.replicate l.level unit) ++ l.text

/-! ### Writers -/

/-- `w.Shows unit lines`: the writer indents by the unit, has written the lines and owes no blank
lines. -/
structure Writer.Shows (w : Writer) (unit : String) (lines : List String) : Prop where
  unit : w.unit = unit
  lines : w.reversed.reverse = lines
  pending : w.pending = 0
  started : w.started = true

namespace Program

variable {w : Writer} {unit : String} {before : List String}

/-- A line is written behind the blank lines that are owed. -/
theorem line_shows {l : Line} {blanks : Nat} (filled : l.text ≠ "") (indents : w.unit = unit)
    (lines : w.reversed.reverse = before) (owes : w.pending = blanks) :
    ({ w with level := l.level }.line l.text).Shows unit
      (before ++ List.replicate blanks "" ++ [l.written unit]) := by
  have nonempty : l.text.isEmpty = false := by simpa using filled
  rw [Writer.line, if_neg (by simp [nonempty]), ← indents, ← lines, ← owes]
  exact ⟨rfl, by simp [Line.written, Writer.margin], rfl, rfl⟩

/-- Lines are written one after the other. -/
theorem foldl_line_shows {lines : List Line} (filled : ∀ l ∈ lines, l.text ≠ "")
    (shows : w.Shows unit before) :
    (lines.foldl (fun w l => { w with level := l.level }.line l.text) w).Shows unit
      (before ++ lines.map (Line.written unit)) := by
  induction lines generalizing w before with
  | nil => rwa [List.map_nil, List.append_nil]
  | cons l rest ih =>
    obtain ⟨first, others⟩ := List.forall_mem_cons.mp filled
    have next := line_shows first shows.unit shows.lines shows.pending
    rw [List.replicate_zero, List.append_nil] at next
    have later := ih others next
    rwa [List.append_assoc] at later

/-- A function is written behind two blank lines if something stands before it. -/
theorem writeFunction_shows {f : Function} (filled : ∀ l ∈ f.lines, l.text ≠ "")
    (shows : w.Shows unit before) :
    (writeFunction w f).Shows unit (before ++ ["", ""] ++ f.lines.map (Line.written unit)) := by
  have owed : (w.blank 2).pending = 2 := by
    rw [Writer.blank, if_pos shows.started, shows.pending]
    rfl
  have kept : (w.blank 2).unit = unit ∧ (w.blank 2).reversed.reverse = before := by
    rw [Writer.blank, if_pos shows.started]
    exact ⟨shows.unit, shows.lines⟩
  obtain ⟨first, others⟩ := List.forall_mem_cons.mp filled
  have later := foldl_line_shows others (line_shows first kept.1 kept.2 owed)
  rwa [List.append_assoc] at later

/-- The first function is written at once. -/
theorem writeFunction_first_shows {f : Function} (filled : ∀ l ∈ f.lines, l.text ≠ "") :
    (writeFunction { unit } f).Shows unit (f.lines.map (Line.written unit)) := by
  obtain ⟨first, others⟩ := List.forall_mem_cons.mp filled
  exact foldl_line_shows others (@line_shows { unit } unit [] _ 0 first rfl rfl rfl)

/-! ### Texts -/

/-- A blank line, two of which stand between functions. -/
def blankLine : Line := { level := 0, text := "" }

/-- The lines of a function in front of others. -/
theorem lines_cons_cons (f g : Function) (rest : List Function) :
    lines ⟨f :: g :: rest⟩ = f.lines ++ ([blankLine, blankLine] ++ lines ⟨g :: rest⟩) := by
  simp [lines, List.intercalate_cons_cons, blankLine]

/-- The lines of a program that are not blank are those of its functions. -/
theorem forall_mem_lines_iff {p : Program} {holds : Line → Prop} (blank : holds blankLine) :
    (∀ l ∈ p.lines, holds l) ↔ ∀ l ∈ p.functions.flatMap Function.lines, holds l := by
  obtain ⟨functions⟩ := p
  induction functions with
  | nil => exact Iff.rfl
  | cons f others ih =>
    cases others with
    | nil => simp [lines]
    | cons g rest =>
      have blanks : ∀ l ∈ [blankLine, blankLine], holds l := by simp [blank]
      rw [lines_cons_cons, List.forall_mem_append, List.forall_mem_append, ih,
        and_iff_right blanks, ← List.forall_mem_append]
      rfl

/-- The lines of a function and of others behind it, with two blank lines between them. -/
def textLines (unit : String) (f : Function) (others : List Function) : List String :=
  f.lines.map (Line.written unit)
    ++ others.flatMap fun g => ["", ""] ++ g.lines.map (Line.written unit)

/-- Functions are written one after the other. -/
theorem foldl_writeFunction_shows {functions : List Function}
    (filled : ∀ f ∈ functions, ∀ l ∈ f.lines, l.text ≠ "") (shows : w.Shows unit before) :
    (functions.foldl writeFunction w).Shows unit
      (before ++ functions.flatMap fun g => ["", ""] ++ g.lines.map (Line.written unit)) := by
  induction functions generalizing w before with
  | nil => rwa [List.flatMap_nil, List.append_nil]
  | cons f rest ih =>
    obtain ⟨first, others⟩ := List.forall_mem_cons.mp filled
    have later := ih others (writeFunction_shows first shows)
    rwa [List.append_assoc, List.append_assoc, ← List.append_assoc ["", ""]] at later

/-- The text of functions consists of their lines, without the white space at the end. -/
theorem body_eq {f : Function} {others : List Function}
    (filled : ∀ g ∈ f :: others, ∀ l ∈ g.lines, l.text ≠ "") :
    body unit (f :: others)
      = String.ofList (Text.trimEnd (String.intercalate "\n" (textLines unit f others)).toList)
        ++ "\n" := by
  obtain ⟨first, rest⟩ := List.forall_mem_cons.mp filled
  have shows := foldl_writeFunction_shows rest (@writeFunction_first_shows unit f first)
  rw [body, List.foldl_cons, Writer.render, shows.lines, textLines]

/-- A text that does not end in a blank is trimmed already. -/
theorem trimEnd_of_solid {front : List Char} {last : Char} (solid : Text.isBlank last = false) :
    Text.trimEnd (front ++ [last]) = front ++ [last] := by
  rw [Text.trimEnd, List.reverse_append, List.reverse_singleton, List.singleton_append,
    List.dropWhile_cons_of_neg (by simp [solid])]
  simp

/-- Lines that end in a line which does not end in a blank. -/
theorem trimEnd_intercalate {front : List String} {line : String} {before : List Char} {last : Char}
    (ends : line.toList = before ++ [last]) (solid : Text.isBlank last = false) :
    Text.trimEnd (String.intercalate "\n" (front ++ [line])).toList
      = (String.intercalate "\n" (front ++ [line])).toList := by
  by_cases alone : front = []
  · rw [alone, List.nil_append, String.intercalate_singleton, ends, trimEnd_of_solid solid]
  · rw [String.intercalate_append_of_ne_nil alone (by simp), String.intercalate_singleton,
      String.toList_append, ends, ← List.append_assoc, trimEnd_of_solid solid]

end Program

/-! ### Lines of a text -/

/-- The lines of a text. -/
def linesOf (text : String) : List String := (text.toList.splitOn '\n').map String.ofList

/-- Lines without line ends are the lines of the text that they make up. -/
theorem linesOf_intercalate {lines : List String} (filled : lines ≠ [])
    (plain : ∀ l ∈ lines, '\n' ∉ l.toList) : linesOf (String.intercalate "\n" lines) = lines := by
  have sep : "\n".toList = ['\n'] := rfl
  rw [linesOf, String.toList_intercalate, sep,
    List.splitOn_intercalate '\n' (by simpa using plain) (by simpa using filled), List.map_map]
  simp [Function.comp_def]

end KeyTree.Source
