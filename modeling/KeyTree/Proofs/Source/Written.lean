/-
# The text of a module

A module is written line by line: the lines above the functions, the lines of the functions with
two blank lines between each two, and a line end behind every line. A line of a function stands
behind its level of units of indentation. Where no line holds a line end, the lines of the text are
these lines.

* `Function.text_ne_empty` — no line of a function is empty.
* `EndsInMiss` — the last line of a function.
* `Program.writtenLines` — the lines of a module.
* `Program.text_eq`, `Program.linesOf_text` — the text of a module, and its lines.
-/

import KeyTree.Proofs.Source.Layout
import KeyTree.Proofs.Source.Recovery

namespace KeyTree.Source

/-! ### Lines that are not empty -/

/-- A text behind one that is not empty is not empty. -/
theorem append_ne_empty {front : String} (filled : front ≠ "") (rest : String) :
    front ++ rest ≠ "" := by
  intro empty
  have chars := congrArg String.toList empty
  rw [String.toList_append, String.toList_empty, List.append_eq_nil_iff] at chars
  exact filled (String.toList_inj.mp (chars.1.trans String.toList_empty.symm))

/-- The header of an arm is not empty. -/
theorem arm_ne_empty (header : Header) (level : Nat) (condition : Condition) :
    (header.line level condition).text ≠ "" := by
  have word : header.word ≠ "" := by cases header <;> decide
  exact append_ne_empty (append_ne_empty (append_ne_empty word _) _) _

namespace Statement

mutual

/-- No line of a statement is empty. -/
theorem text_ne_empty (level : Nat) : ∀ s : Statement, ∀ l ∈ lines level s, l.text ≠ ""
  | .measure => by simp [lines]
  | .read position => by
    rw [lines, List.forall_mem_singleton]
    exact append_ne_empty (append_ne_empty (by decide) _) _
  | .answer found value => by
    rw [lines, List.forall_mem_singleton]
    exact append_ne_empty (append_ne_empty (append_ne_empty (by decide) _) _) _
  | .call function => by
    rw [lines, List.forall_mem_singleton]
    exact append_ne_empty (append_ne_empty (by decide) _) _
  | .choose arms => by
    rw [lines]
    exact armText_ne_empty level .first arms
  | .either condition yes no => by
    rw [lines, List.forall_mem_cons, List.forall_mem_append, List.forall_mem_cons]
    exact ⟨arm_ne_empty .first level condition, blockText_ne_empty (level + 1) yes,
      append_ne_empty (by decide) _, blockText_ne_empty (level + 1) no⟩

/-- No line of a block is empty. -/
theorem blockText_ne_empty (level : Nat) :
    ∀ block : List Statement, ∀ l ∈ blockLines level block, l.text ≠ ""
  | [] => by simp [blockLines]
  | s :: rest => by
    rw [blockLines, List.forall_mem_append]
    exact ⟨text_ne_empty level s, blockText_ne_empty level rest⟩

/-- No line of the arms of a choice is empty. -/
theorem armText_ne_empty (level : Nat) (header : Header) :
    ∀ arms : List (Condition × List Statement), ∀ l ∈ armLines level header arms, l.text ≠ ""
  | [] => by simp [armLines]
  | (condition, block) :: rest => by
    rw [armLines, List.forall_mem_cons, List.forall_mem_append]
    exact ⟨arm_ne_empty header level condition, blockText_ne_empty (level + 1) block,
      armText_ne_empty level .further rest⟩

end

end Statement

/-- A quoted text is not empty. -/
theorem quote_ne_empty (s : String) : Text.quote s ≠ "" := by
  intro empty
  have chars := congrArg String.toList empty
  rw [Text.quote, String.toList_ofList] at chars
  cases chars

/-- No line of a function is empty. -/
theorem Function.text_ne_empty (f : Function) : ∀ l ∈ f.lines, l.text ≠ "" := by
  rw [Function.lines, List.forall_mem_cons, List.forall_mem_append]
  refine ⟨?_, fun l member => ?_, Statement.blockText_ne_empty 1 f.body⟩
  · exact append_ne_empty (append_ne_empty (append_ne_empty (by decide) _) _) _
  · cases doc : f.doc with
    | none => simp [docLines, doc] at member
    | some doc' =>
      rw [doc, docLines] at member
      split at member
      · cases member
      · obtain rfl := List.mem_singleton.mp member
        exact quote_ne_empty doc'

/-! ### The last line -/

/-- The answer on a miss at the end of a function. -/
def missLine (default : Value) : Line where
  level := 1
  text := "return " ++ boolText false ++ ", " ++ default.literalText
  reading := valueReading default

/-- `EndsInMiss default f`: the function ends with the answer on a miss. -/
def EndsInMiss (default : Value) (f : Function) : Prop :=
  ∃ front, f.lines = front ++ [missLine default]

/-- A block with the answer on a miss behind it. -/
theorem endsInMiss_of_body {default : Value} {f : Function} {block : List Statement}
    (body : f.body = block ++ [missStatement default]) : EndsInMiss default f := by
  refine ⟨f.headerLine :: (docLines f.doc ++ Statement.blockLines 1 block), ?_⟩
  rw [Function.lines, body, blockLines_append, List.cons_append, List.append_assoc]
  rfl

/-- The helpers of a queue end with the answer on a miss. -/
theorem endsInMiss_helpersFrom (name : String) (default : Value) (done : Nat) (queue : List Tree) :
    ∀ f ∈ helpersFrom name default done queue, EndsInMiss default f := by
  fun_induction helpersFrom name default done queue with
  | case1 => exact fun f member => absurd member List.not_mem_nil
  | case2 done t rest block ih => exact List.forall_mem_cons.mpr ⟨endsInMiss_of_body rfl, ih⟩

/-- The functions of a lookup end with the answer on a miss. -/
theorem endsInMiss_functionsOf (name : String) (doc : Option String) (root : Tree)
    (default : Value) : ∀ f ∈ functionsOf name doc root default, EndsInMiss default f :=
  List.forall_mem_cons.mpr
    ⟨@endsInMiss_of_body _ _ (_ :: _) rfl, endsInMiss_helpersFrom name default 0 _⟩

namespace Program

variable {unit : String} {default : Value} {f : Function} {others : List Function}

/-- The lines of functions that end with the answer on a miss end so as well. -/
theorem textLines_eq_append (ends : ∀ g ∈ f :: others, EndsInMiss default g) :
    ∃ front, textLines unit f others = front ++ [(missLine default).written unit] := by
  rcases List.eq_nil_or_concat others with rfl | ⟨before, last, rfl⟩
  · obtain ⟨front, lines⟩ := ends f List.mem_cons_self
    exact ⟨front.map (Line.written unit), by simp [textLines, lines]⟩
  · obtain ⟨front, lines⟩ := ends last (by simp)
    refine ⟨textLines unit f before ++ ["", ""] ++ front.map (Line.written unit), ?_⟩
    simp [textLines, lines]

/-! ### Modules -/

/-- The lines of a module, each of a function behind its indentation. -/
def writtenLines (unit : String) (p : Program) : List String :=
  header p.imports ++ p.lines.map (Line.written unit)

/-- The lines of functions as they stand in the text. -/
theorem map_written_lines (unit : String) (f : Function) (others : List Function) :
    (lines ⟨f :: others⟩).map (Line.written unit) = textLines unit f others := by
  have blank : blankLine.written unit = "" := rfl
  induction others generalizing f with
  | nil => simp [lines, textLines]
  | cons g rest ih =>
    rw [lines_cons_cons, List.map_append, List.map_append, ih, textLines, textLines,
      List.flatMap_cons, List.map_cons, List.map_cons, List.map_nil, blank, List.append_assoc]

/-- The text of a module has its lines one after the other, each with a line end, when its functions
end with an answer on a miss that ends in no blank. -/
theorem text_eq (unit : String) (ends : ∀ g ∈ f :: others, EndsInMiss default g)
    (solid : ∃ front last, default.literalText.toList = front ++ [last] ∧
      Text.isBlank last = false) :
    text unit ⟨f :: others⟩
      = String.intercalate "\n" (writtenLines unit ⟨f :: others⟩ ++ [""]) := by
  obtain ⟨front, lines⟩ := @textLines_eq_append unit _ _ _ ends
  obtain ⟨before, last, literal, solid⟩ := solid
  have stop : ((missLine default).written unit).toList
      = ((String.join (List.replicate 1 unit)).toList ++ ("return " ++ boolText false ++ ", ").toList
        ++ before) ++ [last] := by
    rw [Line.written, missLine, String.toList_append, String.toList_append, literal]
    simp only [List.append_assoc]
  have functions : body unit (f :: others)
      = String.intercalate "\n" (textLines unit f others ++ [""]) := by
    have filled : textLines unit f others ≠ [] := by simp [lines]
    rw [Program.body_eq fun g _ => g.text_ne_empty,
      String.intercalate_append_of_ne_nil filled (by simp), String.intercalate_singleton,
      String.append_empty, lines, trimEnd_intercalate stop solid, String.ofList_toList]
  rw [text, functions, writtenLines, map_written_lines, List.append_assoc]
  exact (String.intercalate_append_of_ne_nil (by simp [header]) (by simp)).symm

/-- A line holds no line end when its text and the unit of indentation hold none. -/
theorem oneLine_written {unit : String} {l : Line} (indents : OneLine unit)
    (single : OneLine l.text) : OneLine (l.written unit) := by
  rw [Line.written, oneLine_append]
  refine ⟨fun feed => ?_, single⟩
  rw [String.toList_join] at feed
  obtain ⟨chars, inside, member⟩ := List.mem_flatMap.mp feed
  exact indents (List.eq_of_mem_replicate inside ▸ member)

/-- The lines above the functions hold no line ends when the names of the modules do not. -/
theorem oneLine_header {imports : List String} (single : ∀ m ∈ imports, OneLine m) :
    ∀ line ∈ header imports, OneLine line := by
  have words : OneLine headerLine ∧ OneLine "import " ∧ OneLine "" := by decide
  intro line member
  simp only [header, List.mem_append, List.mem_cons, List.not_mem_nil, or_false] at member
  rcases member with ((rfl | rfl) | above) | rfl
  · exact words.1
  · exact words.2.2
  · split at above
    · cases above
    · simp only [List.mem_append, List.mem_map, List.mem_cons, List.not_mem_nil,
        or_false] at above
      rcases above with ⟨m, inside, rfl⟩ | rfl
      · exact oneLine_append.mpr ⟨words.2.1, single m inside⟩
      · exact words.2.2
  · exact words.2.2

/-- The lines of the text of a module are its lines, when none of them holds a line end. -/
theorem linesOf_text (indents : OneLine unit) (ends : ∀ g ∈ f :: others, EndsInMiss default g)
    (solid : ∃ front last, default.literalText.toList = front ++ [last] ∧
      Text.isBlank last = false)
    (imports : ∀ m ∈ imports ⟨f :: others⟩, OneLine m)
    (single : ∀ l ∈ lines ⟨f :: others⟩, OneLine l.text) :
    linesOf (text unit ⟨f :: others⟩) = writtenLines unit ⟨f :: others⟩ ++ [""] := by
  rw [text_eq unit ends solid, linesOf_intercalate (by simp)]
  intro line member
  rcases List.mem_append.mp member with member | last
  · rcases List.mem_append.mp member with above | member
    · exact oneLine_header imports line above
    · obtain ⟨l, inside, rfl⟩ := List.mem_map.mp member
      exact oneLine_written indents (single l inside)
  · rw [List.mem_singleton.mp last]
    decide

end Program

end KeyTree.Source
