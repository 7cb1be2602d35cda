/-
# Calls of helpers

The functions that statements call, in the order of the text. A call is written in a line of its
own, and no other line reads like one to a helper, so that calls are counted in the text.

* `Statement.calls`, `Function.calls` — the functions that are called.
* `callText` — the line of a call; `countP_flatMap_lines` — how often it is written.
-/

import KeyTree.Proofs.Source.Names
import KeyTree.Proofs.Source.Reading
import KeyTree.Proofs.Text.Quoted

namespace KeyTree.Source

namespace Statement

mutual

/-- The functions that a statement calls, in the order of the text. -/
def calls : Statement → List String
  | .measure => []
  | .read _ => []
  | .answer _ _ => []
  | .call function => [function]
  | .choose arms => armCalls arms
  | .either _ yes no => blockCalls yes ++ blockCalls no

/-- The functions that a block calls. -/
def blockCalls : List Statement → List String
  | [] => []
  | s :: rest => calls s ++ blockCalls rest

/-- The functions that the arms of a choice call. -/
def armCalls : List (Condition × List Statement) → List String
  | [] => []
  | (_, block) :: rest => blockCalls block ++ armCalls rest

end

end Statement

/-- The functions that a function calls, in the order of the text. -/
def Function.calls (f : Function) : List String := Statement.blockCalls f.body

/-- The calls of two blocks. -/
theorem blockCalls_append (first second : List Statement) :
    Statement.blockCalls (first ++ second)
      = Statement.blockCalls first ++ Statement.blockCalls second := by
  induction first with
  | nil => rfl
  | cons s rest ih =>
    rw [List.cons_append, Statement.blockCalls, ih, Statement.blockCalls, List.append_assoc]

/-! ### Calls in the text -/

/-- A call as it is written. -/
def callText (function : String) : String := "return " ++ function ++ "(key)"

/-- Calls of different functions are written differently. -/
theorem callText_inj {f g : String} : callText f = callText g ↔ f = g := by
  constructor
  · intro same
    have chars := congrArg String.toList same
    simp only [callText, String.toList_append] at chars
    exact String.toList_inj.mp (List.append_cancel_left (List.append_cancel_right chars))
  · rintro rfl
    rfl

/-- A text that starts otherwise is no call. -/
theorem ne_callText {text : String} {c : Char} {rest : List Char} (chars : text.toList = c :: rest)
    (other : c ≠ 'r') (f : String) : text ≠ callText f := by
  rintro rfl
  rw [callText, String.append_assoc, String.toList_append] at chars
  exact other (List.cons.inj chars).1.symm

/-- The name of a helper starts with an underscore, so that a call of it is no answer. -/
theorem answer_ne_callText (found : Bool) (rest name : String) (number : Nat) :
    "return " ++ boolText found ++ rest ≠ callText (helperName name number) := by
  intro same
  have chars := congrArg String.toList same
  simp only [callText, String.toList_append, List.append_assoc] at chars
  have chars := List.append_cancel_left chars
  rw [toList_helperName] at chars
  cases found with
  | true => exact absurd (List.cons.inj chars).1 (by decide)
  | false => exact absurd (List.cons.inj chars).1 (by decide)

/-- A test is no call. -/
theorem arm_ne_callText {header : Header} (arm : header ≠ .function) (level : Nat)
    (condition : Condition) (f : String) : (header.line level condition).text ≠ callText f := by
  rw [Header.line, String.append_assoc, String.append_assoc]
  cases header with
  | function => exact absurd rfl arm
  | first => exact @ne_callText _ 'i' _ (String.toList_append ..) (by decide) f
  | further => exact @ne_callText _ 'e' _ (String.toList_append ..) (by decide) f
  | otherwise => exact @ne_callText _ 'e' _ (String.toList_append ..) (by decide) f

/-- What is left is no call. -/
theorem otherwise_ne_callText (level : Nat) (f : String) :
    (otherwiseLine level).text ≠ callText f :=
  @ne_callText _ 'e' _ (String.toList_append ..) (by decide) f

namespace Statement

variable (name : String) (number : Nat)

mutual

/-- A call of a helper is written as often as a statement makes it. -/
theorem countP_lines (level : Nat) : ∀ s : Statement,
    (lines level s).countP (·.text = callText (helperName name number))
      = s.calls.count (helperName name number)
  | .measure => by
    have other : "n = len(key)" ≠ callText (helperName name number) :=
      @ne_callText _ 'n' _ rfl (by decide) _
    simp [lines, calls, other]
  | .read position => by
    have other : "ch = key[" ++ toString position ++ "]" ≠ callText (helperName name number) := by
      rw [String.append_assoc]
      exact @ne_callText _ 'c' _ (String.toList_append ..) (by decide) _
    simp only [lines, calls, List.countP_singleton, other, decide_false, List.count_nil]
    rfl
  | .answer found value => by
    have other : "return " ++ boolText found ++ ", " ++ value.literalText
        ≠ callText (helperName name number) := by
      rw [String.append_assoc]
      exact answer_ne_callText found _ name number
    simp [lines, calls, other]
  | .call function => by
    have same : ("return " ++ function ++ "(key)" = callText (helperName name number))
        = (function = helperName name number) := propext callText_inj
    simp [lines, calls, same, List.count_singleton]
  | .choose arms => countP_armLines level .first (by decide) arms
  | .either condition yes no => by
    have first := @arm_ne_callText .first (by decide) level condition (helperName name number)
    have otherwise := otherwise_ne_callText level (helperName name number)
    rw [lines, List.countP_cons_of_neg (by simpa using first), List.countP_append,
      List.countP_cons_of_neg (by simpa using otherwise), countP_blockLines (level + 1) yes,
      countP_blockLines (level + 1) no, calls, List.count_append]

/-- A call of a helper is written as often as a block makes it. -/
theorem countP_blockLines (level : Nat) : ∀ block : List Statement,
    (blockLines level block).countP (·.text = callText (helperName name number))
      = (blockCalls block).count (helperName name number)
  | [] => rfl
  | s :: rest => by
    rw [blockLines, List.countP_append, countP_lines level s, countP_blockLines level rest,
      blockCalls, List.count_append]

/-- A call of a helper is written as often as the arms of a choice make it. -/
theorem countP_armLines (level : Nat) (header : Header) (arm : header ≠ .function) :
    ∀ arms : List (Condition × List Statement),
      (armLines level header arms).countP (·.text = callText (helperName name number))
        = (armCalls arms).count (helperName name number)
  | [] => rfl
  | (condition, block) :: rest => by
    have other := arm_ne_callText arm level condition (helperName name number)
    rw [armLines, List.countP_cons_of_neg (by simpa using other), List.countP_append,
      countP_blockLines (level + 1) block, countP_armLines level .further (by decide) rest,
      armCalls, List.count_append]

end

end Statement

/-- The text that documents a function is no call. -/
theorem doc_ne_callText {doc : Option String} {l : Line} (member : l ∈ docLines doc) (f : String) :
    l.text ≠ callText f := by
  cases doc with
  | none => simp [docLines] at member
  | some doc =>
    rw [docLines] at member
    split at member
    · simp at member
    · obtain rfl := List.mem_singleton.mp member
      refine ne_callText String.toList_ofList ?_ f
      rcases Text.quoteMark_eq doc.toList with mark | mark <;> simp [mark]

/-- A call of a helper is written as often as a function makes it. -/
theorem Function.countP_lines (f : Function) (name : String) (number : Nat) :
    f.lines.countP (·.text = callText (helperName name number))
      = f.calls.count (helperName name number) := by
  have header : f.headerLine.text ≠ callText (helperName name number) := by
    rw [Function.headerLine, String.append_assoc, String.append_assoc]
    exact @ne_callText _ 'd' _ (String.toList_append ..) (by decide) _
  have docs : (docLines f.doc).countP (·.text = callText (helperName name number)) = 0 := by
    refine List.countP_eq_zero.mpr fun l member => ?_
    simpa using doc_ne_callText member (helperName name number)
  rw [Function.lines, List.countP_cons_of_neg (by simpa using header), List.countP_append, docs,
    Nat.zero_add, Statement.countP_blockLines, Function.calls]

/-- A call of a helper is written as often as functions make it. -/
theorem countP_flatMap_lines (functions : List Function) (name : String) (number : Nat) :
    (functions.flatMap Function.lines).countP (·.text = callText (helperName name number))
      = (functions.flatMap Function.calls).count (helperName name number) := by
  induction functions with
  | nil => rfl
  | cons f rest ih =>
    rw [List.flatMap_cons, List.countP_append, f.countP_lines, ih, List.flatMap_cons,
      List.count_append]

end KeyTree.Source
