/-
# Leaves read off generated code

What a reader finds who goes through the lines of generated functions and takes down what stands
behind one of three openings: the tests of keys give the keys of the leaves, the answers of a hit
their values, and the answers of a miss the value that is reported on one. The frame between them
opens in other ways, whatever names and numbers stand in it.

* `remainder?`, `remainders` — what stands behind an opening, in a line and in several.
* `openings_apart`, `Frame.opens` — how lines open.
* `Reads.remainders_key`, `Reads.remainders_hit`, `Reads.of_mem_remainders_miss` — what is found.
* `Reads.oneLine` — no line holds a line end.
-/

import KeyTree.Proofs.Source.Reading
import KeyTree.Proofs.Value.Literal
import KeyTree.Text.Identifier
import Mathlib.Data.List.Infix

namespace KeyTree.Source

/-! ### Openings -/

/-- What stands behind the opening of a line, which may be indented. -/
def remainder? (opening : List Char) (line : List Char) : Option (List Char) :=
  let text := line.dropWhile (· = ' ')
  if opening.isPrefixOf text then some (text.drop opening.length) else none

/-- What stands behind the openings of lines that open so. -/
def remainders (opening : List Char) (lines : List String) : List (List Char) :=
  lines.filterMap fun l => remainder? opening l.toList

/-- What is found in two parts of lines. -/
theorem remainders_append (opening : List Char) (first second : List String) :
    remainders opening (first ++ second)
      = remainders opening first ++ remainders opening second :=
  List.filterMap_append

/-- The indentation of a line does not matter. -/
theorem remainder?_indented {opening margin : List Char} (blank : ∀ c ∈ margin, c = ' ')
    (line : List Char) : remainder? opening (margin ++ line) = remainder? opening line := by
  rw [remainder?, List.dropWhile_append_of_pos (by simpa using blank), remainder?]

/-- `Solid front`: a line that opens so is not indented. -/
def Solid (front : List Char) : Prop := ∃ c rest, front = c :: rest ∧ c ≠ ' '

instance (front : List Char) : Decidable (Solid front) :=
  match front with
  | [] => isFalse nofun
  | c :: rest =>
    if blank : c = ' ' then
      isFalse fun ⟨_, _, same, solid⟩ => solid ((List.cons.inj same).1 ▸ blank)
    else isTrue ⟨c, rest, rfl, blank⟩

/-- A line that opens without indentation has none to take away. -/
theorem Solid.dropWhile_append {front : List Char} (solid : Solid front) (rest : List Char) :
    (front ++ rest).dropWhile (· = ' ') = front ++ rest := by
  obtain ⟨c, others, rfl, other⟩ := solid
  rw [List.cons_append, List.dropWhile_cons_of_neg (by simpa using other)]

/-- A line that opens so. -/
theorem remainder?_append {opening : List Char} (solid : Solid opening) (rest : List Char) :
    remainder? opening (opening ++ rest) = some rest := by
  rw [remainder?, solid.dropWhile_append,
    if_pos (List.isPrefixOf_iff_prefix.mpr (List.prefix_append opening rest)),
    List.drop_left]

/-- A line that opens otherwise. -/
theorem remainder?_eq_none {opening other line : List Char} (solid : Solid other)
    (opens : other <+: line) (apart : ¬ opening <+: other) (apart' : ¬ other <+: opening) :
    remainder? opening line = none := by
  obtain ⟨rest, rfl⟩ := opens
  rw [remainder?, solid.dropWhile_append, if_neg]
  intro opens
  rcases List.prefix_or_prefix_of_prefix (List.isPrefixOf_iff_prefix.mp opens)
    (List.prefix_append other rest) with before | behind
  · exact apart before
  · exact apart' behind

/-- The opening of a test of a key. -/
def keyOpening : List Char := "if key == ".toList

/-- The opening of the answer on a hit. -/
def hitOpening : List Char := "return True, ".toList

/-- The opening of the answer on a miss. -/
def missOpening : List Char := "return False, ".toList

/-- The openings that are looked for. -/
def openings : List (List Char) := [keyOpening, hitOpening, missOpening]

/-- The openings of lines that hold nothing looked for. -/
def frameOpenings : List (List Char) :=
  ["def ", "n = ", "ch = key[", "return _", "if not ", "if n < ", "if n == ", "if ch < ",
    "if ch == ", "elif ", "else"].map String.toList

/-- All openings start in different ways. -/
theorem openings_apart :
    (∀ opening ∈ openings ++ frameOpenings, Solid opening) ∧
    ∀ opening ∈ openings, ∀ other ∈ openings ++ frameOpenings,
      opening ≠ other → ¬ opening <+: other ∧ ¬ other <+: opening := by
  decide

/-- What is found behind an opening of a line that opens in one of the ways. -/
theorem remainder?_of_opens {opening other : List Char} (known : opening ∈ openings)
    (known' : other ∈ openings ++ frameOpenings) (rest : List Char) :
    remainder? opening (other ++ rest) = if opening = other then some rest else none := by
  have solid := openings_apart.1 other known'
  split
  · rename_i same
    rw [same, remainder?_append solid]
  · rename_i different
    obtain ⟨apart, apart'⟩ := openings_apart.2 opening known other known' different
    exact remainder?_eq_none solid (List.prefix_append other rest) apart apart'

/-! ### The frame -/

variable {name : String} {default : Value}

/-- A text that starts with an opening opens so. -/
theorem opens_append {front : String} (known : front.toList ∈ frameOpenings) (rest : String) :
    ∃ opening ∈ frameOpenings, opening <+: (front ++ rest).toList :=
  ⟨front.toList, known, by rw [String.toList_append]; exact List.prefix_append _ _⟩

/-- The header of an arm that tests no key opens otherwise than one that tests a key. -/
theorem opens_test (header : Header) {condition : Condition} (other : ∀ t, condition ≠ .keyIs t) :
    ∃ opening ∈ frameOpenings,
      opening <+: (header.word ++ " " ++ condition.text ++ ":").toList := by
  rw [String.append_assoc]
  cases header with
  | function => exact @opens_append "def " (by decide) _
  | further => exact @opens_append "elif " (by decide) _
  | otherwise =>
    rw [String.append_assoc]
    exact @opens_append "else" (by decide) _
  | first =>
    have opens {front : String} (rest : String)
        (known : ("if " ++ front).toList ∈ frameOpenings) :
        ∃ opening ∈ frameOpenings, opening <+: ("if " ++ (front ++ rest ++ ":")).toList := by
      rw [String.append_assoc, ← String.append_assoc]
      exact opens_append known _
    cases condition with
    | keyIs t => exact absurd rfl (other t)
    | keyIsNoText => exact @opens "not " "isinstance(key, str)" (by decide)
    | lengthBelow bound => exact @opens "n < " _ (by decide)
    | lengthIs length => exact @opens "n == " _ (by decide)
    | characterBelow bound => exact @opens "ch < " _ (by decide)
    | characterIs label => exact @opens "ch == " _ (by decide)

/-- A line of the frame opens otherwise than a leaf, unless it is the answer on a miss. -/
theorem Frame.opens {text : String} {reading : Reading}
    (frame : Frame name default text reading) :
    (∃ opening ∈ frameOpenings, opening <+: text.toList) ∨
      text.toList = missOpening ++ default.literalText.toList := by
  cases frame with
  | miss =>
    rw [String.toList_append]
    exact .inr rfl
  | test header other => exact .inl (opens_test header other)
  | main =>
    rw [String.append_assoc]
    exact .inl (@opens_append "def " (by decide) _)
  | helper number =>
    rw [String.append_assoc]
    exact .inl (@opens_append "def " (by decide) _)
  | measure => exact .inl (@opens_append "n = " (by decide) "len(key)")
  | read position =>
    rw [String.append_assoc]
    exact .inl (@opens_append "ch = key[" (by decide) _)
  | call number =>
    simp only [helperName, String.append_assoc]
    rw [← String.append_assoc]
    exact .inl (@opens_append ("return " ++ "_") (by decide) _)
  | otherwise => exact .inl (@opens_append "else" (by decide) ":")

/-- The frame holds nothing that is looked for but the value reported on a miss. -/
theorem Frame.of_remainder? {text : String} {reading : Reading}
    (frame : Frame name default text reading) {opening rest : List Char} (known : opening ∈ openings)
    (found : remainder? opening text.toList = some rest) :
    opening = missOpening ∧ rest = default.literalText.toList := by
  rcases frame.opens with ⟨front, known', behind, whole⟩ | whole
  · have other : opening ≠ front := by
      rintro rfl
      have disjoint : ∀ opening ∈ openings, opening ∉ frameOpenings := by decide
      exact disjoint opening known known'
    rw [← whole, remainder?_of_opens known (List.mem_append_right _ known'), if_neg other] at found
    cases found
  · rw [whole, remainder?_of_opens known (by decide)] at found
    split at found
    · rename_i same
      exact ⟨same, (Option.some.inj found).symm⟩
    · cases found

/-! ### Leaves -/

/-- The characters of a test of a key. -/
theorem toList_testLine (e : Entry) (level : Nat) :
    (testLine e level).text.toList = keyOpening ++ (e.text.display.toList ++ [':']) := by
  change ("if " ++ ("key == " ++ e.text.display) ++ ":").toList = _
  simp only [String.toList_append, List.append_assoc]
  rfl

/-- The characters of an answer on a hit. -/
theorem toList_hitLine (e : Entry) (level : Nat) :
    (hitLine e level).text.toList = hitOpening ++ e.value.literalText.toList := by
  rw [hitLine, String.toList_append]
  rfl

/-- What is found in the two lines of a leaf. -/
theorem remainders_leafLines {opening : List Char} (known : opening ∈ openings) (e : Entry)
    (level : Nat) :
    remainders opening [(testLine e level).text, (hitLine e (level + 1)).text]
      = if opening = keyOpening then [e.text.display.toList ++ [':']]
        else if opening = hitOpening then [e.value.literalText.toList] else [] := by
  rw [remainders, List.filterMap_cons, List.filterMap_cons, toList_testLine, toList_hitLine,
    remainder?_of_opens known (by decide), remainder?_of_opens known (by decide)]
  by_cases key : opening = keyOpening
  · rw [if_pos key, if_pos key, if_neg (by rw [key]; decide)]
    rfl
  · rw [if_neg key, if_neg key]
    by_cases hit : opening = hitOpening
    · rw [if_pos hit, if_pos hit]
      rfl
    · rw [if_neg hit, if_neg hit]
      rfl

namespace Reads

variable {lines : List Line} {entries : List Entry}

/-- An opening that is not that of an answer on a miss is found in leaves only. -/
theorem remainders_eq_flatMap {opening : List Char} (known : opening ∈ openings)
    (other : opening ≠ missOpening) (reads : Reads name default lines entries) :
    remainders opening (lines.map Line.text) = entries.flatMap fun e =>
      remainders opening [(testLine e 0).text, (hitLine e 1).text] := by
  induction reads with
  | nil => rfl
  | frame frame _ ih =>
    rw [List.map_cons, remainders, List.filterMap_cons_none, ← remainders, ih]
    refine Option.eq_none_iff_forall_ne_some.mpr fun rest found => ?_
    exact other (frame.of_remainder? known found).1
  | leaf e level _ ih =>
    rw [List.flatMap_cons, ← ih]
    exact remainders_append opening [_, _] _

/-- The tests of keys give the keys of the leaves. -/
theorem remainders_key (reads : Reads name default lines entries) :
    remainders keyOpening (lines.map Line.text)
      = entries.map fun e => e.text.display.toList ++ [':'] := by
  rw [reads.remainders_eq_flatMap (by decide) (by decide)]
  simp only [remainders_leafLines (by decide : keyOpening ∈ openings), if_pos]
  exact List.map_eq_flatMap.symm

/-- The answers on a hit give the values of the leaves. -/
theorem remainders_hit (reads : Reads name default lines entries) :
    remainders hitOpening (lines.map Line.text)
      = entries.map fun e => e.value.literalText.toList := by
  have other : hitOpening ≠ keyOpening := by decide
  rw [reads.remainders_eq_flatMap (by decide) (by decide)]
  simp only [remainders_leafLines (by decide : hitOpening ∈ openings), if_neg other, if_pos]
  exact List.map_eq_flatMap.symm

/-- The answers on a miss give the value that is reported on one. -/
theorem of_mem_remainders_miss (reads : Reads name default lines entries) {rest : List Char}
    (member : rest ∈ remainders missOpening (lines.map Line.text)) :
    rest = default.literalText.toList := by
  have known : missOpening ∈ openings := by decide
  induction reads with
  | nil => exact absurd member List.not_mem_nil
  | frame frame _ ih =>
    obtain ⟨text, inside, found⟩ := List.mem_filterMap.mp member
    rcases List.mem_cons.mp inside with rfl | inside
    · exact (frame.of_remainder? known found).2
    · exact ih (List.mem_filterMap.mpr ⟨text, inside, found⟩)
  | leaf e level _ ih =>
    change rest ∈ remainders _ ([_, _] ++ _) at member
    rw [remainders_append, remainders_leafLines known] at member
    exact ih member

end Reads

/-! ### Lines of text -/

/-- A text without line ends. -/
def OneLine (s : String) : Prop := '\n' ∉ s.toList

instance (s : String) : Decidable (OneLine s) := inferInstanceAs (Decidable (¬ _))

/-- Two texts have no line ends when neither has one. -/
@[simp]
theorem oneLine_append {s t : String} : OneLine (s ++ t) ↔ OneLine s ∧ OneLine t := by
  rw [OneLine, String.toList_append, List.mem_append, not_or, ← OneLine, ← OneLine]

/-- A text of characters that have printed forms has no line ends. -/
theorem oneLine_of_isPrintable {s : String} (printed : ∀ c ∈ s.toList, Text.isPrintable c = true) :
    OneLine s :=
  fun member => absurd (printed _ member) (by decide)

/-- A quoted text has no line ends. -/
@[simp]
theorem oneLine_quote (s : String) : OneLine (Text.quote s) := by
  refine oneLine_of_isPrintable fun c member => ?_
  rw [Text.quote, String.toList_ofList] at member
  exact Text.isPrintable_of_mem_quoteChars member

/-- An integer has no line ends. -/
@[simp]
theorem oneLine_int (n : Int) : OneLine n.repr := by
  refine oneLine_of_isPrintable fun c member => ?_
  rw [← Int.toString_eq_repr] at member
  exact (Value.of_sign_or_digit (Value.sign_or_digit_of_mem member)).1

/-- A number has no line ends. -/
theorem oneLine_nat (n : Nat) : OneLine n.repr := oneLine_int n

/-- The name of a function has no line ends. -/
theorem oneLine_of_isFunctionName {n : String} (valid : Text.isFunctionName n = true) :
    OneLine n := by
  have others : Text.isNameStart '\n' = false ∧ Text.isNameRest '\n' = false := by decide
  rw [Text.isFunctionName, Bool.and_eq_true, Text.isIdentifier] at valid
  have identifier := valid.1
  intro member
  cases chars : n.toList with
  | nil =>
    rw [chars] at member
    exact absurd member List.not_mem_nil
  | cons c rest =>
    rw [chars] at identifier member
    simp only [Bool.and_eq_true, List.all_eq_true] at identifier
    rcases List.mem_cons.mp member with rfl | member
    · exact absurd identifier.1 (by simp [others.1])
    · exact absurd (identifier.2 _ member) (by simp [others.2])

/-- A condition that tests no key has no line ends. -/
theorem Condition.oneLine {condition : Condition} (other : ∀ t, condition ≠ .keyIs t) :
    OneLine condition.text := by
  cases condition with
  | keyIs t => exact absurd rfl (other t)
  | keyIsNoText => decide
  | lengthBelow | lengthIs | characterBelow | characterIs =>
    rw [Condition.text, oneLine_append]
    exact ⟨by decide, by simp⟩

/-- The lines of the frame hold no line ends when the name and the value reported on a miss do
not. -/
theorem Frame.oneLine {text : String} {reading : Reading}
    (frame : Frame name default text reading) (named : OneLine name)
    (missed : OneLine default.literalText) : OneLine text := by
  have words : ∀ header : Header, OneLine header.word := by rintro (_ | _ | _ | _) <;> decide
  have around : OneLine "def " ∧ OneLine "(key):" ∧ OneLine "ch = key[" ∧ OneLine "]" ∧
      OneLine "return " ∧ OneLine "(key)" ∧ OneLine " " ∧ OneLine ":" ∧ OneLine "_" ∧
      OneLine ", " ∧ OneLine (boolText false) := by decide
  cases frame with
  | test header other => simp [words, around, Condition.oneLine other]
  | measure => decide
  | main | helper | read | call | otherwise | miss =>
    simp [helperName, words, around, named, missed, oneLine_nat]

/-- The lines of leaves and of the frame around them hold no line ends when the name and the
literals do not. -/
theorem Reads.oneLine {lines : List Line} {entries : List Entry}
    (reads : Reads name default lines entries) (named : OneLine name)
    (missed : OneLine default.literalText)
    (leaves : ∀ e ∈ entries, OneLine e.text.display ∧ OneLine e.value.literalText) {l : Line}
    (member : l ∈ lines) : OneLine l.text := by
  induction reads with
  | nil => exact absurd member List.not_mem_nil
  | frame frame _ ih =>
    rcases List.mem_cons.mp member with rfl | member
    · exact frame.oneLine named missed
    · exact ih leaves member
  | leaf e level _ ih =>
    obtain ⟨⟨key, value⟩, others⟩ := List.forall_mem_cons.mp leaves
    rcases List.mem_cons.mp member with rfl | member
    · change OneLine ("if " ++ ("key == " ++ e.text.display) ++ ":")
      simp only [oneLine_append]
      exact ⟨⟨by decide, by decide, key⟩, by decide⟩
    · rcases List.mem_cons.mp member with rfl | member
      · rw [hitLine, oneLine_append]
        exact ⟨by decide, value⟩
      · exact ih others member

end KeyTree.Source
