/-
# Blocks of statements

The lines of statements nest: a block of statements is put together from answers, calls, choices
among blocks and blocks one after the other, and so are its lines. Where a block follows can be
told from the text alone, by the word that a line starts with.

* `FormsBlock` — statements whose lines nest, with one lemma for each kind of statement.
* `Formed`, `FormedBlock` — the statements of a lookup; `FormedBlock.formsBlock` — their lines nest.
* `wellNested_lines` — a function whose body is a block.
* `Header.ofText?`, `header_eq_ofText?` — the header of a line is told by its text.
-/

import KeyTree.Proofs.Source.Nesting
import KeyTree.Proofs.Source.Reading
import KeyTree.Proofs.Text.Quoted

namespace KeyTree.Source

/-! ### Statements -/

/-- `FormsBlock bound level block`: at a level the lines of the statements nest, and there are some;
none is deeper than the bound. -/
structure FormsBlock (bound level : Nat) (block : List Statement) : Prop where
  filled : Statement.blockLines level block ≠ []
  nests : Nests bound .block level (Statement.blockLines level block)

/-- The further arms of a choice are a tail. -/
theorem Nests.tail_armLines {bound level : Nat} {arms : List (Condition × List Statement)}
    (form : ∀ arm ∈ arms, FormsBlock bound (level + 1) arm.2) (inside : level ≤ bound) :
    Nests bound .tail level (Statement.armLines level .further arms) := by
  induction arms with
  | nil => exact .nil .tail level
  | cons arm rest ih =>
    obtain ⟨first, others⟩ := List.forall_mem_cons.mp form
    exact .further rfl inside rfl first.filled first.nests (ih others)

/-- The further arms of a choice test their conditions one after the other. -/
theorem furtherTests_armLines {bound level : Nat} {arms : List (Condition × List Statement)}
    (form : ∀ arm ∈ arms, FormsBlock bound (level + 1) arm.2) :
    furtherTests level (Statement.armLines level .further arms)
      = (arms.map Prod.fst).map (Header.further.line level) := by
  induction arms with
  | nil => rfl
  | cons arm rest ih =>
    obtain ⟨first, others⟩ := List.forall_mem_cons.mp form
    have here := @furtherTests_cons (Header.further.line level arm.1) rfl
      (Statement.blockLines (level + 1) arm.2 ++ Statement.armLines level .further rest)
    change furtherTests level _ = _ at here
    rw [Statement.armLines, here]
    change _ :: furtherTests level _ = _
    rw [furtherTests_append_of_deeper first.nests.deep, ih others]
    rfl

namespace FormsBlock

variable {bound level : Nat} {block yes no : List Statement}

/-- A statement in one line that is no header. -/
theorem line {s : Statement} {l : Line} (written : Statement.lines level s = [l])
    (stands : l.level = level) (inside : level ≤ bound) (plain : l.header = none) :
    FormsBlock bound level [s] := by
  have lines : Statement.blockLines level [s] = [l] := by
    rw [Statement.blockLines, written, Statement.blockLines, List.append_nil]
  constructor
  · simp [lines]
  · rw [lines]
    exact .line stands inside plain (.nil .block level)

/-- An answer is a block. -/
theorem answer (found : Bool) (value : Value) (inside : level ≤ bound) :
    FormsBlock bound level [.answer found value] :=
  line rfl rfl inside rfl

/-- A call is a block. -/
theorem call (function : String) (inside : level ≤ bound) :
    FormsBlock bound level [.call function] :=
  line rfl rfl inside rfl

/-- A block in front of another. -/
theorem append (first : FormsBlock bound level yes) (second : FormsBlock bound level no) :
    FormsBlock bound level (yes ++ no) := by
  constructor
  · simp [blockLines_append, first.filled]
  · rw [blockLines_append]
    exact first.nests.append second.nests

/-- One of two blocks. -/
theorem either (condition : Condition) (first : FormsBlock bound (level + 1) yes)
    (second : FormsBlock bound (level + 1) no) (inside : level ≤ bound) :
    FormsBlock bound level [.either condition yes no] := by
  constructor
  · simp [Statement.blockLines, Statement.lines]
  · have ends : ∀ m ∈ (otherwiseLine level :: Statement.blockLines (level + 1) no).head?,
        m.staysAt level = false := by
      simp [otherwiseLine, Line.staysAt]
    have alone : furtherTests level (Statement.blockLines (level + 1) yes
        ++ otherwiseLine level :: Statement.blockLines (level + 1) no) = [] := by
      rw [furtherTests_append ends, ← List.append_nil (Statement.blockLines (level + 1) yes),
        furtherTests_append_of_deeper first.nests.deep]
      rfl
    have short : ShortRun ((Header.first.line level condition).run
        (Statement.blockLines (level + 1) yes
          ++ otherwiseLine level :: Statement.blockLines (level + 1) no)) :=
      ⟨level, condition, [], .single condition, congrArg (_ :: ·) alone⟩
    have whole := Nests.choice rfl inside rfl short first.filled first.nests
      (.otherwise rfl inside rfl second.filled second.nests) (.nil .block level)
    rw [List.append_nil] at whole
    rwa [Statement.blockLines, Statement.lines, Statement.blockLines, List.append_nil]

/-- A choice among blocks. -/
theorem choose {arms : List (Condition × List Statement)} (some : arms ≠ [])
    (few : FewTests (arms.map Prod.fst)) (form : ∀ arm ∈ arms, FormsBlock bound (level + 1) arm.2)
    (inside : level ≤ bound) : FormsBlock bound level [.choose arms] := by
  cases arms with
  | nil => exact absurd rfl some
  | cons arm rest =>
    obtain ⟨first, others⟩ := List.forall_mem_cons.mp form
    constructor
    · simp [Statement.blockLines, Statement.lines, Statement.armLines]
    · have further : furtherTests level (Statement.blockLines (level + 1) arm.2
          ++ Statement.armLines level .further rest)
          = (rest.map Prod.fst).map (Header.further.line level) := by
        rw [furtherTests_append_of_deeper first.nests.deep, furtherTests_armLines others]
      have short : ShortRun ((Header.first.line level arm.1).run
          (Statement.blockLines (level + 1) arm.2 ++ Statement.armLines level .further rest)) :=
        ⟨level, arm.1, rest.map Prod.fst, few, congrArg (_ :: ·) further⟩
      have whole := Nests.choice rfl inside rfl short first.filled first.nests
        (.tail_armLines others inside) (.nil .block level)
      rw [List.append_nil] at whole
      rwa [Statement.blockLines, Statement.lines, Statement.armLines, Statement.blockLines,
        List.append_nil]

/-- Statements each of which is a block are a block. -/
theorem of_forall (filled : block ≠ []) (each : ∀ s ∈ block, FormsBlock bound level [s]) :
    FormsBlock bound level block := by
  induction block with
  | nil => exact absurd rfl filled
  | cons s rest ih =>
    obtain ⟨first, others⟩ := List.forall_mem_cons.mp each
    cases rest with
    | nil => exact first
    | cons s' rest' => exact first.append (ih (by simp) others)

end FormsBlock

/-! ### The statements of a lookup -/

/-- What the functions of a lookup are made of: their name, the value that they report on a miss,
the entries that they find, and the deepest level. -/
structure Blueprint where
  name : String
  default : Value
  entries : List Entry
  bound : Nat

/-- `Formed plan level s`: the statement has one of the forms that the functions of a lookup consist
of, at a level. Keys are only compared to answer a hit, and no block is empty. -/
inductive Formed (plan : Blueprint) : Nat → Statement → Prop where
  | measure {level : Nat} (inside : level ≤ plan.bound) : Formed plan level .measure
  | read {level : Nat} (position : Int) (inside : level ≤ plan.bound) :
      Formed plan level (.read position)
  | miss {level : Nat} (inside : level ≤ plan.bound) :
      Formed plan level (missStatement plan.default)
  | call {level : Nat} (number : Nat) (inside : level ≤ plan.bound) :
      Formed plan level (.call (helperName plan.name number))
  | hit {level : Nat} {e : Entry} (member : e ∈ plan.entries) (inside : level + 1 ≤ plan.bound) :
      Formed plan level (.choose [(.keyIs e.text, [.answer true e.value])])
  | choose {level : Nat} {arms : List (Condition × List Statement)} (some : arms ≠ [])
      (few : FewTests (arms.map Prod.fst)) (other : ∀ c ∈ arms.map Prod.fst, ∀ t, c ≠ .keyIs t)
      (filled : ∀ arm ∈ arms, arm.2 ≠ [])
      (blocks : ∀ arm ∈ arms, ∀ s ∈ arm.2, Formed plan (level + 1) s)
      (inside : level ≤ plan.bound) : Formed plan level (.choose arms)
  | either {level : Nat} {condition : Condition} {yes no : List Statement}
      (other : ∀ t, condition ≠ .keyIs t) (filled : yes ≠ []) (filled' : no ≠ [])
      (first : ∀ s ∈ yes, Formed plan (level + 1) s) (second : ∀ s ∈ no, Formed plan (level + 1) s)
      (inside : level ≤ plan.bound) : Formed plan level (.either condition yes no)

/-- A statement of one of the forms is a block. -/
theorem Formed.formsBlock {plan : Blueprint} {level : Nat} {s : Statement}
    (formed : Formed plan level s) : FormsBlock plan.bound level [s] := by
  induction formed with
  | measure inside => exact .line rfl rfl inside rfl
  | read position inside => exact .line rfl rfl inside rfl
  | miss inside => exact .answer false plan.default inside
  | call number inside => exact .call _ inside
  | hit member inside =>
    refine .choose (by simp) (.single _) ?_ (by omega)
    rw [List.forall_mem_singleton]
    exact .answer true _ inside
  | choose some few other filled _ inside ih =>
    refine .choose some few (fun arm member => ?_) inside
    exact .of_forall (filled arm member) (ih arm member)
  | either other filled filled' _ _ inside ih ih' =>
    exact .either _ (.of_forall filled ih) (.of_forall filled' ih') inside

/-- `FormedBlock plan level block`: statements of these forms at a level, and there are some. -/
structure FormedBlock (plan : Blueprint) (level : Nat) (block : List Statement) : Prop where
  filled : block ≠ []
  each : ∀ s ∈ block, Formed plan level s

namespace FormedBlock

variable {plan : Blueprint} {level : Nat} {block others : List Statement}

/-- A statement is a block. -/
theorem single {s : Statement} (formed : Formed plan level s) : FormedBlock plan level [s] :=
  ⟨by simp, List.forall_mem_singleton.mpr formed⟩

/-- A block in front of another. -/
theorem append (first : FormedBlock plan level block) (second : FormedBlock plan level others) :
    FormedBlock plan level (block ++ others) :=
  ⟨by simp [first.filled], List.forall_mem_append.mpr ⟨first.each, second.each⟩⟩

/-- The lines of a block nest. -/
theorem formsBlock (formed : FormedBlock plan level block) : FormsBlock plan.bound level block :=
  .of_forall formed.filled fun s member => (formed.each s member).formsBlock

end FormedBlock

/-- A function whose body is a block. -/
theorem wellNested_lines {f : Function} {bound : Nat} (form : FormsBlock bound 1 f.body) :
    WellNested f.lines ∧ ∀ l ∈ f.lines, l.level ≤ bound := by
  have inside : 1 ≤ bound := by
    obtain ⟨l, member⟩ := List.exists_mem_of_ne_nil _ form.filled
    have := form.nests.level_mem l member
    omega
  have doc : Nests bound .block 1 (docLines f.doc) := by
    cases f.doc with
    | none => exact .nil .block 1
    | some doc =>
      rw [docLines]
      split
      · exact .nil .block 1
      · exact .line rfl inside rfl (.nil .block 1)
  have inner := doc.append form.nests
  constructor
  · exact inner.wellNested_cons rfl (by simp [form.filled])
  · refine List.forall_mem_cons.mpr ⟨Nat.zero_le bound, fun l member => ?_⟩
    exact (inner.level_mem l member).2

/-! ### Headers in the text -/

/-- How a line of text starts when it is a header. -/
def Header.opening : Header → List Char
  | .function => "def ".toList
  | .first => "if ".toList
  | .further => "elif ".toList
  | .otherwise => "else:".toList

/-- The header that a line of text is. -/
def Header.ofText? (text : String) : Option Header :=
  [Header.function, .first, .further, .otherwise].find? (·.opening.isPrefixOf text.toList)

/-- A line that starts like a header is this header. -/
theorem ofText?_of_opening {header : Header} {text : String}
    (opens : header.opening <+: text.toList) : Header.ofText? text = some header := by
  obtain ⟨rest, whole⟩ := opens
  rw [Header.ofText?, ← whole]
  cases header <;> rfl

/-- A line that starts with none of the letters of headers is none. -/
theorem ofText?_eq_none {text : String} {c : Char} {rest : List Char}
    (chars : text.toList = c :: rest) (other : c ∉ ['d', 'i', 'e']) :
    Header.ofText? text = none := by
  rw [Header.ofText?, chars, List.find?_eq_none]
  simp only [List.mem_cons, List.not_mem_nil, or_false, not_or] at other
  obtain ⟨d, i, e⟩ := other
  intro header _
  cases header <;> simp [Header.opening, Ne.symm d, Ne.symm i, Ne.symm e]

/-- The header of an arm is told by its text. -/
theorem header_arm (header : Header) (level : Nat) (condition : Condition)
    (arm : header = .first ∨ header = .further) :
    (header.line level condition).header = Header.ofText? (header.line level condition).text := by
  refine (ofText?_of_opening ?_).symm
  rw [Header.line, String.append_assoc, String.toList_append]
  rcases arm with rfl | rfl <;> exact List.prefix_append _ _

/-- What is left is told by its text. -/
theorem header_otherwiseLine (level : Nat) :
    (otherwiseLine level).header = Header.ofText? (otherwiseLine level).text :=
  (@ofText?_of_opening .otherwise _ (List.prefix_refl _)).symm

/-- A statement that is no choice has no header. -/
theorem ofText?_append {front : String} (known : front ∈ ["n = ", "ch = key[", "return "])
    (rest : String) : Header.ofText? (front ++ rest) = none := by
  have chars : ∃ c tail, front.toList = c :: tail ∧ c ∉ ['d', 'i', 'e'] := by
    simp only [List.mem_cons, List.not_mem_nil, or_false] at known
    rcases known with rfl | rfl | rfl
    · exact ⟨'n', _, rfl, by decide⟩
    · exact ⟨'c', _, rfl, by decide⟩
    · exact ⟨'r', _, rfl, by decide⟩
  obtain ⟨c, tail, chars, other⟩ := chars
  have whole : (front ++ rest).toList = c :: (tail ++ rest.toList) := by
    rw [String.toList_append, chars, List.cons_append]
  exact ofText?_eq_none whole other

namespace Statement

mutual

/-- The headers of the lines of a statement are told by their texts. -/
theorem header_lines (level : Nat) :
    ∀ s : Statement, ∀ l ∈ lines level s, l.header = Header.ofText? l.text
  | .measure => by
    rw [lines, List.forall_mem_singleton]
    exact (@ofText?_append "n = " (by simp) "len(key)").symm
  | .read position => by
    rw [lines, List.forall_mem_singleton, String.append_assoc]
    exact (ofText?_append (by simp) _).symm
  | .answer found value => by
    rw [lines, List.forall_mem_singleton, String.append_assoc, String.append_assoc]
    exact (ofText?_append (by simp) _).symm
  | .call function => by
    rw [lines, List.forall_mem_singleton, String.append_assoc]
    exact (ofText?_append (by simp) _).symm
  | .choose arms => header_armLines level .first (.inl rfl) arms
  | .either condition yes no => by
    rw [lines, List.forall_mem_cons, List.forall_mem_append, List.forall_mem_cons]
    exact ⟨header_arm .first level condition (.inl rfl), header_blockLines (level + 1) yes,
      header_otherwiseLine level, header_blockLines (level + 1) no⟩

/-- The headers of the lines of a block are told by their texts. -/
theorem header_blockLines (level : Nat) :
    ∀ block : List Statement, ∀ l ∈ blockLines level block, l.header = Header.ofText? l.text
  | [] => by simp [blockLines]
  | s :: rest => by
    rw [blockLines, List.forall_mem_append]
    exact ⟨header_lines level s, header_blockLines level rest⟩

/-- The headers of the lines of arms are told by their texts. -/
theorem header_armLines (level : Nat) (header : Header)
    (arm : header = .first ∨ header = .further) : ∀ arms : List (Condition × List Statement),
    ∀ l ∈ armLines level header arms, l.header = Header.ofText? l.text
  | [] => by simp [armLines]
  | (condition, block) :: rest => by
    rw [armLines, List.forall_mem_cons, List.forall_mem_append]
    exact ⟨header_arm header level condition arm, header_blockLines (level + 1) block,
      header_armLines level .further (.inr rfl) rest⟩

end

end Statement

/-- The headers of the lines of a function are told by their texts. -/
theorem header_eq_ofText? (f : Function) : ∀ l ∈ f.lines, l.header = Header.ofText? l.text := by
  rw [Function.lines, List.forall_mem_cons, List.forall_mem_append]
  refine ⟨?_, ?_, Statement.header_blockLines 1 f.body⟩
  · refine (ofText?_of_opening ?_).symm
    rw [Function.headerLine, String.append_assoc, String.toList_append]
    exact List.prefix_append _ _
  · intro l member
    cases given : f.doc with
    | none => simp [docLines, given] at member
    | some doc =>
      rw [given, docLines] at member
      split at member
      · simp at member
      · obtain rfl := List.mem_singleton.mp member
        refine (ofText?_eq_none (String.toList_ofList) ?_).symm
        rcases Text.quoteMark_eq doc.toList with mark | mark <;> simp [mark]

end KeyTree.Source
