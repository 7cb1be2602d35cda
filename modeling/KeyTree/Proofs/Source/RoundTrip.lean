/-
# Generated modules read back

The text of a lookup is read as the program that is written. The lines of a statement are read as
its pieces, whatever is read behind them, and the pieces make up the statement again. So the text
of the program tells the program, and what is run is what stands in the text.

* `Statement.pieces`, `assemble?_pieces` — the pieces of statements.
* `readLines?_statement`, `readLines?_function` — the lines of statements and of functions.
* `Program.read?_text` — the text of a program.
* `Declared.read?_render` — the text of a declared lookup.
* `Declared.generated_agrees` — what is read answers as the lookup does.
-/

import KeyTree.Proofs.Source.Capture
import KeyTree.Proofs.Source.Readable
import KeyTree.Proofs.Source.Reader

namespace KeyTree.Source

/-! ### Pieces -/

/-- The pieces that a statement is written as. -/
def Statement.pieces : Statement → List Piece
  | .choose [] => []
  | .choose ((c, block) :: others) =>
    .first c block :: others.map fun arm => .further arm.1 arm.2
  | .either c yes no => [.first c yes, .otherwise no]
  | s => [.statement s]

/-- Further tests wait for the first. -/
theorem foldrM_join?_further (arms : List (Condition × List Statement)) (behind : List Statement) :
    (arms.map fun arm => Piece.further arm.1 arm.2).foldrM Piece.join? ⟨[], none, behind⟩
      = some ⟨arms, none, behind⟩ := by
  induction arms with
  | nil => rfl
  | cons arm rest ih =>
    rw [List.map_cons, List.foldrM_cons, ih]
    rfl

variable {plan : Blueprint} {level : Nat}

/-- The pieces of a statement make up the statement. -/
theorem foldrM_join?_pieces {s : Statement} (formed : Formed plan level s)
    (behind : List Statement) :
    s.pieces.foldrM Piece.join? ⟨[], none, behind⟩ = some ⟨[], none, s :: behind⟩ := by
  cases formed with
  | measure | read | miss | call | hit | either => rfl
  | @choose _ arms filled =>
    cases arms with
    | nil => exact absurd rfl filled
    | cons arm others =>
      rw [Statement.pieces, List.foldrM_cons, foldrM_join?_further]
      rfl

/-- The pieces of statements make up the statements. -/
theorem assemble?_pieces {block : List Statement} (formed : ∀ s ∈ block, Formed plan level s) :
    assemble? (block.flatMap Statement.pieces) = some block := by
  have joined : (block.flatMap Statement.pieces).foldrM Piece.join? {}
      = some ⟨[], none, block⟩ := by
    induction block with
    | nil => rfl
    | cons s rest ih =>
      obtain ⟨first, others⟩ := List.forall_mem_cons.mp formed
      rw [List.flatMap_cons, List.foldrM_append, ih others]
      exact foldrM_join?_pieces first rest
  rw [assemble?, joined]

/-! ### Lines -/

/-- The indentation at a level. -/
theorem toList_indentation (level : Nat) :
    (String.join (List.replicate level standardUnit)).toList = List.replicate (4 * level) ' ' := by
  induction level with
  | zero => rfl
  | succ level ih =>
    have unit : standardUnit.toList = List.replicate 4 ' ' := rfl
    rw [List.replicate_succ, String.join_cons, String.toList_append, ih, unit,
      List.replicate_append_replicate, Nat.mul_succ, Nat.add_comm]

/-- A line with its indentation. -/
theorem indented_written {l : Line} (solid : Solid l.text.toList) :
    indented (l.written standardUnit) = (4 * l.level, l.text.toList) := by
  obtain ⟨c, rest, chars, other⟩ := solid
  have stop : (decide (c = ' ')) = false := by simpa using other
  rw [indented, Line.written, String.toList_append, toList_indentation, chars,
    List.takeWhile_append_of_pos (by simp), List.dropWhile_append_of_pos (by simp),
    List.takeWhile_cons_of_neg (by simp [stop]), List.dropWhile_cons_of_neg (by simp [stop]),
    List.append_nil, List.length_replicate]

section Reading

variable {denote : String → Option Value}

/-- `Above level behind`: nothing deeper than a level stands right behind. -/
def Above (level : Nat) (behind : List (Nat × Piece)) : Prop :=
  ∀ p ∈ behind.head?, p.1 ≤ 4 * level

/-- What is not deeper than a level is not deeper than the next. -/
theorem Above.deeper {behind : List (Nat × Piece)} (above : Above level behind) :
    Above (level + 1) behind :=
  fun p first => (above p first).trans (by omega)

/-- Pieces at a level. -/
def piecesAt (level : Nat) (pieces : List Piece) : List (Nat × Piece) := pieces.map (4 * level, ·)

/-- Pieces at a level are not deeper than it. -/
theorem Above.pieces {behind : List (Nat × Piece)} (above : Above level behind)
    (pieces : List Piece) : Above level (piecesAt level pieces ++ behind) := by
  cases pieces with
  | nil => exact above
  | cons piece rest =>
    rintro p (_ | _)
    exact Nat.le_refl _

/-- A line takes the pieces one level deeper as its block. -/
theorem takeLine?_block {text : List Char} {pieces : List Piece} {block : List Statement}
    {piece : Piece} {behind : List (Nat × Piece)} (made : assemble? pieces = some block)
    (read : Piece.read? denote text block = some piece) (above : Above level behind) :
    takeLine? denote (4 * level, text) (piecesAt (level + 1) pieces ++ behind)
      = some ((4 * level, piece) :: behind) := by
  have deeper : ∀ p ∈ piecesAt (level + 1) pieces, decide (4 * level < p.1) = true := by
    rw [piecesAt, List.forall_mem_map]
    exact fun _ _ => decide_eq_true (by omega)
  have inside : (piecesAt (level + 1) pieces ++ behind).takeWhile (4 * level < ·.1)
      = piecesAt (level + 1) pieces := by
    rw [List.takeWhile_append_of_pos deeper]
    cases behind with
    | nil => simp
    | cons p rest =>
      have outside : ¬ 4 * level < p.1 := Nat.not_lt.mpr (above p rfl)
      rw [List.takeWhile_cons_of_neg (by simpa using outside), List.append_nil]
  have outside : (piecesAt (level + 1) pieces ++ behind).dropWhile (4 * level < ·.1) = behind := by
    rw [List.dropWhile_append_of_pos deeper]
    cases behind with
    | nil => rfl
    | cons p rest =>
      have outside : ¬ 4 * level < p.1 := Nat.not_lt.mpr (above p rfl)
      rw [List.dropWhile_cons_of_neg (by simpa using outside)]
  have even : (piecesAt (level + 1) pieces).all
      (some ·.1 = (piecesAt (level + 1) pieces).head?.map Prod.fst) = true := by
    cases pieces with
    | nil => rfl
    | cons first rest => simp [piecesAt]
  have plain : (piecesAt (level + 1) pieces).map Prod.snd = pieces := by
    simp [piecesAt, Function.comp_def]
  simp only [takeLine?, inside, outside, even, plain, made, guard, if_true, Option.pure_def,
    Option.bind_eq_bind, Option.bind_some, read]

/-- Lines in front of lines. -/
theorem readLines?_append (lines others : List String) (behind : List (Nat × Piece)) :
    readLines? denote (lines ++ others) behind
      = readLines? denote others behind >>= readLines? denote lines := by
  rw [readLines?, List.map_append, List.foldrM_append]
  rfl

/-- A line in front of lines. -/
theorem readLines?_cons (line : String) (others : List String) (behind : List (Nat × Piece)) :
    readLines? denote (line :: others) behind
      = readLines? denote others behind >>= takeLine? denote (indented line) := by
  rw [readLines?, List.map_cons, List.foldrM_cons]
  rfl

/-- A line with its block. -/
theorem readLines?_block {l : Line} {lines : List String} {pieces : List Piece}
    {block : List Statement} {piece : Piece} {behind : List (Nat × Piece)} (stands : l.level = level)
    (solid : Solid l.text.toList)
    (inner : readLines? denote lines behind = some (piecesAt (level + 1) pieces ++ behind))
    (made : assemble? pieces = some block)
    (read : Piece.read? denote l.text.toList block = some piece) (above : Above level behind) :
    readLines? denote (l.written standardUnit :: lines) behind
      = some ((4 * level, piece) :: behind) := by
  subst stands
  rw [readLines?_cons, inner, indented_written solid]
  exact takeLine?_block made read above

/-- A line without a block. -/
theorem readLines?_line {l : Line} {piece : Piece} {behind : List (Nat × Piece)}
    (stands : l.level = level) (solid : Solid l.text.toList)
    (read : Piece.read? denote l.text.toList [] = some piece) (above : Above level behind) :
    readLines? denote [l.written standardUnit] behind = some ((4 * level, piece) :: behind) :=
  @readLines?_block level denote l [] [] [] piece behind stands solid rfl rfl read above

/-- A text that opens with no blank is solid. -/
theorem solid_append {front : String} (solid : Solid front.toList) (rest : String) :
    Solid (front ++ rest).toList := by
  obtain ⟨c, others, chars, other⟩ := solid
  exact ⟨c, others ++ rest.toList, by rw [String.toList_append, chars, List.cons_append], other⟩

/-- The header of an arm is solid. -/
theorem solid_arm (header : Header) (level : Nat) (condition : Condition) :
    Solid (header.line level condition).text.toList := by
  have word : ∀ header : Header, Solid header.word.toList := by rintro (_ | _ | _ | _) <;> decide
  exact solid_append (solid_append (solid_append (word header) _) _) _

/-- `Legible denote plan`: the names of the helpers are names of functions, the keys are plain, and
the literals of the values are read as the values. -/
structure Legible (denote : String → Option Value) (plan : Blueprint) : Prop where
  named : ∀ number, Text.isFunctionName (helperName plan.name number) = true
  missed : denote plan.default.literalText = some plan.default
  keys : ∀ e ∈ plan.entries, e.text.form = .plain
  values : ∀ e ∈ plan.entries, denote e.value.literalText = some e.value

/-- The lines of statements are read as their pieces when those of each statement are. -/
theorem readLines?_statements {block : List Statement}
    (each : ∀ s ∈ block, ∀ behind, Above level behind →
      readLines? denote ((Statement.lines level s).map (Line.written standardUnit)) behind
        = some (piecesAt level s.pieces ++ behind))
    {behind : List (Nat × Piece)} (above : Above level behind) :
    readLines? denote ((Statement.blockLines level block).map (Line.written standardUnit)) behind
      = some (piecesAt level (block.flatMap Statement.pieces) ++ behind) := by
  induction block with
  | nil => rfl
  | cons s rest ih =>
    obtain ⟨first, others⟩ := List.forall_mem_cons.mp each
    rw [Statement.blockLines, List.map_append, readLines?_append, ih others, List.flatMap_cons]
    refine (first _ (above.pieces _)).trans ?_
    rw [piecesAt, piecesAt, piecesAt, List.map_append, List.append_assoc]

/-- `ArmReads denote level condition block`: the condition reads back, and the lines of the block, one
level deeper, are read as its pieces. -/
structure ArmReads (denote : String → Option Value) (level : Nat) (condition : Condition)
    (block : List Statement) : Prop where
  plain : ∀ t, condition = .keyIs t → t.form = .plain
  filled : block ≠ []
  made : assemble? (block.flatMap Statement.pieces) = some block
  inner : ∀ behind, Above (level + 1) behind →
    readLines? denote ((Statement.blockLines (level + 1) block).map (Line.written standardUnit))
      behind = some (piecesAt (level + 1) (block.flatMap Statement.pieces) ++ behind)

namespace ArmReads

variable {condition : Condition} {block : List Statement} {behind : List (Nat × Piece)}

/-- An arm whose block consists of statements that are read as their pieces. -/
theorem of_formed (plain : ∀ t, condition = .keyIs t → t.form = .plain) (filled : block ≠ [])
    (formed : ∀ s ∈ block, Formed plan (level + 1) s)
    (each : ∀ s ∈ block, ∀ behind, Above (level + 1) behind →
      readLines? denote ((Statement.lines (level + 1) s).map (Line.written standardUnit)) behind
        = some (piecesAt (level + 1) s.pieces ++ behind)) :
    ArmReads denote level condition block :=
  ⟨plain, filled, assemble?_pieces formed, fun _ => readLines?_statements each⟩

/-- The lines of an arm that starts a choice. -/
theorem first (reads : ArmReads denote level condition block) (above : Above level behind) :
    readLines? denote ((Header.first.line level condition
        :: Statement.blockLines (level + 1) block).map (Line.written standardUnit)) behind
      = some ((4 * level, .first condition block) :: behind) :=
  readLines?_block rfl (solid_arm .first level condition) (reads.inner behind above.deeper)
    reads.made (Piece.read?_arm reads.plain reads.filled).1 above

/-- The lines of a further arm. -/
theorem further (reads : ArmReads denote level condition block) (above : Above level behind) :
    readLines? denote ((Header.further.line level condition
        :: Statement.blockLines (level + 1) block).map (Line.written standardUnit)) behind
      = some ((4 * level, .further condition block) :: behind) :=
  readLines?_block rfl (solid_arm .further level condition) (reads.inner behind above.deeper)
    reads.made (Piece.read?_arm reads.plain reads.filled).2 above

/-- The lines of what is left. -/
theorem otherwise (reads : ArmReads denote level condition block) (above : Above level behind) :
    readLines? denote ((otherwiseLine level
        :: Statement.blockLines (level + 1) block).map (Line.written standardUnit)) behind
      = some ((4 * level, .otherwise block) :: behind) :=
  readLines?_block rfl (solid_append (by decide) _) (reads.inner behind above.deeper)
    reads.made (Piece.read?_otherwise reads.filled) above

end ArmReads

/-- The lines of further arms are read as further tests. -/
theorem readLines?_further {arms : List (Condition × List Statement)}
    (reads : ∀ arm ∈ arms, ArmReads denote level arm.1 arm.2) {behind : List (Nat × Piece)}
    (above : Above level behind) :
    readLines? denote
        ((Statement.armLines level .further arms).map (Line.written standardUnit)) behind
      = some (piecesAt level (arms.map fun arm => .further arm.1 arm.2) ++ behind) := by
  induction arms with
  | nil => rfl
  | cons arm rest ih =>
    obtain ⟨first, others⟩ := List.forall_mem_cons.mp reads
    have lines : Statement.armLines level .further (arm :: rest)
        = (Header.further.line level arm.1 :: Statement.blockLines (level + 1) arm.2)
          ++ Statement.armLines level .further rest := rfl
    rw [lines, List.map_append, readLines?_append, ih others]
    exact first.further (above.pieces _)

/-- The lines of a statement are read as its pieces, in front of what stands no deeper. -/
theorem readLines?_statement (legible : Legible denote plan) {s : Statement}
    (formed : Formed plan level s) {behind : List (Nat × Piece)} (above : Above level behind) :
    readLines? denote ((Statement.lines level s).map (Line.written standardUnit)) behind
      = some (piecesAt level s.pieces ++ behind) := by
  induction formed generalizing behind with
  | measure =>
    have solid : Solid "n = len(key)".toList := by decide
    exact readLines?_line rfl solid Piece.read?_measure above
  | read position =>
    exact readLines?_line rfl (solid_append (solid_append (by decide) _) _)
      (Piece.read?_read position) above
  | miss =>
    exact readLines?_line rfl (solid_append (solid_append (solid_append (by decide) _) _) _)
      (Piece.read?_answer false legible.missed) above
  | call number =>
    exact readLines?_line rfl (solid_append (solid_append (by decide) _) _)
      (Piece.read?_call (legible.named number)) above
  | @hit level e member =>
    have arm : ArmReads denote level (.keyIs e.text) [.answer true e.value] := by
      refine ⟨?_, by simp, rfl, fun behind above => ?_⟩
      · rintro t ⟨⟩
        exact legible.keys e member
      · exact readLines?_line rfl (solid_append (solid_append (solid_append (by decide) _) _) _)
          (Piece.read?_answer true (legible.values e member)) above
    rw [Statement.lines, Statement.armLines, Statement.armLines, List.append_nil]
    exact arm.first above
  | @choose level arms filled _ other filled' blocks _ ih =>
    have reads : ∀ arm ∈ arms, ArmReads denote level arm.1 arm.2 := by
      intro arm member
      have plain (t : Text) (same : arm.1 = .keyIs t) : t.form = .plain :=
        absurd same (other _ (List.mem_map_of_mem member) t)
      exact .of_formed plain (filled' arm member) (blocks arm member)
        fun s inside _ => ih arm member s inside
    cases arms with
    | nil => exact absurd rfl filled
    | cons arm others =>
      obtain ⟨first, further⟩ := List.forall_mem_cons.mp reads
      have lines : Statement.lines level (.choose (arm :: others))
          = (Header.first.line level arm.1 :: Statement.blockLines (level + 1) arm.2)
            ++ Statement.armLines level .further others := rfl
      rw [lines, List.map_append, readLines?_append, readLines?_further further above]
      exact first.first (above.pieces _)
  | @either level condition yes no other filled filled' formed formed' _ ih ih' =>
    have plain (t : Text) (same : condition = .keyIs t) : t.form = .plain := absurd same (other t)
    have first : ArmReads denote level condition yes :=
      .of_formed plain filled formed fun s inside _ => ih s inside
    have second : ArmReads denote level condition no :=
      .of_formed plain filled' formed' fun s inside _ => ih' s inside
    have lines : Statement.lines level (.either condition yes no)
        = (Header.first.line level condition :: Statement.blockLines (level + 1) yes)
          ++ otherwiseLine level :: Statement.blockLines (level + 1) no := rfl
    rw [lines, List.map_append, readLines?_append, second.otherwise above]
    exact first.first (above.pieces [.otherwise no])

/-! ### Functions and modules -/

/-- The lines of a function are read as the function. -/
theorem readLines?_function (legible : Legible denote plan) {f : Function} (undocumented : f.doc = none)
    (valid : Text.isFunctionName f.name = true) (formed : FormedBlock plan 1 f.body)
    {behind : List (Nat × Piece)} (above : Above 0 behind) :
    readLines? denote (f.lines.map (Line.written standardUnit)) behind
      = some ((0, .function f) :: behind) := by
  obtain ⟨name, doc, body⟩ := f
  obtain rfl : doc = none := undocumented
  have inner := readLines?_statements (fun s inside _ => readLines?_statement legible
    (formed.each s inside)) above.deeper
  exact readLines?_block rfl (solid_append (solid_append (solid_append (by decide) _) _) _) inner
    (assemble?_pieces formed.each) (Piece.read?_function valid formed.filled) above

/-- The lines of functions are read as the functions. -/
theorem readLines?_functions (legible : Legible denote plan) {functions : List Function}
    (formed : ∀ f ∈ functions, f.doc = none ∧ Text.isFunctionName f.name = true ∧
      FormedBlock plan 1 f.body) :
    readLines? denote (functions.flatMap fun f => f.lines.map (Line.written standardUnit)) []
      = some (piecesAt 0 (functions.map .function)) := by
  induction functions with
  | nil => rfl
  | cons f rest ih =>
    obtain ⟨⟨undocumented, valid, body⟩, others⟩ := List.forall_mem_cons.mp formed
    have above : Above 0 (piecesAt 0 (rest.map Piece.function)) := by
      simpa using (show Above 0 [] by simp [Above]).pieces (rest.map Piece.function)
    rw [List.flatMap_cons, readLines?_append, ih others]
    exact readLines?_function legible undocumented valid body above

/-- The lines of imports are read as the imports. -/
theorem readLines?_imports {modules : List String}
    (valid : ∀ m ∈ modules, (dottedParts m).all Text.isFunctionName = true)
    {behind : List (Nat × Piece)} (above : Above 0 behind) :
    readLines? denote (modules.map ("import " ++ ·)) behind
      = some (piecesAt 0 (modules.map .module) ++ behind) := by
  induction modules with
  | nil => rfl
  | cons m rest ih =>
    obtain ⟨first, others⟩ := List.forall_mem_cons.mp valid
    have line : "import " ++ m = Line.written standardUnit { level := 0, text := "import " ++ m } :=
      String.empty_append.symm
    have read := @readLines?_line 0 denote { level := 0, text := "import " ++ m } (.module m) _ rfl
      (solid_append (by decide) _) (Piece.read?_import first) (above.pieces (rest.map .module))
    rw [← line] at read
    have lines : (m :: rest).map ("import " ++ ·) = ["import " ++ m] ++ rest.map ("import " ++ ·) :=
      rfl
    rw [lines, readLines?_append, ih others]
    exact read

namespace Program

/-- A line of a function is not empty where it stands in the text. -/
theorem written_ne_empty {f : Function} {l : Line} (member : l ∈ f.lines) (unit : String) :
    l.written unit ≠ "" := by
  intro empty
  have chars := congrArg String.toList empty
  rw [Line.written, String.toList_append, String.toList_empty, List.append_eq_nil_iff] at chars
  exact f.text_ne_empty l member (String.toList_inj.mp (chars.2.trans String.toList_empty.symm))

/-- The lines of a function where they stand in the text, none of which is empty. -/
theorem filter_map_written (unit : String) (f : Function) :
    (f.lines.map (Line.written unit)).filter (!·.isEmpty) = f.lines.map (Line.written unit) := by
  rw [List.filter_eq_self, List.forall_mem_map]
  intro l member
  simpa using written_ne_empty member unit

/-- The lines of a module that are not blank. -/
theorem filter_writtenLines (unit : String) (f : Function) (others : List Function) :
    (writtenLines unit ⟨f :: others⟩ ++ [""]).filter (!·.isEmpty)
      = headerLine :: ((imports ⟨f :: others⟩).map ("import " ++ ·)
        ++ (f :: others).flatMap fun g => g.lines.map (Line.written unit)) := by
  have blank : ["", ""].filter (!·.isEmpty) = [] ∧ [""].filter (!·.isEmpty) = [] ∧
      [headerLine, ""].filter (!·.isEmpty) = [headerLine] := by decide
  have modules : ((imports ⟨f :: others⟩).map ("import " ++ ·)).filter (!·.isEmpty)
      = (imports ⟨f :: others⟩).map ("import " ++ ·) := by
    rw [List.filter_eq_self, List.forall_mem_map]
    intro m _
    simp
  have above : (header (imports ⟨f :: others⟩)).filter (!·.isEmpty)
      = headerLine :: (imports ⟨f :: others⟩).map ("import " ++ ·) := by
    rw [header, List.filter_append, List.filter_append, blank.2.1, blank.2.2, List.append_nil]
    split
    · rename_i none
      rw [List.isEmpty_iff.mp none]
      rfl
    · rw [List.filter_append, modules, blank.2.1, List.append_nil]
      rfl
  have functions : (textLines unit f others).filter (!·.isEmpty)
      = (f :: others).flatMap fun g => g.lines.map (Line.written unit) := by
    rw [textLines, List.filter_append, filter_map_written, List.filter_flatMap, List.flatMap_cons]
    simp only [List.filter_append, blank.1, filter_map_written, List.nil_append]
  rw [writtenLines, map_written_lines, List.filter_append, List.filter_append, above, functions,
    blank.2.1, List.append_nil, List.cons_append]

/-- The pieces that a program is written as make up the program. -/
theorem ofPieces?_pieces (p : Program) :
    ofPieces? (.note :: (p.imports.map .module ++ p.functions.map .function)) = some p := by
  have imported : ∀ piece ∈ p.imports.map Piece.module, piece.module?.isSome = true := by
    simp [Piece.module?]
  have modules : (p.imports.map Piece.module ++ p.functions.map Piece.function).takeWhile
      (fun piece => piece.module?.isSome) = p.imports.map .module := by
    rw [List.takeWhile_append_of_pos imported]
    cases p.functions with
    | nil => simp
    | cons f rest => simp [Piece.module?]
  have others : (p.imports.map Piece.module ++ p.functions.map Piece.function).dropWhile
      (fun piece => piece.module?.isSome) = p.functions.map .function := by
    rw [List.dropWhile_append_of_pos imported]
    cases p.functions with
    | nil => rfl
    | cons f rest => simp [Piece.module?]
  have functions : (p.functions.map Piece.function).mapM Piece.function? = some p.functions := by
    induction p.functions with
    | nil => rfl
    | cons f rest ih => simp [ih, Piece.function?]
  have names : (p.imports.map Piece.module).filterMap Piece.module? = imports ⟨p.functions⟩ := by
    simp [List.filterMap_map, Function.comp_def, Piece.module?]
  rw [ofPieces?, modules, others, functions, Option.bind_eq_bind, Option.bind_some, names]
  simp

/-- Lines that are not blank are read as a program when they are the lines of the program. -/
theorem read?_of_lines (legible : Legible denote plan) {p : Program} {text : String}
    (lines : (linesOf text).filter (!·.isEmpty)
      = headerLine :: (p.imports.map ("import " ++ ·)
        ++ p.functions.flatMap fun f => f.lines.map (Line.written standardUnit)))
    (modules : ∀ m ∈ p.imports, (dottedParts m).all Text.isFunctionName = true)
    (formed : ∀ f ∈ p.functions, f.doc = none ∧ Text.isFunctionName f.name = true ∧
      FormedBlock plan 1 f.body) : read? denote text = some p := by
  have bottom : Above 0 [] := by simp [Above]
  have above : Above 0 (piecesAt 0 (p.functions.map .function)) := by
    simpa using bottom.pieces (p.functions.map .function)
  have line : headerLine = Line.written standardUnit { level := 0, text := headerLine } :=
    String.empty_append.symm
  have note := @readLines?_line 0 denote { level := 0, text := headerLine } .note _ rfl
    (by decide : Solid headerLine.toList) Piece.read?_note
    (above.pieces (p.imports.map .module))
  rw [← line] at note
  have pieces : readLines? denote ((linesOf text).filter (!·.isEmpty)) []
      = some (piecesAt 0 (.note :: (p.imports.map .module ++ p.functions.map .function))) := by
    have split (rest : List String) : headerLine :: rest = [headerLine] ++ rest := rfl
    rw [lines, split, readLines?_append, readLines?_append, readLines?_functions legible formed]
    refine (congrArg (· >>= _) (readLines?_imports modules above)).trans (note.trans ?_)
    simp [piecesAt]
  have level : (piecesAt 0 (.note :: (p.imports.map .module ++ p.functions.map .function))).all
      (·.1 = 0) = true := by
    simp [piecesAt]
  have plain (pieces : List Piece) : (piecesAt 0 pieces).map Prod.snd = pieces := by
    simp [piecesAt, Function.comp_def]
  rw [read?, pieces, Option.bind_eq_bind, Option.bind_some, level, plain, ofPieces?_pieces]
  rfl

end Program

end Reading

/-! ### Functions of a lookup -/

/-- The helpers of a queue are not documented. -/
theorem doc_helpersFrom (name : String) (default : Value) (done : Nat) (queue : List Tree) :
    ∀ f ∈ helpersFrom name default done queue, f.doc = none := by
  fun_induction helpersFrom name default done queue with
  | case1 => simp
  | case2 done t rest block ih => exact List.forall_mem_cons.mpr ⟨rfl, ih⟩

/-- The functions of a lookup have names of functions and are not documented. -/
theorem named_functionsOf {name : String} (valid : Text.isFunctionName name = true) (root : Tree)
    (default : Value) : ∀ f ∈ functionsOf name none root default,
      f.doc = none ∧ Text.isFunctionName f.name = true := by
  refine List.forall_mem_cons.mpr ⟨⟨rfl, valid⟩, fun f member => ?_⟩
  obtain ⟨number, same⟩ := exists_name_of_mem_helpersOf member
  exact ⟨doc_helpersFrom name default 0 _ f member, same ▸ isFunctionName_helperName valid number⟩

end KeyTree.Source

namespace KeyTree.Declared

open Source

section Rendered

variable {d : Declared} {keys : List String} {values : List Value} {l : Lookup} {n : String}
  {denote : String → Option Value}

/-- The text of a declared lookup of plain keys is read as the program that is written, when each
literal reads back and is read as its value. -/
theorem read?_text (lists : d.Lists (keys.map (⟨·, .plain⟩)) values) (built : d.lookup = .ok l)
    (literals : ∀ v ∈ values, v.literalFault? = none) (valid : Text.isFunctionName n = true)
    (denoted : ∀ v ∈ l.default :: values,
      valueReading v = .faithful ∧ denote v.literalText = some v) :
    Program.read? denote ((lookupProgram n l).text standardUnit) = some (lookupProgram n l) := by
  obtain ⟨decides, default⟩ := decides_of_lookup lists built
  obtain ⟨missed, declared⟩ := List.forall_mem_cons.mp denoted
  obtain ⟨bound, formed⟩ := exists_formed_of_lookup lists built n none
  have entries : ∀ e ∈ entriesFrom 0 ((keys.map (⟨·, .plain⟩)).zip values),
      e.text.form = .plain ∧ e.value ∈ values := by
    intro e member
    have pair := List.of_mem_zip (mem_iff_exists_entry.mpr ⟨e, member, rfl⟩)
    obtain ⟨content, -, text⟩ := List.mem_map.mp pair.1
    exact ⟨congrArg Text.form text.symm, pair.2⟩
  have legible : Legible denote ⟨n, l.default, entriesFrom 0 (_ : List (Text × Value)), bound⟩ :=
    ⟨isFunctionName_helperName valid, missed.2, fun e member => (entries e member).1,
      fun e member => (declared e.value (entries e member).2).2⟩
  have single (v : Value) (member : v ∈ l.default :: values) : OneLine v.literalText := by
    refine oneLine_literalText (Value.literalFault?_eq_none_iff.mp ?_) (denoted v member).1
    rcases List.mem_cons.mp member with rfl | member
    · exact default ▸ literalFault?_missValue d.valueType
    · exact literals v member
  have modules (m : String) (imported : m ∈ (lookupProgram n l).imports) :
      (dottedParts m).all Text.isFunctionName = true := by
    refine Program.valid_of_mem_imports (fun v member => ?_) imported
    rcases @Program.of_mem_values_functionsFor [] _ _ _ l n lists built v member with rfl | given
    · exact default ▸ missed.1
    · exact (declared v given).1
  have lines : ∀ line ∈ (lookupProgram n l).lines, OneLine line.text := by
    obtain ⟨written, leaves, reads, -⟩ := functionsOf_writes n l.default decides.dispatching
    refine (Program.forall_mem_lines_iff (by decide)).mpr fun line inside => ?_
    refine reads.oneLine (oneLine_of_isFunctionName valid) (single _ List.mem_cons_self)
      (fun e member => ?_) inside
    have leaf := decides.leaves_perm.mem_iff.mp (leaves.mem_iff.mp member)
    rw [Text.display_of_plain (entries e leaf).1]
    exact ⟨oneLine_quote _, single _ (List.mem_cons_of_mem _ (entries e leaf).2)⟩
  refine Program.read?_of_lines legible ?_ modules fun f member => ?_
  · have imports (m : String) (imported : m ∈ (lookupProgram n l).imports) : OneLine m :=
      oneLine_dotted (List.all_eq_true.mp (modules m imported))
    have text := @linesOf_text _ _ _ l standardUnit n [] lists built (by decide) imports lines
    exact (congrArg (List.filter _) text).trans (Program.filter_writtenLines standardUnit _ _)
  · obtain ⟨undocumented, named⟩ := named_functionsOf valid l.root l.default f member
    exact ⟨undocumented, named, formed f member⟩

/-- The code of a declared lookup of plain keys. When the values have literals and the name may name
a function, the lookup is rendered. When each literal is spelled by names and is read as its value,
the text is read as a program; and when this is loaded and the names and literals in it mean what
they are written for, its function answers every key as the lookup does, without a fault. -/
theorem generated_agrees {name : Value} (lists : d.Lists (keys.map (⟨·, .plain⟩)) values)
    (built : d.lookup = .ok l) (literals : ∀ v ∈ values, v.literalFault? = none)
    (named : functionName (if name.isTruthy then name else l.name) = .ok n)
    (denoted : ∀ v ∈ l.default :: values,
      valueReading v = .faithful ∧ denote v.literalText = some v) :
    ∃ p s, Program.ofLookups [] [(if name.isTruthy then name else l.name, l)] = .ok p ∧
      render l name = .ok s ∧ Program.read? denote s = some p ∧
      ∀ env, p.Clear env → ∀ key, ∃ a, l.find key = .ok a ∧ p.run env n key = .ok a := by
  obtain ⟨decides, -⟩ := decides_of_lookup lists built
  have made := ofLookups_eq_ok [] lists built literals named
  refine ⟨lookupProgram n l, _, made, ?_,
    read?_text lists built literals (functionName_eq_ok_iff.mp named).2 denoted,
    fun env clear key => run_eq_find decides rfl clear key⟩
  rw [render, renderModule, made]
  rfl

end Rendered

/-- The last key of the declaration with a helper, which the helper finds. -/
def lastRung : String := String.ofList (List.replicate 32 'a' ++ ['b'])

/-- The lookup with a helper reports nothing on a miss. -/
theorem default_deep {l : Lookup} (built : deep.lookup = .ok l) : l.default = .none := by
  obtain ⟨-, default⟩ := decides_of_lookup lists_deep built
  have anyType : missValue .none = .none := by cbv
  exact default.trans anyType

/-- Its values are written so that they read back, and so is what it reports on a miss. -/
theorem scalars_deep {l : Lookup} (built : deep.lookup = .ok l) :
    ∀ v ∈ l.default :: deepValues,
      valueReading v = .faithful ∧ Value.readPlain? v.literalText = some v := by
  rw [default_deep built, List.forall_mem_cons, deepValues, List.forall_mem_map]
  exact ⟨⟨rfl, rfl⟩, fun i _ => ⟨rfl, Value.readPlain?_literalText rfl⟩⟩

/-- Nothing takes a name of its module, which reads back and is loaded. -/
theorem clear_deep {l : Lookup} {p : Program} (built : deep.lookup = .ok l)
    (made : Program.ofLookups [] [(.str "find", l)] = .ok p) : p.Clear .bare := by
  have named : functionName (.str "find") = .ok "find" := rfl
  obtain rfl := Except.ok.inj
    (made.symm.trans (ofLookups_eq_ok [] lists_deep built literals_deep named))
  obtain ⟨_, assembles⟩ := Program.ofLookups_eq_ok_iff.mp made
  refine assembles.clear_of_scalars .bare (Program.readFault?_eq_none _ ?_) ?_ ?_
  · exact readable_functionsOf lists_deep built few_lengths_deep
      (List.forall_mem_map.mpr fun k _ => keyReading_of_plain rfl)
      (fun v member => (scalars_deep built v (List.mem_cons_of_mem _ member)).1) "find" none
  · intro v member
    rcases Program.of_mem_values_functionsFor lists_deep built member with rfl | given
    · exact Value.namedClass?_missValue _
    · obtain ⟨i, -, rfl⟩ := List.mem_map.mp given
      rfl
  · intro given member n valid
    obtain rfl := List.mem_singleton.mp member
    obtain rfl := Except.ok.inj (named.symm.trans valid)
    rw [Text.normalForm_of_ascii (by decide)]
    decide

/-- The text of a lookup with a helper is read as a program that finds a key by the helper. -/
theorem generated_agrees_deep :
    ∃ l p s, deep.lookup = .ok l ∧ render l (.str "find") = .ok s ∧
      Program.read? Value.readPlain? s = some p ∧ p.functions.length = 2 ∧ p.Clear .bare ∧
      p.run .bare "find" (.str lastRung) = .ok ⟨true, .bool false⟩ ∧
      p.run .bare "find" (.str "aaa") = .ok ⟨false, .none⟩ := by
  obtain ⟨l, built, helper, -⟩ := lookup_deep
  obtain ⟨decides, -⟩ := decides_of_lookup lists_deep built
  have named : functionName (.str "find") = .ok "find" := rfl
  obtain ⟨p, s, made, rendered, read, agrees⟩ := @generated_agrees _ _ _ l "find" _ (.str "find")
    lists_deep built literals_deep named (scalars_deep built)
  have clear := clear_deep built made
  obtain rfl := Except.ok.inj
    (made.symm.trans (ofLookups_eq_ok [] lists_deep built literals_deep named))
  refine ⟨l, _, s, built, rendered, read, congrArg (· + 1) helper, clear, ?_, ?_⟩
  · obtain ⟨a, found, ran⟩ := agrees .bare clear (.str lastRung)
    have member : ⟨⟨lastRung, .plain⟩, 43, .bool false⟩
        ∈ entriesFrom 0 ((deepKeys.map (⟨·, .plain⟩)).zip deepValues) := by
      exact List.mem_of_getElem? (i := 43) (by rfl)
    have hit := Lookup.find_of_mem decides member (x := .str lastRung) rfl
    obtain rfl := Except.ok.inj (hit.symm.trans found)
    exact ran
  · obtain ⟨a, found, ran⟩ := agrees .bare clear (.str "aaa")
    have other : ∀ e ∈ entriesFrom 0 ((deepKeys.map (⟨·, .plain⟩)).zip deepValues),
        (Value.str "aaa").content? ≠ some e.text.content := by
      have absent : "aaa" ∉ deepKeys := by decide +kernel
      intro e member same
      have pair := List.of_mem_zip (mem_iff_exists_entry.mpr ⟨e, member, rfl⟩)
      obtain ⟨key, inside, text⟩ := List.mem_map.mp pair.1
      have content : "aaa" = key := (Option.some.inj same).trans (congrArg Text.content text.symm)
      exact absent (content ▸ inside)
    have miss := Lookup.find_of_not_mem decides other
    rw [default_deep built] at miss
    obtain rfl := Except.ok.inj (miss.symm.trans found)
    exact ran

end KeyTree.Declared
