/-
# Modules that read back

A line reads back when the literals in it do, and a module does when its lines do and a block stands
behind each header. The blocks of declared lookups are never empty nor nested too deeply, so that
only the literals of keys and values decide.

* `Filled`, `readFault?_eq_none_iff` — lines without fault.
* `reading_functionsOf_iff` — the literals in the functions of a lookup.
* `keyReading_of_plain` — the literal of a plain key.
* `oneLine_literalText` — a literal that reads back stands on one line.
* `Program.valueReading_of_mem` — the literals of values.
* `Declared.reading_functionsOf_iff`, `Declared.readable_functionsOf` — the functions of a declared
  lookup.
-/

import KeyTree.Proofs.Source.Indentation
import KeyTree.Proofs.Text.Quoted

namespace KeyTree

namespace Source

/-! ### Lines without fault -/

/-- Lines in which each header has a block behind it, below the limit of levels. -/
def Filled (lines : List Line) : Prop :=
  Everywhere (fun _ l after => l.header.isSome →
    ∃ m ∈ after.head?, l.level < m.level ∧ m.level < levelLimit) lines

/-- A line in front of lines. -/
theorem filled_cons {l : Line} {rest : List Line} : Filled (l :: rest) ↔
    (l.header.isSome → ∃ m ∈ rest.head?, l.level < m.level ∧ m.level < levelLimit) ∧
      Filled rest :=
  everywhere_cons

/-- Lines have no fault when each reads back and each header has a block behind it. -/
theorem readFault?_eq_none_iff {number : Nat} {lines : List Line} :
    readFault? number lines = none ↔ (∀ l ∈ lines, l.reading = .faithful) ∧ Filled lines := by
  induction lines generalizing number with
  | nil => simp [readFault?, Filled, everywhere_nil]
  | cons l rest ih =>
    rw [readFault?, filled_cons, List.forall_mem_cons]
    cases reads : l.reading with
    | invalid | foreign => simp [Reading.fault?]
    | faithful =>
      cases opens : l.header with
      | none => simpa [Reading.fault?] using ih
      | some header =>
        cases rest with
        | nil => simp [Reading.fault?]
        | cons m others =>
          have step := @ih (number + 1)
          by_cases empty : m.level ≤ l.level
          · have deep : ¬ l.level < m.level := Nat.not_lt.mpr empty
            simp [Reading.fault?, empty, deep]
          · have deep : l.level < m.level := Nat.lt_of_not_le empty
            by_cases limit : levelLimit ≤ m.level
            · have high : ¬ m.level < levelLimit := Nat.not_lt.mpr limit
              simp [Reading.fault?, empty, limit, high]
            · have low : m.level < levelLimit := Nat.lt_of_not_le limit
              simpa [Reading.fault?, empty, limit, deep, low] using step

/-- Lines behind lines. -/
theorem Filled.append {lines others : List Line} (first : Filled lines) (second : Filled others) :
    Filled (lines ++ others) := by
  refine everywhere_append.mpr ⟨first.imp fun _ l after _ block opens => ?_, second⟩
  obtain ⟨m, next, levels⟩ := block opens
  refine ⟨m, ?_, levels⟩
  rw [List.head?_append, next]
  rfl

/-- Lines that form blocks have a block behind each header. -/
theorem WellNested.filled {lines : List Line} (nested : WellNested lines)
    (levels : ∀ l ∈ lines, l.level < levelLimit) : Filled lines := by
  rintro before l after rfl opens
  cases after with
  | nil =>
    have plain := nested.ends l (by simp)
    simp [plain] at opens
  | cons m rest =>
    have leads : l.Leads m := by
      have chain := (List.isChain_append.mp nested.steps).2.1
      exact (List.isChain_cons_cons.mp chain).1
    rw [Line.Leads, if_pos opens] at leads
    exact ⟨m, rfl, by omega, levels m (by simp)⟩

namespace Program

variable {p : Program}

/-- A program has a block behind each header when each of its functions has. -/
theorem filled_lines (filled : ∀ f ∈ p.functions, Filled f.lines) : Filled p.lines := by
  obtain ⟨functions⟩ := p
  induction functions with
  | nil => exact everywhere_nil
  | cons f others ih =>
    obtain ⟨first, later⟩ := List.forall_mem_cons.mp filled
    cases others with
    | nil => simpa [lines] using first
    | cons g rest =>
      have blank : Filled [blankLine, blankLine] := by
        have plain : ¬ blankLine.header.isSome := Bool.false_ne_true
        apply filled_cons.mpr
        constructor
        · intro opens
          exact absurd opens plain
        · apply filled_cons.mpr
          constructor
          · intro opens
            exact absurd opens plain
          · exact everywhere_nil
      rw [lines_cons_cons]
      exact first.append (blank.append (ih later))

/-- A program reads back when each of its functions does. -/
theorem readFault?_eq_none (number : Nat)
    (readable : ∀ f ∈ p.functions, Filled f.lines ∧ ∀ l ∈ f.lines, l.reading = .faithful) :
    readFault? number p.lines = none := by
  refine readFault?_eq_none_iff.mpr ⟨?_, filled_lines fun f member => (readable f member).1⟩
  exact (@forall_mem_lines_iff p (·.reading = .faithful) rfl).mpr
    (List.forall_mem_flatMap.mpr fun f member => (readable f member).2)

end Program

/-! ### Literals of functions -/

/-- A class whose expression consists of names of ASCII characters is spelled by names. -/
theorem isSpelled_of_ascii {c : ClassName} {parts : List String}
    (apart : dottedParts c.reference = parts)
    (ascii : ∀ name ∈ parts, Text.isFunctionName name = true ∧
      name.toList.all (·.toNat < 0x80) = true ∧ name ≠ guardName) : c.isSpelled = true := by
  rw [ClassName.isSpelled, apart, List.all_eq_true]
  intro name member
  obtain ⟨valid, plain, other⟩ := ascii name member
  rw [Text.isSpelled, valid, Text.normalForm_of_ascii plain]
  simpa using other

/-- The literal of a class reads back when the class is spelled by names. -/
theorem valueReading_cls_iff {c : ClassName} :
    valueReading (.cls c) = .faithful ↔ c.isSpelled = true := by
  rw [valueReading]
  split
  · rename_i spelled
    exact iff_of_true rfl spelled
  · rename_i foreign
    refine iff_of_false (fun faithful => ?_) foreign
    cases faithful

/-- The class that a literal names is spelled by names when the literal reads back. -/
theorem isSpelled_of_namedClass? {v : Value} {c : ClassName} (names : v.namedClass? = some c)
    (faithful : valueReading v = .faithful) : c.isSpelled = true := by
  cases v with
  | cls own =>
    obtain rfl := Option.some.inj names
    exact valueReading_cls_iff.mp faithful
  | member own kind name value =>
    obtain rfl := Option.some.inj names
    by_contra other
    rw [valueReading, Bool.eq_false_iff.mpr other] at faithful
    cases faithful
  | _ => cases names

/-- What a plain key is written as reads back as the key. -/
theorem keyReading_of_plain {t : Text} (plain : t.form = .plain) : keyReading t = .faithful := by
  have reads : Text.unquote? t.display.toList = some t.chars := by
    rw [Text.display_of_plain plain]
    exact (congrArg Text.unquote? String.toList_ofList).trans (Text.unquote?_quoteChars ..)
  exact if_pos reads

/-! ### Literals on one line -/

/-- A text of characters without line ends has none. -/
theorem oneLine_ofList {s : List Char} (plain : '\n' ∉ s) : OneLine (String.ofList s) := by
  rwa [OneLine, String.toList_ofList]

/-- The text of a decimal stands on one line. -/
theorem oneLine_write (l : Binary64.Layout) (d : Decimal) : OneLine (l.write d) := by
  have marks : OneLine ".0" ∧ OneLine "." ∧ OneLine "0." ∧ OneLine "e" ∧ OneLine "-" ∧
      OneLine "+" ∧ OneLine "" := by decide
  have zeros (count : Nat) : '\n' ∉ List.replicate count '0' :=
    fun member => absurd (List.eq_of_mem_replicate member) (by decide)
  have exponent (n : Nat) : OneLine (Binary64.padZeros l.exponentWidth (toString n)) := by
    rw [Binary64.padZeros, oneLine_append]
    exact ⟨oneLine_ofList (zeros _), oneLine_nat n⟩
  have feed : '\n' ∉ (toString d.digits).toList := oneLine_nat d.digits
  rw [Binary64.Layout.write]
  generalize (toString d.digits).toList = digits at feed ⊢
  have part {s : List Char} (sub : s ⊆ digits) : OneLine (String.ofList s) :=
    oneLine_ofList fun member => feed (sub member)
  dsimp only
  split
  · split
    · rw [oneLine_append]
      exact ⟨oneLine_ofList (by simp [feed]), marks.1⟩
    · split
      · rw [oneLine_append, oneLine_append]
        exact ⟨⟨part (List.take_subset _ _), marks.2.1⟩, part (List.drop_subset _ _)⟩
      · rw [oneLine_append]
        exact ⟨marks.2.2.1, oneLine_ofList (by simp [feed])⟩
  · simp only [oneLine_append]
    refine ⟨⟨⟨?_, marks.2.2.2.1⟩, ?_⟩, exponent _⟩
    · split
      · exact marks.2.2.2.2.2.2
      · exact part (List.Subset.refl _)
      · rw [oneLine_append, oneLine_append]
        exact ⟨⟨@part [_] (by simp), marks.2.1⟩, part (List.subset_cons_self _ _)⟩
    · split
      · exact marks.2.2.2.2.1
      · exact marks.2.2.2.2.2.1

/-- The text of a number stands on one line. -/
theorem oneLine_number (x : Binary64) : OneLine x.text := by
  have words : OneLine "nan" ∧ OneLine "-inf" ∧ OneLine "inf" ∧ OneLine "-" ∧ OneLine "" ∧
      OneLine "0.0" := by decide
  cases x with
  | nan => exact words.1
  | infinite negative => cases negative <;> simp [Binary64.text, words]
  | finite negative m q =>
    rw [Binary64.text, oneLine_append]
    constructor
    · cases negative <;> simp [words]
    · split
      · exact words.2.2.2.2.2
      · exact oneLine_write _ _

/-- A dotted name whose parts are names of functions stands on one line. -/
theorem oneLine_dotted {name : String} (valid : ∀ part ∈ dottedParts name,
    Text.isFunctionName part = true) : OneLine name := by
  intro member
  obtain ⟨part, inside, feed⟩ := @exists_part_of_mem '.' _ _ member (by decide)
  have named := valid (String.ofList part) (List.mem_map_of_mem inside)
  exact oneLine_of_isFunctionName named (String.toList_ofList ▸ feed)

/-- A name that is spelled may name a function. -/
theorem isFunctionName_of_isSpelled {name : String} (spelled : Text.isSpelled name = true) :
    Text.isFunctionName name = true := by
  rw [Text.isSpelled, Bool.and_eq_true, Bool.and_eq_true] at spelled
  exact spelled.1.1

/-- The expression of a class that is spelled by names stands on one line. -/
theorem oneLine_reference {c : ClassName} (spelled : c.isSpelled = true) : OneLine c.reference :=
  oneLine_dotted fun part inside =>
    isFunctionName_of_isSpelled (List.all_eq_true.mp spelled part inside)

/-- A literal that reads back is written on one line. -/
theorem oneLine_literalText {v : Value} (literal : v.HasLiteral)
    (faithful : valueReading v = .faithful) : OneLine v.literalText := by
  have plain {w : Value} (plain : w.isPlain = true) : OneLine w.literalText :=
    oneLine_of_isPrintable fun _ => Value.isPrintable_of_mem_literalText plain
  cases literal with
  | none | bool | int | str => exact plain rfl
  | float => exact oneLine_number _
  | cls => exact oneLine_reference (valueReading_cls_iff.mp faithful)
  | @member c kind name value =>
    rw [valueReading] at faithful
    split at faithful
    · rename_i spelled
      rw [Bool.and_eq_true] at spelled
      rw [Value.literalText, oneLine_append, oneLine_append]
      exact ⟨⟨oneLine_reference spelled.1, by decide⟩,
        oneLine_of_isFunctionName (isFunctionName_of_isSpelled spelled.2)⟩
    · cases faithful

/-- The modules of literals that read back are spelled by names. -/
theorem Program.valid_of_mem_imports {p : Program}
    (faithful : ∀ v ∈ p.functions.flatMap Function.values, valueReading v = .faithful) {m : String}
    (imported : m ∈ p.imports) : (dottedParts m).all Text.isFunctionName = true := by
  obtain ⟨v, member, needed⟩ := mem_imports_iff.mp imported
  obtain ⟨c, names, home⟩ := Option.bind_eq_some_iff.mp needed
  have spelled := isSpelled_of_namedClass? names (faithful v member)
  rw [ClassName.importedModule?] at home
  split at home
  · cases home
  · rename_i outside
    obtain rfl := Option.some.inj home
    rw [ClassName.isSpelled, ClassName.reference, if_neg outside, dottedParts_append,
      List.all_append, Bool.and_eq_true, List.all_eq_true] at spelled
    exact List.all_eq_true.mpr fun part inside =>
      isFunctionName_of_isSpelled (spelled.1 part inside)
/-! ### Values of functions -/

namespace Statement

mutual

/-- The values of a statement read back when its lines do. -/
theorem valueReading_of_mem {level : Nat} {v : Value} : ∀ {s : Statement},
    (∀ l ∈ lines level s, l.reading = .faithful) → v ∈ values s → valueReading v = .faithful
  | .measure, _, member => absurd member List.not_mem_nil
  | .read _, _, member => absurd member List.not_mem_nil
  | .answer _ value, readable, member => by
    rw [List.mem_singleton.mp member]
    exact readable _ (List.mem_singleton.mpr rfl)
  | .call _, _, member => absurd member List.not_mem_nil
  | .choose _, readable, member => armReading_of_mem readable member
  | .either _ yes no, readable, member => by
    rw [lines, List.forall_mem_cons, List.forall_mem_append, List.forall_mem_cons] at readable
    rcases List.mem_append.mp member with first | second
    · exact blockReading_of_mem readable.2.1 first
    · exact blockReading_of_mem readable.2.2.2 second

/-- The values of a block read back when its lines do. -/
theorem blockReading_of_mem {level : Nat} {v : Value} : ∀ {block : List Statement},
    (∀ l ∈ blockLines level block, l.reading = .faithful) → v ∈ blockValues block →
      valueReading v = .faithful
  | [], _, member => absurd member List.not_mem_nil
  | s :: rest, readable, member => by
    rw [blockLines, List.forall_mem_append] at readable
    rcases List.mem_append.mp member with first | later
    · exact valueReading_of_mem readable.1 first
    · exact blockReading_of_mem readable.2 later

/-- The values of the arms of a choice read back when their lines do. -/
theorem armReading_of_mem {level : Nat} {header : Header} {v : Value} :
    ∀ {arms : List (Condition × List Statement)},
      (∀ l ∈ armLines level header arms, l.reading = .faithful) → v ∈ armValues arms →
        valueReading v = .faithful
  | [], _, member => absurd member List.not_mem_nil
  | (condition, block) :: rest, readable, member => by
    rw [armLines, List.forall_mem_cons, List.forall_mem_append] at readable
    rcases List.mem_append.mp member with first | later
    · exact blockReading_of_mem readable.2.1 first
    · exact armReading_of_mem readable.2.2 later

end

end Statement

/-- Whether a function reads back is told by its body. -/
theorem Function.reading_iff (f : Function) :
    (∀ l ∈ f.lines, l.reading = .faithful) ↔
      ∀ l ∈ Statement.blockLines 1 f.body, l.reading = .faithful := by
  have documented : ∀ l ∈ docLines f.doc, l.reading = .faithful := by
    intro l member
    cases given : f.doc with
    | none => simp [docLines, given] at member
    | some doc =>
      rw [given, docLines] at member
      split at member
      · cases member
      · rw [List.mem_singleton.mp member]
  rw [Function.lines, List.forall_mem_cons, List.forall_mem_append, and_iff_right documented]
  exact and_iff_right rfl

/-- The literals in a program that reads back do so. -/
theorem Program.valueReading_of_mem {p : Program} {number : Nat}
    (readable : readFault? number p.lines = none) {f : Function} (member : f ∈ p.functions)
    {v : Value} (written : v ∈ f.values) : valueReading v = .faithful := by
  have lines := (@forall_mem_lines_iff p (·.reading = .faithful) rfl).mp
    (readFault?_eq_none_iff.mp readable).1
  have own : ∀ l ∈ f.lines, l.reading = .faithful := List.forall_mem_flatMap.mp lines f member
  exact Statement.blockReading_of_mem (f.reading_iff.mp own) written

/-- The functions of a lookup read back exactly when the literals of its keys and values do, if that
of the value reported on a miss does. -/
theorem reading_functionsOf_iff {root : Tree} {default : Value} (dispatching : Dispatching root)
    (missed : valueReading default = .faithful) (name : String) (doc : Option String) :
    (∀ f ∈ functionsOf name doc root default, ∀ l ∈ f.lines, l.reading = .faithful) ↔
      ∀ e ∈ root.leaves, keyReading e.text = .faithful ∧ valueReading e.value = .faithful := by
  obtain ⟨written, leaves, reads, -⟩ := functionsOf_writes name default dispatching
  have plain := reads.reading_iff missed
  rw [List.forall_mem_flatMap] at plain
  -- The text that documents the main function is no part of its body.
  have undocumented : (∀ f ∈ functionsOf name doc root default, ∀ l ∈ f.lines,
      l.reading = .faithful) ↔
      ∀ f ∈ functionsOf name none root default, ∀ l ∈ f.lines, l.reading = .faithful := by
    simp only [Function.reading_iff]
    rw [functionsOf, functionsOf, List.forall_mem_cons, List.forall_mem_cons]
    rfl
  rw [undocumented, plain]
  simp only [leaves.mem_iff]

end Source

/-! ### Declared lookups -/

namespace Declared

open Source

variable {d : Declared} {keys : List Text} {values : List Value} {l : Lookup}

/-- The leaves of a declared lookup hold its keys and values. -/
theorem map_leaves_perm (lists : d.Lists keys values) (built : d.lookup = .ok l) :
    (l.root.leaves.map fun e => (e.text, e.value)).Perm (keys.zip values) := by
  obtain ⟨decides, -⟩ := decides_of_lookup lists built
  have leaves := decides.leaves_perm.map fun e => (e.text, e.value)
  rwa [map_entriesFrom] at leaves

/-- The value reported on a miss has a literal that reads back. -/
theorem valueReading_missValue (valueType : Value) :
    valueReading (missValue valueType) = .faithful := by
  have scalars : ∀ v ∈ Value.missValues, valueReading v = .faithful := by
    simp [Value.missValues, valueReading]
  exact scalars _ (Value.missValue_mem valueType)

/-- The functions of a declared lookup read back exactly when the literals of its keys and values
do. -/
theorem reading_functionsOf_iff (lists : d.Lists keys values) (built : d.lookup = .ok l)
    (name : String) (doc : Option String) :
    (∀ f ∈ functionsOf name doc l.root l.default, ∀ line ∈ f.lines, line.reading = .faithful) ↔
      (∀ t ∈ keys, keyReading t = .faithful) ∧ ∀ v ∈ values, valueReading v = .faithful := by
  obtain ⟨decides, default⟩ := decides_of_lookup lists built
  have counts := (checked_of_lookup lists built).counts
  have pairs := map_leaves_perm lists built
  have leaves : (∀ e ∈ l.root.leaves, keyReading e.text = .faithful ∧
      valueReading e.value = .faithful) ↔
      ∀ pair ∈ keys.zip values, keyReading pair.1 = .faithful ∧ valueReading pair.2 = .faithful := by
    simp only [← pairs.mem_iff, List.forall_mem_map]
  have missed : valueReading l.default = .faithful := default ▸ valueReading_missValue d.valueType
  rw [Source.reading_functionsOf_iff decides.dispatching missed, leaves, forall₂_and]
  refine and_congr ?_ ?_
  · rw [← List.forall_mem_map (f := Prod.fst) (P := fun t => keyReading t = .faithful),
      List.map_fst_zip (Nat.le_of_eq counts)]
  · rw [← List.forall_mem_map (f := Prod.snd) (P := fun v => valueReading v = .faithful),
      List.map_snd_zip (Nat.le_of_eq counts.symm)]

/-- The functions of a declared lookup have a block behind each header unless the keys have very
many lengths. -/
theorem filled_functionsOf (lists : d.Lists keys values) (built : d.lookup = .ok l)
    (lengths : (keys.map Text.length).dedup.length ≤ 3 * 2 ^ 96) {name : String}
    {doc : Option String} {f : Function} (member : f ∈ functionsOf name doc l.root l.default) :
    Filled f.lines :=
  (wellNested_of_lookup lists built member).filled (level_lt_of_lookup lists built lengths member)

/-- The functions of a declared lookup read back when the literals of its keys and values do, unless
the keys have very many lengths. -/
theorem readable_functionsOf (lists : d.Lists keys values) (built : d.lookup = .ok l)
    (lengths : (keys.map Text.length).dedup.length ≤ 3 * 2 ^ 96)
    (faithful : ∀ t ∈ keys, keyReading t = .faithful)
    (faithful' : ∀ v ∈ values, valueReading v = .faithful) (name : String) (doc : Option String) :
    ∀ f ∈ functionsOf name doc l.root l.default,
      Filled f.lines ∧ ∀ line ∈ f.lines, line.reading = .faithful := fun f member =>
  ⟨filled_functionsOf lists built lengths member,
    (reading_functionsOf_iff lists built name doc).mpr ⟨faithful, faithful'⟩ f member⟩

/-- The functions of a letter read back when the literal of its value does. -/
theorem readable_letter {v : Value} (faithful : valueReading v = .faithful) (name : String)
    (doc : Option String) :
    ∀ f ∈ functionsOf name doc (letterLookup v).root (letterLookup v).default,
      Filled f.lines ∧ ∀ line ∈ f.lines, line.reading = .faithful :=
  readable_functionsOf (lists_letter v) (lookup_letter v) (by decide)
    (List.forall_mem_singleton.mpr (keyReading_of_plain rfl))
    (List.forall_mem_singleton.mpr faithful) name doc

end Declared

end KeyTree
