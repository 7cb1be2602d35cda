/-
# Blocks of lines

Lines with levels of indentation form blocks. A header has a block one level deeper behind it,
which is never empty, and no other line is followed by a deeper one; a further test and what is
left stand behind a test of their level, with nothing but the blocks of tests between. The tests of
one level that stand so behind each other are a run. A few rules that put blocks together give lines
with these properties.

* `Line.run`, `ShortRun` — the run that a line starts, and how long runs may be.
* `WellNested` — lines that form blocks.
* `Nests` — the rules; `Nests.wellNested` — lines that nest form blocks.
-/

import KeyTree.Source.Lines
import Mathlib.Data.List.Chain
import Mathlib.Data.List.TakeWhile

namespace KeyTree.Source

/-! ### Well nested lines -/

/-- Whether a line belongs to the tests of a level that have begun: it is a further test of the
level or deeper than it. -/
def Line.staysAt (level : Nat) (m : Line) : Bool :=
  level < m.level || (m.level = level && m.header = some .further)

/-- The further tests of a level in what belongs to its tests. -/
def furtherTests (level : Nat) (behind : List Line) : List Line :=
  (behind.takeWhile (Line.staysAt level)).filter (·.level = level)

/-- The run that a line starts: the line, and the further tests of its level behind it. -/
def Line.run (l : Line) (behind : List Line) : List Line := l :: furtherTests l.level behind

/-- `FewTests conditions`: the conditions that are tested one after the other are a single one, at
most eight comparisons of a character, or at most three of the length. -/
inductive FewTests : List Condition → Prop where
  | single (condition : Condition) : FewTests [condition]
  | characters {conditions : List Condition} (few : conditions.length ≤ 8)
      (tests : ∀ c ∈ conditions, ∃ label, c = .characterIs label) : FewTests conditions
  | lengths {conditions : List Condition} (few : conditions.length ≤ 3)
      (tests : ∀ c ∈ conditions, ∃ length, c = .lengthIs length) : FewTests conditions

/-- The lines of a run that tests conditions one after the other. -/
def runLines (level : Nat) (condition : Condition) (others : List Condition) : List Line :=
  Header.first.line level condition :: others.map (Header.further.line level)

/-- `ShortRun run`: the run tests few conditions. -/
def ShortRun (run : List Line) : Prop :=
  ∃ level condition others, FewTests (condition :: others) ∧ run = runLines level condition others

/-- `l.Leads m`: the line `m` may stand right behind the line `l`, one level deeper if `l` is a
header and not deeper if it is none. -/
def Line.Leads (l m : Line) : Prop :=
  if l.header.isSome then m.level = l.level + 1 else m.level ≤ l.level

/-- `l.Continues before`: among the lines before `l` is a first test of its level, and what stands
between belongs to the tests of the level. -/
def Line.Continues (l : Line) (before : List Line) : Prop :=
  ∃ earlier opener between, before = earlier ++ opener :: between ∧
    opener.header = some .first ∧ opener.level = l.level ∧
    ∀ m ∈ between, m.staysAt l.level = true

/-- `Everywhere p lines`: each line has a property together with the lines before it and behind
it. -/
def Everywhere (p : List Line → Line → List Line → Prop) (lines : List Line) : Prop :=
  ∀ before l after, lines = before ++ l :: after → p before l after

/-- Lines that form blocks. -/
structure WellNested (lines : List Line) : Prop where
  steps : lines.IsChain Line.Leads
  ends : ∀ l ∈ lines.getLast?, l.header = none
  continues : Everywhere (fun before l _ =>
    l.header = some .further ∨ l.header = some .otherwise → l.Continues before) lines
  runs : Everywhere (fun _ l after => l.header = some .first → ShortRun (l.run after)) lines

/-! ### Rules -/

/-- What lines can be: a block, or what stands behind the block of a test of the same choice. -/
inductive Part where
  | block
  | tail
  deriving DecidableEq

/-- `Nests bound part level lines`: the rules put the lines together as a block or as the tail of a
choice at a level, and no line is deeper than the bound. -/
inductive Nests (bound : Nat) : Part → Nat → List Line → Prop where
  | nil (part : Part) (level : Nat) : Nests bound part level []
  | line {level : Nat} {l : Line} {rest : List Line} (stands : l.level = level)
      (inside : level ≤ bound) (plain : l.header = none) (others : Nests bound .block level rest) :
      Nests bound .block level (l :: rest)
  | choice {level : Nat} {l : Line} {body tail rest : List Line} (stands : l.level = level)
      (inside : level ≤ bound) (opens : l.header = some .first)
      (short : ShortRun (l.run (body ++ tail))) (filled : body ≠ [])
      (inner : Nests bound .block (level + 1) body) (more : Nests bound .tail level tail)
      (others : Nests bound .block level rest) :
      Nests bound .block level (l :: (body ++ (tail ++ rest)))
  | further {level : Nat} {l : Line} {body tail : List Line} (stands : l.level = level)
      (inside : level ≤ bound) (opens : l.header = some .further) (filled : body ≠ [])
      (inner : Nests bound .block (level + 1) body) (more : Nests bound .tail level tail) :
      Nests bound .tail level (l :: (body ++ tail))
  | otherwise {level : Nat} {l : Line} {body : List Line} (stands : l.level = level)
      (inside : level ≤ bound) (opens : l.header = some .otherwise) (filled : body ≠ [])
      (inner : Nests bound .block (level + 1) body) : Nests bound .tail level (l :: body)

namespace Nests

variable {bound level : Nat} {part : Part} {lines : List Line}

/-- A block behind a block of the same level. -/
theorem append {others : List Line} (first : Nests bound .block level lines)
    (second : Nests bound .block level others) : Nests bound .block level (lines ++ others) := by
  generalize same : Part.block = part at first
  induction first with
  | nil =>
    subst same
    exact second
  | line stands inside plain _ ih => exact .line stands inside plain (ih second same)
  | choice stands inside opens short filled inner more _ _ _ ih =>
    have whole := Nests.choice stands inside opens short filled inner more (ih second same)
    simpa only [List.cons_append, List.append_assoc] using whole
  | further | otherwise => cases same

/-- All lines stand between the level and the bound. -/
theorem level_mem (nests : Nests bound part level lines) :
    ∀ l ∈ lines, level ≤ l.level ∧ l.level ≤ bound := by
  induction nests with
  | nil => simp
  | line stands inside _ _ ih =>
    intro l member
    rcases List.mem_cons.mp member with rfl | member
    · omega
    · exact ih l member
  | choice stands inside _ _ _ _ _ _ innerIH moreIH othersIH =>
    intro l member
    rcases List.mem_cons.mp member with rfl | member
    · omega
    · rcases List.mem_append.mp member with member | member
      · have := innerIH l member
        omega
      · rcases List.mem_append.mp member with member | member
        · exact moreIH l member
        · exact othersIH l member
  | further stands inside _ _ _ _ innerIH moreIH =>
    intro l member
    rcases List.mem_cons.mp member with rfl | member
    · omega
    · rcases List.mem_append.mp member with member | member
      · have := innerIH l member
        omega
      · exact moreIH l member
  | otherwise stands inside _ _ _ innerIH =>
    intro l member
    rcases List.mem_cons.mp member with rfl | member
    · omega
    · have := innerIH l member
      omega

/-- The first line stands at the level. In a block it is a plain line or a first test, and in a
tail it is a further test or what is left. -/
theorem head_mem (nests : Nests bound part level lines) :
    ∀ l ∈ lines.head?, l.level = level ∧
      match part with
      | .block => l.header = none ∨ l.header = some .first
      | .tail => l.header = some .further ∨ l.header = some .otherwise := by
  cases nests with
  | nil => simp
  | line stands inside plain others => simp [stands, plain]
  | choice stands inside opens short filled inner more others => simp [stands, opens]
  | further stands inside opens filled inner more => simp [stands, opens]
  | otherwise stands inside opens filled inner => simp [stands, opens]

/-- A block does not start with what belongs to the tests of its level. -/
theorem staysAt_eq_false {others : List Line} (nests : Nests bound .block level others) :
    ∀ m ∈ others.head?, ∀ n ≥ level, m.staysAt n = false := by
  intro m first n deep
  obtain ⟨stands, plain⟩ := nests.head_mem m first
  rw [Line.staysAt, Bool.or_eq_false_iff, Bool.and_eq_false_iff]
  constructor
  · simpa [stands] using deep
  · right
    rcases plain with plain | plain <;> simp [plain]

end Nests

/-! ### Steps -/

/-- Each line leads the next, and the last is no header. -/
structure Stepped (lines : List Line) : Prop where
  steps : lines.IsChain Line.Leads
  ends : ∀ l ∈ lines.getLast?, l.header = none

namespace Stepped

variable {lines others : List Line} {level : Nat}

theorem nil : Stepped [] := ⟨.nil, by simp⟩

/-- A line that is no header. -/
theorem plain {l : Line} (plain : l.header = none) : Stepped [l] :=
  ⟨List.isChain_singleton l, by simp [plain]⟩

/-- Lines can be followed by lines that start at a level which none of them is above. -/
theorem append (first : Stepped lines) (second : Stepped others)
    (deep : ∀ l ∈ lines, level ≤ l.level) (starts : ∀ m ∈ others.head?, m.level = level) :
    Stepped (lines ++ others) where
  steps := by
    refine List.isChain_append.mpr ⟨first.steps, second.steps, ?_⟩
    intro l last m start
    have below := deep l (List.mem_of_getLast? last)
    rw [Line.Leads, first.ends l last, starts m start]
    simpa using below
  ends := by
    intro l last
    rw [List.getLast?_append, Option.mem_def, Option.or_eq_some_iff] at last
    rcases last with last | ⟨-, last⟩
    · exact second.ends l last
    · exact first.ends l last

/-- A header can be followed by lines that start one level deeper. -/
theorem cons {l : Line} (opens : l.header.isSome) (filled : lines ≠ []) (inner : Stepped lines)
    (starts : ∀ m ∈ lines.head?, m.level = l.level + 1) : Stepped (l :: lines) where
  steps := by
    refine List.isChain_cons.mpr ⟨?_, inner.steps⟩
    intro m start
    rw [Line.Leads, if_pos opens]
    exact starts m start
  ends := by
    intro m last
    rw [List.getLast?_cons_of_ne_nil filled] at last
    exact inner.ends m last

end Stepped

namespace Nests

variable {bound level : Nat} {part : Part} {lines : List Line}

/-- All lines stand at the level or deeper. -/
theorem deep (nests : Nests bound part level lines) : ∀ l ∈ lines, level ≤ l.level :=
  fun l member => (nests.level_mem l member).1

/-- The first line stands at the level. -/
theorem starts (nests : Nests bound part level lines) : ∀ l ∈ lines.head?, l.level = level :=
  fun l first => (nests.head_mem l first).1

/-- A header in front of a block. -/
theorem stepped_cons {l : Line} (opens : l.header.isSome) (stands : l.level = level)
    (filled : lines ≠ []) (inner : Nests bound .block (level + 1) lines) (stepped : Stepped lines) :
    Stepped (l :: lines) ∧ ∀ m ∈ l :: lines, level ≤ m.level := by
  subst stands
  constructor
  · exact stepped.cons opens filled inner.starts
  · refine List.forall_mem_cons.mpr ⟨Nat.le_refl _, fun m member => ?_⟩
    exact Nat.le_of_succ_le (inner.deep m member)

/-- Each line leads the next, and the last is no header. -/
theorem stepped (nests : Nests bound part level lines) : Stepped lines := by
  induction nests with
  | nil => exact .nil
  | @line level l rest stands _ plain others ih =>
    exact (Stepped.plain plain).append ih (by simp [stands]) others.starts
  | choice stands _ opens _ filled inner more others innerIH moreIH othersIH =>
    obtain ⟨first, deep⟩ := stepped_cons (by simp [opens]) stands filled inner innerIH
    have second := first.append moreIH deep more.starts
    have deeper := List.forall_mem_append.mpr ⟨deep, more.deep⟩
    have whole := second.append othersIH deeper others.starts
    simpa only [List.cons_append, List.append_assoc] using whole
  | further stands _ opens filled inner more innerIH moreIH =>
    obtain ⟨first, deep⟩ := stepped_cons (by simp [opens]) stands filled inner innerIH
    exact first.append moreIH deep more.starts
  | otherwise stands _ opens filled inner innerIH =>
    exact (stepped_cons (by simp [opens]) stands filled inner innerIH).1

end Nests

/-! ### Further tests and what is left -/

section Everywhere

variable {p : List Line → Line → List Line → Prop} {lines others : List Line} {m : Line}

theorem everywhere_nil : Everywhere p [] := by simp [Everywhere]

/-- A line in front of others. -/
theorem everywhere_cons : Everywhere p (m :: lines) ↔
    p [] m lines ∧ Everywhere (fun before l after => p (m :: before) l after) lines := by
  constructor
  · intro holds
    refine ⟨holds [] m lines rfl, fun before l after place => ?_⟩
    exact holds (m :: before) l after (place ▸ rfl)
  · rintro ⟨first, rest⟩ before l after place
    rcases List.cons_eq_append_iff.mp place with ⟨rfl, here⟩ | ⟨before, rfl, place⟩
    · obtain ⟨rfl, rfl⟩ := List.cons.inj here
      exact first
    · exact rest before l after ‹_›

/-- Lines in front of others. -/
theorem everywhere_append : Everywhere p (lines ++ others) ↔
    Everywhere (fun before l after => p before l (after ++ others)) lines ∧
      Everywhere (fun before l after => p (lines ++ before) l after) others := by
  induction lines generalizing p with
  | nil => simp [everywhere_nil]
  | cons m rest ih =>
    rw [List.cons_append, everywhere_cons, everywhere_cons, ih, and_assoc]
    rfl

/-- A property that follows from another in each place. -/
theorem Everywhere.imp {q : List Line → Line → List Line → Prop} (holds : Everywhere p lines)
    (implies : ∀ before l after, l ∈ lines → p before l after → q before l after) :
    Everywhere q lines := by
  intro before l after place
  exact implies before l after (by simp [place]) (holds before l after place)

end Everywhere

/-- What continues a choice does so behind further lines. -/
theorem Line.Continues.append_left {l : Line} {before : List Line} (continues : l.Continues before)
    (earlier : List Line) : l.Continues (earlier ++ before) := by
  obtain ⟨front, opener, between, rfl, rest⟩ := continues
  exact ⟨earlier ++ front, opener, between, by simp, rest⟩

/-- A deeper line belongs to the tests of a level. -/
theorem staysAt_of_lt {m : Line} {level : Nat} (deeper : level < m.level) :
    m.staysAt level = true := by
  simp [Line.staysAt, deeper]

/-- What a further test or what is left continues behind lines of a part: a choice in them, or, in
a tail, the choice at its level. -/
def Part.Continued (level : Nat) (before : List Line) (l : Line) : Part → Prop
  | .block => l.Continues before
  | .tail => l.Continues before ∨ l.level = level ∧ ∀ m ∈ before, m.staysAt level = true

namespace Nests

variable {bound level : Nat} {part : Part} {lines : List Line}

/-- The lines of a block belong to the tests of the level above. -/
theorem stays (inner : Nests bound .block (level + 1) lines) :
    ∀ m ∈ lines, m.staysAt level = true :=
  fun m member => staysAt_of_lt (inner.deep m member)

/-- A further test and what is left continue a choice. -/
theorem continued (nests : Nests bound part level lines) :
    Everywhere (fun before l _ => l.header = some .further ∨ l.header = some .otherwise →
      part.Continued level before l) lines := by
  induction nests with
  | nil => exact everywhere_nil
  | line stands inside plain others ih =>
    refine everywhere_cons.mpr ⟨by simp [plain], ih.imp fun before l _ _ continued later => ?_⟩
    exact (continued later).append_left [_]
  | @choice level opener body tail rest stands inside opens short filled inner more others innerIH
      moreIH othersIH =>
    rw [everywhere_cons, everywhere_append, everywhere_append]
    refine ⟨by simp [opens], ?_, ?_, ?_⟩
    · exact innerIH.imp fun before l _ _ continued later => (continued later).append_left [_]
    · refine moreIH.imp fun before l _ _ continued later => ?_
      rcases continued later with continues | ⟨same, stay⟩
      · exact continues.append_left (_ :: body)
      · refine ⟨[], opener, body ++ before, rfl, opens, stands.trans same.symm, ?_⟩
        rw [same]
        exact List.forall_mem_append.mpr ⟨inner.stays, stay⟩
    · refine othersIH.imp fun before l _ _ continued later => ?_
      exact ((continued later).append_left tail).append_left (_ :: body)
  | @further level opener body tail stands inside opens filled inner more innerIH moreIH =>
    have here : opener.staysAt level = true := by simp [Line.staysAt, stands, opens]
    rw [everywhere_cons, everywhere_append]
    refine ⟨fun _ => .inr ⟨stands, by simp⟩, ?_, ?_⟩
    · exact innerIH.imp fun before l _ _ continued later => .inl ((continued later).append_left [_])
    · refine moreIH.imp fun before l _ _ continued later => ?_
      rcases continued later with continues | ⟨same, stay⟩
      · exact .inl (continues.append_left (_ :: body))
      · refine .inr ⟨same, List.forall_mem_cons.mpr ⟨here, ?_⟩⟩
        exact List.forall_mem_append.mpr ⟨inner.stays, stay⟩
  | otherwise stands inside opens filled inner innerIH =>
    rw [everywhere_cons]
    refine ⟨fun _ => .inr ⟨stands, by simp⟩, ?_⟩
    exact innerIH.imp fun before l _ _ continued later => .inl ((continued later).append_left [_])

end Nests

/-! ### Runs -/

/-- The further tests of a level behind a block that is deeper. -/
theorem furtherTests_append_of_deeper {level : Nat} {body : List Line}
    (deeper : ∀ m ∈ body, level < m.level) (behind : List Line) :
    furtherTests level (body ++ behind) = furtherTests level behind := by
  have stay : ∀ m ∈ body, m.staysAt level = true := fun m member => staysAt_of_lt (deeper m member)
  have none : body.filter (·.level = level) = [] := by
    refine List.filter_eq_nil_iff.mpr fun m member => ?_
    simpa using Nat.ne_of_gt (deeper m member)
  rw [furtherTests, List.takeWhile_append_of_pos stay, List.filter_append, none, List.nil_append,
    furtherTests]

/-- The further tests of a level start with one that follows. -/
theorem furtherTests_cons {m : Line} (opens : m.header = some .further) (behind : List Line) :
    furtherTests m.level (m :: behind) = m :: furtherTests m.level behind := by
  have stays : m.staysAt m.level = true := by simp [Line.staysAt, opens]
  rw [furtherTests, List.takeWhile_cons_of_pos stays, List.filter_cons_of_pos (by simp),
    furtherTests]

/-- The further tests of a level end where a line stands that does not belong to them. -/
theorem furtherTests_append {level : Nat} {others : List Line}
    (ends : ∀ m ∈ others.head?, m.staysAt level = false) (behind : List Line) :
    furtherTests level (behind ++ others) = furtherTests level behind := by
  have nothing : others.takeWhile (Line.staysAt level) = [] := by
    cases others with
    | nil => rfl
    | cons m rest => exact List.takeWhile_cons_of_neg (by simp [ends m rfl])
  rw [furtherTests, furtherTests, List.takeWhile_append, nothing]
  split
  · rename_i all
    rw [List.append_nil, (List.takeWhile_prefix _).eq_of_length all]
  · rfl

/-- A run ends where a line stands that does not belong to the tests of its level. -/
theorem Line.run_append {l : Line} {behind others : List Line}
    (ends : ∀ m ∈ others.head?, m.staysAt l.level = false) :
    l.run (behind ++ others) = l.run behind :=
  congrArg (l :: ·) (furtherTests_append ends behind)

namespace Nests

variable {bound level : Nat} {part : Part} {lines : List Line}

/-- The runs in lines of a level end where a line follows that belongs to none of them. -/
theorem everywhere_run_append (nests : Nests bound part level lines) {others : List Line}
    (ends : ∀ m ∈ others.head?, ∀ n ≥ level, m.staysAt n = false)
    (runs : Everywhere (fun _ l after => l.header = some .first → ShortRun (l.run after)) lines) :
    Everywhere (fun _ l after => l.header = some .first → ShortRun (l.run (after ++ others)))
      lines := by
  refine runs.imp fun before l after member short opens => ?_
  rw [Line.run_append fun m first => ends m first l.level (nests.deep l member)]
  exact short opens

/-- Lines of a level do not belong to the tests of the level below. -/
theorem ends_of_starts (starts : ∀ m ∈ lines.head?, m.level = level) :
    ∀ m ∈ lines.head?, ∀ n ≥ level + 1, m.staysAt n = false := by
  intro m first n deep
  have stands := starts m first
  rw [Line.staysAt, Bool.or_eq_false_iff, Bool.and_eq_false_iff]
  constructor
  · simp only [decide_eq_false_iff_not]
    omega
  · left
    simp only [decide_eq_false_iff_not]
    omega

/-- Each first test starts a short run. -/
theorem runs (nests : Nests bound part level lines) :
    Everywhere (fun _ l after => l.header = some .first → ShortRun (l.run after)) lines := by
  induction nests with
  | nil => exact everywhere_nil
  | line stands inside plain others ih => exact everywhere_cons.mpr ⟨by simp [plain], ih⟩
  | @choice level opener body tail rest stands inside _ short filled inner more others innerIH
      moreIH othersIH =>
    rw [everywhere_cons, everywhere_append, everywhere_append]
    refine ⟨fun _ => ?_, inner.everywhere_run_append (ends_of_starts ?_) innerIH,
      more.everywhere_run_append others.staysAt_eq_false moreIH, othersIH⟩
    · have deep : ∀ m ∈ rest.head?, m.staysAt opener.level = false :=
        fun m first => others.staysAt_eq_false m first _ (Nat.le_of_eq stands.symm)
      rw [← List.append_assoc, Line.run_append deep]
      exact short
    · intro m first
      rw [List.head?_append, Option.mem_def, Option.or_eq_some_iff] at first
      rcases first with first | ⟨-, first⟩
      · exact more.starts m first
      · exact others.starts m first
  | further stands inside opens filled inner more innerIH moreIH =>
    rw [everywhere_cons, everywhere_append]
    have ends := ends_of_starts more.starts
    exact ⟨by simp [opens], inner.everywhere_run_append ends innerIH, moreIH⟩
  | otherwise stands inside opens filled inner innerIH =>
    exact everywhere_cons.mpr ⟨by simp [opens], innerIH⟩

/-- The rules give lines that form blocks. -/
theorem wellNested (nests : Nests bound .block level lines) : WellNested lines where
  steps := nests.stepped.steps
  ends := nests.stepped.ends
  continues := nests.continued
  runs := nests.runs

/-- A header that opens no choice, in front of a block. -/
theorem wellNested_cons {l : Line} (opens : l.header = some .function) (filled : lines ≠ [])
    (inner : Nests bound .block (l.level + 1) lines) : WellNested (l :: lines) := by
  have within := inner.wellNested
  have stepped := inner.stepped.cons (by simp [opens]) filled inner.starts
  refine ⟨stepped.steps, stepped.ends, everywhere_cons.mpr ⟨by simp [opens], ?_⟩,
    everywhere_cons.mpr ⟨by simp [opens], within.runs⟩⟩
  exact within.continues.imp fun before m _ _ continued later => (continued later).append_left [l]

end Nests

end KeyTree.Source
