/-
# Underscores in normal forms

ASCII characters behind a text keep apart from it: they stand for themselves, no mark is moved
over them, and none is the second character of a pair that composes. The underscore begins no
such pair either, so it keeps apart from a text behind it.

* `composition?_eq_some` — what the table of compositions has no pairs of.
* `commonForm` — the three steps of a normal form.
* `commonForm_append` — ASCII characters behind a text stay behind its normal form.
* `commonForm_underscore_cons` — an underscore in front of a text stays in front.
-/

import KeyTree.Text.NormalForm

namespace KeyTree.Text

/-! ### What the tables say of ASCII characters -/

/-- An ASCII character is no mark. -/
theorem combiningClass_of_ascii {c : Char} (ascii : c.toNat < 0x80) : combiningClass c = 0 := by
  have beyond : ∀ s ∈ combiningSpans, 0x80 ≤ s.1 := by decide +kernel
  have none : (combiningSpans.find? fun s => s.1 ≤ c.toNat && c.toNat ≤ s.2.1) = none := by
    refine List.find?_eq_none.mpr fun s member => ?_
    have := beyond s member
    simp only [Bool.and_eq_true, decide_eq_true_eq]
    omega
  rw [combiningClass, none]

/-- An ASCII character stands for itself. -/
theorem decompose_cons_of_ascii {c : Char} (ascii : c.toNat < 0x80) (s : List Char) :
    decompose (c :: s) = c :: decompose s := by
  have beyond : ∀ b ∈ decompositionBlocks, 0x80 ≤ b.1 := by decide +kernel
  have whole : syllableLetters? c = none := by
    refine if_neg fun inside => ?_
    have : firstSyllable = 0xAC00 := rfl
    omega
  have none : (decompositionBlocks.find? fun b => b.1 ≤ c.toNat && c.toNat ≤ b.2.1) = none := by
    refine List.find?_eq_none.mpr fun b member => ?_
    have := beyond b member
    simp only [Bool.and_eq_true, decide_eq_true_eq]
    omega
  have same : decomposition? c = Option.none := by rw [decomposition?, none]
  rw [decompose, List.flatMap_cons, whole, same]
  rfl

/-- Whether an entry of the table of compositions composes with a character beyond ASCII, and
not from an underscore. -/
def sparesUnderscore (entry : List Char) : Bool :=
  match parts ':' entry with
  | [pair, _] =>
    match (parts '.' pair).mapM hexNumber? with
    | some [first, second] => first ≠ 0x5F && 0x80 ≤ second
    | _ => true
  | _ => true

/-- Such an entry makes no other compositions. -/
theorem entryComposition?_eq_some {first second : Nat} {entry : List Char} {c : Char}
    (spares : sparesUnderscore entry = true)
    (made : entryComposition? first second entry = some c) : 0x80 ≤ second ∧ first ≠ 0x5F := by
  unfold entryComposition? at made
  unfold sparesUnderscore at spares
  split at made
  · rename_i pair target shape
    split at made
    · rename_i codes
      simp only [shape, codes, Bool.and_eq_true, decide_eq_true_eq] at spares
      exact ⟨spares.2, spares.1⟩
    · cases made
  · cases made

/-- Whether all entries of a line spare the underscore. -/
def lineSparesUnderscore (line : List Char) : Bool :=
  (parts ' ' line).all sparesUnderscore

/-- A line given by its characters, before other lines. -/
theorem spare_cons_line {line : List Char} {rest : List String}
    (first : lineSparesUnderscore line = true)
    (others : ∀ l ∈ rest, lineSparesUnderscore l.toList = true) :
    ∀ l ∈ String.ofList line :: rest, lineSparesUnderscore l.toList = true := by
  intro l member
  rcases List.mem_cons.mp member with rfl | member
  · rwa [String.toList_ofList]
  · exact others l member

/-- A block, before other blocks. -/
theorem spare_cons_block {m n : Nat} {lines : List String} {rest : List (Nat × Nat × List String)}
    (first : ∀ l ∈ lines, lineSparesUnderscore l.toList = true)
    (others : ∀ b ∈ rest, ∀ l ∈ b.2.2, lineSparesUnderscore l.toList = true) :
    ∀ b ∈ (m, n, lines) :: rest, ∀ l ∈ b.2.2, lineSparesUnderscore l.toList = true := by
  intro b member
  rcases List.mem_cons.mp member with rfl | member
  · exact first
  · exact others b member

/-- The table of compositions spares the underscore. -/
theorem compositionBlocks_spare :
    ∀ b ∈ compositionBlocks, ∀ l ∈ b.2.2, lineSparesUnderscore l.toList = true := by
  unfold compositionBlocks
  -- The characters of a line come from its literal by unification, which is fast to check.
  repeat' first
    | exact List.forall_mem_nil _
    | refine spare_cons_line ?_ ?_
    | refine spare_cons_block ?_ ?_
  all_goals decide +kernel

/-- Letters that make a syllable are beyond ASCII. -/
theorem syllable?_eq_some {a b c : Char} (made : syllable? a b = some c) :
    0x80 ≤ b.toNat ∧ a ≠ '_' := by
  have leading : firstLeading = 0x1100 := rfl
  have vowel : firstVowel = 0x1161 := rfl
  have final : firstFinal = 0x11A7 := rfl
  have syllable : firstSyllable = 0xAC00 := rfl
  have first {n : Nat} (beyond : 0x80 ≤ n) (le : n ≤ a.toNat) : a ≠ '_' := by
    rintro rfl
    have underscore : '_'.toNat = 0x5F := rfl
    omega
  unfold syllable? at made
  dsimp only at made
  split at made
  · rename_i letters
    exact ⟨by omega, first (by omega) letters.1⟩
  · split at made
    · rename_i letters
      exact ⟨by omega, first (by omega) letters.1⟩
    · cases made

/-- A pair that composes ends in a character beyond ASCII, and the underscore does not begin
it. -/
theorem composition?_eq_some {a b c : Char} (made : composition? a b = some c) :
    0x80 ≤ b.toNat ∧ a ≠ '_' := by
  unfold composition? at made
  split at made
  · rename_i syllable found
    cases made
    exact syllable?_eq_some found
  · unfold tableComposition? at made
    split at made
    · rename_i m n lines found
      obtain ⟨entry, member, entryMade⟩ := List.exists_of_findSome?_eq_some made
      obtain ⟨line, inside, part⟩ := List.mem_flatMap.mp member
      have spares := compositionBlocks_spare _ (List.mem_of_find?_eq_some found) line inside
      obtain ⟨second, first⟩ :=
        entryComposition?_eq_some (List.all_eq_true.mp spares entry part) entryMade
      exact ⟨second, fun eq => first (congrArg Char.toNat eq)⟩
    · cases made

/-! ### The order of marks -/

/-- An ASCII character stays behind everything. -/
theorem insertMark_of_ascii {c : Char} (ascii : c.toNat < 0x80) (s : List Char) :
    insertMark c s = c :: s := by
  cases s with
  | nil => rfl
  | cons d rest =>
    rw [insertMark, combiningClass_of_ascii ascii]
    exact if_neg fun mark => absurd mark.1 (Nat.lt_irrefl 0)

/-- ASCII characters behind a text stay behind its ordered form. -/
theorem orderMarks_append {suffix : List Char} (ascii : ∀ c ∈ suffix, c.toNat < 0x80)
    (s : List Char) : orderMarks (s ++ suffix) = orderMarks s ++ suffix := by
  have folded (done : List Char) :
      suffix.foldl (fun done c => insertMark c done) done = suffix.reverse ++ done := by
    induction suffix generalizing done with
    | nil => rfl
    | cons c rest ih =>
      rw [List.foldl_cons, insertMark_of_ascii (ascii c List.mem_cons_self),
        ih fun d member => ascii d (List.mem_cons_of_mem _ member)]
      simp
  rw [orderMarks, List.foldl_append, folded, List.reverse_append, List.reverse_reverse, orderMarks]

/-- No mark is moved over an ASCII character in front. -/
theorem insertMark_append_of_ascii {first : Char} (ascii : first.toNat < 0x80) (c : Char)
    (s : List Char) : insertMark c (s ++ [first]) = insertMark c s ++ [first] := by
  induction s with
  | nil =>
    refine if_neg fun mark => ?_
    rw [combiningClass_of_ascii ascii] at mark
    exact absurd mark.2 (Nat.not_lt_zero _)
  | cons d rest ih =>
    rw [List.cons_append, insertMark, insertMark, ih]
    split
    · rfl
    · rfl

/-- An ASCII character in front of a text stays in front of its ordered form. -/
theorem orderMarks_cons {first : Char} (ascii : first.toNat < 0x80) (s : List Char) :
    orderMarks (first :: s) = first :: orderMarks s := by
  have folded (done : List Char) :
      s.foldl (fun done c => insertMark c done) (done ++ [first])
        = s.foldl (fun done c => insertMark c done) done ++ [first] := by
    induction s generalizing done with
    | nil => rfl
    | cons c rest ih => rw [List.foldl_cons, insertMark_append_of_ascii ascii, ih, List.foldl_cons]
  have all := folded []
  rw [List.nil_append] at all
  rw [orderMarks, List.foldl_cons, insertMark, all, List.reverse_append, orderMarks]
  rfl

/-! ### Composition -/

namespace Composing

/-- An ASCII character is added behind everything. -/
theorem chars_add_of_ascii (t : Composing) {c : Char} (ascii : c.toNat < 0x80) :
    (t.add c).chars = c :: t.chars := by
  have alone (letter : Char) : composition? letter c = none := by
    cases made : composition? letter c with
    | none => rfl
    | some d => exact absurd (composition?_eq_some made).1 (Nat.not_le.mpr ascii)
  unfold add
  cases letter : t.letter <;> simp [alone, combiningClass_of_ascii ascii, chars]

/-- A text that is being composed, behind an underscore. -/
def behindUnderscore (t : Composing) : Composing :=
  match t.letter with
  | none => { t with letter := some '_' }
  | some _ => { t with done := t.done ++ ['_'] }

/-- Nothing stands before the last letter of a text without letters. -/
def Begun (t : Composing) : Prop := t.letter = none → t.done = []

/-- A text stays begun when a character is added. -/
theorem Begun.add {t : Composing} (begun : t.Begun) (c : Char) : (t.add c).Begun := by
  unfold Composing.add
  dsimp only
  split
  · exact fun other => nomatch other
  · split
    · exact fun other => nomatch other
    · exact begun

/-- The characters of a text behind an underscore. -/
theorem Begun.chars_behindUnderscore {t : Composing} (begun : t.Begun) :
    t.behindUnderscore.chars = t.chars ++ ['_'] := by
  unfold behindUnderscore
  cases letter : t.letter with
  | none => simp [chars, letter, begun letter]
  | some l => simp [chars, letter]

/-- What the last letter composes to with a character that is added. -/
def composedLetter? (t : Composing) (c : Char) : Option Char := do
  let letter ← t.letter
  if t.marks.head?.all fun m => combiningClass m < combiningClass c then composition? letter c
  else none

/-- A character is added to the last letter or behind it. -/
theorem add_eq (t : Composing) (c : Char) :
    t.add c = match t.composedLetter? c with
      | some letter => { t with letter := some letter }
      | none =>
        if combiningClass c = 0 then { done := t.chars, letter := some c }
        else { t with marks := c :: t.marks } :=
  rfl

/-- The underscore does not compose with what is added. -/
theorem composedLetter?_behindUnderscore (t : Composing) (c : Char) :
    t.behindUnderscore.composedLetter? c = t.composedLetter? c := by
  have alone : composition? '_' c = none := by
    cases made : composition? '_' c with
    | none => rfl
    | some d => exact absurd rfl (composition?_eq_some made).2
  unfold behindUnderscore composedLetter?
  cases letter : t.letter with
  | none => simp [alone]
  | some l => simp

/-- An underscore in front of a text stays there when a character is added. -/
theorem Begun.add_behindUnderscore {t : Composing} (begun : t.Begun) (c : Char) :
    t.behindUnderscore.add c = (t.add c).behindUnderscore := by
  rw [add_eq, add_eq, composedLetter?_behindUnderscore, begun.chars_behindUnderscore]
  cases composed : t.composedLetter? c with
  | some l =>
    obtain ⟨last, letter⟩ : ∃ last, t.letter = some last := by
      cases letter : t.letter with
      | none => simp [composedLetter?, letter] at composed
      | some last => exact ⟨last, rfl⟩
    simp [behindUnderscore, letter]
  | none =>
    by_cases starter : combiningClass c = 0
    · simp [behindUnderscore, starter]
    · cases letter : t.letter <;> simp [behindUnderscore, starter, letter]

end Composing

/-- ASCII characters behind a text stay behind its composed form. -/
theorem compose_append {suffix : List Char} (ascii : ∀ c ∈ suffix, c.toNat < 0x80)
    (s : List Char) : compose (s ++ suffix) = compose s ++ suffix := by
  have folded (t : Composing) :
      (suffix.foldl Composing.add t).chars = suffix.reverse ++ t.chars := by
    induction suffix generalizing t with
    | nil => rfl
    | cons c rest ih =>
      rw [List.foldl_cons, ih fun d member => ascii d (List.mem_cons_of_mem _ member),
        Composing.chars_add_of_ascii t (ascii c List.mem_cons_self)]
      simp
  rw [compose, List.foldl_append, folded, List.reverse_append, List.reverse_reverse, compose]

/-- An underscore in front of a text stays in front of its composed form. -/
theorem compose_underscore_cons (s : List Char) : compose ('_' :: s) = '_' :: compose s := by
  have folded {t : Composing} (begun : t.Begun) :
      (s.foldl Composing.add t.behindUnderscore).chars
        = (s.foldl Composing.add t).chars ++ ['_'] := by
    induction s generalizing t with
    | nil => exact begun.chars_behindUnderscore
    | cons c rest ih =>
      rw [List.foldl_cons, begun.add_behindUnderscore c, ih (begun.add c), List.foldl_cons]
  have start : Composing.add {} '_' = Composing.behindUnderscore {} := by
    simp [Composing.add, Composing.behindUnderscore, combiningClass_of_ascii, Composing.chars]
  rw [compose, List.foldl_cons, start, folded fun _ => rfl, List.reverse_append, compose]
  rfl

/-! ### Normal forms -/

/-- The form of a text that is not all ASCII. -/
def commonForm (s : List Char) : List Char := compose (orderMarks (decompose s))

/-- ASCII characters stand for themselves. -/
theorem decompose_of_ascii {s : List Char} (ascii : ∀ c ∈ s, c.toNat < 0x80) :
    decompose s = s := by
  induction s with
  | nil => rfl
  | cons c rest ih =>
    rw [decompose_cons_of_ascii (ascii c List.mem_cons_self),
      ih fun d member => ascii d (List.mem_cons_of_mem _ member)]

/-- ASCII characters behind a text stay behind its normal form. -/
theorem commonForm_append {suffix : List Char} (ascii : ∀ c ∈ suffix, c.toNat < 0x80)
    (s : List Char) : commonForm (s ++ suffix) = commonForm s ++ suffix := by
  have parts : decompose (s ++ suffix) = decompose s ++ suffix := by
    rw [decompose, List.flatMap_append]
    exact congrArg _ (decompose_of_ascii ascii)
  rw [commonForm, parts, orderMarks_append ascii, compose_append ascii, commonForm]

/-- An underscore in front of a text stays in front of its normal form. -/
theorem commonForm_underscore_cons (s : List Char) :
    commonForm ('_' :: s) = '_' :: commonForm s := by
  rw [commonForm, decompose_cons_of_ascii (by decide), orderMarks_cons (by decide),
    compose_underscore_cons, commonForm]

/-- The normal form of a text of ASCII characters. -/
theorem normalForm_of_ascii {s : String} (ascii : s.toList.all (·.toNat < 0x80) = true) :
    normalForm s = s :=
  if_pos ascii

/-- The normal form of any other text. -/
theorem normalForm_of_not_ascii {s : String} (other : ¬ s.toList.all (·.toNat < 0x80) = true) :
    normalForm s = String.ofList (commonForm s.toList) :=
  if_neg other

end KeyTree.Text
