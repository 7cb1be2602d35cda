/-
# Quoted texts read back

A quoted text stands on one line and reads back as the text that was quoted: every character is
written so that the reader takes as many signs as were written for it.

* `hexNumber?_hexDigits` — the digits of a number.
* `unquoteBody?_escapeChar` — one character.
* `unquote?_quoteChars` — the whole text.
* `isPrintable_of_mem_quoteChars` — what a quoted text consists of.
-/

import KeyTree.Text.Quoted
import Mathlib.Algebra.Group.Nat.Defs
import Mathlib.Data.List.Basic
import Mathlib.Tactic.SplitIfs

namespace KeyTree.Text

/-! ### Hexadecimal digits -/

/-- A digit has its value. -/
theorem hexValue?_hexDigit : ∀ d < 16, hexValue? (hexDigit d) = some d := by
  decide

/-- A further digit adds to sixteen times the digits before it. -/
theorem hexNumber?_append (digits : List Char) (c : Char) :
    hexNumber? (digits ++ [c])
      = (hexNumber? digits).bind fun n => (hexValue? c).map (16 * n + ·) := by
  simp [hexNumber?, List.foldlM_append]

@[simp] theorem length_hexDigits (width n : Nat) : (hexDigits width n).length = width := by
  induction width generalizing n with
  | zero => rfl
  | succ width ih => rw [hexDigits, List.length_append, ih, List.length_singleton]

/-- The last digits of a number are those of its remainder. -/
theorem hexNumber?_hexDigits (width n : Nat) :
    hexNumber? (hexDigits width n) = some (n % 16 ^ width) := by
  induction width generalizing n with
  | zero => simp [hexDigits, hexNumber?, Nat.mod_one]
  | succ width ih =>
    rw [hexDigits, hexNumber?_append, ih, hexValue?_hexDigit _ (Nat.mod_lt _ (by decide)),
      Option.bind_some, Option.map_some, Nat.pow_succ, Nat.mul_comm (16 ^ width) 16, Nat.mod_mul]
    exact congrArg some (Nat.add_comm _ _)

/-- Enough digits of the code point of a character give the character. -/
theorem charOfHex?_hexDigits {width : Nat} {c : Char} (wide : c.toNat < 16 ^ width) :
    charOfHex? (hexDigits width c.toNat) = some c := by
  have valid : c.toNat.isValidChar := c.valid
  rw [charOfHex?, hexNumber?_hexDigits, Nat.mod_eq_of_lt wide]
  change charOfCode? c.toNat = some c
  rw [charOfCode?, if_pos valid, Char.ofNat_toNat]

/-! ### Characters -/

section Characters

variable {asIs : Char → Bool} {mark c : Char}

/-- A character written by its code point is read back. -/
theorem unquoteBody?_escapeCode (mark c : Char) (rest : List Char) :
    unquoteBody? mark (escapeCode c ++ rest) = (c :: ·) <$> unquoteBody? mark rest := by
  unfold escapeCode
  split_ifs with two four
  · have read := @charOfHex?_hexDigits 2 c two
    simp only [hexDigits, List.nil_append, List.cons_append] at read ⊢
    rw [unquoteBody?, read]
    rfl
  · have read := @charOfHex?_hexDigits 4 c four
    simp only [hexDigits, List.nil_append, List.cons_append] at read ⊢
    rw [unquoteBody?, read]
    rfl
  · have eight : c.toNat < 16 ^ 8 := by
      have valid : c.toNat.isValidChar := c.valid
      rcases valid with low | ⟨-, high⟩ <;> omega
    have read := @charOfHex?_hexDigits 8 c eight
    simp only [hexDigits, List.nil_append, List.cons_append] at read ⊢
    rw [unquoteBody?, read]
    rfl

/-- A character inside marks is read back. -/
theorem unquoteBody?_escapeChar (enclosing : mark = '\x27' ∨ mark = '\x22') (rest : List Char) :
    unquoteBody? mark (escapeChar asIs mark c ++ rest) = (c :: ·) <$> unquoteBody? mark rest := by
  unfold escapeChar
  split_ifs with special tab feed carriage shown
  · rcases special with rfl | rfl
    · rcases enclosing with rfl | rfl <;> rfl
    · rfl
  · rw [tab]
    rfl
  · rw [feed]
    rfl
  · rw [carriage]
    rfl
  · obtain ⟨other, slash⟩ := not_or.mp special
    -- The reader takes a character as it is when it is none of those that are escaped.
    rw [List.singleton_append, unquoteBody?]
    · rw [if_neg other, if_neg (by simp [feed, carriage, slash])]
    all_goals simp [slash]
  · exact unquoteBody?_escapeCode mark c rest

/-- A digit has a printed form. -/
theorem isPrintable_hexDigit : ∀ d < 16, isPrintable (hexDigit d) = true := by
  decide

/-- Digits have printed forms. -/
theorem isPrintable_of_mem_hexDigits {width n : Nat} (member : c ∈ hexDigits width n) :
    isPrintable c = true := by
  induction width generalizing n with
  | zero => exact absurd member List.not_mem_nil
  | succ width ih =>
    rcases List.mem_append.mp member with before | last
    · exact ih before
    · rw [List.mem_singleton.mp last]
      exact isPrintable_hexDigit _ (Nat.mod_lt _ (by decide))

/-- A character is written with characters that have printed forms. -/
theorem isPrintable_of_mem_escapeChar (enclosing : mark = '\x27' ∨ mark = '\x22') {d : Char}
    (member : d ∈ escapeChar isPrintable mark c) : isPrintable d = true := by
  have slash : isPrintable '\\' = true := by decide
  unfold escapeChar at member
  split_ifs at member with special tab feed carriage shown
  · rcases List.mem_cons.mp member with rfl | member
    · exact slash
    · rw [List.mem_singleton.mp member]
      rcases special with rfl | rfl
      · rcases enclosing with rfl | rfl <;> decide
      · exact slash
  · rcases List.mem_pair.mp member with rfl | rfl <;> decide
  · rcases List.mem_pair.mp member with rfl | rfl <;> decide
  · rcases List.mem_pair.mp member with rfl | rfl <;> decide
  · rwa [List.mem_singleton.mp member]
  · unfold escapeCode at member
    split_ifs at member with two four
    all_goals
      simp only [List.mem_cons] at member
      rcases member with rfl | rfl | digit
      · decide
      · decide
      · exact isPrintable_of_mem_hexDigits digit

end Characters

/-! ### Texts -/

/-- The mark is one of the two that enclose texts. -/
theorem quoteMark_eq (s : List Char) : quoteMark s = '\x27' ∨ quoteMark s = '\x22' := by
  unfold quoteMark
  split
  · exact .inr rfl
  · exact .inl rfl

/-- The inside of a quoted text is read back, up to the mark behind it. -/
theorem unquoteBody?_flatMap {asIs : Char → Bool} {mark : Char}
    (enclosing : mark = '\x27' ∨ mark = '\x22') (s : List Char) :
    unquoteBody? mark (s.flatMap (escapeChar asIs mark) ++ [mark]) = some s := by
  induction s with
  | nil => rcases enclosing with rfl | rfl <;> rfl
  | cons c rest ih =>
    rw [List.flatMap_cons, List.append_assoc, unquoteBody?_escapeChar enclosing, ih]
    rfl

/-- A quoted text is read back. -/
theorem unquote?_quoteChars (asIs : Char → Bool) (s : List Char) :
    unquote? (quoteChars asIs s) = some s := by
  rw [quoteChars, unquote?, if_pos (quoteMark_eq s)]
  exact unquoteBody?_flatMap (quoteMark_eq s) s

/-- A quoted text consists of characters that have printed forms. -/
theorem isPrintable_of_mem_quoteChars {s : List Char} {d : Char}
    (member : d ∈ quoteChars isPrintable s) : isPrintable d = true := by
  have mark : isPrintable (quoteMark s) = true := by
    rcases quoteMark_eq s with eq | eq <;> rw [eq] <;> decide
  rcases List.mem_cons.mp member with rfl | member
  · exact mark
  · rcases List.mem_append.mp member with inside | last
    · obtain ⟨c, -, written⟩ := List.mem_flatMap.mp inside
      exact isPrintable_of_mem_escapeChar (quoteMark_eq s) written
    · rwa [List.mem_singleton.mp last]

end KeyTree.Text
