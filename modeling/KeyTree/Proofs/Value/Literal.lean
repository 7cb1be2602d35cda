/-
# Literals read back

The literal of a plain scalar — the absent value, a truth value, an integer or a plain text —
reads back as the value. The values that are reported on a miss have different literals.

* `Value.isPlain` — the plain scalars.
* `readPlain?_literalText` — their literals.
* `missValue_mem`, `literalText_missValue_inj` — the values reported on a miss.
* `literalFault?_of_isPlain`, `literalFault?_missValue` — which of them have a literal.
* `Value.HasLiteral`, `Value.literalFault?_eq_none_iff` — which values have a literal at all.
-/

import KeyTree.Proofs.Text.Quoted
import KeyTree.Text.Blank
import KeyTree.Value.Kind
import KeyTree.Value.Literal
import Mathlib.Data.List.Nodup
import Std.Data.String.ToInt

namespace KeyTree

open KeyTree.Text

namespace Value

/-- Whether a value is absent, a truth value, an integer or a plain text. -/
def isPlain : Value → Bool
  | .none => true
  | .bool _ => true
  | .int _ => true
  | .str _ => true
  | _ => false

/-- The plain scalar that a literal denotes. -/
def readPlain? (literal : String) : Option Value :=
  if literal = "None" then some .none
  else if literal = "True" then some (.bool true)
  else if literal = "False" then some (.bool false)
  else
    match unquote? literal.toList with
    | some s => some (.str (String.ofList s))
    | Option.none => literal.toInt?.map .int

/-! ### Integers -/

/-- An integer is written with digits and a sign. -/
theorem sign_or_digit_of_mem {n : Int} {c : Char} (member : c ∈ (toString n).toList) :
    c = '-' ∨ c.isDigit = true := by
  rw [Int.toString_eq_repr, Int.repr_eq_if] at member
  have digits {m : Nat} (inside : c ∈ m.repr.toList) : c.isDigit = true := by
    rw [Nat.toList_repr] at inside
    exact Nat.isDigit_of_mem_toDigits (by decide) (by decide) inside
  split at member
  · exact .inr (digits member)
  · rw [String.toList_append] at member
    rcases List.mem_append.mp member with sign | inside
    · exact .inl (by simpa using sign)
    · exact .inr (digits inside)

/-- A sign or a digit has a printed form, and is no letter, blank or mark. -/
theorem of_sign_or_digit {c : Char} (part : c = '-' ∨ c.isDigit = true) :
    isPrintable c = true ∧ c.toNat < 0x3A ∧ 0x27 < c.toNat := by
  have bounds : 0x2D ≤ c.toNat ∧ c.toNat < 0x3A := by
    rcases part with rfl | digit
    · decide
    · simp only [Char.isDigit, Bool.and_eq_true, decide_eq_true_eq] at digit
      have low : 0x30 ≤ c.toNat := UInt32.le_iff_toNat_le.mp digit.1
      have high : c.toNat ≤ 0x39 := UInt32.le_iff_toNat_le.mp digit.2
      omega
  refine ⟨?_, bounds.2, by omega⟩
  rw [isPrintable, if_pos (by omega)]
  simp only [Bool.and_eq_true, decide_eq_true_eq]
  omega

/-- An integer reads back as itself. -/
theorem readPlain?_int (n : Int) : readPlain? (toString n) = some (.int n) := by
  have small {c : Char} (member : c ∈ (toString n).toList) : c.toNat < 0x3A ∧ 0x27 < c.toNat :=
    (of_sign_or_digit (sign_or_digit_of_mem member)).2
  have letter {word : String} (c : Char) (inside : c ∈ word.toList) (large : 0x3A ≤ c.toNat) :
      toString n ≠ word := by
    rintro rfl
    exact absurd (small inside).1 (Nat.not_lt.mpr large)
  have unquoted : unquote? (toString n).toList = Option.none := by
    cases chars : (toString n).toList with
    | nil => rfl
    | cons c rest =>
      have above := (small (chars ▸ List.mem_cons_self : c ∈ (toString n).toList)).2
      rw [unquote?, if_neg]
      rintro (rfl | rfl)
      · exact absurd above (by decide)
      · exact absurd above (by decide)
  rw [readPlain?, if_neg (letter 'N' (by decide) (by decide)),
    if_neg (letter 'T' (by decide) (by decide)), if_neg (letter 'F' (by decide) (by decide)),
    unquoted, Int.toString_eq_repr, Int.toInt?_repr]
  rfl

/-! ### Plain scalars -/

/-- A quoted text reads back as the text. -/
theorem readPlain?_quote (s : String) : readPlain? (quote s) = some (.str s) := by
  have mark {word : String} (c : Char) (first : word.toList.head? = some c)
      (large : 0x3A ≤ c.toNat) : quote s ≠ word := by
    rintro rfl
    rw [quote, String.toList_ofList, quoteChars, List.head?_cons] at first
    obtain rfl := Option.some.inj first
    rcases quoteMark_eq s.toList with eq | eq
    all_goals
      rw [eq] at large
      exact absurd large (by decide)
  rw [readPlain?, if_neg (mark 'N' rfl (by decide)), if_neg (mark 'T' rfl (by decide)),
    if_neg (mark 'F' rfl (by decide)), quote, String.toList_ofList, unquote?_quoteChars]
  dsimp only
  rw [String.ofList_toList]

/-- The literal of a plain scalar reads back as the scalar. -/
theorem readPlain?_literalText {v : Value} (plain : v.isPlain = true) :
    readPlain? v.literalText = some v := by
  cases v with
  | none => rfl
  | bool b => cases b <;> rfl
  | int n => exact readPlain?_int n
  | str s => exact readPlain?_quote s
  | _ => cases plain

/-- The literal of a plain scalar consists of characters that have printed forms. -/
theorem isPrintable_of_mem_literalText {v : Value} (plain : v.isPlain = true) {c : Char}
    (member : c ∈ v.literalText.toList) : isPrintable c = true := by
  cases v with
  | none =>
    have word : "None".toList.all isPrintable = true := by decide
    exact List.all_eq_true.mp word c member
  | bool b =>
    have words : ∀ b, (boolText b).toList.all isPrintable = true := by decide
    exact List.all_eq_true.mp (words b) c member
  | int n => exact (of_sign_or_digit (sign_or_digit_of_mem member)).1
  | str s =>
    change c ∈ (quote s).toList at member
    rw [quote, String.toList_ofList] at member
    exact isPrintable_of_mem_quoteChars member
  | _ => cases plain

/-- The literal of a plain scalar names no class. -/
theorem namedClass?_of_isPlain {v : Value} (plain : v.isPlain = true) :
    v.namedClass? = Option.none := by
  cases v with
  | none | bool | int | str => rfl
  | _ => cases plain

end Value

/-- A text in its plain form is shown in quotes. -/
theorem Text.display_of_plain {t : Text} (plain : t.form = .plain) :
    t.display = Text.quote t.content := by
  rw [Text.display, Text.toValue, plain]
  rfl

namespace Value

/-! ### Values reported on a miss -/

/-- The values that are reported on a miss. -/
def missValues : List Value := [.none, .bool false, .int 0, .float (.zero false), .str ""]

/-- No other values are reported on a miss. -/
theorem missValue_mem (valueType : Value) : missValue valueType ∈ missValues := by
  unfold missValue
  split
  · rename_i kind _
    cases kind <;> simp [ValueKind.missValue, missValues]
  · simp [missValues]

/-- They name no classes. -/
theorem namedClass?_missValue (valueType : Value) :
    (missValue valueType).namedClass? = Option.none := by
  have scalars : ∀ v ∈ missValues, v.namedClass? = Option.none := by
    simp [missValues, namedClass?]
  exact scalars _ (missValue_mem valueType)

/-- Their literals. -/
theorem map_literalText_missValues :
    missValues.map literalText = ["None", "False", "0", "0.0", "''"] := by
  cbv

/-- Different values that are reported on a miss have different literals. -/
theorem literalText_missValue_inj {valueType valueType' : Value}
    (same : (missValue valueType).literalText = (missValue valueType').literalText) :
    missValue valueType = missValue valueType' := by
  have distinct : (missValues.map literalText).Nodup := by
    rw [map_literalText_missValues]
    decide
  exact List.inj_on_of_nodup_map distinct (missValue_mem _) (missValue_mem _) same

/-- The literal of a value reported on a miss ends in a character that is no blank, and holds no
line end. -/
theorem literalText_missValue_bounds (valueType : Value) :
    (∃ front last, (missValue valueType).literalText.toList = front ++ [last] ∧
      isBlank last = false) ∧ '\n' ∉ (missValue valueType).literalText.toList := by
  have member : (missValue valueType).literalText ∈ ["None", "False", "0", "0.0", "''"] := by
    rw [← map_literalText_missValues]
    exact List.mem_map_of_mem (missValue_mem valueType)
  have words : ∀ w ∈ ["None", "False", "0", "0.0", "''"],
      w.toList.getLast?.any (!isBlank ·) = true ∧ '\n' ∉ w.toList := by decide
  obtain ⟨ends, feed⟩ := words _ member
  obtain ⟨last, found, solid⟩ := (Option.any_eq_true _ _).mp ends
  obtain ⟨front, whole⟩ := List.getLast?_eq_some_iff.mp found
  exact ⟨⟨front, last, whole, by simpa using solid⟩, feed⟩

end Value

/-! ### What has a literal -/

/-- An integer has a literal unless it is too long. -/
theorem literalFault?_int_eq_none_iff {n : Int} :
    (Value.int n).literalFault? = none ↔ n.natAbs < Value.longInteger := by
  rw [Value.literalFault?, Value.isTooLong]
  simp only [decide_eq_true_eq]
  split
  · rename_i long
    exact iff_of_false nofun (Nat.not_lt.mpr long)
  · rename_i short
    exact iff_of_true rfl (Nat.lt_of_not_le short)

/-- An integer of one digit has a literal. -/
theorem literalFault?_int {n : Int} (short : n.natAbs < 10) :
    (Value.int n).literalFault? = none := by
  have ten {digits : Nat} (some : 1 ≤ digits) : 10 ^ 1 ≤ tenPow digits :=
    Nat.pow_le_pow_right (by decide) some
  exact literalFault?_int_eq_none_iff.mpr
    (Nat.lt_of_lt_of_le short (ten (by decide : 1 ≤ Value.digitLimit)))

/-- A plain scalar has a literal unless it is an integer that is too long. -/
theorem literalFault?_of_isPlain {v : Value} (plain : v.isPlain = true) :
    v.literalFault? = none ↔ ∀ i, v = .int i → i.natAbs < Value.longInteger := by
  cases v with
  | int n => simp only [literalFault?_int_eq_none_iff, Value.int.injEq, forall_eq']
  | none | bool | str => exact iff_of_true rfl nofun
  | _ => cases plain

/-- The value reported on a miss has a literal, whatever type the values are declared to
have. -/
theorem literalFault?_missValue (valueType : Value) :
    (missValue valueType).literalFault? = none := by
  unfold missValue
  split
  · rename_i kind _
    cases kind with
    | int => exact literalFault?_int (by decide)
    | any | bool | float | str | type => rfl
  · rfl

/-! ### The values with a literal -/

/-- Characters occur within others when these can be split around them. -/
theorem occursIn_eq_true_iff {part s : List Char} : occursIn part s = true ↔ part <:+: s := by
  induction s with
  | nil => rw [occursIn, List.infix_nil, List.isEmpty_iff]
  | cons c rest ih =>
    rw [occursIn, Bool.or_eq_true, List.isPrefixOf_iff_prefix, ih, List.infix_cons_iff]

/-- A class is local when its qualified name tells so. -/
theorem ClassName.isLocal_eq_true_iff {c : ClassName} :
    c.isLocal = true ↔ "<locals>".toList <:+: c.qualname.toList :=
  occursIn_eq_true_iff

namespace Value

/-- The values that have a literal: the plain scalars but for integers of too many digits, finite
floating-point numbers, and the classes that are not local, with the members of those that are
enumerations. -/
inductive HasLiteral : Value → Prop where
  | none : HasLiteral .none
  | bool (b : Bool) : HasLiteral (.bool b)
  | int {n : Int} (short : n.natAbs < longInteger) : HasLiteral (.int n)
  | str (s : String) : HasLiteral (.str s)
  | float {x : Binary64} (finite : x.isFinite = true) : HasLiteral (.float x)
  | cls {c : ClassName} (outside : ¬ "<locals>".toList <:+: c.qualname.toList) :
      HasLiteral (.cls c)
  | member {c : ClassName} {kind : EnumKind} {name : String} {value : Value}
      (outside : ¬ "<locals>".toList <:+: c.qualname.toList) :
      HasLiteral (.member c kind name value)

/-- A value has no fault when it has a literal. -/
theorem literalFault?_eq_none_iff {v : Value} : v.literalFault? = Option.none ↔ v.HasLiteral := by
  constructor
  · intro sound
    cases v with
    | none => exact .none
    | bool b => exact .bool b
    | str s => exact .str s
    | int n => exact .int (literalFault?_int_eq_none_iff.mp sound)
    | float x =>
      rw [literalFault?] at sound
      by_cases finite : x.isFinite = true
      · exact .float finite
      · rw [if_neg finite] at sound
        cases sound
    | cls c =>
      refine .cls fun inside => ?_
      rw [literalFault?, if_pos (ClassName.isLocal_eq_true_iff.mpr inside)] at sound
      cases sound
    | member c kind name value =>
      refine .member fun inside => ?_
      rw [literalFault?, if_pos (ClassName.isLocal_eq_true_iff.mpr inside)] at sound
      cases sound
    | _ => cases sound
  · intro literal
    cases literal with
    | none | bool | str => rfl
    | int short => exact literalFault?_int_eq_none_iff.mpr short
    | float finite => rw [literalFault?, if_pos finite]
    | cls outside | member outside =>
      rw [literalFault?, if_neg (mt ClassName.isLocal_eq_true_iff.mp outside)]

/-- The fault of a value is that it cannot be shown when it is or holds an integer of too many
digits, and names no class. -/
theorem literalFault?_eq_tooLong_iff {v : Value} :
    v.literalFault? = some .tooLong ↔ v.isTooLong = true ∧ v.namedClass? = Option.none := by
  have other {v : Value} :
      some (LiteralFault.ofValue v) = some .tooLong ↔ v.isTooLong = true := by
    rw [LiteralFault.ofValue]
    cases v.isTooLong <;> simp
  cases v with
  | none | bool | str => exact iff_of_false nofun (fun both => nomatch both.1)
  | int n =>
    rw [literalFault?]
    cases (Value.int n).isTooLong <;> simp [namedClass?]
  | float x =>
    rw [literalFault?]
    cases x.isFinite <;> simp [isTooLong]
  | cls c =>
    rw [literalFault?]
    cases c.isLocal <;> simp [namedClass?]
  | member c kind name value =>
    rw [literalFault?]
    cases c.isLocal <;> simp [namedClass?]
  | _ => exact other.trans ⟨fun long => ⟨long, rfl⟩, And.left⟩

end Value

end KeyTree
