/-
# Splitting a group at a difference

Dividing a group at a position where its keys differ gives at least two classes,
none empty, that hold together as many keys as the group.

* `length_byCharacter` — no key is lost or added.
* `ne_nil_of_mem_byCharacter` — no class is empty.
* `two_le_length_byCharacter` — a difference gives two classes.
-/

import KeyTree.Entry.Classes
import KeyTree.Entry.Difference
import KeyTree.Total

namespace KeyTree

section Classes

variable {κ α : Type} [DecidableEq κ] [LT κ] [DecidableLT κ]

/-- An item more in a class is an item more in all classes together. -/
theorem total_length_addToClass (k : κ) (x : α) (classes : List (κ × List α)) :
    total (fun c => c.2.length) (addToClass k x classes)
      = total (fun c => c.2.length) classes + 1 := by
  induction classes with
  | nil => rfl
  | cons c rest ih =>
    obtain ⟨k', xs⟩ := c
    by_cases same : k = k'
    · simp [addToClass, same]; omega
    · by_cases less : k < k'
      · simp [addToClass, same, less]; omega
      · simp [addToClass, same, less, ih]; omega

/-- A class of an extended division is a class before it with the item in front,
the item alone, or a class before it. -/
theorem mem_addToClass {k : κ} {x : α} {classes : List (κ × List α)} {c : κ × List α}
    (member : c ∈ addToClass k x classes) : c ∈ classes ∨ ∃ xs, c = (k, x :: xs) := by
  induction classes with
  | nil =>
    simp only [addToClass, List.mem_singleton] at member
    exact .inr ⟨[], member⟩
  | cons d rest ih =>
    obtain ⟨k', xs⟩ := d
    by_cases same : k = k'
    · subst same
      simp only [addToClass, if_true, List.mem_cons] at member
      rcases member with rfl | member
      · exact .inr ⟨xs, rfl⟩
      · exact .inl (List.mem_cons_of_mem _ member)
    · by_cases less : k < k'
      · simp only [addToClass, same, less, if_true, if_false, List.mem_cons] at member
        rcases member with rfl | rfl | member
        · exact .inr ⟨[], rfl⟩
        · exact .inl List.mem_cons_self
        · exact .inl (List.mem_cons_of_mem _ member)
      · simp only [addToClass, same, less, if_false, List.mem_cons] at member
        rcases member with rfl | member
        · exact .inl List.mem_cons_self
        · rcases ih member with member | new
          · exact .inl (List.mem_cons_of_mem _ member)
          · exact .inr new

/-- The keys of an extended division are the keys before it and the new one. -/
theorem mem_map_fst_addToClass {k k' : κ} {x : α} {classes : List (κ × List α)} :
    k' ∈ (addToClass k x classes).map Prod.fst ↔ k' = k ∨ k' ∈ classes.map Prod.fst := by
  induction classes with
  | nil => simp [addToClass]
  | cons c rest ih =>
    obtain ⟨d, xs⟩ := c
    by_cases same : k = d
    · simp [addToClass, same]
    · by_cases less : k < d
      · simp [addToClass, same, less]
      · simp only [addToClass, same, less, if_false, List.map_cons, List.mem_cons, ih]
        grind

end Classes

/-! ### Division by character -/

variable {position : Int} {entries : List Entry} {classes : List (Char × List Entry)}

/-- The division of a group with a further entry in front. -/
theorem byCharacter_cons_eq_ok {e : Entry} :
    byCharacter position (e :: entries) = .ok classes ↔
      ∃ c rest, charAt? e.chars position = some c ∧ byCharacter position entries = .ok rest ∧
        classes = addToClass c e rest := by
  cases read : charAt? e.chars position with
  | none => simp [byCharacter, read]
  | some c =>
    cases divided : byCharacter position entries with
    | error fault => simp [byCharacter, read, divided, Functor.map, Except.map]
    | ok rest =>
      simp only [byCharacter, read, divided, Functor.map, Except.map, Except.ok.injEq,
        Option.some.injEq, exists_and_left, exists_eq_left']
      exact eq_comm

/-- No entry is lost or added. -/
theorem length_byCharacter (divided : byCharacter position entries = .ok classes) :
    total (fun c => c.2.length) classes = entries.length := by
  induction entries generalizing classes with
  | nil =>
    simp only [byCharacter, Except.ok.injEq] at divided
    simp [← divided]
  | cons e rest ih =>
    obtain ⟨c, before, -, dividedRest, rfl⟩ := byCharacter_cons_eq_ok.1 divided
    rw [total_length_addToClass, ih dividedRest, List.length_cons]

/-- No class is empty. -/
theorem ne_nil_of_mem_byCharacter (divided : byCharacter position entries = .ok classes)
    {c : Char × List Entry} (member : c ∈ classes) : c.2 ≠ [] := by
  induction entries generalizing classes with
  | nil =>
    simp only [byCharacter, Except.ok.injEq] at divided
    simp [← divided] at member
  | cons e rest ih =>
    obtain ⟨d, before, -, dividedRest, rfl⟩ := byCharacter_cons_eq_ok.1 divided
    rcases mem_addToClass member with member | ⟨xs, rfl⟩
    · exact ih dividedRest member
    · simp

/-- The characters of the classes are those that some entry has at the position. -/
theorem mem_map_fst_byCharacter (divided : byCharacter position entries = .ok classes)
    {c : Char} : c ∈ classes.map Prod.fst ↔ ∃ e ∈ entries, charAt? e.chars position = some c := by
  induction entries generalizing classes with
  | nil =>
    simp only [byCharacter, Except.ok.injEq] at divided
    simp [← divided]
  | cons e rest ih =>
    obtain ⟨d, before, read, dividedRest, rfl⟩ := byCharacter_cons_eq_ok.1 divided
    rw [mem_map_fst_addToClass, ih dividedRest]
    simp only [List.mem_cons, exists_eq_or_imp, read, Option.some.injEq]
    exact or_congr_left eq_comm

/-! ### Differences -/

/-- A difference that is found is one. -/
theorem exists_of_differsAt {position : Nat} {c : Char}
    (found : differsAt position c entries = .ok true) :
    ∃ e ∈ entries, ∃ d, e.chars[position]? = some d ∧ d ≠ c := by
  induction entries with
  | nil => simp [differsAt] at found
  | cons e rest ih =>
    cases read : e.chars[position]? with
    | none => simp [differsAt, read] at found
    | some d =>
      by_cases same : d = c
      · simp only [differsAt, read, same, if_true] at found
        obtain ⟨e', member, further⟩ := ih found
        exact ⟨e', List.mem_cons_of_mem _ member, further⟩
      · exact ⟨e, List.mem_cons_self, d, read, same⟩

/-- Where the search ends, one of the others differs from the first key. -/
theorem exists_of_firstDifferenceFrom {settled : Nat → Bool} {others : List Entry}
    {start p : Nat} {remaining : List Char}
    (found : firstDifferenceFrom settled others start remaining = .ok (some p)) :
    ∃ c, start ≤ p ∧ remaining[p - start]? = some c ∧ differsAt p c others = .ok true := by
  induction remaining generalizing start with
  | nil => simp [firstDifferenceFrom] at found
  | cons c rest ih =>
    have step (found : firstDifferenceFrom settled others (start + 1) rest = .ok (some p)) :
        ∃ d, start ≤ p ∧ (c :: rest)[p - start]? = some d ∧ differsAt p d others = .ok true := by
      obtain ⟨d, le, read, differs⟩ := ih found
      refine ⟨d, by omega, ?_, differs⟩
      rw [show p - start = (p - (start + 1)) + 1 by omega, List.getElem?_cons_succ, read]
    by_cases skip : settled start
    · simp only [firstDifferenceFrom, skip, if_true] at found
      exact step found
    · cases differs : differsAt start c others with
      | error fault => simp [firstDifferenceFrom, skip, differs] at found
      | ok answer =>
        cases answer with
        | false =>
          simp only [firstDifferenceFrom, skip, differs] at found
          exact step found
        | true =>
          simp only [firstDifferenceFrom, skip, differs, Except.ok.injEq, Option.some.injEq,
            Bool.false_eq_true, if_false] at found
          subst found
          exact ⟨c, Nat.le_refl _, by simp, differs⟩

/-- A group is divided at a difference into at least two classes. -/
theorem two_le_length_byCharacter {settled : Nat → Bool} {p : Nat}
    (found : firstDifference settled entries = .ok (some p))
    (divided : byCharacter p entries = .ok classes) : 2 ≤ classes.length := by
  cases entries with
  | nil => simp [firstDifference] at found
  | cons first others =>
    obtain ⟨c, -, read, differs⟩ := exists_of_firstDifferenceFrom found
    obtain ⟨e, member, d, read', ne⟩ := exists_of_differsAt differs
    have hc : c ∈ classes.map Prod.fst :=
      (mem_map_fst_byCharacter divided).2 ⟨first, List.mem_cons_self, by simpa using read⟩
    have hd : d ∈ classes.map Prod.fst :=
      (mem_map_fst_byCharacter divided).2 ⟨e, List.mem_cons_of_mem _ member, by simpa using read'⟩
    match classes, hc, hd with
    | [], hc, _ => simp at hc
    | [_], hc, hd =>
      simp only [List.map_cons, List.map_nil, List.mem_singleton] at hc hd
      exact absurd (hd.trans hc.symm) ne
    | _ :: _ :: _, _, _ => simp

end KeyTree
