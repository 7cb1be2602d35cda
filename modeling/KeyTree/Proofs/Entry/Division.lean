/-
# Divisions into classes

What dividing entries by their length or by a character gives. Nothing of the order of
the declaration shows in the sequence of the classes; it only survives inside each
class.

* `Division` — ascending classes that keep the order of the items and lose none.
* `Division.add` — putting one item in front of its class keeps a division.
* `division_byLength`, `division_byCharacter` — the two divisions of entries.
* `Division.keys_eq`, `Division.classes_eq` — the sequence of the classes depends on the items
  as a set only.
-/

import KeyTree.Entry.Split
import Mathlib.Data.Char
import Mathlib.Data.List.Perm.Basic
import Mathlib.Order.RelClasses

namespace KeyTree

/-- What is made of the keys of classes is related for classes with the same keys. -/
theorem forall₂_map_keys {κ α β γ : Type} {R : β → γ → Prop}
    {classes classes' : List (κ × List α)} (f : κ → β) (f' : κ → γ)
    (keys : classes.map Prod.fst = classes'.map Prod.fst)
    (related : ∀ k ∈ classes.map Prod.fst, R (f k) (f' k)) :
    List.Forall₂ R (classes.map fun c => f c.1) (classes'.map fun c => f' c.1) := by
  have made : List.Forall₂ R ((classes.map Prod.fst).map f) ((classes'.map Prod.fst).map f') := by
    rw [← keys, List.forall₂_map_left_iff, List.forall₂_map_right_iff, List.forall₂_same]
    exact related
  rwa [List.map_map, List.map_map] at made

section Division

variable {κ α : Type} [DecidableEq κ] [LT κ]

/-- `classes` divides `items` by `key`: the classes come in ascending order, none is
empty, each holds the items with its key in the order given, every item has the key of
some class, and together the classes hold every item once. -/
structure Division (key : α → Option κ) (items : List α) (classes : List (κ × List α)) : Prop where
  ascending : (classes.map Prod.fst).Pairwise (· < ·)
  nonempty : ∀ c ∈ classes, c.2 ≠ []
  filtered : ∀ c ∈ classes, c.2 = items.filter (key · = some c.1)
  covered : ∀ x ∈ items, ∃ k ∈ classes.map Prod.fst, key x = some k
  whole : (classes.flatMap Prod.snd).Perm items

namespace Division

variable {key : α → Option κ} {items : List α} {classes : List (κ × List α)}

/-- No items make no classes. -/
theorem nil (key : α → Option κ) : Division key [] [] where
  ascending := by simp
  nonempty := by simp
  filtered := by simp
  covered := by simp
  whole := by simp

/-- A class holds exactly the items with its key. -/
theorem mem_class_iff (d : Division key items classes) {c : κ × List α} (member : c ∈ classes)
    {x : α} : x ∈ c.2 ↔ x ∈ items ∧ key x = some c.1 := by
  rw [d.filtered c member, List.mem_filter, decide_eq_true_eq]

/-- A class keeps the order of the items. -/
theorem class_sublist (d : Division key items classes) {c : κ × List α} (member : c ∈ classes) :
    c.2.Sublist items := by
  rw [d.filtered c member]
  exact List.filter_sublist

/-- The items of a class are items. -/
theorem mem_of_mem_class (d : Division key items classes) {c : κ × List α} (member : c ∈ classes)
    {x : α} (inside : x ∈ c.2) : x ∈ items :=
  ((d.mem_class_iff member).mp inside).1

/-- The keys of the classes are those of the items. -/
theorem mem_keys_iff (d : Division key items classes) {k : κ} :
    k ∈ classes.map Prod.fst ↔ ∃ x ∈ items, key x = some k := by
  constructor
  · intro member
    obtain ⟨c, hc, rfl⟩ := List.mem_map.mp member
    obtain ⟨x, hx⟩ := List.exists_mem_of_ne_nil _ (d.nonempty c hc)
    exact ⟨x, (d.mem_class_iff hc).mp hx⟩
  · rintro ⟨x, hx, eq⟩
    obtain ⟨k', member, eq'⟩ := d.covered x hx
    rw [eq] at eq'
    exact Option.some.inj eq' ▸ member

section Order

variable [IsStrictTotalOrder κ (· < ·)]

/-- The keys of the classes are different. -/
theorem keys_nodup (d : Division key items classes) : (classes.map Prod.fst).Nodup := by
  refine List.Pairwise.imp ?_ d.ascending
  intro a b less eq
  exact irrefl_of (· < ·) b (eq ▸ less)

/-- Divisions whose items have the same keys have the same sequence of keys. -/
theorem keys_eq {items' : List α} {classes' : List (κ × List α)} (d : Division key items classes)
    (d' : Division key items' classes')
    (same : ∀ k, (∃ x ∈ items, key x = some k) ↔ ∃ x ∈ items', key x = some k) :
    classes.map Prod.fst = classes'.map Prod.fst := by
  have perm : (classes.map Prod.fst).Perm (classes'.map Prod.fst) :=
    (List.perm_ext_iff_of_nodup d.keys_nodup d'.keys_nodup).mpr fun k => by
      rw [d.mem_keys_iff, d'.mem_keys_iff, same k]
  exact perm.eq_of_pairwise (fun a b _ _ ab ba => absurd ab (asymm_of (· < ·) ba))
    d.ascending d'.ascending

/-- Divisions whose items have the same keys have a class for each key in both. -/
theorem classes_eq {items' : List α} {classes' : List (κ × List α)} (d : Division key items classes)
    (d' : Division key items' classes')
    (same : ∀ k, (∃ x ∈ items, key x = some k) ↔ ∃ x ∈ items', key x = some k) :
    classes.map Prod.fst = classes'.map Prod.fst ∧
      ∀ k ∈ classes.map Prod.fst, (k, items.filter (key · = some k)) ∈ classes ∧
        (k, items'.filter (key · = some k)) ∈ classes' := by
  have keys := d.keys_eq d' same
  refine ⟨keys, ?_⟩
  intro k member
  obtain ⟨c, inside, rfl⟩ := List.mem_map.mp member
  obtain ⟨c', inside', eq⟩ := List.mem_map.mp (keys ▸ member)
  rw [← d.filtered c inside, ← eq, ← d'.filtered c' inside']
  exact ⟨eq ▸ inside, inside'⟩

end Order

end Division

/-! ### Putting an item in front of its class -/

variable [DecidableLT κ]

/-- The classes of an extended division hold one item more. -/
theorem flatMap_addToClass_perm (k : κ) (x : α) (classes : List (κ × List α)) :
    ((addToClass k x classes).flatMap Prod.snd).Perm (x :: classes.flatMap Prod.snd) := by
  induction classes with
  | nil => simp [addToClass]
  | cons c rest ih =>
    obtain ⟨k', xs⟩ := c
    by_cases same : k = k'
    · simp [addToClass, same]
    · by_cases less : k < k'
      · simp [addToClass, same, less]
      · simp only [addToClass, same, less, if_false, List.flatMap_cons]
        exact (ih.append_left xs).trans List.perm_middle

variable [IsStrictTotalOrder κ (· < ·)]

/-- The classes of an extended division stay in ascending order. -/
theorem ascending_addToClass {k : κ} {x : α} {classes : List (κ × List α)}
    (ascending : (classes.map Prod.fst).Pairwise (· < ·)) :
    ((addToClass k x classes).map Prod.fst).Pairwise (· < ·) := by
  induction classes with
  | nil => simp [addToClass]
  | cons c rest ih =>
    obtain ⟨k', xs⟩ := c
    obtain ⟨head, tail⟩ := List.pairwise_cons.mp ascending
    by_cases same : k = k'
    · simpa [addToClass, same] using ⟨fun a b h => head a (List.mem_map_of_mem h), tail⟩
    · by_cases less : k < k'
      · simp only [addToClass, same, less, if_true, if_false, List.map_cons]
        refine List.pairwise_cons.mpr ⟨fun j member => ?_, ascending⟩
        rcases List.mem_cons.mp member with rfl | member
        · exact less
        · exact trans_of (· < ·) less (head j member)
      · have greater : k' < k :=
        ((trichotomous_of (· < ·) k k').resolve_left less).resolve_left same
        simp only [addToClass, same, less, if_false, List.map_cons]
        refine List.pairwise_cons.mpr ⟨fun j member => ?_, ih tail⟩
        rcases mem_map_fst_addToClass.mp member with rfl | member
        · exact greater
        · exact head j member

/-- A class of an extended division is an old class of another key, or it starts with
the new item and goes on with the old class of its key, if there was one. -/
theorem mem_addToClass_cases {k : κ} {x : α} {classes : List (κ × List α)} {c : κ × List α}
    (ascending : (classes.map Prod.fst).Pairwise (· < ·)) (member : c ∈ addToClass k x classes) :
    (c ∈ classes ∧ c.1 ≠ k) ∨
      ∃ xs, c = (k, x :: xs) ∧ ((k, xs) ∈ classes ∨ xs = [] ∧ k ∉ classes.map Prod.fst) := by
  induction classes with
  | nil =>
    rw [addToClass, List.mem_singleton] at member
    exact .inr ⟨[], member, .inr ⟨rfl, by simp⟩⟩
  | cons d rest ih =>
    obtain ⟨k', xs⟩ := d
    obtain ⟨head, tail⟩ := List.pairwise_cons.mp ascending
    by_cases same : k = k'
    · subst same
      simp only [addToClass, if_true, List.mem_cons] at member
      rcases member with rfl | member
      · exact .inr ⟨xs, rfl, .inl List.mem_cons_self⟩
      · have above := head c.1 (List.mem_map_of_mem member)
        exact .inl ⟨List.mem_cons_of_mem _ member, fun eq => irrefl_of (· < ·) k (eq ▸ above)⟩
    · by_cases less : k < k'
      · have fresh : k ∉ ((k', xs) :: rest).map Prod.fst := by
          intro old
          rcases List.mem_cons.mp old with eq | old
          · exact same eq
          · exact irrefl_of (· < ·) k (trans_of (· < ·) less (head k old))
        simp only [addToClass, same, less, if_true, if_false] at member
        rcases List.mem_cons.mp member with rfl | old
        · exact .inr ⟨[], rfl, .inr ⟨rfl, fresh⟩⟩
        · exact .inl ⟨old, fun eq => fresh (eq ▸ List.mem_map_of_mem old)⟩
      · simp only [addToClass, same, less, if_false, List.mem_cons] at member
        rcases member with rfl | member
        · exact .inl ⟨List.mem_cons_self, fun eq => same eq.symm⟩
        · rcases ih tail member with ⟨old, ne⟩ | ⟨ys, eq, old | ⟨empty, fresh⟩⟩
          · exact .inl ⟨List.mem_cons_of_mem _ old, ne⟩
          · exact .inr ⟨ys, eq, .inl (List.mem_cons_of_mem _ old)⟩
          · refine .inr ⟨ys, eq, .inr ⟨empty, fun old => ?_⟩⟩
            rcases List.mem_cons.mp old with eq | old
            · exact same eq
            · exact fresh old

namespace Division

variable {key : α → Option κ} {items : List α} {classes : List (κ × List α)}

/-- A division with one more item, put in front of its class, divides the items with
that item in front. -/
theorem add (d : Division key items classes) {x : α} {k : κ} (keyed : key x = some k) :
    Division key (x :: items) (addToClass k x classes) where
  ascending := ascending_addToClass d.ascending
  nonempty := by
    intro c member
    rcases mem_addToClass member with old | ⟨xs, rfl⟩
    · exact d.nonempty c old
    · simp
  filtered := by
    intro c member
    rcases mem_addToClass_cases d.ascending member with ⟨old, ne⟩ | ⟨xs, rfl, old | ⟨rfl, fresh⟩⟩
    · have other : ¬ key x = some c.1 := fun eq => ne (Option.some.inj (eq.symm.trans keyed))
      rw [List.filter_cons_of_neg (by simpa using other)]
      exact d.filtered c old
    · rw [List.filter_cons_of_pos (by simpa using keyed)]
      exact congrArg (x :: ·) (d.filtered (k, xs) old)
    · rw [List.filter_cons_of_pos (by simpa using keyed)]
      refine congrArg (x :: ·) (List.filter_eq_nil_iff.mpr fun y hy => ?_).symm
      simpa using fun eq => fresh (d.mem_keys_iff.mpr ⟨y, hy, eq⟩)
  covered := by
    intro y member
    rcases List.mem_cons.mp member with rfl | member
    · exact ⟨k, mem_map_fst_addToClass.mpr (.inl rfl), keyed⟩
    · obtain ⟨k', old, eq⟩ := d.covered y member
      exact ⟨k', mem_map_fst_addToClass.mpr (.inr old), eq⟩
  whole := (flatMap_addToClass_perm k x classes).trans (d.whole.cons x)

end Division

end Division

/-! ### The two divisions of entries -/

/-- Dividing entries by their length is a division. -/
theorem division_byLength (entries : List Entry) :
    Division (fun e => some e.length) entries (byLength entries) := by
  induction entries with
  | nil => exact .nil _
  | cons e rest ih => exact ih.add rfl

/-- Dividing entries by a character is a division. -/
theorem division_byCharacter {position : Int} {entries : List Entry}
    {classes : List (Char × List Entry)} (divided : byCharacter position entries = .ok classes) :
    Division (fun e => charAt? e.chars position) entries classes := by
  induction entries generalizing classes with
  | nil =>
    cases divided
    exact .nil _
  | cons e rest ih =>
    obtain ⟨c, before, read, dividedRest, rfl⟩ := byCharacter_cons_eq_ok.mp divided
    exact (ih dividedRest).add read

/-- Entries that all have a character at a position can be divided by it. -/
theorem exists_byCharacter {position : Int} {entries : List Entry}
    (readable : ∀ e ∈ entries, ∃ c, charAt? e.chars position = some c) :
    ∃ classes, byCharacter position entries = .ok classes := by
  induction entries with
  | nil => exact ⟨[], rfl⟩
  | cons e rest ih =>
    obtain ⟨c, read⟩ := readable e List.mem_cons_self
    obtain ⟨before, divided⟩ := ih fun e' member => readable e' (List.mem_cons_of_mem _ member)
    exact ⟨_, byCharacter_cons_eq_ok.mpr ⟨c, before, read, divided, rfl⟩⟩

end KeyTree
