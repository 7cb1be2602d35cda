/-
# The work of a lookup

What one lookup costs. It reads characters inside the input only, from left to right, fewer
than there are keys as long as the input, and none where all of these agree. It performs no
more tests than the depth of the lookup, and the lookup of some key performs as many.

* `Frugal` — what a walk reads of a text, and whether it compares the text with a key.
* `Declared.work_bounded` — the work of every lookup, and the most work.
-/

import KeyTree.Proofs.Lookup.Recall
import KeyTree.Proofs.Tree.Work
import Mathlib.Data.List.Perm.Subperm

namespace KeyTree

/-- The walk of a text is frugal among some keys. It reads positions of the text in ascending
order, fewer than there are keys as long as the text, and each of them tells two of these
apart. Without any key of that length nothing is read and no key compared with. -/
structure Frugal (keys : List Text) (text : Text) (w : Walk) : Prop where
  ascending : w.positions.Pairwise (· < ·)
  inside : ∀ p ∈ w.positions, 0 ≤ p ∧ p < text.length
  few : w.positions.length
    ≤ min text.length (keys.countP (fun key => key.length = text.length) - 1)
  telling : ∀ p ∈ w.positions, ∃ a ∈ keys, ∃ b ∈ keys, a.length = text.length ∧
    b.length = text.length ∧ charAt? a.chars p ≠ charAt? b.chars p
  idle : (∀ key ∈ keys, key.length ≠ text.length) → w.positions = [] ∧ w.verified = false

/-- Ascending positions inside a length are at most as many as the length. -/
theorem length_le_of_ascending {positions : List Int} {n : Nat}
    (ascending : positions.Pairwise (· < ·)) (inside : ∀ p ∈ positions, 0 ≤ p ∧ p < n) :
    positions.length ≤ n := by
  have distinct : positions.Nodup := ascending.imp Int.ne_of_lt
  have sub : positions ⊆ (List.range n).map Int.ofNat := by
    intro p member
    obtain ⟨low, high⟩ := inside p member
    refine List.mem_map.mpr ⟨p.toNat, List.mem_range.mpr (by omega), ?_⟩
    exact Int.toNat_of_nonneg low
  simpa using (List.Nodup.subperm distinct sub).length_le

/-- Walks through a tree that decides between entries are frugal among their keys. -/
theorem Decides.frugal {entries : List Entry} {t : Tree} (decides : Decides entries t)
    {text : Text} {w : Walk} (walked : t.walk text.chars = .ok w) :
    Frugal (entries.map Entry.text) text w := by
  obtain ⟨ascending, differ, few, idle⟩ := decides.positions_of_walk walked
  have oneLength : ∀ e ∈ entries.filter (fun e => e.length = text.chars.length),
      e.length = text.length := by
    intro e member
    exact of_decide_eq_true (List.mem_filter.mp member).2
  have inside : ∀ p ∈ w.positions, 0 ≤ p ∧ p < text.length := by
    intro p member
    exact (differ p member).inside oneLength
  refine ⟨ascending, inside, ?_, ?_, ?_⟩
  · rw [List.countP_map]
    exact Nat.le_min.mpr ⟨length_le_of_ascending ascending inside, few⟩
  · intro p member
    obtain ⟨a, ha, b, hb, ne⟩ := (differ p member).exists_ne
    have keyed {e : Entry} (he : e ∈ entries.filter (fun e => e.length = text.chars.length)) :
        e.text ∈ entries.map Entry.text :=
      List.mem_map_of_mem (List.mem_filter.mp he).1
    exact ⟨a.text, keyed ha, b.text, keyed hb, oneLength a ha, oneLength b hb, ne⟩
  · intro other
    refine idle ?_
    intro e member
    exact other e.text (List.mem_map_of_mem member)

namespace Declared

/-- The work of one lookup. Every input has a trace with at most as many tests as the lookup is
deep; the trace of a text is frugal among the keys; and the trace of some key has as many tests
as the lookup is deep. -/
theorem work_bounded {d : Declared} {l : Lookup} (built : d.lookup = .ok l) :
    ∃ keys values, d.Lists keys values ∧
      (∀ x, ∃ t, l.trace x = .ok t ∧ t.walk.work ≤ l.depth ∧
        ∀ text, x.text? = some text → Frugal keys text t.walk) ∧
      ∃ key ∈ keys, ∃ t, l.trace key.toValue = .ok t ∧ t.walk.work = l.depth := by
  obtain ⟨-, keys, values, lists, checked⟩ := of_lookup built
  obtain ⟨decides, -⟩ := decides_of_lookup lists built
  have texts := checked.map_text_entries 0
  have depth : l.depth = l.root.height :=
    Tree.depth_eq_height (decides.branched (nodup_chars_entriesFrom checked.distinct_zip))
  refine ⟨keys, values, lists, ?_, ?_⟩
  · intro x
    cases isText : x.text? with
    | none => exact ⟨_, Lookup.trace_of_not_text l isText, Nat.zero_le _, by simp⟩
    | some text =>
      obtain ⟨w, walked, -⟩ := decides.walk text.chars
      refine ⟨_, Lookup.trace_of_walk isText walked, ?_, ?_⟩
      · rw [depth]
        exact Tree.work_le_height text.chars l.root w walked
      · intro text' same
        obtain rfl := Option.some.inj same
        rw [← texts]
        exact decides.frugal walked
  · have nonempty : entriesFrom 0 (keys.zip values) ≠ [] := by
      intro none
      rw [none] at texts
      exact checked.nonempty texts.symm
    obtain ⟨e, member, w, walked, work⟩ := decides.exists_work_eq_height nonempty
    refine ⟨e.text, ?_, _, Lookup.trace_of_walk (text?_toValue e.text) walked, ?_⟩
    · rw [← texts]
      exact List.mem_map_of_mem member
    · rw [depth]
      exact work

/-- Among three names, an input as long as two of them is read at one position at most. -/
theorem work_bounded_names :
    ∃ l t, Declared.lookup {
        keys := .list [.str "ab", .str "cb", .str "abc"]
        values := .list [.int 1, .int 2, .int 3] } = .ok l ∧
      l.trace (.str "ax") = .ok t ∧ t.walk.work ≤ l.depth ∧ t.walk.positions.length ≤ 1 := by
  have lists : Lists {
        keys := .list [.str "ab", .str "cb", .str "abc"]
        values := .list [.int 1, .int 2, .int 3] }
      [⟨"ab", .plain⟩, ⟨"cb", .plain⟩, ⟨"abc", .plain⟩] [.int 1, .int 2, .int 3] := ⟨rfl, rfl, rfl⟩
  obtain ⟨root, -, built⟩ := lookup_eq_ok lists ⟨by simp, rfl, by decide⟩ rfl
  obtain ⟨keys, values, lists', work, -⟩ := work_bounded built
  obtain ⟨rfl, rfl⟩ := lists.unique lists'
  obtain ⟨t, traced, bounded, frugal⟩ := work (.str "ax")
  exact ⟨_, t, built, traced, bounded, (frugal ⟨"ax", .plain⟩ rfl).few⟩

end Declared

end KeyTree
