/-
# The least difference

The search for a position at which keys of one length differ finds the least one, and it
finds none only among equal keys. Positions settled on the way to the keys make no
difference to the answer, as the keys agree there.

* `AgreeAt` — the keys have the same character at a position.
* `LeastDifference` — a position at which they differ, below which they agree.
* `SameKeys`, `LeastDifference.of_keys` — it depends on nothing but the keys.
* `firstDifference_cases` — what the search returns.
-/

import KeyTree.Entry.Difference

namespace KeyTree

/-- All entries have the same character at a position, or none has one there. -/
def AgreeAt (entries : List Entry) (position : Nat) : Prop :=
  ∀ a ∈ entries, ∀ b ∈ entries, a.chars[position]? = b.chars[position]?

/-- Entries agree at a position as soon as all agree with the first. -/
theorem agreeAt_cons {first : Entry} {others : List Entry} {p : Nat} :
    AgreeAt (first :: others) p ↔ ∀ e ∈ others, e.chars[p]? = first.chars[p]? := by
  constructor
  · intro h e member
    exact h e (List.mem_cons_of_mem _ member) first List.mem_cons_self
  · intro h
    have same : ∀ e ∈ first :: others, e.chars[p]? = first.chars[p]? := by
      intro e member
      rcases List.mem_cons.mp member with rfl | member
      · rfl
      · exact h e member
    exact fun a ha b hb => (same a ha).trans (same b hb).symm

/-- Some of the entries agree where all do. -/
theorem AgreeAt.subset {entries entries' : List Entry} {p : Nat} (h : AgreeAt entries p)
    (sub : entries' ⊆ entries) : AgreeAt entries' p :=
  fun a ha b hb => h a (sub ha) b (sub hb)

/-- Two lists of entries hold the same keys, in any order. -/
structure SameKeys (entries entries' : List Entry) : Prop where
  left : ∀ e ∈ entries, ∃ e' ∈ entries', e'.chars = e.chars
  right : ∀ e' ∈ entries', ∃ e ∈ entries, e.chars = e'.chars

namespace SameKeys

variable {entries entries' : List Entry}

/-- The first list holds the keys of the second as well. -/
theorem symm (keys : SameKeys entries entries') : SameKeys entries' entries :=
  ⟨keys.right, keys.left⟩

/-- What is read of some key of the first list is read of some key of the second. -/
theorem exists_keyed {κ : Type} (keys : SameKeys entries entries') (key : List Char → Option κ)
    (k : κ) : (∃ e ∈ entries, key e.chars = some k) ↔ ∃ e ∈ entries', key e.chars = some k := by
  constructor
  · rintro ⟨e, member, eq⟩
    obtain ⟨e', member', chars⟩ := keys.left e member
    exact ⟨e', member', chars ▸ eq⟩
  · rintro ⟨e', member', eq⟩
    obtain ⟨e, member, chars⟩ := keys.right e' member'
    exact ⟨e, member, chars ▸ eq⟩

end SameKeys

/-- Entries agree where others with the same keys do. -/
theorem AgreeAt.of_keys {entries entries' : List Entry} {p : Nat} (h : AgreeAt entries p)
    (keys : SameKeys entries entries') : AgreeAt entries' p := by
  intro a' ha' b' hb'
  obtain ⟨a, ha, sameA⟩ := keys.right a' ha'
  obtain ⟨b, hb, sameB⟩ := keys.right b' hb'
  rw [← sameA, ← sameB]
  exact h a ha b hb

/-- The least position at which some of the entries differ; each of them has a character
there. -/
structure LeastDifference (entries : List Entry) (p : Nat) : Prop where
  inside : ∀ e ∈ entries, p < e.length
  differ : ¬ AgreeAt entries p
  least : ∀ q < p, AgreeAt entries q

/-- There is only one least difference. -/
theorem LeastDifference.unique {entries : List Entry} {p q : Nat} (hp : LeastDifference entries p)
    (hq : LeastDifference entries q) : p = q := by
  rcases Nat.lt_trichotomy p q with less | eq | greater
  · exact absurd (hq.least p less) hp.differ
  · exact eq
  · exact absurd (hp.least q greater) hq.differ

/-- Entries with the same keys have the same least difference. -/
theorem LeastDifference.of_keys {entries entries' : List Entry} {p : Nat}
    (h : LeastDifference entries p) (keys : SameKeys entries entries') :
    LeastDifference entries' p where
  inside := by
    intro e' member'
    obtain ⟨e, member, same⟩ := keys.right e' member'
    have inside : p < e.chars.length := h.inside e member
    rwa [same] at inside
  differ := fun agree => h.differ (agree.of_keys keys.symm)
  least := fun q less => (h.least q less).of_keys keys

/-- Entries that differ do not all have one key. -/
theorem LeastDifference.not_sameKeys_singleton {entries : List Entry} {p : Nat}
    (h : LeastDifference entries p) (e : Entry) : ¬ SameKeys [e] entries := by
  intro keys
  refine h.differ (AgreeAt.of_keys ?_ keys)
  intro a ha b hb
  rw [List.mem_singleton.mp ha, List.mem_singleton.mp hb]

/-- Two of the entries have different characters at their least difference. -/
theorem LeastDifference.exists_ne {entries : List Entry} {p : Nat} (h : LeastDifference entries p) :
    ∃ a ∈ entries, ∃ b ∈ entries, a.chars[p]? ≠ b.chars[p]? := by
  apply Classical.byContradiction
  intro none
  refine h.differ ?_
  intro a ha b hb
  exact Decidable.byContradiction fun ne => none ⟨a, ha, b, hb, ne⟩

/-- Entries that differ are at least two. -/
theorem LeastDifference.two_le_length {entries : List Entry} {p : Nat}
    (difference : LeastDifference entries p) : 2 ≤ entries.length := by
  obtain ⟨a, ha, b, hb, ne⟩ := difference.exists_ne
  match entries, ha, hb with
  | [e], ha, hb =>
    rw [List.mem_singleton.mp ha, List.mem_singleton.mp hb] at ne
    exact absurd rfl ne
  | _ :: _ :: _, _, _ => simp

/-- At a least difference every entry has a character. -/
theorem LeastDifference.readable {entries : List Entry} {p : Nat} (h : LeastDifference entries p)
    {e : Entry} (member : e ∈ entries) : ∃ c, charAt? e.chars p = some c := by
  rw [charAt?_natCast]
  exact ⟨_, List.getElem?_eq_getElem (h.inside e member)⟩

/-! ### The search -/

/-- Comparing entries that have a character at a position tells whether one of them has
another character than `c` there. -/
theorem differsAt_cases {p : Nat} (c : Char) {entries : List Entry}
    (readable : ∀ e ∈ entries, p < e.length) :
    (differsAt p c entries = .ok true ∧ ∃ e ∈ entries, e.chars[p]? ≠ some c) ∨
      (differsAt p c entries = .ok false ∧ ∀ e ∈ entries, e.chars[p]? = some c) := by
  induction entries with
  | nil => exact .inr ⟨rfl, by simp⟩
  | cons e rest ih =>
    obtain ⟨d, read⟩ : ∃ d, e.chars[p]? = some d :=
      ⟨_, List.getElem?_eq_getElem (readable e List.mem_cons_self)⟩
    by_cases same : d = c
    · have step : differsAt p c (e :: rest) = differsAt p c rest := by
        rw [differsAt, read]
        exact if_pos same
      rw [step]
      rcases ih fun e' member => readable e' (List.mem_cons_of_mem _ member) with
        ⟨found, e', member, ne⟩ | ⟨found, agree⟩
      · exact .inl ⟨found, e', List.mem_cons_of_mem _ member, ne⟩
      · refine .inr ⟨found, fun e' member => ?_⟩
        rcases List.mem_cons.mp member with rfl | member
        · exact same ▸ read
        · exact agree e' member
    · refine .inl ⟨?_, e, List.mem_cons_self, ?_⟩
      · rw [differsAt, read]
        exact if_neg same
      · rw [read]
        exact fun eq => same (Option.some.inj eq)

variable {settled : Nat → Bool} {first : Entry} {others : List Entry}

/-- The search from a position on, when all agree below it. -/
theorem firstDifferenceFrom_cases (lengths : ∀ e ∈ others, e.length = first.length)
    (agreed : ∀ q, settled q = true → AgreeAt (first :: others) q) {start : Nat}
    {remaining : List Char} (rest : remaining = first.chars.drop start)
    (below : ∀ q < start, AgreeAt (first :: others) q) :
    (∃ p, firstDifferenceFrom settled others start remaining = .ok (some p) ∧
        LeastDifference (first :: others) p) ∨
      (firstDifferenceFrom settled others start remaining = .ok none ∧
        ∀ q < first.length, AgreeAt (first :: others) q) := by
  induction remaining generalizing start with
  | nil =>
    have done : first.length ≤ start := List.drop_eq_nil_iff.mp rest.symm
    exact .inr ⟨rfl, fun q hq => below q (Nat.lt_of_lt_of_le hq done)⟩
  | cons c remaining ih =>
    have read : first.chars[start]? = some c := by
      rw [← Nat.add_zero start, ← List.getElem?_drop, ← rest, List.getElem?_cons_zero]
    have inside : start < first.length := (List.getElem?_eq_some_iff.mp read).1
    have tail : remaining = first.chars.drop (start + 1) := by
      rw [List.drop_add_one_eq_tail_drop, ← rest, List.tail_cons]
    -- When the keys agree at the position, the search goes on behind it.
    have go (agree : AgreeAt (first :: others) start) := by
      refine ih tail fun q hq => ?_
      rcases Nat.lt_succ_iff_lt_or_eq.mp hq with less | rfl
      · exact below q less
      · exact agree
    by_cases skip : settled start = true
    · rw [firstDifferenceFrom, if_pos skip]
      exact go (agreed start skip)
    · rcases differsAt_cases c
        (fun e member => (lengths e member).symm ▸ inside) with
        ⟨found, e, member, ne⟩ | ⟨found, agree⟩
      · refine .inl ⟨start, ?_, ?_, ?_, below⟩
        · rw [firstDifferenceFrom, if_neg skip, found]
        · intro e member
          rcases List.mem_cons.mp member with rfl | member
          · exact inside
          · exact (lengths e member).symm ▸ inside
        · intro all
          exact ne ((agreeAt_cons.mp all e member).trans read)
      · rw [firstDifferenceFrom, if_neg skip, found]
        exact go (agreeAt_cons.mpr fun e member => (agree e member).trans read.symm)

/-- The search among entries of one length finds the least difference, or the entries
have equal keys. -/
theorem firstDifference_cases {n : Nat} {entries : List Entry}
    (lengths : ∀ e ∈ entries, e.length = n)
    (agreed : ∀ q, settled q = true → AgreeAt entries q) :
    (∃ p, firstDifference settled entries = .ok (some p) ∧ LeastDifference entries p) ∨
      (firstDifference settled entries = .ok none ∧
        ∀ a ∈ entries, ∀ b ∈ entries, a.chars = b.chars) := by
  cases entries with
  | nil => exact .inr ⟨rfl, by simp⟩
  | cons first others =>
    have same : ∀ e ∈ others, e.length = first.length := fun e member =>
      (lengths e (List.mem_cons_of_mem _ member)).trans (lengths first List.mem_cons_self).symm
    have all : first.chars = first.chars.drop 0 := List.drop_zero.symm
    rcases firstDifferenceFrom_cases same agreed all (by simp) with found | ⟨found, agree⟩
    · exact .inl found
    · refine .inr ⟨found, fun a ha b hb => List.ext_getElem? fun q => ?_⟩
      by_cases inside : q < first.length
      · exact agree q inside a ha b hb
      · have beyond : ∀ e ∈ first :: others, e.chars[q]? = none := fun e member => by
          have le : e.length ≤ q :=
            (lengths e member).trans (lengths first List.mem_cons_self).symm ▸ Nat.not_lt.mp inside
          exact List.getElem?_eq_none le
        rw [beyond a ha, beyond b hb]

end KeyTree
