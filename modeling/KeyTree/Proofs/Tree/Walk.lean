/-
# What a walk meets

Two views of a walk that its record does not hold, with their laws.

* `Tree.leafFor` — the entry of the leaf that a text is led to; `Tree.walk_leafFor` — a
  walk is verified when there is one, and it finds it when the text is its key.
* `Tree.LeadsTo` — the part of a tree that is left after the tests of the length, which
  decide by the length alone; `Tree.leadsTo_balanced` — ascending lengths lead to the
  subtree of the length, after about as many tests as the lengths can be halved.
-/

import KeyTree.Tree.Dispatch
import KeyTree.Tree.Walk
import Mathlib.Data.Nat.Log

namespace KeyTree

/-! ### Adding tests in front -/

namespace Walk

@[simp] theorem after_tests (test : Test) (w : Walk) : (w.after test).tests = test :: w.tests := rfl

@[simp] theorem positions_after_character (p : Int) (w : Walk) :
    (w.after (.character p)).positions = p :: w.positions := rfl

@[simp] theorem positions_after_length (w : Walk) : (w.after .length).positions = w.positions := rfl

@[simp] theorem verified_after_character (p : Int) (w : Walk) :
    (w.after (.character p)).verified = w.verified := by
  simp [verified]

@[simp] theorem verified_after_length (w : Walk) : (w.after .length).verified = w.verified := by
  simp [verified]

/-- The walk with some more tests of the length before it. -/
def afterLengths : Nat → Walk → Walk
  | 0, w => w
  | k + 1, w => after .length (afterLengths k w)

@[simp] theorem positions_afterLengths (k : Nat) (w : Walk) :
    (afterLengths k w).positions = w.positions := by
  induction k with
  | zero => rfl
  | succ k ih => simpa [afterLengths] using ih

end Walk

namespace Tree

/-! ### The leaf that a text is led to -/

mutual

/-- The entry of the leaf that a text is led to, if it is led to a leaf. -/
def leafFor (text : List Char) : Tree → Option Entry
  | .miss => none
  | .leaf entry => some entry
  | .charTest position branches =>
    match charAt? text position with
    | none => none
    | some c => leafForBranch text (String.singleton c) branches
  | .lengthTest n same other => if text.length = n then leafFor text same else leafFor text other
  | .lengthSplit pivot below atLeast =>
    if text.length < pivot then leafFor text below else leafFor text atLeast

/-- The entry of the leaf that a text is led to from the branch of a character. -/
def leafForBranch (text : List Char) (label : String) : List (String × Tree) → Option Entry
  | [] => none
  | (candidate, child) :: rest =>
    if candidate = label then leafFor text child else leafForBranch text label rest

end

/-- The leaf from the branch of a character is the leaf of its child. -/
theorem leafForBranch_eq (text : List Char) (label : String) (branches : List (String × Tree)) :
    leafForBranch text label branches = leafFor text (branchFor label branches) := by
  induction branches with
  | nil => simp [leafForBranch, branchFor, leafFor]
  | cons b rest ih =>
    obtain ⟨candidate, child⟩ := b
    by_cases h : candidate = label <;> simp [leafForBranch, branchFor, h, ih]

/-- The views agree with a walk: it has compared the text with a whole key when the text
is led to a leaf, and it has found the entry of the leaf when the text is its key. -/
def Meets (text : List Char) (leaf : Option Entry) (w : Walk) : Prop :=
  w.verified = leaf.isSome ∧ w.found = leaf.filter (·.verify text)

/-- A walk with a test in front that is no comparison with a key meets the same leaf. -/
theorem meets_of_map_after {text : List Char} {leaf : Option Entry} {test : Test} {w : Walk}
    {r : Except ReadFault Walk} (inner : ∀ w, r = .ok w → Meets text leaf w) (other : test ≠ .key)
    (walked : Walk.after test <$> r = .ok w) : Meets text leaf w := by
  cases r with
  | error fault => cases walked
  | ok v =>
    cases walked
    obtain ⟨verified, found⟩ := inner v rfl
    refine ⟨?_, found⟩
    rw [← verified]
    cases test with
    | length => exact Walk.verified_after_length v
    | character p => exact Walk.verified_after_character p v
    | key => exact absurd rfl other

mutual

/-- A walk meets the leaf that the text is led to. -/
theorem walk_leafFor (text : List Char) :
    ∀ (t : Tree) (w : Walk), t.walk text = .ok w → Meets text (t.leafFor text) w
  | .miss, w, walked => by
    cases walked
    exact ⟨rfl, rfl⟩
  | .leaf entry, w, walked => by
    cases walked
    refine ⟨rfl, ?_⟩
    rw [leafFor, Option.filter_some]
  | .charTest position branches, w, walked => by
    rw [walk] at walked
    cases read : charAt? text position with
    | none =>
      rw [read] at walked
      cases walked
    | some c =>
      rw [read] at walked
      simp only [leafFor, read]
      exact meets_of_map_after (walkBranch_leafFor text (String.singleton c) branches)
        (by simp) walked
  | .lengthTest n same other, w, walked => by
    rw [walk] at walked
    rw [leafFor]
    split at walked
    · rw [if_pos ‹_›]
      exact meets_of_map_after (walk_leafFor text same) (by simp) walked
    · rw [if_neg ‹_›]
      exact meets_of_map_after (walk_leafFor text other) (by simp) walked
  | .lengthSplit pivot below atLeast, w, walked => by
    rw [walk] at walked
    rw [leafFor]
    split at walked
    · rw [if_pos ‹_›]
      exact meets_of_map_after (walk_leafFor text below) (by simp) walked
    · rw [if_neg ‹_›]
      exact meets_of_map_after (walk_leafFor text atLeast) (by simp) walked

/-- A walk from the branch of a character meets the leaf that the text is led to. -/
theorem walkBranch_leafFor (text : List Char) (label : String) :
    ∀ (branches : List (String × Tree)) (w : Walk), walkBranch text label branches = .ok w →
      Meets text (leafForBranch text label branches) w
  | [], w, walked => by
    cases walked
    exact ⟨rfl, rfl⟩
  | (candidate, child) :: rest, w, walked => by
    rw [walkBranch] at walked
    rw [leafForBranch]
    split at walked
    · rw [if_pos ‹_›]
      exact walk_leafFor text child w walked
    · rw [if_neg ‹_›]
      exact walkBranch_leafFor text label rest w walked

end

/-! ### The tests of the length -/

/-- `LeadsTo n t k t'`: an input of length `n` is led from `t` to `t'` by `k` tests of its
length. -/
inductive LeadsTo (n : Nat) : Tree → Nat → Tree → Prop where
  | here (t : Tree) : LeadsTo n t 0 t
  | same {m : Int} {s o t : Tree} {k : Nat} (eq : (n : Int) = m) (rest : LeadsTo n s k t) :
      LeadsTo n (.lengthTest m s o) (k + 1) t
  | other {m : Int} {s o t : Tree} {k : Nat} (ne : (n : Int) ≠ m) (rest : LeadsTo n o k t) :
      LeadsTo n (.lengthTest m s o) (k + 1) t
  | lower {m : Int} {b a t : Tree} {k : Nat} (lt : (n : Int) < m) (rest : LeadsTo n b k t) :
      LeadsTo n (.lengthSplit m b a) (k + 1) t
  | upper {m : Int} {b a t : Tree} {k : Nat} (ge : ¬ (n : Int) < m) (rest : LeadsTo n a k t) :
      LeadsTo n (.lengthSplit m b a) (k + 1) t

namespace LeadsTo

variable {text : List Char} {t t' : Tree} {k : Nat}

/-- The walk of a text goes on with the part of the tree that its length leads to. -/
theorem walk_eq (leads : LeadsTo text.length t k t') :
    t.walk text = Walk.afterLengths k <$> t'.walk text := by
  induction leads with
  | here t => exact (id_map _).symm
  | same eq _ ih =>
    rw [walk, if_pos eq, ih, Functor.map_map]
    rfl
  | other ne _ ih =>
    rw [walk, if_neg ne, ih, Functor.map_map]
    rfl
  | lower lt _ ih =>
    rw [walk, if_pos lt, ih, Functor.map_map]
    rfl
  | upper ge _ ih =>
    rw [walk, if_neg ge, ih, Functor.map_map]
    rfl

/-- The leaf of a text lies in the part of the tree that its length leads to. -/
theorem leafFor_eq (leads : LeadsTo text.length t k t') : t.leafFor text = t'.leafFor text := by
  induction leads with
  | here t => rfl
  | same eq _ ih => rw [leafFor, if_pos eq, ih]
  | other ne _ ih => rw [leafFor, if_neg ne, ih]
  | lower lt _ ih => rw [leafFor, if_pos lt, ih]
  | upper ge _ ih => rw [leafFor, if_neg ge, ih]

end LeadsTo

/-- The subtree of a length, or a miss for a length without subtree. -/
def subtreeAt (subtrees : List (Int × Tree)) (n : Int) : Tree :=
  (subtrees.lookup n).getD .miss

/-- Tests of one length after the other lead to the subtree of the length. -/
theorem leadsTo_lengthChain (subtrees : List (Int × Tree)) (n : Nat) :
    ∃ k ≤ subtrees.length, LeadsTo n (lengthChain subtrees) k (subtreeAt subtrees n) := by
  induction subtrees with
  | nil => exact ⟨0, Nat.le_refl 0, .here .miss⟩
  | cons s rest ih =>
    obtain ⟨m, subtree⟩ := s
    by_cases eq : (n : Int) = m
    · have found : subtreeAt ((m, subtree) :: rest) n = subtree := by
        rw [subtreeAt, List.lookup_cons, beq_iff_eq.mpr eq]
        rfl
      rw [found]
      exact ⟨1, by simp, .same eq (.here subtree)⟩
    · obtain ⟨k, le, leads⟩ := ih
      have later : subtreeAt ((m, subtree) :: rest) n = subtreeAt rest n := by
        rw [subtreeAt, List.lookup_cons, beq_eq_false_iff_ne.mpr eq]
        rfl
      rw [later]
      exact ⟨k + 1, Nat.succ_le_succ le, .other eq leads⟩

/-- A length that is not among those of some subtrees is not found there. -/
theorem lookup_eq_none_of_fresh {subtrees : List (Int × Tree)} {n : Int}
    (fresh : n ∉ subtrees.map Prod.fst) : subtrees.lookup n = none := by
  refine List.lookup_eq_none_iff.mpr fun s member => ?_
  have ne : n ≠ s.1 := fun eq => fresh (eq ▸ List.mem_map_of_mem member)
  simpa using ne

/-- A length that the second of two parts has not is looked up in the first. -/
theorem subtreeAt_append_left {first second : List (Int × Tree)} {n : Int}
    (fresh : n ∉ second.map Prod.fst) :
    subtreeAt (first ++ second) n = subtreeAt first n := by
  rw [subtreeAt, List.lookup_append, lookup_eq_none_of_fresh fresh, Option.or_none, subtreeAt]

/-- A length that the first of two parts has not is looked up in the second. -/
theorem subtreeAt_append_right {first second : List (Int × Tree)} {n : Int}
    (fresh : n ∉ first.map Prod.fst) :
    subtreeAt (first ++ second) n = subtreeAt second n := by
  rw [subtreeAt, List.lookup_append, lookup_eq_none_of_fresh fresh, Option.none_or, subtreeAt]

/-- Ascending keys that are cut at a place ascend on both sides, and the key at the place
tells the sides apart. -/
theorem ascending_cut {α β : Type} [Preorder α] {pairs : List (α × β)} {place : Nat}
    (inside : place < pairs.length) (ascending : (pairs.map Prod.fst).Pairwise (· < ·)) :
    ((pairs.take place).map Prod.fst).Pairwise (· < ·) ∧
      ((pairs.drop place).map Prod.fst).Pairwise (· < ·) ∧
      (∀ k ∈ (pairs.take place).map Prod.fst, k < pairs[place].1) ∧
      ∀ k ∈ (pairs.drop place).map Prod.fst, pairs[place].1 ≤ k := by
  rw [← List.take_append_drop place pairs, List.map_append, List.pairwise_append] at ascending
  obtain ⟨low, high, apart⟩ := ascending
  have onward := List.drop_eq_getElem_cons inside
  refine ⟨low, high, fun k member => apart k member _ ?_, fun k member => ?_⟩
  · rw [onward]
    exact List.mem_cons_self
  · rw [onward, List.map_cons] at member high
    rcases List.mem_cons.mp member with rfl | later
    · exact le_refl _
    · exact le_of_lt ((List.pairwise_cons.mp high).1 k later)

/-- The halved tests above ascending lengths lead to the subtree of a length, or to a
miss, after at most one test more than the lengths can be halved. -/
theorem leadsTo_balanced {subtrees : List (Int × Tree)}
    (ascending : (subtrees.map Prod.fst).Pairwise (· < ·)) (n : Nat) :
    ∃ k ≤ Nat.clog 2 subtrees.length + 1,
      LeadsTo n (balanced subtrees) k (subtreeAt subtrees n) := by
  fun_induction balanced subtrees with
  | case1 subtrees many inside belowIH aboveIH =>
    have halves := List.take_append_drop (subtrees.length / 2) subtrees
    obtain ⟨low, high, below, least⟩ := ascending_cut inside ascending
    have halved : Nat.clog 2 ((subtrees.length + 1) / 2) + 1 = Nat.clog 2 subtrees.length := by
      simp only [linearLengthLimit] at many
      exact (Nat.clog_of_two_le (by omega) (by omega)).symm
    have cost {part : Nat} (le : part ≤ (subtrees.length + 1) / 2) {k : Nat}
        (bound : k ≤ Nat.clog 2 part + 1) : k + 1 ≤ Nat.clog 2 subtrees.length + 1 := by
      have := Nat.clog_mono_right 2 le
      omega
    by_cases less : (n : Int) < subtrees[subtrees.length / 2].1
    · obtain ⟨k, bound, leads⟩ := belowIH low
      have absent : (n : Int) ∉ (subtrees.drop (subtrees.length / 2)).map Prod.fst :=
        fun member => absurd (least n member) (Int.not_le.mpr less)
      have found : subtreeAt (subtrees.take (subtrees.length / 2) ++ _) n = _ :=
        subtreeAt_append_left absent
      rw [halves] at found
      refine ⟨k + 1, cost (by rw [List.length_take]; omega) bound, ?_⟩
      rw [found]
      exact .lower less leads
    · obtain ⟨k, bound, leads⟩ := aboveIH high
      have absent : (n : Int) ∉ (subtrees.take (subtrees.length / 2)).map Prod.fst :=
        fun member => less (below n member)
      have found : subtreeAt (_ ++ subtrees.drop (subtrees.length / 2)) n = _ :=
        subtreeAt_append_right absent
      rw [halves] at found
      refine ⟨k + 1, cost (by rw [List.length_drop]; omega) bound, ?_⟩
      rw [found]
      exact .upper less leads
  | case2 subtrees few =>
    obtain ⟨k, le, leads⟩ := leadsTo_lengthChain subtrees n
    have short : ∀ d < linearLengthLimit + 1, d ≤ Nat.clog 2 d + 1 := by decide
    exact ⟨k, Nat.le_trans le (short _ (Nat.lt_succ_of_le (Nat.not_lt.mp few))), leads⟩

end Tree

end KeyTree
