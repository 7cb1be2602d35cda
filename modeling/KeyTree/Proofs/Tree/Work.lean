/-
# The work of a walk

How many tests the walk of a text makes, and how many characters it reads. No walk makes more
tests than a path of its tree has, and below tests of ascending lengths the key of some entry
makes as many. Each character read leaves fewer entries to tell apart, at a later position
than the one before.

* `Walk.work` — the number of tests that a walk made.
* `Tree.work_le_height` — it is bounded by the longest path, in every tree.
* `Separates.exists_work_eq_height`, `Decides.exists_work_eq_height` — the bound is reached.
* `Separates.positions_of_walk`, `Decides.positions_of_walk` — the characters that are read.
-/

import KeyTree.Proofs.Outcome
import KeyTree.Proofs.Tree.Canonical

namespace KeyTree

/-! ### Counting tests -/

namespace Walk

/-- The number of tests that a walk made: of the length, of characters, and the comparison
with a key. -/
def work (w : Walk) : Nat :=
  w.lengthTests + w.positions.length + if w.verified then 1 else 0

@[simp] theorem work_empty : ({} : Walk).work = 0 := rfl

/-- A test that is no comparison with a key is one more test. -/
theorem work_after {test : Test} (other : test ≠ .key) (w : Walk) :
    (w.after test).work = w.work + 1 := by
  cases test with
  | length =>
    simp only [work, positions_after_length, verified_after_length]
    simp [lengthTests]
    omega
  | character p =>
    simp only [work, positions_after_character, verified_after_character]
    simp [lengthTests]
    omega
  | key => exact absurd rfl other

/-- A test in front of a walk raises a bound on its tests by one. -/
theorem work_le_of_map {test : Test} (other : test ≠ .key) {bound : Nat}
    {r : Except ReadFault Walk} (inner : ∀ w, r = .ok w → w.work ≤ bound) {w : Walk}
    (walked : after test <$> r = .ok w) : w.work ≤ 1 + bound := by
  obtain ⟨v, found, rfl⟩ := map_eq_ok_iff.mp walked
  have := inner v found
  rw [work_after other]
  omega

/-- Tests of the length add up. -/
theorem work_afterLengths (k : Nat) (w : Walk) : (afterLengths k w).work = k + w.work := by
  induction k with
  | zero => simp [afterLengths]
  | succ k ih =>
    rw [afterLengths, work_after (by simp), ih]
    omega

@[simp] theorem verified_afterLengths (k : Nat) (w : Walk) :
    (afterLengths k w).verified = w.verified := by
  induction k with
  | zero => rfl
  | succ k ih => simpa [afterLengths] using ih

end Walk

/-! ### The bound -/

namespace Tree

mutual

/-- A walk makes no more tests than a path of the tree has. -/
theorem work_le_height (text : List Char) :
    ∀ (t : Tree) (w : Walk), t.walk text = .ok w → w.work ≤ t.height
  | .miss, w, walked => by
    cases walked
    simp
  | .leaf entry, w, walked => by
    cases walked
    simp [Walk.work, Walk.lengthTests, Walk.positions, Walk.verified, height]
  | .charTest position branches, w, walked => by
    rw [walk] at walked
    cases read : charAt? text position with
    | none =>
      rw [read] at walked
      cases walked
    | some c =>
      rw [read] at walked
      exact Walk.work_le_of_map (by simp)
        (work_le_heightBranches text (String.singleton c) branches) walked
  | .lengthTest n same other, w, walked => by
    rw [walk] at walked
    rw [height]
    split at walked
    · have := Walk.work_le_of_map (by simp) (work_le_height text same) walked
      omega
    · have := Walk.work_le_of_map (by simp) (work_le_height text other) walked
      omega
  | .lengthSplit pivot below atLeast, w, walked => by
    rw [walk] at walked
    rw [height]
    split at walked
    · have := Walk.work_le_of_map (by simp) (work_le_height text below) walked
      omega
    · have := Walk.work_le_of_map (by simp) (work_le_height text atLeast) walked
      omega

/-- A walk from a branch makes no more tests than a path from some branch has. -/
theorem work_le_heightBranches (text : List Char) (label : String) :
    ∀ (branches : List (String × Tree)) (w : Walk), walkBranch text label branches = .ok w →
      w.work ≤ heightBranches branches
  | [], w, walked => by
    cases walked
    simp
  | (candidate, child) :: rest, w, walked => by
    rw [walkBranch] at walked
    rw [heightBranches]
    split at walked
    · have := work_le_height text child w walked
      omega
    · have := work_le_heightBranches text label rest w walked
      omega

end

/-! ### Reaching the bound -/

/-- The longest path from some branches starts at one of them. -/
theorem exists_height_eq {branches : List (String × Tree)} (nonempty : branches ≠ []) :
    ∃ b ∈ branches, b.2.height = heightBranches branches := by
  induction branches with
  | nil => exact absurd rfl nonempty
  | cons b rest ih =>
    rcases Nat.le_total (heightBranches rest) b.2.height with le | le
    · refine ⟨b, List.mem_cons_self, ?_⟩
      rw [heightBranches, Nat.max_eq_left le]
    · by_cases last : rest = []
      · subst last
        refine ⟨b, List.mem_cons_self, ?_⟩
        simp [heightBranches]
      · obtain ⟨b', inside, eq⟩ := ih last
        refine ⟨b', List.mem_cons_of_mem _ inside, ?_⟩
        rw [heightBranches, eq, Nat.max_eq_right le]

/-- `LongestAt subtrees t s`: the longest path of `t`, which stands above the subtrees, goes
through the subtree `s`, to which its length leads. -/
def LongestAt (subtrees : List (Int × Tree)) (t : Tree) (s : Int × Tree) : Prop :=
  s ∈ subtrees ∧ ∃ k, k + s.2.height = t.height ∧ ∀ n : Nat, (n : Int) = s.1 → LeadsTo n t k s.2

/-- The longest path through tests of one length after the other goes through a subtree. -/
theorem exists_longestAt_lengthChain {subtrees : List (Int × Tree)}
    (ascending : (subtrees.map Prod.fst).Pairwise (· < ·)) (nonempty : subtrees ≠ []) :
    ∃ s, LongestAt subtrees (lengthChain subtrees) s := by
  induction subtrees with
  | nil => exact absurd rfl nonempty
  | cons first rest ih =>
    obtain ⟨m, subtree⟩ := first
    obtain ⟨least, later⟩ := List.pairwise_cons.mp ascending
    by_cases longer : (lengthChain rest).height ≤ subtree.height
    · refine ⟨(m, subtree), List.mem_cons_self, 1, ?_, ?_⟩
      · rw [lengthChain, height, Nat.max_eq_left longer]
      · intro n eq
        exact .same eq (.here _)
    · -- A chain longer than the first subtree has a subtree of its own.
      have more : rest ≠ [] := by
        rintro rfl
        exact longer (Nat.zero_le _)
      obtain ⟨s, member, k, count, leads⟩ := ih later more
      refine ⟨s, List.mem_cons_of_mem _ member, k + 1, ?_, ?_⟩
      · rw [lengthChain, height]
        omega
      · intro n eq
        have less : m < s.1 := least s.1 (List.mem_map_of_mem member)
        refine .other ?_ (leads n eq)
        omega

/-- The longest path through the tests of ascending lengths goes through a subtree. -/
theorem exists_longestAt_balanced {subtrees : List (Int × Tree)}
    (ascending : (subtrees.map Prod.fst).Pairwise (· < ·)) (nonempty : subtrees ≠ []) :
    ∃ s, LongestAt subtrees (balanced subtrees) s := by
  fun_induction balanced subtrees with
  | case1 subtrees many inside lowerIH upperIH =>
    obtain ⟨low, high, below, least⟩ := ascending_cut inside ascending
    have half : 0 < subtrees.length / 2 := by
      simp only [linearLengthLimit] at many
      omega
    rcases Nat.le_total (balanced (subtrees.drop (subtrees.length / 2))).height
      (balanced (subtrees.take (subtrees.length / 2))).height with le | le
    · obtain ⟨s, member, k, count, leads⟩ := lowerIH low (by simp [nonempty]; omega)
      refine ⟨s, List.mem_of_mem_take member, k + 1, ?_, ?_⟩
      · rw [height, Nat.max_eq_left le]
        omega
      · intro n eq
        refine .lower ?_ (leads n eq)
        rw [eq]
        exact below s.1 (List.mem_map_of_mem member)
    · obtain ⟨s, member, k, count, leads⟩ := upperIH high (by simpa using inside)
      refine ⟨s, List.mem_of_mem_drop member, k + 1, ?_, ?_⟩
      · rw [height, Nat.max_eq_right le]
        omega
      · intro n eq
        refine .upper ?_ (leads n eq)
        rw [eq]
        exact Int.not_lt.mpr (least s.1 (List.mem_map_of_mem member))
  | case2 subtrees few => exact exists_longestAt_lengthChain ascending nonempty

end Tree

namespace Separates

variable {entries : List Entry} {t : Tree}

/-- The key of some entry makes as many tests as the longest path has. -/
theorem exists_work_eq_height (separates : Separates entries t) :
    ∃ e ∈ entries, ∃ w, t.walk e.chars = .ok w ∧ w.work = t.height := by
  induction separates with
  | single e => exact ⟨e, List.mem_cons_self, _, rfl, rfl⟩
  | @divide entries p classes child difference divided below ih =>
    have division := division_byCharacter divided
    have nonempty : classes.map (fun c => (String.singleton c.1, child c.1)) ≠ [] := by
      intro none
      obtain rfl := List.map_eq_nil_iff.mp none
      have empty : entries = [] := List.nil_perm.mp division.whole
      exact absurd difference.two_le_length (by simp [empty])
    obtain ⟨b, member, longest⟩ := Tree.exists_height_eq nonempty
    obtain ⟨c, inside, rfl⟩ := List.mem_map.mp member
    obtain ⟨e, he, w, walked, work⟩ := ih c inside
    obtain ⟨mem, read⟩ := (division.mem_class_iff inside).mp he
    refine ⟨e, mem, w.after (.character p), ?_, ?_⟩
    · rw [Tree.walk, read]
      simp only [Tree.walkBranch_eq, branchFor_map]
      rw [if_pos (List.mem_map_of_mem inside), walked]
      rfl
    · rw [Walk.work_after (by simp), work, longest, Tree.height]
      omega

end Separates

/-! ### Characters read -/

/-- A walk through a tree that tells entries apart reads positions in ascending order, each of
which tells some of the entries apart, and fewer than there are entries. -/
theorem Separates.positions_of_walk {entries : List Entry} {t : Tree}
    (separates : Separates entries t) {text : List Char} {w : Walk}
    (walked : t.walk text = .ok w) :
    w.positions.Pairwise (· < ·) ∧ (∀ p ∈ w.positions, Differs entries p) ∧
      w.positions.length < entries.length := by
  induction separates generalizing w with
  | single e =>
    cases walked
    exact ⟨.nil, by simp [Walk.positions], by simp [Walk.positions]⟩
  | @divide entries p classes child difference divided below ih =>
    have own : Differs entries p := ⟨entries, List.Subset.refl _, p, rfl, difference⟩
    rw [Tree.walk] at walked
    cases read : charAt? text p with
    | none =>
      rw [read] at walked
      cases walked
    | some c =>
      rw [read] at walked
      obtain ⟨v, inner, rfl⟩ := map_eq_ok_iff.mp walked
      rw [Tree.walkBranch_eq, branchFor_map] at inner
      rw [Walk.positions_after_character]
      -- The walk goes on in the class of the character, or it ends in a miss.
      by_cases known : c ∈ classes.map Prod.fst
      · obtain ⟨k, inside, rfl⟩ := List.mem_map.mp known
        rw [if_pos known] at inner
        obtain ⟨ascending, differ, few⟩ := ih k inside inner
        have sub := ((division_byCharacter divided).class_sublist inside).subset
        refine ⟨List.pairwise_cons.mpr ⟨?_, ascending⟩, List.forall_mem_cons.mpr ⟨own, ?_⟩, ?_⟩
        · intro q later
          exact difference.lt_of_differs divided inside (differ q later)
        · intro q later
          exact (differ q later).mono sub
        · have := length_class_lt difference.differ divided inside
          rw [List.length_cons]
          omega
      · rw [if_neg known] at inner
        cases inner
        exact ⟨List.pairwise_singleton _ _, by simpa [Walk.positions] using own,
          difference.two_le_length⟩

/-! ### Trees of entries -/

namespace Decides

variable {entries : List Entry} {t : Tree}

/-- A walk reads positions in ascending order, at which some of the entries as long as the text
differ, and fewer than there are of them. Without any entry of that length it reads none, and
compares with no key. -/
theorem positions_of_walk (decides : Decides entries t) {text : List Char} {w : Walk}
    (walked : t.walk text = .ok w) :
    w.positions.Pairwise (· < ·) ∧
      (∀ p ∈ w.positions, Differs (entries.filter fun e => e.length = text.length) p) ∧
      w.positions.length ≤ entries.countP (fun e => e.length = text.length) - 1 ∧
      ((∀ e ∈ entries, e.length ≠ text.length) → w.positions = [] ∧ w.verified = false) := by
  obtain ⟨k, subtree, leads, separates | ⟨rfl, others⟩⟩ := decides.leadsTo text.length
  · rw [leads.walk_eq] at walked
    obtain ⟨v, inner, rfl⟩ := map_eq_ok_iff.mp walked
    obtain ⟨ascending, differ, few⟩ := separates.positions_of_walk inner
    rw [Walk.positions_afterLengths, List.countP_eq_length_filter]
    refine ⟨ascending, differ, by omega, ?_⟩
    intro none
    have empty : entries.filter (fun e => e.length = text.length) = [] := by
      simpa using none
    rw [empty] at few
    exact absurd few (by simp)
  · rw [leads.walk_eq, Tree.walk] at walked
    cases walked
    rw [Walk.positions_afterLengths, Walk.verified_afterLengths]
    exact ⟨.nil, by simp [Walk.positions], Nat.zero_le _, fun _ => ⟨rfl, rfl⟩⟩

/-- Every test of a character has a branch. -/
theorem branched (decides : Decides entries t) (distinct : (entries.map Entry.chars).Nodup) :
    t.Branched := by
  intro p inside
  obtain ⟨turns, path⟩ := Tree.exists_path t inside
  obtain ⟨n, -, canonical, -⟩ := decides.canonical distinct path
  exact absurd canonical.several (by simp [Tree.leavesBranches])

/-- The key of some entry makes as many tests as the longest path has. -/
theorem exists_work_eq_height (decides : Decides entries t) (nonempty : entries ≠ []) :
    ∃ e ∈ entries, ∃ w, t.walk e.chars = .ok w ∧ w.work = t.height := by
  obtain ⟨subtree, separates⟩ := decides
  have division := division_byLength entries
  have some : (byLength entries).map (fun c => ((c.1 : Int), subtree c.1)) ≠ [] := by
    intro none
    have empty := List.map_eq_nil_iff.mp none
    refine nonempty (List.nil_perm.mp ?_)
    have whole := division.whole
    rwa [empty] at whole
  obtain ⟨s, member, k, count, leads⟩ := Tree.exists_longestAt_balanced
    (ascending_subtrees entries subtree) some
  obtain ⟨c, inside, rfl⟩ := List.mem_map.mp member
  obtain ⟨e, he, w, walked, work⟩ := (separates c inside).exists_work_eq_height
  obtain ⟨mem, length⟩ := (division.mem_class_iff inside).mp he
  have length : e.chars.length = c.1 := Option.some.inj length
  refine ⟨e, mem, Walk.afterLengths k w, ?_, ?_⟩
  · rw [(leads e.chars.length (congrArg _ length)).walk_eq, walked]
    rfl
  · rw [Walk.work_afterLengths, work, count]

end Decides

end KeyTree
