/-
# The tests of characters

The keys below a test of a character decide what the test is: it reads the least position
at which they differ, and it has a branch for each of their characters there, in ascending
order, with exactly the keys of that character below. A test further down reads a later
position, because the keys below it agree at the position read and at all before.

* `Canonical` — what the keys below a test make of it.
* `Differs` — a position that can be read to tell some of the entries apart.
* `Separates.of_path` — what the way to a node says about the keys below it.
* `KeySet.tests_canonical` — every test of a character in the tree of a key set.
-/

import KeyTree.Proofs.Entry.KeySet
import KeyTree.Proofs.Tree.Decision
import KeyTree.Proofs.Tree.Path

namespace KeyTree

/-! ### Tests and the keys below them -/

/-- `Canonical n p branches`: the test of the character at `p` with these branches is what
the keys of its leaves, all of length `n`, make of it. There are at least two and they are
different, `p` is the least position at which they differ, the branches stand in the order of
their characters, which are those that the keys have at `p`, and below each branch are the
leaves with its character. -/
structure Canonical (n : Nat) (p : Int) (branches : List (String × Tree)) : Prop where
  several : 2 ≤ (Tree.leavesBranches branches).length
  distinct : ((Tree.leavesBranches branches).map Entry.chars).Nodup
  oneLength : ∀ e ∈ Tree.leavesBranches branches, e.length = n
  least : ∃ q : Nat, p = q ∧ LeastDifference (Tree.leavesBranches branches) q
  labelled : ∃ chars : List Char, branches.map Prod.fst = chars.map String.singleton ∧
    chars.Pairwise (· < ·) ∧
    ∀ c, c ∈ chars ↔ ∃ e ∈ Tree.leavesBranches branches, charAt? e.chars p = some c
  divided : ∀ c child, (String.singleton c, child) ∈ branches →
    child.leaves = (Tree.leavesBranches branches).filter (charAt? ·.chars p = some c)

/-- Of items listed class by class, those with the key of a class are the ones listed for
it. -/
theorem filter_flatMap_classes {classes : List (Char × List Entry)} {listed : Char → List Entry}
    {key : Entry → Option Char} (distinct : (classes.map Prod.fst).Nodup)
    (keyed : ∀ c ∈ classes, ∀ e ∈ listed c.1, key e = some c.1) {c : Char × List Entry}
    (member : c ∈ classes) :
    (classes.flatMap fun k => listed k.1).filter (key · = some c.1) = listed c.1 := by
  induction classes with
  | nil => cases member
  | cons first rest ih =>
    obtain ⟨fresh, distinctRest⟩ := List.nodup_cons.mp distinct
    obtain ⟨keyedFirst, keyedRest⟩ := List.forall_mem_cons.mp keyed
    rw [List.flatMap_cons, List.filter_append]
    -- A class lists nothing with the key of another class.
    have others {k k' : Char × List Entry} (ne : k'.1 ≠ k.1)
        (keyed' : ∀ e ∈ listed k'.1, key e = some k'.1) :
        (listed k'.1).filter (key · = some k.1) = [] := by
      refine List.filter_eq_nil_iff.mpr ?_
      intro e inside
      simpa [keyed' e inside] using ne
    rcases List.mem_cons.mp member with rfl | later
    · have own : (listed c.1).filter (key · = some c.1) = listed c.1 :=
        List.filter_eq_self.mpr (by simpa using keyedFirst)
      have none : (rest.flatMap fun k => listed k.1).filter (key · = some c.1) = [] := by
        rw [List.filter_flatMap, List.flatMap_eq_nil_iff]
        intro k inside
        have ne : k.1 ≠ c.1 := fun eq => fresh (eq ▸ List.mem_map_of_mem inside)
        exact others ne (keyedRest k inside)
      rw [own, none, List.append_nil]
    · have ne : first.1 ≠ c.1 := fun eq => fresh (eq ▸ List.mem_map_of_mem later)
      rw [others ne keyedFirst, List.nil_append, ih distinctRest keyedRest later]

/-- A test of a character that tells entries of one length apart is what they make of it. -/
theorem Separates.canonical {entries : List Entry} {p : Int} {branches : List (String × Tree)}
    (separates : Separates entries (.charTest p branches)) {n : Nat}
    (lengths : ∀ e ∈ entries, e.length = n) (distinct : (entries.map Entry.chars).Nodup) :
    Canonical n p branches := by
  have perm : (Tree.leavesBranches branches).Perm entries := separates.leaves_perm
  cases separates with
  | @divide _ p classes child difference divided below =>
    have division := division_byCharacter divided
    have listed : Tree.leavesBranches (classes.map fun c => (String.singleton c.1, child c.1))
        = classes.flatMap fun c => (child c.1).leaves := by
      rw [leavesBranches_eq, List.flatMap_map]
    refine ⟨?_, ?_, ?_, ⟨p, rfl, ?_⟩, ⟨classes.map Prod.fst, ?_, division.ascending, ?_⟩, ?_⟩
    · rw [perm.length_eq]
      exact difference.two_le_length
    · exact (perm.map Entry.chars).nodup_iff.mpr distinct
    · intro e member
      exact lengths e (perm.subset member)
    · refine difference.of_keys ⟨?_, ?_⟩
      · intro e member
        exact ⟨e, perm.symm.subset member, rfl⟩
      · intro e member
        exact ⟨e, perm.subset member, rfl⟩
    · rw [List.map_map, List.map_map]
      rfl
    · intro c
      rw [division.mem_keys_iff]
      simp only [perm.mem_iff]
    · intro c t member
      obtain ⟨k, inside, eq⟩ := List.mem_map.mp member
      obtain ⟨label, rfl⟩ := Prod.mk.inj eq
      obtain rfl : k.1 = c := by simpa using congrArg String.toList label
      rw [listed]
      refine (@filter_flatMap_classes classes (fun c => (child c).leaves) (charAt? ·.chars p)
        division.keys_nodup ?_ k inside).symm
      intro k' inside' e leaf
      have part := (below k' inside').leaves_perm.subset leaf
      exact ((division.mem_class_iff inside').mp part).2

/-! ### Positions on the way down -/

/-- Some of the entries have their least difference at the position. -/
def Differs (entries : List Entry) (p : Int) : Prop :=
  ∃ part ⊆ entries, ∃ q : Nat, p = q ∧ LeastDifference part q

namespace Differs

variable {entries part : List Entry} {p : Int}

/-- Where entries differ, more entries differ as well. -/
theorem mono (differs : Differs part p) (sub : part ⊆ entries) : Differs entries p := by
  obtain ⟨some, subSome, q, eq, difference⟩ := differs
  exact ⟨some, List.Subset.trans subSome sub, q, eq, difference⟩

/-- A position at which entries of one length differ lies inside the length. -/
theorem inside (differs : Differs entries p) {n : Nat} (lengths : ∀ e ∈ entries, e.length = n) :
    0 ≤ p ∧ p < n := by
  obtain ⟨some, sub, q, rfl, difference⟩ := differs
  obtain ⟨a, member, -⟩ := difference.exists_ne
  have inside := difference.inside a member
  rw [lengths a (sub member)] at inside
  omega

/-- Two of the entries have different characters where they differ. -/
theorem exists_ne (differs : Differs entries p) :
    ∃ a ∈ entries, ∃ b ∈ entries, charAt? a.chars p ≠ charAt? b.chars p := by
  obtain ⟨some, sub, q, rfl, difference⟩ := differs
  obtain ⟨a, ha, b, hb, ne⟩ := difference.exists_ne
  refine ⟨a, sub ha, b, sub hb, ?_⟩
  rwa [charAt?_natCast, charAt?_natCast]

end Differs

/-- The entries of a class differ later than the entries divided: they agree at the position
of the division and at all before it. -/
theorem LeastDifference.lt_of_differs {entries : List Entry} {p : Nat}
    (difference : LeastDifference entries p) {classes : List (Char × List Entry)}
    (divided : byCharacter p entries = .ok classes) {c : Char × List Entry} (member : c ∈ classes)
    {q : Int} (differs : Differs c.2 q) : (p : Int) < q := by
  obtain ⟨part, sub, q, rfl, later⟩ := differs
  have agree : ∀ r ≤ p, AgreeAt c.2 r := by
    intro r le
    rcases Nat.lt_or_eq_of_le le with less | rfl
    · refine (difference.least r less).subset ?_
      intro e inside
      exact (division_byCharacter divided).mem_of_mem_class member inside
    · exact agreeAt_class divided member
  by_contra notLess
  exact later.differ ((agree q (by omega)).subset sub)

/-- The way through a tree that tells entries apart. It makes sure of no length and reads
positions in ascending order, all of which tell some of the entries apart; the node at its end
tells a part of the entries apart, which differ at later positions only. -/
theorem Separates.of_path {entries : List Entry} {t node : Tree} {turns : List Turn}
    (separates : Separates entries t) (path : t.Path turns node) :
    lengthsOf turns = [] ∧ (positionsOf turns).Pairwise (· < ·) ∧
      (∀ q ∈ positionsOf turns, Differs entries q) ∧
      ∃ part, part.Sublist entries ∧ Separates part node ∧
        ∀ q ∈ positionsOf turns, ∀ r, Differs part r → q < r := by
  induction separates generalizing turns with
  | single e =>
    cases path with
    | here => exact ⟨rfl, .nil, by simp [positionsOf], _, .refl _, .single e,
        by simp [positionsOf]⟩
  | @divide entries p classes child difference divided below ih =>
    cases path with
    | here => exact ⟨rfl, .nil, by simp [positionsOf], _, .refl _,
        .divide child difference divided below, by simp [positionsOf]⟩
    | @branch _ _ b _ turns member rest =>
      obtain ⟨c, inside, rfl⟩ := List.mem_map.mp member
      obtain ⟨lengths, ascending, differ, part, sub, separatesPart, later⟩ := ih c inside rest
      have subClass := (division_byCharacter divided).class_sublist inside
      have positions : positionsOf (.branch p (String.singleton c.1) :: turns)
          = (p : Int) :: positionsOf turns := rfl
      rw [positions]
      refine ⟨lengths, List.pairwise_cons.mpr ⟨?_, ascending⟩, List.forall_mem_cons.mpr ⟨?_, ?_⟩,
        part, sub.trans subClass, separatesPart, List.forall_mem_cons.mpr ⟨?_, later⟩⟩
      · intro q read
        exact difference.lt_of_differs divided inside (differ q read)
      · exact ⟨entries, List.Subset.refl _, p, rfl, difference⟩
      · intro q read
        exact (differ q read).mono subClass.subset
      · intro r differs
        exact difference.lt_of_differs divided inside (differs.mono sub.subset)

/-- Every test of a character in the tree of entries: the way to it makes sure of one length,
which is that of the keys below, and reads positions before its own, in ascending order and
inside that length. -/
theorem Decides.canonical {entries : List Entry} {t : Tree} (decides : Decides entries t)
    (distinct : (entries.map Entry.chars).Nodup) {turns : List Turn} {p : Int}
    {branches : List (String × Tree)} (path : t.Path turns (.charTest p branches)) :
    ∃ n : Nat, lengthsOf turns = [(n : Int)] ∧ Canonical n p branches ∧
      (positionsOf turns ++ [p]).Pairwise (· < ·) ∧
      ∀ q ∈ positionsOf turns ++ [p], 0 ≤ q ∧ q < n := by
  obtain ⟨subtree, separates⟩ := decides
  obtain ⟨s, member, before, rest, rfl, noLength, noPosition, inner⟩ := path.of_balanced
  obtain ⟨c, inside, rfl⟩ := List.mem_map.mp member
  obtain ⟨lengths, ascending, differ, part, sub, separatesPart, later⟩ :=
    (separates c inside).of_path inner
  have division := division_byLength entries
  have oneLength : ∀ e ∈ c.2, e.length = c.1 := by
    intro e he
    exact Option.some.inj ((division.mem_class_iff inside).mp he).2
  -- The node reads the least difference of the part of the entries that it tells apart.
  have own : Differs part p := by
    cases separatesPart with
    | @divide _ q _ child difference => exact ⟨part, List.Subset.refl _, q, rfl, difference⟩
  have positions : positionsOf (before ++ .same (c.1 : Int) :: rest) = positionsOf rest := by
    rw [positionsOf, List.filterMap_append]
    exact (congrArg (· ++ _) noPosition).trans (List.nil_append _)
  rw [positions]
  refine ⟨c.1, ?_, ?_, List.pairwise_append.mpr ⟨ascending, List.pairwise_singleton _ _, ?_⟩, ?_⟩
  · rw [lengthsOf, List.filterMap_append]
    exact (congrArg (· ++ _) noLength).trans (congrArg ((c.1 : Int) :: ·) lengths)
  · refine separatesPart.canonical (fun e he => oneLength e (sub.subset he)) ?_
    exact distinct.sublist ((sub.trans (division.class_sublist inside)).map Entry.chars)
  · intro q read r only
    rw [List.mem_singleton.mp only]
    exact later q read p own
  · intro q read
    rcases List.mem_append.mp read with read | only
    · exact (differ q read).inside oneLength
    · rw [List.mem_singleton.mp only]
      exact (own.mono sub.subset).inside oneLength

/-! ### Trees of key sets -/

/-- Every test of a character in the tree of a key set is what the keys below it make of it,
and they have the length that the way to the test makes sure of. Along the way the positions
read ascend, the position of the test is the last of them, and all lie inside the length. -/
theorem KeySet.tests_canonical {mode : Comparison} {valueType keys values : Value} {ks : KeySet}
    (made : KeySet.ofValues mode valueType keys values = .ok ks) :
    ∃ t, ks.tree = .ok t ∧ (∀ node, node ∈ t.nodes ↔ ∃ turns, t.Path turns node) ∧
      ∀ turns p branches, t.Path turns (.charTest p branches) →
        ∃ n : Nat, lengthsOf turns = [(n : Int)] ∧ Canonical n p branches ∧
          (positionsOf turns ++ [p]).Pairwise (· < ·) ∧
          ∀ q ∈ positionsOf turns ++ [p], 0 ≤ q ∧ q < n := by
  obtain ⟨-, texts, items, -, -, checked, rfl⟩ := checked_of_ofValues made
  have distinct : ((entriesFrom 0 (texts.zip items)).map Entry.chars).Nodup :=
    nodup_chars_entriesFrom checked.distinct_zip
  obtain ⟨t, built, decides⟩ := ofEntries_decides distinct
  refine ⟨t, built, fun node => Tree.mem_nodes_iff_exists_path, ?_⟩
  intro turns p branches path
  exact decides.canonical distinct path

/-- Two names of two characters are told apart by the first. -/
theorem KeySet.tests_canonical_names :
    ∃ ks t branches,
      KeySet.ofValues .ordinal .none (.list [.str "ab", .str "cb"]) (.list [.int 1, .int 2])
        = .ok ks ∧
      ks.tree = .ok t ∧ t.Path [.same 2] (.charTest 0 branches) ∧ Canonical 2 0 branches := by
  have made : KeySet.ofValues .ordinal .none (.list [.str "ab", .str "cb"])
      (.list [.int 1, .int 2])
      = .ok ⟨entriesFrom 0 [(⟨"ab", .plain⟩, .int 1), (⟨"cb", .plain⟩, .int 2)], .none⟩ := rfl
  obtain ⟨t, built, -, tests⟩ := tests_canonical made
  have distinct : ((entriesFrom 0 [(⟨"ab", .plain⟩, .int 1), (⟨"cb", .plain⟩, .int 2)]).map
      Entry.chars).Nodup := by
    decide
  obtain ⟨t', built', decides⟩ := ofEntries_decides distinct
  obtain rfl : t' = t := Except.ok.inj (built'.symm.trans built)
  obtain ⟨subtree, separates⟩ := decides
  have separates := separates (2, _) List.mem_cons_self
  have root : Tree.balanced ((byLength (entriesFrom 0
      [(⟨"ab", .plain⟩, .int 1), (⟨"cb", .plain⟩, .int 2)])).map fun c => ((c.1 : Int), subtree c.1))
      = .lengthTest 2 (subtree 2) .miss := by
    rw [Tree.balanced]
    rfl
  rw [root] at built tests
  generalize subtree 2 = child at separates built tests
  have least : LeastDifference (entriesFrom 0
      [(⟨"ab", .plain⟩, .int 1), (⟨"cb", .plain⟩, .int 2)]) 0 := by
    refine ⟨by decide, ?_, by simp⟩
    intro agree
    exact absurd (agree _ List.mem_cons_self _ (List.mem_cons_of_mem _ List.mem_cons_self))
      (by decide)
  cases separates with
  | divide child difference divided below =>
    obtain rfl := least.unique difference
    obtain ⟨n, length, canonical, -⟩ := tests _ 0 _ (.same (.here _))
    obtain rfl : n = 2 := Int.ofNat.inj (List.cons.inj length).1.symm
    exact ⟨_, _, _, made, built, .same (.here _), canonical⟩

end KeyTree
