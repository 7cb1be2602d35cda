/-
# Trees that decide for one candidate

A key is a candidate for a text as long as it agrees with the text in the length and at
the characters tested. A tree that tells entries apart leads every text to the only
candidate that is left, or to a miss when none is left.

* `compatible` — a key agrees with a text as far as tested.
* `Decides` — the tree of entries: tests of the length above the trees of the lengths.
* `ofEntries_decides` — different keys have a tree, which decides between them.
* `Decides.leadsTo` — the tests of the length lead to the entries of that length.
* `Decides.walk` — every text has a walk, and its leaf is the only candidate left.
* `Decides.found_eq_some_iff` — a walk finds an entry exactly when the text is its key.
* `Decides.leaves_perm` — the leaves hold every entry once.
-/

import KeyTree.Proofs.Tree.Separation
import KeyTree.Proofs.Tree.Walk
import KeyTree.Tree.OfEntries

namespace KeyTree

/-! ### Candidates -/

/-- Whether a key agrees with a text as far as it has been tested: in the length and in
the characters at some positions. -/
def compatible (positions : List Int) (text : List Char) (key : Text) : Bool :=
  key.length = text.length && positions.all fun p => charAt? key.chars p = charAt? text p

/-- One more position tested is one more character to agree on. -/
theorem compatible_cons (p : Int) (positions : List Int) (text : List Char) (key : Text) :
    compatible (p :: positions) text key
      = (decide (charAt? key.chars p = charAt? text p) && compatible positions text key) := by
  rw [compatible, List.all_cons, compatible, Bool.and_left_comm]

/-- A key of another length is no candidate. -/
theorem compatible_eq_false {positions : List Int} {text : List Char} {key : Text}
    (other : key.length ≠ text.length) : compatible positions text key = false := by
  rw [compatible, decide_eq_false other, Bool.false_and]

/-- A text is compatible with a key of the same characters. -/
theorem compatible_self (positions : List Int) (key : Text) :
    compatible positions key.chars key = true := by
  simp [compatible, Text.length]

/-! ### Trees of one length -/

/-- The branch of a character among the branches of classes. -/
theorem branchFor_map (child : Char → Tree) (classes : List (Char × List Entry)) (c : Char) :
    Tree.branchFor (String.singleton c)
        (classes.map fun k => (String.singleton k.1, child k.1))
      = if c ∈ classes.map Prod.fst then child c else .miss := by
  induction classes with
  | nil => rfl
  | cons k rest ih =>
    rw [List.map_cons, Tree.branchFor, ih, List.map_cons]
    by_cases same : k.1 = c
    · rw [same, if_pos rfl, if_pos List.mem_cons_self]
    · have differ : String.singleton k.1 ≠ String.singleton c := by
        intro eq
        exact same (by simpa using congrArg String.toList eq)
      rw [if_neg differ]
      refine if_congr ?_ rfl rfl
      rw [List.mem_cons, or_iff_right (Ne.symm same)]

/-- The leaves under branches are those of the children one after the other. -/
theorem leavesBranches_eq (branches : List (String × Tree)) :
    Tree.leavesBranches branches = branches.flatMap (·.2.leaves) := by
  induction branches with
  | nil => rfl
  | cons b rest ih => rw [Tree.leavesBranches, ih, List.flatMap_cons]

namespace Separates

variable {entries : List Entry} {t : Tree}

/-- The leaves of a tree that tells entries apart hold each of them once. -/
theorem leaves_perm (separates : Separates entries t) : t.leaves.Perm entries := by
  induction separates with
  | single e => exact .refl _
  | divide child difference divided _ ih =>
    rw [Tree.leaves, leavesBranches_eq, List.flatMap_map]
    exact (List.Perm.flatMap_left _ ih).trans (division_byCharacter divided).whole

/-- A text as long as the entries has a walk, and the leaf that it is led to is the only
candidate left. -/
theorem walk (separates : Separates entries t) {text : List Char}
    (lengths : ∀ e ∈ entries, e.length = text.length) :
    ∃ w, t.walk text = .ok w ∧
      entries.filter (fun e => compatible w.positions text e.text) = (t.leafFor text).toList := by
  induction separates with
  | single e =>
    refine ⟨_, rfl, List.filter_cons_of_pos ?_⟩
    have same : e.text.length = text.length := lengths e List.mem_cons_self
    simp [compatible, Walk.positions, same]
  | @divide entries p classes child difference divided _ ih =>
    have division := division_byCharacter divided
    obtain ⟨e, member⟩ : ∃ e, e ∈ entries := by
      refine List.exists_mem_of_ne_nil _ fun none => difference.differ ?_
      rw [none]
      exact fun _ member => absurd member List.not_mem_nil
    obtain ⟨c, read⟩ : ∃ c, charAt? text p = some c := by
      rw [charAt?_natCast]
      exact ⟨_, List.getElem?_eq_getElem (lengths e member ▸ difference.inside e member)⟩
    -- The candidates are those of the class of the character that was read.
    have narrowed (positions : List Int) :
        entries.filter (fun e => compatible (p :: positions) text e.text)
          = (entries.filter (charAt? ·.chars p = some c)).filter
              (fun e => compatible positions text e.text) := by
      rw [List.filter_filter]
      refine List.filter_congr fun e _ => ?_
      rw [compatible_cons, read, Bool.and_comm]
      rfl
    rw [Tree.walk, read, Tree.leafFor, read]
    simp only [Tree.walkBranch_eq, Tree.leafForBranch_eq, branchFor_map]
    by_cases known : c ∈ classes.map Prod.fst
    · obtain ⟨k, inside, rfl⟩ := List.mem_map.mp known
      have part := division.filtered k inside
      obtain ⟨w, walked, left⟩ := ih k inside fun e he =>
        lengths e (division.mem_of_mem_class inside he)
      rw [if_pos known, walked]
      exact ⟨_, rfl, by rw [Walk.positions_after_character, narrowed, ← part, left]⟩
    · have none : entries.filter (charAt? ·.chars p = some c) = [] := by
        refine List.filter_eq_nil_iff.mpr fun e he => ?_
        simpa using fun eq => known (division.mem_keys_iff.mpr ⟨e, he, eq⟩)
      rw [if_neg known, Tree.walk]
      exact ⟨_, rfl, by rw [Walk.positions_after_character, narrowed, none]; rfl⟩

end Separates

/-! ### Trees of entries -/

/-- `Decides entries t`: the tree `t` decides between the entries. Below tests of the
length, the entries of each length have a tree that tells them apart. -/
inductive Decides (entries : List Entry) : Tree → Prop where
  | dispatch (subtree : Nat → Tree)
      (separates : ∀ c ∈ byLength entries, Separates c.2 (subtree c.1)) :
      Decides entries (.balanced ((byLength entries).map fun c => ((c.1 : Int), subtree c.1)))

/-- Dispatching over buckets whose trees exist gives the tests above these trees. -/
theorem dispatch_eq_ok {ε β : Type} {buckets : List (Int × β)} {build : β → Except ε Tree}
    {subtree : Int → Tree} (built : ∀ b ∈ buckets, build b.2 = .ok (subtree b.1)) :
    Tree.dispatch buckets build = .ok (.balanced (buckets.map fun b => (b.1, subtree b.1))) := by
  have subtrees : buckets.mapM (fun b => build b.2 >>= fun t => pure (b.1, t))
      = Except.ok (buckets.map fun b => (b.1, subtree b.1)) := by
    induction buckets with
    | nil => rfl
    | cons b rest ih =>
      have first : build b.2 = .ok (subtree b.1) := built b List.mem_cons_self
      rw [List.mapM_cons, ih fun b member => built b (List.mem_cons_of_mem _ member), first]
      rfl
  rw [Tree.dispatch]
  change (buckets.mapM fun b => build b.2 >>= fun t => pure (b.1, t)) >>= _ = _
  rw [subtrees]
  rfl

/-- Different keys have a tree, which decides between them. -/
theorem ofEntries_decides {entries : List Entry} (distinct : (entries.map Entry.chars).Nodup) :
    ∃ t, Tree.ofEntries entries = .ok t ∧ Decides entries t := by
  have division := division_byLength entries
  have group (c : Nat × List Entry) (member : c ∈ byLength entries) :
      ∃ t, Tree.ofGroup c.2 = .ok t ∧ Separates c.2 t := by
    refine ofGroup_separates (division.nonempty c member) ⟨c.1, fun e he => ?_⟩ ?_
    · exact Option.some.inj ((division.mem_class_iff member).mp he).2
    · exact distinct.sublist ((division.class_sublist member).map _)
  let subtree (n : Nat) : Tree :=
    (Tree.ofGroup (entries.filter fun e => some e.length = some n)).toOption.getD .miss
  have built (c : Nat × List Entry) (member : c ∈ byLength entries) :
      Tree.ofGroup c.2 = .ok (subtree c.1) ∧ Separates c.2 (subtree c.1) := by
    obtain ⟨t, found, separates⟩ := group c member
    have same : subtree c.1 = t := by
      simp only [subtree, ← division.filtered c member, found]
      rfl
    exact same ▸ ⟨found, separates⟩
  refine ⟨_, ?_, .dispatch subtree fun c member => (built c member).2⟩
  let bySize (n : Int) : Tree := subtree n.toNat
  have buckets : ∀ b ∈ lengthBuckets entries, Tree.ofGroup b.2 = .ok (bySize b.1) := by
    intro b member
    obtain ⟨c, inside, rfl⟩ := List.mem_map.mp member
    exact (built c inside).1
  rw [Tree.ofEntries, dispatch_eq_ok buckets, lengthBuckets, List.map_map]
  rfl

/-- The leaves below a chain of tests of the length. -/
theorem leaves_lengthChain (subtrees : List (Int × Tree)) :
    (Tree.lengthChain subtrees).leaves = subtrees.flatMap (·.2.leaves) := by
  induction subtrees with
  | nil => rfl
  | cons s rest ih => rw [Tree.lengthChain, Tree.leaves, ih, List.flatMap_cons]

/-- The leaves below the tests of the length are those of the subtrees. -/
theorem leaves_balanced (subtrees : List (Int × Tree)) :
    (Tree.balanced subtrees).leaves = subtrees.flatMap (·.2.leaves) := by
  fun_induction Tree.balanced subtrees with
  | case1 subtrees many inside lower upper =>
    rw [Tree.leaves, lower, upper, ← List.flatMap_append, List.take_append_drop]
  | case2 subtrees few => exact leaves_lengthChain subtrees

/-- The subtree of a length among the subtrees of classes. -/
theorem subtreeAt_map (subtree : Nat → Tree) (classes : List (Nat × List Entry)) (n : Nat) :
    Tree.subtreeAt (classes.map fun c => ((c.1 : Int), subtree c.1)) n
      = if n ∈ classes.map Prod.fst then subtree n else .miss := by
  induction classes with
  | nil => rfl
  | cons c rest ih =>
    rw [List.map_cons, Tree.subtreeAt, List.lookup_cons, List.map_cons]
    by_cases same : c.1 = n
    · rw [same, beq_self_eq_true, if_pos List.mem_cons_self]
      rfl
    · have other : ((n : Int) == (c.1 : Int)) = false := by
        exact beq_eq_false_iff_ne.mpr fun eq => same (Int.ofNat.inj eq).symm
      rw [other]
      refine Eq.trans ih (if_congr ?_ rfl rfl)
      rw [List.mem_cons, or_iff_right (Ne.symm same)]

/-- The subtrees of the lengths of entries stand in the order of the lengths. -/
theorem ascending_subtrees (entries : List Entry) (subtree : Nat → Tree) :
    (((byLength entries).map fun c => ((c.1 : Int), subtree c.1)).map Prod.fst).Pairwise
      (· < ·) := by
  have lengths := (division_byLength entries).ascending
  rw [List.pairwise_map] at lengths ⊢
  exact List.pairwise_map.mpr (lengths.imp Int.ofNat_lt.mpr)

namespace Decides

variable {entries : List Entry} {t : Tree}

/-- The leaves of the tree hold every entry once. -/
theorem leaves_perm (decides : Decides entries t) : t.leaves.Perm entries := by
  obtain ⟨subtree, separates⟩ := decides
  rw [leaves_balanced, List.flatMap_map]
  exact (List.Perm.flatMap_left _ fun c member => (separates c member).leaves_perm).trans
    (division_byLength entries).whole

/-- The tests of the length lead to a tree that tells the entries of that length apart, or to
a miss when there are none. -/
theorem leadsTo (decides : Decides entries t) (n : Nat) :
    ∃ k subtree, Tree.LeadsTo n t k subtree ∧
      (Separates (entries.filter fun e => e.length = n) subtree ∨
        subtree = .miss ∧ ∀ e ∈ entries, e.length ≠ n) := by
  obtain ⟨subtree, separates⟩ := decides
  have division := division_byLength entries
  obtain ⟨k, -, leads⟩ := Tree.leadsTo_balanced (ascending_subtrees entries subtree) n
  rw [subtreeAt_map] at leads
  refine ⟨k, _, leads, ?_⟩
  by_cases known : n ∈ (byLength entries).map Prod.fst
  · obtain ⟨c, member, rfl⟩ := List.mem_map.mp known
    have part : entries.filter (fun e => e.length = c.1) = c.2 := by
      rw [division.filtered c member]
      simp
    rw [if_pos known, part]
    exact .inl (separates c member)
  · rw [if_neg known]
    refine .inr ⟨rfl, ?_⟩
    intro e member eq
    exact known (division.mem_keys_iff.mpr ⟨e, member, congrArg some eq⟩)

/-- Every text has a walk, and the leaf that it is led to is the only candidate left. -/
theorem walk (decides : Decides entries t) (text : List Char) :
    ∃ w, t.walk text = .ok w ∧
      entries.filter (fun e => compatible w.positions text e.text) = (t.leafFor text).toList := by
  obtain ⟨k, subtree, leads, separates | ⟨rfl, others⟩⟩ := decides.leadsTo text.length
  · have lengths : ∀ e ∈ entries.filter (fun e => e.length = text.length),
        e.length = text.length := by
      simp
    obtain ⟨w, walked, left⟩ := separates.walk lengths
    rw [leads.walk_eq, leads.leafFor_eq, walked]
    refine ⟨_, rfl, ?_⟩
    rw [Walk.positions_afterLengths, ← left, List.filter_filter]
    refine List.filter_congr fun e _ => ?_
    rw [Bool.eq_iff_iff, Bool.and_eq_true, compatible, Bool.and_eq_true]
    exact ⟨fun both => ⟨both, both.1⟩, And.left⟩
  · rw [leads.walk_eq, leads.leafFor_eq, Tree.walk]
    refine ⟨_, rfl, List.filter_eq_nil_iff.mpr ?_⟩
    intro e member
    rw [compatible_eq_false (others e member)]
    exact Bool.false_ne_true

/-- A candidate that is left after the walk of a text is the leaf that the text is led
to, and the other way round. -/
theorem leafFor_eq_some_iff (decides : Decides entries t) {text : List Char} {w : Walk}
    (walked : t.walk text = .ok w) {e : Entry} :
    t.leafFor text = some e ↔ e ∈ entries ∧ compatible w.positions text e.text = true := by
  obtain ⟨w', walked', left⟩ := decides.walk text
  obtain rfl : w' = w := Except.ok.inj (walked'.symm.trans walked)
  rw [← Option.mem_toList, ← left, List.mem_filter]

/-- A walk finds an entry exactly when the text is its key. -/
theorem found_eq_some_iff (decides : Decides entries t) {text : List Char} {w : Walk}
    (walked : t.walk text = .ok w) {e : Entry} :
    w.found = some e ↔ e ∈ entries ∧ text = e.chars := by
  rw [(Tree.walk_leafFor text t w walked).2, Option.filter_eq_some_iff,
    decides.leafFor_eq_some_iff walked, Entry.verify, decide_eq_true_eq]
  constructor
  · rintro ⟨⟨member, -⟩, same⟩
    exact ⟨member, same⟩
  · rintro ⟨member, rfl⟩
    exact ⟨⟨member, compatible_self _ _⟩, rfl⟩

end Decides

end KeyTree
