/-
# The queue and the recursion

The tree of a group is built without recursion: groups wait in a queue, their plans name the
places of the groups they are divided into, and the nodes are assembled from the last place to
the first. The recursion that this stands for divides the entries where they differ and builds
the subtree of each class. Both give the same tree, and no place is read before its node has
been assembled.

* `Tree.splitting` — the tree of a group by recursion.
* `Separates.eq_splitting` — it is the only tree that tells the entries apart.
* `length_plansFrom_bounds` — how many groups there are.
* `Forward` — the branches of plans lead to later places.
* `Forward.getElem?_assembleFrom` — a node is made of the nodes at the places of its plan.
* `Tree.ofGroup_eq_splitting` — the queue gives the tree of the recursion.
-/

import KeyTree.Proofs.Outcome
import KeyTree.Proofs.Tree.Separation

namespace KeyTree

/-! ### The recursion -/

/-- Entries differ where the search finds a difference. -/
theorem not_agreeAt_of_firstDifference {settled : Nat → Bool} {p : Nat} {entries : List Entry}
    (found : firstDifference settled entries = .ok (some p)) : ¬ AgreeAt entries p := by
  cases entries with
  | nil => cases found
  | cons first others =>
    intro agree
    obtain ⟨c, -, read, differs⟩ := exists_of_firstDifferenceFrom found
    obtain ⟨e, member, d, read', ne⟩ := exists_of_differsAt differs
    rw [agreeAt_cons.mp agree e member] at read'
    exact ne (Option.some.inj (read'.symm.trans read))

/-- The tree of a group by recursion: a single entry is a leaf, and several entries are divided
at the first position where they differ, each class with its tree on the branch of its
character. -/
def Tree.splitting (entries : List Entry) : Tree :=
  match entries with
  | [] => .miss
  | [entry] => .leaf entry
  | first :: second :: rest =>
    match _found : firstDifference (fun _ => false) (first :: second :: rest) with
    | .ok (some p) =>
      match _divided : byCharacter p (first :: second :: rest) with
      | .ok classes =>
        .charTest p (classes.attach.map fun c => (String.singleton c.1.1, splitting c.1.2))
      | .error _ => .miss
    | _ => .miss
termination_by entries.length
decreasing_by exact length_class_lt (not_agreeAt_of_firstDifference _found) _divided c.2

/-- A single entry is a leaf. -/
theorem Tree.splitting_singleton (e : Entry) : splitting [e] = .leaf e := by
  rw [splitting]

/-- Entries of one length that differ are divided at their least difference. -/
theorem Tree.splitting_of_leastDifference {entries : List Entry}
    (oneLength : ∃ n, ∀ e ∈ entries, e.length = n) {p : Nat}
    (difference : LeastDifference entries p) {classes : List (Char × List Entry)}
    (divided : byCharacter p entries = .ok classes) :
    splitting entries
      = .charTest p (classes.map fun c => (String.singleton c.1, splitting c.2)) := by
  obtain ⟨n, lengths⟩ := oneLength
  have found : firstDifference (fun _ => false) entries = .ok (some p) := by
    have agreed : ∀ q, (fun _ : Nat => false) q = true → AgreeAt entries q := by simp
    rcases firstDifference_cases lengths agreed with ⟨q, found, least⟩ | ⟨-, same⟩
    · rw [found, difference.unique least]
    · obtain ⟨a, ha, b, hb, ne⟩ := difference.exists_ne
      exact absurd (by rw [same a ha b hb]) ne
  match entries, difference.two_le_length with
  | first :: second :: rest, _ =>
    rw [splitting]
    split
    · rename_i q found'
      obtain rfl : p = q := by simpa [found] using found'
      split
      · rename_i cs divided'
        obtain rfl : classes = cs := by simpa [divided] using divided'
        exact congrArg (Tree.charTest p)
          (@List.attach_map_val _ _ classes fun c => (String.singleton c.1, splitting c.2))
      · rename_i failed
        cases divided.symm.trans failed
    · rename_i other
      exact absurd found (other p)

/-- The only tree that tells entries of one length apart is that of the recursion. -/
theorem Separates.eq_splitting {entries : List Entry} {t : Tree}
    (separates : Separates entries t) (oneLength : ∃ n, ∀ e ∈ entries, e.length = n) :
    t = Tree.splitting entries := by
  induction separates with
  | single e => exact (Tree.splitting_singleton e).symm
  | @divide entries p classes child difference divided _ ih =>
    rw [Tree.splitting_of_leastDifference oneLength difference divided]
    congr 1
    refine List.map_congr_left fun c inside => ?_
    obtain ⟨n, lengths⟩ := oneLength
    have sub := (division_byCharacter divided).class_sublist inside
    rw [ih c inside ⟨n, fun e member => lengths e (sub.subset member)⟩]

/-! ### The number of groups -/

/-- Every group in a queue has a plan, and so have the groups that come out of it; together they
are no more than the groups in the queue weigh. -/
theorem length_plansFrom_bounds {slot : Nat} {queue : List Group} {plans : List Plan}
    (planned : plansFrom slot queue = .ok plans) :
    queue.length ≤ plans.length ∧ plans.length ≤ total Group.weight queue := by
  fun_induction plansFrom slot queue generalizing plans with
  | case1 slot =>
    cases planned
    simp
  | case2 slot g rest fault found => cases planned
  | case3 slot g rest tree found ih =>
    obtain ⟨later, made, rfl⟩ := map_eq_ok_iff.mp planned
    have bounds := ih made
    have one : 1 ≤ g.weight := Nat.le_max_left _ _
    simp only [List.length_cons, total_cons]
    omega
  | case4 slot g rest position classes found ih =>
    obtain ⟨later, made, rfl⟩ := map_eq_ok_iff.mp planned
    have bounds := ih made
    have lighter := Group.total_weight_lt found
    simp only [List.length_append, total_append] at bounds
    simp only [List.length_cons, total_cons]
    omega

/-! ### Places -/

/-- The branches of a plan, each with the place that it leads to. -/
def Plan.branches : Plan → List (Char × Nat)
  | .finished _ => []
  | .test _ branches => branches

/-- The node of a plan is made of the nodes at the places of its branches. -/
theorem Plan.tree_congr {plan : Plan} {node node' : Nat → Tree}
    (same : ∀ b ∈ plan.branches, node b.2 = node' b.2) : plan.tree node = plan.tree node' := by
  cases plan with
  | finished tree => rfl
  | test position branches =>
    rw [tree, tree]
    congr 1
    refine List.map_congr_left fun b member => ?_
    rw [same b member]

/-- `Forward slot plans`: every branch of the plans, the first of which has the place `slot`,
leads to the place of a later one of them. -/
def Forward (slot : Nat) (plans : List Plan) : Prop :=
  ∀ (i : Nat) (plan : Plan), plans[i]? = some plan →
    ∀ b ∈ plan.branches, slot + i < b.2 ∧ b.2 < slot + plans.length

namespace Forward

variable {slot : Nat} {plan : Plan} {plans : List Plan}

/-- A plan in front, whose branches lead to the places of the others. -/
theorem cons (later : Forward (slot + 1) plans)
    (own : ∀ b ∈ plan.branches, slot < b.2 ∧ b.2 < slot + 1 + plans.length) :
    Forward slot (plan :: plans) := by
  intro i plan' at_i b member
  rw [List.length_cons]
  cases i with
  | zero =>
    cases at_i
    have := own b member
    omega
  | succ i =>
    have := later i plan' at_i b member
    omega

/-- Without the first plan, the branches of the others lead to places among them. -/
theorem tail (forward : Forward slot (plan :: plans)) : Forward (slot + 1) plans := by
  intro i plan' at_i b member
  have := forward (i + 1) plan' at_i b member
  rw [List.length_cons] at this
  omega

/-- The node at a place is that of its plan, whose branches have the nodes at their places:
each of them has been assembled before. -/
theorem getElem?_assembleFrom (forward : Forward slot plans) {i : Nat}
    (at_i : plans[i]? = some plan) :
    (assembleFrom slot plans)[i]?
      = some (plan.tree fun place => ((assembleFrom slot plans)[place - slot]?).getD .miss) := by
  induction plans generalizing slot i with
  | nil => cases at_i
  | cons first rest ih =>
    -- No branch leads back to the first place, so the others are looked up among the later nodes.
    have shifted {b : Char × Nat} (behind : slot < b.2) :
        (assembleFrom slot (first :: rest))[b.2 - slot]?
          = (assembleFrom (slot + 1) rest)[b.2 - (slot + 1)]? := by
      rw [show b.2 - slot = b.2 - (slot + 1) + 1 by omega]
      exact List.getElem?_cons_succ
    cases i with
    | zero =>
      obtain rfl := Option.some.inj at_i
      refine congrArg some (Plan.tree_congr fun b member => ?_)
      rw [shifted (forward 0 first rfl b member).1]
    | succ i =>
      refine (ih forward.tail at_i).trans (congrArg some (Plan.tree_congr fun b member => ?_))
      have behind := (forward (i + 1) plan at_i b member).1
      rw [shifted (by omega)]

end Forward

/-- Numbered classes have the places from the first one on. -/
theorem place_of_mem_numbered {slot : Nat} {classes : List (Char × List Entry)} {b : Char × Nat}
    (member : b ∈ numbered slot classes) : slot ≤ b.2 ∧ b.2 < slot + classes.length := by
  rw [numbered] at member
  have upper := List.snd_lt_add_of_mem_zipIdx member
  rw [List.length_map] at upper
  exact ⟨List.le_snd_of_mem_zipIdx member, upper⟩

/-- The plans of a queue lead to later places, since the classes of a group join the queue behind
all groups that wait. `done` groups came before the queue. -/
theorem forward_plansFrom {slot done : Nat} {queue : List Group} {plans : List Plan}
    (planned : plansFrom slot queue = .ok plans) (place : slot = done + queue.length) :
    Forward done plans := by
  fun_induction plansFrom slot queue generalizing done plans with
  | case1 slot =>
    cases planned
    intro i plan at_i
    cases at_i
  | case2 slot g rest fault found => cases planned
  | case3 slot g rest tree found ih =>
    obtain ⟨later, made, rfl⟩ := map_eq_ok_iff.mp planned
    rw [List.length_cons] at place
    refine (ih made (by omega)).cons ?_
    simp [Plan.branches]
  | case4 slot g rest position classes found ih =>
    obtain ⟨later, made, rfl⟩ := map_eq_ok_iff.mp planned
    have joined := (length_plansFrom_bounds made).1
    rw [List.length_append, Group.subgroups, List.length_map] at joined
    rw [List.length_cons] at place
    -- The classes take the places behind all groups that wait, and each has a plan there.
    refine Forward.cons (ih made ?_) ?_
    · rw [List.length_append, Group.subgroups, List.length_map]
      omega
    · intro b member
      have numbers := place_of_mem_numbered member
      omega

/-! ### The tree of a group -/

/-- The queue of plans, assembled from the last to the first, gives the tree of the recursion:
a leaf for a single entry, and otherwise a test at the least position where the entries differ,
with the trees of the classes in the order of their characters. There are at most `2 n - 1`
groups, each with a plan; branches lead to later places, and the node at each place is made of
the nodes that are at the places of its branches in the end. -/
theorem Tree.ofGroup_eq_splitting {entries : List Entry} (nonempty : entries ≠ [])
    (oneLength : ∃ n, ∀ e ∈ entries, e.length = n) (distinct : (entries.map Entry.chars).Nodup) :
    Tree.ofGroup entries = .ok (splitting entries) ∧
      ((∃ e, entries = [e] ∧ splitting entries = .leaf e) ∨
        ∃ p classes, LeastDifference entries p ∧ byCharacter p entries = .ok classes ∧
          (classes.map Prod.fst).Pairwise (· < ·) ∧
          splitting entries
            = .charTest p (classes.map fun c => (String.singleton c.1, splitting c.2))) ∧
      ∃ plans, plansOf entries = .ok plans ∧ plans.length ≤ 2 * entries.length - 1 ∧
        Forward 0 plans ∧
        ∀ (i : Nat) (plan : Plan), plans[i]? = some plan → (assembleFrom 0 plans)[i]?
          = some (plan.tree fun place => ((assembleFrom 0 plans)[place]?).getD .miss) := by
  obtain ⟨t, built, separates⟩ := ofGroup_separates nonempty oneLength distinct
  obtain rfl := separates.eq_splitting oneLength
  refine ⟨built, ?_, ?_⟩
  · have fit : Group.Fit ⟨entries, []⟩ := ⟨nonempty, oneLength, distinct, by simp⟩
    rcases fit.step_cases with ⟨e, only, -⟩ | ⟨p, classes, -, difference, divided⟩
    · obtain rfl : entries = [e] := only
      exact .inl ⟨e, rfl, splitting_singleton e⟩
    · exact .inr ⟨p, classes, difference, divided, (division_byCharacter divided).ascending,
        splitting_of_leastDifference oneLength difference divided⟩
  · obtain ⟨plans, planned, -⟩ := map_eq_ok_iff.mp built
    have forward : Forward 0 plans := forward_plansFrom planned rfl
    have few := (length_plansFrom_bounds planned).2
    have some := List.length_pos_iff.mpr nonempty
    simp only [total_cons, total_nil, Group.weight] at few
    refine ⟨plans, planned, by omega, forward, ?_⟩
    intro i plan at_i
    exact forward.getElem?_assembleFrom at_i

/-- Two keys that end alike are divided at their first character, with three groups at most. -/
theorem Tree.ofGroup_eq_splitting_pair :
    Tree.ofGroup [⟨⟨"ab", .plain⟩, 0, .none⟩, ⟨⟨"cb", .plain⟩, 1, .none⟩]
        = .ok (.charTest 0 [("a", .leaf ⟨⟨"ab", .plain⟩, 0, .none⟩),
            ("c", .leaf ⟨⟨"cb", .plain⟩, 1, .none⟩)]) ∧
      ∃ plans, plansOf [⟨⟨"ab", .plain⟩, 0, .none⟩, ⟨⟨"cb", .plain⟩, 1, .none⟩] = .ok plans ∧
        plans.length ≤ 3 ∧ Forward 0 plans := by
  let ab : Entry := ⟨⟨"ab", .plain⟩, 0, .none⟩
  let cb : Entry := ⟨⟨"cb", .plain⟩, 1, .none⟩
  have oneLength : ∃ n, ∀ e ∈ [ab, cb], e.length = n := ⟨2, by decide⟩
  have distinct : ([ab, cb].map Entry.chars).Nodup := by decide
  obtain ⟨built, -, plans, planned, few, forward, -⟩ :=
    Tree.ofGroup_eq_splitting (by simp) oneLength distinct
  refine ⟨built.trans (congrArg Except.ok ?_), plans, planned, few, forward⟩
  have difference : LeastDifference [ab, cb] 0 := by
    refine ⟨by decide, fun agree => ?_, by simp⟩
    exact absurd (agree ab (by simp) cb (by simp)) (by decide)
  have divided : byCharacter (0 : Nat) [ab, cb] = .ok [('a', [ab]), ('c', [cb])] := by
    simp [byCharacter, addToClass, charAt?, ab, cb, Entry.chars, Text.chars]
  rw [splitting_of_leastDifference oneLength difference divided]
  simp only [List.map_cons, List.map_nil, splitting_singleton]
  rfl

end KeyTree
