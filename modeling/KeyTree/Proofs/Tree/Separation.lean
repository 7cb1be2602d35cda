/-
# Trees that tell entries apart

`Separates` says what the tree of a group looks like: a leaf for a single entry, and
otherwise a test at the least position where the entries differ, with a branch for each
of their characters there, whose child tells the entries of that class apart. It is the
recursive reading of the construction. The construction itself works on a queue and
assembles the nodes from the last to the first; both give the same tree.

* `Separates` — the shape of the tree of a group.
* `Group.Uniform`, `Group.Fit` — what holds of every group in the queue, the latter of different
  keys.
* `Group.Uniform.step_cases`, `Group.Fit.step_cases` — what becomes of a group.
* `plansFrom_separates` — the nodes assembled from the plans of a queue.
* `ofGroup_separates` — different keys of one length have a tree.
-/

import KeyTree.Proofs.Entry.Difference
import KeyTree.Proofs.Entry.Division
import KeyTree.Tree.Group
import Mathlib.Data.List.Nodup

namespace KeyTree

/-- `Separates entries t`: the tree `t` tells the entries apart by their characters. A
single entry is a leaf. Several entries are divided at the least position where they
differ; each class has a branch for its character, in the order of the characters. -/
inductive Separates : List Entry → Tree → Prop where
  | single (e : Entry) : Separates [e] (.leaf e)
  | divide {entries : List Entry} {p : Nat} {classes : List (Char × List Entry)}
      (child : Char → Tree) (difference : LeastDifference entries p)
      (divided : byCharacter p entries = .ok classes)
      (below : ∀ c ∈ classes, Separates c.2 (child c.1)) :
      Separates entries (.charTest p (classes.map fun c => (String.singleton c.1, child c.1)))

/-- The keys of a class agree at the position by which the entries are divided. -/
theorem agreeAt_class {p : Nat} {entries : List Entry} {classes : List (Char × List Entry)}
    (divided : byCharacter p entries = .ok classes) {c : Char × List Entry} (member : c ∈ classes) :
    AgreeAt c.2 p := by
  have read {e : Entry} (inside : e ∈ c.2) : e.chars[p]? = some c.1 := by
    rw [← charAt?_natCast]
    exact (((division_byCharacter divided).mem_class_iff member).mp inside).2
  intro a ha b hb
  rw [read ha, read hb]

/-- A class has fewer entries than are divided, when these differ at the position. -/
theorem length_class_lt {entries : List Entry} {p : Nat} (differ : ¬ AgreeAt entries p)
    {classes : List (Char × List Entry)} (divided : byCharacter p entries = .ok classes)
    {c : Char × List Entry} (member : c ∈ classes) : c.2.length < entries.length := by
  have sub := (division_byCharacter divided).class_sublist member
  refine Nat.lt_of_le_of_ne sub.length_le ?_
  intro eq
  have agree := agreeAt_class divided member
  rw [sub.eq_of_length eq] at agree
  exact differ agree

/-! ### Groups -/

/-- A uniform group: it has keys of one length, which agree at every position tested so
far. -/
structure Group.Uniform (g : Group) : Prop where
  nonempty : g.entries ≠ []
  oneLength : ∃ n, ∀ e ∈ g.entries, e.length = n
  agreed : ∀ q ∈ g.tested, AgreeAt g.entries q

namespace Group.Uniform

variable {g : Group}

/-- Dividing a uniform group at a position gives uniform groups. -/
theorem of_mem_subgroups (uniform : g.Uniform) {p : Nat} {classes : List (Char × List Entry)}
    (divided : byCharacter p g.entries = .ok classes) {s : Group}
    (member : s ∈ g.subgroups p classes) : s.Uniform := by
  have division := division_byCharacter divided
  obtain ⟨c, hc, rfl⟩ := List.mem_map.mp member
  have sub : c.2.Sublist g.entries := division.class_sublist hc
  refine ⟨division.nonempty c hc, ?_, ?_⟩
  · obtain ⟨n, lengths⟩ := uniform.oneLength
    exact ⟨n, fun e he => lengths e (sub.subset he)⟩
  · intro q hq
    rcases List.mem_cons.mp hq with rfl | hq
    · exact agreeAt_class divided hc
    · exact (uniform.agreed q hq).subset sub.subset

/-- What becomes of a uniform group: a single entry is a leaf, entries that differ are divided
at their least difference, and the first two of several equal keys are duplicates. -/
theorem step_cases (uniform : g.Uniform) :
    (∃ e, g.entries = [e] ∧ g.step = .ok (.finished (.leaf e))) ∨
      (∃ p classes, g.step = .ok (.divided p classes) ∧ LeastDifference g.entries p ∧
        byCharacter p g.entries = .ok classes) ∨
      ∃ first second rest, g.entries = first :: second :: rest ∧
        (∀ e ∈ g.entries, e.chars = first.chars) ∧
        g.step = .error (.duplicateKey first.text first.index second.index) := by
  match entries : g.entries with
  | [] => exact absurd entries uniform.nonempty
  | [e] => exact .inl ⟨e, rfl, by rw [Group.step, entries]⟩
  | first :: second :: rest =>
    right
    obtain ⟨n, lengths⟩ := uniform.oneLength
    have agreed (q : Nat) (tested : g.tested.contains q = true) : AgreeAt g.entries q :=
      uniform.agreed q (List.contains_iff_mem.mp tested)
    rcases firstDifference_cases lengths agreed with ⟨p, found, difference⟩ | ⟨found, same⟩
    · obtain ⟨classes, divided⟩ := exists_byCharacter fun e member => difference.readable member
      rw [entries] at found difference divided
      exact .inl ⟨p, classes, by simp only [Group.step, entries, found, divided], difference,
        divided⟩
    · rw [entries] at found same
      refine .inr ⟨first, second, rest, rfl, ?_, by simp only [Group.step, entries, found]⟩
      intro e member
      exact same e member first List.mem_cons_self

/-- A divided group is divided at the least difference of its entries. -/
theorem of_divided (uniform : g.Uniform) {p : Nat} {classes : List (Char × List Entry)}
    (found : g.step = .ok (.divided p classes)) :
    LeastDifference g.entries p ∧ byCharacter p g.entries = .ok classes := by
  rcases uniform.step_cases with ⟨e, -, step⟩ | ⟨q, cs, step, difference, divided⟩ |
    ⟨_, _, _, -, -, step⟩
  · cases found.symm.trans step
  · cases found.symm.trans step
    exact ⟨difference, divided⟩
  · cases found.symm.trans step

end Group.Uniform

/-- A group fit for division: it has different keys of one length, which agree at every
position tested so far. -/
structure Group.Fit (g : Group) : Prop where
  nonempty : g.entries ≠ []
  oneLength : ∃ n, ∀ e ∈ g.entries, e.length = n
  distinct : (g.entries.map Entry.chars).Nodup
  agreed : ∀ q ∈ g.tested, AgreeAt g.entries q

namespace Group.Fit

variable {g : Group}

/-- A fit group is uniform. -/
theorem uniform (fit : g.Fit) : g.Uniform := ⟨fit.nonempty, fit.oneLength, fit.agreed⟩

/-- Dividing a fit group at a position gives fit groups. -/
theorem of_mem_subgroups (fit : g.Fit) {p : Nat} {classes : List (Char × List Entry)}
    (divided : byCharacter p g.entries = .ok classes) {s : Group}
    (member : s ∈ g.subgroups p classes) : s.Fit := by
  obtain ⟨nonempty, oneLength, agreed⟩ := fit.uniform.of_mem_subgroups divided member
  obtain ⟨c, hc, rfl⟩ := List.mem_map.mp member
  have sub := (division_byCharacter divided).class_sublist hc
  exact ⟨nonempty, oneLength, fit.distinct.sublist (sub.map _), agreed⟩

/-- What becomes of a fit group: a single entry is a leaf, and several entries are
divided at their least difference. -/
theorem step_cases (fit : g.Fit) :
    (∃ e, g.entries = [e] ∧ g.step = .ok (.finished (.leaf e))) ∨
      ∃ p classes, g.step = .ok (.divided p classes) ∧ LeastDifference g.entries p ∧
        byCharacter p g.entries = .ok classes := by
  rcases fit.uniform.step_cases with single | divided | ⟨first, second, rest, entries, same, -⟩
  · exact .inl single
  · exact .inr divided
  · have distinct := fit.distinct
    rw [entries] at distinct same
    have ne := (List.nodup_cons.mp distinct).1
    exact absurd (same second (by simp)) fun eq => ne (eq ▸ by simp)

/-- A fit group is never at fault. -/
theorem step_ne_error (fit : g.Fit) (fault : BuildFault) : g.step ≠ .error fault := by
  intro found
  rcases fit.step_cases with ⟨e, -, step⟩ | ⟨p, classes, step, -⟩
  · cases found.symm.trans step
  · cases found.symm.trans step

/-- The leaf of a finished group is that of its entry. -/
theorem separates_of_finished (fit : g.Fit) {t : Tree} (found : g.step = .ok (.finished t)) :
    Separates g.entries t := by
  rcases fit.step_cases with ⟨e, only, step⟩ | ⟨p, classes, step, -⟩
  · cases found.symm.trans step
    exact only ▸ .single e
  · cases found.symm.trans step

end Group.Fit

/-! ### Queues -/

section Queue

variable {α : Type} {waiting added : List α}

/-- What waits in a queue keeps its place when something is added. -/
theorem getElem?_append_of_eq_some {i : Nat} {x : α} (at_i : waiting[i]? = some x) :
    (waiting ++ added)[i]? = some x := by
  rw [List.getElem?_append_left (List.getElem?_eq_some_iff.mp at_i).1]
  exact at_i

/-- What is added to a queue stands behind what waits. -/
theorem getElem?_append_add (i : Nat) : (waiting ++ added)[waiting.length + i]? = added[i]? := by
  rw [List.getElem?_append_right (Nat.le_add_right _ _), Nat.add_sub_cancel_left]

end Queue

/-! ### Plans and nodes -/

/-- The numbers of different items are their places. -/
theorem zipIdx_eq_map_idxOf {keys : List Char} (nodup : keys.Nodup) (slot : Nat) :
    keys.zipIdx slot = keys.map fun k => (k, slot + keys.idxOf k) := by
  refine List.ext_getElem (by simp) fun i h _ => ?_
  have inside : i < keys.length := by simpa using h
  simp [nodup.idxOf_getElem i inside]

/-- A test whose branches lead to the classes of a division, told apart by the nodes at
their places in the queue, tells the divided entries apart. -/
theorem separates_tree_test {entries : List Entry} {p slot : Nat}
    {classes : List (Char × List Entry)} {node : Nat → Tree}
    (difference : LeastDifference entries p) (divided : byCharacter p entries = .ok classes)
    (below : ∀ i c, classes[i]? = some c → Separates c.2 (node (slot + i))) :
    Separates entries (Plan.tree node (.test p (numbered slot classes))) := by
  have nodup := (division_byCharacter divided).keys_nodup
  have branches : (numbered slot classes).map (fun b => (String.singleton b.1, node b.2))
      = classes.map fun c =>
          (String.singleton c.1, node (slot + (classes.map Prod.fst).idxOf c.1)) := by
    rw [numbered, zipIdx_eq_map_idxOf nodup, List.map_map, List.map_map]
    rfl
  rw [Plan.tree, branches]
  refine .divide (fun c => node (slot + (classes.map Prod.fst).idxOf c)) difference divided ?_
  intro c member
  obtain ⟨i, inside, rfl⟩ := List.getElem_of_mem member
  have place : (classes.map Prod.fst).idxOf classes[i].1 = i := by
    have := nodup.idxOf_getElem i (by simpa using inside)
    rwa [List.getElem_map] at this
  rw [place]
  exact below i _ (List.getElem?_eq_getElem inside)

/-- The plans of a queue of fit groups exist, and the nodes assembled from them tell the
entries of each group apart. `done` groups came before the queue. -/
theorem plansFrom_separates {slot done : Nat} {queue : List Group} (fit : ∀ g ∈ queue, g.Fit)
    (place : slot = done + queue.length) :
    ∃ plans, plansFrom slot queue = .ok plans ∧ ∀ (i : Nat) (g : Group), queue[i]? = some g →
      ∃ t, (assembleFrom done plans)[i]? = some t ∧ Separates g.entries t := by
  fun_induction plansFrom slot queue generalizing done with
  | case1 slot => exact ⟨[], rfl, by simp⟩
  | case2 slot g rest fault found =>
    exact absurd found ((fit g List.mem_cons_self).step_ne_error fault)
  | case3 slot g rest tree found ih =>
    obtain ⟨plans, later, nodes⟩ := @ih (done + 1)
      (fun g' member => fit g' (List.mem_cons_of_mem _ member))
      (by rw [place, List.length_cons]; omega)
    refine ⟨.finished tree :: plans, by rw [later]; rfl, fun i g' at_i => ?_⟩
    cases i with
    | zero =>
      cases at_i
      exact ⟨_, rfl, (fit g List.mem_cons_self).separates_of_finished found⟩
    | succ i => exact nodes i g' at_i
  | case4 slot g rest position classes found ih =>
    have fit_g := fit g List.mem_cons_self
    obtain ⟨difference, divided⟩ := fit_g.uniform.of_divided found
    obtain ⟨plans, later, nodes⟩ := @ih (done + 1)
      (fun g' member => (List.mem_append.mp member).elim
        (fun old => fit g' (List.mem_cons_of_mem _ old)) (fit_g.of_mem_subgroups divided))
      (by simp only [place, List.length_append, List.length_cons, Group.subgroups, List.length_map]
          omega)
    refine ⟨.test position (numbered slot classes) :: plans, by rw [later]; rfl,
      fun i g' at_i => ?_⟩
    cases i with
    | zero =>
      cases at_i
      refine ⟨_, rfl, separates_tree_test difference divided fun i c at_i => ?_⟩
      -- The classes stand in the queue behind the groups that waited already.
      have queued : (rest ++ g.subgroups position classes)[rest.length + i]?
          = some ⟨c.2, position :: g.tested⟩ := by
        rw [getElem?_append_add, Group.subgroups, List.getElem?_map, at_i, Option.map_some]
      obtain ⟨t, node, separates⟩ := nodes _ _ queued
      have offset : slot + i - (done + 1) = rest.length + i := by
        rw [place, List.length_cons]
        omega
      rw [offset, node, Option.getD_some]
      exact separates
    | succ i =>
      rw [List.getElem?_cons_succ] at at_i
      exact nodes i g' (getElem?_append_of_eq_some at_i)

/-- Different keys of one length have a tree, which tells them apart. -/
theorem ofGroup_separates {entries : List Entry} (nonempty : entries ≠ [])
    (oneLength : ∃ n, ∀ e ∈ entries, e.length = n) (distinct : (entries.map Entry.chars).Nodup) :
    ∃ t, Tree.ofGroup entries = .ok t ∧ Separates entries t := by
  have fit : ∀ g ∈ [(⟨entries, []⟩ : Group)], g.Fit := by
    intro g member
    rw [List.mem_singleton.mp member]
    exact ⟨nonempty, oneLength, distinct, by simp⟩
  have place : 1 = 0 + [(⟨entries, []⟩ : Group)].length := rfl
  obtain ⟨plans, planned, nodes⟩ := plansFrom_separates fit place
  obtain ⟨t, node, separates⟩ := nodes 0 _ rfl
  have root : (assembleFrom 0 plans).headD .miss = t := by
    rw [List.headD_eq_head?_getD, List.head?_eq_getElem?, node, Option.getD_some]
  refine ⟨t, ?_, separates⟩
  rw [Tree.ofGroup, plansOf, planned]
  exact congrArg Except.ok root

end KeyTree
