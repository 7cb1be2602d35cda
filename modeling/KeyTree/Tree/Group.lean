/-
# The tree of a group

The subtree for keys of one length. A group of several keys is divided at the
lowest position where they differ, and the classes wait in a queue for their turn;
what becomes of each group is a plan that names its classes by their place in the
queue. The nodes are assembled from the last plan to the first, so that the
children of a node exist before it.

* `Group.step` — what becomes of one group.
* `plansFrom` — the plans of the groups in a queue.
* `assembleFrom`, `Tree.ofGroup` — the nodes of the plans, and the tree.
-/

import KeyTree.Entry.Fault
import KeyTree.Entry.Split
import KeyTree.Tree.Basic

namespace KeyTree

/-- Keys of one length that agree at every position tested on the way to them. -/
structure Group where
  entries : List Entry
  tested : List Nat := []
  deriving Repr

namespace Group

/-- What becomes of a group: it is a finished tree, or it is divided at a
position. -/
inductive Step where
  | finished (tree : Tree)
  | divided (position : Nat) (classes : List (Char × List Entry))

/-- A single key is a leaf, and several keys are divided where they differ. Keys that
differ nowhere are duplicates, of which the first two are named; a group without keys has
none. -/
def step (g : Group) : Except BuildFault Step :=
  match g.entries with
  | [] => .error .emptyGroup
  | [entry] => .ok (.finished (.leaf entry))
  | first :: second :: rest =>
    match firstDifference (g.tested.contains ·) (first :: second :: rest) with
    | .error fault => .error (.read fault)
    | .ok none => .error (.duplicateKey first.text first.index second.index)
    | .ok (some position) =>
      match byCharacter position (first :: second :: rest) with
      | .error fault => .error (.read fault)
      | .ok classes => .ok (.divided position classes)

/-- The groups of the classes of a divided group. -/
def subgroups (g : Group) (position : Nat) (classes : List (Char × List Entry)) : List Group :=
  classes.map fun c => ⟨c.2, position :: g.tested⟩

/-- The most groups that can come out of a group, itself included. -/
def weight (g : Group) : Nat := max 1 (2 * g.entries.length - 1)

/-- The classes of a group weigh together twice their keys, less one each. -/
theorem total_weight_subgroups (g : Group) (position : Nat) (classes : List (Char × List Entry))
    (nonempty : ∀ c ∈ classes, c.2 ≠ []) :
    total weight (g.subgroups position classes) + classes.length
      = 2 * total (fun c => c.2.length) classes := by
  induction classes with
  | nil => rfl
  | cons c rest ih =>
    have pos : 0 < c.2.length := List.length_pos_iff.2 (nonempty c List.mem_cons_self)
    have rest := ih fun d member => nonempty d (List.mem_cons_of_mem _ member)
    simp only [subgroups, total_map, weight] at rest
    simp only [subgroups, List.map_cons, total_cons, total_map, List.length_cons, weight]
    omega

/-- The groups that a group is divided into weigh together less than the group. -/
theorem total_weight_lt {g : Group} {position : Nat} {classes : List (Char × List Entry)}
    (divided : g.step = .ok (.divided position classes)) :
    total weight (g.subgroups position classes) < g.weight := by
  unfold step at divided
  match entries : g.entries with
  | [] => simp [entries] at divided
  | [_] => simp [entries] at divided
  | first :: second :: rest =>
    rw [entries] at divided
    simp only at divided
    split at divided
    · simp at divided
    · simp at divided
    · rename_i p found
      split at divided
      · simp at divided
      · rename_i cs split
        obtain ⟨rfl, rfl⟩ : p = position ∧ cs = classes := by simpa using divided
        have keys := length_byCharacter split
        have two := two_le_length_byCharacter found split
        have sum := total_weight_subgroups g p cs fun c member =>
          ne_nil_of_mem_byCharacter split member
        simp only [weight, entries]
        omega

end Group

/-! ### Plans -/

/-- What becomes of a group in a queue: a finished tree, or a test whose branches
lead to places in the queue. -/
inductive Plan where
  | finished (tree : Tree)
  | test (position : Nat) (branches : List (Char × Nat))

/-- The characters of classes, each with its place when the first of the classes
takes the place `slot`. -/
def numbered (slot : Nat) (classes : List (Char × List Entry)) : List (Char × Nat) :=
  (classes.map Prod.fst).zipIdx slot

/-- The plans of the groups in a queue; the next group that joins it takes the place
`slot`. -/
def plansFrom (slot : Nat) : List Group → Except BuildFault (List Plan)
  | [] => .ok []
  | g :: rest =>
    match _found : g.step with
    | .error fault => .error fault
    | .ok (.finished tree) => (.finished tree :: ·) <$> plansFrom slot rest
    | .ok (.divided position classes) =>
      (.test position (numbered slot classes) :: ·) <$>
        plansFrom (slot + classes.length) (rest ++ g.subgroups position classes)
termination_by queue => total Group.weight queue
decreasing_by
  · simp only [total_cons, Group.weight]
    omega
  · have := Group.total_weight_lt _found
    simp only [total_append, total_cons]
    omega

/-- The plans for a group of keys and for all groups that come out of it. -/
def plansOf (entries : List Entry) : Except BuildFault (List Plan) :=
  plansFrom 1 [⟨entries, []⟩]

/-! ### Assembly -/

/-- The node of a plan, given the nodes at the places in the queue. -/
def Plan.tree (node : Nat → Tree) : Plan → Tree
  | .finished tree => tree
  | .test position branches =>
    .charTest position (branches.map fun b => (String.singleton b.1, node b.2))

/-- The nodes of plans whose first has the place `slot`. The nodes of the later plans
come first, because the branches of a plan lead to later places only. -/
def assembleFrom (slot : Nat) : List Plan → List Tree
  | [] => []
  | plan :: rest =>
    let later := assembleFrom (slot + 1) rest
    plan.tree (fun place => (later[place - (slot + 1)]?).getD .miss) :: later

/-- The tree of a group of keys of one length. -/
def Tree.ofGroup (entries : List Entry) : Except BuildFault Tree :=
  (fun plans => (assembleFrom 0 plans).headD .miss) <$> plansOf entries

end KeyTree
