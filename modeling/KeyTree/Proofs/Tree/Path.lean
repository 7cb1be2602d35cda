/-
# Paths

A path leads from the root of a tree to one of its nodes. It consists of the turns taken
on the way: what the test of each node above was found to be.

* `Turn` — one step down, with the answer to the test of the node above.
* `Tree.Path` — the turns from a tree to one of its subtrees.
* `Tree.mem_nodes_iff_exists_path` — the nodes of a tree are the ends of its paths.
* `Tree.Path.of_balanced` — a path through tests of the length to a test of a character.
-/

import KeyTree.Proofs.Tree.Traversal
import KeyTree.Tree.Dispatch

namespace KeyTree

/-- One step down a tree: the length is the one tested or another one, it is below a pivot
or not, or a position holds the character of a branch. -/
inductive Turn where
  | same (length : Int)
  | other (length : Int)
  | lower (pivot : Int)
  | upper (pivot : Int)
  | branch (position : Int) (label : String)
  deriving DecidableEq, Repr

namespace Turn

/-- The length that a turn makes sure of. -/
def length? : Turn → Option Int
  | .same n => some n
  | _ => none

/-- The position whose character a turn depends on. -/
def position? : Turn → Option Int
  | .branch p _ => some p
  | _ => none

end Turn

/-- The lengths made sure of by some turns. -/
def lengthsOf (turns : List Turn) : List Int := turns.filterMap Turn.length?

/-- The positions read for some turns, in order. -/
def positionsOf (turns : List Turn) : List Int := turns.filterMap Turn.position?

namespace Tree

/-- `t.Path turns node`: the turns lead from the root of `t` to its subtree `node`. -/
inductive Path : Tree → List Turn → Tree → Prop where
  | here (t : Tree) : Path t [] t
  | same {n : Int} {s o node : Tree} {turns : List Turn} (rest : Path s turns node) :
      Path (.lengthTest n s o) (.same n :: turns) node
  | other {n : Int} {s o node : Tree} {turns : List Turn} (rest : Path o turns node) :
      Path (.lengthTest n s o) (.other n :: turns) node
  | lower {n : Int} {b a node : Tree} {turns : List Turn} (rest : Path b turns node) :
      Path (.lengthSplit n b a) (.lower n :: turns) node
  | upper {n : Int} {b a node : Tree} {turns : List Turn} (rest : Path a turns node) :
      Path (.lengthSplit n b a) (.upper n :: turns) node
  | branch {p : Int} {branches : List (String × Tree)} {b : String × Tree} {node : Tree}
      {turns : List Turn} (member : b ∈ branches) (rest : Path b.2 turns node) :
      Path (.charTest p branches) (.branch p b.1 :: turns) node

/-! ### Nodes as ends of paths -/

/-- The end of a path is a node. -/
theorem Path.mem_preorder {t node : Tree} {turns : List Turn} (path : t.Path turns node) :
    node ∈ t.preorder := by
  induction path with
  | here t => simp [preorder_eq t]
  | same rest ih => simp [preorder, ih]
  | other rest ih => simp [preorder, ih]
  | lower rest ih => simp [preorder, ih]
  | upper rest ih => simp [preorder, ih]
  | @branch p branches b node turns member rest ih =>
    rw [preorder, preorderBranches_eq]
    exact List.mem_cons_of_mem _ (List.mem_flatMap.mpr ⟨b, member, ih⟩)

mutual

/-- A path leads to every node. -/
theorem exists_path {node : Tree} : ∀ t : Tree, node ∈ t.preorder → ∃ turns, t.Path turns node
  | .miss, member => by
    obtain rfl := List.mem_singleton.mp member
    exact ⟨_, .here _⟩
  | .leaf _, member => by
    obtain rfl := List.mem_singleton.mp member
    exact ⟨_, .here _⟩
  | .charTest _ branches, member => by
    rcases List.mem_cons.mp member with rfl | member
    · exact ⟨_, .here _⟩
    · obtain ⟨b, inside, turns, path⟩ := exists_path_branches branches member
      exact ⟨_, .branch inside path⟩
  | .lengthTest _ same other, member => by
    rcases List.mem_cons.mp member with rfl | member
    · exact ⟨_, .here _⟩
    · rcases List.mem_append.mp member with member | member
      · obtain ⟨turns, path⟩ := exists_path same member
        exact ⟨_, .same path⟩
      · obtain ⟨turns, path⟩ := exists_path other member
        exact ⟨_, .other path⟩
  | .lengthSplit _ below atLeast, member => by
    rcases List.mem_cons.mp member with rfl | member
    · exact ⟨_, .here _⟩
    · rcases List.mem_append.mp member with member | member
      · obtain ⟨turns, path⟩ := exists_path below member
        exact ⟨_, .lower path⟩
      · obtain ⟨turns, path⟩ := exists_path atLeast member
        exact ⟨_, .upper path⟩

/-- A path from some child leads to every node under branches. -/
theorem exists_path_branches {node : Tree} : ∀ branches : List (String × Tree),
    node ∈ preorderBranches branches → ∃ b ∈ branches, ∃ turns, b.2.Path turns node
  | [], member => absurd member List.not_mem_nil
  | (label, child) :: rest, member => by
    rcases List.mem_append.mp member with member | member
    · exact ⟨_, List.mem_cons_self, exists_path child member⟩
    · obtain ⟨b, inside, path⟩ := exists_path_branches rest member
      exact ⟨b, List.mem_cons_of_mem _ inside, path⟩

end

/-- The nodes of a tree are the ends of its paths. -/
theorem mem_nodes_iff_exists_path {t node : Tree} :
    node ∈ t.nodes ↔ ∃ turns, t.Path turns node := by
  rw [nodes_eq_preorder]
  constructor
  · exact exists_path t
  · rintro ⟨turns, path⟩
    exact path.mem_preorder

/-! ### Paths through tests of the length -/

/-- The turns make sure of the length of one of some subtrees, of no other length, and then
lead through the subtree to a node. -/
def Enters (subtrees : List (Int × Tree)) (turns : List Turn) (node : Tree) : Prop :=
  ∃ s ∈ subtrees, ∃ before rest, turns = before ++ .same s.1 :: rest ∧
    lengthsOf before = [] ∧ positionsOf before = [] ∧ s.2.Path rest node

/-- A path that goes into one of some subtrees goes into one of more subtrees, also behind a
turn that neither makes sure of a length nor reads a character. -/
theorem Enters.behind {subtrees subtrees' : List (Int × Tree)} {turns : List Turn} {node : Tree}
    {turn : Turn} (enters : Enters subtrees turns node) (sub : subtrees ⊆ subtrees')
    (noLength : turn.length? = none) (noPosition : turn.position? = none) :
    Enters subtrees' (turn :: turns) node := by
  obtain ⟨s, member, before, rest, rfl, lengths, positions, path⟩ := enters
  refine ⟨s, sub member, turn :: before, rest, rfl, ?_, ?_, path⟩
  · rw [lengthsOf, List.filterMap_cons_none noLength]
    exact lengths
  · rw [positionsOf, List.filterMap_cons_none noPosition]
    exact positions

/-- A path through a chain of tests of the length to a test of a character goes into one of
the subtrees. -/
theorem Path.of_lengthChain {subtrees : List (Int × Tree)} {turns : List Turn} {p : Int}
    {branches : List (String × Tree)}
    (path : (lengthChain subtrees).Path turns (.charTest p branches)) :
    Enters subtrees turns (.charTest p branches) := by
  induction subtrees generalizing turns with
  | nil => cases path
  | cons s rest ih =>
    obtain ⟨n, subtree⟩ := s
    rw [lengthChain] at path
    cases path with
    | same inner => exact ⟨(n, subtree), List.mem_cons_self, [], _, rfl, rfl, rfl, inner⟩
    | other later => exact (ih later).behind (List.subset_cons_self _ _) rfl rfl

/-- A path through the tests of the length to a test of a character goes into one of the
subtrees. -/
theorem Path.of_balanced {subtrees : List (Int × Tree)} {turns : List Turn} {p : Int}
    {branches : List (String × Tree)}
    (path : (balanced subtrees).Path turns (.charTest p branches)) :
    Enters subtrees turns (.charTest p branches) := by
  fun_induction balanced subtrees generalizing turns with
  | case1 subtrees many inside lowerIH upperIH =>
    cases path with
    | lower rest => exact (lowerIH rest).behind (List.take_subset _ _) rfl rfl
    | upper rest => exact (upperIH rest).behind (List.drop_subset _ _) rfl rfl
  | case2 subtrees few => exact Path.of_lengthChain path

end Tree

end KeyTree
