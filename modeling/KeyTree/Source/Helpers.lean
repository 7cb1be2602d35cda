/-
# Functions of a tree

The main function of a lookup with its helpers. The subtrees that a function leaves
to helpers wait in a queue; writing a helper can add to it. The queue empties,
because a helper leaves less than its own tree to further helpers.

* `mainFunction` — the function that is called from outside.
* `helpersFrom` — the helpers of the subtrees in a queue.
* `functionsOf` — the main function followed by its helpers.
-/

import KeyTree.Source.Emission

namespace KeyTree.Source

/-! ### What is left to helpers -/

/-- The nodes that a block leaves to helpers. -/
def Block.cutSize (b : Block) : Nat := total Tree.size b.cut

/-- The branches of a character with their blocks. -/
theorem emitBranches_eq (name : String) (branches : List (String × Tree)) :
    emitBranches name branches = branches.map fun b => (b.1, emit name b.2) := by
  induction branches with
  | nil => rfl
  | cons b rest ih => simp [emitBranches, ih]

/-- The branches of two parts have the nodes of both. -/
theorem sizeBranches_append (as bs : List (String × Tree)) :
    Tree.sizeBranches (as ++ bs) = Tree.sizeBranches as + Tree.sizeBranches bs := by
  induction as with
  | nil => simp [Tree.sizeBranches]
  | cons a rest ih => simp [Tree.sizeBranches, ih]; omega

/-- A choice among blocks leaves to helpers what its blocks leave to them. -/
theorem cutSize_choose_le {blocks : List (Condition × Emitter)} {sizes : List Nat}
    (same : blocks.length = sizes.length)
    (bounded : ∀ b ∈ blocks.zip sizes, ∀ helpers, (b.1.2 helpers).cutSize ≤ b.2)
    (helpers : Nat) : (Emitter.choose blocks helpers).cutSize ≤ total id sizes := by
  have arms (helpers : Nat) : total Tree.size (Emitter.arms helpers blocks).2 ≤ total id sizes := by
    induction blocks generalizing sizes helpers with
    | nil => simp [Emitter.arms]
    | cons b rest ih =>
      match sizes, same, bounded with
      | n :: ns, same, bounded =>
        have first := bounded (b, n) (by simp) helpers
        have others := @ih ns (by simpa using same)
          (fun c member => bounded c (by simp [member])) (helpers + (b.2 helpers).cut.length)
        simp only [Block.cutSize] at first
        simp only [Emitter.arms, total_append, total_cons, id]
        omega
  exact arms helpers

/-- A choice among branches leaves to helpers at most the nodes under the
branches. -/
theorem cutSize_fan_le (name : String) (branches : List (String × Tree))
    (bounded : ∀ b ∈ branches, ∀ level helpers, (emit name b.2 level helpers).cutSize ≤ b.2.size)
    (level helpers : Nat) :
    (fan level (branches.map fun b => (b.1, emit name b.2)) helpers).cutSize
      ≤ Tree.sizeBranches branches := by
  induction h : branches.length using Nat.strongRecOn generalizing branches level helpers with
  | ind n ih =>
    subst h
    rw [fan]
    split
    · rename_i many
      simp only [linearBranchLimit, List.length_map] at many
      have below := ih (branches.take (branches.length / 2)).length
        (by simp only [List.length_take]; omega) (branches.take (branches.length / 2))
        (fun b member => bounded b (List.mem_of_mem_take member)) (level + 1) helpers rfl
      have above := fun helpers => ih (branches.drop (branches.length / 2)).length
        (by simp only [List.length_drop]; omega) (branches.drop (branches.length / 2))
        (fun b member => bounded b (List.mem_of_mem_drop member)) (level + 1) helpers rfl
      have whole := sizeBranches_append (branches.take (branches.length / 2))
        (branches.drop (branches.length / 2))
      rw [List.take_append_drop] at whole
      simp only [Emitter.either, Block.cutSize, total_append, List.length_map,
        ← List.map_take, ← List.map_drop] at below above ⊢
      have := above (helpers + (fan (level + 1)
        ((branches.take (branches.length / 2)).map fun b => (b.1, emit name b.2))
          helpers).cut.length)
      omega
    · have sizes : Tree.sizeBranches branches = total id (branches.map fun b => b.2.size) := by
        simp [← Tree.total_size_branches]
      rw [sizes]
      apply cutSize_choose_le
      · simp
      · intro b member helpers
        rw [List.map_map, List.zip_map', List.mem_map] at member
        obtain ⟨c, inside, rfl⟩ := member
        exact bounded c inside (level + 1) helpers

mutual

/-- A block leaves to helpers at most the nodes of its tree. -/
theorem cutSize_emit_le (name : String) : ∀ (t : Tree) (level helpers : Nat),
    (emit name t level helpers).cutSize ≤ t.size
  | .miss, _, _ => by simp [emit, Block.cutSize]
  | .leaf _, _, _ => by simp [emit, Block.cutSize]
  | .charTest position branches, level, helpers => by
    have inner := cutSize_fan_le name branches (cutSize_branches_le name branches) level helpers
    rw [emit]
    split
    · simp [Block.cutSize]
    · simp only [Emitter.after, emitBranches_eq, Block.cutSize, Tree.size] at inner ⊢
      omega
  | .lengthTest n same other, level, helpers => by
    have first := cutSize_emit_le name same (level + 1) helpers
    have others := cutSize_chain_le name other level
      (helpers + (emit name same (level + 1) helpers).cut.length)
    simp only [emit, Emitter.choose, Emitter.arms, Block.cutSize, total_append,
      Tree.size] at first others ⊢
    omega
  | .lengthSplit pivot below atLeast, level, helpers => by
    have first := cutSize_emit_le name below (level + 1) helpers
    have second := cutSize_emit_le name atLeast (level + 1)
      (helpers + (emit name below (level + 1) helpers).cut.length)
    simp only [emit, Emitter.either, Block.cutSize, total_append,
      Tree.size] at first second ⊢
    omega

/-- The block of each branch leaves to helpers at most the nodes of its tree. -/
theorem cutSize_branches_le (name : String) : ∀ (branches : List (String × Tree)),
    ∀ b ∈ branches, ∀ level helpers, (emit name b.2 level helpers).cutSize ≤ b.2.size
  | [], b, member => by simp at member
  | (label, child) :: rest, b, member => by
    intro level helpers
    rcases List.mem_cons.1 member with rfl | member
    · exact cutSize_emit_le name child level helpers
    · exact cutSize_branches_le name rest b member level helpers

/-- The further arms of a chain leave to helpers at most the nodes of its tree. -/
theorem cutSize_chain_le (name : String) : ∀ (t : Tree) (level helpers : Nat),
    total Tree.size (Emitter.arms helpers (emitChain name t level)).2 ≤ t.size
  | .miss, _, _ => by simp [emitChain, Emitter.arms]
  | .leaf _, _, _ => by simp [emitChain, Emitter.arms]
  | .charTest _ _, _, _ => by simp [emitChain, Emitter.arms]
  | .lengthTest n same other, level, helpers => by
    have first := cutSize_emit_le name same (level + 1) helpers
    have others := cutSize_chain_le name other level
      (helpers + (emit name same (level + 1) helpers).cut.length)
    simp only [emitChain, Emitter.arms, Block.cutSize, total_append,
      Tree.size] at first others ⊢
    omega
  | .lengthSplit _ _ _, _, _ => by simp [emitChain, Emitter.arms]

end

/-- A block that is not nested too deeply leaves to helpers less than its tree. -/
theorem cutSize_emit_lt (name : String) (t : Tree) (level : Nat) (inside : level ≤ nestingLimit)
    (helpers : Nat) : (emit name t level helpers).cutSize < t.size := by
  cases t with
  | miss => simp [emit, Block.cutSize, Tree.size]
  | leaf entry => simp [emit, Block.cutSize, Tree.size]
  | charTest position branches =>
    have inner := cutSize_fan_le name branches (cutSize_branches_le name branches) level helpers
    simp only [emit, Nat.not_lt.2 inside, if_false, Emitter.after, emitBranches_eq,
      Block.cutSize, Tree.size] at inner ⊢
    omega
  | lengthTest n same other =>
    have first := cutSize_emit_le name same (level + 1) helpers
    have others := cutSize_chain_le name other level
      (helpers + (emit name same (level + 1) helpers).cut.length)
    simp only [emit, Emitter.choose, Emitter.arms, Block.cutSize, total_append,
      Tree.size] at first others ⊢
    omega
  | lengthSplit pivot below atLeast =>
    have first := cutSize_emit_le name below (level + 1) helpers
    have second := cutSize_emit_le name atLeast (level + 1)
      (helpers + (emit name below (level + 1) helpers).cut.length)
    simp only [emit, Emitter.either, Block.cutSize, total_append,
      Tree.size] at first second ⊢
    omega

/-! ### Functions -/

/-- The level of the statements of a function. -/
def bodyLevel : Nat := 1

/-- The statement that ends a function: the key is not found. -/
def missStatement (default : Value) : Statement := .answer false default

/-- The helpers of the subtrees in a queue, when `done` helpers are written. -/
def helpersFrom (name : String) (default : Value) (done : Nat) : List Tree → List Function
  | [] => []
  | t :: rest =>
    let block := emit name t bodyLevel (done + 1 + rest.length)
    { name := helperName name (done + 1), body := block.body ++ [missStatement default] }
      :: helpersFrom name default (done + 1) (rest ++ block.cut)
termination_by queue => total Tree.size queue
decreasing_by
  have := cutSize_emit_lt name t bodyLevel (by decide) (done + 1 + rest.length)
  simp only [Block.cutSize] at this
  simp only [total_append, total_cons]
  omega

/-- The block of a tree in the main function. -/
def mainBlock (name : String) (root : Tree) : Block := emit name root bodyLevel 0

/-- The statements that decide about a text: none for a tree that is a miss. -/
def decision (name : String) : Tree → List Statement
  | .miss => []
  | root => .measure :: (mainBlock name root).body

/-- The function that is called from outside. A key that is not a text is not
found. -/
def mainFunction (name : String) (doc : Option String) (root : Tree) (default : Value) :
    Function where
  name
  doc
  body :=
    .choose [(.keyIsNoText, [missStatement default])]
      :: (decision name root ++ [missStatement default])

/-- The helpers of a main function. -/
def helpersOf (name : String) (root : Tree) (default : Value) : List Function :=
  helpersFrom name default 0 (mainBlock name root).cut

/-- The main function of a tree followed by its helpers. -/
def functionsOf (name : String) (doc : Option String) (root : Tree) (default : Value) :
    List Function :=
  mainFunction name doc root default :: helpersOf name root default

end KeyTree.Source
