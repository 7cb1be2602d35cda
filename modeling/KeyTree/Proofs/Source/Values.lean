/-
# Leaves of generated functions

Every leaf of a tree is written once: the leaves in the block of a tree and those of the subtrees
that it leaves to helpers are together the leaves of the tree. The functions of a lookup hold
these leaves and, as the only value besides theirs, the value reported on a miss.

* `Block.Writes`, `Emitter.Writes` — the leaves that a block and what it leaves hold.
* `emit_writes` — the block of a tree.
* `reads_functionsOf` — the lines of the functions of a lookup.
* `values_functionsOf_perm`, `of_mem_values_functionsOf` — the values of the functions of a lookup.
-/

import KeyTree.Proofs.Source.Reading
import KeyTree.Proofs.Tree.Shape
import Mathlib.Algebra.Order.Group.Multiset
import Mathlib.Tactic.Abel

namespace KeyTree.Source

/-- The leaves of some trees. -/
def leafEntries (trees : List Tree) : List Entry := trees.flatMap Tree.leaves

/-- The leaves of two lists of trees. -/
theorem leafEntries_append (first second : List Tree) :
    leafEntries (first ++ second) = leafEntries first ++ leafEntries second :=
  List.flatMap_append

/-- The leaves of a tree before other trees. -/
theorem leafEntries_cons (t : Tree) (rest : List Tree) :
    leafEntries (t :: rest) = t.leaves ++ leafEntries rest :=
  List.flatMap_cons

/-- `block.Writes name default written entries`: the block holds the leaves `written`, and with
what it leaves these are the leaves `entries`, in some order; only trees that test characters are
left to helpers. -/
structure Block.Writes (block : Block) (name : String) (default : Value)
    (written entries : List Entry) : Prop where
  holds : Holds name default block.body written
  perm : (written ++ leafEntries block.cut).Perm entries
  branching : ∀ t ∈ block.cut, Branching t

variable {name : String} {default : Value}

namespace Emitter

/-- The blocks of an emitter and what they leave hold the same leaves, whatever their helpers are
numbered. -/
def Writes (block : Emitter) (name : String) (default : Value) (entries : List Entry) : Prop :=
  ∀ helpers, ∃ written, (block helpers).Writes name default written entries

/-- The arms of a choice and what they leave hold the same leaves, whatever the helpers are
numbered. -/
def ArmsWrite (blocks : List (Condition × Emitter)) (name : String) (default : Value)
    (entries : List Entry) : Prop :=
  ∀ helpers, ∃ written, ArmsHold name default (arms helpers blocks).1 written ∧
    (written ++ leafEntries (arms helpers blocks).2).Perm entries ∧
    ∀ t ∈ (arms helpers blocks).2, Branching t

/-- Two parts of a text in front of two parts left over. -/
theorem perm_interleave (a b c d : List Entry) :
    ((a ++ b) ++ (c ++ d)).Perm ((a ++ c) ++ (b ++ d)) := by
  rw [← Multiset.coe_eq_coe]
  simp only [← Multiset.coe_add]
  abel

variable {first second : Emitter} {entries more : List Entry}

/-- The reading of a character before a block. -/
theorem after_read_writes (position : Int) (writes : first.Writes name default entries) :
    (after (.read position) first).Writes name default entries := by
  intro helpers
  obtain ⟨written, block⟩ := writes helpers
  exact ⟨written, block.holds.cons_read position, block.perm, block.branching⟩

/-- One of two blocks. -/
theorem either_writes {condition : Condition} (other : ∀ t, condition ≠ .keyIs t)
    (writes : first.Writes name default entries) (writes' : second.Writes name default more) :
    (either condition first second).Writes name default (entries ++ more) := by
  intro helpers
  obtain ⟨written, one⟩ := writes helpers
  obtain ⟨written', two⟩ := writes' (helpers + (first helpers).cut.length)
  refine ⟨written ++ written', one.holds.either other two.holds, ?_, ?_⟩
  · rw [either, leafEntries_append]
    exact (perm_interleave _ _ _ _).trans (one.perm.append two.perm)
  · intro t member
    rcases List.mem_append.mp member with member | member
    · exact one.branching t member
    · exact two.branching t member

/-- No arms hold no leaves. -/
theorem armsWrite_nil : ArmsWrite [] name default [] := by
  intro helpers
  exact ⟨[], .nil, .refl _, fun t member => absurd member List.not_mem_nil⟩

/-- An arm before others. -/
theorem armsWrite_cons {condition : Condition} (other : ∀ t, condition ≠ .keyIs t)
    (writes : first.Writes name default entries) {rest : List (Condition × Emitter)}
    (others : ArmsWrite rest name default more) :
    ArmsWrite ((condition, first) :: rest) name default (entries ++ more) := by
  intro helpers
  obtain ⟨written, one⟩ := writes helpers
  obtain ⟨written', holds, perm, branching⟩ := others (helpers + (first helpers).cut.length)
  refine ⟨written ++ written', .cons other one.holds holds, ?_, ?_⟩
  · rw [arms, leafEntries_append]
    exact (perm_interleave _ _ _ _).trans (one.perm.append perm)
  · intro t member
    rcases List.mem_append.mp member with member | member
    · exact one.branching t member
    · exact branching t member

/-- A choice among blocks. -/
theorem choose_writes {blocks : List (Condition × Emitter)}
    (writes : ArmsWrite blocks name default entries) :
    (choose blocks).Writes name default entries := by
  intro helpers
  obtain ⟨written, holds, perm, branching⟩ := writes helpers
  exact ⟨written, holds.choose, perm, branching⟩

end Emitter

/-- Branches and the leaves that their blocks hold, at any level. -/
abbrev BranchesWrite (name : String) (default : Value) :
    List (String × (Nat → Emitter)) → List (List Entry) → Prop :=
  List.Forall₂ fun b entries => ∀ level, Emitter.Writes (b.2 level) name default entries

/-- A choice among branches holds the leaves of the branches. -/
theorem armsWrite_branches {branches : List (String × (Nat → Emitter))}
    {entries : List (List Entry)} (writes : BranchesWrite name default branches entries)
    (level : Nat) :
    Emitter.ArmsWrite (branches.map fun b => (.characterIs b.1, b.2 level)) name default
      entries.flatten := by
  induction writes with
  | nil => exact Emitter.armsWrite_nil
  | cons first _ ih => exact Emitter.armsWrite_cons (by simp) (first level) ih

/-- The halved choice among branches holds the leaves of the branches. -/
theorem fan_writes {branches : List (String × (Nat → Emitter))} {entries : List (List Entry)}
    (writes : BranchesWrite name default branches entries) (level : Nat) :
    (fan level branches).Writes name default entries.flatten := by
  fun_induction fan level branches generalizing entries with
  | case1 level branches many inside lowerIH upperIH =>
    have lower := lowerIH (List.forall₂_take (branches.length / 2) writes)
    have upper := upperIH (List.forall₂_drop (branches.length / 2) writes)
    have both := @Emitter.either_writes _ _ _ _ _ _
      (.characterBelow branches[branches.length / 2].1) (by simp) lower upper
    rwa [← List.flatten_append, List.take_append_drop] at both
  | case2 level branches few =>
    exact Emitter.choose_writes (armsWrite_branches writes (level + 1))

/-! ### Blocks of trees -/

/-- A tree that tests characters is written with its leaves. -/
theorem emit_writes_of_branching {t : Tree} (branching : Branching t) (level : Nat) :
    (emit name t level).Writes name default t.leaves := by
  induction branching generalizing level with
  | leaf e =>
    intro helpers
    exact ⟨[e], .leaf e, .refl _, fun t member => absurd member List.not_mem_nil⟩
  | @charTest position branches ascending children ih =>
    rw [emit]
    split
    · intro helpers
      refine ⟨[], .call (helpers + 1), ?_, ?_⟩
      · simp [leafEntries]
      · exact fun t member => List.mem_singleton.mp member ▸ .charTest ascending children
    · rw [Tree.leaves, leavesBranches_eq, emitBranches_eq, List.flatMap_def]
      refine Emitter.after_read_writes position (fan_writes ?_ level)
      rw [BranchesWrite, List.forall₂_map_left_iff, List.forall₂_map_right_iff, List.forall₂_same]
      exact ih

/-- The arms of a chain of lengths are written with its leaves. -/
theorem armsWrite_chain {t : Tree} (chain : Chain t) (level : Nat) :
    Emitter.ArmsWrite (emitChain name t level) name default t.leaves := by
  induction chain with
  | miss =>
    rw [emitChain]
    · exact Emitter.armsWrite_nil
    · simp
  | lengthTest first _ ih =>
    rw [emitChain, Tree.leaves]
    exact Emitter.armsWrite_cons (by simp) (emit_writes_of_branching first (level + 1)) ih

/-- A tree is written with its leaves. -/
theorem emit_writes {t : Tree} (dispatching : Dispatching t) (level : Nat) :
    (emit name t level).Writes name default t.leaves := by
  induction dispatching generalizing level with
  | chain chain =>
    have arms := @armsWrite_chain name default _ chain level
    cases chain with
    | miss =>
      intro helpers
      exact ⟨[], .nil, .refl _, fun t member => absurd member List.not_mem_nil⟩
    | lengthTest =>
      rw [emitChain] at arms
      rw [emit]
      exact Emitter.choose_writes arms
  | lengthSplit _ _ lower upper =>
    rw [emit, Tree.leaves]
    exact Emitter.either_writes (by simp) (lower (level + 1)) (upper (level + 1))

/-! ### Functions -/

/-- The answer on a miss belongs to the frame. -/
theorem reads_missStatement (level : Nat) :
    Reads name default (Statement.blockLines level [missStatement default]) [] :=
  .frame .miss .nil

/-- The helpers of a queue hold the leaves in the queue, and each the value reported on a
miss. -/
theorem helpersFrom_writes (done : Nat) {queue : List Tree}
    (branching : ∀ t ∈ queue, Branching t) :
    ∃ written, written.Perm (leafEntries queue) ∧
      Reads name default ((helpersFrom name default done queue).flatMap Function.lines) written ∧
      ((helpersFrom name default done queue).flatMap Function.values).Perm
        (List.replicate (helpersFrom name default done queue).length default
          ++ written.map Entry.value) := by
  fun_induction helpersFrom name default done queue with
  | case1 done => exact ⟨[], .refl _, .nil, .refl _⟩
  | case2 done t rest block ih =>
    obtain ⟨first, writes⟩ := @emit_writes_of_branching name default t
      (branching t List.mem_cons_self) bodyLevel (done + 1 + rest.length)
    obtain ⟨others, leaves, reads, values⟩ := ih fun t' member => (List.mem_append.mp member).elim
      (fun old => branching t' (List.mem_cons_of_mem _ old)) (writes.branching t')
    refine ⟨first ++ others, ?_, ?_, ?_⟩
    · have split := writes.perm
      rw [leafEntries_append] at leaves
      rw [leafEntries_cons]
      rw [← Multiset.coe_eq_coe] at split leaves ⊢
      simp only [← Multiset.coe_add] at split leaves ⊢
      rw [leaves, ← split]
      abel
    · rw [List.flatMap_cons]
      refine .append ?_ reads
      rw [Function.lines, blockLines_append]
      have body := (writes.holds.reads 1).append (reads_missStatement 1)
      rw [List.append_nil] at body
      exact .frame (.helper (done + 1)) body
    · rw [List.flatMap_cons, Function.values, blockValues_append, List.length_cons,
        List.replicate_succ, List.map_append, writes.holds.values]
      rw [← Multiset.coe_eq_coe] at values ⊢
      simp only [← Multiset.coe_add, ← Multiset.cons_coe] at values ⊢
      rw [values]
      simp only [missStatement, Statement.blockValues, Statement.values, List.append_nil,
        ← Multiset.singleton_add, Multiset.coe_singleton]
      abel

/-- The statements that decide about a text hold the leaves of the block of the tree. -/
theorem holds_decision {root : Tree} {written : List Entry}
    (holds : Holds name default (mainBlock name root).body written) :
    Holds name default (decision name root) written := by
  cases root with
  | miss => exact holds
  | leaf | charTest | lengthTest | lengthSplit => exact holds.cons_measure

/-- The functions of a lookup hold the leaves of its tree, and the value reported on a miss once
for each helper and twice for the main function. -/
theorem functionsOf_writes (name : String) {root : Tree} (default : Value)
    (dispatching : Dispatching root) :
    ∃ written, written.Perm root.leaves ∧
      Reads name default ((functionsOf name none root default).flatMap Function.lines) written ∧
      ∀ doc, ((functionsOf name doc root default).flatMap Function.values).Perm
        (List.replicate ((helpersOf name root default).length + 2) default
          ++ written.map Entry.value) := by
  obtain ⟨first, writes⟩ := @emit_writes name default root dispatching bodyLevel 0
  obtain ⟨others, leaves, reads, values⟩ := @helpersFrom_writes name default 0 _ writes.branching
  have main := holds_decision writes.holds
  refine ⟨first ++ others, (leaves.append_left first).trans writes.perm, ?_, fun doc => ?_⟩
  · rw [functionsOf, List.flatMap_cons]
    refine .append ?_ reads
    have body := (main.reads 1).append (reads_missStatement 1)
    rw [List.append_nil, ← blockLines_append] at body
    exact .frame .main (.frame (.test .first nofun) (.frame .miss body))
  · rw [functionsOf, List.flatMap_cons, Function.values, mainFunction, Statement.blockValues,
      blockValues_append, main.values, List.replicate_succ, List.replicate_succ, List.map_append]
    change (List.flatMap Function.values (helpersOf name root default)).Perm
      (List.replicate (helpersOf name root default).length default ++ _) at values
    rw [← Multiset.coe_eq_coe] at values ⊢
    simp only [← Multiset.coe_add, ← Multiset.cons_coe] at values ⊢
    rw [values]
    simp only [missStatement, Statement.blockValues, Statement.values, Statement.armValues,
      List.append_nil, ← Multiset.singleton_add, Multiset.coe_singleton]
    abel

/-- The functions of a lookup hold the values of the leaves of its tree, and the value
reported on a miss once for each helper and twice for the main function. -/
theorem values_functionsOf_perm (name : String) (doc : Option String) {root : Tree}
    (default : Value) (dispatching : Dispatching root) :
    ((functionsOf name doc root default).flatMap Function.values).Perm
      (List.replicate ((helpersOf name root default).length + 2) default
        ++ root.leaves.map Entry.value) := by
  obtain ⟨written, leaves, -, values⟩ := functionsOf_writes name default dispatching
  exact (values doc).trans ((leaves.map Entry.value).append_left _)

/-- The functions of a lookup hold the values of the leaves of its tree and the value reported
on a miss, and no others. -/
theorem of_mem_values_functionsOf {name : String} {doc : Option String} {root : Tree}
    {default : Value} (dispatching : Dispatching root) {v : Value}
    (member : v ∈ (functionsOf name doc root default).flatMap Function.values) :
    v = default ∨ ∃ e ∈ root.leaves, e.value = v := by
  have written := (values_functionsOf_perm name doc default dispatching).mem_iff.mp member
  rcases List.mem_append.mp written with missed | found
  · exact .inl (List.eq_of_mem_replicate missed)
  · exact .inr (List.mem_map.mp found)

end KeyTree.Source
