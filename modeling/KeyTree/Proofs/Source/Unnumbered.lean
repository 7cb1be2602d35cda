/-
# Code and the order of the declaration

The functions of a tree hold the keys and the values of its leaves, but not their places in the
declaration. So trees that are the same but for these places have the same functions.

* `emit_unnumbered` — the block of a tree.
* `functionsOf_unnumbered`, `functionsOf_congr` — the functions of a tree.
-/

import KeyTree.Proofs.Tree.Unnumbered
import KeyTree.Source.Helpers

namespace KeyTree.Source

/-- A block that leaves trees without places to helpers. -/
def Block.unnumbered (b : Block) : Block := ⟨b.body, b.cut.map Tree.unnumbered⟩

namespace Emitter

/-- Blocks that leave trees without places to helpers. -/
def unnumbered (block : Emitter) : Emitter := fun helpers => (block helpers).unnumbered

/-- A statement before a block. -/
theorem after_unnumbered (s : Statement) (block : Emitter) :
    after s block.unnumbered = (after s block).unnumbered :=
  rfl

/-- One of two blocks. -/
theorem either_unnumbered (condition : Condition) (yes no : Emitter) :
    either condition yes.unnumbered no.unnumbered = (either condition yes no).unnumbered := by
  funext helpers
  simp [either, unnumbered, Block.unnumbered]

/-- The arms of a choice. -/
theorem arms_unnumbered (helpers : Nat) (blocks : List (Condition × Emitter)) :
    arms helpers (blocks.map fun b => (b.1, b.2.unnumbered))
      = ((arms helpers blocks).1, (arms helpers blocks).2.map Tree.unnumbered) := by
  induction blocks generalizing helpers with
  | nil => rfl
  | cons b rest ih => simp [arms, unnumbered, Block.unnumbered, ih]

/-- A choice among blocks. -/
theorem choose_unnumbered (blocks : List (Condition × Emitter)) :
    choose (blocks.map fun b => (b.1, b.2.unnumbered)) = (choose blocks).unnumbered := by
  funext helpers
  simp [choose, unnumbered, Block.unnumbered, arms_unnumbered]

end Emitter

/-- The branches of a character. -/
theorem fan_unnumbered (level : Nat) (branches : List (String × (Nat → Emitter))) :
    fan level (branches.map fun b => (b.1, fun level => (b.2 level).unnumbered))
      = (fan level branches).unnumbered := by
  fun_induction fan level branches with
  | case1 level branches many inside lowerIH upperIH =>
    rw [fan, dif_pos (by rwa [List.length_map])]
    simp only [List.length_map, ← List.map_take, ← List.map_drop, lowerIH, upperIH,
      List.getElem_map, Emitter.either_unnumbered]
  | case2 level branches few =>
    rw [fan, dif_neg (by rwa [List.length_map]), ← Emitter.choose_unnumbered, List.map_map,
      List.map_map]
    rfl

mutual

/-- The block of a tree without places. -/
theorem emit_unnumbered (name : String) : ∀ (t : Tree) (level : Nat),
    emit name t.unnumbered level = (emit name t level).unnumbered
  | .miss, _ => rfl
  | .leaf _, _ => rfl
  | .charTest position branches, level => by
    rw [Tree.unnumbered, emit, emit]
    split
    · rfl
    · rw [emitBranches_unnumbered, fan_unnumbered, Emitter.after_unnumbered]
  | .lengthTest n same other, level => by
    rw [Tree.unnumbered, emit, emit, emit_unnumbered name same, emitChain_unnumbered,
      ← Emitter.choose_unnumbered, List.map_cons]
  | .lengthSplit pivot below atLeast, level => by
    rw [Tree.unnumbered, emit, emit, emit_unnumbered name below, emit_unnumbered name atLeast,
      Emitter.either_unnumbered]

/-- The blocks of branches without places. -/
theorem emitBranches_unnumbered (name : String) : ∀ (branches : List (String × Tree)),
    emitBranches name (Tree.unnumberedBranches branches)
      = (emitBranches name branches).map fun b => (b.1, fun level => (b.2 level).unnumbered)
  | [] => rfl
  | (label, child) :: rest => by
    rw [Tree.unnumberedBranches, emitBranches, emitBranches, emitBranches_unnumbered name rest,
      List.map_cons]
    exact congrArg (fun block => (label, block) :: _) (funext (emit_unnumbered name child))

/-- The further arms of a chain without places. -/
theorem emitChain_unnumbered (name : String) : ∀ (t : Tree) (level : Nat),
    emitChain name t.unnumbered level
      = (emitChain name t level).map fun b => (b.1, b.2.unnumbered)
  | .miss, _ => by simp [emitChain, Tree.unnumbered]
  | .leaf _, _ => by simp [emitChain, Tree.unnumbered]
  | .charTest _ _, _ => by simp [emitChain, Tree.unnumbered]
  | .lengthTest n same other, level => by
    rw [Tree.unnumbered, emitChain, emitChain, emit_unnumbered name same,
      emitChain_unnumbered name other, List.map_cons]
  | .lengthSplit _ _ _, _ => by simp [emitChain, Tree.unnumbered]

end

/-- The helpers of a queue of trees without places. -/
theorem helpersFrom_unnumbered (name : String) (default : Value) (done : Nat) (queue : List Tree) :
    helpersFrom name default done (queue.map Tree.unnumbered)
      = helpersFrom name default done queue := by
  fun_induction helpersFrom name default done queue with
  | case1 done => rw [List.map_nil, helpersFrom]
  | case2 done t rest block ih =>
    rw [List.map_append] at ih
    rw [List.map_cons, helpersFrom]
    simp only [emit_unnumbered, Emitter.unnumbered, Block.unnumbered, List.length_map]
    rw [ih]

/-- The functions of a tree without places. -/
theorem functionsOf_unnumbered (name : String) (doc : Option String) (root : Tree)
    (default : Value) :
    functionsOf name doc root.unnumbered default = functionsOf name doc root default := by
  have block : mainBlock name root.unnumbered = (mainBlock name root).unnumbered :=
    congrFun (emit_unnumbered name root bodyLevel) 0
  have decided : decision name root.unnumbered = decision name root := by
    cases root with
    | miss => rfl
    | leaf | charTest | lengthTest | lengthSplit => exact congrArg (.measure :: ·.body) block
  rw [functionsOf, functionsOf, mainFunction, mainFunction, helpersOf, helpersOf, decided, block]
  exact congrArg (_ :: ·) (helpersFrom_unnumbered name default 0 _)

/-- Trees that are the same but for the places of their leaves have the same functions. -/
theorem functionsOf_congr {root root' : Tree} (same : root.unnumbered = root'.unnumbered)
    (name : String) (doc : Option String) (default : Value) :
    functionsOf name doc root default = functionsOf name doc root' default := by
  rw [← functionsOf_unnumbered, same, functionsOf_unnumbered]

end KeyTree.Source
