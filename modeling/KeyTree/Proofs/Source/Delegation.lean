/-
# What is left to helpers

A test of a character that stands too deep moves into a helper, and a call of the helper stands in
its place. The subtrees wait in a queue until their helpers are written, which can leave subtrees
in turn. So the helpers are numbered in the order of their calls: each is called once, by the main
function or by a helper before it, and its tree is a smaller part of the tree of its caller.

* `Codes` — statements are the code of a tree, up to calls of helpers.
* `Block.Delegates`, `Emitter.Delegates` — what a block leaves, with one lemma for each way to
  combine blocks; `emit_delegates` — the block of a tree.
* `calls_helpersFrom`, `exists_trees` — the helpers of a queue.
* `Delegation` — the functions of a lookup and the trees of its helpers.
* `Declared.helpers_delegate` — the helpers of a declared lookup.
-/

import KeyTree.Proofs.Source.Agreement
import KeyTree.Proofs.Source.Calls
import KeyTree.Proofs.Tree.Traversal

namespace KeyTree.Source

/-! ### Codes of trees -/

section Codes

variable (name : String) (helpers : List Tree)

mutual

/-- `Codes name helpers t block`: the block is the code of the tree, up to tests of characters that
are left to helpers. In the place of such a test stands a call of its helper; the tree of the helper
`i + 1` is `helpers[i]`. -/
inductive Codes : Tree → List Statement → Prop where
  | miss : Codes .miss []
  | leaf (e : Entry) : Codes (.leaf e) [.choose [(.keyIs e.text, [.answer true e.value])]]
  | call {i : Nat} {position : Int} {branches : List (String × Tree)}
      (stands : helpers[i]? = some (.charTest position branches)) :
      Codes (.charTest position branches) [.call (helperName name (i + 1))]
  | charTest {position : Int} {branches : List (String × Tree)} {block : List Statement}
      (fan : CodesFan branches block) :
      Codes (.charTest position branches) (.read position :: block)
  | lengthTest {n : Int} {same other : Tree} {arms : List (Condition × List Statement)}
      (chain : CodesChain (.lengthTest n same other) arms) :
      Codes (.lengthTest n same other) [.choose arms]
  | lengthSplit {pivot : Int} {below atLeast : Tree} {yes no : List Statement}
      (shorter : Codes below yes) (longer : Codes atLeast no) :
      Codes (.lengthSplit pivot below atLeast) [.either (.lengthBelow pivot) yes no]

/-- The block is a choice among branches, which may be halved at a label. -/
inductive CodesFan : List (String × Tree) → List Statement → Prop where
  | arms {branches : List (String × Tree)} {arms : List (Condition × List Statement)}
      (compared : CodesArms branches arms) : CodesFan branches [.choose arms]
  | halved {branches : List (String × Tree)} {k : Nat} {label : String} {yes no : List Statement}
      (place : (branches.map Prod.fst)[k]? = some label) (lower : CodesFan (branches.take k) yes)
      (upper : CodesFan (branches.drop k) no) :
      CodesFan branches [.either (.characterBelow label) yes no]

/-- The arms compare with the labels of branches, one after the other. -/
inductive CodesArms : List (String × Tree) → List (Condition × List Statement) → Prop where
  | nil : CodesArms [] []
  | cons {label : String} {child : Tree} {rest : List (String × Tree)} {block : List Statement}
      {arms : List (Condition × List Statement)} (first : Codes child block)
      (others : CodesArms rest arms) :
      CodesArms ((label, child) :: rest) ((.characterIs label, block) :: arms)

/-- The arms compare with one length after the other. -/
inductive CodesChain : Tree → List (Condition × List Statement) → Prop where
  | miss : CodesChain .miss []
  | lengthTest {n : Int} {same other : Tree} {block : List Statement}
      {arms : List (Condition × List Statement)} (first : Codes same block)
      (others : CodesChain other arms) :
      CodesChain (.lengthTest n same other) ((.lengthIs n, block) :: arms)

end

end Codes

/-! ### Blocks -/

/-- The trees that a block leaves to helpers are numbered after those of other helpers. -/
def Numbered (trees : List Tree) (helpers : Nat) (cut : List Tree) : Prop :=
  ∀ (i : Nat) (s : Tree), cut[i]? = some s → trees[helpers + i]? = some s

/-- Trees that are left by two blocks are numbered one after the other. -/
theorem Numbered.append_iff {trees first second : List Tree} {helpers : Nat} :
    Numbered trees helpers (first ++ second) ↔
      Numbered trees helpers first ∧ Numbered trees (helpers + first.length) second := by
  constructor
  · intro numbered
    refine ⟨fun i s at_i => numbered i s (getElem?_append_of_eq_some at_i), fun i s at_i => ?_⟩
    rw [Nat.add_assoc]
    refine numbered _ s ?_
    rwa [getElem?_append_add]
  · rintro ⟨numbered, numbered'⟩ i s at_i
    rcases Nat.lt_or_ge i first.length with less | notLess
    · rw [List.getElem?_append_left less] at at_i
      exact numbered i s at_i
    · obtain ⟨k, rfl⟩ := Nat.exists_eq_add_of_le notLess
      rw [getElem?_append_add] at at_i
      rw [← Nat.add_assoc]
      exact numbered' k s at_i

/-- The helpers numbered after some others. -/
def helperNames (name : String) (helpers count : Nat) : List String :=
  (List.range' (helpers + 1) count).map (helperName name)

/-- Helpers behind helpers. -/
theorem helperNames_append (name : String) (helpers first second : Nat) :
    helperNames name helpers first ++ helperNames name (helpers + first) second
      = helperNames name helpers (first + second) := by
  rw [helperNames, helperNames, helperNames, ← List.map_append, Nat.add_right_comm,
    List.range'_append_1]

/-- `block.Delegates name helpers part code`: the block calls one helper for each subtree that it
leaves, in order and numbered after `helpers` others. The subtrees are of a kind, and with calls
in their places the block is the code of something. -/
structure Block.Delegates (name : String) (helpers : Nat) (part : Tree → Prop)
    (code : List Tree → List Statement → Prop) (block : Block) : Prop where
  calls : Statement.blockCalls block.body = helperNames name helpers block.cut.length
  parts : ∀ s ∈ block.cut, part s
  code : ∀ trees, Numbered trees helpers block.cut → code trees block.body

namespace Emitter

variable {name : String} {part : Tree → Prop} {first second : Emitter}
  {code code' whole : List Tree → List Statement → Prop}
  {codeArms : List Tree → List (Condition × List Statement) → Prop}

/-- The blocks of an emitter delegate, whatever their helpers are numbered. -/
def Delegates (name : String) (part : Tree → Prop) (code : List Tree → List Statement → Prop)
    (block : Emitter) : Prop :=
  ∀ helpers, (block helpers).Delegates name helpers part code

/-- The arms of a choice delegate, whatever the helpers are numbered. -/
structure ArmsDelegate (name : String) (part : Tree → Prop)
    (codeArms : List Tree → List (Condition × List Statement) → Prop)
    (blocks : List (Condition × Emitter)) : Prop where
  calls : ∀ helpers, Statement.armCalls (arms helpers blocks).1
    = helperNames name helpers (arms helpers blocks).2.length
  parts : ∀ helpers, ∀ s ∈ (arms helpers blocks).2, part s
  code : ∀ helpers trees, Numbered trees helpers (arms helpers blocks).2 →
    codeArms trees (arms helpers blocks).1

/-- The reading of a character before a block. -/
theorem after_read_delegates (position : Int) (delegates : first.Delegates name part code)
    (coded : ∀ trees block, code trees block → whole trees (.read position :: block)) :
    (after (.read position) first).Delegates name part whole := by
  intro helpers
  obtain ⟨calls, parts, inner⟩ := delegates helpers
  exact ⟨calls, parts, fun trees numbered => coded trees _ (inner trees numbered)⟩

/-- One of two blocks. -/
theorem either_delegates {condition : Condition} (delegates : first.Delegates name part code)
    (delegates' : second.Delegates name part code')
    (coded : ∀ trees yes no, code trees yes → code' trees no →
      whole trees [.either condition yes no]) :
    (either condition first second).Delegates name part whole := by
  intro helpers
  obtain ⟨calls, parts, inner⟩ := delegates helpers
  obtain ⟨calls', parts', inner'⟩ := delegates' (helpers + (first helpers).cut.length)
  constructor
  · rw [either, Statement.blockCalls, Statement.calls, calls, calls', helperNames_append,
      Statement.blockCalls, List.append_nil, List.length_append]
  · exact List.forall_mem_append.mpr ⟨parts, parts'⟩
  · intro trees numbered
    obtain ⟨lower, upper⟩ := Numbered.append_iff.mp numbered
    exact coded trees _ _ (inner trees lower) (inner' trees upper)

/-- No arms leave nothing. -/
theorem armsDelegate_nil (coded : ∀ trees, codeArms trees []) :
    ArmsDelegate name part codeArms [] :=
  ⟨fun _ => rfl, by simp [arms], fun _ trees _ => coded trees⟩

/-- An arm before others. -/
theorem armsDelegate_cons {condition : Condition} {rest : List (Condition × Emitter)}
    {codeRest : List Tree → List (Condition × List Statement) → Prop}
    (delegates : first.Delegates name part code)
    (others : ArmsDelegate name part codeRest rest)
    (coded : ∀ trees block arms, code trees block → codeRest trees arms →
      codeArms trees ((condition, block) :: arms)) :
    ArmsDelegate name part codeArms ((condition, first) :: rest) where
  calls := by
    intro helpers
    rw [arms, Statement.armCalls, (delegates helpers).calls, others.calls, helperNames_append,
      List.length_append]
  parts := by
    intro helpers
    exact List.forall_mem_append.mpr ⟨(delegates helpers).parts, others.parts _⟩
  code := by
    intro helpers trees numbered
    obtain ⟨one, more⟩ := Numbered.append_iff.mp numbered
    exact coded trees _ _ ((delegates helpers).code trees one) (others.code _ trees more)

/-- A choice among blocks. -/
theorem choose_delegates {blocks : List (Condition × Emitter)}
    (delegates : ArmsDelegate name part codeArms blocks)
    (coded : ∀ trees arms, codeArms trees arms → whole trees [.choose arms]) :
    (choose blocks).Delegates name part whole := by
  intro helpers
  constructor
  · rw [choose, Statement.blockCalls, Statement.calls, Statement.blockCalls, List.append_nil]
    exact delegates.calls helpers
  · exact delegates.parts helpers
  · exact fun trees numbered => coded trees _ (delegates.code helpers trees numbered)

end Emitter

/-! ### Blocks of trees -/

/-- `PartOf t s`: the tree `s` is a test of a character in `t`. -/
structure PartOf (t s : Tree) : Prop where
  node : s ∈ t.preorder
  branching : Branching s
  test : ∃ position branches, s = .charTest position branches

/-- A part of a child is a part. -/
theorem PartOf.of_child {t child s : Tree} (direct : child ∈ t.children) (part : PartOf child s) :
    PartOf t s where
  node := by
    rw [Tree.preorder_eq]
    exact List.mem_cons_of_mem _ (List.mem_flatMap.mpr ⟨child, direct, part.node⟩)
  branching := part.branching
  test := part.test

variable {name : String}

/-- What the block of a child leaves are parts of the tree. -/
theorem Emitter.Delegates.of_child {block : Emitter} {child : Tree}
    {code : List Tree → List Statement → Prop}
    (delegates : block.Delegates name (PartOf child) code) {t : Tree}
    (direct : child ∈ t.children) : block.Delegates name (PartOf t) code := by
  intro helpers
  obtain ⟨calls, parts, coded⟩ := delegates helpers
  exact ⟨calls, fun s member => (parts s member).of_child direct, coded⟩

/-- Branches and their blocks at any level. -/
abbrev BranchesDelegate (name : String) (part : Tree → Prop) :
    List (String × Tree) → List (String × (Nat → Emitter)) → Prop :=
  List.Forall₂ fun b e => b.1 = e.1 ∧
    ∀ level, Emitter.Delegates name part (fun trees => Codes name trees b.2) (e.2 level)

/-- The arms of a choice among branches. -/
theorem armsDelegate_branches {part : Tree → Prop} {branches : List (String × Tree)}
    {emitters : List (String × (Nat → Emitter))}
    (delegate : BranchesDelegate name part branches emitters) (level : Nat) :
    Emitter.ArmsDelegate name part (fun trees => CodesArms name trees branches)
      (emitters.map fun e => (.characterIs e.1, e.2 level)) := by
  induction delegate with
  | nil => exact Emitter.armsDelegate_nil fun _ => .nil
  | @cons b e _ _ first _ ih =>
    obtain ⟨same, delegates⟩ := first
    refine Emitter.armsDelegate_cons (delegates level) ih fun trees block arms one others => ?_
    rw [← same]
    exact .cons one others

/-- The choice among branches, halved or not. -/
theorem fan_delegates {part : Tree → Prop} {branches : List (String × Tree)}
    {emitters : List (String × (Nat → Emitter))}
    (delegate : BranchesDelegate name part branches emitters) (level : Nat) :
    (fan level emitters).Delegates name part (fun trees => CodesFan name trees branches) := by
  fun_induction fan level emitters generalizing branches with
  | case1 level emitters many inside lowerIH upperIH =>
    have lower := lowerIH (List.forall₂_take (emitters.length / 2) delegate)
    have upper := upperIH (List.forall₂_drop (emitters.length / 2) delegate)
    have labels : branches.map Prod.fst = emitters.map Prod.fst := by
      refine List.forall₂_eq_eq_eq ▸ ?_
      rw [List.forall₂_map_left_iff, List.forall₂_map_right_iff]
      exact delegate.imp fun _ _ => And.left
    refine Emitter.either_delegates lower upper fun trees yes no shorter longer => ?_
    refine .halved ?_ shorter longer
    rw [labels, List.getElem?_map, List.getElem?_eq_getElem inside, Option.map_some]
  | case2 level emitters few =>
    exact Emitter.choose_delegates (armsDelegate_branches delegate (level + 1)) fun _ _ => .arms

/-- The block of a tree that tests characters. -/
theorem emit_delegates_of_branching {t : Tree} (branching : Branching t) (level : Nat) :
    (emit name t level).Delegates name (PartOf t) (fun trees => Codes name trees t) := by
  induction branching generalizing level with
  | leaf e =>
    intro helpers
    exact ⟨rfl, by simp [emit], fun _ _ => .leaf e⟩
  | @charTest position branches ascending children ih =>
    rw [emit]
    split
    · intro helpers
      refine ⟨rfl, List.forall_mem_singleton.mpr ?_, fun trees numbered => ?_⟩
      · exact ⟨List.mem_cons_self, .charTest ascending children, _, _, rfl⟩
      · exact .call (numbered 0 _ rfl)
    · have delegate : BranchesDelegate name (PartOf (.charTest position branches)) branches
          (emitBranches name branches) := by
        rw [emitBranches_eq, BranchesDelegate, List.forall₂_map_right_iff, List.forall₂_same]
        intro b member
        exact ⟨rfl, fun level => (ih b member level).of_child (List.mem_map_of_mem member)⟩
      have fan := fan_delegates delegate level
      exact Emitter.after_read_delegates position fan fun _ _ => .charTest

/-- The arms of a chain of lengths. -/
theorem armsDelegate_chain {t : Tree} (chain : Chain t) (level : Nat) :
    Emitter.ArmsDelegate name (PartOf t) (fun trees => CodesChain name trees t)
      (emitChain name t level) := by
  induction chain with
  | miss =>
    rw [emitChain]
    · exact Emitter.armsDelegate_nil fun _ => .miss
    · simp
  | @lengthTest n same other first _ ih =>
    have one : (emit name same (level + 1)).Delegates name (PartOf (.lengthTest n same other)) _ :=
      (emit_delegates_of_branching first (level + 1)).of_child List.mem_cons_self
    have others : Emitter.ArmsDelegate name (PartOf (.lengthTest n same other)) _
        (emitChain name other level) :=
      ⟨ih.calls, fun helpers s member => (ih.parts helpers s member).of_child
        (List.mem_cons_of_mem _ List.mem_cons_self), ih.code⟩
    rw [emitChain]
    exact Emitter.armsDelegate_cons one others fun _ _ _ => .lengthTest

/-- The block of a tree. -/
theorem emit_delegates {t : Tree} (dispatching : Dispatching t) (level : Nat) :
    (emit name t level).Delegates name (PartOf t) (fun trees => Codes name trees t) := by
  induction dispatching generalizing level with
  | chain chain =>
    have arms := @armsDelegate_chain name _ chain level
    cases chain with
    | miss =>
      intro helpers
      exact ⟨rfl, by simp [emit], fun _ _ => .miss⟩
    | lengthTest =>
      rw [emitChain] at arms
      rw [emit]
      exact Emitter.choose_delegates arms fun _ _ => .lengthTest
  | @lengthSplit pivot below atLeast _ _ lower upper =>
    have shorter : (emit name below (level + 1)).Delegates name
        (PartOf (.lengthSplit pivot below atLeast)) _ :=
      (lower (level + 1)).of_child List.mem_cons_self
    have longer : (emit name atLeast (level + 1)).Delegates name
        (PartOf (.lengthSplit pivot below atLeast)) _ :=
      (upper (level + 1)).of_child (List.mem_cons_of_mem _ List.mem_cons_self)
    rw [emit]
    exact Emitter.either_delegates shorter longer fun _ _ _ => .lengthSplit

/-! ### Queues of helpers -/

variable {default : Value}

/-- There are no more helpers than nodes in the queue. -/
theorem length_helpersFrom_le (done : Nat) (queue : List Tree) :
    (helpersFrom name default done queue).length ≤ total Tree.size queue := by
  fun_induction helpersFrom name default done queue with
  | case1 done => exact Nat.le_refl 0
  | case2 done t rest block ih =>
    have left : total Tree.size block.cut < t.size :=
      cutSize_emit_lt name t bodyLevel (by decide) (done + 1 + rest.length)
    rw [total_append] at ih
    rw [List.length_cons, total_cons]
    omega

/-- The helpers of a queue call, in the order of the text, the helpers behind those of the
queue. -/
theorem calls_helpersFrom (done : Nat) {queue : List Tree}
    (branching : ∀ t ∈ queue, Branching t) :
    ∃ later, (helpersFrom name default done queue).length = queue.length + later ∧
      (helpersFrom name default done queue).flatMap Function.calls
        = helperNames name (done + queue.length) later := by
  fun_induction helpersFrom name default done queue with
  | case1 done => exact ⟨0, rfl, rfl⟩
  | case2 done t rest block ih =>
    obtain ⟨first, others⟩ := List.forall_mem_cons.mp branching
    have delegates := @emit_delegates_of_branching name t first bodyLevel (done + 1 + rest.length)
    obtain ⟨later, count, calls⟩ := ih (List.forall_mem_append.mpr
      ⟨others, fun s member => (delegates.parts s member).branching⟩)
    refine ⟨block.cut.length + later, ?_, ?_⟩
    · rw [List.length_cons, count, List.length_append, List.length_cons]
      omega
    · have place : done + (t :: rest).length = done + 1 + rest.length := by
        rw [List.length_cons]
        omega
      have own : Statement.blockCalls (block.body ++ [missStatement default])
          = helperNames name (done + 1 + rest.length) block.cut.length := by
        rw [blockCalls_append, delegates.calls]
        exact List.append_nil _
      rw [List.flatMap_cons, calls, Function.calls, own, List.length_append, ← Nat.add_assoc,
        helperNames_append, place]

/-- `HelperOf name default trees i t f`: the function is the helper of the tree at the place `i`.
It leaves trees that are numbered after its own. -/
inductive HelperOf (name : String) (default : Value) (trees : List Tree) (i : Nat) (t : Tree) :
    Function → Prop where
  | intro {helpers : Nat} {doc : Option String} (branching : Branching t)
      (test : ∃ position branches, t = .charTest position branches) (later : i < helpers)
      (numbered : Numbered trees helpers (emit name t bodyLevel helpers).cut) :
      HelperOf name default trees i t
        ⟨helperName name (i + 1), doc,
          (emit name t bodyLevel helpers).body ++ [missStatement default]⟩

/-- The helpers of a queue have trees, the first of which are those in the queue; `before` are the
trees of the helpers before them. -/
theorem exists_trees {done : Nat} {queue before : List Tree} (count : before.length = done)
    (branching : ∀ t ∈ queue, Branching t)
    (tests : ∀ t ∈ queue, ∃ position branches, t = .charTest position branches) :
    ∃ trees, Numbered trees 0 (before ++ queue) ∧
      trees.length = done + (helpersFrom name default done queue).length ∧
      ∀ i f, (helpersFrom name default done queue)[i]? = some f →
        ∃ t, trees[done + i]? = some t ∧ HelperOf name default trees (done + i) t f := by
  fun_induction helpersFrom name default done queue generalizing before with
  | case1 done =>
    rw [List.append_nil]
    refine ⟨before, fun i s at_i => ?_, by simp [count], by simp⟩
    rwa [Nat.zero_add]
  | case2 done t rest block =>
    rename_i ih
    obtain ⟨first, others⟩ := List.forall_mem_cons.mp branching
    obtain ⟨test, tests⟩ := List.forall_mem_cons.mp tests
    have delegates := @emit_delegates_of_branching name t first bodyLevel (done + 1 + rest.length)
    obtain ⟨trees, numbered, length, later⟩ := @ih (before ++ [t]) (by simp [count])
      (List.forall_mem_append.mpr ⟨others, fun s member => (delegates.parts s member).branching⟩)
      (List.forall_mem_append.mpr ⟨tests, fun s member => (delegates.parts s member).test⟩)
    rw [← List.append_assoc, List.append_assoc before] at numbered
    -- The tree of this helper stands behind those before, and what it leaves behind the queue.
    obtain ⟨waiting, left⟩ := Numbered.append_iff.mp numbered
    have own : trees[done]? = some t := by
      have own := (Numbered.append_iff.mp waiting).2 0 t rfl
      rwa [Nat.zero_add, Nat.add_zero, count] at own
    have place : 0 + (before ++ ([t] ++ rest)).length = done + 1 + rest.length := by
      simp [count]
      omega
    rw [place] at left
    refine ⟨trees, waiting, ?_, fun i f at_i => ?_⟩
    · rw [length, List.length_cons]
      omega
    · cases i with
      | zero =>
        cases at_i
        exact ⟨t, own, .intro first test (by omega) left⟩
      | succ i =>
        obtain ⟨s, at_s, helper⟩ := later i f at_i
        rw [Nat.add_assoc, Nat.add_comm 1] at at_s helper
        exact ⟨s, at_s, helper⟩

/-! ### Calls and their trees -/

/-- An item has no more than all items together. -/
theorem le_total {α : Type} (measure : α → Nat) {items : List α} {x : α} (member : x ∈ items) :
    measure x ≤ total measure items := by
  obtain ⟨before, after, rfl⟩ := List.append_of_mem member
  rw [total_append, total_cons]
  omega

/-- What a block leaves is smaller than its tree, unless it stands too deep, and so it is below a
child. -/
theorem below_of_mem_cut {t s : Tree} {level helpers : Nat} (inside : level ≤ nestingLimit)
    (member : s ∈ (emit name t level helpers).cut) (node : s ∈ t.preorder) :
    s ∈ t.children.flatMap Tree.preorder := by
  have less : (emit name t level helpers).cutSize < t.size :=
    cutSize_emit_lt name t level inside helpers
  rw [Tree.preorder_eq] at node
  rcases List.mem_cons.mp node with rfl | below
  · exact absurd (le_total Tree.size member) (Nat.not_le.mpr less)
  · exact below

/-- A helper that a block calls is numbered after the others, and its tree is left by the block. -/
theorem Block.Delegates.of_call {helpers : Nat} {part : Tree → Prop}
    {code : List Tree → List Statement → Prop} {block : Block}
    (delegates : block.Delegates name helpers part code) {trees : List Tree}
    (numbered : Numbered trees helpers block.cut) {i : Nat}
    (called : helperName name i ∈ Statement.blockCalls block.body) :
    helpers < i ∧ ∃ s ∈ block.cut, trees[i - 1]? = some s := by
  rw [delegates.calls, helperNames, List.mem_map] at called
  obtain ⟨j, member, same⟩ := called
  obtain ⟨-, rfl⟩ := helperName_inj.mp same
  obtain ⟨low, high⟩ := List.mem_range'_1.mp member
  obtain ⟨k, rfl⟩ := Nat.exists_eq_add_of_le low
  obtain ⟨s, at_k⟩ : ∃ s, block.cut[k]? = some s := ⟨_, List.getElem?_eq_getElem (by omega)⟩
  have place : helpers + 1 + k - 1 = helpers + k := by omega
  exact ⟨by omega, s, List.mem_of_getElem? at_k, place ▸ numbered k s at_k⟩

/-- A helper calls helpers behind it, of trees below a child of its own. -/
theorem HelperOf.callers {trees : List Tree} {i : Nat} {t : Tree} {f : Function}
    (helper : HelperOf name default trees i t f) {k : Nat} (called : helperName name k ∈ f.calls) :
    i + 1 < k ∧ ∃ s, trees[k - 1]? = some s ∧ s ∈ t.children.flatMap Tree.preorder := by
  obtain ⟨branching, -, later, numbered⟩ := helper
  rename_i helpers doc
  have delegates := @emit_delegates_of_branching name t branching bodyLevel helpers
  rw [Function.calls, blockCalls_append] at called
  rcases List.mem_append.mp called with called | missed
  · obtain ⟨behind, s, left, tree⟩ := delegates.of_call numbered called
    exact ⟨by omega, s, tree, below_of_mem_cut (by decide) left (delegates.parts s left).node⟩
  · cases missed

/-! ### The functions of a lookup -/

/-- `Delegation name root default functions trees`: the functions are a main function, which is the
code of the root, and helpers, which are the code of the trees. There are fewer helpers than nodes,
numbered in order, and no two functions have the same name. The call of each helper stands in one
line, in the main function or in a helper before it, whose tree has the tree of the helper below a
child. All leaves are written, each once. -/
structure Delegation (name : String) (root : Tree) (default : Value) (functions : List Function)
    (trees : List Tree) : Prop where
  finite : trees.length < root.size
  names : functions.map Function.name
    = name :: (List.range' 1 trees.length).map (helperName name)
  distinct : (functions.map Function.name).Nodup
  main : ∃ f block, functions[0]? = some f ∧ Codes name trees root block ∧
    f.body = .choose [(.keyIsNoText, [missStatement default])]
      :: .measure :: (block ++ [missStatement default])
  helpers : ∀ i t, trees[i]? = some t → ∃ f block, functions[i + 1]? = some f ∧
    Codes name trees t block ∧ f.body = block ++ [missStatement default] ∧
    ∃ position branches, t = .charTest position branches
  called : ∀ i, 1 ≤ i → i ≤ trees.length →
    (functions.flatMap Function.lines).countP (·.text = callText (helperName name i)) = 1
  callers : ∀ j f t, functions[j]? = some f → (root :: trees)[j]? = some t →
    ∀ i, ∀ line ∈ f.lines, line.text = callText (helperName name i) →
      j < i ∧ ∃ s, trees[i - 1]? = some s ∧ s ∈ t.children.flatMap Tree.preorder
  leaves : ∃ written, Reads name default (functions.flatMap Function.lines) written ∧
    written.Perm root.leaves

/-- The statements that decide about a text call the helpers that the block of the tree calls. -/
theorem calls_mainFunction (doc : Option String) (root : Tree) :
    (mainFunction name doc root default).calls
      = Statement.blockCalls (mainBlock name root).body := by
  have decides : Statement.blockCalls (decision name root)
      = Statement.blockCalls (mainBlock name root).body := by
    cases root with
    | miss | leaf | charTest | lengthTest | lengthSplit => rfl
  rw [Function.calls, mainFunction, Statement.blockCalls, blockCalls_append, decides]
  exact List.append_nil _

/-- A helper is named once among helpers that are numbered in order. -/
theorem count_helperNames {count i : Nat} (low : 1 ≤ i) (high : i ≤ count) :
    (helperNames name 0 count).count (helperName name i) = 1 := by
  refine List.count_eq_one_of_mem ?_ ?_
  · exact List.Nodup.map (fun i j same => (helperName_inj.mp same).2) List.nodup_range'
  · exact List.mem_map_of_mem (List.mem_range'_1.mpr ⟨low, by omega⟩)

/-- A line that calls a helper belongs to a function that calls it. -/
theorem mem_calls_of_line {f : Function} {line : Line} {i : Nat} (member : line ∈ f.lines)
    (text : line.text = callText (helperName name i)) : helperName name i ∈ f.calls := by
  have some : 0 < f.lines.countP (·.text = callText (helperName name i)) :=
    List.countP_pos_iff.mpr ⟨line, member, decide_eq_true text⟩
  rw [f.countP_lines] at some
  exact List.count_pos_iff.mp some

/-- The functions of a lookup, with the trees of its helpers. -/
theorem exists_delegation {root : Tree} (dispatching : Dispatching root) (filled : root ≠ .miss)
    (name : String) (default : Value) :
    ∃ trees, Delegation name root default (functionsOf name none root default) trees := by
  have delegates := @emit_delegates name root dispatching bodyLevel 0
  have branching (s : Tree) (member : s ∈ (mainBlock name root).cut) : Branching s :=
    (delegates.parts s member).branching
  obtain ⟨trees, numbered, length, helper⟩ := @exists_trees name default 0 (mainBlock name root).cut
    [] rfl branching fun s member => (delegates.parts s member).test
  obtain ⟨later, count, calls⟩ := @calls_helpersFrom name default 0 _ branching
  rw [← helpersOf] at length helper count calls
  rw [Nat.zero_add] at length
  have own (i : Nat) (f : Function) (t : Tree) (at_f : (helpersOf name root default)[i]? = some f)
      (at_t : trees[i]? = some t) : HelperOf name default trees i t f := by
    obtain ⟨t', tree, written⟩ := helper i f at_f
    rw [Nat.zero_add] at tree written
    obtain rfl := Option.some.inj (tree.symm.trans at_t)
    exact written
  have all : (functionsOf name none root default).flatMap Function.calls
      = helperNames name 0 trees.length := by
    rw [functionsOf, List.flatMap_cons, calls_mainFunction, calls, length, count,
      ← helperNames_append]
    exact congrArg (· ++ _) delegates.calls
  refine ⟨trees, ?_, ?_, ?_, ?_, ?_, ?_, ?_, ?_⟩
  · have few := @length_helpersFrom_le name default 0 (mainBlock name root).cut
    have less : total Tree.size (mainBlock name root).cut < root.size :=
      cutSize_emit_lt name root bodyLevel (by decide) 0
    rw [← helpersOf] at few
    omega
  · obtain ⟨number, names⟩ := map_name_helpersFrom name default 0 (mainBlock name root).cut
    rw [← helpersOf] at names
    have same := congrArg List.length names
    rw [List.length_map, List.length_map, List.length_range', ← length] at same
    rw [functionsOf, List.map_cons, names, same]
    rfl
  · refine List.Nodup.of_map Text.normalForm ?_
    rw [List.map_map]
    exact nodup_normalForm_functionsOf name none root default
  · refine ⟨_, (mainBlock name root).body, rfl, delegates.code trees numbered, ?_⟩
    cases root with
    | miss => exact absurd rfl filled
    | leaf | charTest | lengthTest | lengthSplit => rfl
  · intro i t at_i
    have inside : i < (helpersOf name root default).length :=
      length ▸ (List.getElem?_eq_some_iff.mp at_i).1
    obtain ⟨f, at_f⟩ : ∃ f, (helpersOf name root default)[i]? = some f :=
      ⟨_, List.getElem?_eq_getElem inside⟩
    obtain ⟨branching, test, -, numbered⟩ := own i f t at_f at_i
    rename_i helpers doc
    have delegates := @emit_delegates_of_branching name t branching bodyLevel helpers
    exact ⟨_, _, at_f, delegates.code trees numbered, rfl, test⟩
  · intro i low high
    rw [countP_flatMap_lines, all]
    exact count_helperNames low high
  · intro j f t at_j tree i line member text
    have called := mem_calls_of_line member text
    cases j with
    | zero =>
      cases at_j
      cases tree
      rw [calls_mainFunction] at called
      obtain ⟨behind, s, left, at_s⟩ := delegates.of_call numbered called
      exact ⟨behind, s, at_s, below_of_mem_cut (by decide) left (delegates.parts s left).node⟩
    | succ j => exact (own j f t at_j tree).callers called
  · obtain ⟨written, leaves, reads, -⟩ := functionsOf_writes name default dispatching
    exact ⟨written, reads, leaves⟩

end KeyTree.Source

namespace KeyTree.Declared

open Source

/-- The helpers of a declared lookup. When the values have literals and the name may name a
function, the lookup is written as a main function and helpers, and these delegate. The text has the
lines of the functions in order, each behind its indentation; when no line holds a line end, these
are the lines of the text. -/
theorem helpers_delegate {d : Declared} {keys : List Text} {values : List Value} {l : Lookup}
    {name : Value} {n : String} (lists : d.Lists keys values) (built : d.lookup = .ok l)
    (literals : ∀ v ∈ values, v.literalFault? = none)
    (named : functionName (if name.isTruthy then name else l.name) = .ok n) :
    ∃ p text trees, Program.ofLookups [] [(if name.isTruthy then name else l.name, l)] = .ok p ∧
      render l name = .ok text ∧
      text = String.intercalate "\n" (p.writtenLines standardUnit ++ [""]) ∧
      ((∀ m ∈ p.imports, OneLine m) → (∀ line ∈ p.lines, OneLine line.text) →
        linesOf text = p.writtenLines standardUnit ++ [""]) ∧
      Delegation n l.root l.default p.functions trees := by
  obtain ⟨decides, -⟩ := decides_of_lookup lists built
  have made := ofLookups_eq_ok [] lists built literals named
  obtain ⟨trees, delegation⟩ :=
    exists_delegation decides.dispatching (root_ne_miss built) n l.default
  refine ⟨_, _, trees, made, ?_, text_eq standardUnit n [] lists built,
    linesOf_text lists built (by decide), delegation⟩
  rw [render, renderModule, made]
  rfl

/-- A function that is too deep has one helper, which is called once in its text. -/
theorem helpers_delegate_deep :
    ∃ l p text trees, deep.lookup = .ok l ∧ Program.ofLookups [] [(.str "find", l)] = .ok p ∧
      render l (.str "find") = .ok text ∧
      text = String.intercalate "\n" (p.writtenLines standardUnit ++ [""]) ∧
      Delegation "find" l.root l.default p.functions trees ∧ trees.length = 1 ∧
      (p.functions.flatMap Function.lines).countP (·.text = "return _find_1(key)") = 1 := by
  obtain ⟨l, built, helper, -⟩ := lookup_deep
  have named : functionName (.str "find") = .ok "find" := rfl
  obtain ⟨p, text, trees, made, rendered, whole, -, delegation⟩ :=
    @helpers_delegate _ _ _ l (.str "find") "find" lists_deep built literals_deep named
  obtain rfl := Except.ok.inj
    (made.symm.trans (ofLookups_eq_ok [] lists_deep built literals_deep named))
  have count : trees.length = 1 := by
    have names := congrArg List.length delegation.names
    rw [List.length_map, List.length_cons, List.length_map, List.length_range'] at names
    exact (Nat.succ.inj names).symm.trans helper
  exact ⟨l, _, text, trees, built, made, rendered, whole, delegation, count,
    delegation.called 1 (Nat.le_refl 1) (Nat.le_of_eq count.symm)⟩

end KeyTree.Declared
