/-
# The indentation of generated functions

The functions of a lookup form blocks, and how deep these are is told by the lengths and by the
branches of its tree. A test of a character that stands too deep moves into a helper, so that the
depth of the tree does not count; halving the lengths and the branches of one test does.

* `Fans`, `Decides.fans` — the branches of the tests of characters.
* `Block.Nested`, `Emitter.Nested` — the blocks of a lookup, with one lemma for each way to combine
  them.
* `fan_nested`, `emit_nested_of_fans`, `balanced_nested` — the blocks of trees.
* `formed_functionsOf`, `Declared.formed_of_lookup` — the functions of a lookup.
* `Declared.well_nested` — the functions of a declared lookup.
-/

import KeyTree.Proofs.Source.Agreement
import KeyTree.Proofs.Source.Blocks
import KeyTree.Proofs.Tree.Canonical
import KeyTree.Proofs.Tree.Count
import KeyTree.Source.Compiled

namespace KeyTree

/-! ### Branches of tests -/

/-- `Fans entries h t`: the tree tests characters only to find one of the entries, and each test has
a branch, and no more than `h` halvings bring down to eight. -/
inductive Fans (entries : List Entry) (h : Nat) : Tree → Prop where
  | leaf {e : Entry} (member : e ∈ entries) : Fans entries h (.leaf e)
  | charTest {position : Int} {branches : List (String × Tree)} (some : branches ≠ [])
      (few : branches.length ≤ 8 * 2 ^ h) (children : ∀ b ∈ branches, Fans entries h b.2) :
      Fans entries h (.charTest position branches)

namespace Tree

/-- The number of branches of a test of a character. -/
def width : Tree → Nat
  | .charTest _ branches => branches.length
  | _ => 0

/-- The largest number of branches of a test of a character. -/
def widest (t : Tree) : Nat := (t.nodes.map width).foldr max 0

/-- No test has more branches than the one that has the most. -/
theorem widest_le_iff {t : Tree} {n : Nat} : t.widest ≤ n ↔ ∀ s ∈ t.preorder, s.width ≤ n := by
  rw [widest, nodes_eq_preorder]
  induction t.preorder with
  | nil => simp
  | cons s rest ih => rw [List.map_cons, List.foldr_cons, Nat.max_le, ih, List.forall_mem_cons]

/-- The nodes of a child are nodes. -/
theorem mem_preorder_of_child {t child s : Tree} (direct : child ∈ t.children)
    (member : s ∈ child.preorder) : s ∈ t.preorder := by
  rw [preorder_eq]
  exact List.mem_cons_of_mem _ (List.mem_flatMap.mpr ⟨child, direct, member⟩)

/-- A tree is a node of its own. -/
theorem mem_preorder_self (t : Tree) : t ∈ t.preorder := by
  rw [preorder_eq]
  exact List.mem_cons_self

/-- The nodes of a subtree below the dispatch are nodes of the tree. -/
theorem mem_preorder_lengthChain {subtrees : List (Int × Tree)} {s : Int × Tree}
    (inside : s ∈ subtrees) {t : Tree} (member : t ∈ s.2.preorder) :
    t ∈ (lengthChain subtrees).preorder := by
  induction subtrees with
  | nil => cases inside
  | cons first rest ih =>
    rw [lengthChain]
    rcases List.mem_cons.mp inside with rfl | inside
    · exact mem_preorder_of_child List.mem_cons_self member
    · exact mem_preorder_of_child (List.mem_cons_of_mem _ List.mem_cons_self) (ih inside)

/-- The nodes of a subtree below the dispatch are nodes of the tree. -/
theorem mem_preorder_balanced {subtrees : List (Int × Tree)} {s : Int × Tree}
    (inside : s ∈ subtrees) {t : Tree} (member : t ∈ s.2.preorder) :
    t ∈ (balanced subtrees).preorder := by
  fun_induction balanced subtrees with
  | case1 subtrees many half lower upper =>
    rw [← List.take_append_drop (subtrees.length / 2) subtrees] at inside
    rcases List.mem_append.mp inside with inside | inside
    · exact mem_preorder_of_child List.mem_cons_self (lower inside)
    · exact mem_preorder_of_child (List.mem_cons_of_mem _ List.mem_cons_self) (upper inside)
  | case2 subtrees few => exact mem_preorder_lengthChain inside member

end Tree

/-- A test has no more branches than there are characters. -/
theorem Canonical.length_le {n : Nat} {p : Int} {branches : List (String × Tree)}
    (canonical : Canonical n p branches) : branches.length ≤ 0x110000 := by
  obtain ⟨chars, labels, ascending, -⟩ := canonical.labelled
  have distinct : chars.Nodup := ascending.imp fun less => ne_of_lt less
  have codes : (chars.map Char.toNat).Nodup :=
    distinct.map fun c d same => Char.toNat_inj.mp same
  have inside : chars.map Char.toNat ⊆ List.range 0x110000 := by
    intro code member
    obtain ⟨c, -, rfl⟩ := List.mem_map.mp member
    refine List.mem_range.mpr ?_
    rcases c.valid with small | ⟨-, large⟩
    · exact Nat.lt_trans small (by decide)
    · exact large
  have count := (codes.subperm inside).length_le
  rw [List.length_map, List.length_range] at count
  rwa [← List.length_map Prod.fst, labels, List.length_map]

namespace Separates

variable {entries : List Entry} {t : Tree}

/-- The tests of characters that tell entries apart have branches, at most as many as the one that
has the most. -/
theorem fans (separates : Separates entries t) {all : List Entry} (among : entries ⊆ all) {h : Nat}
    (few : ∀ s ∈ t.preorder, s.width ≤ 8 * 2 ^ h) : Fans all h t := by
  induction separates with
  | single e => exact .leaf (among List.mem_cons_self)
  | @divide entries p classes child difference divided _ ih =>
    have two := difference.two_le_length_classes divided
    refine .charTest ?_ (few _ (Tree.mem_preorder_self _)) ?_
    · rw [ne_eq, List.map_eq_nil_iff, ← List.length_eq_zero_iff]
      omega
    · intro b member
      obtain ⟨c, inside, rfl⟩ := List.mem_map.mp member
      have class_sub := ((division_byCharacter divided).class_sublist inside).subset
      refine ih c inside (List.Subset.trans class_sub among) fun s below => few s ?_
      exact Tree.mem_preorder_of_child (List.mem_map_of_mem member) below

end Separates

namespace Source

/-! ### Blocks -/

/-- `block.Nested plan h level`: at a level the block consists of statements of the functions of a
lookup. Only trees that test characters, with branches, are left to helpers. -/
structure Block.Nested (plan : Blueprint) (h level : Nat) (block : Block) : Prop where
  form : FormedBlock plan level block.body
  fans : ∀ t ∈ block.cut, Fans plan.entries h t

namespace Emitter

/-- The blocks of an emitter nest, whatever their helpers are numbered. -/
def Nested (plan : Blueprint) (h level : Nat) (block : Emitter) : Prop :=
  ∀ helpers, (block helpers).Nested plan h level

variable {plan : Blueprint} {h level : Nat}

/-- A statement before a block. -/
theorem after_nested {s : Statement} {block : Emitter} (formed : Formed plan level s)
    (nested : block.Nested plan h level) : (after s block).Nested plan h level := by
  intro helpers
  obtain ⟨form, fans⟩ := nested helpers
  exact ⟨(FormedBlock.single formed).append form, fans⟩

/-- One of two blocks. -/
theorem either_nested {yes no : Emitter} {condition : Condition}
    (other : ∀ t, condition ≠ .keyIs t) (first : yes.Nested plan h (level + 1))
    (second : no.Nested plan h (level + 1)) (inside : level ≤ plan.bound) :
    (either condition yes no).Nested plan h level := by
  intro helpers
  obtain ⟨form, fans⟩ := first helpers
  obtain ⟨form', fans'⟩ := second (helpers + (yes helpers).cut.length)
  constructor
  · exact .single (.either other form.filled form'.filled form.each form'.each inside)
  · exact List.forall_mem_append.mpr ⟨fans, fans'⟩

/-- The arms of a choice have the conditions that they are given. -/
theorem map_fst_arms (helpers : Nat) (blocks : List (Condition × Emitter)) :
    (arms helpers blocks).1.map Prod.fst = blocks.map Prod.fst := by
  induction blocks generalizing helpers with
  | nil => rfl
  | cons b rest ih => rw [arms, List.map_cons, ih, List.map_cons]

/-- The arms of a choice nest when the blocks do. -/
theorem arms_nested {blocks : List (Condition × Emitter)}
    (nested : ∀ b ∈ blocks, b.2.Nested plan h level) (helpers : Nat) :
    (∀ arm ∈ (arms helpers blocks).1, FormedBlock plan level arm.2) ∧
      ∀ t ∈ (arms helpers blocks).2, Fans plan.entries h t := by
  induction blocks generalizing helpers with
  | nil => simp [arms]
  | cons b rest ih =>
    obtain ⟨first, others⟩ := List.forall_mem_cons.mp nested
    obtain ⟨form, fans⟩ := first helpers
    obtain ⟨forms, fans'⟩ := ih others (helpers + (b.2 helpers).cut.length)
    rw [arms]
    exact ⟨List.forall_mem_cons.mpr ⟨form, forms⟩, List.forall_mem_append.mpr ⟨fans, fans'⟩⟩

/-- A choice among blocks. -/
theorem choose_nested {blocks : List (Condition × Emitter)} (some : blocks ≠ [])
    (few : FewTests (blocks.map Prod.fst)) (other : ∀ c ∈ blocks.map Prod.fst, ∀ t, c ≠ .keyIs t)
    (nested : ∀ b ∈ blocks, b.2.Nested plan h (level + 1)) (inside : level ≤ plan.bound) :
    (choose blocks).Nested plan h level := by
  intro helpers
  obtain ⟨forms, fans⟩ := arms_nested nested helpers
  have conditions := map_fst_arms helpers blocks
  have filled : (arms helpers blocks).1 ≠ [] := by
    intro none
    rw [none, List.map_nil] at conditions
    exact some (List.map_eq_nil_iff.mp conditions.symm)
  refine ⟨.single (.choose filled (conditions ▸ few) (conditions ▸ other) ?_ ?_ inside), fans⟩
  · exact fun arm member => (forms arm member).filled
  · exact fun arm member => (forms arm member).each

end Emitter

/-! ### Blocks of trees -/

variable {plan : Blueprint} {h level : Nat}

/-- The choice among branches. Each halving adds a level. -/
theorem fan_nested {branches : List (String × (Nat → Emitter))} {k : Nat} (some : branches ≠ [])
    (few : branches.length ≤ 8 * 2 ^ k)
    (nested : ∀ b ∈ branches, ∀ n ≤ level + k + 1, (b.2 n).Nested plan h n)
    (inside : level + k ≤ plan.bound) : (fan level branches).Nested plan h level := by
  fun_induction fan level branches generalizing k with
  | case1 level branches many half lower upper =>
    rw [linearBranchLimit] at many
    cases k with
    | zero => omega
    | succ k =>
      have two : branches.length ≤ 2 * (8 * 2 ^ k) := by
        rw [Nat.pow_succ] at few
        omega
      refine Emitter.either_nested (fun t => by simp) (@lower k ?_ ?_ ?_ ?_) (@upper k ?_ ?_ ?_ ?_)
        (by omega)
      · simp [some]
        omega
      · rw [List.length_take]
        omega
      · exact fun b member n deep => nested b (List.mem_of_mem_take member) n (by omega)
      · omega
      · simpa using half
      · rw [List.length_drop]
        omega
      · exact fun b member n deep => nested b (List.mem_of_mem_drop member) n (by omega)
      · omega
  | case2 level branches small =>
    refine Emitter.choose_nested (by simpa using some) ?_ ?_ ?_ (by omega)
    · refine .characters ?_ ?_
      · rw [linearBranchLimit] at small
        simpa using small
      · rw [List.map_map, List.forall_mem_map]
        exact fun b _ => ⟨b.1, rfl⟩
    · rw [List.map_map, List.forall_mem_map]
      intro b _ t same
      cases same
    · simp only [List.forall_mem_map]
      exact fun b member => nested b member (level + 1) (by omega)

/-- The block of a tree that tests characters. A test that stands below the limit moves into a
helper, and every other adds the levels of its halvings. -/
theorem emit_nested_of_fans {t : Tree} (fans : Fans plan.entries h t) (inside : level < plan.bound)
    (deep : 34 + h ≤ plan.bound) : (emit plan.name t level).Nested plan h level := by
  induction fans generalizing level with
  | leaf member => exact fun helpers => ⟨.single (.hit member inside), by simp [emit]⟩
  | @charTest position branches some few children ih =>
    rw [emit]
    split
    · intro helpers
      refine ⟨.single (.call _ (Nat.le_of_lt inside)), ?_⟩
      rw [List.forall_mem_singleton]
      exact .charTest some few children
    · rename_i shallow
      rw [nestingLimit] at shallow
      refine Emitter.after_nested (.read position (Nat.le_of_lt inside))
        (@fan_nested _ _ _ _ h ?_ ?_ ?_ ?_)
      · simpa [emitBranches_eq] using some
      · simpa [emitBranches_eq] using few
      · simp only [emitBranches_eq, List.forall_mem_map]
        exact fun b member n stands => ih b member (by omega)
      · omega

/-- The arms of a chain of lengths. -/
theorem emitChain_lengthChain (name : String) (level : Nat) (subtrees : List (Int × Tree)) :
    emitChain name (Tree.lengthChain subtrees) level
      = subtrees.map fun s => (.lengthIs s.1, emit name s.2 (level + 1)) := by
  induction subtrees with
  | nil => simp [Tree.lengthChain, emitChain]
  | cons s rest ih => rw [Tree.lengthChain, emitChain, ih, List.map_cons]

/-- The block of the dispatch on the length. Each halving adds a level. -/
theorem balanced_nested {subtrees : List (Int × Tree)} {k : Nat} (some : subtrees ≠ [])
    (few : subtrees.length ≤ 3 * 2 ^ k) (fans : ∀ s ∈ subtrees, Fans plan.entries h s.2)
    (inside : level + k + 2 ≤ plan.bound) (deep : 34 + h ≤ plan.bound) :
    (emit plan.name (Tree.balanced subtrees) level).Nested plan h level := by
  fun_induction Tree.balanced subtrees generalizing k level with
  | case1 subtrees many half lower upper =>
    rw [Tree.linearLengthLimit] at many
    cases k with
    | zero => omega
    | succ k =>
      have two : subtrees.length ≤ 2 * (3 * 2 ^ k) := by
        rw [Nat.pow_succ] at few
        omega
      rw [emit]
      refine Emitter.either_nested (fun t => by simp) (@lower _ k ?_ ?_ ?_ ?_)
        (@upper _ k ?_ ?_ ?_ ?_) (by omega)
      · simp [some]
        omega
      · rw [List.length_take]
        omega
      · exact fun s member => fans s (List.mem_of_mem_take member)
      · omega
      · simpa using half
      · rw [List.length_drop]
        omega
      · exact fun s member => fans s (List.mem_of_mem_drop member)
      · omega
  | case2 subtrees small =>
    rw [Tree.linearLengthLimit] at small
    have arms := emitChain_lengthChain plan.name level subtrees
    cases subtrees with
    | nil => exact absurd rfl some
    | cons s rest =>
      rw [Tree.lengthChain, emitChain] at arms
      rw [Tree.lengthChain, emit, arms]
      refine Emitter.choose_nested (by simp) ?_ ?_ ?_ (by omega)
      · refine .lengths (by simpa using small) ?_
        rw [List.map_map, List.forall_mem_map]
        exact fun s _ => ⟨s.1, rfl⟩
      · rw [List.map_map, List.forall_mem_map]
        intro s _ t same
        cases same
      · simp only [List.forall_mem_map]
        exact fun s member => emit_nested_of_fans (fans s member) (by omega) deep

/-! ### Functions -/

/-- The helpers of a queue. -/
theorem formed_helpersFrom {done : Nat} {queue : List Tree}
    (fans : ∀ t ∈ queue, Fans plan.entries h t) (deep : 34 + h ≤ plan.bound) :
    ∀ f ∈ helpersFrom plan.name plan.default done queue, FormedBlock plan 1 f.body := by
  fun_induction helpersFrom plan.name plan.default done queue with
  | case1 done => simp
  | case2 done t rest block ih =>
    obtain ⟨first, others⟩ := List.forall_mem_cons.mp fans
    obtain ⟨form, left⟩ := @emit_nested_of_fans plan h bodyLevel t first
      (by rw [bodyLevel]; omega) deep (done + 1 + rest.length)
    have miss : Formed plan 1 (missStatement plan.default) := .miss (by omega)
    refine List.forall_mem_cons.mpr ⟨form.append (.single miss), ?_⟩
    exact ih (List.forall_mem_append.mpr ⟨others, left⟩)

/-- The statements that decide about a text. -/
theorem formedBlock_decision {root : Tree}
    (form : FormedBlock plan 1 (mainBlock plan.name root).body) (inside : 1 ≤ plan.bound) :
    FormedBlock plan 1 (decision plan.name root) := by
  cases root with
  | miss => exact form
  | leaf | charTest | lengthTest | lengthSplit =>
    exact (FormedBlock.single (.measure inside)).append form

/-- The functions of a dispatch on the length. -/
theorem formed_functionsOf {doc : Option String} {subtrees : List (Int × Tree)} {k : Nat}
    (some : subtrees ≠ []) (few : subtrees.length ≤ 3 * 2 ^ k)
    (fans : ∀ s ∈ subtrees, Fans plan.entries h s.2) (inside : 3 + k ≤ plan.bound)
    (deep : 34 + h ≤ plan.bound) :
    ∀ f ∈ functionsOf plan.name doc (Tree.balanced subtrees) plan.default,
      FormedBlock plan 1 f.body := by
  obtain ⟨form, left⟩ := @balanced_nested plan h bodyLevel subtrees k some few fans
    (by rw [bodyLevel]; omega) deep 0
  have miss (level : Nat) (stands : level ≤ 2) :
      Formed plan level (missStatement plan.default) := .miss (by omega)
  have noText : Formed plan 1 (.choose [(.keyIsNoText, [missStatement plan.default])]) := by
    refine .choose (by simp) (.single _) ?_ ?_ ?_ (by omega)
    · simp
    · simp
    · simp only [List.forall_mem_singleton]
      exact miss 2 (Nat.le_refl 2)
  have decides := formedBlock_decision form (Nat.le_trans (by omega) deep)
  refine List.forall_mem_cons.mpr ⟨?_, formed_helpersFrom left deep⟩
  exact (FormedBlock.single noText).append (decides.append (.single (miss 1 (by omega))))

end Source

/-! ### Declared lookups -/

namespace Decides

variable {entries : List Entry} {t : Tree}

/-- No test has more branches than there are characters. -/
theorem widest_le (decides : Decides entries t) (distinct : (entries.map Entry.chars).Nodup) :
    t.widest ≤ 0x110000 := by
  refine Tree.widest_le_iff.mpr fun s member => ?_
  obtain ⟨turns, path⟩ := Tree.exists_path t member
  cases s with
  | charTest p branches =>
    obtain ⟨n, -, canonical, -⟩ := decides.canonical distinct path
    exact canonical.length_le
  | miss | leaf | lengthTest | lengthSplit => exact Nat.zero_le _

/-- The bodies of the functions of the tree of entries. With `d` lengths and tests of at most `b`
branches, where `d ≤ 3 * 2 ^ k` and `b ≤ 8 * 2 ^ h`, nothing is deeper than
`max (3 + k) (34 + h)`. -/
theorem formed_functionsOf (decides : Decides entries t) (some : entries ≠ []) {k h : Nat}
    (lengths : (byLength entries).length ≤ 3 * 2 ^ k) (branches : t.widest ≤ 8 * 2 ^ h)
    (name : String) (doc : Option String) (default : Value) :
    ∀ f ∈ Source.functionsOf name doc t default,
      Source.FormedBlock ⟨name, default, entries, max (3 + k) (34 + h)⟩ 1 f.body := by
  have few := Tree.widest_le_iff.mp branches
  obtain ⟨subtree, separates⟩ := decides
  refine @Source.formed_functionsOf ⟨name, default, entries, _⟩ _ _ _ _ ?_ ?_ ?_
    (Nat.le_max_left _ _) (Nat.le_max_right _ _)
  · intro none
    have empty := List.map_eq_nil_iff.mp none
    refine some (List.nil_perm.mp ?_)
    have whole := (division_byLength entries).whole
    rwa [empty] at whole
  · rwa [List.length_map]
  · rw [List.forall_mem_map]
    intro c inside
    have class_sub := ((division_byLength entries).class_sublist inside).subset
    refine (separates c inside).fans class_sub fun s below => few s ?_
    exact Tree.mem_preorder_balanced (List.mem_map_of_mem inside) below

end Decides

namespace Declared

open Source

/-- The lengths of the entries of keys and values are those of the keys. -/
theorem length_byLength {keys : List Text} {values : List Value}
    (counts : keys.length = values.length) :
    (byLength (entriesFrom 0 (keys.zip values))).length = (keys.map Text.length).dedup.length := by
  have division := division_byLength (entriesFrom 0 (keys.zip values))
  have lengths : keys.map Text.length = (entriesFrom 0 (keys.zip values)).map Entry.length := by
    have texts := map_text_entriesFrom 0 (keys.zip values)
    rw [List.map_fst_zip (Nat.le_of_eq counts)] at texts
    have lengths := congrArg (List.map Text.length) texts.symm
    rwa [List.map_map] at lengths
  have same : ((byLength (entriesFrom 0 (keys.zip values))).map Prod.fst).Perm
      (keys.map Text.length).dedup := by
    refine (List.perm_ext_iff_of_nodup division.keys_nodup (List.nodup_dedup _)).mpr fun n => ?_
    rw [division.mem_keys_iff, List.mem_dedup, lengths, List.mem_map]
    simp only [Option.some.injEq]
  rw [← List.length_map Prod.fst, same.length_eq]

section Nesting

variable {d : Declared} {keys : List Text} {values : List Value} {l : Lookup}

/-- The bodies of the functions of a declared lookup are as deep as its lengths and its branches
tell. -/
theorem formed_of_lookup (lists : d.Lists keys values) (built : d.lookup = .ok l) {s h : Nat}
    (lengths : (keys.map Text.length).dedup.length ≤ 3 * 2 ^ s)
    (branches : l.root.widest ≤ 8 * 2 ^ h) (name : String) (doc : Option String) :
    ∀ f ∈ functionsOf name doc l.root l.default,
      FormedBlock ⟨name, l.default, entriesFrom 0 (keys.zip values), max (3 + s) (34 + h)⟩ 1
        f.body := by
  obtain ⟨decides, -⟩ := decides_of_lookup lists built
  have checked := checked_of_lookup lists built
  have some : entriesFrom 0 (keys.zip values) ≠ [] := by
    apply List.ne_nil_of_length_pos
    rw [length_entriesFrom, List.length_zip, ← checked.counts, Nat.min_self]
    exact List.length_pos_iff.mpr checked.nonempty
  rw [← length_byLength checked.counts] at lengths
  exact decides.formed_functionsOf some lengths branches name doc l.default

/-- The functions of a declared lookup nest as deeply as its lengths and its branches tell. -/
theorem nested_of_lookup (lists : d.Lists keys values) (built : d.lookup = .ok l) {s h : Nat}
    (lengths : (keys.map Text.length).dedup.length ≤ 3 * 2 ^ s)
    (branches : l.root.widest ≤ 8 * 2 ^ h) (name : String) (doc : Option String) :
    ∀ f ∈ functionsOf name doc l.root l.default,
      WellNested f.lines ∧ ∀ line ∈ f.lines, line.level ≤ max (3 + s) (34 + h) :=
  fun f member =>
    wellNested_lines (formed_of_lookup lists built lengths branches name doc f member).formsBlock

/-- The tests of a declared lookup have no more branches than eighteen halvings bring down to
eight. -/
theorem widest_of_lookup (lists : d.Lists keys values) (built : d.lookup = .ok l) :
    l.root.widest ≤ 8 * 2 ^ 18 := by
  obtain ⟨decides, -⟩ := decides_of_lookup lists built
  have distinct := (checked_of_lookup lists built).distinct_zip
  exact (decides.widest_le (nodup_chars_entriesFrom distinct)).trans (by decide)

/-- The bodies of the functions of a declared lookup consist of the statements of a lookup. -/
theorem exists_formed_of_lookup (lists : d.Lists keys values) (built : d.lookup = .ok l)
    (name : String) (doc : Option String) :
    ∃ bound, ∀ f ∈ functionsOf name doc l.root l.default,
      FormedBlock ⟨name, l.default, entriesFrom 0 (keys.zip values), bound⟩ 1 f.body := by
  have lengths : (keys.map Text.length).dedup.length
      ≤ 3 * 2 ^ (keys.map Text.length).dedup.length :=
    (Nat.le_of_lt Nat.lt_two_pow_self).trans (Nat.le_mul_of_pos_left _ (by decide))
  exact ⟨_, formed_of_lookup lists built lengths (widest_of_lookup lists built) name doc⟩

/-- The lines of the functions form blocks. -/
theorem wellNested_of_lookup (lists : d.Lists keys values) (built : d.lookup = .ok l)
    {name : String} {doc : Option String} {f : Function}
    (member : f ∈ functionsOf name doc l.root l.default) : WellNested f.lines := by
  obtain ⟨bound, formed⟩ := exists_formed_of_lookup lists built name doc
  exact (wellNested_lines (formed f member).formsBlock).1

/-- No line reaches the limit of levels unless the keys have very many lengths. -/
theorem level_lt_of_lookup (lists : d.Lists keys values) (built : d.lookup = .ok l)
    (lengths : (keys.map Text.length).dedup.length ≤ 3 * 2 ^ 96) {name : String}
    {doc : Option String} {f : Function} (member : f ∈ functionsOf name doc l.root l.default) :
    ∀ line ∈ f.lines, line.level < levelLimit := by
  intro line inside
  have wide := widest_of_lookup lists built
  have bound := (nested_of_lookup lists built lengths wide name doc f member).2 line inside
  rw [levelLimit]
  omega

end Nesting

/-- The functions of a declared lookup are well nested. When the values have literals and the name
may name a function, the lookup is written. The text has the lines of the functions in order, each
behind one unit of indentation for each of its levels; when no line holds a line end, these are the
lines of the text. The lines of each function form blocks, and their texts tell the headers. With
keys of `d` lengths and tests of at most `b` branches, where `d ≤ 3 * 2 ^ s` and `b ≤ 8 * 2 ^ h`, no
line is deeper than `max (3 + s) (34 + h)`. There are not so many characters that `h` is more than
18, and so no line reaches the limit of levels unless the keys have more than `3 * 2 ^ 96`
lengths. -/
theorem well_nested {d : Declared} {keys : List Text} {values : List Value} {l : Lookup}
    {name : Value} {n : String} (unit : String) (docs : List (String × String))
    (lists : d.Lists keys values) (built : d.lookup = .ok l)
    (literals : ∀ v ∈ values, v.literalFault? = none)
    (named : functionName (if name.isTruthy then name else l.name) = .ok n) :
    ∃ p text, Program.ofLookups docs [(if name.isTruthy then name else l.name, l)] = .ok p ∧
      renderModule unit docs [(if name.isTruthy then name else l.name, l)] = .ok text ∧
      text = String.intercalate "\n" (p.writtenLines unit ++ [""]) ∧
      (OneLine unit → (∀ m ∈ p.imports, OneLine m) → (∀ line ∈ p.lines, OneLine line.text) →
        linesOf text = p.writtenLines unit ++ [""]) ∧
      (∀ f ∈ p.functions, WellNested f.lines ∧
        ∀ line ∈ f.lines, line.header = Header.ofText? line.text) ∧
      (∀ s h, (keys.map Text.length).dedup.length ≤ 3 * 2 ^ s → l.root.widest ≤ 8 * 2 ^ h →
        ∀ f ∈ p.functions, ∀ line ∈ f.lines, line.level ≤ max (3 + s) (34 + h)) ∧
      l.root.widest ≤ 8 * 2 ^ 18 ∧
      ((keys.map Text.length).dedup.length ≤ 3 * 2 ^ 96 →
        ∀ f ∈ p.functions, ∀ line ∈ f.lines, line.level < levelLimit) := by
  have made := ofLookups_eq_ok docs lists built literals named
  have rendered : renderModule unit docs [(if name.isTruthy then name else l.name, l)]
      = .ok (Program.text unit ⟨functionsFor docs (n, l)⟩) := by
    rw [renderModule, made]
    rfl
  refine ⟨_, _, made, rendered, text_eq unit n docs lists built, linesOf_text lists built,
    fun f member => ⟨?_, header_eq_ofText? f⟩, ?_, widest_of_lookup lists built, ?_⟩
  · exact wellNested_of_lookup lists built member
  · intro s h lengths branches f member
    exact (nested_of_lookup lists built lengths branches n (docs.lookup n) f member).2
  · intro lengths f member
    exact level_lt_of_lookup lists built lengths member

/-- The keys of the declaration with a helper have few lengths. -/
theorem few_lengths_deep :
    ((deepKeys.map fun k => (⟨k, .plain⟩ : Text)).map Text.length).dedup.length ≤ 3 * 2 ^ 96 := by
  have count : ((deepKeys.map fun k => (⟨k, .plain⟩ : Text)).map Text.length).length = 44 := by
    simp [deepKeys, ladder]
  exact ((List.dedup_sublist _).length_le.trans (Nat.le_of_eq count)).trans (by decide)

/-- Functions with tests of all kinds and with a helper are well nested. -/
theorem well_nested_deep :
    ∃ l p text, deep.lookup = .ok l ∧
      Program.ofLookups [("find", "Finds words.")] [(.str "find", l)] = .ok p ∧
      renderModule standardUnit [("find", "Finds words.")] [(.str "find", l)] = .ok text ∧
      text = String.intercalate "\n" (p.writtenLines standardUnit ++ [""]) ∧
      (∀ header : Header, ∃ f ∈ p.functions, ∃ line ∈ f.lines, line.header = some header) ∧
      p.functions.length = 2 ∧
      ∀ f ∈ p.functions, WellNested f.lines ∧ ∀ line ∈ f.lines, line.level < levelLimit := by
  obtain ⟨l, built, helper, headers⟩ := lookup_deep
  have named : functionName (.str "find") = .ok "find" := rfl
  obtain ⟨p, text, made, rendered, whole, -, nested, -, -, levels⟩ :=
    @well_nested _ _ _ l (.str "find") "find" standardUnit [("find", "Finds words.")] lists_deep
      built literals_deep named
  obtain rfl := Except.ok.inj (made.symm.trans
    (ofLookups_eq_ok [("find", "Finds words.")] lists_deep built literals_deep named))
  refine ⟨l, _, text, built, made, rendered, whole, fun header => ?_, ?_, fun f member => ?_⟩
  · obtain ⟨line, inside, opens⟩ := headers header
    refine ⟨_, List.mem_cons_self, line, ?_, opens⟩
    rw [Function.lines] at inside ⊢
    rcases List.mem_cons.mp inside with rfl | inside
    · exact List.mem_cons_self
    · exact List.mem_cons_of_mem _ (List.mem_append_right _ inside)
  · exact congrArg (· + 1) helper
  · exact ⟨(nested f member).1, levels few_lengths_deep f member⟩

end Declared

end KeyTree
