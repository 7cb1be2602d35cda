/-
# Routing by the length

The tests of the length lead an input to the subtree of its length after about as many
tests as the lengths can be halved. Each bucket is built once, in the order of the lengths,
whatever building it does besides; a building that fails ends the dispatch.

* `Tree.noting` — a builder that notes the buckets that it is called with.
* `Tree.dispatch_eq`, `Tree.run_dispatch_noting` — what is built, and the calls.
* `Tree.dispatch_routes` — where the tests of the length lead, and at what cost.
-/

import KeyTree.Proofs.Tree.Walk

namespace KeyTree.Tree

/-! ### Building the buckets -/

section Building

variable {m : Type → Type} [Monad m] {β : Type}

/-- A builder that also notes the buckets that it is called with. -/
def noting (build : β → m Tree) (bucket : β) : StateT (List β) m Tree :=
  fun called => (·, called ++ [bucket]) <$> build bucket

@[simp] theorem run_noting (build : β → m Tree) (bucket : β) (called : List β) :
    (noting build bucket).run called = (·, called ++ [bucket]) <$> build bucket := rfl

variable [LawfulMonad m]

/-- Building the buckets with their lengths is building the buckets. -/
theorem mapM_labelled (buckets : List (Int × β)) (build : β → m Tree) :
    (buckets.mapM fun b => do return (b.1, ← build b.2))
      = ((buckets.map Prod.fst).zip ·) <$> (buckets.map Prod.snd).mapM build := by
  induction buckets with
  | nil => simp
  | cons b rest ih =>
    simp only [List.mapM_cons, List.map_cons, ih]
    simp

/-- A dispatch builds the buckets one after the other and puts the tests of the length above
what comes out. -/
theorem dispatch_eq (buckets : List (Int × β)) (build : β → m Tree) :
    dispatch buckets build
      = (fun trees => balanced ((buckets.map Prod.fst).zip trees)) <$>
          (buckets.map Prod.snd).mapM build := by
  have labelled := mapM_labelled buckets build
  simp only [dispatch]
  rw [labelled]
  simp

/-- Building each of some buckets notes them in order. -/
theorem run_mapM_noting (build : β → m Tree) (bs called : List β) :
    (bs.mapM (noting build)).run called = (·, called ++ bs) <$> bs.mapM build := by
  induction bs generalizing called with
  | nil => simp
  | cons b rest ih =>
    simp [List.mapM_cons, ih]

/-- A dispatch calls the builder once for each bucket, in order. -/
theorem run_dispatch_noting (buckets : List (Int × β)) (build : β → m Tree) (called : List β) :
    (dispatch buckets (noting build)).run called
      = (·, called ++ buckets.map Prod.snd) <$> dispatch buckets build := by
  rw [dispatch_eq, StateT.run_map, run_mapM_noting, dispatch_eq]
  simp

end Building

/-! ### The subtree of a length -/

/-- The subtree of a length is the one at its place. -/
theorem getElem?_eq_subtreeAt {lengths : List Int} {trees : List Tree} (distinct : lengths.Nodup)
    (count : lengths.length = trees.length) {i : Nat} {n : Int} (at_i : lengths[i]? = some n) :
    trees[i]? = some (subtreeAt (lengths.zip trees) n) := by
  induction lengths generalizing trees i with
  | nil => simp at at_i
  | cons m rest ih =>
    obtain ⟨fresh, distinctRest⟩ := List.nodup_cons.mp distinct
    cases trees with
    | nil => simp at count
    | cons t others =>
      cases i with
      | zero =>
        obtain rfl : m = n := by simpa using at_i
        simp [subtreeAt]
      | succ i =>
        have later : rest[i]? = some n := by simpa using at_i
        have ne : n ≠ m := fun eq => fresh (eq ▸ List.mem_of_getElem? later)
        have same : subtreeAt ((m :: rest).zip (t :: others)) n = subtreeAt (rest.zip others) n := by
          simp [subtreeAt, List.lookup_cons, beq_eq_false_iff_ne.mpr ne]
        rw [same]
        simpa using ih distinctRest (by simpa using count) later

/-- A length that is not among the lengths of subtrees is a miss. -/
theorem subtreeAt_of_fresh {subtrees : List (Int × Tree)} {n : Int}
    (fresh : n ∉ subtrees.map Prod.fst) : subtreeAt subtrees n = .miss := by
  rw [subtreeAt, lookup_eq_none_of_fresh fresh, Option.getD_none]

/-! ### Costs -/

/-- Halving up takes at most one step more than halving down. -/
theorem clog_le_log_add_one (n : Nat) : Nat.clog 2 n ≤ Nat.log 2 n + 1 := by
  refine (Nat.clog_le_iff_le_pow Nat.one_lt_two).mpr ?_
  exact Nat.le_of_lt (Nat.lt_pow_succ_log_self Nat.one_lt_two n)

/-- A dispatch over buckets of ascending lengths builds each of them once and in order. The
tests of the length then lead every input to the tree built for its length, or to a miss when
there is no such bucket: without a test when there is no bucket at all, and else after at most
one test more than the number of buckets can be halved. -/
theorem dispatch_routes {m : Type → Type} [Monad m] [LawfulMonad m] {β : Type}
    {buckets : List (Int × β)} (ascending : (buckets.map Prod.fst).Pairwise (· < ·))
    (build : β → m Tree) :
    (∀ called : List β, (dispatch buckets (noting build)).run called
      = (·, called ++ buckets.map Prod.snd) <$> dispatch buckets build) ∧
    dispatch buckets build
      = (fun trees => balanced ((buckets.map Prod.fst).zip trees)) <$>
          (buckets.map Prod.snd).mapM build ∧
    ∀ trees : List Tree, trees.length = buckets.length → ∀ n : Nat, ∃ k target,
      LeadsTo n (balanced ((buckets.map Prod.fst).zip trees)) k target ∧
      (∀ text : List Char, text.length = n →
        (balanced ((buckets.map Prod.fst).zip trees)).walk text
          = Walk.afterLengths k <$> target.walk text) ∧
      (∀ i : Nat, (buckets.map Prod.fst)[i]? = some (n : Int) → trees[i]? = some target) ∧
      ((n : Int) ∉ buckets.map Prod.fst → target = .miss) ∧
      (buckets = [] → k = 0) ∧ (buckets ≠ [] → k ≤ Nat.clog 2 buckets.length + 1) ∧
      k ≤ Nat.log 2 buckets.length + linearLengthLimit := by
  refine ⟨run_dispatch_noting buckets build, dispatch_eq buckets build, ?_⟩
  intro trees count n
  have lengths : ((buckets.map Prod.fst).zip trees).map Prod.fst = buckets.map Prod.fst :=
    List.map_fst_zip (by simp [count])
  have places : ((buckets.map Prod.fst).zip trees).length = buckets.length := by simp [count]
  obtain ⟨k, cost, leads, none⟩ : ∃ k ≤ Nat.clog 2 buckets.length + 1,
      LeadsTo n (balanced ((buckets.map Prod.fst).zip trees)) k
        (subtreeAt ((buckets.map Prod.fst).zip trees) n) ∧ (buckets = [] → k = 0) := by
    by_cases empty : buckets = []
    · have miss : balanced ((buckets.map Prod.fst).zip trees) = .miss := by
        rw [empty, balanced]
        rfl
      have absent : subtreeAt ((buckets.map Prod.fst).zip trees) n = .miss := by
        rw [empty]
        rfl
      rw [miss, absent]
      exact ⟨0, Nat.zero_le _, .here _, fun _ => rfl⟩
    · obtain ⟨k, cost, leads⟩ := leadsTo_balanced (lengths ▸ ascending) n
      rw [places] at cost
      exact ⟨k, cost, leads, fun eq => absurd eq empty⟩
  refine ⟨k, _, leads, ?_, ?_, ?_, none, fun _ => cost, ?_⟩
  · rintro text rfl
    exact leads.walk_eq
  · intro i at_i
    refine getElem?_eq_subtreeAt (ascending.imp ?_) (by simp [count]) at_i
    exact fun less => Int.ne_of_lt less
  · intro fresh
    rw [← lengths] at fresh
    exact subtreeAt_of_fresh fresh
  · have := clog_le_log_add_one buckets.length
    simp only [linearLengthLimit]
    omega

/-- Five lengths: an input of the fourth one is led to its tree by at most four tests. -/
theorem dispatch_routes_five :
    ∃ t k,
      dispatch [((1 : Int), "a"), (2, "bb"), (4, "cccc"), (7, "ddddddd"), (9, "eeeeeeeee")]
        (fun s => (.ok (.leaf ⟨⟨s, .plain⟩, 0, .none⟩) : Except Empty Tree)) = .ok t ∧
      LeadsTo 7 t k (.leaf ⟨⟨"ddddddd", .plain⟩, 0, .none⟩) ∧ k ≤ 4 := by
  obtain ⟨-, built, routes⟩ := @dispatch_routes (Except Empty) _ _ String
    [(1, "a"), (2, "bb"), (4, "cccc"), (7, "ddddddd"), (9, "eeeeeeeee")] (by decide)
    (fun s => .ok (.leaf ⟨⟨s, .plain⟩, 0, .none⟩))
  obtain ⟨k, target, leads, -, hit, -, -, cost, -⟩ := routes
    (["a", "bb", "cccc", "ddddddd", "eeeeeeeee"].map fun s => .leaf ⟨⟨s, .plain⟩, 0, .none⟩) rfl 7
  obtain rfl := Option.some.inj (hit 3 rfl)
  have bound : k ≤ Nat.clog 2 5 + 1 := cost (by simp)
  have five : Nat.clog 2 5 = 3 := by decide
  exact ⟨_, k, built, leads, by omega⟩

end KeyTree.Tree
