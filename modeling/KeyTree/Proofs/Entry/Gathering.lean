/-
# Gathering into classes

The classes of a division can be gathered in two stages. A table takes up the items one after
the other: each goes behind the items of its key, and a new key comes last. In the end the
keys are sorted, and each is given the items that the table has for it. The order in which the
keys occur first is lost, the order inside the classes stays. Putting the items in front of
ascending classes, from the last item to the first, gives the same division.

* `appendToClass`, `gather` — the table of items.
* `ascendingClasses` — the classes of a table in the order of their keys.
* `TableOf` — what holds of the table after any number of items.
* `TableOf.append`, `TableOf.of_foldlM` — one more item, and a run.
* `Division.gather_eq` — the two stages give the only division that there is.
* `divisions_ascending_stable` — both divisions of entries.
-/

import KeyTree.Proofs.Tree.Splitting

namespace KeyTree

/-! ### Sorting -/

/-- Sorting keys gives the only ascending list of the same keys. -/
theorem mergeSort_eq_of_ascending {κ : Type} [LT κ] [DecidableLT κ]
    [IsStrictTotalOrder κ (· < ·)] {keys sorted : List κ} (perm : keys.Perm sorted)
    (ascending : sorted.Pairwise (· < ·)) :
    (keys.mergeSort fun a b => !decide (b < a)) = sorted := by
  have total (a b : κ) : (!decide (b < a) || !decide (a < b)) = true := by
    by_cases less : b < a
    · simp [less, asymm_of (· < ·) less]
    · simp [less]
  have trans (a b c : κ) (ab : (!decide (b < a)) = true) (bc : (!decide (c < b)) = true) :
      (!decide (c < a)) = true := by
    simp only [Bool.not_eq_true', decide_eq_false_iff_not] at ab bc ⊢
    intro ca
    rcases trichotomous_of (· < ·) a b with less | rfl | greater
    · exact bc (trans_of (· < ·) ca less)
    · exact bc ca
    · exact ab greater
  refine ((keys.mergeSort_perm _).trans perm).eq_of_pairwise ?_
    (List.pairwise_mergeSort trans total keys) (ascending.imp ?_)
  · intro a b _ _ ab ba
    simp only [Bool.not_eq_true', decide_eq_false_iff_not] at ab ba
    exact ((trichotomous_of (· < ·) a b).resolve_left ba).resolve_right ab
  · intro a b less
    simpa using asymm_of (· < ·) less

section Table

variable {κ α : Type} [DecidableEq κ]

/-! ### The table -/

/-- Puts an item behind the others of its class; a new class comes last. -/
def appendToClass (k : κ) (x : α) : List (κ × List α) → List (κ × List α)
  | [] => [(k, [x])]
  | (k', xs) :: rest =>
    if k = k' then (k', xs ++ [x]) :: rest else (k', xs) :: appendToClass k x rest

/-- A table that has taken up one more item, which must have a key. -/
def takeUp (key : α → Option κ) (table : List (κ × List α)) (x : α) :
    Option (List (κ × List α)) :=
  (key x).map (appendToClass · x table)

/-- The table of items, taken up from the first to the last. -/
def gather (key : α → Option κ) (items : List α) : Option (List (κ × List α)) :=
  items.foldlM (takeUp key) []

/-- The keys of a table stay in their order; a new one comes last. -/
theorem map_fst_appendToClass (k : κ) (x : α) (table : List (κ × List α)) :
    (appendToClass k x table).map Prod.fst
      = if k ∈ table.map Prod.fst then table.map Prod.fst else table.map Prod.fst ++ [k] := by
  induction table with
  | nil => rfl
  | cons c rest ih =>
    obtain ⟨k', xs⟩ := c
    by_cases same : k = k'
    · simp [appendToClass, same]
    · simp only [appendToClass, same, if_false, List.map_cons, ih, List.mem_cons, false_or]
      split <;> rfl

/-- The keys of an extended table are the keys before it and that of the item. -/
theorem mem_map_fst_appendToClass {k k' : κ} {x : α} {table : List (κ × List α)} :
    k' ∈ (appendToClass k x table).map Prod.fst ↔ k' ∈ table.map Prod.fst ∨ k' = k := by
  rw [map_fst_appendToClass]
  by_cases old : k ∈ table.map Prod.fst
  · rw [if_pos old]
    exact ⟨.inl, fun h => h.elim id (· ▸ old)⟩
  · rw [if_neg old, List.mem_append, List.mem_singleton]

/-- The item stands behind what its key had before; the other keys have what they had. -/
theorem lookup_appendToClass (k k' : κ) (x : α) (table : List (κ × List α)) :
    ((appendToClass k x table).lookup k').getD []
      = if k' = k then (table.lookup k').getD [] ++ [x] else (table.lookup k').getD [] := by
  induction table with
  | nil =>
    by_cases same : k' = k
    · simp [appendToClass, same]
    · simp [appendToClass, same, List.lookup_cons, beq_false_of_ne same]
  | cons c rest ih =>
    obtain ⟨d, xs⟩ := c
    by_cases own : k = d
    · subst own
      by_cases same : k' = k
      · simp [appendToClass, same]
      · simp [appendToClass, same, List.lookup_cons, beq_false_of_ne same]
    · by_cases other : k' = d
      · subst other
        simp [appendToClass, own, Ne.symm own]
      · simpa [appendToClass, own, List.lookup_cons, beq_false_of_ne other] using ih

/-- `table` holds `items` by their keys: no key comes twice, each item has one of the keys, each
key is that of some item, and a key has its items in the order in which they were taken up. -/
structure TableOf (key : α → Option κ) (items : List α) (table : List (κ × List α)) : Prop where
  distinct : (table.map Prod.fst).Nodup
  covered : ∀ x ∈ items, ∃ k ∈ table.map Prod.fst, key x = some k
  used : ∀ k ∈ table.map Prod.fst, ∃ x ∈ items, key x = some k
  held : ∀ k, (table.lookup k).getD [] = items.filter (key · = some k)

namespace TableOf

variable {key : α → Option κ} {items rest : List α} {table table' : List (κ × List α)}

/-- The empty table holds no items. -/
theorem nil (key : α → Option κ) : TableOf key [] [] where
  distinct := by simp
  covered := by simp
  used := by simp
  held := by simp

/-- A table that takes up one more item holds it behind the others. -/
theorem append (g : TableOf key items table) {x : α} {k : κ} (keyed : key x = some k) :
    TableOf key (items ++ [x]) (appendToClass k x table) where
  distinct := by
    rw [map_fst_appendToClass]
    by_cases old : k ∈ table.map Prod.fst
    · rw [if_pos old]
      exact g.distinct
    · rw [if_neg old, ← List.concat_eq_append]
      exact g.distinct.concat old
  covered := by
    intro y member
    rcases List.mem_append.mp member with old | new
    · obtain ⟨k', inside, eq⟩ := g.covered y old
      exact ⟨k', mem_map_fst_appendToClass.mpr (.inl inside), eq⟩
    · rw [List.mem_singleton.mp new]
      exact ⟨k, mem_map_fst_appendToClass.mpr (.inr rfl), keyed⟩
  used := by
    intro k' inside
    rcases mem_map_fst_appendToClass.mp inside with old | rfl
    · obtain ⟨y, member, eq⟩ := g.used k' old
      exact ⟨y, List.mem_append_left _ member, eq⟩
    · exact ⟨x, List.mem_append_right _ List.mem_cons_self, keyed⟩
  held := by
    intro k'
    rw [lookup_appendToClass, g.held k', List.filter_append]
    by_cases same : k' = k
    · subst same
      simp [keyed]
    · have other : key x ≠ some k' := fun eq => same (Option.some.inj (eq.symm.trans keyed))
      simp [same, other]

/-- A table that takes up further items holds them behind the others. -/
theorem of_foldlM (g : TableOf key items table)
    (run : rest.foldlM (takeUp key) table = some table') : TableOf key (items ++ rest) table' := by
  induction rest generalizing items table with
  | nil =>
    cases run
    simpa using g
  | cons x rest ih =>
    rw [List.foldlM_cons] at run
    obtain ⟨next, step, later⟩ := Option.bind_eq_some_iff.mp run
    obtain ⟨k, keyed, rfl⟩ := Option.map_eq_some_iff.mp step
    simpa using ih (g.append keyed) later

end TableOf

/-- A table of items holds them. -/
theorem tableOf_of_gather {key : α → Option κ} {items : List α} {table : List (κ × List α)}
    (run : gather key items = some table) : TableOf key items table :=
  (TableOf.nil key).of_foldlM run

/-- Items that all have a key can be gathered. -/
theorem exists_gather {key : α → Option κ} {items : List α}
    (keyed : ∀ x ∈ items, ∃ k, key x = some k) : ∃ table, gather key items = some table := by
  rw [gather]
  generalize ([] : List (κ × List α)) = table
  induction items generalizing table with
  | nil => exact ⟨table, rfl⟩
  | cons x rest ih =>
    obtain ⟨k, eq⟩ := keyed x List.mem_cons_self
    obtain ⟨table', later⟩ :=
      ih (fun y member => keyed y (List.mem_cons_of_mem _ member)) (appendToClass k x table)
    exact ⟨table', by simpa [takeUp, eq] using later⟩

/-! ### The classes of a table -/

variable [LT κ]

/-- A division is made of its keys and the items that have them. -/
theorem Division.eq_map_filter {key : α → Option κ} {items : List α}
    {classes : List (κ × List α)} (d : Division key items classes) :
    (classes.map Prod.fst).map (fun k => (k, items.filter (key · = some k))) = classes := by
  rw [List.map_map]
  refine (List.map_congr_left fun c member => ?_).trans (List.map_id classes)
  exact congrArg (c.1, ·) (d.filtered c member).symm

variable [DecidableLT κ]

/-- The classes of a table in the order of their keys. -/
def ascendingClasses (table : List (κ × List α)) : List (κ × List α) :=
  ((table.map Prod.fst).mergeSort fun a b => !decide (b < a)).map
    fun k => (k, (table.lookup k).getD [])

variable [IsStrictTotalOrder κ (· < ·)]

/-- The classes of a table that holds items are the division of the items. -/
theorem TableOf.ascendingClasses_eq {key : α → Option κ} {items : List α}
    {table classes : List (κ × List α)} (g : TableOf key items table)
    (d : Division key items classes) : ascendingClasses table = classes := by
  have perm : (table.map Prod.fst).Perm (classes.map Prod.fst) := by
    refine (List.perm_ext_iff_of_nodup g.distinct d.keys_nodup).mpr fun k => ?_
    rw [d.mem_keys_iff]
    refine ⟨g.used k, ?_⟩
    rintro ⟨x, member, eq⟩
    obtain ⟨k', inside, eq'⟩ := g.covered x member
    exact Option.some.inj (eq.symm.trans eq') ▸ inside
  calc ascendingClasses table
      = (classes.map Prod.fst).map fun k => (k, items.filter (key · = some k)) := by
        simp only [ascendingClasses, mergeSort_eq_of_ascending perm d.ascending, g.held]
    _ = classes := d.eq_map_filter

/-- Items with a division are gathered into its classes. -/
theorem Division.gather_eq {key : α → Option κ} {items : List α} {classes : List (κ × List α)}
    (d : Division key items classes) :
    (gather key items).map ascendingClasses = some classes := by
  obtain ⟨table, run⟩ := exists_gather fun x member =>
    (d.covered x member).imp fun _ known => known.2
  rw [run, Option.map_some, (tableOf_of_gather run).ascendingClasses_eq d]

end Table

/-! ### Entries -/

variable {entries : List Entry}

/-- A text has a character at a position that is within its length on either side. -/
theorem exists_charAt?_iff {s : List Char} {position : Int} :
    (∃ c, charAt? s position = some c) ↔ -(s.length : Int) ≤ position ∧ position < s.length := by
  rw [← Option.isSome_iff_exists, charAt?]
  split
  · rw [isSome_getElem?]
    omega
  · split
    · rw [isSome_getElem?]
      omega
    · simp only [Option.isSome_none, Bool.false_eq_true, false_iff]
      omega

/-- Entries can be divided by a character exactly if each of them has one at the position. -/
theorem exists_byCharacter_iff {position : Int} :
    (∃ classes, byCharacter position entries = .ok classes) ↔
      ∀ e ∈ entries, ∃ c, charAt? e.chars position = some c := by
  refine ⟨?_, exists_byCharacter⟩
  rintro ⟨classes, divided⟩ e member
  obtain ⟨c, -, read⟩ := (division_byCharacter divided).covered e member
  exact ⟨c, read⟩

/-- Dividing by a character gathers the entries, and fails where one cannot be gathered. -/
theorem gather_charAt? (position : Int) :
    (gather (fun e => charAt? e.chars position) entries).map ascendingClasses
      = (byCharacter position entries).toOption := by
  cases divided : byCharacter position entries with
  | ok classes => exact (division_byCharacter divided).gather_eq
  | error fault =>
    have failed : gather (fun e : Entry => charAt? e.chars position) entries = none := by
      refine Option.eq_none_iff_forall_ne_some.mpr fun table run => ?_
      obtain ⟨classes, read⟩ := exists_byCharacter fun e member =>
        ((tableOf_of_gather run).covered e member).imp fun _ known => known.2
      cases divided.symm.trans read
    rw [failed]
    rfl

/-- Keys of one length can be divided where the search finds a difference. -/
theorem exists_byCharacter_of_firstDifference {settled : Nat → Bool} {p n : Nat}
    (lengths : ∀ e ∈ entries, e.length = n)
    (found : firstDifference settled entries = .ok (some p)) :
    ∃ classes, byCharacter p entries = .ok classes := by
  cases entries with
  | nil => cases found
  | cons first others =>
    obtain ⟨c, -, read, -⟩ := exists_of_firstDifferenceFrom found
    have inside : p < first.length := (List.getElem?_eq_some_iff.mp read).1
    refine exists_byCharacter fun e member => ?_
    have inside' : p < e.length := by
      rwa [lengths e member, ← lengths first List.mem_cons_self]
    rw [charAt?_natCast]
    exact ⟨_, List.getElem?_eq_getElem inside'⟩

/-- Both divisions of entries are sorted and stable. By the length, and by the character at a
position that every entry has, from the start or from the end, the entries are gathered in a
table whose classes are then sorted: the lengths and the characters ascend, no class is empty,
each has the entries of its length or character in the order of the declaration, and together
they have every entry once. At a position where the search finds a difference each class is
smaller than the group, and keys of one length can always be divided there. -/
theorem divisions_ascending_stable (entries : List Entry) :
    ((gather (fun e => some e.length) entries).map ascendingClasses = some (byLength entries) ∧
      Division (fun e => some e.length) entries (byLength entries)) ∧
    (∀ position : Int,
      (gather (fun e => charAt? e.chars position) entries).map ascendingClasses
          = (byCharacter position entries).toOption ∧
      ((∃ classes, byCharacter position entries = .ok classes) ↔
        ∀ e ∈ entries, -(e.length : Int) ≤ position ∧ position < e.length) ∧
      ∀ classes, byCharacter position entries = .ok classes →
        Division (fun e => charAt? e.chars position) entries classes) ∧
    ∀ (settled : Nat → Bool) (p : Nat), firstDifference settled entries = .ok (some p) →
      ((∃ n, ∀ e ∈ entries, e.length = n) → ∃ classes, byCharacter p entries = .ok classes) ∧
      ∀ classes, byCharacter p entries = .ok classes →
        ∀ c ∈ classes, c.2.length < entries.length := by
  refine ⟨⟨(division_byLength entries).gather_eq, division_byLength entries⟩, ?_, ?_⟩
  · intro position
    refine ⟨gather_charAt? position, ?_, fun _ => division_byCharacter⟩
    simp only [exists_byCharacter_iff, exists_charAt?_iff]
    rfl
  · intro settled p found
    refine ⟨?_, ?_⟩
    · rintro ⟨n, lengths⟩
      exact exists_byCharacter_of_firstDifference lengths found
    · intro classes divided c member
      exact length_class_lt (not_agreeAt_of_firstDifference found) divided member

/-- A capital letter comes before an accented one, although it was declared later. -/
theorem divisions_ascending_stable_accent :
    firstDifference (fun _ => false)
        [⟨⟨"éa", .plain⟩, 0, .none⟩, ⟨⟨"Ba", .plain⟩, 1, .none⟩, ⟨⟨"éb", .plain⟩, 2, .none⟩]
      = .ok (some 0) ∧
    byCharacter (0 : Nat)
        [⟨⟨"éa", .plain⟩, 0, .none⟩, ⟨⟨"Ba", .plain⟩, 1, .none⟩, ⟨⟨"éb", .plain⟩, 2, .none⟩]
      = .ok [('B', [⟨⟨"Ba", .plain⟩, 1, .none⟩]),
          ('é', [⟨⟨"éa", .plain⟩, 0, .none⟩, ⟨⟨"éb", .plain⟩, 2, .none⟩])] ∧
    (['B', 'é'].Pairwise (· < ·) ∧
      [⟨⟨"éa", .plain⟩, 0, .none⟩, ⟨⟨"éb", .plain⟩, 2, .none⟩]
        = List.filter (fun e : Entry => charAt? e.chars (0 : Nat) = some 'é')
            [⟨⟨"éa", .plain⟩, 0, .none⟩, ⟨⟨"Ba", .plain⟩, 1, .none⟩,
              ⟨⟨"éb", .plain⟩, 2, .none⟩]) ∧
    ([⟨⟨"éa", .plain⟩, 0, .none⟩, ⟨⟨"éb", .plain⟩, 2, .none⟩] : List Entry).length < 3 := by
  let first : Entry := ⟨⟨"éa", .plain⟩, 0, .none⟩
  let capital : Entry := ⟨⟨"Ba", .plain⟩, 1, .none⟩
  let last : Entry := ⟨⟨"éb", .plain⟩, 2, .none⟩
  have found : firstDifference (fun _ => false) [first, capital, last] = .ok (some 0) := by
    simp [firstDifference, firstDifferenceFrom, differsAt, first, capital, last, Entry.chars,
      Text.chars]
  have divided : byCharacter (0 : Nat) [first, capital, last]
      = .ok [('B', [capital]), ('é', [first, last])] := by
    simp [byCharacter, addToClass, charAt?, first, capital, last, Entry.chars, Text.chars]
  obtain ⟨-, byPosition, differences⟩ := divisions_ascending_stable [first, capital, last]
  have division := (byPosition (0 : Nat)).2.2 _ divided
  have accented : ('é', [first, last]) ∈ [('B', [capital]), ('é', [first, last])] := by simp
  refine ⟨found, divided, ⟨division.ascending, division.filtered _ accented⟩, ?_⟩
  exact (differences _ 0 found).2 _ divided _ accented

end KeyTree
