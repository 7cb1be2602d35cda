/-
# Repeated keys

Entries that no one has checked may repeat a key. Their tree is built all the same until a
group is met whose keys differ nowhere: it consists of all entries with one key, in the order
of the declaration, and the first two of them are named. A repeated key never gets a leaf, as
its entries stay together whatever is tested.

* `occurrences` — the entries with a key.
* `Group.Gathered` — what holds of every group in the queue; a group has all entries of a key.
* `plansFrom_cases`, `ofGroup_cases` — the work list ends at a repeated key, or there is none.
* `KeySet.tree_names_repeated` — the tree of any entries.
-/

import KeyTree.Proofs.Outcome
import KeyTree.Proofs.Tree.Decision
import KeyTree.Proofs.Tree.Routing

namespace KeyTree

/-! ### Occurrences -/

/-- The entries with a key, in their order. -/
def occurrences (entries : List Entry) (key : List Char) : List Entry :=
  entries.filter (·.chars = key)

/-- Keys are different when each occurs once at most. -/
theorem nodup_chars_iff {entries : List Entry} :
    (entries.map Entry.chars).Nodup ↔ ∀ key, (occurrences entries key).length ≤ 1 := by
  rw [List.nodup_iff_count_le_one]
  refine forall_congr' fun key => ?_
  have counted : (entries.map Entry.chars).count key = (occurrences entries key).length := by
    rw [List.count_eq_countP, List.countP_map, List.countP_eq_length_filter, occurrences]
    congr 1
    refine List.filter_congr fun e _ => ?_
    simp only [Function.comp_apply, beq_eq_decide]
  rw [counted]

/-- A class has all entries of a key of its own, when entries of one key belong to one class. -/
theorem Division.occurrences_class {κ : Type} [DecidableEq κ] [LT κ] {key : Entry → Option κ}
    {items : List Entry} {classes : List (κ × List Entry)} (division : Division key items classes)
    (ofChars : ∀ a b : Entry, a.chars = b.chars → key a = key b) {c : κ × List Entry}
    (member : c ∈ classes) {e : Entry} (inside : e ∈ c.2) :
    occurrences c.2 e.chars = occurrences items e.chars := by
  have keyed := ((division.mem_class_iff member).mp inside).2
  rw [occurrences, occurrences, division.filtered c member, List.filter_filter]
  refine List.filter_congr fun a _ => ?_
  by_cases same : a.chars = e.chars
  · simp [same, ofChars a e same, keyed]
  · simp [same]

/-! ### Groups -/

/-- A group gathered from entries: it is uniform, and with one entry of a key it has all of
them, in their order. -/
structure Group.Gathered (entries : List Entry) (g : Group) : Prop extends g.Uniform where
  complete : ∀ e ∈ g.entries, occurrences g.entries e.chars = occurrences entries e.chars

namespace Group.Gathered

variable {entries : List Entry} {g : Group}

/-- Dividing a gathered group at a position gives gathered groups. -/
theorem of_mem_subgroups (gathered : g.Gathered entries) {p : Nat}
    {classes : List (Char × List Entry)} (divided : byCharacter p g.entries = .ok classes)
    {s : Group} (member : s ∈ g.subgroups p classes) : s.Gathered entries := by
  refine ⟨gathered.toUniform.of_mem_subgroups divided member, ?_⟩
  have division := division_byCharacter divided
  obtain ⟨c, inside, rfl⟩ := List.mem_map.mp member
  intro e he
  have ofChars (a b : Entry) (same : a.chars = b.chars) :
      charAt? a.chars p = charAt? b.chars p := by
    rw [same]
  rw [division.occurrences_class ofChars inside he]
  exact gathered.complete e (division.mem_of_mem_class inside he)

/-- A gathered group at fault has equal keys, all there are, and its first two are named. -/
theorem of_step_eq_error (gathered : g.Gathered entries) {fault : BuildFault}
    (failed : g.step = .error fault) :
    ∃ first second rest, fault = .duplicateKey first.text first.index second.index ∧
      occurrences entries first.chars = first :: second :: rest := by
  rcases gathered.step_cases with ⟨e, -, step⟩ | ⟨p, classes, step, -⟩ |
    ⟨first, second, rest, all, same, step⟩
  · cases failed.symm.trans step
  · cases failed.symm.trans step
  · cases failed.symm.trans step
    refine ⟨first, second, rest, rfl, ?_⟩
    have member : first ∈ g.entries := by
      rw [all]
      exact List.mem_cons_self
    rw [← gathered.complete first member, ← all, occurrences, List.filter_eq_self]
    simpa using same

/-- A gathered group that is finished has one entry, whose key no other entry has. -/
theorem of_step_eq_finished (gathered : g.Gathered entries) {t : Tree}
    (finished : g.step = .ok (.finished t)) {e : Entry} (member : e ∈ g.entries) :
    occurrences entries e.chars = [e] := by
  rcases gathered.step_cases with ⟨e', only, -⟩ | ⟨p, classes, step, -⟩ | ⟨_, _, _, -, -, step⟩
  · rw [← gathered.complete e member]
    rw [only] at member ⊢
    rw [List.mem_singleton.mp member]
    simp [occurrences]
  · cases finished.symm.trans step
  · cases finished.symm.trans step

end Group.Gathered

/-! ### The work list -/

/-- What comes of a queue of gathered groups: it ends at a repeated key, of which it names the
first two entries, or no key in the queue is repeated. -/
theorem plansFrom_cases {entries : List Entry} {slot : Nat} {queue : List Group}
    (gathered : ∀ g ∈ queue, g.Gathered entries) :
    (∃ first second rest,
      plansFrom slot queue = .error (.duplicateKey first.text first.index second.index) ∧
      occurrences entries first.chars = first :: second :: rest) ∨
    (∃ plans, plansFrom slot queue = .ok plans) ∧
      ∀ g ∈ queue, ∀ e ∈ g.entries, occurrences entries e.chars = [e] := by
  fun_induction plansFrom slot queue with
  | case1 slot => exact .inr ⟨⟨[], rfl⟩, by simp⟩
  | case2 slot g rest fault found =>
    obtain ⟨first, second, others, rfl, occur⟩ :=
      (gathered g List.mem_cons_self).of_step_eq_error found
    exact .inl ⟨first, second, others, rfl, occur⟩
  | case3 slot g rest tree found ih =>
    obtain ⟨gathered_g, gatheredRest⟩ := List.forall_mem_cons.mp gathered
    rcases ih gatheredRest with ⟨first, second, others, failed, occur⟩ | ⟨⟨plans, later⟩, unique⟩
    · exact .inl ⟨first, second, others, by rw [failed]; rfl, occur⟩
    · refine .inr ⟨⟨_, by rw [later]; rfl⟩, List.forall_mem_cons.mpr ⟨?_, unique⟩⟩
      intro e member
      exact gathered_g.of_step_eq_finished found member
  | case4 slot g rest position classes found ih =>
    obtain ⟨gathered_g, gatheredRest⟩ := List.forall_mem_cons.mp gathered
    obtain ⟨-, divided⟩ := gathered_g.toUniform.of_divided found
    have next : ∀ s ∈ rest ++ g.subgroups position classes, s.Gathered entries := by
      intro s member
      rcases List.mem_append.mp member with old | new
      · exact gatheredRest s old
      · exact gathered_g.of_mem_subgroups divided new
    rcases ih next with ⟨first, second, others, failed, occur⟩ | ⟨⟨plans, later⟩, unique⟩
    · exact .inl ⟨first, second, others, by rw [failed]; rfl, occur⟩
    · refine .inr ⟨⟨_, by rw [later]; rfl⟩, List.forall_mem_cons.mpr ⟨?_, ?_⟩⟩
      · -- Each entry of the divided group belongs to a class, which waits in the queue.
        intro e member
        obtain ⟨k, keyed, read⟩ := (division_byCharacter divided).covered e member
        obtain ⟨c, inside, rfl⟩ := List.mem_map.mp keyed
        refine unique ⟨c.2, position :: g.tested⟩ ?_ e ?_
        · exact List.mem_append_right _ (List.mem_map.mpr ⟨c, inside, rfl⟩)
        · exact ((division_byCharacter divided).mem_class_iff inside).mpr ⟨member, read⟩
      · intro s member
        exact unique s (List.mem_append_left _ member)

/-- Entries of one length have a tree and no key twice, or a repeated key is named by its first
two entries. -/
theorem ofGroup_cases {entries : List Entry} (nonempty : entries ≠ [])
    (oneLength : ∃ n, ∀ e ∈ entries, e.length = n) :
    (∃ first second rest,
      Tree.ofGroup entries = .error (.duplicateKey first.text first.index second.index) ∧
      occurrences entries first.chars = first :: second :: rest) ∨
    (∃ t, Tree.ofGroup entries = .ok t) ∧ ∀ e ∈ entries, occurrences entries e.chars = [e] := by
  have gathered : ∀ g ∈ [(⟨entries, []⟩ : Group)], g.Gathered entries := by
    intro g member
    rw [List.mem_singleton.mp member]
    exact ⟨⟨nonempty, oneLength, by simp⟩, by simp⟩
  rcases @plansFrom_cases entries 1 _ gathered with ⟨first, second, rest, failed, occur⟩ |
    ⟨⟨plans, planned⟩, unique⟩
  · refine .inl ⟨first, second, rest, ?_, occur⟩
    rw [Tree.ofGroup, plansOf, failed]
    rfl
  · refine .inr ⟨⟨(assembleFrom 0 plans).headD .miss, ?_⟩, unique _ (List.mem_singleton.mpr rfl)⟩
    rw [Tree.ofGroup, plansOf, planned]
    rfl

/-! ### Trees of entries -/

/-- What comes of the entries of one length, said of all entries. -/
theorem ofGroup_class_cases {entries : List Entry} {c : Nat × List Entry}
    (member : c ∈ byLength entries) :
    (∃ first second rest, first.length = c.1 ∧
      Tree.ofGroup c.2 = .error (.duplicateKey first.text first.index second.index) ∧
      occurrences entries first.chars = first :: second :: rest) ∨
    (∃ t, Tree.ofGroup c.2 = .ok t) ∧ ∀ e ∈ c.2, occurrences entries e.chars = [e] := by
  have division := division_byLength entries
  have length {e : Entry} (inside : e ∈ c.2) : e.length = c.1 :=
    Option.some.inj ((division.mem_class_iff member).mp inside).2
  have ofChars (a b : Entry) (same : a.chars = b.chars) : some a.length = some b.length :=
    congrArg (fun chars => some chars.length) same
  rcases ofGroup_cases (division.nonempty c member) ⟨c.1, fun e => length⟩ with
    ⟨first, second, rest, failed, occur⟩ | ⟨built, unique⟩
  · have inside : first ∈ c.2 := by
      have first_mem : first ∈ occurrences c.2 first.chars := by simp [occur]
      exact (List.mem_filter.mp first_mem).1
    rw [division.occurrences_class ofChars member inside] at occur
    exact .inl ⟨first, second, rest, length inside, failed, occur⟩
  · refine .inr ⟨built, ?_⟩
    intro e inside
    rw [← division.occurrences_class ofChars member inside]
    exact unique e inside

/-- A key is there once when the entries of its length have a tree. -/
theorem occurrences_of_ofGroup_eq_ok {entries : List Entry} {c : Nat × List Entry}
    (member : c ∈ byLength entries) {t : Tree} (built : Tree.ofGroup c.2 = .ok t) {e : Entry}
    (inside : e ∈ c.2) : occurrences entries e.chars = [e] := by
  rcases ofGroup_class_cases member with ⟨_, _, _, -, failed, -⟩ | ⟨-, once⟩
  · cases failed.symm.trans built
  · exact once e inside

/-- Every entry is among those of its length. -/
theorem exists_class_of_mem {entries : List Entry} {e : Entry} (member : e ∈ entries) :
    ∃ c ∈ byLength entries, e ∈ c.2 ∧ e.length = c.1 := by
  have division := division_byLength entries
  obtain ⟨n, known, length⟩ := division.covered e member
  obtain ⟨c, hc, rfl⟩ := List.mem_map.mp known
  exact ⟨c, hc, (division.mem_class_iff hc).mpr ⟨member, length⟩, Option.some.inj length⟩

/-- The buckets of the dispatch are the entries of one length after the other. -/
theorem map_snd_lengthBuckets (entries : List Entry) :
    (lengthBuckets entries).map Prod.snd = (byLength entries).map Prod.snd := by
  rw [lengthBuckets, List.map_map]
  rfl

/-- The tree of entries fails as the tree of one length does, and the shorter lengths have
trees. -/
theorem of_ofEntries_eq_error {entries : List Entry} {fault : BuildFault}
    (failed : Tree.ofEntries entries = .error fault) :
    ∃ c ∈ byLength entries, Tree.ofGroup c.2 = .error fault ∧
      ∀ c' ∈ byLength entries, c'.1 < c.1 → ∃ t, Tree.ofGroup c'.2 = .ok t := by
  rw [Tree.ofEntries, Tree.dispatch_eq, map_snd_lengthBuckets] at failed
  obtain ⟨before, bucket, after, split, sound, at_bucket⟩ :=
    mapM_eq_error_iff.mp (map_eq_error_iff.mp failed)
  obtain ⟨shorter, others, all, rfl, tail⟩ := List.map_eq_append_iff.mp split
  obtain ⟨c, longer, rfl, rfl, -⟩ := List.map_eq_cons_iff.mp tail
  have ascending := (division_byLength entries).ascending
  rw [all] at ascending ⊢
  refine ⟨c, by simp, at_bucket, ?_⟩
  intro c' member less
  rcases List.mem_append.mp member with early | late
  · exact sound c'.2 (List.mem_map_of_mem early)
  · -- A length behind that of the failure is no shorter one.
    rw [List.map_append, List.pairwise_append, List.map_cons, List.pairwise_cons] at ascending
    rcases List.mem_cons.mp late with rfl | later
    · exact absurd less (Nat.lt_irrefl _)
    · exact absurd less (Nat.lt_asymm (ascending.2.1.1 c'.1 (List.mem_map_of_mem later)))

/-- Entries that have a tree have different keys. -/
theorem nodup_of_ofEntries_eq_ok {entries : List Entry} {t : Tree}
    (built : Tree.ofEntries entries = .ok t) : (entries.map Entry.chars).Nodup := by
  rw [Tree.ofEntries, Tree.dispatch_eq, map_snd_lengthBuckets] at built
  obtain ⟨trees, made, -⟩ := map_eq_ok_iff.mp built
  apply nodup_chars_iff.mpr
  intro key
  cases occur : occurrences entries key with
  | nil => simp
  | cons e rest =>
    have found : e ∈ occurrences entries key := by simp [occur]
    obtain ⟨member, same⟩ := List.mem_filter.mp found
    obtain rfl := of_decide_eq_true same
    obtain ⟨c, hc, inside, -⟩ := exists_class_of_mem member
    obtain ⟨subtree, -, group⟩ :=
      exists_of_forall₂ (forall₂_of_mapM_eq_ok made) (List.mem_map_of_mem hc)
    rw [← occur, occurrences_of_ofGroup_eq_ok hc group inside, List.length_singleton]

/-- The fault of a tree is a repeated key, named by its first two entries, and no shorter key
is repeated. -/
theorem repeated_of_ofEntries_eq_error {entries : List Entry} {fault : BuildFault}
    (failed : Tree.ofEntries entries = .error fault) :
    ∃ first second rest, fault = .duplicateKey first.text first.index second.index ∧
      occurrences entries first.chars = first :: second :: rest ∧
      ∀ key, 2 ≤ (occurrences entries key).length → first.length ≤ key.length := by
  obtain ⟨c, member, group, shorter⟩ := of_ofEntries_eq_error failed
  rcases ofGroup_class_cases member with ⟨first, second, rest, length, failed', occur⟩ |
    ⟨⟨t, built⟩, -⟩
  · refine ⟨first, second, rest, Except.error.inj (group.symm.trans failed'), occur, ?_⟩
    intro key twice
    by_contra less
    obtain ⟨e, found⟩ := List.exists_mem_of_length_pos (Nat.lt_of_lt_of_le Nat.two_pos twice)
    obtain ⟨inside, same⟩ := List.mem_filter.mp found
    obtain rfl := of_decide_eq_true same
    -- The entries of a shorter length have a tree, so that the key is there once.
    obtain ⟨c', hc', inClass, size⟩ := exists_class_of_mem inside
    have size : e.chars.length = c'.1 := size
    obtain ⟨t, built⟩ := shorter c' hc' (by omega)
    rw [occurrences_of_ofGroup_eq_ok hc' built inClass] at twice
    simp at twice
  · cases group.symm.trans built

/-- The tree of entries that no one has checked. It exists when no key occurs twice, and then
it decides between the entries. Otherwise the fault is a repeated key, named with the indices
of the first two of its entries in the order of the declaration, and no shorter key is
repeated. No entries have a miss as their tree. -/
theorem KeySet.tree_names_repeated (ks : KeySet) :
    ((∃ fault, ks.tree = .error fault) ↔ ∃ key, 2 ≤ (occurrences ks.entries key).length) ∧
      (∀ fault, ks.tree = .error fault → ∃ first second rest,
        fault = .duplicateKey first.text first.index second.index ∧
        occurrences ks.entries first.chars = first :: second :: rest ∧
        ∀ key, 2 ≤ (occurrences ks.entries key).length → first.length ≤ key.length) ∧
      (∀ t, ks.tree = .ok t → Decides ks.entries t) ∧
      (ks.entries = [] → ks.tree = .ok .miss) := by
  refine ⟨⟨?_, ?_⟩, ?_, ?_, ?_⟩
  · rintro ⟨fault, failed⟩
    obtain ⟨first, second, rest, -, occur, -⟩ := repeated_of_ofEntries_eq_error failed
    exact ⟨first.chars, by simp [occur]⟩
  · rintro ⟨key, twice⟩
    cases built : ks.tree with
    | error fault => exact ⟨fault, rfl⟩
    | ok t =>
      have once := nodup_chars_iff.mp (nodup_of_ofEntries_eq_ok built) key
      omega
  · intro fault failed
    exact repeated_of_ofEntries_eq_error failed
  · intro t built
    obtain ⟨t', built', decides⟩ := ofEntries_decides (nodup_of_ofEntries_eq_ok built)
    obtain rfl := Except.ok.inj (built'.symm.trans built)
    exact decides
  · intro none
    have miss : Tree.balanced [] = .miss := by
      rw [Tree.balanced]
      rfl
    rw [KeySet.tree, none, Tree.ofEntries, Tree.dispatch_eq, ← miss]
    rfl

/-- Of four keys, two of which are equal, the equal ones are named. -/
theorem KeySet.tree_names_repeated_pair :
    KeySet.tree { entries := [⟨⟨"bb", .plain⟩, 0, .none⟩, ⟨⟨"aa", .plain⟩, 1, .none⟩,
        ⟨⟨"a", .plain⟩, 2, .none⟩, ⟨⟨"aa", .derived ⟨"m", "Label"⟩ none⟩, 3, .none⟩] }
      = .error (.duplicateKey ⟨"aa", .plain⟩ 1 3) := by
  obtain ⟨iff, named, -⟩ := tree_names_repeated
    { entries := [⟨⟨"bb", .plain⟩, 0, .none⟩, ⟨⟨"aa", .plain⟩, 1, .none⟩,
        ⟨⟨"a", .plain⟩, 2, .none⟩, ⟨⟨"aa", .derived ⟨"m", "Label"⟩ none⟩, 3, .none⟩] }
  obtain ⟨fault, failed⟩ := iff.mpr ⟨['a', 'a'], by decide⟩
  obtain ⟨first, second, rest, rfl, occur, -⟩ := named fault failed
  rw [failed]
  have found : first ∈ occurrences _ first.chars := occur ▸ List.mem_cons_self
  have member := (List.mem_filter.mp found).1
  simp only [List.mem_cons, List.not_mem_nil, or_false] at member
  rcases member with rfl | rfl | rfl | rfl
  all_goals simp [occurrences, Entry.chars, Text.chars] at occur
  obtain ⟨rfl, -⟩ := occur
  rfl

end KeyTree
