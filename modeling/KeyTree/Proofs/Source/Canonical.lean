/-
# Generated text as a canonical form

The text of a lookup says what the lookup declares and nothing else. The pairs of its keys and
values and the value that it reports on a miss can be read off the text, and two lookups that
agree in them have the same text, in whatever order they were declared.

* `PlainLookup` — a lookup of plain texts and plain scalars.
* `PlainLookup.linesOf_text` — the lines of its text.
* `PlainLookup.readPairs_text`, `PlainLookup.readMiss?_text` — the text is read back.
* `Declared.render_eq_iff` — when two lookups have the same text.
* `Declared.long_unwritten` — a lookup without a text.
-/

import KeyTree.Proofs.Lookup.Order
import KeyTree.Proofs.Source.Assembly
import KeyTree.Proofs.Source.Agreement
import KeyTree.Proofs.Source.Unnumbered
import KeyTree.Proofs.Source.Written

namespace KeyTree.Source

/-! ### Lines in the text -/

/-- The indentation of a module consists of blanks. -/
theorem eq_of_mem_indentation {level : Nat} {c : Char}
    (member : c ∈ (String.join (List.replicate level standardUnit)).toList) : c = ' ' := by
  have blank : standardUnit.toList.all (· = ' ') = true := by decide
  rw [String.toList_join] at member
  obtain ⟨chars, inside, member⟩ := List.mem_flatMap.mp member
  simpa using List.all_eq_true.mp blank c (List.eq_of_mem_replicate inside ▸ member)

/-- What is found in lines is found where they stand in the text. -/
theorem remainders_written (opening : List Char) (lines : List Line) :
    remainders opening (lines.map (Line.written standardUnit))
      = remainders opening (lines.map Line.text) := by
  rw [remainders, remainders, List.filterMap_map, List.filterMap_map]
  refine List.filterMap_congr fun l _ => ?_
  rw [Function.comp_apply, Line.written, String.toList_append,
    remainder?_indented fun c member => eq_of_mem_indentation member, Function.comp_apply]

/-- Nothing is found in blank lines and in the lines above the functions. -/
theorem remainders_header : ∀ opening ∈ openings, remainders opening [""] = [] ∧
    remainders opening ["", ""] = [] ∧ remainders opening (Program.header []) = [] := by
  decide

/-- What is found in the lines of a module is found in the lines of its functions. -/
theorem remainders_lines {opening : List Char} (known : opening ∈ openings) (p : Program) :
    remainders opening (p.lines.map Line.text)
      = remainders opening ((p.functions.flatMap Function.lines).map Line.text) := by
  obtain ⟨functions⟩ := p
  induction functions with
  | nil => rfl
  | cons f others ih =>
    cases others with
    | nil => simp [Program.lines]
    | cons g rest =>
      have blank : remainders opening (List.map Line.text [Program.blankLine, Program.blankLine])
          = [] := (remainders_header opening known).2.1
      rw [Program.lines_cons_cons, List.map_append, List.map_append, remainders_append,
        remainders_append, blank, ih, List.nil_append, ← remainders_append, ← List.map_append]
      rfl

/-! ### Lookups of plain scalars -/

/-- A lookup of plain texts whose values are plain scalars. -/
structure PlainLookup (l : Lookup) : Prop where
  dispatching : Dispatching l.root
  keys : ∀ e ∈ l.root.leaves, e.text.form = .plain
  values : ∀ e ∈ l.root.leaves, e.value.isPlain = true
  default : ∃ valueType, l.default = missValue valueType

namespace PlainLookup

variable {l : Lookup} {n : String}

/-- The lines of a lookup tell its leaves. -/
theorem reads (plain : PlainLookup l) (n : String) :
    ∃ written, written.Perm l.root.leaves ∧
      Reads n l.default ((functionsOf n none l.root l.default).flatMap Function.lines) written := by
  obtain ⟨written, leaves, reads, -⟩ := functionsOf_writes n l.default plain.dispatching
  exact ⟨written, leaves, reads⟩

/-- A lookup of plain scalars needs no modules. -/
theorem imports_eq_nil (plain : PlainLookup l) (n : String) : (lookupProgram n l).imports = [] := by
  refine Program.imports_eq_nil fun v member => ?_
  rcases of_mem_values_functionsOf plain.dispatching member with rfl | ⟨e, leaf, rfl⟩
  · obtain ⟨valueType, default⟩ := plain.default
    exact default ▸ Value.namedClass?_missValue valueType
  · exact Value.namedClass?_of_isPlain (plain.values e leaf)

/-- The lines of a lookup hold no line ends. -/
theorem oneLine (plain : PlainLookup l) (named : OneLine n) :
    ∀ line ∈ (lookupProgram n l).lines, OneLine line.text := by
  obtain ⟨written, leaves, reads⟩ := plain.reads n
  obtain ⟨valueType, default⟩ := plain.default
  refine (Program.forall_mem_lines_iff (by decide)).mpr fun line inside => ?_
  refine reads.oneLine named ?_ (fun e member => ⟨?_, ?_⟩) inside
  · exact default ▸ (Value.literalText_missValue_bounds valueType).2
  · rw [Text.display_of_plain (plain.keys e (leaves.mem_iff.mp member))]
    exact oneLine_quote _
  · exact oneLine_of_isPrintable fun c =>
      Value.isPrintable_of_mem_literalText (plain.values e (leaves.mem_iff.mp member))

/-- The lines of the text of a lookup. -/
theorem linesOf_text (plain : PlainLookup l) (named : OneLine n) :
    linesOf ((lookupProgram n l).text standardUnit)
      = Program.writtenLines standardUnit (lookupProgram n l) ++ [""] := by
  obtain ⟨valueType, default⟩ := plain.default
  refine Program.linesOf_text (by decide) (endsInMiss_functionsOf n none l.root l.default) ?_ ?_
    (plain.oneLine named)
  · exact default ▸ (Value.literalText_missValue_bounds valueType).1
  · intro m member
    exact absurd ((plain.imports_eq_nil n) ▸ member) List.not_mem_nil

end PlainLookup

/-! ### Reading back -/

/-- The keys and values that a text tells. -/
def readPairs (text : String) : List (String × Value) :=
  let lines := linesOf text
  (((remainders keyOpening lines).filterMap fun r => Text.unquote? r.dropLast).map
    String.ofList).zip
      ((remainders hitOpening lines).filterMap fun r => Value.readPlain? (String.ofList r))

/-- The literal of the value reported on a miss that a text tells. -/
def readMiss? (text : String) : Option String :=
  (remainders missOpening (linesOf text)).head?.map String.ofList

namespace PlainLookup

variable {l : Lookup} {n : String}

/-- What is found in the text of a lookup is found in the lines of its functions. -/
theorem remainders_text (plain : PlainLookup l) (named : OneLine n) {opening : List Char}
    (known : opening ∈ openings) :
    remainders opening (linesOf ((lookupProgram n l).text standardUnit))
      = remainders opening
        (((lookupProgram n l).functions.flatMap Function.lines).map Line.text) := by
  obtain ⟨last, -, header⟩ := remainders_header opening known
  rw [plain.linesOf_text named, Program.writtenLines, plain.imports_eq_nil, remainders_append,
    remainders_append, header, last, List.nil_append, List.append_nil, remainders_written,
    remainders_lines known]

/-- The text of a lookup tells its keys and values. -/
theorem readPairs_text (plain : PlainLookup l) (named : OneLine n) :
    (readPairs ((lookupProgram n l).text standardUnit)).Perm
      (l.root.leaves.map fun e => (e.text.content, e.value)) := by
  obtain ⟨written, leaves, reads⟩ := plain.reads n
  refine List.Perm.trans (.of_eq ?_) (leaves.map _)
  -- Behind the opening of a test stand the key in quotes and the colon of the header.
  have keys : (written.map fun e => e.text.display.toList ++ [':']).filterMap
      (fun r => Text.unquote? r.dropLast) = written.map fun e => e.text.chars := by
    rw [List.filterMap_map, List.filterMap_eq_map_iff_forall_eq_some]
    intro e member
    rw [Function.comp_apply, List.dropLast_concat,
      Text.display_of_plain (plain.keys e (leaves.mem_iff.mp member)), Text.quote, String.toList_ofList,
      Text.unquote?_quoteChars]
    rfl
  have values : (written.map fun e => e.value.literalText.toList).filterMap
      (fun r => Value.readPlain? (String.ofList r)) = written.map Entry.value := by
    rw [List.filterMap_map, List.filterMap_eq_map_iff_forall_eq_some]
    intro e member
    rw [Function.comp_apply, String.ofList_toList,
      Value.readPlain?_literalText (plain.values e (leaves.mem_iff.mp member))]
  rw [readPairs, plain.remainders_text named (by decide), plain.remainders_text named (by decide)]
  dsimp only [lookupProgram]
  rw [reads.remainders_key, reads.remainders_hit, keys, values, List.map_map, List.zip_map']
  simp [Text.chars]

/-- The text of a lookup tells the literal of the value reported on a miss. -/
theorem readMiss?_text (plain : PlainLookup l) (named : OneLine n) :
    readMiss? ((lookupProgram n l).text standardUnit) = some l.default.literalText := by
  have known : missOpening ∈ openings := by decide
  obtain ⟨written, -, reads⟩ := plain.reads n
  obtain ⟨front, lines⟩ := endsInMiss_functionsOf n none l.root l.default _ List.mem_cons_self
  have line : missLine l.default ∈ (lookupProgram n l).functions.flatMap Function.lines :=
    List.mem_flatMap.mpr ⟨_, List.mem_cons_self, by rw [lines]; simp⟩
  have opens : (missLine l.default).text.toList = missOpening ++ l.default.literalText.toList := by
    rw [missLine, String.toList_append]
    rfl
  have found : l.default.literalText.toList ∈ remainders missOpening
      (((lookupProgram n l).functions.flatMap Function.lines).map Line.text) :=
    List.mem_filterMap.mpr ⟨_, List.mem_map_of_mem line, by
      rw [opens, remainder?_of_opens known (by decide), if_pos rfl]⟩
  rw [readMiss?, plain.remainders_text named known]
  cases all : remainders missOpening
      (((lookupProgram n l).functions.flatMap Function.lines).map Line.text) with
  | nil => exact absurd (all ▸ found) List.not_mem_nil
  | cons first rest =>
    have same := reads.of_mem_remainders_miss (all ▸ List.mem_cons_self : first ∈ _)
    rw [List.head?_cons, Option.map_some, same, String.ofList_toList]

end PlainLookup

end KeyTree.Source

namespace KeyTree.Declared

open KeyTree.Source

variable {d d' : Declared} {keys keys' : List String} {values values' : List Value}
  {l l' : Lookup}

/-- The leaves of the tree of a lookup are the pairs of keys and values. -/
theorem pairs_perm (lists : d.Lists (keys.map (⟨·, .plain⟩)) values) (built : d.lookup = .ok l) :
    (l.root.leaves.map fun e => (e.text, e.value)).Perm
      ((keys.zip values).map fun p => (⟨p.1, .plain⟩, p.2)) := by
  obtain ⟨decides, -⟩ := decides_of_lookup lists built
  have leaves := decides.leaves_perm.map fun e => (e.text, e.value)
  rwa [map_entriesFrom, List.zip_map_left] at leaves

/-- The lookup of plain texts and plain scalars. -/
theorem plainLookup_of_lookup (lists : d.Lists (keys.map (⟨·, .plain⟩)) values)
    (built : d.lookup = .ok l) (plain : ∀ v ∈ values, v.isPlain = true) : PlainLookup l := by
  obtain ⟨decides, default⟩ := decides_of_lookup lists built
  refine ⟨decides.dispatching, fun e leaf => ?_, fun e leaf => ?_, _, default⟩
  · have pair := (pairs_perm lists built).mem_iff.mp (List.mem_map_of_mem leaf)
    obtain ⟨p, -, same⟩ := List.mem_map.mp pair
    exact congrArg (·.1.form) same.symm
  · exact plain _ (value_mem_of_mem_leaves decides leaf)

/-- The values of a lookup are those of the leaves of its tree. -/
theorem mem_values_iff (lists : d.Lists (keys.map (⟨·, .plain⟩)) values) (built : d.lookup = .ok l)
    {v : Value} : v ∈ values ↔ ∃ e ∈ l.root.leaves, e.value = v := by
  have counts := (checked_of_lookup lists built).counts
  rw [List.length_map] at counts
  have leaves := (pairs_perm lists built).map Prod.snd
  rw [List.map_map, List.map_map] at leaves
  have second : (keys.zip values).map Prod.snd = values :=
    List.map_snd_zip (Nat.le_of_eq counts.symm)
  rw [← List.mem_map]
  exact (second ▸ leaves.mem_iff.symm)

/-- No pair of keys and values is declared twice. -/
theorem nodup_pairs (lists : d.Lists (keys.map (⟨·, .plain⟩)) values) (built : d.lookup = .ok l) :
    (keys.zip values).Nodup := by
  have checked := checked_of_lookup lists built
  have counts := checked.counts
  have distinct := checked.distinct
  rw [List.length_map] at counts
  rw [List.map_map] at distinct
  refine List.Nodup.of_map Prod.fst ?_
  rw [List.map_fst_zip (Nat.le_of_eq counts)]
  exact List.map_id keys ▸ distinct

/-- All values in the functions of a lookup of plain scalars have literals when none of the
integers declared is too long. -/
theorem literals_iff {n : String} (lists : d.Lists (keys.map (⟨·, .plain⟩)) values)
    (built : d.lookup = .ok l) (plain : ∀ v ∈ values, v.isPlain = true) :
    (∀ v ∈ (lookupProgram n l).functions.flatMap Function.values, v.literalFault? = none) ↔
      ∀ i, Value.int i ∈ values → i.natAbs < Value.longInteger := by
  obtain ⟨decides, default⟩ := decides_of_lookup lists built
  have written := values_functionsOf_perm n none l.default decides.dispatching
  constructor
  · intro literals i member
    have leaf := List.mem_map.mpr ((mem_values_iff lists built).mp member)
    have literal := literals _ (written.mem_iff.mpr (List.mem_append_right _ leaf))
    exact (literalFault?_of_isPlain rfl).mp literal i rfl
  · intro short v member
    rcases of_mem_values_functionsOf decides.dispatching member with rfl | leaf
    · exact default ▸ literalFault?_missValue d.valueType
    · have member := (mem_values_iff lists built).mpr leaf
      exact (literalFault?_of_isPlain (plain v member)).mpr fun i same => short i (same ▸ member)

/-- Lookups that declare the same pairs and report the same value on a miss have the same
functions. -/
theorem lookupProgram_congr (n : String) (lists : d.Lists (keys.map (⟨·, .plain⟩)) values)
    (lists' : d'.Lists (keys'.map (⟨·, .plain⟩)) values')
    (built : d.lookup = .ok l) (built' : d'.lookup = .ok l')
    (same : (keys.zip values).Perm (keys'.zip values')) (default : l.default = l'.default) :
    lookupProgram n l = lookupProgram n l' := by
  obtain ⟨decides, -⟩ := decides_of_lookup lists built
  obtain ⟨decides', -⟩ := decides_of_lookup lists' built'
  have entries := sameEntries_of_perm (same.map (Prod.map (⟨·, .plain⟩) id)) 0 0
  rw [← List.zip_map_left, ← List.zip_map_left] at entries
  rw [lookupProgram, lookupProgram, default,
    functionsOf_congr (decides.unnumbered_eq decides' entries)]

/-- The text of a lookup tells the pairs that it declares. -/
theorem readPairs_perm {n : String} (valid : OneLine n)
    (lists : d.Lists (keys.map (⟨·, .plain⟩)) values) (built : d.lookup = .ok l)
    (plain : ∀ v ∈ values, v.isPlain = true) :
    (readPairs ((lookupProgram n l).text standardUnit)).Perm (keys.zip values) := by
  have told := (plainLookup_of_lookup lists built plain).readPairs_text valid
  have leaves := (pairs_perm lists built).map fun p => (p.1.content, p.2)
  rw [List.map_map, List.map_map] at leaves
  exact (told.trans leaves).trans (.of_eq (List.map_id _))

/-- Lookups of plain scalars with the same text declare the same pairs and report the same value
on a miss. -/
theorem of_text_eq {n : String} (valid : OneLine n)
    (lists : d.Lists (keys.map (⟨·, .plain⟩)) values)
    (lists' : d'.Lists (keys'.map (⟨·, .plain⟩)) values')
    (built : d.lookup = .ok l) (built' : d'.lookup = .ok l')
    (plain : ∀ v ∈ values, v.isPlain = true) (plain' : ∀ v ∈ values', v.isPlain = true)
    (same : (lookupProgram n l).text standardUnit = (lookupProgram n l').text standardUnit) :
    (keys.zip values).Perm (keys'.zip values') ∧ l.default = l'.default := by
  constructor
  · have told := readPairs_perm valid lists built plain
    have told' := readPairs_perm valid lists' built' plain'
    exact told.symm.trans (same ▸ told')
  · have told := (plainLookup_of_lookup lists built plain).readMiss?_text valid
    have told' := (plainLookup_of_lookup lists' built' plain').readMiss?_text valid
    have literals := Option.some.inj ((same ▸ told).symm.trans told')
    obtain ⟨-, default⟩ := decides_of_lookup lists built
    obtain ⟨-, default'⟩ := decides_of_lookup lists' built'
    rw [default, default'] at literals ⊢
    exact Value.literalText_missValue_inj literals

/-- Two lookups of plain texts and plain scalars have the same text under a name exactly when they
declare the same pairs of keys and values and report the same value on a miss, and none of the
integers declared is too long to be written. -/
theorem render_eq_iff {name : Value} {n : String}
    (lists : d.Lists (keys.map (⟨·, .plain⟩)) values)
    (lists' : d'.Lists (keys'.map (⟨·, .plain⟩)) values')
    (built : d.lookup = .ok l) (built' : d'.lookup = .ok l')
    (plain : ∀ v ∈ values, v.isPlain = true) (plain' : ∀ v ∈ values', v.isPlain = true)
    (named : functionName name = .ok n) :
    (∃ s, render l name = .ok s ∧ render l' name = .ok s) ↔
      (∀ p, p ∈ keys.zip values ↔ p ∈ keys'.zip values') ∧ l.default = l'.default ∧
        ∀ i, Value.int i ∈ values → i.natAbs < Value.longInteger := by
  have valid := oneLine_of_isFunctionName (functionName_eq_ok_iff.mp named).2
  constructor
  · rintro ⟨s, text, text'⟩
    obtain ⟨literals, whole⟩ := (render_eq_ok_iff named).mp text
    obtain ⟨-, whole'⟩ := (render_eq_ok_iff named).mp text'
    obtain ⟨same, default⟩ :=
      of_text_eq valid lists lists' built built' plain plain' (whole.trans whole'.symm)
    exact ⟨fun p => same.mem_iff, default, (literals_iff lists built plain).mp literals⟩
  · rintro ⟨same, default, short⟩
    have pairs := (List.perm_ext_iff_of_nodup (nodup_pairs lists built)
      (nodup_pairs lists' built')).mpr same
    have literals := (literals_iff (n := n) lists built plain).mpr short
    have equal := lookupProgram_congr n lists lists' built built' pairs default
    exact ⟨_, (render_eq_ok_iff named).mpr ⟨literals, rfl⟩,
      (render_eq_ok_iff named).mpr (equal ▸ ⟨literals, rfl⟩)⟩

/-- Two names in two orders have the same text. -/
theorem render_eq_iff_names :
    ∃ l l',
      Declared.lookup { keys := .list [.str "ab", .str "cb"], values := .list [.int 1, .bool true] }
        = .ok l ∧
      Declared.lookup { keys := .list [.str "cb", .str "ab"], values := .list [.bool true, .int 1] }
        = .ok l' ∧
      ∃ s, render l (.str "find") = .ok s ∧ render l' (.str "find") = .ok s := by
  have lists : Lists { keys := .list [.str "ab", .str "cb"], values := .list [.int 1, .bool true] }
      (["ab", "cb"].map (⟨·, .plain⟩)) [.int 1, .bool true] := ⟨rfl, rfl, rfl⟩
  have lists' : Lists { keys := .list [.str "cb", .str "ab"], values := .list [.bool true, .int 1] }
      (["cb", "ab"].map (⟨·, .plain⟩)) [.bool true, .int 1] := ⟨rfl, rfl, rfl⟩
  obtain ⟨_, -, built⟩ := lookup_eq_ok lists ⟨by decide, rfl, by decide⟩ rfl
  obtain ⟨_, -, built'⟩ := lookup_eq_ok lists' ⟨by decide, rfl, by decide⟩ rfl
  have named : functionName (.str "find") = .ok "find" := rfl
  refine ⟨_, _, built, built', (render_eq_iff lists lists' built built' (by simp [Value.isPlain])
    (by simp [Value.isPlain]) named).mpr ⟨?_, rfl, fun i member => ?_⟩⟩
  · simp [or_comm]
  · obtain rfl : i = 1 := by simpa using member
    exact literalFault?_int_eq_none_iff.mp (literalFault?_int (by decide))

/-- A letter with an integer that is too long is declared, but has no text. -/
theorem long_unwritten :
    Declared.lookup { keys := .list [.str "a"], values := .list [.int Value.longInteger] }
        = .ok (letterLookup (.int Value.longInteger)) ∧
      functionName (.str "f") = .ok "f" ∧
      ∀ s, render (letterLookup (.int Value.longInteger)) (.str "f") ≠ .ok s := by
  have named : functionName (.str "f") = .ok "f" := rfl
  refine ⟨lookup_letter _, named, fun s text => ?_⟩
  obtain ⟨literals, -⟩ := (render_eq_ok_iff named).mp text
  have dispatching : Dispatching (letterLookup (.int Value.longInteger)).root :=
    .chain (.lengthTest (.leaf _) .miss)
  have written := (values_functionsOf_perm "f" none .none dispatching).mem_iff.mpr
    (List.mem_append_right _ List.mem_cons_self)
  have short := literalFault?_int_eq_none_iff.mp (literals _ written)
  rw [Int.natAbs_natCast] at short
  exact Nat.lt_irrefl _ short

end KeyTree.Declared
