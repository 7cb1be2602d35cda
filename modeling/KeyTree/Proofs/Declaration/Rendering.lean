/-
# Modules of accepted files

A file that passes the check and whose lookups can all be built still gives no module when a value
that is stored has no literal, or when the name of a lookup is that of a helper of another one. The
first lookup at fault decides. The names themselves are never refused: what the check takes for the
name of a lookup is what may name a function, and the helpers of two lookups never have one name.

* `Stored`, `Fields.Stores` — what an accepted declaration stores.
* `Stored.Sound`, `Stored.Refused` — a lookup without a fault, and one with a fault.
* `exists_stored` — the lookups of an accepted file.
* `exists_module_iff`, `of_module_eq_error` — their module, and what they are refused for.
* `module_iff_sound` — the module of an accepted file.
-/

import KeyTree.Generation
import KeyTree.Proofs.Declaration.Accepted
import KeyTree.Proofs.Source.Agreement
import KeyTree.Proofs.Source.Refusal
import KeyTree.Proofs.Value.Literal

namespace KeyTree

open Source

/-- A declared lookup: its name, the values that it stores, and the lookup that is built. -/
structure Stored where
  name : String
  values : List Value
  lookup : Lookup

namespace Stored

/-- The lookup under its name. -/
def named (s : Stored) : String × Lookup := (s.name, s.lookup)

/-- The names of the helpers of the lookup, in order. -/
def helperNames (s : Stored) : List String := (helpersFor s.named).map Function.name

/-- Whether all values of the lookup have literals, and none of its helpers has one of the names. -/
structure Sound (s : Stored) (names : List String) : Prop where
  literals : ∀ v ∈ s.values, v.HasLiteral
  helpers : ∀ helper ∈ s.helperNames, helper ∉ names

/-- `s.Refused names fault`: the lookup is at fault. A value without a literal is reported, unless
it is or holds an integer of too many digits, so that it cannot be shown either; when all values
have literals, the first helper with one of the names is reported. -/
inductive Refused (s : Stored) (names : List String) : RenderFault → Prop where
  | unrenderable {v : Value} {fault : LiteralFault} (inside : v ∈ s.values)
      (failed : v.literalFault? = some fault) (shown : fault ≠ .tooLong) (none : ¬ v.HasLiteral)
      (short : v.isTooLong = false ∨ v.namedClass? ≠ .none) : Refused s names (.noLiteral fault)
  | tooLong {v : Value} (inside : v ∈ s.values) (none : ¬ v.HasLiteral)
      (long : v.isTooLong = true) (noClass : v.namedClass? = .none) :
      Refused s names (.noLiteral .tooLong)
  | nameRepeated {earlier later : List String} {helper : String}
      (literals : ∀ v ∈ s.values, v.HasLiteral) (helpers : s.helperNames = earlier ++ helper :: later)
      (free : ∀ h ∈ earlier, h ∉ names) (clash : helper ∈ names) :
      Refused s names (.nameRepeated helper)

end Stored

/-! ### What is stored -/

/-- `fields.Stores env s`: the fields declare a lookup, which stores what the declared type takes
of the declared values. -/
inductive Fields.Stores (env : Environment) (fields : Fields) (s : Stored) : Prop where
  | intro {kind : ValueKind} {keys : List Text} {values : List Value}
      (declares : fields.Declares s.name kind keys values)
      (taken : List.Forall₂ (kind.Takes env) values s.values)
      (converted : lookupOfFields env fields = .ok s.lookup)

/-- A type takes a value in one way. -/
theorem ValueKind.Takes.unique {env : Environment} {kind : ValueKind} :
    Relator.RightUnique (kind.Takes env) := by
  intro v w w' takes takes'
  cases takes with
  | named resolved =>
    cases takes' with
    | named resolved' => rw [Except.ok.inj (resolved.symm.trans resolved')]
    | same scalar => exact absurd scalar (by decide)
  | number converted =>
    cases takes' with
    | number converted' => rw [Except.ok.inj (converted.symm.trans converted')]
    | same scalar => exact absurd scalar (by decide)
  | same scalar =>
    cases takes' with
    | same => rfl
    | named | number => exact absurd scalar (by decide)

namespace Fields.Stores

variable {env : Environment} {fields : Fields} {s : Stored}

/-- The name of the lookup names a function. -/
theorem functionName_eq (stores : fields.Stores env s) : functionName s.lookup.name = .ok s.name := by
  obtain ⟨declares, -, built⟩ := stores
  obtain ⟨_, _, -, -, -, -, content⟩ := declares.of_ok built
  exact functionName_eq_ok_iff.mpr ⟨content, declares.valid⟩

/-- The values in the functions of the lookup are those that it stores, and one that has a
literal. -/
theorem exists_mem_values_iff (stores : fields.Stores env s) :
    ∃ default : Value, default.literalFault? = none ∧
      ∀ v, v ∈ (functionsFor [] s.named).flatMap Function.values ↔ v = default ∨ v ∈ s.values := by
  obtain ⟨declares, taken, converted⟩ := stores
  obtain ⟨stored, d, taken', lists, -, built, -⟩ := declares.of_ok converted
  obtain rfl := ValueKind.Takes.unique.forall₂ taken taken'
  obtain ⟨decides, default⟩ := Declared.decides_of_lookup lists built
  have checked := Declared.checked_of_lookup lists built
  refine ⟨s.lookup.default, default ▸ literalFault?_missValue d.valueType, fun v => ?_⟩
  have written := values_functionsOf_perm s.name none s.lookup.default decides.dispatching
  have leaves := decides.leaves_perm.map Entry.value
  rw [checked.map_value_entries] at leaves
  refine written.mem_iff.trans (List.mem_append.trans (or_congr ?_ leaves.mem_iff))
  exact List.mem_replicate.trans (and_iff_right (Nat.succ_ne_zero _))

/-- The functions of the lookup can be written when the lookup is sound. -/
theorem writable_iff (stores : fields.Stores env s) {names : List String} :
    Writable names s.named ↔ s.Sound names := by
  obtain ⟨default, plain, values⟩ := stores.exists_mem_values_iff
  constructor
  · rintro ⟨literals, untaken⟩
    refine ⟨fun v inside => ?_, List.forall_mem_map.mpr untaken⟩
    exact Value.literalFault?_eq_none_iff.mp (literals v ((values v).mpr (.inr inside)))
  · rintro ⟨literals, helpers⟩
    refine ⟨fun v inside => ?_, fun helper inside => helpers _ (List.mem_map_of_mem inside)⟩
    rcases (values v).mp inside with rfl | inside
    · exact plain
    · exact Value.literalFault?_eq_none_iff.mpr (literals v inside)

/-- What the functions of the lookup are refused for is a fault of the lookup. -/
theorem refused_of_refuses (stores : fields.Stores env s) {names : List String}
    {fault : RenderFault} (refuses : Refuses names s.named fault) : s.Refused names fault := by
  obtain ⟨default, plain, values⟩ := stores.exists_mem_values_iff
  cases refuses with
  | @noLiteral v fault inside failed =>
    have none : ¬ v.HasLiteral := fun literal => by
      rw [Value.literalFault?_eq_none_iff.mpr literal] at failed
      cases failed
    have inside : v ∈ s.values := by
      rcases (values v).mp inside with rfl | inside
      · rw [plain] at failed
        cases failed
      · exact inside
    by_cases long : v.isTooLong = true ∧ v.namedClass? = .none
    · obtain rfl := Option.some.inj (failed.symm.trans (Value.literalFault?_eq_tooLong_iff.mpr long))
      exact .tooLong inside none long.1 long.2
    · refine .unrenderable inside failed ?_ none ?_
      · rintro rfl
        exact long (Value.literalFault?_eq_tooLong_iff.mp failed)
      · by_cases short : v.isTooLong = true
        · exact .inr fun noClass => long ⟨short, noClass⟩
        · exact .inl (Bool.eq_false_iff.mpr short)
  | nameRepeated literals helpers untaken clash =>
    refine .nameRepeated (fun v inside => ?_) helpers untaken clash
    exact Value.literalFault?_eq_none_iff.mp (literals v ((values v).mpr (.inr inside)))

end Fields.Stores

/-! ### Accepted files -/

/-- The check of lookups accepts each of them, and their names differ from each other and from
those seen before. -/
theorem of_checkLookups {seen : List String} {index : Nat} {items : List Value}
    {lookups : List Fields} (checked : checkLookups seen index items = .ok lookups) :
    ∃ names, List.Forall₂ (fun fields name => ∃ index given,
        checkLookup index given = .ok (name, fields)) lookups names ∧
      names.Nodup ∧ ∀ name ∈ names, name ∉ seen := by
  induction items generalizing seen index lookups with
  | nil =>
    cases checked
    exact ⟨[], .nil, .nil, List.forall_mem_nil _⟩
  | cons given rest ih =>
    rw [checkLookups] at checked
    split at checked
    · cases checked
    · rename_i name fields accepted
      split at checked
      · cases checked
      · rename_i fresh
        obtain ⟨others, later, rfl⟩ := map_eq_ok_iff.mp checked
        obtain ⟨names, accepted', distinct, unseen⟩ := ih later
        refine ⟨name :: names, .cons ⟨index, given, accepted⟩ accepted', ?_, ?_⟩
        · exact List.nodup_cons.mpr
            ⟨fun member => unseen name member List.mem_cons_self, distinct⟩
        · refine List.forall_mem_cons.mpr ⟨by simpa using fresh, fun n member old => ?_⟩
          exact unseen n member (List.mem_cons_of_mem _ old)

/-- Accepted lookups that can all be built, in order, under their names. -/
theorem exists_stored_of_declared {env : Environment} {declarations : List Fields}
    {names : List String} {lookups : List Lookup}
    (declared : List.Forall₂ (fun fields name => ∃ index given,
      checkLookup index given = .ok (name, fields)) declarations names)
    (built : List.Forall₂ (fun fields l => lookupOfFields env fields = .ok l) declarations
      lookups) :
    ∃ stored : List Stored, List.Forall₂ (Fields.Stores env) declarations stored ∧
      stored.map Stored.lookup = lookups ∧ stored.map Stored.name = names := by
  induction declared generalizing lookups with
  | nil =>
    cases built
    exact ⟨[], .nil, rfl, rfl⟩
  | @cons fields name _ _ accepted _ ih =>
    obtain ⟨index, given, accepted⟩ := accepted
    cases built with
    | @cons _ l _ _ converted built =>
      obtain ⟨kind, keys, values, declares⟩ := checkLookup_declares accepted
      obtain ⟨items, _, taken, -⟩ := declares.of_ok converted
      obtain ⟨stored, stores, rfl, rfl⟩ := ih built
      exact ⟨⟨name, items, l⟩ :: stored,
        .cons ⟨declares, taken, converted⟩ stores, rfl, rfl⟩

/-- The lookups of an accepted file that can all be built, in order, under different names. -/
theorem exists_stored {env : Environment} {data : Value} {file : DeclarationFile}
    {lookups : List Lookup} (accepted : DeclarationFile.ofValue data = .ok file)
    (converted : file.toLookups env = .ok lookups) :
    ∃ stored : List Stored, List.Forall₂ (Fields.Stores env) file.lookups stored ∧
      stored.map Stored.lookup = lookups ∧ (stored.map Stored.name).Nodup := by
  obtain ⟨items, checked⟩ : ∃ items, checkLookups [] 0 items = .ok file.lookups := by
    unfold DeclarationFile.ofValue at accepted
    split at accepted
    · exact (DeclarationFile.of_ofFields accepted).2
    · cases accepted
  obtain ⟨names, declared, distinct, -⟩ := of_checkLookups checked
  obtain ⟨stored, stores, same, rfl⟩ :=
    exists_stored_of_declared declared (forall₂_of_mapM_eq_ok converted)
  exact ⟨stored, stores, same, distinct⟩

/-- The module of the lookups of an accepted file is made of their functions; the names are never
refused. -/
theorem module_eq {env : Environment} {file : DeclarationFile} {stored : List Stored}
    (stores : List.Forall₂ (Fields.Stores env) file.lookups stored)
    (distinct : (stored.map Stored.name).Nodup) :
    functionNames [] ((stored.map Stored.lookup).map Lookup.name) = .ok (stored.map Stored.name) ∧
      file.module (stored.map Stored.lookup) =
        ((fun functions => Program.text standardUnit ⟨functions⟩) <$>
          Program.functionsFrom file.docs (stored.map Stored.name)
            (stored.map Stored.named)).mapError .render := by
  have names : List.Forall₂ (fun v n => functionName v = .ok n)
      ((stored.map Stored.lookup).map Lookup.name) (stored.map Stored.name) := by
    rw [List.map_map, List.forall₂_map_left_iff, List.forall₂_map_right_iff, List.forall₂_same]
    intro s member
    obtain ⟨fields, -, belongs⟩ := exists_of_forall₂ stores.flip member
    exact belongs.functionName_eq
  have found := functionNames_eq_ok_iff.mpr ⟨names, distinct, fun n _ => List.not_mem_nil⟩
  refine ⟨found, ?_⟩
  have pairs : (stored.map Stored.name).zip (stored.map Stored.lookup) = stored.map Stored.named :=
    List.zip_map'
  have given : ((stored.map Stored.lookup).map fun l => (l.name, l)).map Prod.fst =
      (stored.map Stored.lookup).map Lookup.name := by
    rw [List.map_map]
    rfl
  have same : ((stored.map Stored.lookup).map fun l => (l.name, l)).map Prod.snd =
      stored.map Stored.lookup := by
    rw [List.map_map]
    exact List.map_id _
  rw [DeclarationFile.module, renderModule, Program.ofLookups, given, found, same]
  dsimp only
  rw [pairs, Functor.map_map]

/-- Accepted lookups give a module when each of them is sound. -/
theorem exists_module_iff {env : Environment} {file : DeclarationFile} {stored : List Stored}
    (stores : List.Forall₂ (Fields.Stores env) file.lookups stored)
    (distinct : (stored.map Stored.name).Nodup) :
    (∃ source, file.module (stored.map Stored.lookup) = .ok source) ↔
      ∀ s ∈ stored, s.Sound (stored.map Stored.name) := by
  have firsts : (stored.map Stored.named).map Prod.fst = stored.map Stored.name := List.map_map
  rw [(module_eq stores distinct).2]
  simp only [mapError_eq_ok_iff, map_eq_ok_iff]
  rw [exists_comm]
  simp only [exists_and_left, exists_eq', and_true]
  rw [exists_functionsFrom_iff (firsts ▸ distinct), List.forall_mem_map]
  refine forall₂_congr fun s member => ?_
  obtain ⟨fields, -, belongs⟩ := exists_of_forall₂ stores.flip member
  exact belongs.writable_iff

/-- The first lookup at fault decides why accepted lookups give no module. -/
theorem of_module_eq_error {env : Environment} {file : DeclarationFile} {stored : List Stored}
    (stores : List.Forall₂ (Fields.Stores env) file.lookups stored)
    (distinct : (stored.map Stored.name).Nodup) {fault : GenerationFault}
    (failed : file.module (stored.map Stored.lookup) = .error fault) :
    ∃ before s after cause, stored = before ++ s :: after ∧ fault = .render cause ∧
      (∀ t ∈ before, t.Sound (stored.map Stored.name)) ∧
      s.Refused (stored.map Stored.name) cause := by
  have firsts : (stored.map Stored.named).map Prod.fst = stored.map Stored.name := List.map_map
  have belongs {s : Stored} (member : s ∈ stored) : ∃ fields, Fields.Stores env fields s := by
    obtain ⟨fields, -, belongs⟩ := exists_of_forall₂ stores.flip member
    exact ⟨fields, belongs⟩
  rw [(module_eq stores distinct).2] at failed
  obtain ⟨cause, refused, rfl⟩ := mapError_eq_error_iff.mp failed
  obtain ⟨before, x, after, split, sound, refuses⟩ :=
    of_functionsFrom_eq_error (firsts ▸ distinct) (map_eq_error_iff.mp refused)
  obtain ⟨before, rest, rfl, rfl, behind⟩ := List.map_eq_append_iff.mp split
  obtain ⟨s, after, rfl, rfl, rfl⟩ := List.map_eq_cons_iff.mp behind
  refine ⟨before, s, after, cause, rfl, rfl, fun t member => ?_, ?_⟩
  · obtain ⟨fields, stores⟩ := belongs (List.mem_append_left _ member)
    exact stores.writable_iff.mp (sound _ (List.mem_map_of_mem member))
  · obtain ⟨fields, stores⟩ := belongs (List.mem_append_right _ List.mem_cons_self)
    exact stores.refused_of_refuses refuses

/-- The helpers of the lookup are numbered in order, from one on. -/
theorem Stored.exists_helperNames (s : Stored) :
    ∃ count, s.helperNames = (List.range' 1 count).map (helperName s.name) :=
  map_name_helpersFrom s.name s.lookup.default 0 (mainBlock s.name s.lookup.root).cut

/-- The name of a helper starts with an underscore. -/
theorem Stored.head?_of_mem_helperNames {s : Stored} {helper : String}
    (inside : helper ∈ s.helperNames) : helper.toList.head? = some '_' := by
  obtain ⟨count, names⟩ := s.exists_helperNames
  rw [names] at inside
  obtain ⟨i, -, rfl⟩ := List.mem_map.mp inside
  simp [helperName]

/-- A lookup whose values have literals is refused for the name of a helper, which is the only one
that it has. -/
theorem Stored.Refused.eq_nameRepeated {s : Stored} {names : List String} {fault : RenderFault}
    {helper : String} (refused : s.Refused names fault) (literals : ∀ v ∈ s.values, v.HasLiteral)
    (only : s.helperNames = [helper]) : fault = .nameRepeated helper := by
  cases refused with
  | unrenderable inside _ _ none | tooLong inside none => exact absurd (literals _ inside) none
  | @nameRepeated earlier later other _ order =>
    have inside : other ∈ s.helperNames := by
      rw [order]
      exact List.mem_append_right _ List.mem_cons_self
    rw [only] at inside
    rw [List.mem_singleton.mp inside]

/-- The module of an accepted file whose lookups can all be built. None of the names is refused,
and the helpers of different lookups have different names. There is a module exactly when all
values stored have literals and no helper has the name of a lookup; otherwise the first lookup at
fault decides. -/
theorem module_iff_sound {env : Environment} {data : Value} {file : DeclarationFile}
    {lookups : List Lookup} (accepted : DeclarationFile.ofValue data = .ok file)
    (converted : file.toLookups env = .ok lookups) :
    ∃ stored : List Stored, List.Forall₂ (Fields.Stores env) file.lookups stored ∧
      stored.map Stored.lookup = lookups ∧
      functionNames [] (lookups.map Lookup.name) = .ok (stored.map Stored.name) ∧
      (∀ s ∈ stored, ∃ count, s.helperNames = (List.range' 1 count).map (helperName s.name)) ∧
      stored.Pairwise (fun s t => s.helperNames.Disjoint t.helperNames) ∧
      ((∃ source, file.module lookups = .ok source) ↔
        (∀ s ∈ stored, ∀ v ∈ s.values, v.HasLiteral) ∧
          ∀ s ∈ stored, ∀ helper ∈ s.helperNames, helper ∉ stored.map Stored.name) ∧
      ∀ fault, file.module lookups = .error fault →
        ∃ before s after cause, stored = before ++ s :: after ∧ fault = .render cause ∧
          (∀ t ∈ before, t.Sound (stored.map Stored.name)) ∧
          s.Refused (stored.map Stored.name) cause := by
  obtain ⟨stored, stores, rfl, distinct⟩ := exists_stored accepted converted
  refine ⟨stored, stores, rfl, (module_eq stores distinct).1, fun s _ => s.exists_helperNames, ?_,
    (exists_module_iff stores distinct).trans ?_, fun fault => of_module_eq_error stores distinct⟩
  · refine (List.pairwise_map.mp distinct).imp fun {s t} other helper inS inT => ?_
    obtain ⟨f, inside, rfl⟩ := List.mem_map.mp inS
    exact name_notMem_helpersFor other inside inT
  · constructor
    · exact fun sound => ⟨fun s member => (sound s member).literals,
        fun s member => (sound s member).helpers⟩
    · exact fun ⟨literals, helpers⟩ s member => ⟨literals s member, helpers s member⟩

/-! ### Files of one lookup -/

/-- A file that only lists lookups is accepted when they are. -/
theorem ofValue_lookups {items : List Value} {lookups : List Fields}
    (checked : checkLookups [] 0 items = .ok lookups) :
    DeclarationFile.ofValue (.dict [(.str "lookups", .list items)]) = .ok ⟨[], lookups⟩ := by
  have config : checkConfig (Fields.getD [(.str "lookups", .list items)] "config" .none)
      = .ok [] := by cbv
  have listed : lookupItems (Fields.getD [(.str "lookups", .list items)] "lookups" .none)
      = .ok items := by cbv
  rw [DeclarationFile.ofValue, DeclarationFile.ofFields, config, listed]
  simp only [bind, Except.bind, checked]
  rfl

/-- The file of one lookup of one key. -/
def singleFile (v : Value) : Value :=
  .dict [(.str "lookups", .list [.dict (singleDeclaration .any v)])]

/-- The file is accepted. -/
theorem ofValue_singleFile (v : Value) :
    DeclarationFile.ofValue (singleFile v) = .ok ⟨[], [singleDeclaration .any v]⟩ := by
  refine ofValue_lookups ?_
  rw [checkLookups, (@declares_singleDeclaration .any v rfl).checkLookup_eq 0]
  rfl

/-- Its lookup is built. -/
theorem toLookups_singleFile (env : Environment) (v : Value) :
    DeclarationFile.toLookups env ⟨[], [singleDeclaration .any v]⟩ = .ok [singleLookup .any v] := by
  have converted : lookupOfFields env (singleDeclaration .any v) = .ok (singleLookup .any v) :=
    lookupOfFields_singleDeclaration rfl (.same (by decide))
  rw [DeclarationFile.toLookups, List.mapM_cons, converted]
  rfl

/-- The lookup has no helpers. -/
theorem helpersFor_singleLookup (n : String) (kind : ValueKind) (v : Value) :
    helpersFor (n, singleLookup kind v) = [] := by
  change helpersFrom n kind.missValue 0 [] = []
  rw [helpersFrom]

/-- What the lookup stores. -/
theorem of_stores_singleDeclaration {env : Environment} {v : Value} {s : Stored}
    (stores : Fields.Stores env (singleDeclaration .any v) s) : s.name = "f" ∧ s.values = [v] := by
  obtain ⟨declares, taken, -⟩ := stores
  obtain ⟨name, rfl, -, rfl⟩ := (@declares_singleDeclaration .any v rfl).unique declares
  obtain ⟨w, rest, takes, nothing, values⟩ := List.forall₂_cons_left_iff.mp taken
  obtain rfl := List.forall₂_nil_left_iff.mp nothing
  cases takes
  exact ⟨name.symm, values⟩

/-- The file of an integer of too many digits gives no module, though its only value is an integer
and there are no helpers. -/
theorem long_unrendered :
    DeclarationFile.ofValue (singleFile (.int Value.longInteger)) =
        .ok ⟨[], [singleDeclaration .any (.int Value.longInteger)]⟩ ∧
      DeclarationFile.toLookups .known ⟨[], [singleDeclaration .any (.int Value.longInteger)]⟩ =
        .ok [singleLookup .any (.int Value.longInteger)] ∧
      helpersFor ("f", singleLookup .any (.int Value.longInteger)) = [] ∧
      ∀ source, DeclarationFile.module ⟨[], [singleDeclaration .any (.int Value.longInteger)]⟩
        [singleLookup .any (.int Value.longInteger)] ≠ .ok source := by
  have accepted := ofValue_singleFile (.int Value.longInteger)
  have converted := toLookups_singleFile .known (.int Value.longInteger)
  refine ⟨accepted, converted, helpersFor_singleLookup _ _ _, fun source made => ?_⟩
  obtain ⟨stored, stores, built, distinct⟩ := exists_stored accepted converted
  have sound := (exists_module_iff stores distinct).mp ⟨source, built ▸ made⟩
  obtain ⟨s, rest, first, -, rfl⟩ := List.forall₂_cons_left_iff.mp stores
  obtain ⟨-, values⟩ := of_stores_singleDeclaration first
  have literal := (sound s List.mem_cons_self).literals _ (values ▸ List.mem_singleton_self _)
  cases literal with
  | int short =>
    rw [Int.natAbs_natCast] at short
    exact Nat.lt_irrefl _ short

/-! ### Files of two lookups -/

/-- The declaration of keys with values of any type. -/
def plainDeclaration (name : String) (keys : List Text) (values : List Value) : Fields :=
  [(.str "name", .str name), (.str "keys", .list (keys.map Text.toValue)),
    (.str "values", .list values)]

/-- A name for functions is declared with the keys and values. -/
theorem declares_plainDeclaration {name : String} {keys : List Text} {values : List Value}
    (valid : Text.isFunctionName name = true) :
    (plainDeclaration name keys values).Declares name .any keys values := by
  have named : Value.field? (plainDeclaration name keys values) "name" = some (.str name) := by cbv
  have undocumented : Value.field? (plainDeclaration name keys values) "doc" = none := by cbv
  refine ⟨by rw [named]; rfl, valid, by cbv, by cbv, by cbv, fun _ _ => rfl, ?_⟩
  rw [undocumented]
  exact fun _ none => absurd none (Option.some_ne_none _).symm

/-- What the lookup stores. -/
theorem of_stores_plainDeclaration {env : Environment} {name : String} {keys : List Text}
    {values : List Value} (valid : Text.isFunctionName name = true) {s : Stored}
    (stores : Fields.Stores env (plainDeclaration name keys values) s) :
    s.name = name ∧ s.values = values := by
  obtain ⟨declares, taken, -⟩ := stores
  obtain ⟨same, rfl, -, rfl⟩ := (declares_plainDeclaration valid).unique declares
  have taken' : List.Forall₂ (ValueKind.any.Takes env) values values :=
    List.forall₂_same.mpr fun v _ => .same (by decide)
  exact ⟨same.symm, ValueKind.Takes.unique.forall₂ taken taken'⟩

/-- Two declarations: one of many keys, whose lookup has a helper, and one of a letter. -/
def pairDeclarations (second : String) : List Fields :=
  [plainDeclaration "find" (Declared.deepKeys.map (⟨·, .plain⟩)) Declared.deepValues,
    plainDeclaration second [⟨"a", .plain⟩] [.int 7]]

/-- The file of these declarations. -/
def pairFile (second : String) : Value :=
  .dict [(.str "lookups", .list ((pairDeclarations second).map .dict))]

/-- The file is accepted when the second name is another name for functions. -/
theorem ofValue_pairFile {second : String} (valid : Text.isFunctionName second = true)
    (other : second ≠ "find") :
    DeclarationFile.ofValue (pairFile second) = .ok ⟨[], pairDeclarations second⟩ := by
  have found : Text.isFunctionName "find" = true := by decide
  have first := (@declares_plainDeclaration "find" (Declared.deepKeys.map (⟨·, .plain⟩))
    Declared.deepValues found).checkLookup_eq 0
  have next := (@declares_plainDeclaration second [⟨"a", .plain⟩] [.int 7] valid).checkLookup_eq 1
  have none : ([] : List String).contains "find" = false := rfl
  have apart : ["find"].contains second = false := by simp [other]
  refine ofValue_lookups ?_
  simp only [pairDeclarations, List.map_cons, List.map_nil, checkLookups, first, next, none,
    apart, Bool.false_eq_true, if_false]
  rfl

/-- The lookup of many keys has one helper. -/
theorem lookupOfFields_deep :
    ∃ l, lookupOfFields .known (plainDeclaration "find" (Declared.deepKeys.map (⟨·, .plain⟩))
        Declared.deepValues) = .ok l ∧
      (helpersFor ("find", l)).map Function.name = ["_find_1"] := by
  have built : (lookupOfFields .known (plainDeclaration "find"
      (Declared.deepKeys.map (⟨·, .plain⟩)) Declared.deepValues)).toOption.any
        (fun l => (helpersFor ("find", l)).map Function.name = ["_find_1"]) = true := by
    decide +kernel
  obtain ⟨l, converted, helpers⟩ := exists_of_any_toOption built
  exact ⟨l, converted, of_decide_eq_true helpers⟩

/-- The lookup of a letter is built, under either name. -/
theorem exists_lookupOfFields_letter {second : String} (known : second = "g" ∨ second = "_find_1") :
    ∃ l, lookupOfFields .known (plainDeclaration second [⟨"a", .plain⟩] [.int 7]) = .ok l := by
  have built : (lookupOfFields .known
      (plainDeclaration second [⟨"a", .plain⟩] [.int 7])).toOption.any (fun _ => true) = true := by
    rcases known with rfl | rfl <;> decide +kernel
  obtain ⟨l, converted, -⟩ := exists_of_any_toOption built
  exact ⟨l, converted⟩

/-- What is known of the lookups of the file, once they have been built and stored. -/
theorem exists_toLookups_pairFile {second : String} (known : second = "g" ∨ second = "_find_1") :
    ∃ lookups, DeclarationFile.toLookups .known ⟨[], pairDeclarations second⟩ = .ok lookups ∧
      ∀ stored : List Stored,
        List.Forall₂ (Fields.Stores .known) (pairDeclarations second) stored →
        stored.map Stored.lookup = lookups →
        ∃ s t, stored = [s, t] ∧ s.name = "find" ∧ t.name = second ∧
          (∀ v ∈ s.values ++ t.values, v.HasLiteral) ∧ s.helperNames = ["_find_1"] := by
  obtain ⟨f, first, helpers⟩ := lookupOfFields_deep
  obtain ⟨g, next⟩ := exists_lookupOfFields_letter known
  have valid : Text.isFunctionName second = true := by rcases known with rfl | rfl <;> decide
  refine ⟨[f, g], ?_, fun stored stores built => ?_⟩
  · rw [DeclarationFile.toLookups, pairDeclarations, List.mapM_cons, List.mapM_cons, first, next]
    rfl
  · obtain ⟨s, rest, storesFirst, storesRest, rfl⟩ := List.forall₂_cons_left_iff.mp stores
    obtain ⟨t, nothing, storesNext, storesNothing, rfl⟩ := List.forall₂_cons_left_iff.mp storesRest
    obtain rfl := List.forall₂_nil_left_iff.mp storesNothing
    obtain ⟨named, values⟩ := of_stores_plainDeclaration (by decide) storesFirst
    obtain ⟨named', values'⟩ := of_stores_plainDeclaration valid storesNext
    have lookup : s.lookup = f := (List.cons.inj built).1
    refine ⟨s, t, rfl, named, named', fun v member => ?_, ?_⟩
    · rw [values, values'] at member
      refine Value.literalFault?_eq_none_iff.mp ?_
      rcases List.mem_append.mp member with inside | inside
      · exact Declared.literals_deep v inside
      · obtain rfl := List.mem_singleton.mp inside
        exact literalFault?_int (by decide)
    · rw [Stored.helperNames, Stored.named, named, lookup, helpers]

/-- The file gives a module, unless its second lookup has the name of the helper of the first one,
which is refused then. -/
theorem module_iff_sound_pair :
    (DeclarationFile.ofValue (pairFile "g") = .ok ⟨[], pairDeclarations "g"⟩ ∧
      ∃ lookups source, DeclarationFile.toLookups .known ⟨[], pairDeclarations "g"⟩ = .ok lookups ∧
        DeclarationFile.module ⟨[], pairDeclarations "g"⟩ lookups = .ok source) ∧
    (DeclarationFile.ofValue (pairFile "_find_1") = .ok ⟨[], pairDeclarations "_find_1"⟩ ∧
      ∃ lookups,
        DeclarationFile.toLookups .known ⟨[], pairDeclarations "_find_1"⟩ = .ok lookups ∧
        DeclarationFile.module ⟨[], pairDeclarations "_find_1"⟩ lookups
          = .error (.render (.nameRepeated "_find_1"))) := by
  constructor
  · have accepted := @ofValue_pairFile "g" (by decide) (by decide)
    obtain ⟨lookups, converted, known⟩ := exists_toLookups_pairFile (.inl rfl)
    obtain ⟨stored, stores, built, -, -, -, rendered, -⟩ :=
      module_iff_sound accepted converted
    obtain ⟨s, t, rfl, named, named', literals, -⟩ := known stored stores built
    have written : ∀ u ∈ [s, t], ∀ v ∈ u.values, v.HasLiteral := by
      intro u member v inside
      rcases List.mem_pair.mp member with rfl | rfl
      · exact literals v (List.mem_append_left _ inside)
      · exact literals v (List.mem_append_right _ inside)
    -- Neither name starts as those of helpers do.
    have free : ∀ u ∈ [s, t], ∀ helper ∈ u.helperNames, helper ∉ [s, t].map Stored.name := by
      intro u _ helper inside clash
      have start := Stored.head?_of_mem_helperNames inside
      rw [List.map_cons, List.map_cons, List.map_nil, named, named'] at clash
      rcases List.mem_pair.mp clash with rfl | rfl <;> cases start
    obtain ⟨source, made⟩ := rendered.mpr ⟨written, free⟩
    exact ⟨accepted, lookups, source, converted, made⟩
  · have accepted := @ofValue_pairFile "_find_1" (by decide) (by decide)
    obtain ⟨lookups, converted, known⟩ := exists_toLookups_pairFile (.inr rfl)
    obtain ⟨stored, stores, built, -, -, -, rendered, refused⟩ :=
      module_iff_sound accepted converted
    obtain ⟨s, t, rfl, named, named', literals, helpers⟩ := known stored stores built
    have member : "_find_1" ∈ s.helperNames := by rw [helpers]; exact List.mem_singleton_self _
    have taken : "_find_1" ∈ [s, t].map Stored.name := by
      rw [List.map_cons, List.map_cons, List.map_nil, named']
      exact List.mem_cons_of_mem _ List.mem_cons_self
    refine ⟨accepted, lookups, converted, ?_⟩
    cases outcome : DeclarationFile.module ⟨[], pairDeclarations "_find_1"⟩ lookups with
    | ok source =>
      exact absurd taken ((rendered.mp ⟨source, outcome⟩).2 s List.mem_cons_self _ member)
    | error fault =>
      obtain ⟨before, u, after, cause, split, rfl, sound, refusal⟩ := refused fault outcome
      -- The first lookup is at fault, so none stands before it.
      cases before with
      | cons b rest =>
        obtain rfl := (List.cons.inj split).1
        exact absurd taken ((sound s List.mem_cons_self).helpers _ member)
      | nil =>
        obtain rfl := (List.cons.inj split).1
        rw [refusal.eq_nameRepeated (fun v inside => literals v (List.mem_append_left _ inside))
          helpers]

end KeyTree
