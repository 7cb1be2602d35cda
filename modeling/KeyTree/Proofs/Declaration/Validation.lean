/-
# Validation of declaration files

Which files the check accepts, told by the format alone, and what it says about the others. A file
consists of a configuration and of lookups, no two of which have the same name. The check blames the
configuration before the list of lookups, and this before the first lookup that is not declared or
repeats a name.

* `checkLookups_eq_ok_iff`, `checkLookups_eq_error` — the check of lookups one after the other.
* `Fields.Forms` — the format of a file.
* `FaultyAt`, `Fields.Blames` — what is blamed.
* `DeclarationFile.validates` — the check of a file.
-/

import KeyTree.Proofs.Declaration.WellFormed
import KeyTree.Proofs.Value.Literal
import Mathlib.Order.Bounds.Defs

namespace KeyTree

/-! ### The check of the lookups -/

/-- A lookup whose name is fresh can stand before lookups under other names. -/
theorem nodup_unseen_cons {α : Type} {seen : List String} {x : String × α}
    {named : List (String × α)} (fresh : x.1 ∉ seen) (distinct : (named.map Prod.fst).Nodup)
    (unseen : ∀ y ∈ named, y.1 ∉ x.1 :: seen) :
    ((x :: named).map Prod.fst).Nodup ∧ ∀ y ∈ x :: named, y.1 ∉ seen := by
  constructor
  · refine List.nodup_cons.mpr ⟨fun repeated => ?_, distinct⟩
    obtain ⟨y, member, same⟩ := List.mem_map.mp repeated
    exact unseen y member (same ▸ List.mem_cons_self)
  · refine List.forall_mem_cons.mpr ⟨fresh, fun y member old => ?_⟩
    exact unseen y member (List.mem_cons_of_mem _ old)

/-- Lookups are accepted when each is declared under a name of its own that has not been seen
before. They are kept as they are. -/
theorem checkLookups_eq_ok_iff {seen : List String} {index : Nat} {items : List Value}
    {lookups : List Fields} : checkLookups seen index items = .ok lookups ↔
      ∃ named, List.Forall₂ Value.DeclaresAs items named ∧ (named.map Prod.fst).Nodup ∧
        (∀ x ∈ named, x.1 ∉ seen) ∧ lookups = named.map Prod.snd := by
  induction items generalizing seen index lookups with
  | nil =>
    rw [checkLookups]
    constructor
    · intro made
      cases made
      exact ⟨[], .nil, .nil, by simp, rfl⟩
    · rintro ⟨named, declared, -, -, rfl⟩
      rw [List.forall₂_nil_left_iff.mp declared, List.map_nil]
  | cons given rest ih =>
    rw [checkLookups]
    constructor
    · intro made
      split at made
      · cases made
      · rename_i name fields accepted
        split at made
        · cases made
        · rename_i fresh
          obtain ⟨others, later, rfl⟩ := map_eq_ok_iff.mp made
          obtain ⟨named, declared, distinct, unseen, rfl⟩ := ih.mp later
          obtain ⟨distinct, unseen⟩ :=
            @nodup_unseen_cons _ seen (name, fields) named (by simpa using fresh) distinct unseen
          exact ⟨(name, fields) :: named, .cons (checkLookup_eq_ok_iff.mp accepted) declared,
            distinct, unseen, rfl⟩
    · rintro ⟨_, declared, distinct, unseen, rfl⟩
      obtain ⟨x, named, first, others, rfl⟩ := List.forall₂_cons_left_iff.mp declared
      obtain ⟨apart, distinct⟩ := List.nodup_cons.mp distinct
      obtain ⟨fresh, unseen⟩ := List.forall_mem_cons.mp unseen
      have later : checkLookups (x.1 :: seen) (index + 1) rest = .ok (named.map Prod.snd) := by
        refine ih.mpr ⟨named, others, distinct, fun y member old => ?_, rfl⟩
        rcases List.mem_cons.mp old with same | old
        · exact apart (same ▸ List.mem_map_of_mem member)
        · exact unseen y member old
      have accepted : checkLookup index given = .ok (x.1, x.2) := checkLookup_eq_ok_iff.mpr first
      rw [accepted]
      dsimp only
      rw [if_neg (by simpa using fresh), later]
      rfl

/-- Lookups that are not accepted have a first one that is not declared, or that repeats a name. -/
theorem checkLookups_eq_error {seen : List String} {index : Nat} {items : List Value}
    {e : FormatFault} (failed : checkLookups seen index items = .error e) :
    ∃ before given after named, items = before ++ given :: after ∧
      List.Forall₂ Value.DeclaresAs before named ∧ (named.map Prod.fst).Nodup ∧
      (∀ x ∈ named, x.1 ∉ seen) ∧
      ((∃ fault, given.LookupFault (index + before.length) fault ∧ e = fault.raised) ∨
        ∃ x, given.DeclaresAs x ∧ (x.1 ∈ seen ∨ x.1 ∈ named.map Prod.fst) ∧
          e = .nameRepeated x.1) := by
  induction items generalizing seen index with
  | nil => cases failed
  | cons given rest ih =>
    rw [checkLookups] at failed
    split at failed
    · rename_i fault refused
      cases failed
      obtain ⟨fault, blamed, shown⟩ := checkLookup_eq_error refused
      exact ⟨[], given, rest, [], rfl, .nil, .nil, by simp, .inl ⟨fault, blamed, shown⟩⟩
    · rename_i name fields accepted
      have declared := checkLookup_eq_ok_iff.mp accepted
      split at failed
      · rename_i old
        cases failed
        exact ⟨[], given, rest, [], rfl, .nil, .nil, by simp,
          .inr ⟨(name, fields), declared, .inl (by simpa using old), rfl⟩⟩
      · rename_i fresh
        obtain ⟨before, other, after, named, rfl, sound, distinct, unseen, blame⟩ :=
          ih (map_eq_error_iff.mp failed)
        obtain ⟨distinct, unseen⟩ :=
          @nodup_unseen_cons _ seen (name, fields) named (by simpa using fresh) distinct unseen
        refine ⟨given :: before, other, after, (name, fields) :: named, rfl,
          .cons declared sound, distinct, unseen, ?_⟩
        rcases blame with ⟨fault, blamed, shown⟩ | ⟨x, declares, repeated, shown⟩
        · rw [Nat.add_assoc, Nat.add_comm 1] at blamed
          exact .inl ⟨fault, blamed, shown⟩
        · refine .inr ⟨x, declares, ?_, shown⟩
          rw [List.map_cons, List.mem_cons]
          rw [List.mem_cons] at repeated
          tauto

/-! ### The check of a file -/

namespace Fields

variable (fields : Fields)

/-- `fields.Omits field`: the field is absent or null. -/
def Omits (field : String) : Prop :=
  ∀ given, Value.field? fields field = some given → given.unfold = .none

/-- `fields.Configures config`: the configuration of a file, which is empty when it is omitted. -/
inductive Configures : Fields → Prop where
  | omitted (omits : fields.Omits "config") : Configures []
  | mapping {given : Value} {config : Fields} (found : Value.field? fields "config" = some given)
      (mapping : given.unfold = .dict config)
      (output : ∀ output, Value.field? config "output" = some output →
        ∃ s, output.content? = some s) : Configures config

/-- `fields.ListsLookups items`: the lookups of a file, of which there are none when they are
omitted. -/
inductive ListsLookups : List Value → Prop where
  | omitted (omits : fields.Omits "lookups") : ListsLookups []
  | list {items : List Value} (listed : fields.Lists "lookups" items) : ListsLookups items

/-- `fields.Forms file`: the fields are those of a file, whose lookups are declared in order under
different names. -/
structure Forms (file : DeclarationFile) : Prop where
  config : fields.Configures file.config
  lookups : ∃ items named, fields.ListsLookups items ∧ List.Forall₂ Value.DeclaresAs items named ∧
    (named.map Prod.fst).Nodup ∧ file.lookups = named.map Prod.snd

end Fields

/-- `FaultyAt items i`: the lookup with an index is not declared, or it repeats the name of an
earlier one. -/
def FaultyAt (items : List Value) (i : Nat) : Prop :=
  ∃ given, items[i]? = some given ∧ ((∀ x, ¬ given.DeclaresAs x) ∨
    ∃ x, given.DeclaresAs x ∧ ∃ j < i, ∃ earlier y, items[j]? = some earlier ∧
      earlier.DeclaresAs y ∧ y.1 = x.1)

/-- The faults of a file: of the configuration, or else of the list of lookups, or else of the first
lookup that is not declared or repeats a name. -/
inductive Fields.Blames (fields : Fields) : FormatFault → Prop where
  | configNotMapping {given : Value} (found : Value.field? fields "config" = some given)
      (put : given.unfold ≠ .none) (other : ∀ config, given.unfold ≠ .dict config) :
      Blames fields .configNotMapping
  | outputNotText {given output : Value} {config : Fields}
      (found : Value.field? fields "config" = some given) (mapping : given.unfold = .dict config)
      (put : Value.field? config "output" = some output) (other : output.content? = none) :
      Blames fields .outputNotText
  | lookupsNotList {config : Fields} {given : Value} (configures : fields.Configures config)
      (found : Value.field? fields "lookups" = some given) (put : given.unfold ≠ .none)
      (other : ∀ items, given.unfold ≠ .list items) : Blames fields .lookupsNotList
  | lookup {config : Fields} {items : List Value} {i : Nat} {given : Value} {fault : FormatFault}
      (configures : fields.Configures config) (listed : fields.ListsLookups items)
      (least : IsLeast {n | FaultyAt items n} i) (at_i : items[i]? = some given)
      (blamed : given.LookupFault i fault) : Blames fields fault
  | nameRepeated {config : Fields} {items : List Value} {i j : Nat} {given earlier : Value}
      {x y : String × Fields} (configures : fields.Configures config)
      (listed : fields.ListsLookups items) (least : IsLeast {n | FaultyAt items n} i)
      (at_i : items[i]? = some given) (declares : given.DeclaresAs x) (before : j < i)
      (at_j : items[j]? = some earlier) (declares' : earlier.DeclaresAs y) (same : y.1 = x.1) :
      Blames fields (.nameRepeated x.1)

section File

variable {fields : Fields} {e : FormatFault}

/-- An omitted field reads as null. -/
theorem omits_iff {field : String} :
    fields.Omits field ↔ (fields.getD field .none).unfold = .none := by
  unfold Fields.Omits Fields.getD
  cases Value.field? fields field with
  | none => simp [Value.unfold]
  | some given => simp

/-- A field that does not read as null is there. -/
theorem exists_field_of_unfold {field : String} {read : Value}
    (unfolded : (fields.getD field .none).unfold = read) (put : read ≠ .none) :
    ∃ given, Value.field? fields field = some given ∧ given.unfold = read := by
  unfold Fields.getD at unfolded
  cases found : Value.field? fields field with
  | none =>
    rw [found] at unfolded
    exact absurd unfolded.symm put
  | some given =>
    rw [found, Option.getD_some] at unfolded
    exact ⟨given, rfl, unfolded⟩

/-- A configuration is accepted when it is that of the file. -/
theorem checkConfig_eq_ok_iff {config : Fields} :
    checkConfig (fields.getD "config" .none) = .ok config ↔ fields.Configures config := by
  constructor
  · intro accepted
    unfold checkConfig at accepted
    split at accepted
    · rename_i null
      cases accepted
      exact .omitted (omits_iff.mpr null)
    · rename_i parts mapping
      obtain ⟨given, found, mapping⟩ := exists_field_of_unfold mapping (by simp)
      split at accepted
      · rename_i output put
        split at accepted
        · rename_i text
          cases accepted
          refine .mapping found mapping fun other put' => ?_
          obtain rfl := Option.some.inj (put.symm.trans put')
          exact Option.isSome_iff_exists.mp text
        · cases accepted
      · rename_i absent
        cases accepted
        exact .mapping found mapping fun output put => by simp [absent] at put
    · cases accepted
  · intro configures
    unfold checkConfig
    cases configures with
    | omitted omits => rw [omits_iff.mp omits]
    | mapping found mapping output =>
      rw [Fields.getD, found, Option.getD_some, mapping]
      dsimp only
      cases put : Value.field? config "output" with
      | none => rfl
      | some given =>
        obtain ⟨s, text⟩ := output given put
        simp [text]

/-- A configuration that is not accepted is blamed. -/
theorem blames_of_checkConfig (failed : checkConfig (fields.getD "config" .none) = .error e) :
    fields.Blames e ∧ e = e.raised := by
  unfold checkConfig at failed
  split at failed
  · cases failed
  · rename_i parts mapping
    obtain ⟨given, found, mapping⟩ := exists_field_of_unfold mapping (by simp)
    split at failed
    · rename_i output put
      split at failed
      · cases failed
      · rename_i other
        cases failed
        exact ⟨.outputNotText found mapping put (by simpa using other), rfl⟩
    · cases failed
  · rename_i null other
    cases failed
    obtain ⟨given, found, same⟩ := exists_field_of_unfold rfl null
    refine ⟨.configNotMapping found (same ▸ null) fun config mapping => ?_, rfl⟩
    exact other config (same.symm.trans mapping)

/-- A list of lookups is accepted when it is that of the file. -/
theorem lookupItems_eq_ok_iff {items : List Value} :
    lookupItems (fields.getD "lookups" .none) = .ok items ↔ fields.ListsLookups items := by
  constructor
  · intro accepted
    unfold lookupItems at accepted
    split at accepted
    · rename_i null
      cases accepted
      exact .omitted (omits_iff.mpr null)
    · rename_i parts list
      cases accepted
      exact .list (exists_field_of_unfold list (by simp))
    · cases accepted
  · intro listed
    unfold lookupItems
    cases listed with
    | omitted omits => rw [omits_iff.mp omits]
    | list listed =>
      obtain ⟨given, found, list⟩ := listed
      rw [Fields.getD, found, Option.getD_some, list]

/-- A list of lookups that is not accepted is blamed. -/
theorem blames_of_lookupItems {config : Fields} (configures : fields.Configures config)
    (failed : lookupItems (fields.getD "lookups" .none) = .error e) :
    fields.Blames e ∧ e = e.raised := by
  unfold lookupItems at failed
  split at failed
  · cases failed
  · cases failed
  · rename_i null other
    cases failed
    obtain ⟨given, found, same⟩ := exists_field_of_unfold rfl null
    refine ⟨.lookupsNotList configures found (same ▸ null) fun items list => ?_, rfl⟩
    exact other items (same.symm.trans list)

/-- Related lists are related place by place. -/
theorem exists_getElem?_of_forall₂ {α β : Type} {R : α → β → Prop} {items : List α}
    {results : List β} (related : List.Forall₂ R items results) {i : Nat} {a : α}
    (at_i : items[i]? = some a) : ∃ b, results[i]? = some b ∧ R a b := by
  induction related generalizing i with
  | nil => cases at_i
  | cons first _ ih =>
    cases i with
    | zero =>
      cases at_i
      exact ⟨_, rfl, first⟩
    | succ i => exact ih at_i

/-- Lookups that are declared under different names are not at fault. -/
theorem not_faultyAt {before rest : List Value} {named : List (String × Fields)}
    (declared : List.Forall₂ Value.DeclaresAs before named) (distinct : (named.map Prod.fst).Nodup)
    {i : Nat} (inside : i < before.length) : ¬ FaultyAt (before ++ rest) i := by
  have place {n : Nat} {given : Value} (early : n ≤ i)
      (at_n : (before ++ rest)[n]? = some given) :
      ∃ x, named[n]? = some x ∧ given.DeclaresAs x := by
    rw [List.getElem?_append_left (Nat.lt_of_le_of_lt early inside)] at at_n
    exact exists_getElem?_of_forall₂ declared at_n
  rintro ⟨given, at_i, faulty⟩
  obtain ⟨x, named_i, declares⟩ := place (Nat.le_refl i) at_i
  rcases faulty with undeclared | ⟨x', declares', j, less, earlier, y, at_j, declares_j, same⟩
  · exact undeclared x declares
  · obtain rfl := declares.unique declares'
    obtain ⟨y', named_j, declares_j'⟩ := place (Nat.le_of_lt less) at_j
    obtain rfl := declares_j.unique declares_j'
    have names_i : (named.map Prod.fst)[i]? = some x.1 := by rw [List.getElem?_map, named_i]; rfl
    have names_j : (named.map Prod.fst)[j]? = some x.1 := by
      rw [List.getElem?_map, named_j, ← same]
      rfl
    have bound := (List.getElem?_eq_some_iff.mp names_j).1
    exact Nat.ne_of_lt less ((List.getElem?_inj bound distinct).mp (names_j.trans names_i.symm))

/-- A blamed fault is one of the format. -/
theorem Fields.Blames.isParseError {fault : FormatFault} (blames : fields.Blames fault) :
    fault.isParseError = true := by
  cases blames with
  | configNotMapping | outputNotText | lookupsNotList | nameRepeated => rfl
  | lookup _ _ _ _ blamed =>
    cases blamed with
    | notMapping => rfl
    | mapping _ blamed => cases blamed <;> rfl

/-- Lookups that are not accepted are blamed. -/
theorem blames_of_checkLookups {config : Fields} {items : List Value}
    (configures : fields.Configures config) (listed : fields.ListsLookups items)
    (failed : checkLookups [] 0 items = .error e) :
    ∃ fault, fields.Blames fault ∧ e = fault.raised := by
  obtain ⟨before, given, after, named, rfl, sound, distinct, -, blame⟩ :=
    checkLookups_eq_error failed
  have at_i : (before ++ given :: after)[before.length]? = some given := by simp
  have first : before.length ∈ lowerBounds {n | FaultyAt (before ++ given :: after) n} := by
    intro n faulty
    exact Nat.le_of_not_lt fun inside => not_faultyAt sound distinct inside faulty
  rcases blame with ⟨fault, blamed, shown⟩ | ⟨x, declares, repeated, rfl⟩
  · rw [Nat.zero_add] at blamed
    have faulty : FaultyAt (before ++ given :: after) before.length :=
      ⟨given, at_i, .inl blamed.not_declaresAs⟩
    exact ⟨fault, .lookup configures listed ⟨faulty, first⟩ at_i blamed, shown⟩
  · obtain old | repeated := repeated
    · cases old
    obtain ⟨y, member, same⟩ := List.mem_map.mp repeated
    obtain ⟨j, named_j⟩ := List.mem_iff_getElem?.mp member
    obtain ⟨earlier, before_j, declares'⟩ := exists_getElem?_of_forall₂ sound.flip named_j
    have less : j < before.length := (List.getElem?_eq_some_iff.mp before_j).1
    have at_j : (before ++ given :: after)[j]? = some earlier := by
      rw [List.getElem?_append_left less, before_j]
    have faulty : FaultyAt (before ++ given :: after) before.length :=
      ⟨given, at_i, .inr ⟨x, declares, j, less, earlier, y, at_j, declares', same⟩⟩
    have blames : fields.Blames (.nameRepeated x.1) :=
      .nameRepeated configures listed ⟨faulty, first⟩ at_i declares less at_j declares' same
    exact ⟨_, blames, rfl⟩

/-- A fault that is one of the format shows as such unless it cannot be shown. -/
theorem isParseError_raised {fault : FormatFault} (format : fault.isParseError = true) :
    fault.raised.isParseError = true ↔ fault.isUnwritten = false := by
  unfold FormatFault.raised
  cases fault.isUnwritten with
  | true => simp [FormatFault.isParseError]
  | false => simp [format]

namespace DeclarationFile

/-- A file is accepted when it is one of the format. -/
theorem ofFields_eq_ok_iff {file : DeclarationFile} :
    ofFields fields = .ok file ↔ fields.Forms file := by
  constructor
  · intro accepted
    obtain ⟨config, configured, accepted⟩ := bind_eq_ok_iff.mp accepted
    obtain ⟨items, listed, accepted⟩ := bind_eq_ok_iff.mp accepted
    obtain ⟨lookups, checked, accepted⟩ := bind_eq_ok_iff.mp accepted
    cases accepted
    obtain ⟨named, declared, distinct, -, same⟩ := checkLookups_eq_ok_iff.mp checked
    exact ⟨checkConfig_eq_ok_iff.mp configured, items, named, lookupItems_eq_ok_iff.mp listed,
      declared, distinct, same⟩
  · rintro ⟨configures, items, named, listed, declared, distinct, same⟩
    have configured := checkConfig_eq_ok_iff.mpr configures
    have itemsListed := lookupItems_eq_ok_iff.mpr listed
    have checked : checkLookups [] 0 items = .ok file.lookups :=
      checkLookups_eq_ok_iff.mpr ⟨named, declared, distinct, by simp, same⟩
    exact bind_eq_ok_iff.mpr ⟨_, configured, bind_eq_ok_iff.mpr ⟨_, itemsListed,
      bind_eq_ok_iff.mpr ⟨_, checked, rfl⟩⟩⟩

/-- A file that is not accepted is blamed. -/
theorem blames_of_ofFields (failed : ofFields fields = .error e) :
    ∃ fault, fields.Blames fault ∧ e = fault.raised := by
  rcases bind_eq_error_iff.mp failed with failed | ⟨config, configured, failed⟩
  · exact ⟨e, blames_of_checkConfig failed⟩
  have configures := checkConfig_eq_ok_iff.mp configured
  rcases bind_eq_error_iff.mp failed with failed | ⟨items, listed, failed⟩
  · exact ⟨e, blames_of_lookupItems configures failed⟩
  rcases bind_eq_error_iff.mp failed with failed | ⟨lookups, -, failed⟩
  · exact blames_of_checkLookups configures (lookupItems_eq_ok_iff.mp listed) failed
  · cases failed

/-- The check of a file. It accepts the files of the format, and keeps their configuration and their
lookups as they are. What it says about any other file is a fault of this file; and it is an error
of the format unless it was to show a value that has no written form. -/
theorem validates (fields : Fields) :
    (∀ file, ofFields fields = .ok file ↔ fields.Forms file) ∧
    ∀ e, ofFields fields = .error e → (∀ file, ¬ fields.Forms file) ∧
      ∃ fault, fields.Blames fault ∧ e = fault.raised ∧
        (e.isParseError = true ↔ fault.isUnwritten = false) := by
  refine ⟨fun _ => ofFields_eq_ok_iff, fun e failed => ⟨fun file forms => ?_, ?_⟩⟩
  · rw [ofFields_eq_ok_iff.mpr forms] at failed
    cases failed
  · obtain ⟨fault, blames, rfl⟩ := blames_of_ofFields failed
    exact ⟨fault, blames, rfl, isParseError_raised blames.isParseError⟩

end DeclarationFile

end File

/-! ### Files of a number -/

/-- The declaration of a lookup whose only key is a number. -/
def numberDeclaration (n : Int) : Fields :=
  [(.str "name", .str "f"), (.str "keys", .list [.int n]), (.str "values", .list [.int 1])]

/-- The file of this lookup. -/
def numberFile (n : Int) : Fields := [(.str "lookups", .list [.dict (numberDeclaration n)])]

/-- The number is refused. -/
theorem checkLookup_numberDeclaration (n : Int) :
    checkLookup 0 (.dict (numberDeclaration n))
      = .error (.showing (.int n) (.keyNotText "f" 0 (.int n))) := by
  have found : Value.field? (numberDeclaration n) "name" = some (.str "f") := by cbv
  have named : declaredName 0 (numberDeclaration n) = .ok "f" := by
    rw [declaredName, found]
    rfl
  have keys : listField "f" "keys" (numberDeclaration n) = .ok [.int n] := by cbv
  have values : listField "f" "values" (numberDeclaration n) = .ok [.int 1] := by cbv
  have refused : checkFields "f" (numberDeclaration n)
      = .error (.showing (.int n) (.keyNotText "f" 0 (.int n))) := by
    rw [checkFields, keys, values]
    rfl
  exact bind_eq_error_iff.mpr (.inr ⟨"f", named, bind_eq_error_iff.mpr (.inl refused)⟩)

/-- The file is refused. -/
theorem ofFields_numberFile (n : Int) :
    DeclarationFile.ofFields (numberFile n)
      = .error (.showing (.int n) (.keyNotText "f" 0 (.int n))) := by
  have config : checkConfig ((numberFile n).getD "config" .none) = .ok [] := by cbv
  have items : lookupItems ((numberFile n).getD "lookups" .none)
      = .ok [.dict (numberDeclaration n)] := by cbv
  rw [DeclarationFile.ofFields, config, items]
  simp only [bind, Except.bind, checkLookups, checkLookup_numberDeclaration]

/-- A number of too many digits is refused, but not by a fault of the format: the fault would show
the number, which has no written form. -/
theorem DeclarationFile.long_unshown :
    ofFields (numberFile Value.longInteger) = .error .tooLong ∧
      FormatFault.isParseError .tooLong = false := by
  have long : (Value.int Value.longInteger).isTooLong = true := by
    rw [Value.isTooLong, Int.natAbs_natCast]
    exact decide_eq_true (Nat.le_refl _)
  constructor
  · rw [ofFields_numberFile, FormatFault.showing, if_pos long]
  · rfl

end KeyTree
