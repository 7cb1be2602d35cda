/-
# Lookups without a module

Lookups with different names that may name functions give no module when a value has no literal or
a helper has the name of a lookup. They are gone through in order, the values of a lookup before
the names of its helpers, and the first fault is reported. The helpers of the lookups before never
matter, since the name of a helper tells the name of its lookup.

* `Writable`, `Refuses` — a lookup without a fault, and one with a fault.
* `exists_functionsFrom_iff` — lookups without a fault give a module.
* `of_functionsFrom_eq_error` — the first lookup at fault decides.
-/

import KeyTree.Proofs.Source.Assembly

namespace KeyTree.Source

/-- Whether a lookup can be written: every value in its functions has a literal, and no helper has
a name that is taken. -/
structure Writable (taken : List String) (x : String × Lookup) : Prop where
  literals : ∀ v ∈ (functionsFor [] x).flatMap Function.values, v.literalFault? = none
  untaken : ∀ helper ∈ helpersFor x, helper.name ∉ taken

/-- `Refuses taken x fault`: the lookup cannot be written. A value without a literal is reported,
or else the first helper whose name is taken. -/
inductive Refuses (taken : List String) (x : String × Lookup) : RenderFault → Prop where
  | noLiteral {v : Value} {fault : LiteralFault}
      (inside : v ∈ (functionsFor [] x).flatMap Function.values)
      (failed : v.literalFault? = some fault) : Refuses taken x (.noLiteral fault)
  | nameRepeated {earlier later : List String} {helper : String}
      (literals : ∀ v ∈ (functionsFor [] x).flatMap Function.values, v.literalFault? = none)
      (helpers : (helpersFor x).map Function.name = earlier ++ helper :: later)
      (untaken : ∀ h ∈ earlier, h ∉ taken) (clash : helper ∈ taken) :
      Refuses taken x (.nameRepeated helper)

/-- Lookups with different names give a module when each can be written. -/
theorem exists_functionsFrom_iff {docs : List (String × String)} {taken : List String}
    {named : List (String × Lookup)} (distinct : (named.map Prod.fst).Nodup) :
    (∃ functions, Program.functionsFrom docs taken named = .ok functions) ↔
      ∀ x ∈ named, Writable taken x := by
  -- The documentation of a lookup is none of the values.
  have values : (named.flatMap (functionsFor docs)).flatMap Function.values
      = named.flatMap fun x => (functionsFor [] x).flatMap Function.values := List.flatMap_assoc
  simp only [functionsFrom_eq_ok_iff distinct, exists_eq_left, values]
  constructor
  · rintro ⟨literals, untaken⟩ x member
    exact ⟨fun v inside => literals v (List.mem_flatMap.mpr ⟨x, member, inside⟩), untaken x member⟩
  · intro writable
    refine ⟨fun v inside => ?_, fun x member => (writable x member).untaken⟩
    obtain ⟨x, member, inside⟩ := List.mem_flatMap.mp inside
    exact (writable x member).literals v inside

/-- Names that are taken by helpers of another lookup do not matter. -/
theorem Writable.append_iff {x y : String × Lookup} (other : x.1 ≠ y.1) {taken : List String} :
    Writable ((helpersFor y).map Function.name ++ taken) x ↔ Writable taken x := by
  constructor
  · rintro ⟨literals, untaken⟩
    exact ⟨literals, fun helper inside old => untaken helper inside (List.mem_append_right _ old)⟩
  · rintro ⟨literals, untaken⟩
    refine ⟨literals, fun helper inside old => ?_⟩
    rcases List.mem_append.mp old with clash | old
    · exact name_notMem_helpersFor other inside clash
    · exact untaken helper inside old

/-- A lookup is refused for the names of lookups only. -/
theorem Refuses.of_append {x y : String × Lookup} (other : x.1 ≠ y.1) {taken : List String}
    {fault : RenderFault} (refuses : Refuses ((helpersFor y).map Function.name ++ taken) x fault) :
    Refuses taken x fault := by
  cases refuses with
  | noLiteral inside failed => exact .noLiteral inside failed
  | @nameRepeated earlier later helper literals helpers untaken clash =>
    refine .nameRepeated literals helpers
      (fun h member old => untaken h member (List.mem_append_right _ old)) ?_
    obtain ⟨f, inside, rfl⟩ : ∃ f ∈ helpersFor x, f.name = helper :=
      List.mem_map.mp (helpers ▸ List.mem_append_right _ List.mem_cons_self)
    rcases List.mem_append.mp clash with clash | old
    · exact absurd clash (name_notMem_helpersFor other inside)
    · exact old

/-- Lookups with different names that give no module have a first lookup that is refused. -/
theorem of_functionsFrom_eq_error {docs : List (String × String)} {taken : List String}
    {named : List (String × Lookup)} {fault : RenderFault}
    (distinct : (named.map Prod.fst).Nodup)
    (failed : Program.functionsFrom docs taken named = .error fault) :
    ∃ before x after, named = before ++ x :: after ∧ (∀ y ∈ before, Writable taken y) ∧
      Refuses taken x fault := by
  induction named generalizing taken with
  | nil => cases failed
  | cons first rest ih =>
    obtain ⟨name, l⟩ := first
    rw [List.map_cons, List.nodup_cons] at distinct
    obtain ⟨fresh, distinct⟩ := distinct
    have other {x : String × Lookup} (member : x ∈ rest) : x.1 ≠ name :=
      fun same => fresh (List.mem_map.mpr ⟨x, member, same⟩)
    rw [Program.functionsFrom, ← helpersFor.eq_1 (name, l)] at failed
    split at failed
    · rename_i cause found
      obtain ⟨v, inside, at_v⟩ := List.exists_of_findSome?_eq_some found
      cases failed
      exact ⟨[], (name, l), rest, rfl, List.forall_mem_nil _, .noLiteral inside at_v⟩
    · rename_i literals
      have literals := List.findSome?_eq_none_iff.mp literals
      split at failed
      · rename_i helper found
        obtain ⟨clash, earlier, later, helpers, untaken⟩ := List.find?_eq_some_iff_append.mp found
        cases failed
        refine ⟨[], (name, l), rest, rfl, List.forall_mem_nil _, .nameRepeated literals helpers ?_ ?_⟩
        · exact fun h member => by simpa using untaken h member
        · exact List.contains_iff_mem.mp clash
      · rename_i untaken
        have writable : Writable taken (name, l) :=
          ⟨literals, fun helper inside =>
            find?_contains_eq_none_iff.mp untaken _ (List.mem_map_of_mem inside)⟩
        obtain ⟨before, x, after, rfl, sound, refuses⟩ := ih distinct (map_eq_error_iff.mp failed)
        refine ⟨(name, l) :: before, x, after, rfl, ?_, ?_⟩
        · refine List.forall_mem_cons.mpr ⟨writable, fun y member => ?_⟩
          exact (Writable.append_iff (other (List.mem_append_left _ member))).mp (sound y member)
        · exact refuses.of_append (other (List.mem_append_right _ List.mem_cons_self))

end KeyTree.Source
