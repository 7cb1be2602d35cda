/-
# Names that declarations look up

Building the lookups of a declaration file looks names up in modules for one reason only: a lookup
declares its values with classes, and one of them is a name with a dot.

* `DeclarationFile.Seeks` — a file declares a value that is looked up in modules.
* `DeclarationFile.seeks_of_mem_lookedUp` — where a name comes from that is looked up.
-/

import KeyTree.Proofs.Declaration.Conformity

namespace KeyTree

/-- What is left behind has been left behind by one of the steps. -/
theorem exists_of_mem_traceOf {α β γ ε : Type} {step : α → Except ε β} {trace : α → List γ}
    {items : List α} {y : γ} (member : y ∈ traceOf step trace items) :
    ∃ a ∈ items, y ∈ trace a := by
  induction items with
  | nil => cases member
  | cons a rest ih =>
    unfold traceOf at member
    split at member
    · rcases List.mem_append.mp member with here | later
      · exact ⟨a, List.mem_cons_self, here⟩
      · obtain ⟨b, inside, left⟩ := ih later
        exact ⟨b, List.mem_cons_of_mem a inside, left⟩
    · exact ⟨a, List.mem_cons_self, member⟩

/-- A value is looked up by the name that is its text, when that has a dot. -/
theorem Environment.mem_namesOf_iff {v : Value} {name : String} :
    name ∈ Environment.namesOf v ↔ v.content? = some name ∧ 1 < (dottedParts name).length := by
  unfold Environment.namesOf
  cases content : v.content? with
  | none => simp
  | some text =>
    dsimp only
    split
    · next dotted =>
      constructor
      · intro member
        obtain rfl := List.mem_singleton.mp member
        exact ⟨rfl, dotted⟩
      · rintro ⟨same, -⟩
        exact List.mem_singleton.mpr (Option.some.inj same).symm
    · next plain =>
      constructor
      · intro member
        cases member
      · rintro ⟨same, dotted⟩
        rw [← Option.some.inj same] at dotted
        exact absurd dotted plain

namespace DeclarationFile

variable {env : Environment} {file : DeclarationFile} {name : String}

/-- `file.Seeks name`: a lookup of a file declares its values with classes, and one of them is this
name, which has a dot. -/
def Seeks (file : DeclarationFile) (name : String) : Prop :=
  ∃ fields ∈ file.lookups,
    ValueKind.ofValue (fields.getD "value_type" (.str ValueKind.any.name)) = .ok .type ∧
    ∃ given items, Value.field? fields "values" = some given ∧ given.items = .ok items ∧
      ∃ v ∈ items, v.content? = some name ∧ 1 < (dottedParts name).length

/-- A name that is looked up is declared. -/
theorem seeks_of_mem_lookedUp (member : name ∈ file.lookedUp env) : file.Seeks name := by
  obtain ⟨fields, declared, member⟩ := exists_of_mem_traceOf member
  refine ⟨fields, declared, ?_⟩
  unfold namesOfFields at member
  dsimp only at member
  split at member
  · next names traced =>
    obtain ⟨kind, known, traced⟩ := bind_eq_ok_iff.mp traced
    obtain ⟨given, required, traced⟩ := bind_eq_ok_iff.mp traced
    obtain ⟨items, yields, traced⟩ := bind_eq_ok_iff.mp traced
    obtain ⟨_, -, traced⟩ := bind_eq_ok_iff.mp traced
    cases traced
    obtain ⟨v, inside, left⟩ := exists_of_mem_traceOf member
    -- Only the type of classes leaves anything behind.
    cases kind with
    | type =>
      exact ⟨mapError_eq_ok_iff.mp known, given, items,
        requiredField_eq_ok_iff.mp required, mapError_eq_ok_iff.mp yields, v, inside,
        Environment.mem_namesOf_iff.mp left⟩
    | any | bool | float | int | str => cases left
  · cases member

end DeclarationFile

end KeyTree
