/-
# Outcomes of computations that can fail

What a computation that succeeds has done step by step: each step has succeeded, and the result
is that of the last step. A computation that fails does so by its first step that fails.
-/

import Mathlib.Data.List.Forall2

namespace KeyTree

variable {ε ε' α β : Type}

/-- Two steps succeed when the first does and the second does with its result. -/
theorem bind_eq_ok_iff {x : Except ε α} {f : α → Except ε β} {b : β} :
    x >>= f = .ok b ↔ ∃ a, x = .ok a ∧ f a = .ok b := by
  cases x with
  | error fault => simp [bind, Except.bind]
  | ok a => simp [bind, Except.bind]

/-- A mapped result comes from a result. -/
theorem map_eq_ok_iff {x : Except ε α} {f : α → β} {b : β} :
    f <$> x = .ok b ↔ ∃ a, x = .ok a ∧ f a = b := by
  cases x with
  | error fault => simp [Functor.map, Except.map]
  | ok a => simp [Functor.map, Except.map]

/-- Faults in other words leave the results alone. -/
theorem mapError_eq_ok_iff {x : Except ε α} {f : ε → ε'} {a : α} :
    x.mapError f = .ok a ↔ x = .ok a := by
  cases x with
  | error fault => simp [Except.mapError]
  | ok b => simp [Except.mapError]

/-- A computation whose result passes a test has one. -/
theorem exists_of_any_toOption {x : Except ε α} {p : α → Bool} (passes : x.toOption.any p = true) :
    ∃ a, x = .ok a ∧ p a = true := by
  cases x with
  | error fault => cases passes
  | ok a => exact ⟨a, rfl, passes⟩

/-- The results of a step for each item belong to the items one by one. -/
theorem forall₂_of_mapM_eq_ok {f : α → Except ε β} {items : List α} {results : List β}
    (made : items.mapM f = .ok results) : List.Forall₂ (fun a b => f a = .ok b) items results := by
  induction items generalizing results with
  | nil =>
    rw [List.mapM_nil] at made
    cases made
    exact .nil
  | cons a rest ih =>
    rw [List.mapM_cons] at made
    obtain ⟨b, first, made⟩ := bind_eq_ok_iff.mp made
    obtain ⟨others, later, made⟩ := bind_eq_ok_iff.mp made
    cases made
    exact .cons first (ih later)

/-- An item of a list has a counterpart in a related list. -/
theorem exists_of_forall₂ {R : α → β → Prop} {items : List α} {results : List β}
    (related : List.Forall₂ R items results) {a : α} (member : a ∈ items) :
    ∃ b ∈ results, R a b := by
  induction related with
  | nil => cases member
  | cons first _ ih =>
    rcases List.mem_cons.mp member with rfl | later
    · exact ⟨_, List.mem_cons_self, first⟩
    · obtain ⟨b, inside, holds⟩ := ih later
      exact ⟨b, List.mem_cons_of_mem _ inside, holds⟩

/-! ### Failures -/

/-- Two steps fail when the first does, or when the second does with its result. -/
theorem bind_eq_error_iff {x : Except ε α} {f : α → Except ε β} {fault : ε} :
    x >>= f = .error fault ↔ x = .error fault ∨ ∃ a, x = .ok a ∧ f a = .error fault := by
  cases x with
  | error fault => simp [bind, Except.bind]
  | ok a => simp [bind, Except.bind]

/-- A mapped result fails as the result does. -/
theorem map_eq_error_iff {x : Except ε α} {f : α → β} {fault : ε} :
    f <$> x = .error fault ↔ x = .error fault := by
  cases x with
  | error fault => simp [Functor.map, Except.map]
  | ok a => simp [Functor.map, Except.map]

/-- A fault in other words comes from a fault. -/
theorem mapError_eq_error_iff {x : Except ε α} {f : ε → ε'} {fault : ε'} :
    x.mapError f = .error fault ↔ ∃ cause, x = .error cause ∧ f cause = fault := by
  cases x with
  | error cause => simp [Except.mapError]
  | ok b => simp [Except.mapError]

/-- A step for each item fails as it does for the first item at fault. -/
theorem mapM_eq_error_iff {f : α → Except ε β} {items : List α} {fault : ε} :
    items.mapM f = .error fault ↔ ∃ before a after, items = before ++ a :: after ∧
      (∀ b ∈ before, ∃ r, f b = .ok r) ∧ f a = .error fault := by
  induction items with
  | nil =>
    rw [List.mapM_nil]
    constructor
    · intro failed
      cases failed
    · rintro ⟨before, a, after, split, -⟩
      simp at split
  | cons first rest ih =>
    rw [List.mapM_cons, bind_eq_error_iff]
    constructor
    · rintro (failed | ⟨r, made, failed⟩)
      · exact ⟨[], first, rest, rfl, by simp, failed⟩
      · rcases bind_eq_error_iff.mp failed with failed | ⟨_, -, failed⟩
        · obtain ⟨before, a, after, rfl, sound, at_a⟩ := ih.mp failed
          refine ⟨first :: before, a, after, rfl, ?_, at_a⟩
          exact List.forall_mem_cons.mpr ⟨⟨r, made⟩, sound⟩
        · cases failed
    · rintro ⟨before, a, after, split, sound, failed⟩
      cases before with
      | nil =>
        obtain ⟨rfl, -⟩ := List.cons.inj split
        exact .inl failed
      | cons b before =>
        obtain ⟨rfl, tail⟩ := List.cons.inj split
        obtain ⟨⟨r, made⟩, sound⟩ := List.forall_mem_cons.mp sound
        refine .inr ⟨r, made, bind_eq_error_iff.mpr (.inl ?_)⟩
        exact ih.mpr ⟨before, a, after, tail, sound, failed⟩

end KeyTree
