/-
# Names with a missing part

A name stands for attributes of a module, and leads to a class when each of them is there and the
last one is the class. Where one is missing, the search does not end: it goes on from the absent
object, and what is left of the name leads to a class all the same when the absent object has one
there. This is the only way in which a name leads to a class that it does not denote.

* `Environment.Breaks` — an attribute on the way is missing.
* `Environment.follow_eq_ok_iff` — what attributes lead to, with and without a missing one.
* `resolves_unless_absent` — the classes that names lead to, and the names that lead to none.
* `missing_resolved` — a name with a missing part that leads to a class.
-/

import KeyTree.Proofs.Class.Reference

namespace KeyTree

namespace Environment

variable {env : Environment}

/-! ### Missing attributes -/

/-- `env.Breaks e attributes rest`: of these attributes, one after the other from the object, one is
missing, and the rest stands behind it. -/
inductive Breaks (env : Environment) : Entity → List String → List String → Prop where
  | missing {e : Entity} {name : String} {rest : List String}
      (absent : env.attribute? e name = .ok none) : Breaks env e (name :: rest) rest
  | later {e next : Entity} {name : String} {attributes rest : List String}
      (there : env.attribute? e name = .ok (some next)) (breaks : Breaks env next attributes rest) :
      Breaks env e (name :: attributes) rest

/-- Attributes that are followed somewhere lead there, unless one is missing. -/
theorem exists_breaks_of_reach?_eq_none {e found : Entity} {attributes : List String}
    (leads : env.follow e attributes = .ok found) (nowhere : env.reach? e attributes = none) :
    ∃ rest, env.Breaks e attributes rest := by
  induction attributes generalizing e with
  | nil => cases nowhere
  | cons name others ih =>
    rw [reach?, reach] at nowhere
    rw [follow] at leads
    cases there : env.attribute? e name with
    | error exception =>
      rw [there] at leads
      cases leads
    | ok next =>
      cases next with
      | none => exact ⟨others, .missing there⟩
      | some next =>
        rw [there] at leads nowhere
        obtain ⟨rest, breaks⟩ := ih leads nowhere
        exact ⟨rest, .later there breaks⟩

/-- Behind a missing attribute the search goes on from the absent object. -/
theorem Breaks.follow_eq {e : Entity} {attributes rest : List String}
    (breaks : env.Breaks e attributes rest) :
    env.follow e attributes = env.follow .absent rest := by
  induction breaks with
  | missing absent =>
    rw [follow, absent]
    rfl
  | later there _ ih =>
    rw [follow, there]
    exact ih

/-- Attributes lead to what they reach, or one of them is missing and the absent object leads
there. -/
theorem follow_eq_ok_iff {e found : Entity} {attributes : List String} :
    env.follow e attributes = .ok found ↔
      env.reach? e attributes = some found ∨
        ∃ rest, env.Breaks e attributes rest ∧ env.follow .absent rest = .ok found := by
  constructor
  · intro leads
    cases reached : env.reach? e attributes with
    | some other =>
      rw [follow_of_reach? reached] at leads
      exact .inl (congrArg some (Except.ok.inj leads))
    | none =>
      obtain ⟨rest, breaks⟩ := exists_breaks_of_reach?_eq_none leads reached
      exact .inr ⟨rest, breaks, breaks.follow_eq.symm.trans leads⟩
  · rintro (reached | ⟨rest, breaks, leads⟩)
    · exact follow_of_reach? reached
    · exact breaks.follow_eq.trans leads

/-! ### Names without a class -/

section Names

variable {given : Value} {name : String}

/-- A name leads to a class when it spells attributes that lead there. Each of them is there and the
last one is the class, or one of them is missing and the absent object has the class where the rest
of the name leads. Where a missing attribute leads to something else than a class, the fault is that
the name names none, and where attributes raise an exception, this is the fault. A name that spells
no module in front has a fault too, which is that of a relative module exactly when the name starts
with a dot and holds another one. -/
theorem resolves_unless_absent (env : Environment) (content : given.content? = some name)
    (filled : name ≠ "") :
    (∀ c, env.resolve given = .ok c ↔
      ∃ module attributes, env.Spells name module attributes ∧
        (env.reach? (.module module) attributes = some (.cls c) ∨
          ∃ rest, env.Breaks (.module module) attributes rest ∧
            env.follow .absent rest = .ok (.cls c))) ∧
    (∀ module attributes rest e, env.Spells name module attributes →
      env.Breaks (.module module) attributes rest →
        env.follow .absent rest = .ok e → (∀ c, e ≠ .cls c) →
          env.resolve given = .error (.notClass name)) ∧
    (∀ module attributes exception, env.Spells name module attributes →
      env.follow (.module module) attributes = .error exception →
        env.resolve given = .error (.raised exception)) ∧
    ((∀ module attributes, ¬ env.Spells name module attributes) →
      ∃ fault, env.resolve given = .error fault ∧
        ((∃ module, fault = .relativeModule module) ↔
          ∃ rest, name.toList = '.' :: rest ∧ '.' ∈ rest)) := by
  have leads (c : ClassName) : env.resolve given = .ok c ↔
      ∃ module attributes, env.Spells name module attributes ∧
        env.follow (.module module) attributes = .ok (.cls c) := by
    rw [resolve_eq_ok_iff]
    simp [content, filled]
  refine ⟨fun c => ?_, fun module attributes rest e spells breaks elsewhere other => ?_,
    fun module attributes exception spells raised => ?_, fun unspelt => ?_⟩
  · exact (leads c).trans (exists_congr fun module => exists_congr fun attributes =>
      and_congr_right fun _ => follow_eq_ok_iff)
  · rw [resolve_of_content content filled, classOfName_eq_error_iff]
    refine .inr ⟨rfl, e, ?_, other⟩
    rw [spells.find_eq filled, breaks.follow_eq, elsewhere]
    rfl
  · exact resolve_eq_raised_iff.mpr ⟨name, content, filled, .reading spells raised⟩
  · cases outcome : env.resolve given with
    | ok c =>
      obtain ⟨module, attributes, spells, -⟩ := (leads c).mp outcome
      exact absurd spells (unspelt module attributes)
    | error fault =>
      refine ⟨fault, rfl, ?_⟩
      constructor
      · rintro ⟨module, rfl⟩
        obtain ⟨_, rest, same, starts, more, -⟩ := resolve_eq_relativeModule_iff.mp outcome
        obtain rfl := Option.some.inj (content.symm.trans same)
        exact ⟨rest, starts, more⟩
      · rintro ⟨rest, starts, more⟩
        have relative := (@resolve_eq_relativeModule_iff env given _).mpr
          ⟨name, rest, content, starts, more, rfl⟩
        exact ⟨_, Except.error.inj (outcome.symm.trans relative)⟩

end Names

end Environment

/-! ### A module of one class -/

/-- The environment of one module with one class, in which the absent object has a class as an
attribute. -/
def decimalEnvironment : Environment where
  importable module := .ok (module = "decimal")
  attribute? e name := .ok <|
    if e = .module "decimal" ∧ name = "Decimal" then some (.cls ⟨"decimal", "Decimal"⟩)
    else if e = .absent ∧ name = "__class__" then some (.cls (.builtin "NoneType"))
    else none

namespace Environment

/-- Its class is found by its name, and a name that ends in a missing part names no class. -/
theorem resolves_unless_absent_decimal :
    decimalEnvironment.resolve (.str "decimal.Decimal") = .ok ⟨"decimal", "Decimal"⟩ ∧
      decimalEnvironment.resolve (.str "decimal.Nope") = .error (.notClass "decimal.Nope") := by
  have spells (name part : String) (parts : dottedParts name = ["decimal", part])
      (starts : name.toList.head? ≠ some '.') :
      decimalEnvironment.Spells name "decimal" [part] := by
    have first : joinDots ((dottedParts name).take 1) = "decimal" := by rw [parts]; rfl
    have rest : (dottedParts name).drop 1 = [part] := by rw [parts]; rfl
    have two : (dottedParts name).length = 2 := by rw [parts]; rfl
    have longest : decimalEnvironment.Longest name 1 (.ok true) := by
      refine ⟨starts, Nat.one_pos, by omega, ?_, fun k above inside => absurd inside (by omega)⟩
      rw [first]
      rfl
    have dotted := Spells.dotted longest
    rwa [first, rest] at dotted
  constructor
  · obtain ⟨names, -, -, -⟩ := @resolves_unless_absent (.str "decimal.Decimal") _
      decimalEnvironment rfl (by decide)
    exact (names _).mpr ⟨_, _, spells _ "Decimal" (by decide) (by decide), .inl rfl⟩
  · obtain ⟨-, missing, -, -⟩ := @resolves_unless_absent (.str "decimal.Nope") _
      decimalEnvironment rfl (by decide)
    exact missing _ _ [] .absent (spells _ "Nope" (by decide) (by decide)) (.missing rfl) rfl nofun

/-- A name with a missing part leads to the class of the absent object. -/
theorem missing_resolved :
    decimalEnvironment.Spells "decimal.Nope.__class__" "decimal" ["Nope", "__class__"] ∧
      decimalEnvironment.Breaks (.module "decimal") ["Nope", "__class__"] ["__class__"] ∧
      decimalEnvironment.resolve (.str "decimal.Nope.__class__") = .ok (.builtin "NoneType") := by
  have three : (dottedParts "decimal.Nope.__class__").length = 3 := by decide
  have longest : decimalEnvironment.Longest "decimal.Nope.__class__" 1 (.ok true) := by
    refine ⟨by decide, by decide, by omega, by decide, fun k above inside => ?_⟩
    obtain rfl : k = 2 := by omega
    decide
  exact ⟨.dotted longest, .missing rfl, rfl⟩

end Environment

end KeyTree
