/-
# Names of functions

The helpers of a function carry its name between underscores, with a number behind it. The
name of a helper tells the name of its function and the number, and its normal form is that of
a helper again. So no two helpers are the same identifier, however their names are spelt, and
none is that of the function itself.

* `helperName_inj`, `normalForm_helperName` — what the name of a helper tells.
* `isFunctionName_helperName` — helpers have names of functions.
* `map_name_helpersFrom` — the helpers of a queue are numbered one after the other.
* `nodup_normalForm_functionsOf` — the functions of a lookup are different identifiers.
* `function?_eq_some` — a function is found by its name.
-/

import KeyTree.Proofs.Text.NormalForm
import KeyTree.Source.Run
import Mathlib.Data.List.Nodup
import Mathlib.Data.List.Range

namespace KeyTree.Source

open KeyTree.Text

/-! ### Helper names -/

/-- What stands behind the name of the function in the name of a helper. -/
def numberSuffix (number : Nat) : List Char := '_' :: Nat.toDigits 10 number

/-- The characters of the name of a helper. -/
theorem toList_helperName (name : String) (number : Nat) :
    (helperName name number).toList = '_' :: (name.toList ++ numberSuffix number) := by
  simp [helperName, numberSuffix, Nat.toString_eq_repr]

/-- A suffix consists of ASCII characters. -/
theorem ascii_of_mem_numberSuffix {number : Nat} {c : Char} (member : c ∈ numberSuffix number) :
    c.toNat < 0x80 := by
  rcases List.mem_cons.mp member with rfl | member
  · decide
  · have digit := Nat.isDigit_of_mem_toDigits (by decide) (by decide) member
    simp only [Char.isDigit, Bool.and_eq_true, decide_eq_true_eq] at digit
    exact Nat.lt_of_le_of_lt (UInt32.le_iff_toNat_le.mp digit.2) (by decide)

/-- The name of a helper tells the name of its function and its number, which stands behind the
last underscore. -/
theorem helperName_inj {m n : String} {i j : Nat} :
    helperName m i = helperName n j ↔ m = n ∧ i = j := by
  refine ⟨fun same => ?_, fun ⟨names, numbers⟩ => by rw [names, numbers]⟩
  have chars := congrArg (List.reverse ∘ List.tail ∘ String.toList) same
  simp only [Function.comp_apply, toList_helperName, List.tail_cons, numberSuffix,
    List.reverse_append, List.reverse_cons, List.append_assoc, List.singleton_append] at chars
  have number (k : Nat) (rest : List Char) :
      ((Nat.toDigits 10 k).reverse ++ '_' :: rest).takeWhile (· ≠ '_')
        = (Nat.toDigits 10 k).reverse := by
    rw [List.takeWhile_append_of_pos fun c member => ?_]
    · simp
    · refine decide_eq_true ?_
      rintro rfl
      exact Nat.underscore_not_in_toDigits (List.mem_reverse.mp member)
  have numbers : (Nat.toDigits 10 i).reverse = (Nat.toDigits 10 j).reverse := by
    rw [← number i m.toList.reverse, chars, number]
  rw [numbers, List.append_cancel_left_eq, List.cons.injEq] at chars
  have values := congrArg (Nat.ofDigitChars 10 · 0) (List.reverse_inj.mp numbers)
  exact ⟨String.toList_inj.mp (List.reverse_inj.mp chars.2), by simpa using values⟩

/-- The name of a helper may name a function when that of its function may. -/
theorem isFunctionName_helperName {name : String} (valid : isFunctionName name = true)
    (number : Nat) : isFunctionName (helperName name number) = true := by
  have start : isNameStart '_' = true ∧ isNameRest '_' = true := by decide
  have free : ∀ word ∈ reservedWords, word.toList.head? ≠ some '_' := by decide
  have digits : ∀ c ∈ Nat.toDigits 10 number, isNameRest c = true := by
    intro c member
    have digit := Nat.isDigit_of_mem_toDigits (by decide) (by decide) member
    have ascii := ascii_of_mem_numberSuffix (List.mem_cons_of_mem '_' member)
    rw [isNameRest, if_pos ascii, digit, Bool.or_true]
  have inner : ∀ c ∈ name.toList, isNameRest c = true := by
    rw [isFunctionName, Bool.and_eq_true, isIdentifier] at valid
    have identifier := valid.1
    cases chars : name.toList with
    | nil => simp
    | cons c rest =>
      rw [chars] at identifier
      simp only [Bool.and_eq_true, List.all_eq_true] at identifier
      refine List.forall_mem_cons.mpr ⟨?_, identifier.2⟩
      rw [isNameRest, identifier.1, Bool.true_or]
  have unreserved : helperName name number ∉ reservedWords := by
    intro member
    exact free _ member (by rw [toList_helperName, List.head?_cons])
  rw [isFunctionName, isIdentifier, toList_helperName]
  simp only [numberSuffix, List.all_append, List.all_cons, start, Bool.true_and, Bool.and_eq_true,
    List.all_eq_true, Bool.not_eq_true', List.contains_eq_mem, decide_eq_false_iff_not]
  exact ⟨⟨inner, digits⟩, unreserved⟩

/-- The name of a helper is longer than that of its function. -/
theorem helperName_ne (name : String) (number : Nat) : helperName name number ≠ name := by
  intro same
  have length := congrArg (List.length ∘ String.toList) same
  simp only [Function.comp_apply, toList_helperName, numberSuffix, List.length_append,
    List.length_cons] at length
  omega

/-- The name of a helper consists of ASCII characters when that of its function does. -/
theorem ascii_helperName_iff (name : String) (number : Nat) :
    (helperName name number).toList.all (·.toNat < 0x80) = name.toList.all (·.toNat < 0x80) := by
  have suffix : (numberSuffix number).all (·.toNat < 0x80) = true :=
    List.all_eq_true.mpr fun c member => decide_eq_true (ascii_of_mem_numberSuffix member)
  rw [toList_helperName, List.all_cons, List.all_append, suffix, Bool.and_true]
  exact Bool.true_and _

/-- The normal form of the name of a helper is that of a helper of the same number. -/
theorem normalForm_helperName (name : String) (number : Nat) :
    normalForm (helperName name number) = helperName (normalForm name) number := by
  by_cases ascii : name.toList.all (·.toNat < 0x80) = true
  · rw [normalForm_of_ascii (ascii_helperName_iff name number ▸ ascii), normalForm_of_ascii ascii]
  · rw [normalForm_of_not_ascii (ascii_helperName_iff name number ▸ ascii),
      normalForm_of_not_ascii ascii, ← String.toList_inj, String.toList_ofList, toList_helperName,
      toList_helperName, String.toList_ofList, commonForm_underscore_cons,
      commonForm_append fun c member => ascii_of_mem_numberSuffix member]

/-- A helper is another identifier than its function. -/
theorem normalForm_helperName_ne (name : String) (number : Nat) :
    normalForm (helperName name number) ≠ normalForm name := by
  rw [normalForm_helperName]
  exact helperName_ne _ number

/-- The name of a helper keeps its underscores. -/
theorem underscore_mem_normalForm_helperName (name : String) (number : Nat) :
    '_' ∈ (normalForm (helperName name number)).toList := by
  rw [normalForm_helperName, toList_helperName]
  exact List.mem_cons_self

/-- The name of a helper ends in a digit. -/
theorem normalForm_helperName_ne_of_getLast? {s : String} (ends : s.toList.getLast? = some '_')
    (name : String) (number : Nat) : normalForm (helperName name number) ≠ s := by
  rw [normalForm_helperName]
  rintro rfl
  have digits : Nat.toDigits 10 number ≠ [] := Nat.toDigits_ne_nil
  rw [toList_helperName, numberSuffix, List.getLast?_cons, List.getLast?_append,
    List.getLast?_cons, List.getLast?_eq_some_getLast digits] at ends
  have last : (Nat.toDigits 10 number).getLast digits = '_' := by simpa using ends
  exact Nat.underscore_not_in_toDigits (last ▸ List.getLast_mem digits)

/-! ### The functions of a lookup -/

/-- The helpers of a queue are numbered in order, from the next number on. -/
theorem map_name_helpersFrom (name : String) (default : Value) (done : Nat) (queue : List Tree) :
    ∃ count, (helpersFrom name default done queue).map Function.name
      = (List.range' (done + 1) count).map (helperName name) := by
  fun_induction helpersFrom name default done queue with
  | case1 done => exact ⟨0, rfl⟩
  | case2 done t rest block ih =>
    obtain ⟨count, names⟩ := ih
    refine ⟨count + 1, ?_⟩
    rw [List.map_cons, names, List.range'_succ, List.map_cons]

/-- The helpers of a function carry its name. -/
theorem exists_name_of_mem_helpersOf {name : String} {root : Tree} {default : Value} {f : Function}
    (member : f ∈ helpersOf name root default) : ∃ number, f.name = helperName name number := by
  obtain ⟨count, names⟩ := map_name_helpersFrom name default 0 (mainBlock name root).cut
  have named : f.name ∈ (helpersOf name root default).map Function.name :=
    List.mem_map_of_mem member
  rw [helpersOf, names] at named
  obtain ⟨number, -, same⟩ := List.mem_map.mp named
  exact ⟨number, same.symm⟩

/-- The functions of a lookup are different identifiers. -/
theorem nodup_normalForm_functionsOf (name : String) (doc : Option String) (root : Tree)
    (default : Value) :
    ((functionsOf name doc root default).map fun f => normalForm f.name).Nodup := by
  obtain ⟨count, names⟩ := map_name_helpersFrom name default 0 (mainBlock name root).cut
  have helpers : (helpersOf name root default).map (fun f => normalForm f.name)
      = (List.range' 1 count).map fun i => normalForm (helperName name i) := by
    have forms := congrArg (List.map normalForm) names
    rwa [List.map_map, List.map_map] at forms
  rw [functionsOf, List.map_cons, helpers]
  refine List.nodup_cons.mpr ⟨fun member => ?_, ?_⟩
  · obtain ⟨i, -, same⟩ := List.mem_map.mp member
    exact normalForm_helperName_ne name i same
  · refine List.Nodup.map (fun i j same => ?_) List.nodup_range'
    rw [normalForm_helperName, normalForm_helperName] at same
    exact (helperName_inj.mp same).2

/-- A function is found by its name when no other function is the same identifier. -/
theorem function?_eq_some {p : Program} (distinct : p.bound.Nodup) {f : Function}
    (member : f ∈ p.functions) : p.function? f.name = some f := by
  have inside : f ∈ p.functions.reverse := List.mem_reverse.mpr member
  cases found : p.function? f.name with
  | none =>
    have other := List.find?_eq_none.mp found f inside
    exact absurd (decide_eq_true rfl) other
  | some g =>
    have same : normalForm g.name = normalForm f.name := by
      have property := List.find?_some found
      simpa using property
    have known : g ∈ p.functions := List.mem_reverse.mp (List.mem_of_find?_eq_some found)
    exact congrArg some (List.inj_on_of_nodup_map distinct known member same)

end KeyTree.Source
