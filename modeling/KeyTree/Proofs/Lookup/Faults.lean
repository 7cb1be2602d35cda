/-
# Keys and values without a lookup

Keys that are texts and values fail to make a lookup for one of three reasons: there are not as
many values as keys, there are no keys, or a key has the content of an earlier one. The tree of
different keys is always built.

* `BuildFault.OfKeys` — the three faults.
* `Declared.ofKeys_of_lookup` — listed keys and values have no other fault.
-/

import KeyTree.Proofs.Lookup.Recall
import KeyTree.Proofs.Outcome

namespace KeyTree

/-- The faults of keys and values that make no key set. -/
inductive BuildFault.OfKeys : BuildFault → Prop where
  | countMismatch (keys values : Nat) : OfKeys (.countMismatch keys values)
  | noKeys : OfKeys .noKeys
  | duplicateKey (text : Text) (first second : Int) : OfKeys (.duplicateKey text first second)

/-- Pairs whose keys are texts fail the check by a repeated key. -/
theorem KeySet.ofKeys_of_checkPairs {earlier : List Entry} {index : Nat}
    {pairs : List (Text × Value)} {fault : BuildFault}
    (failed : checkPairs .ordinal earlier index (pairs.map declaredPair) = .error fault) :
    fault.OfKeys := by
  induction pairs generalizing earlier index with
  | nil => cases failed
  | cons p rest ih =>
    simp only [List.map_cons, declaredPair, checkPairs, text?_toValue] at failed
    split at failed
    · cases failed
      exact .duplicateKey _ _ _
    · cases later : checkPairs .ordinal (⟨p.1, index, p.2⟩ :: earlier) (index + 1)
          (rest.map declaredPair) with
      | error fault' =>
        rw [later] at failed
        cases failed
        exact ih later
      | ok entries =>
        rw [later] at failed
        cases failed

namespace Declared

variable {d : Declared} {keys : List Text} {values : List Value}

/-- Listed keys and values that make no lookup have a fault of their own, if their type can be
looked up. -/
theorem ofKeys_of_lookup (lists : d.Lists keys values) (hashable : d.valueType.unhashable? = none)
    {fault : BuildFault} (failed : d.lookup = .error fault) : fault.OfKeys := by
  rcases bind_eq_error_iff.mp failed with failed | ⟨ks, made, failed⟩
  · rw [keySet, lists.ordinal, ofValues_eq_ofLists lists.keysListed lists.valuesListed,
      KeySet.ofLists] at failed
    split at failed
    · cases failed
      exact .countMismatch _ _
    · split at failed
      · cases failed
        exact .noKeys
      · have raw : (keys.map Text.toValue).zip values = (keys.zip values).map declaredPair := by
          rw [List.zip_map_left]
          rfl
        rw [raw] at failed
        exact KeySet.ofKeys_of_checkPairs (map_eq_error_iff.mp failed)
  · -- A key set comes from checked keys, whose tree is built.
    obtain ⟨keys', values', lists', checked, -⟩ := of_keySet made
    obtain ⟨rfl, rfl⟩ := lists.unique lists'
    obtain ⟨t, -, built⟩ := lookup_eq_ok lists checked hashable
    obtain ⟨ks', made', built⟩ := bind_eq_ok_iff.mp built
    cases made.symm.trans made'
    cases failed.symm.trans built

end Declared

end KeyTree
