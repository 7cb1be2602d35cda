/-
# Building lookups

From a declaration to its lookup: the keys are checked, the tree is built, and the
declared value type decides the value reported on a miss.

* `Lookup.ofKeySet` — the lookup of checked keys.
* `Declared` — what is declared; `Declared.lookup` — its lookup.
* `Declared.notices` — what there is to report while the lookup is built.
-/

import KeyTree.Lookup.Basic
import KeyTree.Tree.OfEntries
import KeyTree.Value.Kind

namespace KeyTree

/-- Keys and values with a declared value type, a way of comparing and a name, none
of them checked. -/
structure Declared where
  keys : Value
  values : Value
  valueType : Value := .none
  comparison : Comparison := .ordinal
  name : Value := .none
  deriving Repr

/-- The lookup of checked keys under a name. -/
def Lookup.ofKeySet (keys : KeySet) (name : Value) : Except BuildFault Lookup :=
  match keys.tree with
  | .error fault => .error fault
  | .ok root =>
    match keys.valueType.unhashable? with
    | some part => .error (.unhashable part.typeName)
    | none =>
      .ok {
        root
        keyCount := keys.size
        valueType := keys.valueType
        default := missValue keys.valueType
        name }

namespace Declared

/-- The checked keys of a declaration. -/
def keySet (d : Declared) : Except BuildFault KeySet :=
  KeySet.ofValues d.comparison d.valueType d.keys d.values

/-- The lookup of a declaration. -/
def lookup (d : Declared) : Except BuildFault Lookup :=
  d.keySet >>= (Lookup.ofKeySet · d.name)

end Declared

/-! ### Notices -/

/-- Something worth reporting while lookups are built and written. -/
inductive Notice where
  | keysChecked (keys : Nat)
  | lookupBuilt (name : String) (keys : Int) (lengths depth nodes : Nat)
  | lookupsRendered (count : Nat)

/-- The wording of a notice. -/
def Notice.message : Notice → String
  | .keysChecked keys =>
    "Normalized " ++ toString keys ++ " key(s) in " ++ Comparison.ordinalName ++ " mode"
  | .lookupBuilt name keys lengths depth nodes =>
    "Built matcher " ++ name ++ ": " ++ toString keys ++ " key(s), " ++ toString lengths
      ++ " length(s), depth " ++ toString depth ++ ", " ++ toString nodes ++ " node(s)"
  | .lookupsRendered count => "Rendered " ++ toString count ++ " lookup function(s)"

/-- How a notice calls a lookup that may have no name. -/
def Lookup.calledName (l : Lookup) : String :=
  if l.name.isTruthy then l.name.print else "<anonymous>"

/-- The notice of a finished lookup. -/
def Lookup.builtNotice (keys : KeySet) (l : Lookup) : Notice :=
  .lookupBuilt l.calledName l.keyCount keys.lengths.length l.depth l.nodeCount

/-- What there is to report while the lookup of a declaration is built. -/
def Declared.notices (d : Declared) : List Notice :=
  match d.keySet with
  | .error _ => []
  | .ok keys =>
    .keysChecked keys.size ::
      match Lookup.ofKeySet keys d.name with
      | .error _ => []
      | .ok l => [l.builtNotice keys]

end KeyTree
