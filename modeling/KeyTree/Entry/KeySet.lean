/-
# Key sets

The checked keys of one lookup. `KeySet.ofValues` is the only place where a
declaration is checked: it pairs the keys with the values in the order given and
reports the first fault. What is built from a key set relies on its keys being
different texts.
-/

import KeyTree.Entry.Classes
import KeyTree.Entry.Fault
import KeyTree.Value.Items

namespace KeyTree

/-! ### Ways of comparing -/

/-- The way in which keys and inputs are compared: by their characters, or a way
that is not known. -/
inductive Comparison where
  | ordinal
  | unknown (given : Value)
  deriving Repr

/-- The name under which a declaration asks for comparison by characters. -/
def Comparison.ordinalName : String := "ordinal"

/-- Whether a value is the name of a known way of comparing. -/
def Comparison.isName (v : Value) : Bool :=
  v.content? = some ordinalName

/-! ### Checked keys -/

/-- The keys of a lookup in declaration order, with the declared type of the
values. -/
structure KeySet where
  entries : List Entry
  valueType : Value := .none
  deriving Repr

namespace KeySet

/-- The number of keys. -/
def size (keys : KeySet) : Nat := keys.entries.length

/-- The lengths that occur among the keys, ascending. -/
def lengths (keys : KeySet) : List Nat :=
  (byLength keys.entries).map Prod.fst

/-- Checks pairs of a key and a value one after the other, given the entries before
them and the index of the first. -/
def checkPairs (mode : Comparison) (earlier : List Entry) (index : Nat) :
    List (Value × Value) → Except BuildFault (List Entry)
  | [] => .ok []
  | (key, value) :: rest =>
    match key.text? with
    | none => .error (.keyNotText index key.typeName)
    | some text =>
      match mode with
      | .unknown given => .error (.unknownMode given)
      | .ordinal =>
        match earlier.find? (·.text.same text) with
        | some e => .error (.duplicateKey text e.index index)
        | none =>
          let entry : Entry := ⟨text, index, value⟩
          (entry :: ·) <$> checkPairs mode (entry :: earlier) (index + 1) rest

/-- The key set of a list of keys and a list of values. -/
def ofLists (mode : Comparison) (valueType : Value) (keys values : List Value) :
    Except BuildFault KeySet :=
  if keys.length ≠ values.length then .error (.countMismatch keys.length values.length)
  else if keys.isEmpty then .error .noKeys
  else (⟨·, valueType⟩) <$> checkPairs mode [] 0 (keys.zip values)

/-- The items of a collection. -/
def itemsOf (v : Value) : Except BuildFault (List Value) :=
  v.items.mapError .items

/-- The key set of two collections. -/
def ofValues (mode : Comparison) (valueType keys values : Value) : Except BuildFault KeySet :=
  match keys, values with
  | .none, _ => .error .absent
  | _, .none => .error .absent
  | keys, values =>
    match itemsOf keys with
    | .error fault => .error fault
    | .ok keys =>
      match itemsOf values with
      | .error fault => .error fault
      | .ok values => ofLists mode valueType keys values

end KeySet

end KeyTree
