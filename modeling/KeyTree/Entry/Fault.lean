/-
# Faults of a declaration

Why no lookup can be built from a declaration. A declaration at fault gives no
lookup at all; a lookup that has been built never fails on account of its keys.
-/

import KeyTree.Entry.Basic
import KeyTree.Value.Display
import KeyTree.Value.Items

namespace KeyTree

/-- The reasons why a declaration gives no lookup. -/
inductive BuildFault where
  /-- The keys or the values are absent. -/
  | absent
  /-- The keys or the values are no collection. -/
  | items (fault : ItemsFault)
  /-- There are not as many values as keys. -/
  | countMismatch (keys values : Nat)
  /-- There are no keys. -/
  | noKeys
  /-- A key is not a string. -/
  | keyNotText (index : Nat) (typeName : String)
  /-- The way of comparing asked for is unknown. -/
  | unknownMode (given : Value)
  /-- Two keys have the same text. -/
  | duplicateKey (text : Text) (first second : Int)
  /-- The first key of a group is asked for that has none. -/
  | emptyGroup
  /-- A key was read beyond its end. -/
  | read (fault : ReadFault)
  /-- The declared value type cannot be looked up among the known types. -/
  | unhashable (typeName : String)
  deriving Repr

/-- The wording of a fault. -/
def BuildFault.message : BuildFault → String
  | .absent => "keys and values must not be None"
  | .items fault => fault.message
  | .countMismatch keys values =>
    "Got " ++ toString keys ++ " key(s) but " ++ toString values ++ " value(s)"
  | .noKeys => "Cannot build a matcher from an empty key set"
  | .keyNotText index typeName =>
    "Key at index " ++ toString index ++ " must be a string, got " ++ typeName
  | .unknownMode given => "Unsupported comparison mode: " ++ given.print
  | .duplicateKey text first second =>
    "Duplicate key " ++ text.display ++ " at indices " ++ toString first ++ " and "
      ++ toString second
  | .emptyGroup => "list index out of range"
  | .read fault => fault.message
  | .unhashable typeName => "unhashable type: '" ++ typeName ++ "'"

end KeyTree
