/-
# Attributes asked of the wrong object

What goes wrong when a value that is neither a dictionary nor a text is used like one. A class
has the methods of its instances too, but there they want the instance as an argument.

* `AccessFault` — what goes wrong.
* `Value.fieldFault` — a field of a dictionary is asked of a value that is none.
* `Value.identifierFault` — a value that is no text is asked whether it is an identifier.
-/

import KeyTree.Value.Basic

namespace KeyTree

/-- What goes wrong when a method of an object is used. -/
inductive AccessFault where
  /-- An object of the class has no such attribute. -/
  | objectLacks (className attr : String)
  /-- The module has no such attribute. -/
  | moduleLacks (module attr : String)
  /-- The class has no such attribute. -/
  | classLacks (className attr : String)
  /-- The enumeration has no such member. -/
  | memberMissing (member : String)
  /-- The method of a class is used on an object of another one. -/
  | wrongObject (className method given : String)
  /-- The method of a class is used without an object. -/
  | objectMissing (className method : String)
  /-- The method is used without one of its arguments. -/
  | argumentMissing (className method argument : String)
  /-- A text is read at a place that is no number. -/
  | notPosition (typeName : String)
  deriving DecidableEq, Repr

namespace AccessFault

/-- The wording of a fault. -/
def message : AccessFault → String
  | .objectLacks className attr =>
    "'" ++ className ++ "' object has no attribute '" ++ attr ++ "'"
  | .moduleLacks module attr => "module '" ++ module ++ "' has no attribute '" ++ attr ++ "'"
  | .classLacks className attr =>
    "type object '" ++ className ++ "' has no attribute '" ++ attr ++ "'"
  | .memberMissing member => member
  | .wrongObject className method given =>
    "descriptor '" ++ method ++ "' for '" ++ className ++ "' objects doesn't apply to a '"
      ++ given ++ "' object"
  | .objectMissing className method =>
    "unbound method " ++ className ++ "." ++ method ++ "() needs an argument"
  | .argumentMissing className method argument =>
    className ++ "." ++ method ++ "() missing 1 required positional argument: '" ++ argument
      ++ "'"
  | .notPosition typeName => "string indices must be integers, not '" ++ typeName ++ "'"

/-- Whether the attribute is missing, and not misused. -/
def isMissing : AccessFault → Bool
  | .objectLacks _ _ => true
  | .moduleLacks _ _ => true
  | .classLacks _ _ => true
  | .memberMissing _ => true
  | _ => false

end AccessFault

namespace ClassName

/-- What goes wrong when an attribute is asked of a class that has none of this name. -/
def lacking (attr : String) (c : ClassName) : AccessFault :=
  if c.isEnumeration then .memberMissing attr else .classLacks c.spokenName attr

/-- The classes whose method for fields takes dictionaries of their own kind only. -/
def dictionaryClasses : List ClassName := [.builtin "dict", .builtin "mappingproxy"]

/-- What goes wrong when a field of a dictionary is asked of a class, with an alternative of a
type. The name of the field stands in for the dictionary. -/
def fieldFault (alternative : String) (c : ClassName) : AccessFault :=
  match c.lineage.find? dictionaryClasses.contains with
  | some owner => .wrongObject owner.last "get" "str"
  | none =>
    if c.isOrExtends ⟨"collections.abc", "Mapping"⟩ then .notPosition alternative
    else if c = ⟨"lookupgen.matching.engine", "Matcher"⟩ then .objectLacks "str" "lookup"
    else c.lacking "get"

/-- What goes wrong when a class is asked whether it is an identifier. -/
def identifierFault (c : ClassName) : AccessFault :=
  if c.isOrExtends (.builtin "str") then .objectMissing "str" "isidentifier"
  else if c.isOrExtends ⟨"collections", "UserString"⟩ then
    .argumentMissing "UserString" "isidentifier" "self"
  else c.lacking "isidentifier"

end ClassName

namespace Value

/-- What goes wrong when a field of a dictionary is asked of a value that is no dictionary, with
an alternative of a type. -/
def fieldFault (alternative : String) : Value → AccessFault
  | .cls c => c.fieldFault alternative
  | other => .objectLacks other.typeName "get"

/-- What goes wrong when a value that is no text is asked whether it is an identifier. -/
def identifierFault : Value → AccessFault
  | .cls c => c.identifierFault
  | other => .objectLacks other.typeName "isidentifier"

end Value

end KeyTree
