/-
# Declared value types

The six types that a declaration can give its values, the class each stands for,
and the value that a lookup reports when it finds nothing.

* `ValueKind` — the types; `ValueKind.ofName?` and `ValueKind.name` — their names.
* `ValueKind.ofValue` — the type that a value names, or why it names none.
* `missValue` — the value reported on a miss for a declared type.
-/

import KeyTree.Value.Display
import KeyTree.Value.Equality

namespace KeyTree

/-- The types that a declaration can give its values. -/
inductive ValueKind where
  | any
  | bool
  | float
  | int
  | str
  | type
  deriving DecidableEq, Repr

namespace ValueKind

/-- All types, in the order of their names. -/
def all : List ValueKind := [.any, .bool, .float, .int, .str, .type]

/-- The name of a type. -/
def name : ValueKind → String
  | .any => "any"
  | .bool => "bool"
  | .float => "float"
  | .int => "int"
  | .str => "str"
  | .type => "type"

/-- The type of a name. -/
def ofName? (s : String) : Option ValueKind :=
  all.find? (·.name = s)

/-- The class that a type stands for. -/
def className : ValueKind → ClassName
  | .any => .builtin "object"
  | .bool => .builtin "bool"
  | .float => .builtin "float"
  | .int => .builtin "int"
  | .str => .builtin "str"
  | .type => .builtin "type"

/-- The value reported on a miss. -/
def missValue : ValueKind → Value
  | .bool => .bool false
  | .float => .float (.zero false)
  | .int => .int 0
  | .str => .str ""
  | .any => .none
  | .type => .none

/-- The names of all types, one after the other. -/
def names : String := commaSeparated (all.map name)

/-- Why a value names no type: it is not the name of one, or it cannot be looked up
among the names. -/
inductive Fault where
  | unknown (given : Value)
  | unhashable (typeName : String)

/-- The wording of a fault. -/
def Fault.message : Fault → String
  | .unknown given =>
    "Unknown value type '" ++ given.print ++ "'. Valid types: " ++ names
  | .unhashable typeName => "unhashable type: '" ++ typeName ++ "'"

/-- The type that a value names. -/
def ofValue (v : Value) : Except Fault ValueKind :=
  match v.unhashable? with
  | some part => .error (.unhashable part.typeName)
  | none =>
    match v.content? >>= ofName? with
    | some kind => .ok kind
    | none => .error (.unknown v)

end ValueKind

/-- The types that have a miss value of their own. -/
def scalarKinds : List ValueKind := [.str, .int, .float, .bool]

/-- The value reported on a miss when the values are declared to be of a type, which
may be any value: the miss value of the scalar type whose class it is, and
otherwise nothing. -/
def missValue (valueType : Value) : Value :=
  match scalarKinds.find? fun kind => (Value.cls kind.className).same valueType with
  | some kind => kind.missValue
  | none => .none

end KeyTree
