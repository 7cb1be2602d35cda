/-
# Literals

The expression of the generated source that denotes a value. Scalars are written
as they are shown; a class is written by its name, after its module unless that is
the builtin one, and a member of an enumeration by its class and its own name.
Other values have no literal: collections, strings of bytes, infinities, instances
of derived classes, and classes that are local to a function.

* `Value.literalFault?` — why a value has no literal; `Value.literalText` — the literal
  of a value that has one; `Value.literal` — both in one.
* `Value.importedModule?` — the module that has to be imported for a literal.
-/

import KeyTree.Value.Display

namespace KeyTree

/-- What has no literal: a value, or the class of an enumeration, which may be one of flags. A
value that cannot be shown at all has none either. -/
inductive LiteralFault where
  | value (v : Value)
  | enumeration (flags : Bool) (c : ClassName)
  | tooLong
  deriving Repr

/-- The fault of a value. -/
def LiteralFault.ofValue (v : Value) : LiteralFault :=
  if v.isTooLong then .tooLong else .value v

/-- The message about something that has no literal, by its written form and its type. -/
def noLiteralMessage (shown typeName : String) : String :=
  "Cannot render value " ++ shown ++ " of type " ++ typeName ++ " as a source literal"

/-- The wording of a fault. -/
def LiteralFault.message : LiteralFault → String
  | .value v => noLiteralMessage v.display v.typeName
  | .enumeration flags c =>
    noLiteralMessage (c.displayEnumeration flags) ClassName.enumTypeClass.last
  | .tooLong => Value.tooLongMessage

/-- Whether some characters occur one after the other within others. -/
def occursIn (part : List Char) : List Char → Bool
  | [] => part.isEmpty
  | c :: rest => part.isPrefixOf (c :: rest) || occursIn part rest

namespace ClassName

/-- Whether the class is defined inside a function. -/
def isLocal (c : ClassName) : Bool := occursIn "<locals>".toList c.qualname.toList

/-- The expression that denotes a class. -/
def reference (c : ClassName) : String :=
  if c.module = "builtins" then c.qualname else c.module ++ "." ++ c.qualname

/-- The module that has to be imported for the expression. -/
def importedModule? (c : ClassName) : Option String :=
  if c.module = "builtins" then none else some c.module

end ClassName

/-- Whether the members of an enumeration are sets of flags. -/
def EnumKind.isFlags : EnumKind → Bool
  | .flag => true
  | .integerFlag => true
  | _ => false

namespace Value

/-- Why a value has no literal, if it has none. -/
def literalFault? : Value → Option LiteralFault
  | .none => Option.none
  | .bool _ => Option.none
  | .int n => if (Value.int n).isTooLong then some .tooLong else Option.none
  | .str _ => Option.none
  | .float x => if x.isFinite then Option.none else some (.value (.float x))
  | .member c kind _ _ =>
    if c.isLocal then some (.enumeration kind.isFlags c) else Option.none
  | .cls c => if c.isLocal then some (.value (.cls c)) else Option.none
  | other => some (.ofValue other)

/-- The literal of a value that has one. -/
def literalText : Value → String
  | .member c _ name _ => c.reference ++ "." ++ name
  | .cls c => c.reference
  | scalar => scalar.display

/-- The literal of a value, or why there is none. -/
def literal (v : Value) : Except LiteralFault String :=
  match v.literalFault? with
  | some fault => .error fault
  | Option.none => .ok v.literalText

/-- The class that the literal of a value names. -/
def namedClass? : Value → Option ClassName
  | .member c _ _ _ => some c
  | .cls c => some c
  | _ => Option.none

/-- The module that has to be imported for the literal of a value. -/
def importedModule? (v : Value) : Option String :=
  v.namedClass? >>= ClassName.importedModule?

end Value

/-- Puts a text into an ascending list of different texts. -/
def insertSorted (s : String) : List String → List String
  | [] => [s]
  | t :: rest =>
    if s = t then t :: rest
    else if s < t then s :: t :: rest
    else t :: insertSorted s rest

/-- The modules to import for the literals of values, ascending and each once, in
addition to some that are imported already. -/
def importedModules (already : List String) (values : List Value) : List String :=
  (already ++ values.filterMap Value.importedModule?).foldr insertSorted []

end KeyTree
