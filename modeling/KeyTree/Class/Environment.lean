/-
# Naming classes

How a text names a class. A name without a dot is looked up among the builtins. Of a
dotted name the longest part in front that can be imported is the module, and the
rest leads from it through attributes. Where an attribute is missing, the search goes
on from the absent object. Modules run when they are imported, and objects may run when an
attribute is read: on the way a text may be printed, files may change, and an exception may
be raised.

* `Entity`, `Raised`, `Environment` — what a name can lead to, what can be raised on the way,
  and what can be imported.
* `Environment.resolve` — the class that a value names; `Environment.namesOf` — the names that
  are looked up in modules to find it.
* `Environment.printedBy`, `Environment.touchedBy` — what is printed and what becomes of the
  files when names are looked up.
* `Environment.reach` — what attributes lead to that must all be there.
* `ClassNameFault` — why a value names no class.
-/

import KeyTree.Files.System
import KeyTree.Text.Parts
import KeyTree.Value.Access
import KeyTree.Value.Display

namespace KeyTree

/-- What a name can lead to: a module, a class, another object of a class, or the
absent object. -/
inductive Entity where
  | module (name : String)
  | cls (c : ClassName)
  | object (c : ClassName)
  | absent
  deriving DecidableEq, Repr, Inhabited

/-- What goes wrong when an attribute is asked of an object that has none of this name. -/
def Entity.lacking (attr : String) : Entity → AccessFault
  | .module m => .moduleLacks m attr
  | .cls c => c.lacking attr
  | .object c => .objectLacks c.last attr
  | .absent => .objectLacks (Value.typeName .none) attr

/-- The exceptions that are told apart: errors about a value, other errors, and exits, which are
no errors. -/
inductive ExceptionKind where
  | valueError
  | error
  | exit
  deriving DecidableEq, Repr

/-- An exception that a module raises when it is imported, or an object when an attribute is
read. That a module or an attribute is missing is none. -/
structure Raised where
  kind : ExceptionKind
  message : String
  deriving DecidableEq, Repr

/-- An exception that is an exit. -/
def Raised.exit? (exception : Raised) : Option Raised :=
  if exception.kind = .exit then some exception else none

/-- Whether modules can be imported, and the attributes of all objects. -/
structure Environment where
  importable : String → Except Raised Bool
  attribute? : Entity → String → Except Raised (Option Entity)
  /-- What is printed when a name with a dot is looked up, after others have been. -/
  printed : List String → String → String := fun _ _ => ""
  /-- What becomes of the files when a name with a dot is looked up, after others have been. -/
  touched : List String → String → FileSystem → FileSystem := fun _ _ fs => fs

/-- The reasons why a value names no class. -/
inductive ClassNameFault where
  /-- The value is no text, or it is empty. -/
  | notName (given : Value)
  /-- The name leads to something else than a class, or to nothing. -/
  | notClass (name : String)
  /-- The name starts with a dot, so that the module in front has no name. -/
  | emptyModule
  /-- The module in front starts with a dot. -/
  | relativeModule (module : String)
  /-- A module or an object raises an exception. -/
  | raised (exception : Raised)
  deriving Repr

/-- The wording of a fault. -/
def ClassNameFault.message : ClassNameFault → String
  | .notName given => "Type name must be a non-empty string, got " ++ given.display
  | .notClass name => "'" ++ name ++ "' does not name a class"
  | .emptyModule => "Empty module name"
  | .relativeModule module =>
    "the 'package' argument is required to perform a relative import for " ++ Text.quote module
  | .raised exception => exception.message

/-- Whether a fault is an error about the value. -/
def ClassNameFault.isValueError : ClassNameFault → Bool
  | .relativeModule _ => false
  | .raised exception => exception.kind = .valueError
  | _ => true

/-- The parts of a name between its dots. -/
def dottedParts (name : String) : List String := (Text.parts '.' name.toList).map String.ofList

/-- Parts put together with dots between them. -/
def joinDots (parts : List String) : String := String.intercalate "." parts

namespace Environment

/-- Follows attributes from an object. A missing attribute leads to the absent
object. -/
def follow (env : Environment) (e : Entity) : List String → Except Raised Entity
  | [] => .ok e
  | name :: rest =>
    match env.attribute? e name with
    | .error exception => .error exception
    | .ok next => follow env (next.getD .absent) rest

variable (env : Environment)

/-- What a dotted name leads to, when its module is among the first `count` of the
parts. The longest module that can be imported wins. -/
def followLongest (parts : List String) : Nat → Except ClassNameFault Entity
  | 0 => .ok .absent
  | count + 1 =>
    let module := joinDots (parts.take (count + 1))
    if module.isEmpty then .error .emptyModule
    else if module.toList.head? = some '.' then .error (.relativeModule module)
    else
      match env.importable module with
      | .error exception => .error (.raised exception)
      | .ok true => (env.follow (.module module) (parts.drop (count + 1))).mapError .raised
      | .ok false => followLongest parts count

/-- What a name leads to. -/
def find (name : String) : Except ClassNameFault Entity :=
  match dottedParts name with
  | [single] => (env.follow (.module "builtins") [single]).mapError .raised
  | parts => env.followLongest parts (parts.length - 1)

/-- The class of a name. -/
def classOfName (name : String) : Except ClassNameFault ClassName :=
  match env.find name with
  | .error fault => .error fault
  | .ok (.cls c) => .ok c
  | .ok _ => .error (.notClass name)

/-- The class that a value names. -/
def resolve (given : Value) : Except ClassNameFault ClassName :=
  match given.content? with
  | none => .error (.notName given)
  | some name => if name.isEmpty then .error (.notName given) else env.classOfName name

/-! ### What looking names up leaves behind -/

/-- The name that is looked up in modules to find the class that a value names: one with a
dot. -/
def namesOf (given : Value) : List String :=
  match given.content? with
  | none => []
  | some name => if 1 < (dottedParts name).length then [name] else []

/-- What is printed when names are looked up, one after the other, after some others. -/
def printedBy (before : List String) : List String → String
  | [] => ""
  | name :: rest => env.printed before name ++ printedBy (before ++ [name]) rest

/-- The file system after names have been looked up, one after the other, after some others. -/
def touchedBy (before : List String) : List String → FileSystem → FileSystem
  | [], fs => fs
  | name :: rest, fs => touchedBy (before ++ [name]) rest (env.touched before name fs)

/-! ### Attributes that must be there -/

/-- Why attributes lead to nothing. -/
inductive AttributeFault where
  /-- The object has no such attribute. -/
  | missing (owner : Entity) (name : String)
  /-- Reading an attribute raises an exception. -/
  | raised (exception : Raised)
  deriving DecidableEq, Repr

/-- What attributes lead to from an object, one after the other. -/
def reach (e : Entity) : List String → Except AttributeFault Entity
  | [] => .ok e
  | name :: rest =>
    match env.attribute? e name with
    | .error exception => .error (.raised exception)
    | .ok none => .error (.missing e name)
    | .ok (some next) => reach next rest

end Environment

end KeyTree
