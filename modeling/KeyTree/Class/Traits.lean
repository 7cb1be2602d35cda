/-
# Traits of classes

What is known of a class by itself: the class that it is an instance of, the classes that it
extends, and how it is shown and spoken of.

* `ClassName.classOf` — the class of a class; `ClassName.isEnumeration`, `ClassName.isFlags`
  — two of the kinds that this makes.
* `ClassName.lineage` — a class with the classes that it extends.
* `ClassName.display`, `ClassName.spokenName` — the class inside a message.
-/

import KeyTree.Class.Attributes
import KeyTree.Class.Standard
import KeyTree.Text.Parts
import KeyTree.Text.Quoted

namespace KeyTree

/-- The words of a text, which single blanks separate. -/
def wordsOf (s : String) : List String :=
  ((Text.parts ' ' s.toList).filter (· ≠ [])).map String.ofList

namespace ClassName

/-- The text of a class: its module, a colon and its qualified name. -/
def text (c : ClassName) : String := c.module ++ ":" ++ c.qualname

/-- Whether a table of names by module has a class. -/
def isListed (table : List (String × String)) (c : ClassName) : Bool :=
  (table.lookup c.module).any fun words => (wordsOf words).contains c.qualname

/-! ### Kinds of classes -/

/-- The class of most classes. -/
def ordinaryClass : ClassName := .builtin "type"

/-- The class of the enumerations. -/
def enumTypeClass : ClassName := ⟨"enum", "EnumType"⟩

/-- The class that a class is an instance of. -/
def classOf (c : ClassName) : ClassName :=
  match classesOfClasses.find? fun entry => c.isListed entry.2 with
  | some entry => .ofText entry.1
  | none => ordinaryClass

/-- Whether a class is an enumeration. -/
def isEnumeration (c : ClassName) : Bool := c.classOf = enumTypeClass

/-- Whether a class is an enumeration of flags. -/
def isFlags (c : ClassName) : Bool := c.isListed flagClasses

/-! ### Extension -/

/-- The class that all others extend. -/
def rootClass : ClassName := .builtin "object"

/-- The class that a class extends directly. -/
def base? (c : ClassName) : Option ClassName :=
  if c = rootClass then none
  else
    match classAttributes.lookup c.text with
    | some (base, _) => some (.ofText base)
    | none => some rootClass

/-- The classes from a class on, each extending the next, at most `limit` of them. -/
def lineageFrom (c : ClassName) : Nat → List ClassName
  | 0 => []
  | limit + 1 =>
    c :: match c.base? with
      | some base => lineageFrom base limit
      | none => []

/-- A class with all classes that it extends, the nearest first. -/
def lineage (c : ClassName) : List ClassName := c.lineageFrom (classAttributes.length + 2)

/-- Whether a class is another one or extends it. -/
def isOrExtends (c other : ClassName) : Bool := c.lineage.contains other

/-! ### Written forms -/

/-- How an enumeration is shown, one of flags or another. -/
def displayEnumeration (flags : Bool) (c : ClassName) : String :=
  (if flags then "<flag " else "<enum ") ++ Text.quote c.last ++ ">"

/-- How a class is shown. Classes of the builtin module are shown by their own name, and the
class of any value at all by its bare name. -/
def display (c : ClassName) : String :=
  if c.isEnumeration then c.displayEnumeration c.isFlags
  else if c = ⟨"typing", "Any"⟩ then "typing.Any"
  else if c.module = "builtins" then "<class '" ++ c.last ++ "'>"
  else "<class '" ++ c.module ++ "." ++ c.qualname ++ "'>"

/-- The name by which a message speaks of a class. -/
def spokenName (c : ClassName) : String :=
  if c.isListed compiledClasses then c.module ++ "." ++ c.qualname else c.last

end ClassName

end KeyTree
