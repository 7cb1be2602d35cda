/-
# Names of classes

The identity of a class: the module that it belongs to and its qualified name there.

* `ClassName` — a class.
* `ClassName.last` — the name that it goes by; `ClassName.ofText` — a class by its module
  and its qualified name in one text.
-/

namespace KeyTree

/-- A class, known by its module and its qualified name. -/
structure ClassName where
  module : String
  qualname : String
  deriving DecidableEq, Repr, Inhabited

namespace ClassName

/-- A class of the builtin module. -/
def builtin (name : String) : ClassName := ⟨"builtins", name⟩

/-- The last part of the qualified name. -/
def last (c : ClassName) : String :=
  String.ofList (c.qualname.toList.reverse.takeWhile (· ≠ '.')).reverse

/-- The class of a text that gives the module, a colon and the qualified name. -/
def ofText (s : String) : ClassName where
  module := String.ofList (s.toList.takeWhile (· ≠ ':'))
  qualname := String.ofList ((s.toList.dropWhile (· ≠ ':')).drop 1)

end ClassName

end KeyTree
