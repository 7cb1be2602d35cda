/-
# Reading declaration files

From the text of a declaration file to its parts. How a text is read as a value is left to
a loader. A text without document is an empty file.

* `Loader` — a reading of texts as values; `LoadProblem` — why one stands for no value.
* `DeclarationFile.ofText` — the declaration file of a text.
* `TextFault` — why a text is no declaration file.
-/

import KeyTree.Class.Environment
import KeyTree.Declaration.Format

namespace KeyTree

/-- Why a loader gives no value: the text is malformed, with the wording of the problem, or
something else is raised. -/
inductive LoadProblem where
  | malformed (wording : String)
  | raised (exception : Raised)
  deriving DecidableEq, Repr

/-- The wording of a problem, as it is reported. -/
def LoadProblem.message : LoadProblem → String
  | .malformed wording => "Invalid YAML syntax: " ++ wording
  | .raised exception => exception.message

/-- A reading of texts as values. -/
abbrev Loader := String → Except LoadProblem Value

/-- The reasons why a text is no declaration file. -/
inductive TextFault where
  /-- The text stands for no value. -/
  | load (problem : LoadProblem)
  /-- The value of the text is no mapping. -/
  | rootNotMapping
  /-- The mapping is no declaration file. -/
  | format (fault : FormatFault)
  deriving Repr

/-- The wording of a fault. -/
def TextFault.message : TextFault → String
  | .load problem => problem.message
  | .rootNotMapping => "YAML root must be a mapping"
  | .format fault => fault.message

/-- The exit that a fault stands for. -/
def TextFault.exit? : TextFault → Option Raised
  | .load (.raised exception) => exception.exit?
  | _ => none

/-- The declaration file of a value that was read from a text. -/
def DeclarationFile.ofRoot (root : Value) : Except TextFault DeclarationFile :=
  match root.unfold with
  | .none => (DeclarationFile.ofFields []).mapError .format
  | .dict fields => (DeclarationFile.ofFields fields).mapError .format
  | _ => .error .rootNotMapping

/-- The declaration file of a text. -/
def DeclarationFile.ofText (load : Loader) (text : String) : Except TextFault DeclarationFile :=
  match load text with
  | .error problem => .error (.load problem)
  | .ok root => DeclarationFile.ofRoot root

end KeyTree
