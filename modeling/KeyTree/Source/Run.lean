/-
# Running generated functions

What the functions of a program return for a key. A program is loaded first: the modules that it
imports run, and then its functions are defined. A definition binds the normal form of the name it
is written with, and a later one of the same name replaces it and the import of such a name. A
function body runs from its first statement on; a call ends the body and hands the key to another
function. The names that a body reads are those of its variables, or else of the functions and the
imported modules of the program, or else of builtin objects.

* `Program.loadFault?` — why a program is not loaded.
* `Scope.binding` — what a name stands for in a body; `Scope.read` — what reading it gives.
* `meaning` — the value of a literal.
* `Statement.run` — runs a statement; `Program.run` — runs a function by its name.
* `RunFault` — why a run gives no answer.
-/

import KeyTree.Class.Environment
import KeyTree.Source.Module

namespace KeyTree.Source

/-! ### Loading -/

/-- The reasons why a program is not loaded. -/
inductive LoadFault where
  /-- The constant that cannot be bound is bound in a line. -/
  | guarded (line : Nat)
  /-- A module cannot be imported. -/
  | missing (module : String)
  /-- A module raises an exception. -/
  | raised (exception : Raised)
  deriving DecidableEq, Repr

namespace Program

/-- The normal forms of the names of functions, the first of which is written in a line, with the
lines of their headers. -/
def headersFrom (line : Nat) : List Function → List (String × Nat)
  | [] => []
  | f :: rest =>
    (Text.normalForm f.name, line) :: headersFrom (line + f.lines.length + 2) rest

/-- The number of the line of the first import. -/
def firstImport : Nat := 3

/-- The names that a program binds, with the numbers of the lines in which it does. -/
def bindings (p : Program) : List (String × Nat) :=
  p.roots.zipIdx firstImport ++ headersFrom p.firstLine p.functions

/-- Why a program is not loaded, if it is not. -/
def loadFault? (env : Environment) (p : Program) : Option LoadFault :=
  match p.bindings.find? (·.1 = guardName) with
  | some (_, line) => some (.guarded line)
  | none =>
    p.imports.findSome? fun m =>
      match env.importable m with
      | .ok true => none
      | .ok false => some (.missing m)
      | .error exception => some (.raised exception)

end Program

/-! ### Names -/

/-- The reasons why a run gives no answer. -/
inductive RunFault where
  /-- The program is not loaded. -/
  | load (fault : LoadFault)
  /-- A character is read that the key does not have. -/
  | read (fault : ReadFault)
  /-- The length is compared before it is taken. -/
  | notMeasured
  /-- A character is compared before it is read. -/
  | notRead
  /-- A name is read that nothing is bound to. -/
  | undefined (name : String)
  /-- The builtin objects are looked up in a function. -/
  | noBuiltins
  /-- A function is called with an argument too many. -/
  | surplusArgument (function : String)
  /-- A module is called. -/
  | notCallable
  /-- The key is compared with a type that is none. -/
  | notType
  /-- An attribute is missing. -/
  | access (fault : AccessFault)
  /-- Reading an attribute raises an exception. -/
  | raised (exception : Raised)
  /-- A name stands for an object of which no more is known here. -/
  | unknown (name : String)
  /-- A literal is read that a class spells in a way of its own. -/
  | foreign
  /-- A function ends without an answer. -/
  | noAnswer
  /-- The functions call each other without end. -/
  | endless
  deriving DecidableEq, Repr

/-- What a name stands for in a body: a variable, a function or an imported module of the program,
an object that every program has, or a builtin object. -/
inductive Binding where
  | variable
  | function (f : Function)
  | module
  | preset
  | builtin

/-- The function of a program whose body is run. -/
structure Scope where
  program : Program
  function : Function

/-- The name of the builtin objects in a program. -/
def builtinsName : String := "__builtins__"

/-- The names that are bound in every program. -/
def presetNames : List String := [builtinsName, "__doc__"]

namespace Program

/-- The names that the functions of a program bind. -/
def bound (p : Program) : List String :=
  p.functions.map fun f => Text.normalForm f.name

/-- The function that a program binds to a name in normal form: the last one. -/
def binder? (p : Program) (name : String) : Option Function :=
  p.functions.reverse.find? fun f => Text.normalForm f.name = name

/-- The function of a name. -/
def function? (p : Program) (name : String) : Option Function := p.binder? (Text.normalForm name)

/-- The functions that are defined before a function. -/
def earlier (p : Program) (f : Function) : List Function :=
  p.functions.takeWhile (·.name ≠ f.name)

end Program

namespace Scope

variable (s : Scope)

/-- What a name stands for. -/
def binding (name : String) : Binding :=
  if s.function.locals.contains name then .variable
  else
    match s.program.binder? name with
    | some f => .function f
    | none =>
      if s.program.roots.contains name then .module
      else if presetNames.contains name then .preset
      else .builtin

/-- Whether the builtin objects are looked up in a function, because one that is defined before
has their name. -/
def losesBuiltins : Bool :=
  (s.program.earlier s.function).any (Text.normalForm ·.name = builtinsName)

/-- Reads a name. A function finds the builtin objects that there are when it is defined. -/
def read (name : String) : Except RunFault Binding :=
  match s.binding name with
  | .builtin =>
    if s.losesBuiltins then .error .noBuiltins
    else if s.program.roots.contains builtinsName then .error (.unknown name)
    else .ok .builtin
  | other => .ok other

end Scope

/-! ### Literals -/

/-- The variables of a function: the length of the key once it is taken, and the
character read last. -/
structure Locals where
  length : Option Nat := none
  character : Option Char := none
  deriving Repr

section Run

variable (env : Environment) (scope : Scope) (key : Value)

/-- The object that a variable holds. -/
def variableEntity (locals : Locals) (name : String) : Except RunFault Entity :=
  if name = "n" then
    if locals.length.isSome then .ok (.object (.builtin "int")) else .error .notMeasured
  else if name = "ch" then
    if locals.character.isSome then .ok (.object (.builtin "str")) else .error .notRead
  else
    match key with
    | .none => .ok .absent
    | .cls c => .ok (.cls c)
    | other => .ok (.object other.typeClass)

/-- Why attributes lead to nothing. A builtin object that is missing is a name that is not
bound. -/
def attributeFault : Environment.AttributeFault → RunFault
  | .missing (.module "builtins") name => .undefined name
  | .missing owner name => .access (owner.lacking name)
  | .raised exception => .raised exception

/-- What the expression of a class leads to: the attributes that it names, one after the other,
from the object that its first name stands for. From a package they lead to the modules in it. -/
def evaluate (locals : Locals) (c : ClassName) : Except RunFault Entity :=
  let follow (e : Entity) (attributes : List String) :=
    (env.reach e attributes).mapError attributeFault
  match dottedParts c.reference with
  | [] => .error .foreign
  | root :: attributes => do
    match ← scope.read root with
    | .builtin => follow (.module "builtins") (root :: attributes)
    | .module => follow (.module root) attributes
    | .function _ => follow (.object (.builtin "function")) attributes
    | .variable => follow (← variableEntity key locals root) attributes
    | .preset => .error (.unknown root)

/-- The value that the literal of a value denotes. The literal of a class denotes what its
expression leads to; a member of an enumeration is found by its name in its own class. -/
def meaning (locals : Locals) (v : Value) : Except RunFault Value :=
  if valueReading v ≠ .faithful then .error .foreign
  else
    match v with
    | .cls c => do
      match ← evaluate env scope key locals c with
      | .cls found => return .cls found
      | .absent => return .none
      | _ => .error (.unknown c.reference)
    | .member c kind name value => do
      match ← evaluate env scope key locals c with
      | .cls found =>
        if found = c then return .member c kind name value else .error (.unknown c.reference)
      | _ => .error (.unknown c.reference)
    | scalar => return scalar

/-! ### Conditions -/

/-- The characters of the key, none for a key that is not a text. -/
def keyChars : List Char := (key.text?.map Text.chars).getD []

/-- Whether a condition holds. A key that is not a text only ever meets the first. -/
def Condition.holds (locals : Locals) : Condition → Except RunFault Bool
  | .keyIsNoText => do
    let test ← scope.read "isinstance"
    let type ← scope.read "str"
    match test, type with
    | .builtin, .builtin => return key.text?.isNone
    | .builtin, _ => .error .notType
    | .function f, _ => .error (.surplusArgument (Text.normalForm f.name))
    | _, _ => .error .notCallable
  | .keyIs t => return key.text?.any (·.same t)
  | .lengthBelow limit =>
    match locals.length with
    | some n => return (n : Int) < limit
    | none => .error .notMeasured
  | .lengthIs length =>
    match locals.length with
    | some n => return (n : Int) = length
    | none => .error .notMeasured
  | .characterBelow label =>
    match locals.character with
    | some c => return String.singleton c < label
    | none => .error .notRead
  | .characterIs label =>
    match locals.character with
    | some c => return String.singleton c = label
    | none => .error .notRead

/-! ### Statements -/

/-- How a block ends: it runs to its end, it returns an answer, or it calls another
function. -/
inductive Flow where
  | onward (locals : Locals)
  | returned (answer : Answer)
  | calling (function : String)

namespace Statement

mutual

/-- Runs a statement. A function that takes its own name for that of the length calls itself
again. -/
def run (locals : Locals) : Statement → Except RunFault Flow
  | .measure => do
    match ← scope.read "len" with
    | .builtin => return .onward { locals with length := some (keyChars key).length }
    | .function f =>
      .error (if f.name = scope.function.name then .endless else .unknown "len")
    | _ => .error .notCallable
  | .read position =>
    match charAt? (keyChars key) position with
    | some c => return .onward { locals with character := some c }
    | none => .error (.read .outOfRange)
  | .answer found value => do
    return .returned ⟨found, ← meaning env scope key locals value⟩
  | .call function => return .calling function
  | .choose arms => runArms locals arms
  | .either condition yes no => do
    if ← condition.holds scope key locals then runBlock locals yes else runBlock locals no

/-- Runs the statements of a block until one returns or calls. -/
def runBlock (locals : Locals) : List Statement → Except RunFault Flow
  | [] => return .onward locals
  | s :: rest => do
    match ← run locals s with
    | .onward locals => runBlock locals rest
    | ended => return ended

/-- Runs the first arm whose condition holds. -/
def runArms (locals : Locals) : List (Condition × List Statement) → Except RunFault Flow
  | [] => return .onward locals
  | (condition, block) :: rest => do
    if ← condition.holds scope key locals then runBlock locals block else runArms locals rest

end

end Statement

end Run

/-! ### Programs -/

namespace Program

/-- Calls a function, with at most `calls` calls altogether. -/
def call (env : Environment) (p : Program) (key : Value) : Nat → String → Except RunFault Answer
  | 0, _ => .error .endless
  | calls + 1, name =>
    match p.function? name with
    | none => .error (.undefined name)
    | some f => do
      match ← Statement.runBlock env ⟨p, f⟩ key {} f.body with
      | .returned answer => return answer
      | .calling function => call env p key calls function
      | .onward _ => .error .noAnswer

/-- Loads a program and calls a function. More calls than the program has functions repeat a
function with the same key, and so never end. -/
def run (env : Environment) (p : Program) (name : String) (key : Value) : Except RunFault Answer :=
  match p.loadFault? env with
  | some fault => .error (.load fault)
  | none => p.call env key p.functions.length name

end Program

/-! ### Wording -/

/-- The wording of a fault that does not depend on where the program stands. -/
def LoadFault.message : LoadFault → Option String
  | .guarded _ => some ("cannot assign to " ++ guardName)
  | .missing _ => none
  | .raised exception => some exception.message

/-- The wording of a fault. None is given where more would have to be known. -/
def RunFault.message : RunFault → Option String
  | .load fault => fault.message
  | .read fault => some fault.message
  | .notMeasured =>
    some "cannot access local variable 'n' where it is not associated with a value"
  | .notRead => some "cannot access local variable 'ch' where it is not associated with a value"
  | .undefined name => some ("name '" ++ name ++ "' is not defined")
  | .noBuiltins => some "'function' object is not subscriptable"
  | .surplusArgument function =>
    some (function ++ "() takes 1 positional argument but 2 were given")
  | .notCallable => some "'module' object is not callable"
  | .notType => some "isinstance() arg 2 must be a type, a tuple of types, or a union"
  | .access fault => some fault.message
  | .raised exception => some exception.message
  | .unknown _ => none
  | .foreign => none
  | .noAnswer => some "cannot unpack non-iterable NoneType object"
  | .endless => some "maximum recursion depth exceeded"

end KeyTree.Source
