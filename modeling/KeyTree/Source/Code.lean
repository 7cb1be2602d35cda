/-
# Generated functions

The code of the generated functions, before it is written as text. A function takes
one argument, the key, and returns whether the key was found and a value.

* `Condition`, `Statement` — conditions and statements.
* `Function` — a function with its body; `Function.values` — the values in it;
  `Function.locals` — the names that it gives to variables.
-/

import KeyTree.Value.Basic

namespace KeyTree.Source

/-- A condition on the key, on its length or on the character read last. -/
inductive Condition where
  | keyIsNoText
  | keyIs (text : Text)
  | lengthBelow (bound : Int)
  | lengthIs (length : Int)
  | characterBelow (bound : String)
  | characterIs (label : String)
  deriving DecidableEq, Repr

/-- A statement.

* `measure`: takes the length of the key.
* `read p`: reads the character at position `p` of the key.
* `answer f v`: returns whether the key was found, and a value.
* `call f`: returns what the function `f` returns for the key.
* `choose arms`: runs the first arm whose condition holds, if there is one.
* `either c yes no`: runs one of two blocks. -/
inductive Statement where
  | measure
  | read (position : Int)
  | answer (found : Bool) (value : Value)
  | call (function : String)
  | choose (arms : List (Condition × List Statement))
  | either (condition : Condition) (yes no : List Statement)
  deriving Repr

/-- A function of the generated module. -/
structure Function where
  name : String
  doc : Option String := none
  body : List Statement
  deriving Repr

namespace Statement

mutual

/-- The values that a statement returns, in the order of the text. -/
def values : Statement → List Value
  | .measure => []
  | .read _ => []
  | .answer _ value => [value]
  | .call _ => []
  | .choose arms => armValues arms
  | .either _ yes no => blockValues yes ++ blockValues no

/-- The values of a block. -/
def blockValues : List Statement → List Value
  | [] => []
  | s :: rest => values s ++ blockValues rest

/-- The values of the arms of a choice. -/
def armValues : List (Condition × List Statement) → List Value
  | [] => []
  | (_, block) :: rest => blockValues block ++ armValues rest

end

mutual

/-- Whether a statement takes the length of the key somewhere. -/
def measures : Statement → Bool
  | .measure => true
  | .read _ => false
  | .answer _ _ => false
  | .call _ => false
  | .choose arms => armMeasures arms
  | .either _ yes no => blockMeasures yes || blockMeasures no

/-- Whether a block takes the length of the key somewhere. -/
def blockMeasures : List Statement → Bool
  | [] => false
  | s :: rest => measures s || blockMeasures rest

/-- Whether an arm of a choice takes the length of the key somewhere. -/
def armMeasures : List (Condition × List Statement) → Bool
  | [] => false
  | (_, block) :: rest => blockMeasures block || armMeasures rest

end

mutual

/-- Whether a statement reads a character of the key somewhere. -/
def reads : Statement → Bool
  | .measure => false
  | .read _ => true
  | .answer _ _ => false
  | .call _ => false
  | .choose arms => armReads arms
  | .either _ yes no => blockReads yes || blockReads no

/-- Whether a block reads a character of the key somewhere. -/
def blockReads : List Statement → Bool
  | [] => false
  | s :: rest => reads s || blockReads rest

/-- Whether an arm of a choice reads a character of the key somewhere. -/
def armReads : List (Condition × List Statement) → Bool
  | [] => false
  | (_, block) :: rest => blockReads block || armReads rest

end

end Statement

/-- The names that a function gives to the key, to its length and to the character read
last, as far as it uses them. -/
def Function.locals (f : Function) : List String :=
  ["key"] ++ (if Statement.blockMeasures f.body then ["n"] else [])
    ++ (if Statement.blockReads f.body then ["ch"] else [])

/-- The values that a function returns, in the order of the text. -/
def Function.values (f : Function) : List Value :=
  Statement.blockValues f.body

end KeyTree.Source
