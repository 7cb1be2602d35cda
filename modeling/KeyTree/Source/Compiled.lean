/-
# Compiled lookups

A lookup whose function has been written, read back in as a program, loaded and found by its
name. Reading it in can fail although it could be written: a key without literal does not read
back, nor does an empty block or one that is nested too deeply. A program that binds the constant
that guards assertions is not loaded, nor is one whose modules cannot be imported; and a name that
is not its own normal form is bound under another name.

* `readFault?` — the first fault of lines that are read back.
* `compile` — the compiled lookup; `CompileFault` — why there is none.
* `Compiled.run` — what it returns for a key.
-/

import KeyTree.Source.Run

namespace KeyTree.Source

/-- A program with the name of the function to call. -/
structure Compiled where
  program : Program
  name : String
  deriving Repr

/-! ### Reading lines back -/

/-- The reasons why lines do not read back. -/
inductive LineFault where
  /-- A literal does not read back. -/
  | invalid
  /-- A literal is spelled in a way of its own, and what it reads back as is left open. -/
  | foreign
  /-- No block follows a header with a number. -/
  | emptyBlock (header : Header) (line : Nat)
  /-- A block is nested too deeply. -/
  | tooDeep
  deriving DecidableEq, Repr

/-- The wording of a fault, if it is known. -/
def LineFault.message : LineFault → Option String
  | .invalid => some "invalid syntax"
  | .foreign => none
  | .emptyBlock header line => some
    ("expected an indented block after '" ++ header.word ++ "' statement on line "
      ++ toString line)
  | .tooDeep => some "too many levels of indentation"

/-- The fault of a literal, if it has one. -/
def Reading.fault? : Reading → Option LineFault
  | .faithful => none
  | .invalid => some .invalid
  | .foreign => some .foreign

/-- The number of levels of indentation. -/
def levelLimit : Nat := 100

/-- The first fault of lines, the first of which has the given number, and the number of the
line at which it shows. -/
def readFault? (number : Nat) : List Line → Option (LineFault × Nat)
  | [] => none
  | line :: rest =>
    match line.reading.fault? with
    | some fault => some (fault, number)
    | none =>
      let level := (rest.head?.map Line.level).getD 0
      match line.header with
      | some header =>
        if level ≤ line.level then some (.emptyBlock header number, number + 1)
        else if levelLimit ≤ level then some (.tooDeep, number + 1)
        else readFault? (number + 1) rest
      | none => readFault? (number + 1) rest

/-! ### Compiling -/

/-- The reasons why a lookup cannot be compiled under a name. -/
inductive CompileFault where
  /-- The lookup gives no module. -/
  | render (fault : RenderFault)
  /-- A line of the module does not read back. -/
  | unreadable (fault : LineFault) (name : String) (line : Nat)
  /-- The module is not loaded. -/
  | load (fault : LoadFault) (name : String)
  /-- The function is not bound under its name. -/
  | unbound (name : Value)
  deriving Repr

/-- A message with its place in a module. -/
def placed (message name : String) (line : Nat) : String :=
  message ++ " (<lookupgen:" ++ name ++ ">, line " ++ toString line ++ ")"

/-- The wording of a fault, if it is known. -/
def CompileFault.message : CompileFault → Option String
  | .render fault => some fault.message
  | .unreadable fault name line => fault.message.map (placed · name line)
  | .load (.guarded line) name => (LoadFault.guarded line).message.map (placed · name line)
  | .load fault _ => fault.message
  | .unbound name => some name.display

/-- The name of a compiled lookup for which none is given. -/
def standardName : String := "lookup"

/-- The name under which a lookup is compiled: the one asked for, or else that of the
lookup, or else the standard one. -/
def compiledName (l : Lookup) (name : Value) : Value :=
  if name.isTruthy then name else if l.name.isTruthy then l.name else .str standardName

section Compile

variable (env : Environment)

/-- Reads a program in, loads it and looks its main function up by its name. -/
def Program.compile (p : Program) (name : Value) : Except CompileFault Compiled :=
  match readFault? p.firstLine p.lines with
  | some (fault, line) => .error (.unreadable fault name.print line)
  | none =>
    match p.loadFault? env with
    | some fault => .error (.load fault name.print)
    | none =>
      if Text.normalForm name.print = name.print then .ok ⟨p, name.print⟩
      else .error (.unbound name)

/-- Compiles a lookup under a name. -/
def compile (l : Lookup) (name : Value) : Except CompileFault Compiled :=
  let name := compiledName l name
  match Program.ofLookups [] [(name, l)] with
  | .error fault => .error (.render fault)
  | .ok program => program.compile env name

/-- What a compiled lookup returns for a key. -/
def Compiled.run (c : Compiled) (key : Value) : Except RunFault Answer :=
  c.program.run env c.name key

end Compile

end KeyTree.Source
