/-
# Generated modules

A module with one function for each of several named lookups. The names are checked
first; then the lookups are written in the order given, each with its helpers behind
it, and the modules that the values need are imported at the top.

* `RenderFault` — why lookups give no module.
* `Program` — the functions of a module; `Program.ofLookups` — those of lookups.
* `Program.lines` — the lines of the functions.
* `Program.text`, `renderModule` — the text of a module.
-/

import KeyTree.Lookup.Basic
import KeyTree.Source.Helpers
import KeyTree.Source.Lines
import KeyTree.Source.Writer
import KeyTree.Text.Identifier
import KeyTree.Value.Access
import KeyTree.Value.Items

namespace KeyTree.Source

/-- The reasons why lookups give no module. -/
inductive RenderFault where
  /-- A lookup has no name. -/
  | nameMissing
  /-- A name is not a text. -/
  | nameNotText (fault : AccessFault)
  /-- A name is not an identifier, or it is reserved. -/
  | nameInvalid (name : Text)
  /-- Two functions have the same name. -/
  | nameRepeated (name : String)
  /-- A value has no literal. -/
  | noLiteral (fault : LiteralFault)
  deriving Repr

/-- The wording of a fault. -/
def RenderFault.message : RenderFault → String
  | .nameMissing => "Lookup function needs a name"
  | .nameNotText fault => fault.message
  | .nameInvalid name => "Invalid lookup function name: " ++ name.display
  | .nameRepeated name => "Duplicate lookup name: " ++ name
  | .noLiteral fault => fault.message

/-! ### Names -/

/-- The name of a function, if the value may name one. -/
def functionName (name : Value) : Except RenderFault String :=
  if !name.isTruthy then .error .nameMissing
  else
    match name.text? with
    | none => .error (.nameNotText name.identifierFault)
    | some text =>
      if Text.isFunctionName text.content then .ok text.content else .error (.nameInvalid text)

/-- The names of the functions, which must differ from each other and from those
seen before. -/
def functionNames (seen : List String) : List Value → Except RenderFault (List String)
  | [] => .ok []
  | name :: rest =>
    match functionName name with
    | .error fault => .error fault
    | .ok name =>
      if seen.contains name then .error (.nameRepeated name)
      else (name :: ·) <$> functionNames (name :: seen) rest

/-! ### Programs -/

/-- The functions of a module in order. -/
structure Program where
  functions : List Function
  deriving Repr

namespace Program

/-- The modules that a program imports, ascending. -/
def imports (p : Program) : List String :=
  importedModules [] (p.functions.flatMap Function.values)

/-- The names that the imports of a program bind: the first names of the modules. -/
def roots (p : Program) : List String := p.imports.map fun m => (dottedParts m).headD ""

/-- The functions of lookups with checked names. Each lookup is at fault if one of
its values has no literal, or else if one of its helpers has a name that is taken;
`taken` are the names in use. -/
def functionsFrom (docs : List (String × String)) (taken : List String) :
    List (String × Lookup) → Except RenderFault (List Function)
  | [] => .ok []
  | (name, l) :: rest =>
    let helpers := helpersOf name l.root l.default
    let functions := mainFunction name (docs.lookup name) l.root l.default :: helpers
    match (functions.flatMap Function.values).findSome? Value.literalFault? with
    | some fault => .error (.noLiteral fault)
    | none =>
      match (helpers.map Function.name).find? taken.contains with
      | some helper => .error (.nameRepeated helper)
      | none =>
        (functions ++ ·) <$> functionsFrom docs (helpers.map Function.name ++ taken) rest

/-- The program of named lookups, with texts that document the functions of some
names. -/
def ofLookups (docs : List (String × String)) (lookups : List (Value × Lookup)) :
    Except RenderFault Program :=
  match functionNames [] (lookups.map Prod.fst) with
  | .error fault => .error fault
  | .ok names => Program.mk <$> functionsFrom docs names (names.zip (lookups.map Prod.snd))

/-! ### Text -/

/-- The first line of a module. -/
def headerLine : String := "\"\"\"Generated by lookupgen. Do not edit.\"\"\""

/-- The lines above the functions. -/
def header (imports : List String) : List String :=
  [headerLine, ""] ++ (if imports.isEmpty then [] else imports.map ("import " ++ ·) ++ [""]) ++ [""]

/-- The lines of the functions, which two blank lines separate. -/
def lines (p : Program) : List Line :=
  let blank : Line := { level := 0, text := "" }
  List.intercalate [blank, blank] (p.functions.map Function.lines)

/-- The number of the line of the first function. -/
def firstLine (p : Program) : Nat := (header p.imports).length + 1

/-- Writes the lines of a function after two blank lines. -/
def writeFunction (w : Writer) (f : Function) : Writer :=
  f.lines.foldl (fun w l => { w with level := l.level }.line l.text) (w.blank 2)

/-- The text of the functions, indented by a unit. -/
def body (unit : String) (functions : List Function) : String :=
  (functions.foldl writeFunction { unit }).render

/-- The text of a module, indented by a unit. -/
def text (unit : String) (p : Program) : String :=
  String.intercalate "\n" (header p.imports) ++ "\n" ++ body unit p.functions

end Program

/-- The unit of indentation of a module, unless another is asked for. -/
def standardUnit : String := "    "

/-- The text of the module of named lookups. -/
def renderModule (unit : String) (docs : List (String × String))
    (lookups : List (Value × Lookup)) : Except RenderFault String :=
  (·.text unit) <$> Program.ofLookups docs lookups

/-- The text of the module of one lookup, under a name of its own choice or else
under the name of the lookup. -/
def render (l : Lookup) (name : Value) : Except RenderFault String :=
  renderModule standardUnit [] [(if name.isTruthy then name else l.name, l)]

end KeyTree.Source
