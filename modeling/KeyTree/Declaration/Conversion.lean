/-
# Lookups of declarations

From the fields of a declaration to its lookup. The declared type decides how the
values are taken: names of classes become the classes, numbers become floating-point
numbers, and other values stay as they are.

* `toFloat` — the floating-point number that a value stands for.
* `ValueKind.convert` — a value as the declared type wants it.
* `lookupOfFields` — the lookup of a declaration; `DeclarationFile.toLookups` — those of
  a file.
* `DeclarationFile.lookedUp` — the names that are looked up in modules on the way to them.
* `ConversionFault` — why a declaration gives no lookup.
-/

import KeyTree.Class.Environment
import KeyTree.Declaration.Format
import KeyTree.Lookup.Build
import KeyTree.Number.Reading

namespace KeyTree

/-! ### Floating-point numbers -/

/-- The reasons why a value stands for no floating-point number. -/
inductive FloatFault where
  /-- An integer is beyond the range. -/
  | tooLarge
  /-- A text or a string of bytes is not the text of a number. -/
  | notNumeral (given : Value)
  /-- The value is neither a number nor a text. -/
  | notNumber (typeName : String)
  deriving Repr

/-- The wording of a fault. -/
def FloatFault.message : FloatFault → String
  | .tooLarge => "int too large to convert to float"
  | .notNumeral given => "could not convert string to float: " ++ given.display
  | .notNumber typeName =>
    "float() argument must be a string or a real number, not '" ++ typeName ++ "'"

/-- The text of a value that is a text or a string of ASCII bytes. -/
def numeralText? (v : Value) : Option String :=
  match v with
  | .bytes bs =>
    some (if bs.all (· < 0x80) then String.ofList (bs.map fun b => Char.ofNat b.toNat) else "?")
  | other => other.content?

/-- The floating-point number that a value stands for. -/
def toFloat (v : Value) : Except FloatFault Binary64 :=
  match v.number? with
  | some (.float x) => .ok x
  | some (.int n) =>
    match Binary64.ofInt? n with
    | some x => .ok x
    | none => .error .tooLarge
  | none =>
    match numeralText? v with
    | none => .error (.notNumber v.typeName)
    | some text =>
      match Number.readFloat? text with
      | some x => .ok x
      | none => .error (.notNumeral v)

/-! ### Declarations -/

/-- The reasons why a declaration gives no lookup. -/
inductive ConversionFault where
  /-- The declaration is no mapping. -/
  | notMapping (fault : AccessFault)
  /-- A field is missing. -/
  | fieldMissing (field : String)
  /-- The value type is unknown. -/
  | kind (fault : ValueKind.Fault)
  /-- The values are no collection. -/
  | items (fault : ItemsFault)
  /-- A value of a lookup names no class. -/
  | className (lookup : Value) (fault : ClassNameFault)
  /-- A value stands for no floating-point number. -/
  | float (fault : FloatFault)
  /-- The keys and values do not fit together. -/
  | build (fault : BuildFault)

/-- The wording of a fault. What goes wrong with the name of a class is reported with the lookup
if it is an error about the value. -/
def ConversionFault.message : ConversionFault → String
  | .notMapping fault => fault.message
  | .fieldMissing field => Text.quote field
  | .kind fault => fault.message
  | .items fault => fault.message
  | .className lookup fault =>
    if fault.isValueError then "Lookup '" ++ lookup.print ++ "': " ++ fault.message
    else fault.message
  | .float fault => fault.message
  | .build fault => fault.message

/-- A field that a declaration must have. -/
def requiredField (fields : Fields) (field : String) : Except ConversionFault Value :=
  match Value.field? fields field with
  | some v => .ok v
  | none => .error (.fieldMissing field)

/-- A value as a declared type wants it. -/
def ValueKind.convert (env : Environment) (kind : ValueKind) (fields : Fields) (v : Value) :
    Except ConversionFault Value := do
  let name ← requiredField fields "name"
  match kind with
  | .type => (.cls ·) <$> (env.resolve v).mapError (.className name)
  | .float => (.float ·) <$> (toFloat v).mapError .float
  | _ => return v

/-- The lookup of the fields of a declaration. -/
def lookupOfFields (env : Environment) (fields : Fields) : Except ConversionFault Lookup := do
  let kind ← (ValueKind.ofValue (fields.getD "value_type" (.str ValueKind.any.name))).mapError .kind
  let given ← requiredField fields "values"
  let items ← given.items.mapError .items
  let values ← items.mapM (kind.convert env fields)
  let keys ← requiredField fields "keys"
  let name ← requiredField fields "name"
  let declared : Declared :=
    { keys, values := .list values, valueType := .cls kind.className, name }
  declared.lookup.mapError .build

/-- The lookup of a declaration, which must be a mapping. -/
def lookupOfValue (env : Environment) (v : Value) : Except ConversionFault Lookup :=
  match v with
  | .dict fields => lookupOfFields env fields
  | other => .error (.notMapping (other.fieldFault "str"))

/-- The lookups of a declaration file, in order. -/
def DeclarationFile.toLookups (env : Environment) (file : DeclarationFile) :
    Except ConversionFault (List Lookup) :=
  file.lookups.mapM (lookupOfFields env)

/-- The exit that a fault stands for. An exit is no error, and nothing reports it. -/
def ConversionFault.exit? : ConversionFault → Option Raised
  | .className _ (.raised exception) => exception.exit?
  | _ => none

/-! ### Names that are looked up -/

/-- What steps leave behind, in order, up to the first step that fails. -/
def traceOf {α β γ ε : Type} (step : α → Except ε β) (trace : α → List γ) : List α → List γ
  | [] => []
  | x :: rest =>
    match step x with
    | .ok _ => trace x ++ traceOf step trace rest
    | .error _ => trace x

/-- The names that are looked up in modules to take a value as a declared type wants it. -/
def ValueKind.namesOf (kind : ValueKind) (v : Value) : List String :=
  match kind with
  | .type => Environment.namesOf v
  | _ => []

/-- The names that are looked up to take the values of a declaration, up to the first one
that cannot be taken. -/
def namesOfFields (env : Environment) (fields : Fields) : List String :=
  let names : Except ConversionFault (List String) := do
    let kind ←
      (ValueKind.ofValue (fields.getD "value_type" (.str ValueKind.any.name))).mapError .kind
    let given ← requiredField fields "values"
    let items ← given.items.mapError .items
    let _ ← requiredField fields "name"
    return traceOf (kind.convert env fields) kind.namesOf items
  match names with
  | .ok names => names
  | .error _ => []

namespace DeclarationFile

/-- The names that are looked up to build the lookups of a declaration file, up to the
first one that cannot be built. -/
def lookedUp (env : Environment) (file : DeclarationFile) : List String :=
  traceOf (lookupOfFields env) (namesOfFields env) file.lookups

/-- What building the lookups of a declaration file prints. -/
def printed (env : Environment) (file : DeclarationFile) : String :=
  env.printedBy [] (file.lookedUp env)

/-- The file system after the lookups of a declaration file have been built. -/
def touched (env : Environment) (file : DeclarationFile) (fs : FileSystem) : FileSystem :=
  env.touchedBy [] (file.lookedUp env) fs

end DeclarationFile

end KeyTree
