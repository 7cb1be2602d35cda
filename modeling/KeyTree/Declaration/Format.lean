/-
# Declaration files

The format of a declaration file after it has been read as a value: a mapping with a
configuration and a list of lookups. Checking a file reports the first fault; a file
without fault keeps its parts unchanged and in order.

* `DeclarationFile` — the parts of a file; `DeclarationFile.ofValue` — checks a value.
* `checkLookup` — checks one lookup.
* `FormatFault` — why a value is no declaration file.
-/

import KeyTree.Text.Identifier
import KeyTree.Value.Access
import KeyTree.Value.Cycle
import KeyTree.Value.Kind

namespace KeyTree

/-- The entries of a mapping. -/
abbrev Fields := List (Value × Value)

/-- The value under a name, or another one when there is none. -/
def Fields.getD (fields : Fields) (name : String) (other : Value) : Value :=
  (Value.field? fields name).getD other

/-- A declaration file: its configuration and its lookups. -/
structure DeclarationFile where
  config : Fields := []
  lookups : List Fields := []
  deriving Repr

/-- The reasons why a value is no declaration file. -/
inductive FormatFault where
  | notMapping (fault : AccessFault)
  | configNotMapping
  | outputNotText
  | lookupsNotList
  | lookupNotMapping (index : Nat)
  | nameMissing (index : Nat)
  | nameNotText (index : Nat)
  | nameInvalid (index : Nat) (name : String)
  | nameRepeated (name : String)
  | fieldMissing (name field : String)
  | fieldNotList (name field : String)
  | keyNotText (name : String) (index : Nat) (key : Value)
  | kindInvalid (name : String) (given : Value)
  | valueMismatch (name : String) (index : Nat) (value : Value) (kind : ValueKind)
  | docNotText (name : String)
  /-- A value that should be shown has no written form. -/
  | tooLong
  deriving Repr

/-- A fault that shows a value. -/
def FormatFault.showing (v : Value) (fault : FormatFault) : FormatFault :=
  if v.isTooLong then .tooLong else fault

/-- What is added for a text among numbers: a number in another notation is read as
a text. -/
def floatHint : String :=
  ". Write floats with a decimal point and signed exponent, e.g. 1.0e+10."

/-- The wording of a fault. -/
def FormatFault.message : FormatFault → String
  | .notMapping fault => fault.message
  | .configNotMapping => "'config' must be a mapping"
  | .outputNotText => "'config.output' must be a string"
  | .lookupsNotList => "'lookups' must be a list"
  | .lookupNotMapping index => "Lookup " ++ toString index ++ " must be a mapping"
  | .nameMissing index => "Lookup " ++ toString index ++ " missing required field 'name'"
  | .nameNotText index => "Lookup " ++ toString index ++ ": 'name' must be a string"
  | .nameInvalid index name =>
    "Lookup " ++ toString index ++ ": '" ++ name ++ "' is not a valid identifier"
  | .nameRepeated name => "Duplicate lookup name '" ++ name ++ "'"
  | .fieldMissing name field =>
    "Lookup '" ++ name ++ "' missing required field '" ++ field ++ "'"
  | .fieldNotList name field => "Lookup '" ++ name ++ "': '" ++ field ++ "' must be a list"
  | .keyNotText name index key =>
    "Lookup '" ++ name ++ "': key " ++ toString index ++ " (" ++ key.display
      ++ ") must be a string. Quote it in the YAML file."
  | .kindInvalid name given =>
    "Lookup '" ++ name ++ "' has invalid value_type '" ++ given.print ++ "'. Valid types: ["
      ++ commaSeparated (ValueKind.all.map fun kind => Text.quote kind.name) ++ "]"
  | .valueMismatch name index value kind =>
    "Lookup '" ++ name ++ "': value " ++ toString index ++ " (" ++ value.display
      ++ ") is not of type '" ++ kind.name ++ "'"
      ++ (if kind = .float ∧ value.content?.isSome then floatHint else "")
  | .docNotText name => "Lookup '" ++ name ++ "': 'doc' must be a string"
  | .tooLong => Value.tooLongMessage

/-! ### Values of a type -/

/-- Whether a value may be declared with a type. Truth values are no numbers here,
integers may stand for floating-point numbers, and classes are declared by their
names. -/
def ValueKind.admits (kind : ValueKind) (v : Value) : Bool :=
  match kind with
  | .any => true
  | .bool => v.isBool
  | .float => v.isNumber && !v.isBool
  | .int => v.isInteger && !v.isBool
  | .str => v.content?.isSome
  | .type => v.content?.isSome

/-! ### Lookups -/

/-- The items of a field that must be a list. -/
def listField (name field : String) (fields : Fields) : Except FormatFault (List Value) :=
  match (Value.field? fields field).map Value.unfold with
  | none => .error (.fieldMissing name field)
  | some (.list items) => .ok items
  | some _ => .error (.fieldNotList name field)

/-- The declared type of the values of a lookup, any when none is declared. -/
def declaredKind (name : String) (fields : Fields) : Except FormatFault ValueKind :=
  let given := fields.getD "value_type" (.str ValueKind.any.name)
  match given.content? >>= ValueKind.ofName? with
  | some kind => .ok kind
  | none => .error (if given.printsTooLong then .tooLong else .kindInvalid name given)

/-- The name of the lookup with an index. -/
def declaredName (index : Nat) (fields : Fields) : Except FormatFault String :=
  match Value.field? fields "name" with
  | none => .error (.nameMissing index)
  | some given =>
    match given.content? with
    | none => .error (.nameNotText index)
    | some name =>
      if Text.isFunctionName name then .ok name else .error (.nameInvalid index name)

/-- The first item, with its index, of which a property does not hold. -/
def firstWithout (p : Value → Bool) (items : List Value) : Option (Value × Nat) :=
  items.zipIdx.find? fun item => !p item.1

/-- Checks everything about a lookup but its name. -/
def checkFields (name : String) (fields : Fields) : Except FormatFault Unit := do
  let keys ← listField name "keys" fields
  let values ← listField name "values" fields
  match firstWithout (·.content?.isSome) keys with
  | some (key, i) => .error (.showing key (.keyNotText name i key))
  | none => pure ()
  let kind ← declaredKind name fields
  match firstWithout kind.admits values with
  | some (value, i) => .error (.showing value (.valueMismatch name i value kind))
  | none => pure ()
  match Value.field? fields "doc" with
  | some doc => if doc.content?.isSome then pure () else .error (.docNotText name)
  | none => pure ()

/-- Checks the lookup with an index: its name and its fields. -/
def checkLookup (index : Nat) (given : Value) : Except FormatFault (String × Fields) :=
  match given.unfold with
  | .dict fields => do
    let name ← declaredName index fields
    checkFields name fields
    return (name, fields)
  | _ => .error (.lookupNotMapping index)

/-- Checks lookups from an index on; `seen` are the names before them. -/
def checkLookups (seen : List String) (index : Nat) :
    List Value → Except FormatFault (List Fields)
  | [] => .ok []
  | given :: rest =>
    match checkLookup index given with
    | .error fault => .error fault
    | .ok (name, fields) =>
      if seen.contains name then .error (.nameRepeated name)
      else (fields :: ·) <$> checkLookups (name :: seen) (index + 1) rest

/-! ### Files -/

/-- Checks the configuration of a file. -/
def checkConfig (given : Value) : Except FormatFault Fields :=
  match given.unfold with
  | .none => .ok []
  | .dict config =>
    match Value.field? config "output" with
    | some output => if output.content?.isSome then .ok config else .error .outputNotText
    | none => .ok config
  | _ => .error .configNotMapping

/-- The items of the list of lookups of a file. -/
def lookupItems (given : Value) : Except FormatFault (List Value) :=
  match given.unfold with
  | .none => .ok []
  | .list items => .ok items
  | _ => .error .lookupsNotList

/-- Checks the fields of a file. -/
def DeclarationFile.ofFields (fields : Fields) : Except FormatFault DeclarationFile := do
  let config ← checkConfig (fields.getD "config" .none)
  let items ← lookupItems (fields.getD "lookups" .none)
  return { config, lookups := ← checkLookups [] 0 items }

/-- Checks a value that should be a declaration file. -/
def DeclarationFile.ofValue (v : Value) : Except FormatFault DeclarationFile :=
  match v with
  | .dict fields => DeclarationFile.ofFields fields
  | other => .error (.notMapping (other.fieldFault "dict"))

end KeyTree
