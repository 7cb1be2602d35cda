/-
# Values

What a lookup returns and what a declaration file holds: scalars, collections,
classes, members of enumerations, dates and moments. Values are opaque to the
decision tree; this module fixes what they are and what they can be used as.

* `Value` — the values.
* `Text` — a value that is a string: its content and how it came about.
* `Value.text?`, `Value.number?` — what a value is when used as a string or as a
  number.
* `Value.unhashable?` — the part of a value that keeps it from being a dictionary
  key.
-/

import KeyTree.Class.Traits
import KeyTree.Number.Binary64
import KeyTree.Value.Calendar

namespace KeyTree

/-- The kinds of enumeration a member can belong to. Members of the three mixed
kinds are also integers or strings. -/
inductive EnumKind where
  | plain
  | integer
  | string
  | flag
  | integerFlag
  deriving DecidableEq, Repr, Inhabited

/-- The collections that can hold themselves. -/
inductive Enclosure where
  | list
  | tuple
  | dict
  deriving DecidableEq, Repr, Inhabited

/-- A value. `subInt`, `subFloat` and `subStr` are instances of proper subclasses
of the three scalar types; a string of such a class may be shown in a way of its own.
A dictionary keeps the order in which its keys were first put. A collection that holds
itself is a `loop` with a label around its parts, among which `again` with this label
stands for the collection. -/
inductive Value where
  | none
  | bool (b : Bool)
  | int (n : Int)
  | float (x : Binary64)
  | str (s : String)
  | bytes (bytes : List UInt8)
  | list (items : List Value)
  | tuple (items : List Value)
  | dict (entries : List (Value × Value))
  | set (items : List Value)
  | cls (c : ClassName)
  | member (c : ClassName) (kind : EnumKind) (name : String) (value : Value)
  | subInt (c : ClassName) (n : Int)
  | subFloat (c : ClassName) (x : Binary64)
  | subStr (c : ClassName) (s : String) (shown : Option String)
  | date (d : Date)
  | moment (m : Moment)
  | loop (label : Nat) (body : Value)
  | again (label : Nat) (enclosure : Enclosure)
  deriving Repr, Inhabited

/-- The type of a collection. -/
def Enclosure.typeClass : Enclosure → ClassName
  | .list => .builtin "list"
  | .tuple => .builtin "tuple"
  | .dict => .builtin "dict"

/-! ### Strings -/

/-- How a string came about: as a plain string, as an instance of a proper
subclass, which may be shown in a way of its own, or as a member of an enumeration of
strings that is shown as members are. -/
inductive TextForm where
  | plain
  | derived (c : ClassName) (shown : Option String)
  | member (c : ClassName) (name : String)
  deriving DecidableEq, Repr, Inhabited

/-- A value that is a string. Only the content takes part in comparisons. -/
structure Text where
  content : String
  form : TextForm := .plain
  deriving DecidableEq, Repr, Inhabited

namespace Text

/-- The plain string of a content. -/
def ofString (s : String) : Text := ⟨s, .plain⟩

/-- The characters of the content. -/
def chars (t : Text) : List Char := t.content.toList

/-- The number of characters. -/
def length (t : Text) : Nat := t.chars.length

/-- Whether two strings have the same content. -/
def same (t u : Text) : Bool := t.content = u.content

/-- The string as a value. -/
def toValue (t : Text) : Value :=
  match t.form with
  | .plain => .str t.content
  | .derived c shown => .subStr c t.content shown
  | .member c name => .member c .string name (.str t.content)

end Text

namespace Value

/-- The value as a string, if it is one. -/
def text? : Value → Option Text
  | .str s => some ⟨s, .plain⟩
  | .subStr c s shown => some ⟨s, .derived c shown⟩
  | .member c .string name (.str s) => some ⟨s, .member c name⟩
  | _ => Option.none

/-- The content of a value that is a string. -/
def content? (v : Value) : Option String :=
  v.text?.map Text.content

/-! ### Numbers -/

/-- A number: an integer of any size or a floating-point number. -/
inductive Numeral where
  | int (n : Int)
  | float (x : Binary64)
  deriving DecidableEq, Repr

/-- Whether two numbers are equal, integers and floating-point numbers being
compared exactly. -/
def Numeral.same : Numeral → Numeral → Bool
  | .int m, .int n => m = n
  | .int m, .float x => x.isInt m
  | .float x, .int n => x.isInt n
  | .float x, .float y => x.same y

/-- The value of a truth value among the integers. -/
def boolInt (b : Bool) : Int := if b then 1 else 0

/-- The value as a number, if it is one. Truth values are the integers 0 and 1. -/
def number? : Value → Option Numeral
  | .bool b => some (.int (boolInt b))
  | .int n => some (.int n)
  | .float x => some (.float x)
  | .subInt _ n => some (.int n)
  | .subFloat _ x => some (.float x)
  | .member _ .integer _ (.int n) => some (.int n)
  | .member _ .integerFlag _ (.int n) => some (.int n)
  | _ => Option.none

/-- Whether the value is an integer, truth values included. -/
def isInteger (v : Value) : Bool :=
  match v.number? with
  | some (.int _) => true
  | _ => false

/-- Whether the value is a number of either kind, truth values included. -/
def isNumber (v : Value) : Bool :=
  v.number?.isSome

/-- Whether the value is a truth value. -/
def isBool : Value → Bool
  | .bool _ => true
  | _ => false

/-! ### Types and dictionary keys -/

/-- The value's type. -/
def typeClass : Value → ClassName
  | .none => .builtin "NoneType"
  | .bool _ => .builtin "bool"
  | .int _ => .builtin "int"
  | .float _ => .builtin "float"
  | .str _ => .builtin "str"
  | .bytes _ => .builtin "bytes"
  | .list _ => .builtin "list"
  | .tuple _ => .builtin "tuple"
  | .dict _ => .builtin "dict"
  | .set _ => .builtin "set"
  | .cls c => c.classOf
  | .member c _ _ _ => c
  | .subInt c _ => c
  | .subFloat c _ => c
  | .subStr c _ _ => c
  | .date _ => ⟨"datetime", "date"⟩
  | .moment _ => ⟨"datetime", "datetime"⟩
  | .loop _ body => typeClass body
  | .again _ enclosure => enclosure.typeClass

/-- The name of the value's type. -/
def typeName (v : Value) : String := v.typeClass.last

mutual

/-- The first list, dictionary or set that keeps a value from being a dictionary
key: the value itself or a part of a tuple. -/
def unhashable? : Value → Option Value
  | .list items => some (.list items)
  | .dict entries => some (.dict entries)
  | .set items => some (.set items)
  | .tuple items => unhashableItem? items
  | .loop _ body => unhashable? body
  | .again label enclosure => some (.again label enclosure)
  | _ => Option.none

/-- The first such part among the parts of a tuple. -/
def unhashableItem? : List Value → Option Value
  | [] => Option.none
  | v :: vs => match unhashable? v with
    | some part => some part
    | Option.none => unhashableItem? vs

end

end Value

end KeyTree
