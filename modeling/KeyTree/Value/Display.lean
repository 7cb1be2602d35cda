/-
# Written forms of values

`Value.display` is the form in which a value is shown inside a message or another
value; `Value.print` is its bare form, in which a string is its content. An integer of too
many digits has neither, nor has a value that holds one: `Value.isTooLong` and, for the bare form,
`Value.printsTooLong`.
-/

import KeyTree.Number.Shortest
import KeyTree.Text.Quoted
import KeyTree.Value.Basic

namespace KeyTree

/-- How a truth value is written. -/
def boolText (b : Bool) : String := if b then "True" else "False"

/-- Texts one after another with a comma and a space between them. -/
def commaSeparated (parts : List String) : String :=
  String.intercalate ", " parts

/-- A tuple of parts: a single part is followed by a comma. -/
def tupleText : List String → String
  | [part] => "(" ++ part ++ ",)"
  | parts => "(" ++ commaSeparated parts ++ ")"

/-- How a collection is shown inside itself. -/
def Enclosure.mark : Enclosure → String
  | .list => "[...]"
  | .tuple => "(...)"
  | .dict => "\x7b...\x7d"

namespace Value

mutual

/-- How a value is shown. -/
def display : Value → String
  | .none => "None"
  | .bool b => boolText b
  | .int n => toString n
  | .float x => x.text
  | .str s => Text.quote s
  | .bytes bs => Text.quoteBytes bs
  | .list items => "[" ++ commaSeparated (displayItems items) ++ "]"
  | .tuple items => tupleText (displayItems items)
  | .dict entries => "\x7b" ++ commaSeparated (displayEntries entries) ++ "\x7d"
  | .set items =>
    if items.isEmpty then "set()"
    else "\x7b" ++ commaSeparated (displayItems items) ++ "\x7d"
  | .cls c => c.display
  | .member c _ name value => "<" ++ c.last ++ "." ++ name ++ ": " ++ display value ++ ">"
  | .subInt _ n => toString n
  | .subFloat _ x => x.text
  | .subStr _ s shown => shown.getD (Text.quote s)
  | .date d => d.display
  | .moment m => m.display
  | .loop _ body => display body
  | .again _ enclosure => enclosure.mark

/-- How the parts of a list are shown. -/
def displayItems : List Value → List String
  | [] => []
  | v :: vs => display v :: displayItems vs

/-- How the entries of a dictionary are shown. -/
def displayEntries : List (Value × Value) → List String
  | [] => []
  | (k, v) :: rest => (display k ++ ": " ++ display v) :: displayEntries rest

end

/-- The bare form of a value: a string is its content, a member of an enumeration
of numbers is its number, a member of another enumeration is its name, and a date or
a moment is its text. -/
def print (v : Value) : String :=
  match v.content? with
  | some s => s
  | Option.none =>
    match v with
    | .member c kind name value =>
      match kind with
      | .integer | .integerFlag => display value
      | _ => c.last ++ "." ++ name
    | .date d => d.text
    | .moment m => m.text
    | other => display other

/-! ### Long integers -/

/-- The most digits of an integer that has a decimal form. -/
def digitLimit : Nat := 4300

/-- The least number that has more digits. -/
def longInteger : Nat := tenPow digitLimit

mutual

/-- Whether a value has no written form, because it holds an integer that is too long. -/
def isTooLong : Value → Bool
  | .int n => longInteger ≤ n.natAbs
  | .subInt _ n => longInteger ≤ n.natAbs
  | .list items => areTooLong items
  | .tuple items => areTooLong items
  | .set items => areTooLong items
  | .dict entries => entriesTooLong entries
  | .member _ _ _ value => isTooLong value
  | .loop _ body => isTooLong body
  | _ => false

/-- Whether some of the values have no written form. -/
def areTooLong : List Value → Bool
  | [] => false
  | v :: vs => isTooLong v || areTooLong vs

/-- Whether some of the entries have no written form. -/
def entriesTooLong : List (Value × Value) → Bool
  | [] => false
  | (k, v) :: rest => isTooLong k || isTooLong v || entriesTooLong rest

end

/-- Whether a value has no bare form for this reason. The bare form of a member shows its value
only in an enumeration of numbers. -/
def printsTooLong : Value → Bool
  | .member _ .integer _ value => value.isTooLong
  | .member _ .integerFlag _ value => value.isTooLong
  | .member _ _ _ _ => false
  | other => other.isTooLong

/-- What a message says that should show such a value. -/
def tooLongMessage : String :=
  "Exceeds the limit (" ++ toString digitLimit ++ " digits) for integer string conversion; use "
    ++ "sys.set_int_max_str_digits() to increase the limit"

end Value

/-- How a string is shown. -/
def Text.display (t : Text) : String :=
  t.toValue.display

end KeyTree
