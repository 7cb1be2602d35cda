/-
# Tags

The tag of a node tells how it is read. A plain scalar without tag has one by its form: a truth
value, a number, a timestamp, nothing, one of the two marks of mappings, or else a text.

* `Tag` — the tags that have a meaning; `Tag.ofName` — the tag of a written name.
* `Tag.ofPlain` — the tag of a plain scalar.
-/

import KeyTree.Number.Reading
import KeyTree.Yaml.Timestamp

namespace KeyTree.Yaml

/-- The tags that have a meaning, and that of a node without one. -/
inductive Tag where
  | null
  | bool
  | int
  | float
  | binary
  | timestamp
  | text
  | sequence
  | mapping
  | orderedMapping
  | pairs
  | set
  | merge
  | value
  | unknown
  deriving DecidableEq, Repr, Inhabited

/-- The start of the names of the tags that have a meaning. -/
def tagStart : String := "tag:yaml.org,2002:"

/-- The rest of their names. -/
def tagNames : List (String × Tag) :=
  [("null", .null), ("bool", .bool), ("int", .int), ("float", .float), ("binary", .binary),
   ("timestamp", .timestamp), ("str", .text), ("seq", .sequence), ("map", .mapping),
   ("omap", .orderedMapping), ("pairs", .pairs), ("set", .set), ("merge", .merge),
   ("value", .value)]

/-- The tag of a written name. -/
def Tag.ofName (name : String) : Tag :=
  ((tagNames.map fun t => (tagStart ++ t.1, t.2)).lookup name).getD .unknown

/-! ### Words -/

/-- The words that stand for nothing. -/
def nullWords : List String := ["", "~", "null", "Null", "NULL"]

/-- The words for the two truth values, in lower case. -/
def truthWords : List (String × Bool) :=
  [("yes", true), ("no", false), ("true", true), ("false", false), ("on", true), ("off", false)]

/-- A word in its three spellings: lower case, capitalised, upper case. -/
def spellings (w : String) : List String := [w, w.capitalize, w.toUpper]

/-- The words for infinity and for no number, after a point. -/
def infinityWords : List String := spellings "inf"

/-- The spellings of the word for no number. -/
def nanWords : List String := ["nan", "NaN", "NAN"]

/-! ### Numbers -/

/-- Whether a character is a digit or an underscore. -/
def isDigitOrUnderscore (c : Char) : Bool := c.isDigit || c = '_'

/-- Whether a character is an octal digit or an underscore. -/
def isOctal (c : Char) : Bool := ('0' ≤ c && c ≤ '7') || c = '_'

/-- Whether a character is a binary digit or an underscore. -/
def isBinary (c : Char) : Bool := c = '0' || c = '1' || c = '_'

/-- Whether a character is a hexadecimal digit or an underscore. -/
def isHexadecimal (c : Char) : Bool :=
  c.isDigit || ('a' ≤ c && c ≤ 'f') || ('A' ≤ c && c ≤ 'F') || c = '_'

/-- Whether some digits are a number below sixty, of one or two digits. -/
def isSixtieth : List Char → Bool
  | [d] => d.isDigit
  | [t, d] => '0' ≤ t && t ≤ '5' && d.isDigit
  | _ => false

/-- What is left after the further parts of a number to the base sixty, each after a
colon, or none when there is no such part. -/
def afterSixtieths (limit : Nat) (s : List Char) : Option (List Char) :=
  match limit, s with
  | limit + 1, ':' :: rest =>
    if isSixtieth (rest.takeWhile Char.isDigit) then
      let further := rest.dropWhile Char.isDigit
      match further with
      | ':' :: _ => afterSixtieths limit further
      | _ => some further
    else none
  | _, _ => none

/-- Whether the rest of a number is nothing or an exponent with a sign. -/
def isExponent : List Char → Bool
  | [] => true
  | e :: sign :: digits =>
    (e = 'e' || e = 'E') && (sign = '-' || sign = '+') && !digits.isEmpty
      && digits.all Char.isDigit
  | _ => false

/-- Whether a text without its sign has the form of an integer. -/
def isInteger (s : List Char) : Bool :=
  match s with
  | '0' :: rest =>
    match rest with
    | 'b' :: digits => !digits.isEmpty && digits.all isBinary
    | 'x' :: digits => !digits.isEmpty && digits.all isHexadecimal
    | digits => digits.all isOctal
  | c :: rest =>
    c.isDigit &&
      match rest.dropWhile isDigitOrUnderscore with
      | [] => true
      | further => afterSixtieths further.length further = some []
  | [] => false

/-- Whether a text has the form of a number with a point. -/
def isFloat (s : List Char) : Bool :=
  match Number.splitSign s, s with
  | (_, '.' :: rest), _ =>
    infinityWords.contains (String.ofList rest)
      || (s.head? = some '.' &&
        (nanWords.contains (String.ofList rest)
          || (rest.head?.any Char.isDigit && isExponent (rest.dropWhile isDigitOrUnderscore))))
  | (_, c :: rest), _ =>
    c.isDigit &&
      match rest.dropWhile isDigitOrUnderscore with
      | '.' :: fraction => isExponent (fraction.dropWhile isDigitOrUnderscore)
      | further =>
        match afterSixtieths further.length further with
        | some ('.' :: fraction) => fraction.all isDigitOrUnderscore
        | _ => false
  | _, _ => false

/-! ### Forms -/

/-- Whether a text has the form of a timestamp. -/
def isTimestamp (s : List Char) : Bool := (Timestamp.ofText? s).any Timestamp.isEvident

/-- The signs that are reserved. -/
def reservedSigns : List String := ["!", "&", "*"]

/-- The tag of a plain scalar that does not end a line. -/
def tagOfForm (s : String) : Tag :=
  if truthWords.any fun w => (spellings w.1).contains s then .bool
  else if isFloat s.toList then .float
  else if isInteger (Number.splitSign s.toList).2 then .int
  else if s = "<<" then .merge
  else if nullWords.contains s then .null
  else if isTimestamp s.toList then .timestamp
  else if s = "=" then .value
  else if reservedSigns.contains s then .unknown
  else .text

/-- The characters of a text without the end of a line at its end. -/
def withoutFinalBreak (s : List Char) : List Char :=
  if s.getLast? = some '\n' then s.dropLast else s

/-- The tag of a plain scalar. The end of a line behind it does not count, unless there is
nothing in front of it. -/
def Tag.ofPlain (s : String) : Tag :=
  if s = "\n" then .text else tagOfForm (String.ofList (withoutFinalBreak s.toList))

end KeyTree.Yaml
