/-
# Scalars by their tags

The value of a scalar as its tag says it: an integer in one of five bases, a floating-point
number, a truth value, bytes, a date or a moment.

* `readInteger`, `readFloating`, `readTruth`, `readBytes`, `readTimestamp` — the readings.
-/

import KeyTree.Text.Base64
import KeyTree.Text.LowerCase
import KeyTree.Text.Parts
import KeyTree.Yaml.Tag

namespace KeyTree.Yaml

/-! ### Integers -/

/-- The number of digits that a text starts with, behind margins and a sign. -/
def leadingDigits (s : List Char) : Nat :=
  let digits := (Number.splitSign (Number.trimMargins s)).2
  (digits.takeWhile fun c => (Text.digitValue? c).isSome).length

/-- The integer of a text in a base. Decimal numbers must not have too many digits. -/
def intOf (base : Nat) (s : List Char) : Except LoadFault Int :=
  if base = 10 ∧ digitLimit < leadingDigits s then .error (.tooManyDigits (leadingDigits s))
  else
    match Number.readInt? base s with
    | some n => .ok n
    | none => .error (.notInteger base (String.ofList s))

/-- The integer of a text without its sign: in base two, eight or sixteen by its start,
in base sixty with colons, and otherwise in base ten. -/
def readMagnitude (s : List Char) : Except LoadFault Int :=
  match s with
  | [] => .error .emptyNumber
  | '0' :: 'b' :: digits => intOf 2 digits
  | '0' :: 'x' :: digits => intOf 16 digits
  | '0' :: _ => intOf 8 s
  | _ =>
    if s.contains ':' then do
      let parts ← (Text.parts ':' s).mapM (intOf 10)
      return parts.foldl (fun n part => 60 * n + part) 0
    else intOf 10 s

/-- The integer of a scalar. Underscores mean nothing. -/
def readInteger (s : String) : Except LoadFault Int := do
  match s.toList.filter (· ≠ '_') with
  | [] => .error .emptyNumber
  | '-' :: rest => return -(← readMagnitude rest)
  | '+' :: rest => readMagnitude rest
  | digits => readMagnitude digits

/-! ### Floating-point numbers -/

/-- The floating-point number of a text. -/
def floatOf (s : List Char) : Except LoadFault Binary64 :=
  match Number.readFloat? (String.ofList s) with
  | some x => .ok x
  | none => .error (.notFloat (String.ofList s))

/-- The sum of parts to the base sixty, the last part first, each times its power. -/
def sumSixtieths (total : Binary64) (power : Nat) :
    List Binary64 → Except LoadFault Binary64
  | [] => .ok total
  | part :: rest =>
    match Binary64.ofInt? power with
    | none => .error .tooManyParts
    | some factor => sumSixtieths (total.add (part.mul factor)) (60 * power) rest

/-- The text for no number. -/
def nanText : List Char := ".nan".toList

/-- The floating-point number of a scalar without its sign. -/
def readFraction (s : List Char) : Except LoadFault Binary64 :=
  if s = ".inf".toList then .ok (.infinite false)
  else if s = nanText then .ok .nan
  else if s.contains ':' then do
    let parts ← (Text.parts ':' s).mapM floatOf
    sumSixtieths (.zero false) 1 parts.reverse
  else floatOf s

/-- The characters of a floating-point number that count: underscores mean nothing, and neither
does the case of letters. -/
def floatingChars (s : String) : List Char :=
  Text.lowerCase (s.toList.filter (· ≠ '_'))

/-- The floating-point number of a scalar. -/
def readFloating (s : String) : Except LoadFault Binary64 := do
  match floatingChars s with
  | [] => .error .emptyNumber
  | '-' :: rest => return (← readFraction rest).neg
  | '+' :: rest => readFraction rest
  | digits => readFraction digits

/-- Whether a scalar stands for no number by the text for it, and not as a result. -/
def isNanText (s : String) : Bool := (Number.splitSign (floatingChars s)).2 = nanText

/-! ### Other scalars -/

/-- The truth value of a scalar. -/
def readTruth (s : String) : Except LoadFault Bool :=
  let word := String.ofList (Text.lowerCase s.toList)
  match truthWords.lookup word with
  | some b => .ok b
  | none => .error (.notTruth word)

/-- The bytes of a scalar. -/
def readBytes (s : String) : Except LoadFault (List UInt8) :=
  if s.toList.all fun c => c.toNat < 0x80 then
    match Text.decodeBase64? s.toList with
    | some bytes => .ok bytes
    | none => .error .malformed
  else .error .malformed

/-- The date or the moment of a scalar. -/
def readTimestamp (s : String) : Except LoadFault Value :=
  match Timestamp.ofText? (withoutFinalBreak s.toList) with
  | some t => t.value.mapError .calendar
  | none => .error .notTimestamp

/-- The value of a scalar with a tag. -/
def readScalar (tag : Tag) (s : String) : Except LoadFault Value :=
  match tag with
  | .null => .ok .none
  | .bool => .bool <$> readTruth s
  | .int => .int <$> readInteger s
  | .float => .float <$> readFloating s
  | .binary => .bytes <$> readBytes s
  | .timestamp => readTimestamp s
  | .text => .ok (.str s)
  | _ => .error .malformed

end KeyTree.Yaml
