/-
# Numbers read from text

Texts that stand for numbers: integers in a base, and floating-point numbers in
decimal with an optional fraction and exponent. Blanks around a number are
ignored, and an underscore may stand between two digits. Digits of every script
count.
-/

import KeyTree.Number.Binary64
import KeyTree.Text.Blank
import KeyTree.Text.Digit

namespace KeyTree.Number

open KeyTree.Text

/-! ### Digits -/

/-- The digits with the underscores between them taken out, or none when an
underscore does not stand between two digits. -/
def dropSeparators? (isDigit : Char → Bool) : List Char → Option (List Char)
  | [] => some []
  | '_' :: _ => none
  | c :: '_' :: d :: rest =>
    if isDigit c && isDigit d then (c :: ·) <$> dropSeparators? isDigit (d :: rest) else none
  | c :: rest => (c :: ·) <$> dropSeparators? isDigit rest

/-- The value of a run of decimal digits, continuing from `start`. -/
def decimalFrom (start : Nat) (digits : List Char) : Nat :=
  digits.foldl (fun n c => 10 * n + (c.toNat - 0x30)) start

/-- The value of a character as a digit of some base, letters counting on from
ten. -/
def baseDigit? (base : Nat) (c : Char) : Option Nat :=
  let value? :=
    match digitValue? c with
    | some n => some n
    | none =>
      if 'a' ≤ c ∧ c ≤ 'z' then some (c.toNat - 0x57)
      else if 'A' ≤ c ∧ c ≤ 'Z' then some (c.toNat - 0x37)
      else none
  value?.filter (· < base)

/-! ### Margins -/

/-- Whether a character may stand around a number: white space other than the
information separators. -/
def isMargin (c : Char) : Bool :=
  isBlank c && !(0x1C ≤ c.toNat && c.toNat ≤ 0x1F)

/-- The characters without the white space around them. -/
def trimMargins (s : List Char) : List Char :=
  ((s.dropWhile isMargin).reverse.dropWhile isMargin).reverse

/-! ### Integers -/

/-- Takes the sign off a number: whether it is negative, and the rest. -/
def splitSign : List Char → Bool × List Char
  | '-' :: rest => (true, rest)
  | '+' :: rest => (false, rest)
  | s => (false, s)

/-- The letter that marks a base after a zero. -/
def baseLetter? (base : Nat) : Option Char :=
  if base = 2 then some 'b' else if base = 8 then some 'o' else if base = 16 then some 'x' else none

/-- Takes the mark of the base off a number, if there is one; an underscore may follow
it. -/
def dropBaseMark (base : Nat) (s : List Char) : List Char :=
  match s with
  | '0' :: letter :: rest =>
    if some letter.toLower = baseLetter? base then
      match rest with
      | '_' :: digits => digits
      | digits => digits
    else s
  | _ => s

/-- The integer written in a base, with an optional sign and an optional mark of the
base. -/
def readInt? (base : Nat) (s : List Char) : Option Int := do
  let (negative, rest) := splitSign (trimMargins s)
  let digits ← dropSeparators? (fun c => (baseDigit? base c).isSome) (dropBaseMark base rest)
  if digits.isEmpty then none
  else
    let n ← digits.foldlM (fun n c => (baseDigit? base c).map (base * n + ·)) 0
    some (if negative then -(n : Int) else n)

/-! ### Floating-point numbers -/

/-- A digit of any script written as an ASCII digit; other characters stay. -/
def asciiDigit (c : Char) : Char :=
  match digitValue? c with
  | some n => Char.ofNat (0x30 + n)
  | none => c

/-- The exponent after a mantissa: nothing, or `e` with a signed number. -/
def readExponent? : List Char → Option Int
  | [] => some 0
  | c :: rest =>
    if c = 'e' ∨ c = 'E' then
      let (negative, digits) := splitSign rest
      if digits.isEmpty || !digits.all Char.isDigit then none
      else
        let n := decimalFrom 0 digits
        some (if negative then -(n : Int) else n)
    else none

/-- A number without its sign: digits with at most one point among them, at least
one digit, then an exponent. -/
def readMagnitude? (negative : Bool) (s : List Char) : Option Binary64 := do
  let whole := s.takeWhile Char.isDigit
  let rest := s.dropWhile Char.isDigit
  let (fraction, rest) := match rest with
    | '.' :: more => (more.takeWhile Char.isDigit, more.dropWhile Char.isDigit)
    | other => ([], other)
  if whole.isEmpty && fraction.isEmpty then none
  else
    let exponent ← readExponent? rest
    let digits := decimalFrom (decimalFrom 0 whole) fraction
    some (Binary64.ofScientific negative digits (exponent - fraction.length))

/-- The floating-point number of a text, rounded to nearest; also the names of the
infinities and of no number, in any case. -/
def readFloat? (s : String) : Option Binary64 := do
  let plain ← dropSeparators? Char.isDigit ((trimMargins s.toList).map asciiDigit)
  let (negative, magnitude) := splitSign plain
  let word := String.ofList (magnitude.map Char.toLower)
  if word = "inf" ∨ word = "infinity" then some (.infinite negative)
  else if word = "nan" then some .nan
  else readMagnitude? negative magnitude

end KeyTree.Number
