/-
# Quoted text

The written form of a text or of a string of bytes as a literal on one line.
Single quotes enclose it, unless it holds a single quote and no double one. The
enclosing mark and the backslash are escaped, as are the tabulator and the two
line ends; every other character without a printed form is written by its code
point in two, four or eight hexadecimal digits. A text may also hold halves of
pairs, code points that are no characters: these are written by their code points.

`unquote?` reads the literal of a text of characters back.
-/

import KeyTree.Text.Unprintable

namespace KeyTree.Text

/-! ### Writing -/

/-- The enclosing mark: a single quote, unless the text holds one and holds no
double quote. -/
def quoteMark (s : List Char) : Char :=
  if s.contains '\x27' && !s.contains '\x22' then '\x22' else '\x27'

/-- The lower-case hexadecimal digit of a value below sixteen. -/
def hexDigit (n : Nat) : Char :=
  if n < 10 then Char.ofNat (0x30 + n) else Char.ofNat (0x57 + n)

/-- The last `width` hexadecimal digits of a number. -/
def hexDigits : Nat → Nat → List Char
  | 0, _ => []
  | width + 1, n => hexDigits width (n / 16) ++ [hexDigit (n % 16)]

/-- A character written by its code point, in the shortest of the three widths. -/
def escapeCode (c : Char) : List Char :=
  if c.toNat < 0x100 then '\\' :: 'x' :: hexDigits 2 c.toNat
  else if c.toNat < 0x10000 then '\\' :: 'u' :: hexDigits 4 c.toNat
  else '\\' :: 'U' :: hexDigits 8 c.toNat

/-- One character inside the given marks; `asIs` tells which characters have a
printed form. -/
def escapeChar (asIs : Char → Bool) (mark c : Char) : List Char :=
  if c = mark ∨ c = '\\' then ['\\', c]
  else if c = '\t' then ['\\', 't']
  else if c = '\n' then ['\\', 'n']
  else if c = '\r' then ['\\', 'r']
  else if asIs c then [c]
  else escapeCode c

/-- The literal of a text, as characters. -/
def quoteChars (asIs : Char → Bool) (s : List Char) : List Char :=
  quoteMark s :: (s.flatMap (escapeChar asIs (quoteMark s)) ++ [quoteMark s])

/-- The literal of a text. -/
def quote (s : String) : String :=
  String.ofList (quoteChars isPrintable s.toList)

/-- A code point of a text: a character, or one half of the pairs that stand for characters in
texts of 16 bits. -/
inductive Point where
  | char (c : Char)
  | half (n : Fin 0x800)
  deriving DecidableEq, Repr

/-- The code point as a character. -/
def Point.char? : Point → Option Char
  | .char c => some c
  | .half _ => none

/-- The number of a code point. -/
def Point.code : Point → Nat
  | .char c => c.toNat
  | .half n => 0xD800 + n

/-- One code point inside the given marks. -/
def escapePoint (mark : Char) : Point → List Char
  | .char c => escapeChar isPrintable mark c
  | .half n => '\\' :: 'u' :: hexDigits 4 (Point.half n).code

/-- The literal of a text of code points. -/
def quotePoints (s : List Point) : String :=
  let mark := quoteMark (s.filterMap Point.char?)
  String.ofList (mark :: (s.flatMap (escapePoint mark) ++ [mark]))

/-- Characters are code points. -/
theorem quotePoints_map_char (s : String) : quotePoints (s.toList.map .char) = quote s := by
  have chars : (s.toList.map Point.char).filterMap Point.char? = s.toList := by
    simp [List.filterMap_map, Function.comp_def, Point.char?]
  simp only [quotePoints, quote, quoteChars, chars, List.flatMap_map, escapePoint]

/-- The literal of a string of bytes: each byte is the character of that code, and
only ASCII has a printed form. -/
def quoteBytes (bytes : List UInt8) : String :=
  String.ofList <| 'b' ::
    quoteChars (fun c => 0x20 ≤ c.toNat && c.toNat ≤ 0x7E)
      (bytes.map fun b => Char.ofNat b.toNat)

/-! ### Reading -/

/-- The value of a hexadecimal digit of either case. -/
def hexValue? (c : Char) : Option Nat :=
  if '0' ≤ c ∧ c ≤ '9' then some (c.toNat - 0x30)
  else if 'a' ≤ c ∧ c ≤ 'f' then some (c.toNat - 0x57)
  else if 'A' ≤ c ∧ c ≤ 'F' then some (c.toNat - 0x37)
  else none

/-- The value of a run of hexadecimal digits. -/
def hexNumber? (digits : List Char) : Option Nat :=
  digits.foldlM (fun n c => (hexValue? c).map (16 * n + ·)) 0

/-- The character of a code point, if there is one. -/
def charOfCode? (n : Nat) : Option Char :=
  if n.isValidChar then some (Char.ofNat n) else none

/-- The character of a run of hexadecimal digits. -/
def charOfHex? (digits : List Char) : Option Char :=
  hexNumber? digits >>= charOfCode?

/-- The text inside a literal whose opening mark has been read, up to the closing
mark, which must be the last character. -/
def unquoteBody? (mark : Char) : List Char → Option (List Char)
  | [] => none
  | '\\' :: 't' :: rest => ('\t' :: ·) <$> unquoteBody? mark rest
  | '\\' :: 'n' :: rest => ('\n' :: ·) <$> unquoteBody? mark rest
  | '\\' :: 'r' :: rest => ('\r' :: ·) <$> unquoteBody? mark rest
  | '\\' :: 'x' :: a :: b :: rest => do
    let c ← charOfHex? [a, b]
    (c :: ·) <$> unquoteBody? mark rest
  | '\\' :: 'u' :: a :: b :: c :: d :: rest => do
    let c ← charOfHex? [a, b, c, d]
    (c :: ·) <$> unquoteBody? mark rest
  | '\\' :: 'U' :: a :: b :: c :: d :: e :: f :: g :: h :: rest => do
    let c ← charOfHex? [a, b, c, d, e, f, g, h]
    (c :: ·) <$> unquoteBody? mark rest
  | '\\' :: c :: rest =>
    if c = '\\' ∨ c = '\x27' ∨ c = '\x22' then (c :: ·) <$> unquoteBody? mark rest else none
  | c :: rest =>
    if c = mark then if rest = [] then some [] else none
    else if c = '\n' ∨ c = '\r' ∨ c = '\\' then none
    else (c :: ·) <$> unquoteBody? mark rest

/-- The text of a literal in single or double quotes that stands on one line. -/
def unquote? : List Char → Option (List Char)
  | [] => none
  | mark :: rest => if mark = '\x27' ∨ mark = '\x22' then unquoteBody? mark rest else none

end KeyTree.Text
