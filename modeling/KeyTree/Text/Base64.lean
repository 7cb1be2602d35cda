/-
# Bytes written with sixty-four signs

Reading bytes from a text that has a sign for every six bits. Other characters in the text mean
nothing. Four signs make three bytes; at the end, two signs and two marks make one byte, and
three signs and a mark make two.

* `decodeBase64?` — the bytes of a text, if its last signs are complete.
-/

namespace KeyTree.Text

/-- The six bits of a sign. -/
def sextet? (c : Char) : Option Nat :=
  if 'A' ≤ c ∧ c ≤ 'Z' then some (c.toNat - 0x41)
  else if 'a' ≤ c ∧ c ≤ 'z' then some (c.toNat - 0x61 + 26)
  else if '0' ≤ c ∧ c ≤ '9' then some (c.toNat - 0x30 + 52)
  else if c = '+' then some 62
  else if c = '/' then some 63
  else none

/-- The byte that a sign completes after `place` signs of its group of four, the bits left over
from them being `rest`. -/
def completedByte (place rest bits : Nat) : List UInt8 :=
  if place = 1 then [UInt8.ofNat (rest * 4 + bits / 16)]
  else if place = 2 then [UInt8.ofNat (rest * 16 + bits / 4)]
  else if place = 3 then [UInt8.ofNat (rest * 64 + bits)]
  else []

/-- The bits of a sign that are left over after `place` signs of its group. -/
def leftover (place bits : Nat) : Nat :=
  if place = 0 then bits
  else if place = 1 then bits % 16
  else if place = 2 then bits % 4
  else 0

/-- The bytes of a text in the middle of a group of four signs: `place` of them are read, with
the bits `rest` left over, and `marks` marks behind them. The marks that complete a group end
the text. -/
def decodeBase64From (place rest marks : Nat) : List Char → Option (List UInt8)
  | [] => if place = 0 then some [] else none
  | c :: text =>
    if c = '=' then
      if place < 2 then decodeBase64From place rest marks text
      else if 4 ≤ place + marks + 1 then some []
      else decodeBase64From place rest (marks + 1) text
    else
      match sextet? c with
      | none => decodeBase64From place rest marks text
      | some bits =>
        (completedByte place rest bits ++ ·) <$>
          decodeBase64From ((place + 1) % 4) (leftover place bits) 0 text

/-- The bytes of a text. -/
def decodeBase64? (text : List Char) : Option (List UInt8) := decodeBase64From 0 0 0 text

end KeyTree.Text
