/-
# UTF-8

The bytes of a text and the text of bytes. The first byte of a character fixes how many
bytes follow and in which range each of them lies; so no character has two forms, and
none lies beyond the last code point or among the surrogates.

* `encode` — the bytes of a text.
* `decode` — the text of bytes, or the first run of bytes that is no character.
-/

import KeyTree.Text.Quoted

namespace KeyTree.Text.Utf8

/-- The bytes of a text. -/
def encode (text : String) : List UInt8 := text.toUTF8.data.toList

/-! ### Faults -/

/-- Why a run of bytes is no character. -/
inductive Reason where
  /-- No character starts with the byte. -/
  | start
  /-- The byte behind the run does not continue it. -/
  | continuation
  /-- The bytes end within a character. -/
  | ending
  deriving DecidableEq, Repr

/-- The wording of a reason. -/
def Reason.message : Reason → String
  | .start => "invalid start byte"
  | .continuation => "invalid continuation byte"
  | .ending => "unexpected end of data"

/-- A run of bytes that is no character: where it starts, its first byte and its
length. -/
structure Fault where
  position : Nat
  first : UInt8
  length : Nat
  reason : Reason
  deriving DecidableEq, Repr

/-- The wording of a fault. -/
def Fault.message (f : Fault) : String :=
  "'utf-8' codec can't decode "
    ++ (if f.length = 1 then
          "byte 0x" ++ String.ofList (hexDigits 2 f.first.toNat)
            ++ " in position " ++ toString f.position
        else
          "bytes in position " ++ toString f.position ++ "-"
            ++ toString (f.position + f.length - 1))
    ++ ": " ++ f.reason.message

/-! ### Decoding -/

/-- The range of a byte inside a character, unless the first byte narrows it. -/
def inside : UInt8 × UInt8 := (0x80, 0xBF)

/-- The ranges of the bytes behind a first byte, if a character starts with it. -/
def ranges? (first : UInt8) : Option (List (UInt8 × UInt8)) :=
  if first < 0x80 then some []
  else if first < 0xC2 then none
  else if first < 0xE0 then some [inside]
  else if first = 0xE0 then some [(0xA0, 0xBF), inside]
  else if first = 0xED then some [(0x80, 0x9F), inside]
  else if first < 0xF0 then some [inside, inside]
  else if first = 0xF0 then some [(0x90, 0xBF), inside, inside]
  else if first < 0xF4 then some [inside, inside, inside]
  else if first = 0xF4 then some [(0x80, 0x8F), inside, inside]
  else none

/-- The bits of a first byte with a number of bytes behind it. -/
def firstBits (first : UInt8) (behind : Nat) : Nat :=
  if behind = 0 then first.toNat else first.toNat % Nat.pow 2 (6 - behind)

/-- The code point that bytes in the given ranges complete, or why they do not and
how many of them fit. -/
def complete (code fitting : Nat) :
    List (UInt8 × UInt8) → List UInt8 → Except (Reason × Nat) Nat
  | [], _ => .ok code
  | _ :: _, [] => .error (.ending, fitting)
  | range :: ranges, byte :: rest =>
    if range.1 ≤ byte ∧ byte ≤ range.2 then
      complete (64 * code + byte.toNat % 64) (fitting + 1) ranges rest
    else .error (.continuation, fitting)

/-- The characters of bytes, the first of which is at the given position. -/
def decodeFrom (position : Nat) (bytes : List UInt8) : Except Fault (List Char) :=
  match bytes with
  | [] => .ok []
  | first :: rest =>
    match ranges? first with
    | none => .error ⟨position, first, 1, .start⟩
    | some ranges =>
      match complete (firstBits first ranges.length) 0 ranges rest with
      | .error (reason, fitting) => .error ⟨position, first, fitting + 1, reason⟩
      | .ok code =>
        (Char.ofNat code :: ·) <$>
          decodeFrom (position + 1 + ranges.length) (rest.drop ranges.length)
  termination_by bytes.length
  decreasing_by simp only [List.length_cons, List.length_drop]; omega

/-- The text of bytes. -/
def decode (bytes : List UInt8) : Except Fault String :=
  String.ofList <$> decodeFrom 0 bytes

end KeyTree.Text.Utf8
