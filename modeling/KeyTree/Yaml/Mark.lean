/-
# Anchors, tags and directives

Reading the marks that stand in front of nodes and documents.

* `anchorName` — the name after `&` or `*`.
* `writtenTag` — a tag, with a handle or in full.
* `directive` — an instruction in front of a document.
-/

import KeyTree.Text.Quoted
import KeyTree.Yaml.Cursor
import KeyTree.Yaml.Token

namespace KeyTree.Yaml

open Scan

/-- A name that is not empty. -/
def word : Scan String := do
  let name ← takeWhile isWordChar
  require !name.isEmpty
  return String.ofList name

/-- Whether the name of an anchor may end before a character. -/
def endsAnchor (next : Option Char) : Bool :=
  next.all fun c => isSeparator c || "?:,]\x7d%@\x60".toList.contains c

/-- The name of an anchor, whose mark is next. -/
def anchorName : Scan String := do
  skip 1
  let name ← word
  require (endsAnchor (← peek))
  return name

/-! ### Tags -/

/-- Whether a character may be part of a tag. -/
def isTagChar (c : Char) : Bool :=
  c.isAlphanum || "-;/?:@&=+$,_.!~*\x27()[]".toList.contains c

/-- Characters written by the hexadecimal codes of their bytes, at most `limit`
bytes. -/
def encodedBytes (limit : Nat) : Scan (List UInt8) := do
  match limit, (← get).rest with
  | limit + 1, '%' :: a :: b :: _ =>
    match Text.hexNumber? [a, b] with
    | some n =>
      skip 3
      return UInt8.ofNat n :: (← encodedBytes limit)
    | none => malformed
  | _, '%' :: _ => malformed
  | _, _ => return []

/-- The characters of a tag, in at most `limit` parts. -/
def tagParts (limit : Nat) : Scan (List Char) := do
  match limit with
  | 0 => return []
  | limit + 1 =>
    let plain ← takeWhile isTagChar
    if (← peek) = some '%' then
      let bytes ← encodedBytes (← get).rest.length
      match String.fromUTF8? ⟨bytes.toArray⟩ with
      | some text => return plain ++ text.toList ++ (← tagParts limit)
      | none => malformed
    else return plain

/-- The characters of a tag, of which there must be one at least. -/
def tagText : Scan String := do
  let text ← tagParts ((← get).rest.length + 1)
  require !text.isEmpty
  return String.ofList text

/-- A handle: an exclamation mark, alone or with another one and a name between
them. -/
def tagHandle : Scan String := do
  require ((← peek) = some '!')
  skip 1
  if (← peek) = some ' ' then return "!"
  let name ← takeWhile isWordChar
  require ((← peek) = some '!')
  skip 1
  return String.ofList ('!' :: name ++ ['!'])

/-- Whether a further exclamation mark comes before the end of a tag. -/
def hasHandle (rest : List Char) : Bool :=
  (rest.takeWhile fun c => !(c = ' ' || isBreak c)).contains '!'

/-- A tag, whose exclamation mark is next. -/
def writtenTag : Scan WrittenTag := do
  let second ← peekAt 1
  let tag ←
    if second = some '<' then do
      skip 2
      let text ← tagText
      require ((← peek) = some '>')
      skip 1
      pure ⟨none, text⟩
    else if endsWord second then do
      skip 1
      pure ⟨none, "!"⟩
    else if hasHandle ((← get).rest.drop 1) then do
      let handle ← tagHandle
      pure ⟨some handle, ← tagText⟩
    else do
      skip 1
      pure ⟨some "!", ← tagText⟩
  require (endsPlainly (← peek))
  return tag

/-! ### Directives -/

/-- A number of at least one digit, and of not too many. -/
def versionNumber : Scan Nat := do
  let digits ← takeWhile Char.isDigit
  require !digits.isEmpty
  if digitLimit < digits.length then throw (.tooManyDigits digits.length)
  return digits.foldl (fun n c => 10 * n + (c.toNat - 0x30)) 0

/-- A directive, whose mark is next. -/
def directive : Scan Directive := do
  skip 1
  let name ← word
  require (endsPlainly (← peek))
  let read ←
    if name = "YAML" then do
      skipSpaces
      let major ← versionNumber
      require ((← peek) = some '.')
      skip 1
      let minor ← versionNumber
      require (endsPlainly (← peek))
      pure (Directive.version major minor)
    else if name = "TAG" then do
      skipSpaces
      let handle ← tagHandle
      require ((← peek) = some ' ')
      skipSpaces
      let start ← tagText
      require (endsPlainly (← peek))
      pure (.tag handle start)
    else do
      skipWhile fun c => !isBreak c
      pure .other
  finishLine
  return read

end KeyTree.Yaml
