/-
# Scalars

Reading the text of a scalar: plain, in quotes, or as a block of lines.

* `plainScalar` — words on one or several lines.
* `quotedScalar` — text in single or double quotes.
* `blockScalar` — lines kept as they are or folded.
-/

import KeyTree.Text.Quoted
import KeyTree.Yaml.Cursor

namespace KeyTree.Yaml

open Scan

/-- The text between two parts of a scalar on different lines: a single line end
becomes a space, further line ends stay. -/
def joinLines (lineBreak : Char) (further : List Char) : List Char :=
  if lineBreak ≠ '\n' then lineBreak :: further
  else if further.isEmpty then [' ']
  else further

/-! ### Plain scalars -/

/-- Whether a character ends a plain scalar inside a flow collection. -/
def endsInFlow (c : Char) : Bool := ",?[]\x7b\x7d".toList.contains c

/-- Whether a character after a colon makes it the mark of a value inside a flow
collection. -/
def endsValueInFlow (c : Char) : Bool := ",[]\x7b\x7d".toList.contains c

/-- The part of a plain scalar up to the next separator. -/
def plainPart (inFlow : Bool) : List Char → List Char
  | [] => []
  | c :: rest =>
    if isSeparator c then []
    else if c = ':' && (endsWord rest.head? || (inFlow && rest.head?.any endsValueInFlow)) then []
    else if inFlow && endsInFlow c then []
    else c :: plainPart inFlow rest

/-- The line ends between two lines of a plain scalar, or none when a marker of a
document comes first; at most `limit` characters are passed over. -/
def plainBreaks (limit : Nat) : Scan (Option (List Char)) := do
  match limit with
  | 0 => return some []
  | limit + 1 =>
    skipSpaces
    match ← lineBreak with
    | none => return some []
    | some c =>
      if (← get).atAnyMarker then return none
      else return (← plainBreaks limit).map (c :: ·)

/-- The text between two parts of a plain scalar, empty when the scalar ends here, and
whether a line ended. -/
def plainSpaces : Scan (List Char × Bool) := do
  let spaces ← takeWhile (· = ' ')
  match ← lineBreak with
  | none => return (spaces, false)
  | some c =>
    let cursor ← get
    if cursor.atAnyMarker then return ([], true)
    match ← plainBreaks cursor.rest.length with
    | none => return ([], true)
    | some further => return (joinLines c further, true)

/-- The rest of a plain scalar with at most `limit` parts, `spaces` being the text in
front of it; also whether a line ended after the last part. Outside flow collections
the parts are indented by `indent` columns at least. -/
def plainParts (limit : Nat) (inFlow : Bool) (indent : Int) (spaces : List Char)
    (broken : Bool) : Scan (List Char × Bool) := do
  match limit with
  | 0 => return ([], broken)
  | limit + 1 =>
    let cursor ← get
    let part := if cursor.rest.head? = some '#' then [] else plainPart inFlow cursor.rest
    if part.isEmpty then return ([], broken)
    skip part.length
    let (next, broken) ← plainSpaces
    let after ← get
    if next.isEmpty || after.rest.head? = some '#'
        || (!inFlow && (after.column : Int) < indent) then
      return (spaces ++ part, broken)
    else
      let (text, broken) ← plainParts limit inFlow indent next broken
      return (spaces ++ part ++ text, broken)

/-- A plain scalar, and whether a line ended after it. -/
def plainScalar (inFlow : Bool) (indent : Int) : Scan (String × Bool) := do
  let (text, broken) ← plainParts ((← get).rest.length + 1) inFlow indent [] false
  return (String.ofList text, broken)

/-! ### Quoted scalars -/

/-- The character that a letter stands for after a backslash. -/
def escapes : List (Char × Char) :=
  [('0', '\x00'), ('a', '\x07'), ('b', '\x08'), ('t', '\t'), ('\t', '\t'), ('n', '\n'),
   ('v', '\x0b'), ('f', '\x0c'), ('r', '\r'), ('e', '\x1b'), (' ', ' '), ('\x22', '\x22'),
   ('\\', '\\'), ('/', '/'), ('N', '\x85'), ('_', '\xa0'), ('L', '\u2028'), ('P', '\u2029')]

/-- The number of hexadecimal digits that follow a letter after a backslash. -/
def escapeWidths : List (Char × Nat) := [('x', 2), ('u', 4), ('U', 8)]

/-- The line ends between two lines of a quoted scalar. A marker of a document must
not come between; at most `limit` characters are passed over. -/
def quotedBreaks (limit : Nat) : Scan (List Char) := do
  match limit with
  | 0 => return []
  | limit + 1 =>
    require !(← get).atAnyMarker
    skipWhile fun c => c = ' ' || c = '\t'
    match ← lineBreak with
    | none => return []
    | some c => return c :: (← quotedBreaks limit)

/-- The text between two parts of a quoted scalar. -/
def quotedSpaces : Scan (List Char) := do
  let spaces ← takeWhile fun c => c = ' ' || c = '\t'
  require (← peek).isSome
  match ← lineBreak with
  | none => return spaces
  | some c => return joinLines c (← quotedBreaks (← get).rest.length.succ)

/-- The character of a number. -/
def charOfCode (code : Nat) : Scan Char :=
  match Text.charOfCode? code with
  | some c => return c
  | none =>
    if code < 0x110000 then malformed
    else if code < 0x80000000 then throw .notCharacter
    else throw .codeTooLarge

/-- What a backslash and the characters after it stand for. -/
def quotedEscape : Scan (List Char) := do
  skip 1
  match ← peek with
  | none => malformed
  | some c =>
    if let some meant := escapes.lookup c then
      skip 1
      return [meant]
    else if let some width := escapeWidths.lookup c then
      skip 1
      let digits := (← get).rest.take width
      require (digits.length = width)
      match Text.hexNumber? digits with
      | some code =>
        let meant ← charOfCode code
        skip width
        return [meant]
      | none => malformed
    else if isBreak c then
      let _ ← lineBreak
      quotedBreaks (← get).rest.length.succ
    else malformed

/-- Whether a character of a quoted scalar stands for itself in either kind of
quotes. -/
def isLiteral (c : Char) : Bool :=
  !(c = '\x27' || c = '\x22' || c = '\\' || isSeparator c)

/-- The rest of a quoted scalar in at most `limit` parts, up to its closing mark. -/
def quotedParts (limit : Nat) (mark : Char) : Scan (List Char) := do
  match limit with
  | 0 => malformed
  | limit + 1 =>
    let double := mark = '\x22'
    match (← get).rest with
    | [] => malformed
    | c :: rest =>
      if !double && c = mark && rest.head? = some mark then
        skip 2
        return mark :: (← quotedParts limit mark)
      else if c = mark then
        skip 1
        return []
      else if double && c = '\\' then
        let meant ← quotedEscape
        return meant ++ (← quotedParts limit mark)
      else if isSeparator c then
        let spaces ← quotedSpaces
        return spaces ++ (← quotedParts limit mark)
      else if isLiteral c then
        let text ← takeWhile isLiteral
        return text ++ (← quotedParts limit mark)
      else
        skip 1
        return c :: (← quotedParts limit mark)

/-- A scalar in quotes, whose opening mark is next. -/
def quotedScalar (mark : Char) : Scan String := do
  skip 1
  return String.ofList (← quotedParts ((← get).rest.length + 1) mark)

/-! ### Block scalars -/

/-- What becomes of the line ends at the end of a block: all are dropped, one is kept,
or all are kept. -/
inductive Chomping where
  | strip
  | clip
  | keep
  deriving DecidableEq, Repr

/-- The indentation of a block in addition to that around it, between one and nine. -/
def indentDigit : Scan (Option Nat) := do
  match ← peek with
  | some c =>
    if c.isDigit then
      require (c ≠ '0')
      skip 1
      return some (c.toNat - 0x30)
    else return none
  | none => return none

/-- The sign that tells what becomes of the line ends at the end of a block. -/
def chompingSign : Scan (Option Chomping) := do
  match ← peek with
  | some '+' => skip 1; return some .keep
  | some '-' => skip 1; return some .strip
  | _ => return none

/-- The signs after the mark of a block, in either order. -/
def blockSigns : Scan (Chomping × Option Nat) := do
  match ← chompingSign with
  | some chomping =>
    let indent ← indentDigit
    require (endsPlainly (← peek))
    return (chomping, indent)
  | none =>
    let indent ← indentDigit
    let chomping ← if indent.isSome then chompingSign else pure none
    require (endsPlainly (← peek))
    return (chomping.getD .clip, indent)

/-- The line ends in front of a block whose indentation is not given, and the greatest
column among the spaces between them. -/
def leadingBreaks (limit greatest : Nat) : Scan (List Char × Nat) := do
  match limit with
  | 0 => return ([], greatest)
  | limit + 1 =>
    skipSpaces
    let greatest := max greatest (← get).column
    match ← lineBreak with
    | none => return ([], greatest)
    | some c =>
      let (further, greatest) ← leadingBreaks limit greatest
      return (c :: further, greatest)

/-- Moves on over spaces up to a column. -/
def skipIndent (indent : Nat) : Scan Unit := do
  let cursor ← get
  skip ((cursor.rest.takeWhile (· = ' ')).length.min (indent - cursor.column))

/-- The line ends in front of the next line of a block, which is indented by `indent`
columns. -/
def blockBreaks (limit indent : Nat) : Scan (List Char) := do
  match limit with
  | 0 => return []
  | limit + 1 =>
    skipIndent indent
    match ← lineBreak with
    | none => return []
    | some c => return c :: (← blockBreaks limit indent)

/-- Whether a line of a folded block can be joined with another: its first character
is no space and no tabulator. -/
def startsPlainly (next : Option Char) : Bool := !next.any fun c => c = ' ' || c = '\t'

/-- The lines of a block from a line that is indented by `indent` columns, `breaks`
being the line ends in front of it. -/
def blockLines (limit : Nat) (folded : Bool) (chomping : Chomping) (indent : Nat)
    (breaks : List Char) (lineEnd : Option Char) : Scan (List Char) := do
  let ending : List Char :=
    (if chomping = .strip then [] else lineEnd.toList) ++ (if chomping = .keep then breaks else [])
  match limit with
  | 0 => return ending
  | limit + 1 =>
    let cursor ← get
    if cursor.column ≠ indent || cursor.rest.isEmpty then return ending
    let plainly := startsPlainly (← peek)
    let text ← takeWhile fun c => !isBreak c
    let lineEnd ← lineBreak
    let following ← blockBreaks ((← get).rest.length + 1) indent
    let after ← get
    let join : List Char :=
      if after.column ≠ indent || after.rest.isEmpty then []
      else if folded && lineEnd = some '\n' && plainly && startsPlainly after.rest.head? then
        if following.isEmpty then [' '] else []
      else lineEnd.toList
    return breaks ++ text ++ join ++ (← blockLines limit folded chomping indent following lineEnd)

/-- A block of lines, whose mark is next, in a block that is indented by `outer`
columns. -/
def blockScalar (folded : Bool) (outer : Int) : Scan String := do
  skip 1
  let (chomping, given) ← blockSigns
  finishLine
  let least := (max 1 (outer + 1)).toNat
  let limit := (← get).rest.length + 1
  let (breaks, indent) ← match given with
    | none => do
      let (breaks, greatest) ← leadingBreaks limit 0
      pure (breaks, max least greatest)
    | some more => do
      let indent := least + more - 1
      pure (← blockBreaks limit indent, indent)
  return String.ofList (← blockLines limit folded chomping indent breaks none)

end KeyTree.Yaml
