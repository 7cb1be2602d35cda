/-
# Tokens of a text

Dividing a text into tokens. Indentation opens and closes the blocks. Whether a token
is the key of a mapping is only known at the colon after it, so every token that could
be a key is remembered together with its place, and the tokens in front of the key are
put in when the colon is found.

* `Lexer` — the tokens found so far, with the open blocks and the possible keys.
* `nextToken` — finds at least one further token.
* `tokens` — the tokens of a text, as far as it is without fault.
-/

import KeyTree.Yaml.Mark
import KeyTree.Yaml.Scalar

namespace KeyTree.Yaml

/-- A token that could be a key: its number among the tokens, its place, and whether it
must be a key, being at the start of a line of a block. -/
structure PossibleKey where
  number : Nat
  index : Nat
  line : Nat
  column : Nat
  required : Bool
  deriving Repr

/-- The state of the division of a text. The tokens are kept last first. -/
structure Lexer where
  cursor : Cursor
  tokens : List Token := []
  count : Nat := 0
  /-- The number of flow collections around the place. -/
  depth : Nat := 0
  /-- The column of the innermost block, and those of the blocks around it. -/
  indent : Int := -1
  outer : List Int := []
  /-- Whether a key could start here. -/
  keyAllowed : Bool := true
  /-- The possible keys, each with its number of flow collections. -/
  possible : List (Nat × PossibleKey) := []
  deriving Repr

namespace Lexer

/-- Whether a possible key is on another line or too far back to be a key. -/
def isStale (l : Lexer) (key : PossibleKey) : Bool :=
  key.line ≠ l.cursor.line || 1024 < l.cursor.index - key.index

/-- The tokens that are certain to stand as they are: those in front of all possible keys. -/
def settled (l : Lexer) : List Token :=
  let pending := (l.possible.filter fun k => !l.isStale k.2).map fun k => k.2.number
  l.tokens.reverse.take (pending.foldl min l.count)

end Lexer

/-- A step of the division. It fails where the text is at fault. -/
abbrev Lex := StateT Lexer (Except LoadFault)

namespace Lex

/-- A reading from the place of the division. -/
def scan {α : Type} (reading : Scan α) : Lex α := do
  let lexer ← get
  let (value, cursor) ← reading.run lexer.cursor
  set { lexer with cursor }
  return value

/-- Fails on a malformed text. -/
def malformed {α : Type} : Lex α := throw .malformed

/-- Fails unless a condition holds. -/
def require (condition : Bool) : Lex Unit := if condition then pure () else malformed

/-- Adds a token. -/
def emit (token : Token) : Lex Unit :=
  modify fun l => { l with tokens := token :: l.tokens, count := l.count + 1 }

/-- Puts a token in front of the one with a number. -/
def insertAt (number : Nat) (token : Token) : Lex Unit :=
  modify fun l =>
    let later := l.count - number
    { l with tokens := l.tokens.take later ++ token :: l.tokens.drop later, count := l.count + 1 }

/-- Says whether a key could start here. -/
def allowKey (allowed : Bool) : Lex Unit := modify fun l => { l with keyAllowed := allowed }

/-! ### Indentation -/

/-- Closes the blocks that are indented by more than a column, given those around the
innermost one. -/
def closeBlocks (column : Int) (indent : Int) : List Int → Lex Unit
  | [] => modify fun l => { l with indent, outer := [] }
  | around :: outer => do
    if column < indent then
      emit .blockEnd
      closeBlocks column around outer
    else modify fun l => { l with indent, outer := around :: outer }

/-- Closes the blocks that end before a column. Inside a flow collection the
indentation means nothing. -/
def unwind (column : Int) : Lex Unit := do
  let l ← get
  if l.depth = 0 then closeBlocks column l.indent l.outer

/-- Opens a block at a column, if it is indented by more than the innermost one; tells
whether it is. -/
def openBlock (column : Nat) : Lex Bool := do
  let l ← get
  if l.indent < column then
    set { l with indent := column, outer := l.indent :: l.outer }
    return true
  else return false

/-! ### Possible keys -/

/-- Forgets the possible keys that are on another line or too far back. None of them
must be a key. -/
def forgetStale : Lex Unit := do
  let l ← get
  require !(l.possible.any fun k => l.isStale k.2 && k.2.required)
  set { l with possible := l.possible.filter fun k => !l.isStale k.2 }

/-- Forgets the possible key of the innermost collection, which must not be a required
one. -/
def forgetKey : Lex Unit := do
  let l ← get
  match l.possible.lookup l.depth with
  | none => pure ()
  | some key =>
    require !key.required
    set { l with possible := l.possible.filter (·.1 ≠ l.depth) }

/-- Remembers the token that comes next as a possible key. -/
def rememberKey : Lex Unit := do
  if (← get).keyAllowed then
    forgetKey
    modify fun l =>
      let key : PossibleKey :=
        { number := l.count, index := l.cursor.index, line := l.cursor.line
          column := l.cursor.column
          required := l.depth = 0 && l.indent = l.cursor.column }
      { l with possible := (l.depth, key) :: l.possible }

/-! ### Kinds of tokens -/

/-- Moves on to the next token over spaces, comments and the ends of lines, at most
`limit` of them. -/
def toNextToken (limit : Nat) : Lex Unit := do
  match limit with
  | 0 => pure ()
  | limit + 1 =>
    scan do
      Scan.skipSpaces
      Scan.skipComment
    if (← scan Scan.lineBreak).isSome then
      if (← get).depth = 0 then allowKey true
      toNextToken limit

/-- Ends everything in front of a document or its marker. -/
def endBlocks : Lex Unit := do
  unwind (-1)
  forgetKey
  allowKey false

/-- A marker of a document. -/
def marker (token : Token) : Lex Unit := do
  endBlocks
  scan (Scan.skip 3)
  emit token

/-- The start of a flow collection. -/
def openFlow (token : Token) : Lex Unit := do
  rememberKey
  modify fun l => { l with depth := l.depth + 1 }
  allowKey true
  scan (Scan.skip 1)
  emit token

/-- The end of a flow collection. -/
def closeFlow (token : Token) : Lex Unit := do
  forgetKey
  require ((← get).depth ≠ 0)
  modify fun l => { l with depth := l.depth - 1 }
  allowKey false
  scan (Scan.skip 1)
  emit token

/-- The comma between the entries of a flow collection. -/
def flowEntry : Lex Unit := do
  allowKey true
  forgetKey
  scan (Scan.skip 1)
  emit .flowEntry

/-- The mark of an entry of a block sequence. -/
def blockEntry : Lex Unit := do
  let l ← get
  if l.depth = 0 then
    require l.keyAllowed
    if ← openBlock l.cursor.column then emit .blockSequence
  allowKey true
  forgetKey
  scan (Scan.skip 1)
  emit .blockEntry

/-- Opens a block mapping here, unless it is open already or inside a flow
collection. -/
def startMapping : Lex Unit := do
  let l ← get
  if l.depth = 0 then
    require l.keyAllowed
    if ← openBlock l.cursor.column then emit .blockMapping

/-- The mark of a key. -/
def explicitKey : Lex Unit := do
  startMapping
  allowKey ((← get).depth = 0)
  forgetKey
  scan (Scan.skip 1)
  emit .key

/-- The colon in front of a value. The possible key before it is a key. -/
def valueMark : Lex Unit := do
  let l ← get
  match l.possible.lookup l.depth with
  | some key =>
    set { l with possible := l.possible.filter (·.1 ≠ l.depth) }
    insertAt key.number .key
    if l.depth = 0 then
      if ← openBlock key.column then insertAt key.number .blockMapping
    allowKey false
  | none =>
    startMapping
    allowKey ((← get).depth = 0)
    forgetKey
  scan (Scan.skip 1)
  emit .value

/-- A token that could be a key. -/
def keyed (token : Lex Token) : Lex Unit := do
  rememberKey
  allowKey false
  emit (← token)

/-- A plain scalar. After the end of its line a key could start. -/
def plain : Lex Token := do
  let l ← get
  let (text, broken) ← scan (plainScalar (l.depth ≠ 0) (l.indent + 1))
  allowKey broken
  return .scalar true text

/-- A block of lines. -/
def block (folded : Bool) : Lex Unit := do
  allowKey true
  forgetKey
  let text ← scan (blockScalar folded (← get).indent)
  emit (.scalar false text)

/-- Whether a plain scalar can start with a character, given the one after it. -/
def startsPlain (inFlow : Bool) (c : Char) (next : Option Char) : Bool :=
  !(isSeparator c || "-?:,[]\x7b\x7d#&*!|>\x27\x22%@\x60".toList.contains c)
    || (!endsWord next && (c = '-' || (!inFlow && (c = '?' || c = ':'))))

/-! ### All tokens -/

/-- Finds the next token, and the tokens that it implies; tells whether there was one. -/
def nextToken : Lex Bool := do
  toNextToken ((← get).cursor.rest.length + 1)
  forgetStale
  let l ← get
  unwind l.cursor.column
  let inFlow := l.depth ≠ 0
  match l.cursor.rest with
  | [] =>
    unwind (-1)
    forgetKey
    return false
  | c :: rest =>
    let next := rest.head?
    let first := l.cursor.column = 0
    if c = '%' && first then
      endBlocks
      emit (.directive (← scan directive))
    else if first && l.cursor.atMarker '-' then marker .documentStart
    else if first && l.cursor.atMarker '.' then marker .documentEnd
    else if c = '[' then openFlow .flowSequence
    else if c = '\x7b' then openFlow .flowMapping
    else if c = ']' then closeFlow .flowSequenceEnd
    else if c = '\x7d' then closeFlow .flowMappingEnd
    else if c = ',' then flowEntry
    else if c = '-' && endsWord next then blockEntry
    else if c = '?' && (inFlow || endsWord next) then explicitKey
    else if c = ':' && (inFlow || endsWord next) then valueMark
    else if c = '*' then keyed (.alias <$> scan anchorName)
    else if c = '&' then keyed (.anchor <$> scan anchorName)
    else if c = '!' then keyed (.tag <$> scan writtenTag)
    else if c = '|' && !inFlow then block false
    else if c = '>' && !inFlow then block true
    else if c = '\x27' || c = '\x22' then keyed (.scalar false <$> scan (quotedScalar c))
    else if startsPlain inFlow c next then keyed plain
    else malformed
    return true

end Lex

/-- The tokens of a text, or those in front of a fault: a reader that needs no more of them
never meets the fault. -/
structure Tokens where
  tokens : List Token
  fault : Option LoadFault := none
  deriving Repr

/-- Finds all further tokens. Each takes one character at least, so `limit` steps suffice when
fewer characters are left. -/
def Lexer.finish (l : Lexer) : Nat → Tokens
  | 0 => { tokens := l.settled, fault := some .malformed }
  | limit + 1 =>
    match Lex.nextToken.run l with
    | .ok (true, l) => l.finish limit
    | .ok (false, l) => { tokens := l.tokens.reverse }
    | .error fault => { tokens := l.settled, fault := some fault }

/-- The tokens of a text. -/
def tokens (text : List Char) : Tokens :=
  if text.all isAllowed then
    let start : Cursor := { rest := text }
    let cursor := if text.head? = some byteOrderMark then start.next else start
    Lexer.finish { cursor } (text.length + 1)
  else { tokens := [], fault := some .malformed }

end KeyTree.Yaml
