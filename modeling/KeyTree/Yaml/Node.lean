/-
# Nodes

The nodes that the tokens of a text describe. They stand in a table, and a collection refers to
its parts by their places there. An alias refers to the place of the node with its anchor, which
may be a collection that it stands in itself.

* `Node`, `Content` — a node with its tag; `Document` — the table of a document.
* `documentOf` — the document of a text with at most one document.
-/

import KeyTree.Yaml.Tag
import KeyTree.Yaml.Tokens

namespace KeyTree.Yaml

/-- What a node holds: the text of a scalar, or the places of the nodes in a collection. -/
inductive Content where
  | scalar (text : String)
  | sequence (items : List Nat)
  | mapping (entries : List (Nat × Nat))
  deriving DecidableEq, Repr, Inhabited

/-- A node: its tag and what it holds. -/
structure Node where
  tag : Tag
  content : Content
  deriving DecidableEq, Repr, Inhabited

/-- A document: the table of its nodes and the place of the outermost one. A recursive document
has an alias inside the node that it stands for. -/
structure Document where
  nodes : Array Node
  root : Nat
  recursive : Bool
  deriving Repr

/-- The state of the reading of nodes: the tokens left with the fault behind them, the handles of
tags, the anchors with the places of their nodes, the nodes read so far, and the places of the
collections that are being read. -/
structure NodeReader where
  tokens : List Token
  fault : Option LoadFault := none
  handles : List (String × String) := []
  anchors : List (String × Nat) := []
  nodes : Array Node := #[]
  opened : List Nat := []
  recursive : Bool := false
  deriving Repr

/-- A reading of nodes. It fails where the tokens do not fit together, and where it needs a
token behind a fault. -/
abbrev Compose := StateT NodeReader (Except LoadFault)

namespace Compose

/-- Fails on tokens that do not fit together. -/
def malformed {α : Type} : Compose α := throw .malformed

/-- The next token. -/
def peek : Compose (Option Token) := do
  let r ← get
  match r.tokens, r.fault with
  | token :: _, _ => return some token
  | [], some fault => throw fault
  | [], none => return none

/-- Moves on over a token. -/
def skip : Compose Unit := modify fun r => { r with tokens := r.tokens.drop 1 }

/-- Moves on over a token if it is the next one; tells whether it was. -/
def accept (token : Token) : Compose Bool := do
  if (← peek) = some token then
    skip
    return true
  else return false

/-- Moves on over a token, which must be the next one. -/
def expect (token : Token) : Compose Unit := do
  if !(← accept token) then malformed

/-- Whether the next token is one of some. -/
def atOneOf (tokens : List Token) : Compose Bool := do
  match ← peek with
  | some token => return tokens.contains token
  | none => return false

/-! ### Marks in front of a node -/

/-- An anchor, if one is next. -/
def anchor? : Compose (Option String) := do
  match ← peek with
  | some (.anchor name) => skip; return some name
  | _ => return none

/-- The handles that need no directive. -/
def standardHandles : List (String × String) := [("!", "!"), ("!!", "tag:yaml.org,2002:")]

/-- What a handle stands for. -/
def handleStart (handle : String) : Compose String := do
  match ((← get).handles ++ standardHandles).lookup handle with
  | some start => return start
  | none => malformed

/-- A tag as it is written, if one is next. -/
def writtenTag? : Compose (Option WrittenTag) := do
  match ← peek with
  | some (.tag written) => skip; return some written
  | _ => return none

/-- The name of a written tag in full. -/
def tagName (written : WrittenTag) : Compose String := do
  match written.handle with
  | some handle => return (← handleStart handle) ++ written.rest
  | none => return written.rest

/-- An anchor and a tag in either order, if they are next. -/
def writtenMarks : Compose (Option String × Option WrittenTag) := do
  match ← anchor? with
  | some name => return (some name, ← writtenTag?)
  | none =>
    match ← writtenTag? with
    | some tag => return (← anchor?, some tag)
    | none => return (none, none)

/-- The anchor and the name of the tag in front of a node. -/
def marks : Compose (Option String × Option String) := do
  let (anchor, written) ← writtenMarks
  return (anchor, ← written.mapM tagName)

/-- The tag of a collection by what is written in front of it; `form` is that of one without
tag. -/
def collectionTag (form : Tag) (name : Option String) : Tag :=
  match name with
  | none => form
  | some name => if name = "!" then form else .ofName name

/-- The tag of a scalar by what is written in front of it. Without a tag the form decides, but
only a plain scalar can be something else than a text. -/
def scalarTag (plain : Bool) (name : Option String) (text : String) : Tag :=
  match name with
  | none => if plain then .ofPlain text else .text
  | some name => if name = "!" then .ofPlain text else .ofName name

/-! ### Places -/

/-- Adds a node to the table, with its anchor, which must be new. -/
def add (anchor : Option String) (node : Node) : Compose Nat := do
  let r ← get
  let place := r.nodes.size
  match anchor with
  | none => set { r with nodes := r.nodes.push node }
  | some name =>
    if (r.anchors.lookup name).isSome then malformed
    set { r with nodes := r.nodes.push node, anchors := (name, place) :: r.anchors }
  return place

/-- Adds the node of nothing at all. -/
def addEmpty : Compose Nat := add none ⟨.ofPlain "", .scalar ""⟩

/-- Adds a collection, whose place is known while its parts are read. -/
def collection (anchor : Option String) (tag : Tag) (parts : Compose Content) : Compose Nat := do
  let place ← add anchor ⟨tag, .scalar ""⟩
  modify fun r => { r with opened := place :: r.opened }
  let content ← parts
  modify fun r =>
    { r with nodes := r.nodes.setIfInBounds place ⟨tag, content⟩, opened := r.opened.drop 1 }
  return place

/-- The place of the node that an alias stands for. -/
def aliased (name : String) : Compose Nat := do
  let r ← get
  match r.anchors.lookup name with
  | some place =>
    set { r with recursive := r.recursive || r.opened.contains place }
    return place
  | none => malformed

/-! ### Nodes -/

/-- The places where a node can stand: inside a flow collection, in a block, or as the
value or key of a block mapping, where a sequence needs no further indentation. -/
inductive Place where
  | flow
  | block
  | entry
  deriving DecidableEq, Repr

mutual

/-- The place of the node that is next. Every reading of a node or of a further entry takes one
of `limit` steps. -/
def node (limit : Nat) (place : Place) : Compose Nat := do
  match limit with
  | 0 => malformed
  | limit + 1 =>
    if let some (.alias name) ← peek then
      skip
      return ← aliased name
    let (anchor, tag) ← marks
    let next ← peek
    if place = .entry && next = some .blockEntry then
      collection anchor (collectionTag .sequence tag) (.sequence <$> plainEntries limit)
    else
      match next with
      | some (.scalar plain text) =>
        skip
        add anchor ⟨scalarTag plain tag text, .scalar text⟩
      | some .flowSequence =>
        skip
        collection anchor (collectionTag .sequence tag) (.sequence <$> flowItems limit true)
      | some .flowMapping =>
        skip
        collection anchor (collectionTag .mapping tag) (.mapping <$> flowEntries limit true)
      | some .blockSequence =>
        if place = .flow then malformed
        skip
        collection anchor (collectionTag .sequence tag) (.sequence <$> blockItems limit)
      | some .blockMapping =>
        if place = .flow then malformed
        skip
        collection anchor (collectionTag .mapping tag) (.mapping <$> blockEntries limit)
      | _ =>
        if anchor.isSome || tag.isSome then add anchor ⟨scalarTag true tag "", .scalar ""⟩
        else malformed

/-- The node that is next, or nothing in front of one of some tokens. -/
def nodeUnless (limit : Nat) (place : Place) (ends : List Token) : Compose Nat := do
  match limit with
  | 0 => malformed
  | limit + 1 => if ← atOneOf ends then addEmpty else node limit place

/-- The items of a block sequence up to its end. -/
def blockItems (limit : Nat) : Compose (List Nat) := do
  match limit with
  | 0 => malformed
  | limit + 1 =>
    if ← accept .blockEntry then
      let item ← nodeUnless limit .block [.blockEntry, .blockEnd]
      return item :: (← blockItems limit)
    else
      expect .blockEnd
      return []

/-- The items of a sequence that is not indented by itself. -/
def plainEntries (limit : Nat) : Compose (List Nat) := do
  match limit with
  | 0 => malformed
  | limit + 1 =>
    if ← accept .blockEntry then
      let item ← nodeUnless limit .block [.blockEntry, .key, .value, .blockEnd]
      return item :: (← plainEntries limit)
    else return []

/-- The entries of a block mapping up to its end. -/
def blockEntries (limit : Nat) : Compose (List (Nat × Nat)) := do
  match limit with
  | 0 => malformed
  | limit + 1 =>
    if ← accept .key then
      let key ← nodeUnless limit .entry [.key, .value, .blockEnd]
      let value ← blockValue limit
      return (key, value) :: (← blockEntries limit)
    else
      expect .blockEnd
      return []

/-- The value of an entry of a block mapping. -/
def blockValue (limit : Nat) : Compose Nat := do
  match limit with
  | 0 => malformed
  | limit + 1 =>
    if ← accept .value then nodeUnless limit .entry [.key, .value, .blockEnd]
    else addEmpty

/-- The items of a flow sequence up to its end. A single pair is a mapping of its
own. -/
def flowItems (limit : Nat) (first : Bool) : Compose (List Nat) := do
  match limit with
  | 0 => malformed
  | limit + 1 =>
    if ← accept .flowSequenceEnd then return []
    if !first then expect .flowEntry
    if ← accept .key then
      let key ← nodeUnless limit .flow [.value, .flowEntry, .flowSequenceEnd]
      let value ← flowValue limit .flowSequenceEnd
      let pair ← add none ⟨.mapping, .mapping [(key, value)]⟩
      return pair :: (← flowItems limit false)
    else if ← accept .flowSequenceEnd then return []
    else
      let item ← node limit .flow
      return item :: (← flowItems limit false)

/-- The entries of a flow mapping up to its end. An entry without colon has no
value. -/
def flowEntries (limit : Nat) (first : Bool) : Compose (List (Nat × Nat)) := do
  match limit with
  | 0 => malformed
  | limit + 1 =>
    if ← accept .flowMappingEnd then return []
    if !first then expect .flowEntry
    if ← accept .key then
      let key ← nodeUnless limit .flow [.value, .flowEntry, .flowMappingEnd]
      let value ← flowValue limit .flowMappingEnd
      return (key, value) :: (← flowEntries limit false)
    else if ← accept .flowMappingEnd then return []
    else
      let key ← node limit .flow
      let value ← addEmpty
      return (key, value) :: (← flowEntries limit false)

/-- The value of an entry of a flow collection. -/
def flowValue (limit : Nat) (ending : Token) : Compose Nat := do
  match limit with
  | 0 => malformed
  | limit + 1 =>
    if ← accept .value then nodeUnless limit .flow [.flowEntry, ending]
    else addEmpty

end

/-! ### Documents -/

/-- Reads the directives in front of a document; `version` tells whether the version
has been given. -/
def directives (version : Bool) : List Token → Compose Unit
  | .directive .other :: rest => directives version rest
  | .directive (.version major _) :: rest => do
    if version || major ≠ 1 then malformed
    directives true rest
  | .directive (.tag handle start) :: rest => do
    let r ← get
    if (r.handles.lookup handle).isSome then malformed
    set { r with handles := (handle, start) :: r.handles }
    directives version rest
  | rest => modify fun r => { r with tokens := rest }

/-- Whether a token begins or ends a document. -/
def isMarker : Token → Bool
  | .directive _ => true
  | .documentStart => true
  | .documentEnd => true
  | _ => false

/-- Moves on over the markers of the ends of documents. -/
def skipEnds : Compose Unit :=
  modify fun r => { r with tokens := r.tokens.dropWhile (· = .documentEnd) }

/-- The place of the node of a document after its marker. -/
def content (limit : Nat) : Compose Nat := do
  match ← peek with
  | none => addEmpty
  | some token => if isMarker token then addEmpty else node limit .block

/-- The node of a text with one document or none. What follows the document is read as far as
the start of another one. -/
def document (limit : Nat) : Compose (Option Nat) := do
  let root ← match ← peek with
    | none => pure none
    | some first =>
      if first = .documentStart || (first matches .directive _) then do
        directives false (← get).tokens
        expect .documentStart
        some <$> content limit
      else some <$> node limit .block
  skipEnds
  if (← peek).isSome then
    modify fun r => { r with handles := [] }
    directives false (← get).tokens
    let _ ← peek
    malformed
  return root

end Compose

/-- The document of a text, or none for a text without document. -/
def documentOf (text : List Char) : Except LoadFault (Option Document) := do
  let read := tokens text
  let limit := 4 * read.tokens.length + 4
  let reader : NodeReader := { tokens := read.tokens, fault := read.fault }
  let (root, reader) ← (Compose.document limit).run reader
  return root.map fun root => { nodes := reader.nodes, root, recursive := reader.recursive }

end KeyTree.Yaml
