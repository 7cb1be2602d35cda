/-
# Values of a text

The value that a YAML text stands for. The scalars of a document are read where they stand, and
the collections one after the other in the order in which they are met, each from a table of
nodes in which merged entries have been taken over. A mapping keeps the order of its keys, and a
repeated key keeps its place and takes the last value. At last the collections are put together;
one that is met inside itself is a loop.

* `Part`, `Collection` — what is read of a node: its value, or the place of a collection.
* `Reader.readCollection` — reads one collection; `Reader.drain` — reads all of them.
* `Collections.value` — puts the collections together.
* `load` — the value of a text, or why it has none; `loader` — the reading of texts by it.
-/

import KeyTree.Value.Display
import KeyTree.Value.Equality
import KeyTree.Yaml.Merge
import KeyTree.Yaml.Reading

namespace KeyTree.Yaml

/-! ### Parts -/

/-- What is read of a node: the value of a scalar, or the place of a collection. -/
inductive Part where
  | scalar (v : Value)
  | collection (place : Nat)
  deriving Repr, Inhabited

/-- A key of a mapping. Two keys that are no numbers are the same only if they were read at one
place, or both by the text for no number, which has no place of its own. -/
structure Key where
  value : Value
  place : Option Nat
  deriving Repr

/-- Whether a key is the value for no number. -/
def Key.isNan (k : Key) : Bool := k.value matches .float .nan

/-- Whether two keys are the same. -/
def Key.same (a b : Key) : Bool :=
  a.value.same b.value || (a.isNan && b.isNan && a.place = b.place)

/-- A collection whose parts are read. Pairs keep the places of the entries that they are read
from. -/
inductive Collection where
  | list (items : List Part)
  | dict (entries : List (Key × Part))
  | pairs (items : List (Nat × Part × Part))
  | set (keys : List Key)
  deriving Repr, Inhabited

/-- Some entries after a value is put under a key. A key that is already there keeps its
place. -/
def putEntry (key : Key) (part : Part) : List (Key × Part) → List (Key × Part)
  | [] => [(key, part)]
  | (k, p) :: rest =>
    if k.same key then (k, part) :: rest else (k, p) :: putEntry key part rest

/-! ### Reading -/

/-- The state of the reading: the table of nodes, the places of the collections that are met,
those among them that are still to be read, the last one first, and the collections read. -/
structure LoadState where
  nodes : Array Node
  met : List Nat := []
  waiting : List Nat := []
  collections : List (Nat × Collection) := []
  deriving Repr

/-- A reading of the nodes of a document. -/
abbrev Reader := StateT LoadState (Except LoadFault)

namespace Reader

/-- Fails on a node that has no meaning. -/
def malformed {α : Type} : Reader α := throw .malformed

/-- A change to the table of nodes. -/
def table {α : Type} (change : Table α) : Reader α := do
  let s ← get
  let (value, nodes) ← change.run s.nodes
  set { s with nodes }
  return value

/-- The node at a place. -/
def nodeAt (place : Nat) : Reader Node := table (Table.nodeAt place)

/-- The first entry whose key is a lone equals sign: its value. -/
def standIn? : List (Nat × Nat) → Reader (Option Nat)
  | [] => return none
  | (key, value) :: rest => do
    if (← nodeAt key).tag = .value then return some value else standIn? rest

/-- The text of a node that is read as a scalar. A mapping has the text of the value under a lone
equals sign; every mapping on the way takes one of `limit` steps. -/
def scalarText (limit : Nat) (place : Nat) : Reader String := do
  match (← nodeAt place).content with
  | .scalar text => return text
  | .sequence _ => malformed
  | .mapping entries =>
    match limit, ← standIn? entries with
    | limit + 1, some value => scalarText limit value
    | _, _ => malformed

/-- The value of a node with the tag of a scalar. -/
def scalarValue (tag : Tag) (place : Nat) : Reader Value := do
  let text ← scalarText (← get).nodes.size place
  match tag, (← nodeAt place).content with
  | .timestamp, .mapping _ => throw .mappingAsTimestamp
  | tag, _ => readScalar tag text

/-- Notes that a collection is met, so that it is read in its turn. -/
def meet (place : Nat) : Reader Unit :=
  modify fun s =>
    if s.met.contains place then s
    else { s with met := place :: s.met, waiting := place :: s.waiting }

/-- What is read of the node at a place. -/
def part (place : Nat) : Reader Part := do
  let tag := (← nodeAt place).tag
  if [Tag.sequence, .mapping, .orderedMapping, .pairs, .set].contains tag then
    meet place
    return .collection place
  else return .scalar (← scalarValue tag place)

/-- The parts at some places. -/
def parts : List Nat → Reader (List Part)
  | [] => return []
  | place :: rest => do
    let first ← part place
    return first :: (← parts rest)

/-- The key at a place, which must be a scalar. -/
def key (place : Nat) : Reader Key := do
  match ← part place with
  | .collection _ => malformed
  | .scalar (.float .nan) =>
    let text ← scalarText (← get).nodes.size place
    return ⟨.float .nan, if isNanText text then none else some place⟩
  | .scalar v => return ⟨v, none⟩

/-- The entries of a mapping, put one after the other behind those before them. -/
def entries (earlier : List (Key × Part)) : List (Nat × Nat) → Reader (List (Key × Part))
  | [] => return earlier
  | (keyPlace, valuePlace) :: rest => do
    let key ← key keyPlace
    let value ← part valuePlace
    entries (putEntry key value earlier) rest

/-- The entries of the mapping at a place, together with those that it takes over. -/
def mapping (place : Nat) : Reader (List (Key × Part)) := do
  let limit ← table Table.entryCount
  table (Table.flatten limit place)
  entries [] (← table (Table.entriesAt place))

/-- The pairs of a sequence of mappings with one entry each. -/
def pairs : List Nat → Reader (List (Nat × Part × Part))
  | [] => return []
  | place :: rest => do
    match (← nodeAt place).content with
    | .mapping [(key, value)] =>
      let key ← part key
      let value ← part value
      return (place, key, value) :: (← pairs rest)
    | _ => malformed

/-- Reads the parts of the collection at a place. -/
def readCollection (place : Nat) : Reader Unit := do
  let node ← nodeAt place
  let read ← match node.tag, node.content with
    | .sequence, .sequence items => Collection.list <$> parts items
    | .mapping, .mapping _ => .dict <$> mapping place
    | .set, .mapping _ => (fun entries => .set (entries.map Prod.fst)) <$> mapping place
    | .orderedMapping, .sequence items => .pairs <$> pairs items
    | .pairs, .sequence items => .pairs <$> pairs items
    | _, _ => malformed
  modify fun s => { s with collections := (place, read) :: s.collections }

/-- Reads collections, and then those that are met in them. Every collection and every round
takes one of `limit` steps. -/
def drain (limit : Nat) (turn : List Nat) : Reader Unit := do
  match limit, turn with
  | 0, _ => malformed
  | limit + 1, place :: rest =>
    readCollection place
    drain limit rest
  | limit + 1, [] =>
    let s ← get
    if s.waiting.isEmpty then return ()
    else
      set { s with waiting := [] }
      drain limit s.waiting.reverse

/-- Reads a whole document. -/
def document (root : Nat) : Reader Part := do
  let part ← part root
  drain (2 * (← get).nodes.size + 2) []
  return part

end Reader

/-! ### Putting together -/

/-- The collections of a document by their places. -/
abbrev Collections := List (Nat × Collection)

/-- The place of a part that is a collection. -/
def Part.place? : Part → Option Nat
  | .scalar _ => none
  | .collection place => some place

/-- The places of the collections in a collection. -/
def Collection.places : Collection → List Nat
  | .list items => items.filterMap Part.place?
  | .dict entries => entries.filterMap fun entry => entry.2.place?
  | .pairs items => items.flatMap fun (_, k, v) => k.place?.toList ++ v.place?.toList
  | .set _ => []

namespace Collections

/-- The places of the collections in the collection at a place. -/
def next (cs : Collections) (place : Nat) : List Nat :=
  ((cs.lookup place).map Collection.places).getD []

/-- The places that can be reached from some, at most `limit` of them being looked at. -/
def reachable (cs : Collections) (limit : Nat) (seen : List Nat) : List Nat → List Nat
  | [] => seen
  | place :: rest =>
    match limit with
    | 0 => seen
    | limit + 1 =>
      if seen.contains place then reachable cs limit seen rest
      else reachable cs limit (place :: seen) (cs.next place ++ rest)

/-- The places that can be reached from a collection. -/
def within (cs : Collections) (places : List Nat) : List Nat :=
  let refs := cs.foldl (fun n c => n + c.2.places.length) 0
  cs.reachable (refs + places.length + 1) [] places

/-- What kind of collection a collection becomes. -/
def enclosureAt (cs : Collections) (place : Nat) : Enclosure :=
  match cs.lookup place with
  | some (.dict _) => .dict
  | _ => .list

/-- The label of the collection at a place. -/
def label (place : Nat) : Nat := 2 * place

/-- The label of the pair that is read from the entry at a place. -/
def pairLabel (place : Nat) : Nat := 2 * place + 1

/-- A collection as a loop, if it holds itself. -/
def looped (holdsItself : Bool) (label : Nat) (body : Value) : Value :=
  if holdsItself then .loop label body else body

/-- The size of the table in which the numbers of a set are kept. -/
def setSize (count : Nat) : Nat := if count < 5 then 8 else twoPow (Nat.log2 (2 * count) + 1)

/-- The integer that a value of a set is kept by. -/
def setNumber? : Value → Option Int
  | .int n => some n
  | .bool b => some (Value.boolInt b)
  | _ => none

/-- A set of values. Integers come in the order of their remainders by the size of the table, and
other values in the order in which they are given. -/
def setOf (values : List Value) : Value :=
  let size : Int := setSize values.length
  let place (v : Value) : Int := ((setNumber? v).getD 0) % size
  if values.all fun v => (setNumber? v).isSome then
    .set (values.mergeSort fun a b => place a ≤ place b)
  else .set values

/-- The value of a part, inside of the loops whose labels are open. A path through the collections
meets at most `limit` of them before it meets one again. -/
def value (cs : Collections) (recursive : Bool) (limit : Nat) (opened : List Nat) :
    Part → Value
  | .scalar v => v
  | .collection place =>
    match limit with
    | 0 => .none
    | limit + 1 =>
      if opened.contains (label place) then .again (label place) (cs.enclosureAt place)
      else
        let holdsItself := recursive && (cs.within (cs.next place)).contains place
        let opened := if holdsItself then label place :: opened else opened
        let body := match cs.lookup place with
          | some (.list items) => .list (items.map (value cs recursive limit opened))
          | some (.dict entries) =>
            .dict (entries.map fun e => (e.1.value, value cs recursive limit opened e.2))
          | some (.set keys) => setOf (keys.map Key.value)
          | some (.pairs items) =>
            .list (items.map fun (entry, k, v) =>
              let places := k.place?.toList ++ v.place?.toList
              let holdsItself := recursive && (cs.within places).contains place
              let label := pairLabel entry
              if opened.contains label then .again label .tuple
              else
                let opened := if holdsItself then label :: opened else opened
                looped holdsItself label
                  (.tuple [value cs recursive limit opened k, value cs recursive limit opened v]))
          | none => .none
        looped holdsItself (label place) body

end Collections

/-- The value of a text. A text without document stands for nothing. -/
def load (text : String) : Except LoadFault Value := do
  match ← documentOf text.toList with
  | none => return .none
  | some d =>
    let (root, s) ← (Reader.document d.root).run { nodes := d.nodes }
    return Collections.value s.collections d.recursive (s.collections.length + 1) [] root

/-- The reading of texts as the values that they stand for. -/
def loader : Loader := fun text => (load text).mapError LoadFault.problem

end KeyTree.Yaml
