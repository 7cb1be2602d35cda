/-
# Merged mappings

A mapping takes over the entries of other mappings that stand under a merge mark, and they come
before its own. A lone equals sign is a key like any other text.

* `Table` — a change to the table of the nodes of a document.
* `Table.flatten` — takes the entries over.
-/

import KeyTree.Yaml.Node

namespace KeyTree.Yaml

/-- A change to the table of nodes. It fails where a merge mark has no mapping under it. -/
abbrev Table := StateT (Array Node) (Except LoadFault)

namespace Table

/-- Fails on a node in a place where it has no meaning. -/
def malformed {α : Type} : Table α := throw .malformed

/-- The node at a place. -/
def nodeAt (place : Nat) : Table Node := do
  match (← get)[place]? with
  | some node => return node
  | none => malformed

/-- The entries of a node, which must be a mapping. -/
def entriesAt (place : Nat) : Table (List (Nat × Nat)) := do
  match (← nodeAt place).content with
  | .mapping entries => return entries
  | _ => malformed

/-- Replaces the entries of a mapping. -/
def setEntries (place : Nat) (entries : List (Nat × Nat)) : Table Unit := do
  let node ← nodeAt place
  modify fun nodes => nodes.setIfInBounds place { node with content := .mapping entries }

/-- The tag of the node at a place. -/
def tagAt (place : Nat) : Table Tag := do return (← nodeAt place).tag

/-- Makes the equals signs among some keys texts. -/
def settleKeys : List (Nat × Nat) → Table Unit
  | [] => return ()
  | (key, _) :: rest => do
    let node ← nodeAt key
    if node.tag = .value then
      modify fun nodes => nodes.setIfInBounds key { node with tag := .text }
    settleKeys rest

/-- Takes the first entry with a merge mark out of some entries: its value, and the other
entries. -/
def takeMerge : List (Nat × Nat) → Table (Option (Nat × List (Nat × Nat)))
  | [] => return none
  | (key, value) :: rest => do
    if (← tagAt key) = .merge then return some (value, rest)
    else
      match ← takeMerge rest with
      | some (taken, others) => return some (taken, (key, value) :: others)
      | none => return none

/-- The entries of each of several mappings, every one made ready first. -/
def mergedFromAll (prepare : Nat → Table Unit) : List Nat → Table (List (List (Nat × Nat)))
  | [] => return []
  | item :: rest => do
    prepare item
    let entries ← entriesAt item
    return entries :: (← mergedFromAll prepare rest)

/-- The entries that a node under a merge mark gives: those of a mapping, or those of several
mappings, the last one first. -/
def mergedFrom (prepare : Nat → Table Unit) (place : Nat) : Table (List (Nat × Nat)) := do
  match (← nodeAt place).content with
  | .mapping _ => return (← mergedFromAll prepare [place]).flatten
  | .sequence items => return (← mergedFromAll prepare items).reverse.flatten
  | .scalar _ => malformed

/-- Takes the entries of other mappings over into the mapping at a place. Every merge mark takes
one of `limit` steps. -/
def flatten (limit : Nat) (place : Nat) : Table Unit := do
  let entries ← entriesAt place
  match ← takeMerge entries with
  | none => settleKeys entries
  | some (source, others) =>
    match limit with
    | 0 => malformed
    | limit + 1 =>
      setEntries place others
      let taken ← mergedFrom (flatten limit) source
      flatten limit place
      setEntries place (taken ++ (← entriesAt place))

/-- The number of entries of all mappings. -/
def entryCount : Table Nat := do
  let sizes := (← get).toList.map fun node =>
    match node.content with
    | .mapping entries => entries.length
    | _ => 0
  return sizes.foldl (· + ·) 0

end Table

end KeyTree.Yaml
