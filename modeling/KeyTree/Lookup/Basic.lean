/-
# Lookups

A lookup is a decision tree with the value that it reports on a miss. An input
that is not a text is a miss without any test.

* `Lookup` — the lookup; `Answer` — what it answers; `Trace` — how it came about.
* `Lookup.find`, `Lookup.get`, `Lookup.contains` — the queries.
* `Lookup.keys`, `Lookup.size`, `Lookup.depth`, `Lookup.nodeCount` — its structure.
-/

import KeyTree.Tree.Display
import KeyTree.Tree.Traversal
import KeyTree.Tree.Walk

namespace KeyTree

/-- A lookup over a fixed set of keys. -/
structure Lookup where
  root : Tree
  keyCount : Int := 0
  valueType : Value := .none
  default : Value := .none
  name : Value := .none
  deriving Repr

/-- What a lookup answers: whether the input is a key, and the value of the key or
the value reported on a miss. -/
structure Answer where
  found : Bool
  value : Value
  deriving Repr

/-- An answer with the walk that led to it. -/
structure Trace where
  walk : Walk
  answer : Answer
  deriving Repr

/-- The reasons why the number of keys of a lookup cannot be told, or its keys cannot be
listed. -/
inductive SizeFault where
  /-- The number is negative. -/
  | negative
  /-- The number is too large to be a size. -/
  | tooLarge
  /-- There is no room for a list of so many keys. -/
  | noRoom
  deriving DecidableEq, Repr

/-- The wording of a fault. -/
def SizeFault.message : SizeFault → String
  | .negative => "__len__() should return >= 0"
  | .tooLarge => "cannot fit 'int' into an index-sized integer"
  | .noRoom => ""

/-- The least number that is too large to be a size. -/
def sizeBound : Nat := twoPow 63

/-- The least number of keys that there is no room for. -/
def roomBound : Nat := twoPow 36

namespace Lookup

/-- The answer at the end of a walk. -/
def answer (l : Lookup) (w : Walk) : Answer :=
  match w.found with
  | some entry => ⟨true, entry.value⟩
  | none => ⟨false, l.default⟩

/-- Looks up an input and records the tests made. -/
def trace (l : Lookup) (input : Value) : Except ReadFault Trace :=
  match input.text? with
  | none => .ok ⟨{}, l.answer {}⟩
  | some text => (fun w => ⟨w, l.answer w⟩) <$> l.root.walk text.chars

/-- Looks up an input. -/
def find (l : Lookup) (input : Value) : Except ReadFault Answer :=
  (·.answer) <$> l.trace input

/-- The value of a key, or the alternative for an input that is no key. -/
def get (l : Lookup) (input alternative : Value) : Except ReadFault Value :=
  (fun a => if a.found then a.value else alternative) <$> l.find input

/-- Whether an input is a key. -/
def contains (l : Lookup) (input : Value) : Except ReadFault Bool :=
  (·.found) <$> l.find input

/-- The entries in declaration order. -/
def entries (l : Lookup) : List Entry :=
  l.root.entries.mergeSort fun a b => a.index ≤ b.index

/-- The keys in declaration order. -/
def keys (l : Lookup) : List Text :=
  l.entries.map Entry.text

/-- The number of keys. -/
def size (l : Lookup) : Except SizeFault Nat :=
  if l.keyCount < 0 then .error .negative
  else if sizeBound ≤ l.keyCount.toNat then .error .tooLarge
  else .ok l.keyCount.toNat

/-- The keys one after the other, with room for as many as there should be. -/
def listed (l : Lookup) : Except SizeFault (List Text) :=
  match l.size with
  | .error fault => .error fault
  | .ok size => if roomBound ≤ size then .error .noRoom else .ok l.keys

/-- The most tests that one query can need. -/
def depth (l : Lookup) : Nat := l.root.depth

/-- The number of nodes of the tree. -/
def nodeCount (l : Lookup) : Nat := l.root.nodeCount

/-- Whether two lookups are equal in every part. -/
def same (a b : Lookup) : Bool :=
  a.root.same b.root && a.keyCount = b.keyCount && a.valueType.same b.valueType
    && a.default.same b.default && a.name.same b.name

end Lookup

end KeyTree
