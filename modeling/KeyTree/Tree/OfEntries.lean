/-
# The tree of a declaration

The decision tree for a list of entries: the entries are divided by their length,
each length has the tree of its group, and the tests of the length stand above.
-/

import KeyTree.Entry.KeySet
import KeyTree.Tree.Dispatch
import KeyTree.Tree.Group

namespace KeyTree

/-- The entries divided by their length, as buckets for the dispatch. -/
def lengthBuckets (entries : List Entry) : List (Int × List Entry) :=
  (byLength entries).map fun c => ((c.1 : Int), c.2)

/-- The tree of entries in declaration order. It fails where two entries have the
same text. -/
def Tree.ofEntries (entries : List Entry) : Except BuildFault Tree :=
  Tree.dispatch (lengthBuckets entries) Tree.ofGroup

/-- The tree of a key set. -/
def KeySet.tree (keys : KeySet) : Except BuildFault Tree :=
  Tree.ofEntries keys.entries

end KeyTree
