/-
# Tokens

The parts that a YAML text consists of. The structure of blocks, which the text shows
by indentation only, has tokens of its own.
-/

namespace KeyTree.Yaml

/-- The tag of a node as it is written: a handle, unless the tag is given in full, and
what follows it. -/
structure WrittenTag where
  handle : Option String
  rest : String
  deriving DecidableEq, Repr

/-- An instruction in front of a document: the version, a handle for tags, or one
without effect. -/
inductive Directive where
  | version (major minor : Nat)
  | tag (handle start : String)
  | other
  deriving DecidableEq, Repr

/-- A part of a text. -/
inductive Token where
  | directive (d : Directive)
  | documentStart
  | documentEnd
  | blockSequence
  | blockMapping
  | blockEnd
  | flowSequence
  | flowSequenceEnd
  | flowMapping
  | flowMappingEnd
  | blockEntry
  | flowEntry
  | key
  | value
  | alias (name : String)
  | anchor (name : String)
  | tag (written : WrittenTag)
  | scalar (plain : Bool) (text : String)
  deriving DecidableEq, Repr

end KeyTree.Yaml
