/-
# Values as collections

The values that a collection yields one after the other: a list, a tuple or a set its parts, a
dictionary its keys, a string its characters, a string of bytes its numbers, an enumeration its
members and a set of flags its flags. Other values yield nothing and are no collections.

* `Value.items` — the values that a value yields; `ItemsFault` — why it yields none.
* `Value.isTruthy` — whether a value counts as true.
-/

import KeyTree.Value.Cycle

namespace KeyTree

/-- The reasons why a value yields no values. -/
inductive ItemsFault where
  /-- The value is no collection. -/
  | notCollection (typeName : String)
  /-- The flags of a negative number are not all known. -/
  | negativeFlags (n : Int)
  /-- A set of flags is no number. -/
  | notFlags (typeName : String)
  deriving DecidableEq, Repr

/-- The wording of a fault. -/
def ItemsFault.message : ItemsFault → String
  | .notCollection typeName => "'" ++ typeName ++ "' object is not iterable"
  | .negativeFlags n => toString n ++ " is not a positive integer"
  | .notFlags typeName => "'" ++ typeName ++ "' object has no attribute 'bit_count'"

/-! ### Enumerations -/

/-- The members of the enumerations that have some, by their names and values. -/
def knownMembers : List (ClassName × EnumKind × List (String × Value)) :=
  [(⟨"lookupgen.matching.protocols", "ComparisonMode"⟩, .plain, [("ORDINAL", .str "ordinal")]),
   (⟨"enum", "FlagBoundary"⟩, .string,
    [("STRICT", .str "strict"), ("CONFORM", .str "conform"), ("EJECT", .str "eject"),
     ("KEEP", .str "keep")]),
   (⟨"enum", "EnumCheck"⟩, .string,
    [("CONTINUOUS", .str "no skipped integer values"),
     ("NAMED_FLAGS", .str "multi-flag aliases may not contain unnamed flags"),
     ("UNIQUE", .str "one name per value")]),
   (⟨"uuid", "SafeUUID"⟩, .plain,
    [("safe", .int 0), ("unsafe", .int (-1)), ("unknown", .none)])]

/-- The members of an enumeration. -/
def ClassName.members (c : ClassName) : List Value :=
  match knownMembers.lookup c with
  | some (kind, members) => members.map fun m => .member c kind m.1 m.2
  | none => []

/-! ### Flags -/

/-- The number of ones among the binary digits of a number. -/
def bitCount (n : Nat) : Nat :=
  ((List.range (Nat.log2 n + 1)).filter fun i => n.testBit i).length

/-- The flags of a set of flags by its number. A single flag is the set itself; the flags of a
larger set have no names and are absent. -/
def flagsOf (given : Value) (n : Int) : Except ItemsFault (List Value) :=
  if n < 0 then .error (.negativeFlags n)
  else if bitCount n.toNat = 1 then .ok [given]
  else .ok (List.replicate (bitCount n.toNat) .none)

namespace Value

/-- The flags of a member of an enumeration of flags, which has a value. -/
def flags (given value : Value) : Except ItemsFault (List Value) :=
  match value with
  | .int n => flagsOf given n
  | .bool b => flagsOf given (boolInt b)
  | other => .error (.notFlags other.typeName)

/-! ### Collections -/

/-- The values that a value yields, or why it yields none. -/
def items (v : Value) : Except ItemsFault (List Value) :=
  match v.text? with
  | some t => .ok (t.chars.map fun c => .str (String.singleton c))
  | Option.none =>
    match v.unfold with
    | .list items => .ok items
    | .tuple items => .ok items
    | .set items => .ok items
    | .dict entries => .ok (entries.map Prod.fst)
    | .bytes bs => .ok (bs.map fun b => .int b.toNat)
    | .member c .flag name value => flags (.member c .flag name value) value
    | .member c .integerFlag name value => flags (.member c .integerFlag name value) value
    | .cls c =>
      if c.isEnumeration then .ok c.members else .error (.notCollection c.classOf.last)
    | other => .error (.notCollection other.typeName)

/-- Whether a value counts as true: the empty text, the empty collections, the zeros, the
members of enumerations of such values and the absent value do not. -/
def isTruthy : Value → Bool
  | .none => false
  | .bool b => b
  | .int n => n ≠ 0
  | .float x => !x.same (.zero false)
  | .str s => s ≠ ""
  | .bytes bs => !bs.isEmpty
  | .list items => !items.isEmpty
  | .tuple items => !items.isEmpty
  | .dict entries => !entries.isEmpty
  | .set items => !items.isEmpty
  | .member _ .plain _ _ => true
  | .member _ _ _ value => isTruthy value
  | .subInt _ n => n ≠ 0
  | .subFloat _ x => !x.same (.zero false)
  | .subStr _ s _ => s ≠ ""
  | .loop _ body => isTruthy body
  | .cls _ => true
  | .date _ => true
  | .moment _ => true
  | .again _ _ => true

end Value

end KeyTree
