/-
# Where keys differ

The lowest position at which the keys of a group do not all agree. Positions that
a caller has settled are passed over.
-/

import KeyTree.Entry.Basic

namespace KeyTree

/-- Whether some entry has another character than `c` at a position. The entries
are read in order and no further than the first difference. -/
def differsAt (position : Nat) (c : Char) : List Entry → Except ReadFault Bool
  | [] => .ok false
  | e :: rest =>
    match e.chars[position]? with
    | some d => if d = c then differsAt position c rest else .ok true
    | none => .error .outOfRange

/-- The first position from `position` on where some of the others differ from the
remaining characters of the first key. -/
def firstDifferenceFrom (settled : Nat → Bool) (others : List Entry) (position : Nat) :
    List Char → Except ReadFault (Option Nat)
  | [] => .ok none
  | c :: rest =>
    if settled position then firstDifferenceFrom settled others (position + 1) rest
    else
      match differsAt position c others with
      | .ok true => .ok (some position)
      | .ok false => firstDifferenceFrom settled others (position + 1) rest
      | .error fault => .error fault

/-- The lowest position that is not settled and at which the keys do not all agree,
or none when there is no such position. -/
def firstDifference (settled : Nat → Bool) : List Entry → Except ReadFault (Option Nat)
  | [] => .ok none
  | first :: others => firstDifferenceFrom settled others 0 first.chars

end KeyTree
