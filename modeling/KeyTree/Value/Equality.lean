/-
# Equality of values

When two values count as equal: numbers by their exact value whatever their type,
strings by their content, collections of one kind part by part, dictionaries
whatever the order of their keys, members of plain enumerations only when they are
the same member.
-/

import KeyTree.Value.Basic

namespace KeyTree.Value

mutual

/-- Whether two values are equal. -/
def same (a b : Value) : Bool :=
  match a, b with
  | .none, .none => true
  | .bytes x, .bytes y => x = y
  | .list xs, .list ys => sameItems xs ys
  | .tuple xs, .tuple ys => sameItems xs ys
  | .dict xs, .dict ys => xs.length = ys.length && sameEntries xs ys
  | .set xs, .set ys => xs.length = ys.length && sameMembers xs ys
  | .cls c, .cls d => c = d
  | .date d, .date e => d = e
  | .moment m, .moment n => m.same n
  | .loop l x, .loop m y => l = m && same x y
  | .again l _, .again m _ => l = m
  | a, b =>
    match a.number?, b.number? with
    | some m, some n => m.same n
    | _, _ =>
      match a.text?, b.text? with
      | some s, some t => s.same t
      | some _, Option.none => false
      | Option.none, some _ => false
      | Option.none, Option.none =>
        match a, b with
        | .member c kind name _, .member d kind' name' _ =>
          c = d && kind = kind' && name = name' && a.number?.isNone && b.number?.isNone
        | _, _ => false

/-- Whether two lists of values are equal part by part. -/
def sameItems : List Value → List Value → Bool
  | [], [] => true
  | x :: xs, y :: ys => same x y && sameItems xs ys
  | _, _ => false

/-- Whether each part of the first set has its equal in the second. -/
def sameMembers : List Value → List Value → Bool
  | [], _ => true
  | x :: xs, ys => ys.any (fun y => same x y) && sameMembers xs ys

/-- Whether each entry of the first dictionary has its equal in the second. -/
def sameEntries : List (Value × Value) → List (Value × Value) → Bool
  | [], _ => true
  | (k, v) :: rest, ys =>
    ys.any (fun entry => same k entry.1 && same v entry.2) && sameEntries rest ys

end

/-! ### Dictionaries -/

/-- The value under a key of a dictionary. -/
def lookup? (entries : List (Value × Value)) (key : Value) : Option Value :=
  (entries.find? fun entry => same entry.1 key).map Prod.snd

/-- The value under a text of a dictionary. -/
def field? (entries : List (Value × Value)) (name : String) : Option Value :=
  lookup? entries (.str name)

/-- A dictionary after a value is put under a key. A key that is already there
keeps its place and its own form. -/
def put (key value : Value) : List (Value × Value) → List (Value × Value)
  | [] => [(key, value)]
  | (k, v) :: rest => if same k key then (k, value) :: rest else (k, v) :: put key value rest

/-- The dictionary that results from putting the entries one after the other. -/
def dictOfEntries (entries : List (Value × Value)) : Value :=
  .dict (entries.foldl (fun acc entry => put entry.1 entry.2 acc) [])

end KeyTree.Value
