/-
# Shortest decimal text of a number

`Binary64.shortest` finds the decimal of fewest digits that rounds to a given
number, the nearest of these, and of two equally near the even one.
`Binary64.text` lays it out: positional from 10^-4 to below 10^16, with `.0` after
an integer, and otherwise one digit before the point and an exponent of a sign
and at least two digits.
-/

import KeyTree.Number.Binary64

namespace KeyTree

/-- The decimal `digits · 10^exponent`. -/
structure Decimal where
  digits : Nat
  exponent : Int
  deriving DecidableEq, Repr

namespace Binary64

/-! ### Shortest digits -/

/-- The real numbers that round to a number, in quarters of its last place: from
`low` to `high` around `value`, the ends included when `closed`. -/
structure Interval where
  low : Nat
  value : Nat
  high : Nat
  closed : Bool

/-- The interval of the numbers that round to `m · 2^q`, in units of `2^(q - 2)`.
Below a power of two the neighbour is only half as far away. -/
def interval (m : Nat) (q : Int) : Interval where
  low := if m = twoPow 52 ∧ leastExponent < q then 4 * m - 1 else 4 * m - 2
  value := 4 * m
  high := 4 * m + 2
  closed := m % 2 = 0

/-- A grid of decimals: the point `s` of the grid `10^j` is compared with `t`
units of `2^(q - 2)` as `s * point` with `t * unit`. -/
structure Grid where
  point : Nat
  unit : Nat

/-- The grid `10^j` against the units of the exponent `q`. -/
def grid (q j : Int) : Grid where
  point := tenPow j.toNat * twoPow (2 - q).toNat
  unit := twoPow (q - 2).toNat * tenPow (-j).toNat

/-- Whether a point of the grid rounds to the number. -/
def Grid.admits (g : Grid) (r : Interval) (s : Nat) : Bool :=
  if r.closed then r.low * g.unit ≤ s * g.point && s * g.point ≤ r.high * g.unit
  else r.low * g.unit < s * g.point && s * g.point < r.high * g.unit

/-- The point of the grid to write, if one of the two neighbours of the number
rounds to it: the nearer, of two equally near the even one. -/
def Grid.pick? (g : Grid) (r : Interval) : Option Nat :=
  let s := r.value * g.unit / g.point
  match g.admits r s, g.admits r (s + 1) with
  | false, false => none
  | true, false => some s
  | false, true => some (s + 1)
  | true, true =>
    let below := r.value * g.unit - s * g.point
    let above := (s + 1) * g.point - r.value * g.unit
    if below < above then some s
    else if above < below then some (s + 1)
    else some (s + s % 2)

/-- The first hit on the grids `10^j`, `10^(j-1)`, …, at most `tries` of them. -/
def firstHit (r : Interval) (q : Int) : Nat → Int → Option Decimal
  | 0, _ => none
  | tries + 1, j =>
    match (grid q j).pick? r with
    | some s => some ⟨s, j⟩
    | none => firstHit r q tries (j - 1)

/-- A power of ten that is greater than `m · 2^q`, by at most three places. -/
def decimalBound (m : Nat) (q : Int) : Int :=
  ((Nat.log2 m : Int) + q + 1) * 30103 / 100000 + 2

/-- The decimal of fewest digits that rounds to `m · 2^q`, for a positive `m`. The
search starts above the number; seventeen digits always suffice. -/
def shortest (m : Nat) (q : Int) : Decimal :=
  (firstHit (interval m q) q 24 (decimalBound m q)).getD ⟨0, 0⟩

/-! ### Layout -/

/-- How a decimal is laid out: the range of decimal exponents written
positionally, and the least number of digits of a written exponent. -/
structure Layout where
  leastPositional : Int
  greatestPositional : Int
  exponentWidth : Nat

/-- Positional from 10^-4 to below 10^16, exponents of at least two digits. -/
def layout : Layout := ⟨-4, 15, 2⟩

/-- A text filled up with zeros on the left. -/
def padZeros (width : Nat) (s : String) : String :=
  String.ofList (List.replicate (width - s.length) '0') ++ s

/-- The text of a positive decimal. -/
def Layout.write (l : Layout) (d : Decimal) : String :=
  let digits := (toString d.digits).toList
  let exponent := d.exponent + digits.length - 1
  if l.leastPositional ≤ exponent ∧ exponent ≤ l.greatestPositional then
    if 0 ≤ d.exponent then
      String.ofList (digits ++ List.replicate d.exponent.toNat '0') ++ ".0"
    else if 0 ≤ exponent then
      String.ofList (digits.take (exponent.toNat + 1)) ++ "."
        ++ String.ofList (digits.drop (exponent.toNat + 1))
    else
      "0." ++ String.ofList (List.replicate (-exponent - 1).toNat '0' ++ digits)
  else
    let mantissa := match digits with
      | [] => ""
      | [d] => String.singleton d
      | d :: rest => String.singleton d ++ "." ++ String.ofList rest
    mantissa ++ "e" ++ (if exponent < 0 then "-" else "+")
      ++ padZeros l.exponentWidth (toString exponent.natAbs)

/-- The shortest text that reads back as the number. -/
def text : Binary64 → String
  | .nan => "nan"
  | .infinite negative => if negative then "-inf" else "inf"
  | .finite negative m q =>
    (if negative then "-" else "") ++ if m = 0 then "0.0" else layout.write (shortest m q)

end Binary64

end KeyTree
