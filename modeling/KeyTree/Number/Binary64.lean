/-
# Binary numbers of 64 bits

A floating-point number as the real number it stands for: a significand below
2^53 times a power of two, with a sign, or an infinity, or no number at all.
Rounding from a quotient, comparison and the two arithmetic operations needed
here are exact computations on natural numbers.
-/

namespace KeyTree

/-- A floating-point number of 64 bits. `finite negative m q` is `± m · 2^q`. -/
inductive Binary64 where
  | nan
  | infinite (negative : Bool)
  | finite (negative : Bool) (significand : Nat) (exponent : Int)
  deriving DecidableEq, Repr, Inhabited

/-- A power of two. -/
def twoPow (n : Nat) : Nat := Nat.pow 2 n

/-- A power of ten. -/
def tenPow (n : Nat) : Nat := Nat.pow 10 n

namespace Binary64

/-- The least exponent, that of the subnormal numbers and of zero. -/
def leastExponent : Int := -1074

/-- The greatest exponent of a finite number. -/
def greatestExponent : Int := 971

/-- The zero of a sign. -/
def zero (negative : Bool) : Binary64 :=
  .finite negative 0 leastExponent

/-- Whether the number is neither infinite nor no number. -/
def isFinite : Binary64 → Bool
  | .finite _ _ _ => true
  | _ => false

/-! ### Rounding -/

/-- The quotient rounded to the nearest integer, a half to the even one. -/
def roundQuotient (num den : Nat) : Nat :=
  let whole := num / den
  let twice := 2 * (num % den)
  if twice < den then whole
  else if den < twice then whole + 1
  else whole + whole % 2

/-- A quotient divided by a power of two, as a quotient again. -/
def scaleDown (num den : Nat) (q : Int) : Nat × Nat :=
  if 0 ≤ q then (num, den * twoPow q.toNat) else (num * twoPow (-q).toNat, den)

/-- The number of a sign nearest to `num / den`, of two the one with the even
significand; infinite when the rounded value passes the range. -/
def ofQuotient (negative : Bool) (num den : Nat) : Binary64 :=
  if num = 0 then zero negative
  else
    let estimate := max leastExponent ((Nat.log2 num : Int) - Nat.log2 den - 53)
    let scaled := scaleDown num den estimate
    let q := if twoPow 53 ≤ scaled.1 / scaled.2 then estimate + 1 else estimate
    let scaled := scaleDown num den q
    let m := roundQuotient scaled.1 scaled.2
    let (m, q) := if m = twoPow 53 then (twoPow 52, q + 1) else (m, q)
    if greatestExponent < q then .infinite negative else .finite negative m q

/-- The number nearest to an integer, or none when the integer is beyond the
range. -/
def ofInt? (n : Int) : Option Binary64 :=
  match ofQuotient (n < 0) n.natAbs 1 with
  | .infinite _ => none
  | x => some x

/-- The number nearest to `digits · 10^exponent`. Powers that are surely out of
range are not computed. -/
def ofScientific (negative : Bool) (digits : Nat) (exponent : Int) : Binary64 :=
  if digits = 0 then zero negative
  else if 400 < exponent then .infinite negative
  else if exponent + (Nat.log2 digits : Int) < -1200 then zero negative
  else if 0 ≤ exponent then ofQuotient negative (digits * tenPow exponent.toNat) 1
  else ofQuotient negative digits (tenPow (-exponent).toNat)

/-! ### Comparison -/

/-- Numeric equality: the two zeros are equal, and `nan` equals nothing. -/
def same : Binary64 → Binary64 → Bool
  | .nan, _ => false
  | .finite _ 0 _, .finite _ 0 _ => true
  | a, b => a = b

/-- Whether an integer is exactly the number. -/
def isInt (x : Binary64) (n : Int) : Bool :=
  match x with
  | .finite negative m q =>
    let whole : Int := if negative then -(m : Int) else m
    if 0 ≤ q then whole * twoPow q.toNat = n else whole = n * twoPow (-q).toNat
  | _ => false

/-! ### Arithmetic -/

/-- The negated number. -/
def neg : Binary64 → Binary64
  | .nan => .nan
  | .infinite negative => .infinite !negative
  | .finite negative m q => .finite (!negative) m q

/-- The number of a sign nearest to `m · 2^q`. -/
def ofScaled (negative : Bool) (m : Nat) (q : Int) : Binary64 :=
  if 0 ≤ q then ofQuotient negative (m * twoPow q.toNat) 1
  else ofQuotient negative m (twoPow (-q).toNat)

/-- The rounded product. An infinity times a zero is no number. -/
def mul : Binary64 → Binary64 → Binary64
  | .nan, _ => .nan
  | _, .nan => .nan
  | .infinite s, .infinite t => .infinite (s != t)
  | .infinite s, .finite t m _ => if m = 0 then .nan else .infinite (s != t)
  | .finite s m _, .infinite t => if m = 0 then .nan else .infinite (s != t)
  | .finite s m q, .finite t n r => ofScaled (s != t) (m * n) (q + r)

/-- A natural number with a sign. -/
def signed (negative : Bool) (m : Nat) : Int := if negative then -(m : Int) else m

/-- The rounded sum. Two infinities of different signs give no number, and a sum of zero is
negative only if both terms are. -/
def add : Binary64 → Binary64 → Binary64
  | .nan, _ => .nan
  | _, .nan => .nan
  | .infinite s, .infinite t => if s = t then .infinite s else .nan
  | .infinite s, .finite _ _ _ => .infinite s
  | .finite _ _ _, .infinite t => .infinite t
  | .finite s m q, .finite t n r =>
    let low := min q r
    let sum := signed s (m * twoPow (q - low).toNat) + signed t (n * twoPow (r - low).toNat)
    if sum = 0 then zero (s && t) else ofScaled (sum < 0) sum.natAbs low

end Binary64

end KeyTree
