/-
# Integers beyond the range

An integer is rounded to the nearest floating-point number. The greatest number is
2^1024 - 2^971, and the next one would be 2^1024; an integer half way between them is rounded up,
since the significand below it is odd. So an integer is beyond the range from 2^1024 - 2^970 on.

* `roundQuotient_eq_iff` — when a quotient is rounded up to an even number.
* `ofQuotient_one` — the exponent that an integer is rounded with.
* `ofInt?_eq_none_iff` — the integers that no floating-point number is near to.
-/

import KeyTree.Number.Binary64
import Mathlib.Tactic.Ring

namespace KeyTree.Binary64

/-- The least absolute value of an integer beyond the range. -/
def overflowBound : Nat := twoPow 1024 - twoPow 970

/-- A power of two is the double of the one before it. -/
theorem twoPow_succ (n : Nat) : twoPow (n + 1) = 2 * twoPow n :=
  Nat.pow_succ'

/-- The powers of two grow with the exponent. -/
theorem twoPow_le_twoPow {m n : Nat} (le : m ≤ n) : twoPow m ≤ twoPow n :=
  Nat.pow_le_pow_right (by decide) le

/-- A power of two is not zero. -/
theorem twoPow_pos (n : Nat) : 0 < twoPow n := Nat.pow_pos (by decide)

/-- A sum of exponents is a product of powers. -/
theorem twoPow_add (m n : Nat) : twoPow (m + n) = twoPow m * twoPow n := Nat.pow_add 2 m n

/-! ### Rounding up -/

/-- A quotient below an even number is rounded up to it when it lacks at most a half. -/
theorem roundQuotient_eq_iff {num den top : Nat} (even : top % 2 = 0) (below : num < top * den) :
    roundQuotient num den = top ↔ 2 * (top * den) ≤ 2 * num + den := by
  have filled : 0 < den := Nat.pos_of_ne_zero fun none => by simp [none] at below
  have whole := Nat.div_add_mod num den
  have small := Nat.mod_lt num filled
  have under : num / den < top := Nat.div_lt_of_lt_mul (Nat.mul_comm top den ▸ below)
  rw [roundQuotient]
  generalize num / den = w at *
  generalize num % den = r at *
  obtain ⟨k, rfl⟩ := Nat.exists_eq_add_of_lt under
  have product : (w + k + 1) * den = den * w + k * den + den := by ring
  rw [product]
  cases k with
  | zero =>
    rw [Nat.zero_mul]
    split
    · omega
    · split <;> omega
  | succ k =>
    -- The quotient lacks more than one, so that it is not rounded up to the number.
    have more : den ≤ (k + 1) * den := Nat.le_mul_of_pos_left den k.succ_pos
    split
    · omega
    · split <;> omega

/-! ### Integers -/

/-- The binary digits of a positive number. -/
theorem log2_bounds {n : Nat} (positive : n ≠ 0) :
    twoPow (Nat.log2 n) ≤ n ∧ n < twoPow (Nat.log2 n + 1) :=
  ⟨Nat.log2_self_le positive, Nat.lt_log2_self⟩

/-- A number has more binary digits than an exponent when it reaches the power. -/
theorem le_log2_iff {n k : Nat} (positive : n ≠ 0) : k ≤ Nat.log2 n ↔ twoPow k ≤ n :=
  Nat.le_log2 positive

/-- A large integer is rounded with 53 binary digits: what stands before the others is rounded,
and the exponent is one more when this takes a further digit. -/
theorem ofQuotient_one (negative : Bool) {n : Nat} (large : 53 ≤ Nat.log2 n) :
    let m := roundQuotient n (twoPow (Nat.log2 n - 52))
    let q : Int := if m = twoPow 53 then Nat.log2 n - 51 else Nat.log2 n - 52
    ofQuotient negative n 1
      = if greatestExponent < q then .infinite negative
        else .finite negative (if m = twoPow 53 then twoPow 52 else m) q := by
  have positive : n ≠ 0 := by
    rintro rfl
    exact absurd large (by decide)
  have estimate : max leastExponent ((Nat.log2 n : Int) - Nat.log2 1 - 53)
      = ((Nat.log2 n - 53 : Nat) : Int) := by
    have one : Nat.log2 1 = 0 := by decide
    rw [one, leastExponent]
    omega
  have scaled (e : Nat) : scaleDown n 1 (e : Int) = (n, twoPow e) := by
    rw [scaleDown, if_pos (Int.natCast_nonneg e), Int.toNat_natCast, Nat.one_mul]
  have digits : twoPow 53 ≤ n / twoPow (Nat.log2 n - 53) := by
    rw [Nat.le_div_iff_mul_le (twoPow_pos _), ← twoPow_add, Nat.add_sub_cancel' large]
    exact (log2_bounds positive).1
  have next : ((Nat.log2 n - 53 : Nat) : Int) + 1 = ((Nat.log2 n - 52 : Nat) : Int) := by omega
  rw [ofQuotient, if_neg positive, estimate]
  simp only [scaled, if_pos digits, next]
  by_cases full : roundQuotient n (twoPow (Nat.log2 n - 52)) = twoPow 53
  · have after : ((Nat.log2 n - 52 : Nat) : Int) + 1 = Nat.log2 n - 51 := by omega
    simp only [if_pos full, after]
  · have exponent : ((Nat.log2 n - 52 : Nat) : Int) = Nat.log2 n - 52 := by omega
    simp only [if_neg full, exponent]

/-- A quotient that is not large is not rounded to an infinity. -/
theorem ofQuotient_ne_infinite (negative sign : Bool) {num den : Nat}
    (small : (Nat.log2 num : Int) - Nat.log2 den ≤ 1022) :
    ofQuotient negative num den ≠ .infinite sign := by
  have low : max leastExponent ((Nat.log2 num : Int) - Nat.log2 den - 53) + 2
      ≤ greatestExponent := by
    rw [leastExponent, greatestExponent]
    omega
  rw [ofQuotient]
  generalize max leastExponent _ = estimate at low ⊢
  split
  · exact nofun
  · dsimp only
    rw [if_neg]
    · exact nofun
    · split <;> split <;> dsimp only <;> omega

/-- An integer is rounded to an infinity when it reaches the bound. -/
theorem ofQuotient_one_eq_infinite_iff (negative : Bool) (n : Nat) :
    (∃ sign, ofQuotient negative n 1 = .infinite sign) ↔ overflowBound ≤ n := by
  have half : twoPow 1024 = 2 * twoPow 1023 := twoPow_succ 1023
  have step : twoPow 971 = 2 * twoPow 970 := twoPow_succ 970
  have far : twoPow 970 ≤ twoPow 1023 := twoPow_le_twoPow (by decide)
  rw [overflowBound]
  by_cases small : n < twoPow 1023
  · refine iff_of_false ?_ (by omega)
    rintro ⟨sign, infinite⟩
    have digits : Nat.log2 n ≤ 1022 := by
      by_cases positive : n = 0
      · rw [positive, Nat.log2_zero]
        exact Nat.zero_le _
      · exact Nat.le_of_lt_succ (Nat.lt_of_not_le fun large =>
          Nat.not_le.mpr small ((le_log2_iff positive).mp large))
    have one : Nat.log2 1 = 0 := by decide
    exact ofQuotient_ne_infinite negative sign (by rw [one]; omega) infinite
  · have positive : n ≠ 0 := fun none => small (none ▸ twoPow_pos 1023)
    have large : 1023 ≤ Nat.log2 n := (le_log2_iff positive).mpr (Nat.le_of_not_lt small)
    obtain ⟨above, below⟩ := log2_bounds positive
    rw [ofQuotient_one negative (by omega : 53 ≤ Nat.log2 n)]
    by_cases last : Nat.log2 n = 1023
    · -- In the last binade only the numbers that are rounded up are beyond the range.
      rw [last] at below
      have top : twoPow 53 * twoPow 971 = twoPow 1024 := (twoPow_add 53 971).symm
      have rounded := @roundQuotient_eq_iff n (twoPow 971) (twoPow 53) (by decide) (by rwa [top])
      rw [top] at rounded
      simp only [last]
      by_cases up : roundQuotient n (twoPow 971) = twoPow 53
      · refine iff_of_true ⟨negative, ?_⟩ ?_
        · rw [if_pos up, if_pos up]
          rfl
        · have reached := rounded.mp up
          omega
      · refine iff_of_false ?_ fun reached => up (rounded.mpr (by omega))
        rw [if_neg up, if_neg up, if_neg (by decide)]
        exact nofun
    · have next : twoPow 1024 ≤ twoPow (Nat.log2 n) := twoPow_le_twoPow (by omega)
      refine iff_of_true ⟨negative, if_pos ?_⟩ (by omega)
      rw [greatestExponent]
      split <;> omega

/-- An integer is beyond the range when its absolute value reaches the bound. -/
theorem ofInt?_eq_none_iff {n : Int} : ofInt? n = none ↔ overflowBound ≤ n.natAbs := by
  rw [← ofQuotient_one_eq_infinite_iff (n < 0), ofInt?]
  cases ofQuotient (n < 0) n.natAbs 1 with
  | infinite sign => exact iff_of_true rfl ⟨sign, rfl⟩
  | nan | finite => exact iff_of_false nofun nofun

end KeyTree.Binary64
