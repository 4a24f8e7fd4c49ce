import Mathlib.Tactic.Ring

/-!
# Products of doubles

A double has 53 significant bits. A positive product is rounded to the nearest of
them, and to the even one of two that are as near. It is off by at most half the
last bit (`round_error`), which is at most the 2^52nd part of it (`unit_le`).
-/

namespace Doubles

/-- What the last of 53 significant bits is worth. -/
def unit (n : Nat) : Nat := 2 ^ (Nat.log2 n - 52)

/-- The nearest number of 53 significant bits, the even one of two. -/
def round (n : Nat) : Nat :=
  let quotient := n / unit n
  let remainder := n % unit n
  if unit n < 2 * remainder ∨ unit n = 2 * remainder ∧ quotient % 2 = 1 then (quotient + 1) * unit n
  else quotient * unit n

theorem unit_pos (n : Nat) : 0 < unit n := Nat.two_pow_pos _

/-- Half of the last bit bounds the error. -/
theorem round_error (n : Nat) : 2 * round n ≤ 2 * n + unit n ∧ 2 * n ≤ 2 * round n + unit n := by
  have parts : unit n * (n / unit n) + n % unit n = n := Nat.div_add_mod n (unit n)
  have small : n % unit n < unit n := Nat.mod_lt n (unit_pos n)
  have product : n / unit n * unit n = unit n * (n / unit n) := Nat.mul_comm _ _
  have next : (n / unit n + 1) * unit n = unit n * (n / unit n) + unit n := by rw [Nat.add_mul, product, Nat.one_mul]
  simp only [round]
  split
  · rw [next]
    omega
  · rw [product]
    omega

/-- The last bit is worth one or at most the 2^52nd part of the number. -/
theorem unit_le (n : Nat) : unit n = 1 ∨ unit n * 2 ^ 52 ≤ n := by
  unfold unit
  by_cases small : Nat.log2 n ≤ 52
  · rw [Nat.sub_eq_zero_of_le small]
    exact .inl rfl
  · have large : n ≠ 0 := by
      rintro rfl
      exact small (by decide)
    refine .inr ?_
    calc 2 ^ (Nat.log2 n - 52) * 2 ^ 52 = 2 ^ Nat.log2 n := by
          rw [← Nat.pow_add, Nat.sub_add_cancel (Nat.le_of_not_le small)]
      _ ≤ n := Nat.log2_self_le large

end Doubles
