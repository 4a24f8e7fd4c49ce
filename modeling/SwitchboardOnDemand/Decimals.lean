import SwitchboardOnDemand.Int128
import SwitchboardOnDemand.Outcome
import Mathlib.Algebra.Order.Field.Basic
import Mathlib.Data.Rat.Cast.Order
import Mathlib.Tactic.NormNum
import Mathlib.Tactic.Positivity

/-!
# Decimals

The decimals that a value is reported as come from another package. Reading a
value uses one constructor, exact where it does not panic (`DecimalApi`);
conversions and comparisons use a few more calls (`DecimalOps`). The package
itself keeps a mantissa of 96 bits and a scale of at most 28 (`mantissa96`,
`decimal96`).
-/

namespace SwitchboardOnDemand.Decimals
open Rust

/-- A type of decimals with `Decimal::from_i128_with_scale`. -/
structure DecimalApi where
  Decimal : Type
  /-- The decimal `num / 10 ^ scale`, or the message of a panic. -/
  from_i128_with_scale : I128 → Nat → Except String Decimal
  /-- The number that a decimal stands for. -/
  number : Decimal → ℚ
  exact : ∀ num scale decimal, from_i128_with_scale num scale = .ok decimal → number decimal = num.val / 10 ^ scale

def DecimalApi.decimal {ε : Type} (api : DecimalApi) (num : I128) (scale : Nat) : Exec ε api.Decimal :=
  match api.from_i128_with_scale num scale with
  | .ok decimal => .ok decimal
  | .error message => .panic message

theorem DecimalApi.decimal_ok_iff {ε : Type} (api : DecimalApi) (num : I128) (scale : Nat) (decimal : api.Decimal) :
    (api.decimal num scale : Exec ε _) = .ok decimal ↔ api.from_i128_with_scale num scale = .ok decimal := by
  unfold DecimalApi.decimal
  split <;> simp [*]

/-- A mantissa of 96 bits with a sign, and a scale. -/
structure Decimal96 where
  mantissa : Int
  scale : Nat
  narrow : mantissa.natAbs < 2 ^ 96
  small : scale ≤ 28
  deriving DecidableEq

/-- The decimals of the package. -/
def mantissa96 : DecimalApi where
  Decimal := Decimal96
  from_i128_with_scale num scale :=
    if small : scale ≤ 28 then
      if narrow : num.val.natAbs < 2 ^ 96 then .ok ⟨num.val, scale, narrow, small⟩
      else .error "Number exceeds maximum value that can be represented."
    else .error "Scale exceeds the maximum precision allowed"
  number decimal := decimal.mantissa / 10 ^ decimal.scale
  exact num scale decimal done := by
    split at done
    · split at done
      · cases done
        rfl
      · cases done
    · cases done

/-! ### Conversions and comparisons -/

/-- The other calls on decimals. -/
structure DecimalOps extends DecimalApi where
  normalize : Decimal → Decimal
  /-- The decimal, or the message of the package's error. -/
  try_from_i128_with_scale : I128 → Nat → Except String Decimal
  cmp : Decimal → Decimal → Ordering
  lt : Decimal → Decimal → Bool
  le : Decimal → Decimal → Bool
  gt : Decimal → Decimal → Bool
  ge : Decimal → Decimal → Bool

/-- The mantissa fits in 96 bits. -/
def Narrow (num : I128) : Prop := num.val.natAbs < 2 ^ 96

instance (num : I128) : Decidable (Narrow num) := inferInstanceAs (Decidable (_ < _))

/-- The constructor takes 96-bit mantissas and panics for wider ones, and
    normalizing keeps the number. -/
structure PanicsWhenWide (ops : DecimalOps) : Prop where
  fits : ∀ num scale, Narrow num → scale ≤ 28 → ∃ decimal, ops.from_i128_with_scale num scale = .ok decimal
  wide : ∀ num scale, ¬ Narrow num → ∃ message, ops.from_i128_with_scale num scale = .error message
  number_normalize : ∀ decimal, ops.number (ops.normalize decimal) = ops.number decimal

/-- The checked constructor takes 96-bit mantissas, and decimals are compared by
    their numbers. -/
structure ComparesNumbers (ops : DecimalOps) : Prop where
  fits : ∀ num scale, Narrow num → scale ≤ 28 →
    ∃ decimal, ops.try_from_i128_with_scale num scale = .ok decimal ∧ ops.number decimal = num.val / 10 ^ scale
  cmp : ∀ a b, ops.cmp a b = compare (ops.number a) (ops.number b)
  lt : ∀ a b, ops.lt a b = true ↔ ops.number a < ops.number b
  le : ∀ a b, ops.le a b = true ↔ ops.number a ≤ ops.number b
  gt : ∀ a b, ops.gt a b = true ↔ ops.number b < ops.number a
  ge : ∀ a b, ops.ge a b = true ↔ ops.number b ≤ ops.number a

/-- Takes zeros off the end of a mantissa. -/
def stripZeros : (scale : Nat) → (mantissa : Int) → mantissa.natAbs < 2 ^ 96 → scale ≤ 28 → Decimal96
  | 0, mantissa, narrow, small => ⟨mantissa, 0, narrow, small⟩
  | scale + 1, mantissa, narrow, small =>
    if mantissa % 10 = 0 then stripZeros scale (mantissa / 10) (by omega) (by omega)
    else ⟨mantissa, scale + 1, narrow, small⟩

/-- The mantissa of a decimal at the scale of another one. -/
def Decimal96.scaled (a b : Decimal96) : Int := a.mantissa * 10 ^ b.scale

/-- The decimals of the package, compared at a common scale. -/
def decimal96 : DecimalOps where
  toDecimalApi := mantissa96
  normalize (decimal : Decimal96) := stripZeros decimal.scale decimal.mantissa decimal.narrow decimal.small
  try_from_i128_with_scale := mantissa96.from_i128_with_scale
  cmp (a b : Decimal96) := compare (a.scaled b) (b.scaled a)
  lt (a b : Decimal96) := a.scaled b < b.scaled a
  le (a b : Decimal96) := a.scaled b ≤ b.scaled a
  gt (a b : Decimal96) := b.scaled a < a.scaled b
  ge (a b : Decimal96) := b.scaled a ≤ a.scaled b

theorem number_stripZeros (scale : Nat) (mantissa : Int) (narrow : mantissa.natAbs < 2 ^ 96) (small : scale ≤ 28) :
    mantissa96.number (stripZeros scale mantissa narrow small) = mantissa / 10 ^ scale := by
  induction scale generalizing mantissa with
  | zero => rfl
  | succ scale ih =>
    rw [stripZeros]
    split
    · rename_i zero
      have tenth : mantissa = mantissa / 10 * 10 := (Int.ediv_mul_cancel (Int.dvd_of_emod_eq_zero zero)).symm
      rw [ih, tenth, Int.mul_ediv_cancel _ (by decide), Int.cast_mul, pow_succ]
      exact (mul_div_mul_right _ _ (by norm_num)).symm
    · rfl

theorem mantissa96_fits {num : I128} {scale : Nat} (narrow : Narrow num) (small : scale ≤ 28) :
    mantissa96.from_i128_with_scale num scale = .ok ⟨num.val, scale, narrow, small⟩ :=
  (dif_pos small).trans (dif_pos narrow)

theorem panicsWhenWide_decimal96 : PanicsWhenWide decimal96 where
  fits num scale narrow small := ⟨_, mantissa96_fits narrow small⟩
  wide num scale wide := by
    by_cases small : scale ≤ 28
    · exact ⟨_, (dif_pos small).trans (dif_neg wide)⟩
    · exact ⟨_, dif_neg small⟩
  number_normalize decimal := number_stripZeros _ _ decimal.narrow decimal.small

/-- Cross products are ordered like the numbers. -/
theorem scaled_lt_iff (a b : Decimal96) : a.scaled b < b.scaled a ↔ mantissa96.number a < mantissa96.number b := by
  have tenA : (0 : ℚ) < 10 ^ a.scale := by positivity
  have tenB : (0 : ℚ) < 10 ^ b.scale := by positivity
  show _ ↔ (a.mantissa : ℚ) / 10 ^ a.scale < b.mantissa / 10 ^ b.scale
  rw [div_lt_div_iff₀ tenA tenB, Decimal96.scaled, Decimal96.scaled]
  exact_mod_cast Iff.rfl

theorem scaled_le_iff (a b : Decimal96) : a.scaled b ≤ b.scaled a ↔ mantissa96.number a ≤ mantissa96.number b := by
  rw [← not_lt, scaled_lt_iff, not_lt]

theorem scaled_eq_iff (a b : Decimal96) : a.scaled b = b.scaled a ↔ mantissa96.number a = mantissa96.number b := by
  rw [le_antisymm_iff, le_antisymm_iff, scaled_le_iff, scaled_le_iff]

theorem comparesNumbers_decimal96 : ComparesNumbers decimal96 where
  fits num scale narrow small := ⟨_, mantissa96_fits narrow small, rfl⟩
  cmp (a b : Decimal96) := by
    show compare (a.scaled b) (b.scaled a) = compare (mantissa96.number a) (mantissa96.number b)
    rw [LinearOrder.compare_eq_compareOfLessAndEq, LinearOrder.compare_eq_compareOfLessAndEq]
    simp only [compareOfLessAndEq, scaled_lt_iff, scaled_eq_iff]
  lt a b := decide_eq_true_iff.trans (scaled_lt_iff a b)
  le a b := decide_eq_true_iff.trans (scaled_le_iff a b)
  gt a b := decide_eq_true_iff.trans (scaled_lt_iff b a)
  ge a b := decide_eq_true_iff.trans (scaled_le_iff b a)

end SwitchboardOnDemand.Decimals
