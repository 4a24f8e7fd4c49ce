import SwitchboardOnDemand.SwitchboardDecimals
import Mathlib.Data.Rat.Floor
import Mathlib.Tactic.Ring

/-!
# Rescaling a decimal

`scale_to` multiplies or divides the mantissa by a power of ten, with a check on
the result but not on the power, which has at most 38 zeros in an `i128`. Beyond
that it panics or goes on with the power modulo `2 ^ 128`. So rescaling is exact
for scales that lie at most 38 apart, and otherwise only where the wrong power
happens to make no difference (`rescalesExactly_iff`).
-/

namespace SwitchboardOnDemand.Rescaling
open Rust SwitchboardOnDemand.Error SwitchboardOnDemand.SwitchboardDecimals

/-! ### Numbers without the digits behind a place -/

/-- The integer part of a number, rounded toward zero. -/
def truncated (x : ℚ) : ℤ := if 0 ≤ x then ⌊x⌋ else ⌈x⌉

/-- The number without its digits behind the given number of places. -/
def cut (x : ℚ) (places : Nat) : ℚ := truncated (x * 10 ^ places) / 10 ^ places

theorem truncated_intCast (n : ℤ) : truncated n = n := by
  unfold truncated
  split
  · exact Int.floor_intCast n
  · exact Int.ceil_intCast n

/-- Division rounded toward zero is `tdiv`. -/
theorem truncated_div (n : ℤ) {d : ℕ} (positive : 0 < d) : truncated (n / d) = n.tdiv d := by
  have positive' : (0 : ℚ) < d := Nat.cast_pos.mpr positive
  unfold truncated
  split
  · rename_i upper
    have nonneg : 0 ≤ n := by
      rwa [le_div_iff₀ positive', zero_mul, Int.cast_nonneg_iff] at upper
    rw [Rat.floor_intCast_div_natCast, Int.tdiv_eq_ediv_of_nonneg nonneg]
  · rename_i lower
    have negative : n < 0 := by
      rwa [not_le, div_lt_iff₀ positive', zero_mul, Int.cast_lt_zero] at lower
    rw [Rat.ceil_intCast_div_natCast, ← Int.tdiv_eq_ediv_of_nonneg (by omega), Int.neg_tdiv, neg_neg]

/-! ### What rescaling should do -/

/-- Scaling down divides and truncates toward zero, scaling up multiplies or fails
    where the product is no `i128`, and the new decimal stands for the same
    number, without the digits behind its scale. -/
structure RescalesExactly (checks : OverflowChecks) (decimal : SwitchboardDecimal) (new_scale : UInt32) : Prop where
  down : new_scale ≤ decimal.scale → ∃ m : I128,
    m.val = truncated (decimal.mantissa.val / 10 ^ (decimal.scale.toNat - new_scale.toNat)) ∧
      (scale_to checks decimal new_scale : Exec OnDemandError _) = .ok m
  up : decimal.scale < new_scale → ∀ m : I128,
    m.val = decimal.mantissa.val * 10 ^ (new_scale.toNat - decimal.scale.toNat) →
      (scale_to checks decimal new_scale : Exec OnDemandError _) = .ok m
  fails : decimal.scale < new_scale →
    ¬ I128.InRange (decimal.mantissa.val * 10 ^ (new_scale.toNat - decimal.scale.toNat)) →
      ∀ m, (scale_to checks decimal new_scale : Exec OnDemandError _) ≠ .ok m
  denotes : ∀ scaled, (new_with_scale checks decimal new_scale : Exec OnDemandError _) = .ok scaled →
    scaled.scale = new_scale ∧ number scaled = cut (number decimal) new_scale.toNat

/-- `10 ^ exp` modulo `2 ^ 128`, as an `i128`. -/
def wrappedPower (exp : Nat) : ℤ := (10 ^ exp : ℤ).bmod (2 ^ 128)

/-- The scales lie at most 38 apart; or further, and the wrong power makes no
    difference: a nonzero mantissa that is scaled up panics where overflow is
    checked, and elsewhere the quotient is zero, as it should be, or the product
    is out of bounds or zero. -/
def PowerFitsOrNoMatter (checks : OverflowChecks) (decimal : SwitchboardDecimal) (new_scale : UInt32) : Prop :=
  (decimal.scale.toNat ≤ new_scale.toNat + 38 ∧ new_scale.toNat ≤ decimal.scale.toNat + 38) ∨
    match checks with
    | .on => decimal.scale < new_scale ∧ decimal.mantissa ≠ 0
    | .off =>
      if new_scale < decimal.scale then
        decimal.mantissa.val.natAbs < (wrappedPower (decimal.scale.toNat - new_scale.toNat)).natAbs
      else
        decimal.mantissa = 0 ∨
          ¬ I128.InRange (decimal.mantissa.val * wrappedPower (new_scale.toNat - decimal.scale.toNat))

/-! ### Powers of ten -/

theorem inRange_ten_pow_iff (exp : Nat) : I128.InRange ((10 : I128).val ^ exp) ↔ exp ≤ 38 := by
  show -2 ^ 127 ≤ (10 : ℤ) ^ exp ∧ (10 : ℤ) ^ exp < 2 ^ 127 ↔ exp ≤ 38
  constructor
  · rintro ⟨_, below⟩
    by_contra large
    have grows : (10 : ℤ) ^ 39 ≤ 10 ^ exp := pow_le_pow_right₀ (by decide) (by omega)
    omega
  · intro small
    have grows : (10 : ℤ) ^ exp ≤ 10 ^ 38 := pow_le_pow_right₀ (by decide) small
    have positive : (0 : ℤ) < 10 ^ exp := by positivity
    constructor <;> omega

/-- With 39 zeros or more the power is beyond every mantissa. -/
theorem natAbs_lt_ten_pow (n : I128) {exp : Nat} (large : 38 < exp) : n.val.natAbs < 10 ^ exp := by
  have grows : (10 : ℕ) ^ 39 ≤ 10 ^ exp := Nat.pow_le_pow_right (by decide) large
  have lower := n.lower
  have upper := n.upper
  omega

/-! ### The three cases of `scale_to` -/

variable {ε : Type} {checks : OverflowChecks} {self : SwitchboardDecimal} {new_scale : UInt32}

theorem scale_to_down (down : new_scale < self.scale) : (scale_to checks self new_scale : Exec ε I128) =
    I128.pow checks 10 (self.scale.toNat - new_scale.toNat) >>= fun power =>
      unwrap (self.mantissa.checked_div power) := by
  rw [scale_to, Std.compare_eq_gt.mpr down, UInt32.toNat_sub_of_le _ _ (UInt32.le_of_lt down)]

theorem scale_to_up (up : self.scale < new_scale) : (scale_to checks self new_scale : Exec ε I128) =
    I128.pow checks 10 (new_scale.toNat - self.scale.toNat) >>= fun power =>
      unwrap (self.mantissa.checked_mul power) := by
  rw [scale_to, Std.compare_eq_lt.mpr up, UInt32.toNat_sub_of_le _ _ (UInt32.le_of_lt up)]

theorem scale_to_same (same : self.scale = new_scale) :
    (scale_to checks self new_scale : Exec ε I128) = .ok self.mantissa := by
  rw [scale_to, Std.compare_eq_eq_iff_eq.mpr same]

/-- A quotient by at least one is within the bounds. -/
theorem checked_div_of_pos (n : I128) {d : I128} (positive : 0 < d.val) :
    ∃ m, n.checked_div d = some m ∧ m.val = n.val.tdiv d.val := by
  have smaller := Int.natAbs_tdiv_le_natAbs n.val d.val
  have sign : n.val ≤ 0 → 0 ≤ -n.val.tdiv d.val := by
    intro nonpos
    rw [← Int.neg_tdiv]
    exact Int.tdiv_nonneg (Int.neg_nonneg_of_nonpos nonpos) positive.le
  have lower := n.lower
  have upper := n.upper
  have inside : I128.InRange (n.val.tdiv d.val) := ⟨by omega, by omega⟩
  have nonzero : d ≠ 0 := by
    rintro rfl
    exact absurd positive (by decide)
  exact ⟨⟨_, inside.1, inside.2⟩, (if_neg nonzero).trans (dif_pos inside), rfl⟩

/-- The wrong quotient is zero exactly for a mantissa below the wrong power. -/
theorem checked_div_eq_zero_iff (n d : I128) : n.checked_div d = some 0 ↔ n.val.natAbs < d.val.natAbs := by
  have quotient : (n.val.tdiv d.val).natAbs = n.val.natAbs / d.val.natAbs := Int.natAbs_tdiv _ _
  rw [I128.checked_div]
  split
  · rename_i zero
    rw [zero]
    exact iff_of_false nofun (Nat.not_lt_zero _)
  · rename_i nonzero
    have positive : 0 < d.val.natAbs := by
      rw [Int.natAbs_pos]
      exact fun zero => nonzero (I128.val_injective zero)
    rw [I128.ofInt?_eq_some, eq_comm, ← Nat.div_eq_zero_iff_lt positive, ← quotient, Int.natAbs_eq_zero]
    rfl

/-! ### The number that is denoted -/

theorem number_mul_down (down : new_scale ≤ self.scale) : number self * 10 ^ new_scale.toNat =
    self.mantissa.val / 10 ^ (self.scale.toNat - new_scale.toNat) := by
  have split : (10 : ℚ) ^ self.scale.toNat = 10 ^ (self.scale.toNat - new_scale.toNat) * 10 ^ new_scale.toNat := by
    rw [← pow_add, Nat.sub_add_cancel (UInt32.le_iff_toNat_le.mp down)]
  rw [number, split, div_mul_eq_mul_div, mul_div_mul_right _ _ (by positivity)]

theorem number_mul_up (up : self.scale < new_scale) : number self * 10 ^ new_scale.toNat =
    ((self.mantissa.val * 10 ^ (new_scale.toNat - self.scale.toNat) : ℤ) : ℚ) := by
  have split : (10 : ℚ) ^ new_scale.toNat = 10 ^ self.scale.toNat * 10 ^ (new_scale.toNat - self.scale.toNat) := by
    rw [← pow_add, Nat.add_sub_cancel' (UInt32.le_iff_toNat_le.mp (UInt32.le_of_lt up))]
  rw [number, split, ← mul_assoc, div_mul_cancel₀ _ (by positivity), Int.cast_mul, Int.cast_pow, Int.cast_ofNat]

/-- The last part of exact rescaling follows from the others. -/
theorem rescalesExactly_of
    (down : new_scale ≤ self.scale → ∃ m : I128,
      m.val = truncated (self.mantissa.val / 10 ^ (self.scale.toNat - new_scale.toNat)) ∧
        (scale_to checks self new_scale : Exec OnDemandError _) = .ok m)
    (up : self.scale < new_scale → ∀ m : I128,
      m.val = self.mantissa.val * 10 ^ (new_scale.toNat - self.scale.toNat) →
        (scale_to checks self new_scale : Exec OnDemandError _) = .ok m)
    (fails : self.scale < new_scale →
      ¬ I128.InRange (self.mantissa.val * 10 ^ (new_scale.toNat - self.scale.toNat)) →
        ∀ m, (scale_to checks self new_scale : Exec OnDemandError _) ≠ .ok m) :
    RescalesExactly checks self new_scale := by
  refine ⟨down, up, fails, ?_⟩
  intro scaled done
  obtain ⟨m, run, same⟩ := Exec.bind_eq_ok.mp done
  cases same
  refine ⟨rfl, ?_⟩
  have integer : m.val = truncated (number self * 10 ^ new_scale.toNat) := by
    by_cases le : new_scale ≤ self.scale
    · obtain ⟨m', value, run'⟩ := down le
      rw [number_mul_down le, ← value, Exec.ok.inj (run.symm.trans run')]
    · have lt := UInt32.not_le.mp le
      rw [number_mul_up lt, truncated_intCast]
      by_cases fits : I128.InRange (self.mantissa.val * 10 ^ (new_scale.toNat - self.scale.toNat))
      · rw [Exec.ok.inj (run.symm.trans (up lt ⟨_, fits.1, fits.2⟩ rfl))]
      · exact absurd run (fails lt fits m)
  rw [cut, ← integer]
  rfl

/-! ### When rescaling is exact -/

theorem rescalesExactly_same (same : self.scale = new_scale) : RescalesExactly checks self new_scale := by
  have irrefl : ¬ self.scale < new_scale := by
    rw [same]
    exact UInt32.lt_irrefl _
  refine rescalesExactly_of ?_ (fun up => absurd up irrefl) fun up => absurd up irrefl
  intro _
  refine ⟨self.mantissa, ?_, scale_to_same same⟩
  rw [same, Nat.sub_self, pow_zero, div_one, truncated_intCast]

/-- Scaling down is exact exactly when the quotient is the right one. -/
theorem rescalesExactly_down_iff (down : new_scale < self.scale) : RescalesExactly checks self new_scale ↔
    ∃ m : I128, m.val = self.mantissa.val.tdiv (10 ^ (self.scale.toNat - new_scale.toNat)) ∧
      (scale_to checks self new_scale : Exec OnDemandError _) = .ok m := by
  have quotient : truncated (self.mantissa.val / 10 ^ (self.scale.toNat - new_scale.toNat)) =
      self.mantissa.val.tdiv (10 ^ (self.scale.toNat - new_scale.toNat)) := by
    have positive : 0 < 10 ^ (self.scale.toNat - new_scale.toNat) := by positivity
    have division := truncated_div self.mantissa.val positive
    rwa [Nat.cast_pow, Nat.cast_ofNat, Nat.cast_pow, Nat.cast_ofNat] at division
  rw [← quotient]
  constructor
  · intro exact
    exact exact.down (UInt32.le_of_lt down)
  · intro right
    have notUp : ¬ self.scale < new_scale := UInt32.not_lt.mpr (UInt32.le_of_lt down)
    exact rescalesExactly_of (fun _ => right) (fun up => absurd up notUp) fun up => absurd up notUp

/-- Scaling up is exact exactly when the product is the right one, or missing. -/
theorem rescalesExactly_up_iff (up : self.scale < new_scale) : RescalesExactly checks self new_scale ↔
    ∀ m : I128, (scale_to checks self new_scale : Exec OnDemandError _) = .ok m ↔
      m.val = self.mantissa.val * 10 ^ (new_scale.toNat - self.scale.toNat) := by
  constructor
  · intro exact m
    refine ⟨?_, exact.up up m⟩
    intro run
    by_cases fits : I128.InRange (self.mantissa.val * 10 ^ (new_scale.toNat - self.scale.toNat))
    · rw [Exec.ok.inj (run.symm.trans (exact.up up ⟨_, fits.1, fits.2⟩ rfl))]
    · exact absurd run (exact.fails up fits m)
  · intro right
    refine rescalesExactly_of (fun le => absurd up (UInt32.not_lt.mpr le)) (fun _ m => (right m).mpr) ?_
    intro _ wide m run
    rw [← (right m).mp run] at wide
    exact wide m.inRange

/-! ### Small and large powers -/

theorem unwrap_eq_ok {α : Type} {option : Option α} {value : α} :
    (unwrap option : Exec ε α) = .ok value ↔ option = some value := by
  cases option <;> simp [unwrap]

theorem pow_small {exp : Nat} (small : exp ≤ 38) : ∃ power : I128, power.val = 10 ^ exp ∧
    ∀ {ε : Type} {checks : OverflowChecks}, (I128.pow checks 10 exp : Exec ε I128) = .ok power := by
  have fits := (inRange_ten_pow_iff exp).mpr small
  exact ⟨⟨_, fits.1, fits.2⟩, rfl, I128.pow_of_inRange _ rfl⟩

theorem rescalesExactly_down_small (down : new_scale < self.scale)
    (small : self.scale.toNat - new_scale.toNat ≤ 38) : RescalesExactly checks self new_scale := by
  obtain ⟨power, value, done⟩ := pow_small small
  have positive : 0 < power.val := by
    rw [value]
    positivity
  obtain ⟨m, divided, quotient⟩ := checked_div_of_pos self.mantissa positive
  refine (rescalesExactly_down_iff down).mpr ⟨m, value ▸ quotient, ?_⟩
  rw [scale_to_down down, done, Exec.ok_bind, divided]
  rfl

theorem rescalesExactly_up_small (up : self.scale < new_scale) (small : new_scale.toNat - self.scale.toNat ≤ 38) :
    RescalesExactly checks self new_scale := by
  obtain ⟨power, value, done⟩ := pow_small small
  refine (rescalesExactly_up_iff up).mpr fun m => ?_
  rw [scale_to_up up, done, Exec.ok_bind, unwrap_eq_ok, I128.checked_mul, I128.ofInt?_eq_some, value]

/-- A product with a power that large is out of bounds, unless it is zero. -/
theorem product_wide {n : I128} (nonzero : n ≠ 0) {exp : Nat} (large : 38 < exp) :
    ¬ I128.InRange (n.val * 10 ^ exp) := by
  rintro ⟨lower, upper⟩
  have grows : (10 : ℕ) ^ 39 ≤ 10 ^ exp := Nat.pow_le_pow_right (by decide) large
  have one : 1 ≤ n.val.natAbs := Int.natAbs_pos.mpr fun zero => nonzero (I128.val_injective zero)
  have size : (n.val * 10 ^ exp).natAbs = n.val.natAbs * 10 ^ exp := by
    rw [Int.natAbs_mul, Int.natAbs_pow]
    rfl
  have product := Nat.mul_le_mul one grows
  omega

theorem tdiv_large (n : I128) {exp : Nat} (large : 38 < exp) : n.val.tdiv (10 ^ exp) = 0 := by
  have size : (n.val.tdiv (10 ^ exp)).natAbs = n.val.natAbs / 10 ^ exp := by
    rw [Int.natAbs_tdiv, Int.natAbs_pow]
    rfl
  rwa [Nat.div_eq_of_lt (natAbs_lt_ten_pow n large), Int.natAbs_eq_zero] at size

theorem pow_large_on {exp : Nat} (large : 38 < exp) :
    (I128.pow .on 10 exp : Exec ε I128) = .panic "attempt to multiply with overflow" :=
  I128.pow_on_of_not ((inRange_ten_pow_iff exp).not.mpr (Nat.not_le.mpr large))

theorem wrap_ten_pow (exp : Nat) : (I128.wrap ((10 : I128).val ^ exp)).val = wrappedPower exp := by
  have ten : (10 : I128).val ^ exp = 10 ^ exp := congrArg (· ^ exp) rfl
  exact (I128.val_wrap _).trans (congrArg (Int.bmod · (2 ^ 128)) ten)

theorem not_rescalesExactly_down_on (down : new_scale < self.scale)
    (large : 38 < self.scale.toNat - new_scale.toNat) : ¬ RescalesExactly .on self new_scale := by
  rw [rescalesExactly_down_iff down, scale_to_down down, pow_large_on large, Exec.panic_bind]
  rintro ⟨m, _, run⟩
  cases run

theorem rescalesExactly_up_on_iff (up : self.scale < new_scale) (large : 38 < new_scale.toNat - self.scale.toNat) :
    RescalesExactly .on self new_scale ↔ self.mantissa ≠ 0 := by
  rw [rescalesExactly_up_iff up, scale_to_up up, pow_large_on large, Exec.panic_bind]
  constructor
  · intro right zero
    have run := (right 0).mpr (by rw [zero]; exact (zero_mul _).symm)
    cases run
  · intro nonzero m
    refine iff_of_false nofun ?_
    intro value
    exact product_wide nonzero large (value ▸ m.inRange)

theorem rescalesExactly_down_off_iff (down : new_scale < self.scale)
    (large : 38 < self.scale.toNat - new_scale.toNat) : RescalesExactly .off self new_scale ↔
      self.mantissa.val.natAbs < (wrappedPower (self.scale.toNat - new_scale.toNat)).natAbs := by
  rw [rescalesExactly_down_iff down, scale_to_down down, I128.pow, Exec.ok_bind, tdiv_large _ large]
  rw [← wrap_ten_pow, ← checked_div_eq_zero_iff]
  constructor
  · rintro ⟨m, zero, run⟩
    have isZero : m = 0 := I128.val_injective zero
    rw [isZero] at run
    exact unwrap_eq_ok.mp run
  · intro zero
    exact ⟨0, rfl, unwrap_eq_ok.mpr zero⟩

theorem rescalesExactly_up_off_iff (up : self.scale < new_scale) (large : 38 < new_scale.toNat - self.scale.toNat) :
    RescalesExactly .off self new_scale ↔ self.mantissa = 0 ∨
      ¬ I128.InRange (self.mantissa.val * wrappedPower (new_scale.toNat - self.scale.toNat)) := by
  rw [rescalesExactly_up_iff up, scale_to_up up, I128.pow, Exec.ok_bind]
  simp only [unwrap_eq_ok, I128.checked_mul, I128.ofInt?_eq_some, wrap_ten_pow]
  by_cases zero : self.mantissa = 0
  · rw [zero]
    refine iff_of_true (fun m => ?_) (.inl rfl)
    show m.val = 0 * _ ↔ m.val = 0 * _
    rw [zero_mul, zero_mul]
  · rw [or_iff_right zero]
    constructor
    · intro right fits
      have value := (right ⟨_, fits.1, fits.2⟩).mp rfl
      exact product_wide zero large (value ▸ fits)
    · intro wide m
      refine iff_of_false ?_ ?_
      · intro value
        exact wide (value ▸ m.inRange)
      · intro value
        exact product_wide zero large (value ▸ m.inRange)

/-- Rescaling is exact exactly when the scales lie at most 38 apart or the power
    that does not fit makes no difference. -/
theorem rescalesExactly_iff (checks : OverflowChecks) (decimal : SwitchboardDecimal) (new_scale : UInt32) :
    RescalesExactly checks decimal new_scale ↔ PowerFitsOrNoMatter checks decimal new_scale := by
  unfold PowerFitsOrNoMatter
  by_cases down : new_scale < decimal.scale
  · have lt := UInt32.lt_iff_toNat_lt.mp down
    have notUp : ¬ decimal.scale < new_scale := UInt32.not_lt.mpr (UInt32.le_of_lt down)
    by_cases small : decimal.scale.toNat - new_scale.toNat ≤ 38
    · exact iff_of_true (rescalesExactly_down_small down small) (.inl ⟨by omega, by omega⟩)
    · rw [or_iff_right (by omega)]
      cases checks with
      | on => exact iff_of_false (not_rescalesExactly_down_on down (by omega)) fun both => notUp both.1
      | off =>
        simp only [if_pos down]
        exact rescalesExactly_down_off_iff down (by omega)
  · by_cases up : decimal.scale < new_scale
    · have lt := UInt32.lt_iff_toNat_lt.mp up
      by_cases small : new_scale.toNat - decimal.scale.toNat ≤ 38
      · exact iff_of_true (rescalesExactly_up_small up small) (.inl ⟨by omega, by omega⟩)
      · rw [or_iff_right (by omega)]
        cases checks with
        | on =>
          simp only [up, true_and]
          exact rescalesExactly_up_on_iff up (by omega)
        | off =>
          simp only [if_neg down]
          exact rescalesExactly_up_off_iff up (by omega)
    · have same : decimal.scale = new_scale := UInt32.le_antisymm (UInt32.not_lt.mp down) (UInt32.not_lt.mp up)
      exact iff_of_true (rescalesExactly_same same) (.inl (by rw [same]; omega))

/-- 0.1 with 39 decimals. -/
def oneTenth : SwitchboardDecimal := ⟨⟨100000000000000000000000000000000000000, by decide, by decide⟩, 39⟩

/-- At scale 0 it is not 0: it panics where overflow is checked, and is -4
    elsewhere. -/
theorem oneTenth_misscaled :
    (scale_to .on oneTenth 0 : Exec OnDemandError _) = .panic "attempt to multiply with overflow" ∧
      (scale_to .off oneTenth 0 : Exec OnDemandError _) = .ok ⟨-4, by decide, by decide⟩ ∧
      ¬ RescalesExactly .on oneTenth 0 ∧ ¬ RescalesExactly .off oneTenth 0 := by
  have down : (0 : UInt32) < oneTenth.scale := by decide
  refine ⟨by decide +kernel, by decide +kernel, not_rescalesExactly_down_on down (by decide), ?_⟩
  rw [rescalesExactly_down_off_iff down (by decide)]
  decide +kernel

end SwitchboardOnDemand.Rescaling
