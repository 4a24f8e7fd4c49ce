import SwitchboardOnDemand.SwitchboardDecimals

/-!
# The order of decimals

Decimals are compared by their numbers, and are equal when mantissa and scale
are. Comparison is a total order on the convertible decimals, with which all
operators agree. It says "equal" of two decimals that differ exactly when they
hold one number at two scales (`orderLawful_iff`).
-/

namespace SwitchboardOnDemand.DecimalOrder
open Rust SwitchboardOnDemand.Decimals SwitchboardOnDemand.Error SwitchboardOnDemand.SwitchboardDecimals

/-- What `Ord` requires of the comparison of two decimals, and of a third one:
    it is antisymmetric and transitive, the operators agree with it, and it says
    "equal" exactly of equal decimals. -/
structure OrderLawful (ops : DecimalOps) (a b c : SwitchboardDecimal) : Prop where
  total : ∃ order, (cmp ops a b : Exec OnDemandError _) = .ok order
  swap : ∀ order, (cmp ops a b : Exec OnDemandError _) = .ok order →
    (cmp ops b a : Exec OnDemandError _) = .ok order.swap
  trans : ∀ order, (cmp ops a b : Exec OnDemandError _) = .ok order →
    (cmp ops b c : Exec OnDemandError _) = .ok order → (cmp ops a c : Exec OnDemandError _) = .ok order
  optional : ∀ order, (cmp ops a b : Exec OnDemandError _) = .ok order →
    (partial_cmp ops a b : Exec OnDemandError _) = .ok (some order)
  lt : ∀ order, (cmp ops a b : Exec OnDemandError _) = .ok order →
    (lt ops a b : Exec OnDemandError _) = .ok (order == .lt)
  le : ∀ order, (cmp ops a b : Exec OnDemandError _) = .ok order →
    (le ops a b : Exec OnDemandError _) = .ok (order != .gt)
  gt : ∀ order, (cmp ops a b : Exec OnDemandError _) = .ok order →
    (gt ops a b : Exec OnDemandError _) = .ok (order == .gt)
  ge : ∀ order, (cmp ops a b : Exec OnDemandError _) = .ok order →
    (ge ops a b : Exec OnDemandError _) = .ok (order != .lt)
  equal : (cmp ops a b : Exec OnDemandError _) = .ok .eq ↔ a = b

/-- One scale, or two numbers. -/
def OneScaleOrTwoNumbers (a b : SwitchboardDecimal) : Prop :=
  a.scale = b.scale ∨ a.mantissa.val * 10 ^ b.scale.toNat ≠ b.mantissa.val * 10 ^ a.scale.toNat

variable {ε : Type} {ops : DecimalOps} {a b c : SwitchboardDecimal}

/-! ### Comparison by numbers -/

/-- A comparison of convertible decimals is one of decimals with their numbers. -/
theorem compared_of_convertible (compares : ComparesNumbers ops) (leftFits : Convertible a) (rightFits : Convertible b) :
    ∃ left right, ops.number left = number a ∧ ops.number right = number b ∧
      ∀ {ε β : Type} (comparison : ops.Decimal → ops.Decimal → β),
        (compared ops comparison a b : Exec ε β) = .ok (comparison left right) := by
  obtain ⟨left, leftNumber, leftDone⟩ := converted_of_convertible compares leftFits
  obtain ⟨right, rightNumber, rightDone⟩ := converted_of_convertible compares rightFits
  refine ⟨left, right, leftNumber, rightNumber, ?_⟩
  intro ε β comparison
  rw [compared, leftDone, Exec.ok_bind, rightDone, Exec.ok_bind, Exec.pure_eq]

theorem cmp_eq (compares : ComparesNumbers ops) (leftFits : Convertible a) (rightFits : Convertible b) :
    (cmp ops a b : Exec ε _) = .ok (compare (number a) (number b)) := by
  obtain ⟨left, right, leftNumber, rightNumber, done⟩ := compared_of_convertible compares leftFits rightFits
  rw [SwitchboardDecimals.cmp, done, compares.cmp, leftNumber, rightNumber]

/-- An operator that decides a relation of the numbers, read off their comparison. -/
theorem compared_eq (leftFits : Convertible a) (rightFits : Convertible b) (compares : ComparesNumbers ops)
    (order : Ordering → Bool) {comparison : ops.Decimal → ops.Decimal → Bool} {relation : ℚ → ℚ → Prop}
    (decides : ∀ x y, comparison x y = true ↔ relation (ops.number x) (ops.number y))
    (orders : ∀ x y : ℚ, order (compare x y) = true ↔ relation x y) :
    (compared ops comparison a b : Exec ε _) = .ok (order (compare (number a) (number b))) := by
  obtain ⟨left, right, leftNumber, rightNumber, done⟩ := compared_of_convertible compares leftFits rightFits
  rw [done]
  congr 1
  rw [Bool.eq_iff_iff, decides, orders, leftNumber, rightNumber]

/-- Numbers are equal when their cross products are. -/
theorem number_eq_iff : number a = number b ↔
    a.mantissa.val * 10 ^ b.scale.toNat = b.mantissa.val * 10 ^ a.scale.toNat := by
  rw [number, number, div_eq_div_iff (by positivity) (by positivity)]
  exact_mod_cast Iff.rfl

/-- Of one scale, decimals with one number are equal. -/
theorem eq_of_number_eq (scale : a.scale = b.scale) (same : number a = number b) : a = b := by
  rw [number_eq_iff, scale] at same
  have mantissa : a.mantissa = b.mantissa := I128.val_injective (Int.eq_of_mul_eq_mul_right (by positivity) same)
  cases a
  cases b
  cases scale
  cases mantissa
  rfl

theorem cmp_eq_eq_iff (compares : ComparesNumbers ops) (leftFits : Convertible a) (rightFits : Convertible b) :
    (cmp ops a b : Exec ε _) = .ok .eq ↔ number a = number b := by
  rw [cmp_eq compares leftFits rightFits, Exec.ok.injEq, compare_eq_iff_eq]

/-! ### The laws -/

/-- The comparison of numbers is transitive for each outcome. -/
theorem compare_trans {x y z : ℚ} {order : Ordering} (first : compare x y = order) (second : compare y z = order) :
    compare x z = order := by
  cases order with
  | lt => exact compare_lt_iff_lt.mpr ((compare_lt_iff_lt.mp first).trans (compare_lt_iff_lt.mp second))
  | eq => exact compare_eq_iff_eq.mpr ((compare_eq_iff_eq.mp first).trans (compare_eq_iff_eq.mp second))
  | gt => exact compare_gt_iff_gt.mpr ((compare_gt_iff_gt.mp second).trans (compare_gt_iff_gt.mp first))

/-- "Equal" of exactly the equal decimals, unless one number stands at two
    scales. -/
theorem equal_iff (compares : ComparesNumbers ops) (fitsA : Convertible a) (fitsB : Convertible b) :
    ((cmp ops a b : Exec ε _) = .ok .eq ↔ a = b) ↔ OneScaleOrTwoNumbers a b := by
  rw [cmp_eq_eq_iff compares fitsA fitsB]
  constructor
  · intro equal
    by_cases scale : a.scale = b.scale
    · exact .inl scale
    · refine .inr fun cross => scale ?_
      rw [equal.mp (number_eq_iff.mpr cross)]
  · intro condition
    constructor
    · intro same
      rcases condition with scale | differ
      · exact eq_of_number_eq scale same
      · exact absurd (number_eq_iff.mp same) differ
    · rintro rfl
      rfl

/-- On convertible decimals the comparison keeps all laws of `Ord`, except that
    one number may stand at two scales. -/
theorem orderLawful_iff (ops : DecimalOps) (compares : ComparesNumbers ops) (a b c : SwitchboardDecimal)
    (fitsA : Convertible a) (fitsB : Convertible b) (fitsC : Convertible c) :
    OrderLawful ops a b c ↔ OneScaleOrTwoNumbers a b := by
  rw [← equal_iff compares fitsA fitsB]
  refine ⟨OrderLawful.equal, ?_⟩
  intro equal
  have ab : (cmp ops a b : Exec OnDemandError _) = _ := cmp_eq compares fitsA fitsB
  have ba : (cmp ops b a : Exec OnDemandError _) = _ := cmp_eq compares fitsB fitsA
  have bc : (cmp ops b c : Exec OnDemandError _) = _ := cmp_eq compares fitsB fitsC
  have ac : (cmp ops a c : Exec OnDemandError _) = _ := cmp_eq compares fitsA fitsC
  refine ⟨⟨_, ab⟩, ?_, ?_, ?_, ?_, ?_, ?_, ?_, equal⟩
  · intro order done
    rw [ab, Exec.ok.injEq] at done
    rw [ba, ← done, Std.OrientedOrd.eq_swap]
  · intro order first second
    rw [ab, Exec.ok.injEq] at first
    rw [bc, Exec.ok.injEq] at second
    rw [ac, compare_trans first second]
  · intro order done
    rw [partial_cmp, done, Exec.map_ok]
  · rw [ab]
    rintro order ⟨⟩
    exact compared_eq fitsA fitsB compares (· == .lt) compares.lt fun _ _ => beq_iff_eq.trans compare_lt_iff_lt
  · rw [ab]
    rintro order ⟨⟩
    exact compared_eq fitsA fitsB compares (· != .gt) compares.le fun _ _ => bne_iff_ne.trans compare_le_iff_le
  · rw [ab]
    rintro order ⟨⟩
    exact compared_eq fitsA fitsB compares (· == .gt) compares.gt fun _ _ => beq_iff_eq.trans compare_gt_iff_gt
  · rw [ab]
    rintro order ⟨⟩
    exact compared_eq fitsA fitsB compares (· != .lt) compares.ge fun _ _ => bne_iff_ne.trans compare_ge_iff_ge

/-- 1 at scale 0. -/
def one : SwitchboardDecimal := ⟨⟨1, by decide, by decide⟩, 0⟩

/-- 1 at scale 1. -/
def tenTenths : SwitchboardDecimal := ⟨10, 1⟩

/-- 1.5 at scale 1. -/
def fifteenTenths : SwitchboardDecimal := ⟨⟨15, by decide, by decide⟩, 1⟩

theorem orderLawful_iff_tenths : OrderLawful decimal96 one fifteenTenths tenTenths := by
  have lawful := orderLawful_iff decimal96 comparesNumbers_decimal96 one fifteenTenths tenTenths
    ⟨by decide, by decide⟩ ⟨by decide, by decide⟩ ⟨by decide, by decide⟩
  exact lawful.mpr (.inr (by decide))

/-- 1 at two scales compares as equal and is not equal. -/
theorem oneTwice_not_lawful :
    (cmp decimal96 tenTenths one : Exec OnDemandError _) = .ok .eq ∧ tenTenths ≠ one ∧
      ∀ c, ¬ OrderLawful decimal96 tenTenths one c := by
  have equal : (cmp decimal96 tenTenths one : Exec OnDemandError _) = .ok .eq := by rfl
  have differ : tenTenths ≠ one := by decide
  exact ⟨equal, differ, fun _ lawful => differ (lawful.equal.mp equal)⟩

end SwitchboardOnDemand.DecimalOrder
