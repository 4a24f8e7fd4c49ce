import SwitchboardOnDemand.Bytes
import SwitchboardOnDemand.Outcome
import Mathlib.Order.Basic

/-!
# Signed 128-bit integers

`i128` as an integer within its bounds, ordered by value, with the little-endian
two's complement bytes of `from_le_bytes` and `to_le_bytes`, and with the checked
operations and the power, which wraps where overflow is not checked.
-/

namespace Rust

structure I128 where
  val : Int
  lower : -2 ^ 127 ≤ val
  upper : val < 2 ^ 127
  deriving Repr, DecidableEq

namespace I128

theorem val_injective : Function.Injective I128.val := by
  rintro ⟨a, _, _⟩ ⟨b, _, _⟩ same
  cases same
  rfl

/-- Integers are compared by value. -/
instance : LinearOrder I128 := LinearOrder.lift' I128.val val_injective

instance : OfNat I128 0 := ⟨⟨0, by decide, by decide⟩⟩
instance : OfNat I128 10 := ⟨⟨10, by decide, by decide⟩⟩

/-- `i128::from_le_bytes`. -/
def ofLE (bytes : FixedBytes 16) : I128 :=
  have bound : leNat bytes.val < 2 ^ 128 := by
    have := leNat_lt bytes.val
    rw [bytes.property] at this
    simpa using this
  if positive : leNat bytes.val < 2 ^ 127 then ⟨leNat bytes.val, by omega, by omega⟩
  else ⟨(leNat bytes.val : Int) - 2 ^ 128, by omega, by omega⟩

/-- `i128::to_le_bytes`. -/
def toLE (n : I128) : FixedBytes 16 := ⟨leBytes 16 (n.val % 2 ^ 128).toNat, length_leBytes 16 _⟩

theorem leNat_toLE (n : I128) : (leNat n.toLE.val : Int) = n.val % 2 ^ 128 := by
  have low : 0 ≤ n.val % 2 ^ 128 := Int.emod_nonneg _ (by decide)
  have high : n.val % 2 ^ 128 < 2 ^ 128 := Int.emod_lt_of_pos _ (by decide)
  rw [toLE, leNat_leBytes_of_lt (by omega)]
  omega

theorem ofLE_toLE (n : I128) : ofLE n.toLE = n := by
  have residue := leNat_toLE n
  have lower := n.lower
  have upper := n.upper
  apply val_injective
  unfold ofLE
  split
  · show (leNat n.toLE.val : Int) = n.val
    omega
  · show (leNat n.toLE.val : Int) - 2 ^ 128 = n.val
    omega

theorem toLE_ofLE (bytes : FixedBytes 16) : (ofLE bytes).toLE = bytes := by
  have bound := leNat_lt bytes.val
  rw [bytes.property] at bound
  have residue := leNat_toLE (ofLE bytes)
  have same : leNat (ofLE bytes).toLE.val = leNat bytes.val := by
    unfold ofLE at residue ⊢
    split at residue
    · rename_i positive
      simp only [dif_pos positive] at residue ⊢
      omega
    · rename_i negative
      simp only [dif_neg negative] at residue ⊢
      omega
  exact Subtype.ext (leNat_injective ((ofLE bytes).toLE.property.trans bytes.property.symm) same)

theorem toLE_injective {a b : I128} (same : a.toLE = b.toLE) : a = b := by
  rw [← ofLE_toLE a, ← ofLE_toLE b, same]

/-! ## Arithmetic -/

/-- The integer is within the bounds. -/
def InRange (n : Int) : Prop := -2 ^ 127 ≤ n ∧ n < 2 ^ 127

instance (n : Int) : Decidable (InRange n) := inferInstanceAs (Decidable (_ ∧ _))

theorem inRange (n : I128) : InRange n.val := ⟨n.lower, n.upper⟩

/-- The integer, unless it is out of bounds. -/
def ofInt? (n : Int) : Option I128 := if fits : InRange n then some ⟨n, fits.1, fits.2⟩ else none

theorem ofInt?_val (n : I128) : ofInt? n.val = some n := dif_pos n.inRange

theorem ofInt?_of_not {n : Int} (wide : ¬ InRange n) : ofInt? n = none := dif_neg wide

theorem ofInt?_eq_some {n : Int} {m : I128} : ofInt? n = some m ↔ m.val = n := by
  constructor
  · intro done
    unfold ofInt? at done
    split at done
    · cases done
      rfl
    · cases done
  · rintro rfl
    exact ofInt?_val m

/-- The integer modulo `2 ^ 128`. -/
def wrap (n : Int) : I128 where
  val := n.bmod (2 ^ 128)
  lower := by
    have low := Int.le_bmod (x := n) (m := 2 ^ 128) (by decide)
    omega
  upper := by
    have high := Int.bmod_lt (x := n) (m := 2 ^ 128) (by decide)
    omega

theorem val_wrap (n : Int) : (wrap n).val = n.bmod (2 ^ 128) := rfl

theorem wrap_val (n : I128) : wrap n.val = n := by
  have lower := n.lower
  have upper := n.upper
  apply val_injective
  rw [val_wrap, Int.bmod_eq_iff (by decide)]
  omega

/-- `checked_div`, rounded toward zero. -/
def checked_div (a b : I128) : Option I128 := if b = 0 then none else ofInt? (a.val.tdiv b.val)

def checked_mul (a b : I128) : Option I128 := ofInt? (a.val * b.val)

/-- `pow`: an overflow panics, or wraps when it is not checked. -/
def pow {ε : Type} (checks : OverflowChecks) (base : I128) (exp : Nat) : Exec ε I128 :=
  match checks with
  | .on =>
    match ofInt? (base.val ^ exp) with
    | some power => .ok power
    | none => .panic "attempt to multiply with overflow"
  | .off => .ok (wrap (base.val ^ exp))

theorem pow_of_inRange {ε : Type} (checks : OverflowChecks) {base power : I128} {exp : Nat}
    (fits : power.val = base.val ^ exp) : (pow checks base exp : Exec ε I128) = .ok power := by
  cases checks with
  | on => rw [pow, ofInt?_eq_some.mpr fits]
  | off => rw [pow, ← fits, wrap_val]

theorem pow_on_of_not {ε : Type} {base : I128} {exp : Nat} (wide : ¬ InRange (base.val ^ exp)) :
    (pow .on base exp : Exec ε I128) = .panic "attempt to multiply with overflow" := by
  rw [pow, ofInt?_of_not wide]

end I128

end Rust
