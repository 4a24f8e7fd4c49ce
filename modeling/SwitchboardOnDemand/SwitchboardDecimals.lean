import SwitchboardOnDemand.Decimals
import SwitchboardOnDemand.Error

/-!
# The crate's own decimals

A `SwitchboardDecimal` is a mantissa of 128 bits and a scale of 32 bits, as read
from an account. It is rescaled by a power of ten, and compared as the decimals
of the package, to which a mantissa that is too wide or a scale above 28 has no
conversion.
-/

namespace SwitchboardOnDemand.SwitchboardDecimals
open Rust SwitchboardOnDemand.Decimals SwitchboardOnDemand.Error

variable {ε : Type}

/-- Two of them are equal (`==`) when both fields are. -/
structure SwitchboardDecimal where
  mantissa : I128
  scale : UInt32
  deriving Repr, DecidableEq

/-- `Option::unwrap`. -/
def unwrap {α : Type} : Option α → Exec ε α
  | some value => .ok value
  | none => .panic "called `Option::unwrap()` on a `None` value"

/-! ### Rescaling -/

/-- The mantissa at a new scale. -/
def scale_to (checks : OverflowChecks) (self : SwitchboardDecimal) (new_scale : UInt32) : Exec ε I128 :=
  match compare self.scale new_scale with
  | .gt => do
    let power ← I128.pow checks 10 (self.scale - new_scale).toNat
    unwrap (self.mantissa.checked_div power)
  | .lt => do
    let power ← I128.pow checks 10 (new_scale - self.scale).toNat
    unwrap (self.mantissa.checked_mul power)
  | .eq => .ok self.mantissa

def new_with_scale (checks : OverflowChecks) (self : SwitchboardDecimal) (new_scale : UInt32) :
    Exec ε SwitchboardDecimal := do
  let mantissa ← scale_to checks self new_scale
  pure ⟨mantissa, new_scale⟩

/-! ### Comparison -/

variable (ops : DecimalOps)

/-- The conversion to a decimal of the package. -/
def try_into (self : SwitchboardDecimal) : Except OnDemandError ops.Decimal :=
  (ops.try_from_i128_with_scale self.mantissa self.scale.toNat).mapError fun _ => .DecimalConversionError

/-- `self.try_into().unwrap()`. -/
def converted (self : SwitchboardDecimal) : Exec ε ops.Decimal :=
  match try_into ops self with
  | .ok decimal => .ok decimal
  | .error _ => .panic "called `Result::unwrap()` on an `Err` value: DecimalConversionError"

/-- What the comparisons share: both sides are converted, the left one first. -/
def compared {β : Type} (comparison : ops.Decimal → ops.Decimal → β) (self other : SwitchboardDecimal) : Exec ε β := do
  let s ← converted ops self
  let other ← converted ops other
  pure (comparison s other)

def cmp (self other : SwitchboardDecimal) : Exec ε Ordering := compared ops ops.cmp self other

def partial_cmp (self other : SwitchboardDecimal) : Exec ε (Option Ordering) := some <$> cmp ops self other

def lt (self other : SwitchboardDecimal) : Exec ε Bool := compared ops ops.lt self other

def le (self other : SwitchboardDecimal) : Exec ε Bool := compared ops ops.le self other

def gt (self other : SwitchboardDecimal) : Exec ε Bool := compared ops ops.gt self other

def ge (self other : SwitchboardDecimal) : Exec ε Bool := compared ops ops.ge self other

/-! ### The number and its conversion -/

/-- The number that a decimal stands for. -/
def number (self : SwitchboardDecimal) : ℚ := self.mantissa.val / 10 ^ self.scale.toNat

/-- The conversion succeeds: a scale of at most 28 and a mantissa of 96 bits. -/
structure Convertible (decimal : SwitchboardDecimal) : Prop where
  scale : decimal.scale ≤ 28
  mantissa : Narrow decimal.mantissa

variable {ops}

/-- A convertible decimal is converted to its number. -/
theorem converted_of_convertible (compares : ComparesNumbers ops) {self : SwitchboardDecimal}
    (convertible : Convertible self) :
    ∃ decimal, ops.number decimal = number self ∧ ∀ {ε : Type}, (converted ops self : Exec ε _) = .ok decimal := by
  have small : self.scale.toNat ≤ 28 := UInt32.le_iff_toNat_le.mp convertible.scale
  obtain ⟨decimal, done, value⟩ := compares.fits self.mantissa self.scale.toNat convertible.mantissa small
  refine ⟨decimal, value, ?_⟩
  intro ε
  rw [converted, try_into, done]
  rfl

end SwitchboardOnDemand.SwitchboardDecimals
