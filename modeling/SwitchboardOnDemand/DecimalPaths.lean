import SwitchboardOnDemand.Rescaling

/-!
# Decimals on their way

A mantissa and a scale are kept in three types: that of the package, that of
Borsh and the crate's own, which alone can be rescaled. Whatever way a decimal
goes between them, what arrives is its number without the digits behind the
lowest scale on the way, and it arrives when the package and 128 bits can hold
what comes by (`run_path`). As a truth value a decimal is its nearest integer
(`to_bool_iff`).
-/

namespace SwitchboardOnDemand.DecimalPaths
open Rust SwitchboardOnDemand.Decimals SwitchboardOnDemand.Error SwitchboardOnDemand.SwitchboardDecimals
open SwitchboardOnDemand.Rescaling

/-! ### Cutting a number twice -/

theorem truncated_neg (x : ℚ) : truncated (-x) = -truncated x := by
  unfold truncated
  rcases lt_trichotomy x 0 with negative | rfl | positive
  · rw [if_pos (by linarith), if_neg (by linarith), Int.floor_neg]
  · simp
  · rw [if_neg (by linarith), if_pos positive.le, Int.ceil_neg]

/-- Digits that go one after the other go as at once. -/
theorem truncated_truncated_div (x : ℚ) {d : ℕ} (positive : 0 < d) : truncated (truncated x / d) = truncated (x / d) := by
  have upper : ∀ y : ℚ, 0 ≤ y → truncated (truncated y / d) = truncated (y / d) := by
    intro y nonneg
    have floor : truncated y = ⌊y⌋ := if_pos nonneg
    have quotient : truncated (y / d) = ⌊y / d⌋ := if_pos (by positivity)
    rw [truncated_div _ positive, quotient, floor, Int.floor_div_natCast,
      Int.tdiv_eq_ediv_of_nonneg (Int.floor_nonneg.mpr nonneg)]
  rcases le_total 0 x with nonneg | nonpos
  · exact upper x nonneg
  · have mirrored := upper (-x) (neg_nonneg.mpr nonpos)
    rwa [truncated_neg, neg_div, truncated_neg, Int.cast_neg, neg_div, truncated_neg, neg_inj] at mirrored

theorem cut_cut (x : ℚ) (a b : ℕ) : cut (cut x a) b = cut x (min a b) := by
  have ten : ∀ n : ℕ, (10 : ℚ) ^ n ≠ 0 := fun n => by positivity
  rcases le_total b a with fewer | more
  · obtain ⟨rest, rfl⟩ := Nat.exists_eq_add_of_le fewer
    have shift : (truncated (x * 10 ^ (b + rest)) : ℚ) / 10 ^ (b + rest) * 10 ^ b =
        truncated (x * 10 ^ (b + rest)) / (10 ^ rest : ℕ) := by
      push_cast
      rw [pow_add]
      field_simp
    have whole : x * 10 ^ (b + rest) / (10 ^ rest : ℕ) = x * 10 ^ b := by
      push_cast
      rw [pow_add]
      field_simp
    rw [min_eq_right fewer, cut, cut, shift, truncated_truncated_div _ (by positivity), whole, cut]
  · obtain ⟨rest, rfl⟩ := Nat.exists_eq_add_of_le more
    have shift : (truncated (x * 10 ^ a) : ℚ) / 10 ^ a * 10 ^ (a + rest) =
        (truncated (x * 10 ^ a) * 10 ^ rest : ℤ) := by
      push_cast
      rw [pow_add]
      field_simp
    rw [min_eq_left more, cut, cut, shift, truncated_intCast]
    push_cast
    rw [pow_add]
    field_simp

/-- A number has no digits behind its scale. -/
theorem cut_number (decimal : SwitchboardDecimal) : cut (number decimal) decimal.scale.toNat = number decimal := by
  rw [cut, number, div_mul_cancel₀ _ (by positivity), truncated_intCast]

/-! ### One rescaling -/

variable {checks : OverflowChecks} {decimal : SwitchboardDecimal} {new_scale : UInt32}

theorem rescalesExactly_of_near (notDown : decimal.scale.toNat ≤ new_scale.toNat + 38)
    (notUp : new_scale.toNat ≤ decimal.scale.toNat + 38) : RescalesExactly checks decimal new_scale := by
  rcases lt_trichotomy new_scale.toNat decimal.scale.toNat with down | same | up
  · exact rescalesExactly_down_small (UInt32.lt_iff_toNat_lt.mpr down) (by omega)
  · exact rescalesExactly_same (UInt32.toNat_inj.mp same.symm)
  · exact rescalesExactly_up_small (UInt32.lt_iff_toNat_lt.mpr up) (by omega)

/-- The mantissa that a decimal has at a scale. -/
def mantissaAt (x : ℚ) (scale : UInt32) : ℤ := truncated (x * 10 ^ scale.toNat)

theorem mantissaAt_scale (decimal : SwitchboardDecimal) :
    mantissaAt (number decimal) decimal.scale = decimal.mantissa.val := by
  rw [mantissaAt, number, div_mul_cancel₀ _ (by positivity), truncated_intCast]

/-- Rescaling gives the decimal of the new scale with the digits of the number, and
    nothing where they are too many for 128 bits. -/
theorem new_with_scale_ok_iff (exact : RescalesExactly checks decimal new_scale) (scaled : SwitchboardDecimal) :
    (new_with_scale checks decimal new_scale : Exec OnDemandError _) = .ok scaled ↔
      scaled.scale = new_scale ∧ scaled.mantissa.val = mantissaAt (number decimal) new_scale := by
  constructor
  · intro done
    obtain ⟨scale, value⟩ := exact.denotes scaled done
    refine ⟨scale, ?_⟩
    rw [← mantissaAt_scale, scale, value, mantissaAt, cut, div_mul_cancel₀ _ (by positivity), truncated_intCast]
    rfl
  · rintro ⟨rfl, mantissa⟩
    have run : (scale_to checks decimal scaled.scale : Exec OnDemandError _) = .ok scaled.mantissa := by
      by_cases down : scaled.scale ≤ decimal.scale
      · obtain ⟨m, value, run⟩ := exact.down down
        rw [← number_mul_down down, ← mantissaAt, ← mantissa] at value
        rw [run, I128.val_injective value]
      · have up := UInt32.not_le.mp down
        refine exact.up up scaled.mantissa ?_
        rw [mantissa, mantissaAt, number_mul_up up, truncated_intCast]
    rw [new_with_scale, run, Exec.ok_bind]
    rfl

theorem new_with_scale_returns_iff (exact : RescalesExactly checks decimal new_scale) :
    (∃ scaled, (new_with_scale checks decimal new_scale : Exec OnDemandError _) = .ok scaled) ↔
      I128.InRange (mantissaAt (number decimal) new_scale) := by
  simp only [new_with_scale_ok_iff exact]
  constructor
  · rintro ⟨scaled, _, mantissa⟩
    exact mantissa ▸ scaled.mantissa.inRange
  · intro fits
    exact ⟨⟨⟨_, fits.1, fits.2⟩, new_scale⟩, rfl, rfl⟩

/-! ### The three types and what leads from one to another -/

/-- The package's calls on the parts of a decimal. -/
structure PartsOps extends DecimalOps where
  mantissa : Decimal → I128
  scale : Decimal → UInt32
  /-- To the nearest integer, the even one of two. -/
  round : Decimal → Decimal

/-- The checked constructor takes 96-bit mantissas and scales up to 28, and keeps
    both. -/
structure KeepsParts (ops : PartsOps) : Prop where
  fits : ∀ num scale, Narrow num → scale ≤ 28 → ∃ decimal, ops.try_from_i128_with_scale num scale = .ok decimal
  parts : ∀ num scale decimal, ops.try_from_i128_with_scale num scale = .ok decimal →
    Narrow num ∧ scale ≤ 28 ∧ ops.mantissa decimal = num ∧ (ops.scale decimal).toNat = scale

structure BorshDecimal where
  mantissa : I128
  scale : UInt32
  deriving Repr, DecidableEq

inductive Form where
  | borsh
  | switchboard
  | package
  deriving DecidableEq

def Value (ops : PartsOps) : Form → Type
  | .borsh => BorshDecimal
  | .switchboard => SwitchboardDecimal
  | .package => ops.Decimal

/-- Mantissa and scale, in whatever form. -/
def parts {ops : PartsOps} : {form : Form} → Value ops form → SwitchboardDecimal
  | .borsh, (value : BorshDecimal) => ⟨value.mantissa, value.scale⟩
  | .switchboard, value => value
  | .package, decimal => ⟨ops.mantissa decimal, ops.scale decimal⟩

/-- The conversions, and the crate's own rescaling. -/
inductive Op : Form → Form → Type where
  | borsh_from_decimal : Op .package .borsh
  | borsh_from_switchboard : Op .switchboard .borsh
  | switchboard_from_borsh : Op .borsh .switchboard
  | from_rust_decimal : Op .package .switchboard
  | borsh_try_into : Op .borsh .package
  | switchboard_try_into : Op .switchboard .package
  | new_with_scale (new_scale : UInt32) : Op .switchboard .switchboard

/-- One call after the other, to the first that fails. -/
inductive Path : Form → Form → Type where
  | nil {a : Form} : Path a a
  | cons {a b c : Form} (op : Op a b) (rest : Path b c) : Path a c

variable {ops : PartsOps} {a b : Form}

/-- `TryInto<Decimal>` of `BorshDecimal`. -/
def BorshDecimal.try_into (ops : PartsOps) (self : BorshDecimal) : Except OnDemandError ops.Decimal :=
  (ops.try_from_i128_with_scale self.mantissa self.scale.toNat).mapError fun _ => .DecimalConversionError

def Op.apply (checks : OverflowChecks) : {a b : Form} → Op a b → Value ops a → Exec OnDemandError (Value ops b)
  | _, _, .borsh_from_decimal, decimal => .ok (⟨ops.mantissa decimal, ops.scale decimal⟩ : BorshDecimal)
  | _, _, .borsh_from_switchboard, (s : SwitchboardDecimal) => .ok (⟨s.mantissa, s.scale⟩ : BorshDecimal)
  | _, _, .switchboard_from_borsh, (val : BorshDecimal) => .ok (⟨val.mantissa, val.scale⟩ : SwitchboardDecimal)
  | _, _, .from_rust_decimal, d => .ok (⟨ops.mantissa d, ops.scale d⟩ : SwitchboardDecimal)
  | _, _, .borsh_try_into, (self : BorshDecimal) => .ofResult (self.try_into ops)
  | _, _, .switchboard_try_into, (self : SwitchboardDecimal) =>
    .ofResult (SwitchboardDecimals.try_into ops.toDecimalOps self)
  | _, _, .new_with_scale new_scale, (self : SwitchboardDecimal) =>
    SwitchboardDecimals.new_with_scale checks self new_scale

def Path.run (checks : OverflowChecks) : {a b : Form} → Path a b → Value ops a → Exec OnDemandError (Value ops b)
  | _, _, .nil, value => .ok value
  | _, _, .cons op rest, value => do rest.run checks (← op.apply checks value)

/-! ### What a way does to the number -/

/-- The scale after a call. -/
def Op.scale : Op a b → UInt32 → UInt32
  | .new_with_scale new_scale, _ => new_scale
  | _, scale => scale

/-- A power of ten that takes it from scale to scale is an `i128`. -/
def Op.Near : Op a b → UInt32 → Prop
  | .new_with_scale new_scale, scale => scale.toNat ≤ new_scale.toNat + 38 ∧ new_scale.toNat ≤ scale.toNat + 38
  | _, _ => True

/-- The result holds the number: in the package 96 bits and 28 places, elsewhere
    128 bits. -/
def Op.Fits : Op a b → UInt32 → ℚ → Prop
  | .borsh_try_into, scale, x => (mantissaAt x scale).natAbs < 2 ^ 96 ∧ scale.toNat ≤ 28
  | .switchboard_try_into, scale, x => (mantissaAt x scale).natAbs < 2 ^ 96 ∧ scale.toNat ≤ 28
  | .new_with_scale new_scale, _, x => I128.InRange (mantissaAt x new_scale)
  | _, _, _ => True

def Path.scale : {a b : Form} → Path a b → UInt32 → UInt32
  | _, _, .nil, scale => scale
  | _, _, .cons op rest, scale => rest.scale (op.scale scale)

/-- The lowest scale on the way. -/
def Path.lowest : {a b : Form} → Path a b → UInt32 → ℕ
  | _, _, .nil, scale => scale.toNat
  | _, _, .cons op rest, scale => min scale.toNat (rest.lowest (op.scale scale))

def Path.Near : {a b : Form} → Path a b → UInt32 → Prop
  | _, _, .nil, _ => True
  | _, _, .cons op rest, scale => op.Near scale ∧ rest.Near (op.scale scale)

/-- Whatever comes by can be held. -/
def Path.Fits : {a b : Form} → Path a b → UInt32 → ℚ → Prop
  | _, _, .nil, _, _ => True
  | _, _, .cons op rest, scale, x => op.Fits scale x ∧ rest.Fits (op.scale scale) (cut x (op.scale scale).toNat)

/-! ### One call -/

/-- The value has a scale, and the digits of a number up to it. -/
structure Arrives {form : Form} (value : Value ops form) (new_scale : UInt32) (x : ℚ) : Prop where
  scale : (parts value).scale = new_scale
  digits : number (parts value) = cut x new_scale.toNat

theorem arrives_self {form : Form} (value : Value ops form) :
    Arrives value (parts value).scale (number (parts value)) :=
  ⟨rfl, (cut_number _).symm⟩

/-- What one call does to scale and number. -/
structure Does (checks : OverflowChecks) (op : Op a b) (value : Value ops a) : Prop where
  arrives : ∀ result, op.apply checks value = .ok result →
    Arrives result (op.scale (parts value).scale) (number (parts value))
  returns : (∃ result, op.apply checks value = .ok result) ↔ op.Fits (parts value).scale (number (parts value))

/-- A call that passes both parts on does. -/
theorem does_of_cast {op : Op a b} {value : Value ops a} {result : Value ops b} (run : op.apply checks value = .ok result)
    (same : parts result = parts value) (stays : op.scale (parts value).scale = (parts value).scale)
    (always : op.Fits (parts value).scale (number (parts value))) : Does checks op value where
  arrives other run' := by
    obtain rfl := Exec.ok.inj (run.symm.trans run')
    rw [stays, ← same]
    exact arrives_self result
  returns := iff_of_true ⟨result, run⟩ always

/-- The checked constructor gives the decimal of the parts, if 96 bits and 28
    places hold them. -/
theorem try_from_spec (keeps : KeepsParts ops) (self : SwitchboardDecimal) :
    (∀ decimal : ops.Decimal, ops.try_from_i128_with_scale self.mantissa self.scale.toNat = .ok decimal →
      (⟨ops.mantissa decimal, ops.scale decimal⟩ : SwitchboardDecimal) = self) ∧
    ((∃ decimal : ops.Decimal, ops.try_from_i128_with_scale self.mantissa self.scale.toNat = .ok decimal) ↔
      (mantissaAt (number self) self.scale).natAbs < 2 ^ 96 ∧ self.scale.toNat ≤ 28) := by
  rw [mantissaAt_scale]
  refine ⟨?_, ?_, ?_⟩
  · intro decimal done
    obtain ⟨_, _, mantissa, scale⟩ := keeps.parts _ _ _ done
    rw [mantissa, UInt32.toNat_inj.mp scale]
  · rintro ⟨decimal, done⟩
    obtain ⟨narrow, small, _⟩ := keeps.parts _ _ _ done
    exact ⟨narrow, small⟩
  · rintro ⟨narrow, small⟩
    exact keeps.fits _ _ narrow small

theorem mapError_eq_ok {ε δ α : Type} {outcome : Except ε α} {f : ε → δ} {value : α} :
    outcome.mapError f = .ok value ↔ outcome = .ok value := by
  cases outcome <;> simp [Except.mapError]

theorem does_of_try_from (keeps : KeepsParts ops) {op : Op a .package} {value : Value ops a}
    (run : ∀ decimal : ops.Decimal, op.apply checks value = .ok decimal ↔
      ops.try_from_i128_with_scale (parts value).mantissa (parts value).scale.toNat = .ok decimal)
    (stays : op.scale (parts value).scale = (parts value).scale)
    (fits : op.Fits (parts value).scale (number (parts value)) ↔
      (mantissaAt (number (parts value)) (parts value).scale).natAbs < 2 ^ 96 ∧ (parts value).scale.toNat ≤ 28) :
    Does checks op value := by
  obtain ⟨same, returns⟩ := try_from_spec keeps (parts value)
  constructor
  · intro result done
    have kept : parts result = parts value := same result ((run result).mp done)
    rw [stays, ← kept]
    exact arrives_self result
  · rw [fits, ← returns]
    exact exists_congr run

theorem does (keeps : KeepsParts ops) (op : Op a b) (value : Value ops a) (near : op.Near (parts value).scale) :
    Does checks op value := by
  cases op with
  | borsh_from_decimal => exact does_of_cast rfl rfl rfl trivial
  | borsh_from_switchboard => exact does_of_cast rfl rfl rfl trivial
  | switchboard_from_borsh => exact does_of_cast rfl rfl rfl trivial
  | from_rust_decimal => exact does_of_cast rfl rfl rfl trivial
  | borsh_try_into =>
    refine does_of_try_from keeps (fun decimal => ?_) rfl Iff.rfl
    exact Exec.ofResult_eq_ok.trans mapError_eq_ok
  | switchboard_try_into =>
    refine does_of_try_from keeps (fun decimal => ?_) rfl Iff.rfl
    exact Exec.ofResult_eq_ok.trans mapError_eq_ok
  | new_with_scale new_scale =>
    have exact : RescalesExactly checks _ new_scale := rescalesExactly_of_near near.1 near.2
    constructor
    · intro result done
      obtain ⟨scale, value⟩ := exact.denotes result done
      exact ⟨scale, value⟩
    · exact new_with_scale_returns_iff exact

/-! ### A whole way -/

theorem Path.lowest_le (path : Path a b) (scale : UInt32) : path.lowest scale ≤ scale.toNat := by
  cases path with
  | nil => exact le_rfl
  | cons op rest => exact min_le_left _ _

/-- Whatever way a decimal takes, it arrives exactly when all that comes by can be
    held, with the last scale and without the digits behind the lowest one. -/
theorem run_path (checks : OverflowChecks) (keeps : KeepsParts ops) (path : Path a b) (value : Value ops a)
    (near : path.Near (parts value).scale) :
    ((∃ result, path.run checks value = .ok result) ↔ path.Fits (parts value).scale (number (parts value))) ∧
    ∀ result, path.run checks value = .ok result →
      (parts result).scale = path.scale (parts value).scale ∧
        number (parts result) = cut (number (parts value)) (path.lowest (parts value).scale) := by
  induction path with
  | nil =>
    refine ⟨iff_of_true ⟨value, rfl⟩ trivial, ?_⟩
    intro result done
    obtain rfl := Exec.ok.inj done
    exact ⟨rfl, (cut_number _).symm⟩
  | cons op rest ih =>
    have first : Does checks op value := does keeps op value near.1
    have later : ∀ middle, op.apply checks value = .ok middle → rest.Near (parts middle).scale := by
      intro middle done
      rw [(first.arrives middle done).scale]
      exact near.2
    constructor
    · constructor
      · rintro ⟨result, done⟩
        obtain ⟨middle, applied, run⟩ := Exec.bind_eq_ok.mp done
        have arrives := first.arrives middle applied
        have fits := (ih middle (later middle applied)).1.mp ⟨result, run⟩
        rw [arrives.scale, arrives.digits] at fits
        exact ⟨first.returns.mp ⟨middle, applied⟩, fits⟩
      · rintro ⟨here, fits⟩
        obtain ⟨middle, applied⟩ := first.returns.mpr here
        have arrives := first.arrives middle applied
        have held : rest.Fits (parts middle).scale (number (parts middle)) := by
          rw [arrives.scale, arrives.digits]
          exact fits
        obtain ⟨result, run⟩ := (ih middle (later middle applied)).1.mpr held
        exact ⟨result, Exec.bind_eq_ok.mpr ⟨middle, applied, run⟩⟩
    · intro result done
      obtain ⟨middle, applied, run⟩ := Exec.bind_eq_ok.mp done
      have arrives := first.arrives middle applied
      obtain ⟨scale, digits⟩ := (ih middle (later middle applied)).2 result run
      rw [arrives.scale] at scale digits
      rw [arrives.digits] at digits
      refine ⟨scale, ?_⟩
      have below := rest.lowest_le (op.scale (parts value).scale)
      -- The digits behind the scale of the value itself are zeros.
      have own : cut (number (parts value)) (min (parts value).scale.toNat (rest.lowest (op.scale (parts value).scale))) =
          cut (number (parts value)) (rest.lowest (op.scale (parts value).scale)) := by
        rw [← cut_cut, cut_number]
      rw [digits, cut_cut, min_eq_right below, ← own]
      rfl

/-! ### The decimals of the package -/

def bits96 (decimal : Decimal96) : I128 where
  val := decimal.mantissa
  lower := by have narrow := decimal.narrow; omega
  upper := by have narrow := decimal.narrow; omega

/-- The nearest integer to `n / d`, the even one of two. -/
def nearest (n : ℤ) (d : ℕ) : ℤ :=
  if 2 * (n % d) < d ∨ 2 * (n % d) = d ∧ n / d % 2 = 0 then n / d else n / d + 1

theorem natAbs_nearest_le (n : ℤ) {d : ℕ} (positive : 0 < d) : (nearest n d).natAbs ≤ n.natAbs := by
  have parts : (d : ℤ) * (n / d) + n % d = n := Int.mul_ediv_add_emod n d
  have low : 0 ≤ n % d := Int.emod_nonneg n (by omega)
  have high : n % d < d := Int.emod_lt_of_pos n (by omega)
  unfold nearest
  rcases lt_or_ge (n / d) 0 with negative | nonneg
  · have below : (d : ℤ) * (n / d) + d ≤ n / d + 1 := by nlinarith
    split <;> omega
  · have above : n / d ≤ d * (n / d) := by nlinarith
    split <;> omega

def round96 (decimal : Decimal96) : Decimal96 where
  mantissa := nearest decimal.mantissa (10 ^ decimal.scale)
  scale := 0
  narrow := (natAbs_nearest_le decimal.mantissa (by positivity)).trans_lt decimal.narrow
  small := by decide

def parts96 : PartsOps where
  toDecimalOps := decimal96
  mantissa (decimal : Decimal96) := bits96 decimal
  scale (decimal : Decimal96) := UInt32.ofNat decimal.scale
  round (decimal : Decimal96) := round96 decimal

theorem keepsParts_parts96 : KeepsParts parts96 where
  fits num scale narrow small := ⟨_, mantissa96_fits narrow small⟩
  parts num scale decimal done := by
    have made : mantissa96.from_i128_with_scale num scale = .ok decimal := done
    by_cases small : scale ≤ 28
    · by_cases narrow : Narrow num
      · rw [mantissa96_fits narrow small] at made
        obtain rfl := Except.ok.inj made
        refine ⟨narrow, small, I128.val_injective rfl, ?_⟩
        show (UInt32.ofNat scale).toNat = scale
        rw [UInt32.toNat_ofNat']
        omega
      · cases made.symm.trans ((dif_pos small).trans (dif_neg narrow))
    · cases made.symm.trans (dif_neg small)

/-- Down to one place, and back into the package through Borsh. -/
def onePlace : Path .package .package :=
  .cons .from_rust_decimal (.cons (.new_with_scale 1) (.cons .borsh_from_switchboard (.cons .borsh_try_into .nil)))

def price96 : Value parts96 .package := (⟨12345, 2, by decide, by decide⟩ : Decimal96)

theorem run_path_onePlace :
    ∃ result, onePlace.run .on price96 = .ok result ∧ number (parts result) = 1234 / 10 := by
  have run : onePlace.run .on price96 = .ok (⟨1234, 1, by decide, by decide⟩ : Decimal96) := rfl
  have near : onePlace.Near (parts price96).scale := ⟨trivial, ⟨by decide, by decide⟩, trivial, trivial, trivial⟩
  have digits := ((run_path .on keepsParts_parts96 onePlace price96 near).2 _ run).2
  have price : number (parts price96) = 12345 / 10 ^ 2 := rfl
  have lowest : onePlace.lowest (parts price96).scale = 1 := rfl
  have integer : truncated (12345 / 10 ^ 2 * 10 ^ 1) = 1234 := by
    unfold truncated
    rw [if_pos (by norm_num), Int.floor_eq_iff]
    norm_num
  refine ⟨_, run, ?_⟩
  rw [digits, price, lowest, cut, integer]
  norm_num

/-! ### Truth values -/

/-- The nearest integer, the even one of two. -/
def toNearest (x : ℚ) : ℤ := if 2 * (x - ⌊x⌋) < 1 ∨ 2 * (x - ⌊x⌋) = 1 ∧ ⌊x⌋ % 2 = 0 then ⌊x⌋ else ⌊x⌋ + 1

theorem toNearest_eq_zero_iff (x : ℚ) : toNearest x = 0 ↔ |x| ≤ 1 / 2 := by
  have low : (⌊x⌋ : ℚ) ≤ x := Int.floor_le x
  have high : x < ⌊x⌋ + 1 := Int.lt_floor_add_one x
  rw [abs_le]
  unfold toNearest
  generalize ⌊x⌋ = floor at *
  have cases : floor ≤ -2 ∨ floor = -1 ∨ floor = 0 ∨ 1 ≤ floor := by omega
  rcases cases with far | rfl | rfl | far
  · have below : (floor : ℚ) ≤ -2 := by exact_mod_cast far
    refine iff_of_false ?_ ?_
    · split <;> omega
    · rintro ⟨above, _⟩
      linarith
  · simp only [Int.cast_neg, Int.cast_one] at low high ⊢
    constructor
    · intro zero
      split at zero
      · omega
      · rename_i up
        have half : 1 ≤ 2 * (x - -1) := not_lt.mp fun less => up (.inl less)
        constructor <;> linarith
    · rintro ⟨above, _⟩
      refine if_neg ?_
      rintro (less | ⟨_, even⟩)
      · linarith
      · omega
  · simp only [Int.cast_zero, sub_zero] at low high ⊢
    constructor
    · intro zero
      split at zero
      · rename_i down
        rcases down with less | ⟨half, _⟩
        · constructor <;> linarith
        · constructor <;> linarith
      · omega
    · rintro ⟨_, below⟩
      rcases lt_or_eq_of_le below with less | half
      · exact if_pos (.inl (by linarith))
      · exact if_pos (.inr ⟨by linarith, rfl⟩)
  · have above : (1 : ℚ) ≤ floor := by exact_mod_cast far
    refine iff_of_false ?_ ?_
    · split <;> omega
    · rintro ⟨_, below⟩
      linarith

/-- The package rounds to the nearest integer, and to the even one of two. -/
def RoundsToEven (ops : PartsOps) : Prop :=
  ∀ decimal : ops.Decimal, (ops.mantissa (ops.round decimal)).val =
    toNearest (number ⟨ops.mantissa decimal, ops.scale decimal⟩)

/-- `From<SwitchboardDecimal> for bool`. -/
def to_bool {ε : Type} (ops : PartsOps) (s : SwitchboardDecimal) : Exec ε Bool := do
  let dec ← converted ops.toDecimalOps s
  pure (ops.mantissa (ops.round dec) ≠ 0)

/-- A decimal is true when it is above one half or below minus one half, and has no
    truth value when it is too wide for the package. -/
theorem to_bool_iff {ε : Type} (keeps : KeepsParts ops) (rounds : RoundsToEven ops) (self : SwitchboardDecimal)
    (b : Bool) :
    (to_bool ops self : Exec ε Bool) = .ok b ↔ Convertible self ∧ b = decide (1 / 2 < |number self|) := by
  obtain ⟨same, returns⟩ := try_from_spec keeps self
  rw [mantissaAt_scale] at returns
  have small : self.scale ≤ 28 ↔ self.scale.toNat ≤ 28 := UInt32.le_iff_toNat_le
  cases made : ops.try_from_i128_with_scale self.mantissa self.scale.toNat with
  | error message =>
    have panics : (to_bool ops self : Exec ε Bool) =
        .panic "called `Result::unwrap()` on an `Err` value: DecimalConversionError" := by
      rw [to_bool, converted, SwitchboardDecimals.try_into, made]
      rfl
    rw [panics]
    refine iff_of_false (fun done => by cases done) ?_
    rintro ⟨convertible, _⟩
    obtain ⟨decimal, done⟩ := returns.mpr ⟨convertible.mantissa, small.mp convertible.scale⟩
    cases made.symm.trans done
  | ok decimal =>
    have convertible : Convertible self := by
      obtain ⟨narrow, few⟩ := returns.mp ⟨decimal, made⟩
      exact ⟨small.mpr few, narrow⟩
    have run : (to_bool ops self : Exec ε Bool) = .ok (ops.mantissa (ops.round decimal) ≠ 0) := by
      rw [to_bool, converted, SwitchboardDecimals.try_into, made]
      rfl
    have zero : ops.mantissa (ops.round decimal) = 0 ↔ |number self| ≤ 1 / 2 := by
      rw [← toNearest_eq_zero_iff, ← same decimal made, ← rounds decimal]
      exact ⟨fun here => by rw [here]; rfl, fun value => I128.val_injective value⟩
    rw [run, Exec.ok.injEq, and_iff_right convertible, eq_comm]
    simp [zero]

/-- The rounding of a quotient of integers is that of the number. -/
theorem nearest_eq (n : ℤ) {d : ℕ} (positive : 0 < d) : nearest n d = toNearest (n / d) := by
  have positive' : (0 : ℚ) < d := Nat.cast_pos.mpr positive
  have parts : (n : ℚ) = d * (n / d : ℤ) + (n % d : ℤ) := by
    exact_mod_cast (Int.mul_ediv_add_emod n d).symm
  have rest : (n : ℚ) / d - (n / d : ℤ) = (n % d : ℤ) / d := by
    rw [div_sub' positive'.ne', div_left_inj' positive'.ne']
    linarith
  have less : 2 * ((n % d : ℤ) / d : ℚ) < 1 ↔ 2 * (n % d) < d := by
    rw [← mul_div_assoc, div_lt_one positive']
    exact_mod_cast Iff.rfl
  have half : 2 * ((n % d : ℤ) / d : ℚ) = 1 ↔ 2 * (n % d) = d := by
    rw [← mul_div_assoc, div_eq_one_iff_eq positive'.ne']
    exact_mod_cast Iff.rfl
  rw [nearest, toNearest, Rat.floor_intCast_div_natCast, rest]
  simp only [less, half]

theorem roundsToEven_parts96 : RoundsToEven parts96 := by
  intro (decimal : Decimal96)
  have scale : (UInt32.ofNat decimal.scale).toNat = decimal.scale := by
    have small := decimal.small
    rw [UInt32.toNat_ofNat']
    omega
  have rounded : nearest decimal.mantissa (10 ^ decimal.scale) = toNearest (decimal.mantissa / (10 ^ decimal.scale : ℕ)) :=
    nearest_eq _ (by positivity)
  show nearest decimal.mantissa (10 ^ decimal.scale) =
    toNearest (decimal.mantissa / 10 ^ (UInt32.ofNat decimal.scale).toNat)
  rw [rounded, scale, Nat.cast_pow, Nat.cast_ofNat]

/-- One half is false. -/
theorem to_bool_iff_half : (to_bool parts96 ⟨⟨5, by decide, by decide⟩, 1⟩ : Exec OnDemandError Bool) = .ok false := by
  refine (to_bool_iff keepsParts_parts96 roundsToEven_parts96 _ false).mpr ⟨⟨by decide, by decide⟩, ?_⟩
  have half : number ⟨⟨5, by decide, by decide⟩, 1⟩ = 5 / 10 ^ 1 := rfl
  rw [half, abs_of_pos (by norm_num)]
  norm_num

end SwitchboardOnDemand.DecimalPaths
