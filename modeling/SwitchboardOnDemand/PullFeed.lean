import SwitchboardOnDemand.Decimals
import SwitchboardOnDemand.Error
import SwitchboardOnDemand.OrderStatistics
import SwitchboardOnDemand.Utils

/-!
# Pull feeds

A pull feed holds up to 32 oracle submissions and the result of the last update.
`get_value` takes the fresh submissions and reports the middle of their values.
More than half of the fresh submissions decide it, whatever the others are
(`majority_decides`). The other accessors read the stored result and list the
submissions within a staleness window.
-/

namespace SwitchboardOnDemand.PullFeed
open Rust OrderStatistics SwitchboardOnDemand.Decimals SwitchboardOnDemand.Error SwitchboardOnDemand.Utils

variable {ε : Type}

def PRECISION : Nat := 18

structure OracleSubmission where
  slot : UInt64
  landed_at : UInt64
  value : I128
  deriving Repr, DecidableEq

def OracleSubmission.is_empty (self : OracleSubmission) : Bool := self.slot == 0

/-- The stored result: its value, its statistics and the slot at which it was
    signed. -/
structure CurrentResult where
  value : I128
  std_dev : I128
  mean : I128
  range : I128
  min_value : I128
  max_value : I128
  slot : UInt64
  deriving Repr, DecidableEq

structure PullFeedAccountData where
  submissions : Vector OracleSubmission 32
  queue : Pubkey
  feed_hash : FixedBytes 32
  max_variance : UInt64
  min_responses : UInt32
  result : CurrentResult
  max_staleness : UInt32
  submission_timestamps : Vector Int64 32
  deriving Repr, DecidableEq

/-- `OracleSubmission::value()`, the decimal of the field `value`. -/
def OracleSubmission.value_decimal (api : DecimalApi) (self : OracleSubmission) : Exec ε api.Decimal :=
  api.decimal self.value PRECISION

/-- `.filter(|s| s.slot >= clock_slot - max_staleness).collect()`; the difference
    is taken for each submission. -/
def filter_fresh (checks : OverflowChecks) (clock_slot max_staleness : UInt64) :
    List OracleSubmission → Exec ε (List OracleSubmission)
  | [] => .ok []
  | s :: rest => do
    let oldest ← u64_sub checks clock_slot max_staleness
    let fresh ← filter_fresh checks clock_slot max_staleness rest
    pure (if s.slot ≥ oldest then s :: fresh else fresh)

/-- The value in the middle of the sorted numbers. -/
def lower_bound_median (numbers : List I128) : Option I128 :=
  let numbers := numbers.insertionSort (· ≤ ·)
  let len := numbers.length
  if len = 0 then none else numbers[len / 2]?

/-- The median of the values of the fresh submissions. -/
def get_value (api : DecimalApi) (checks : OverflowChecks) (self : PullFeedAccountData)
    (clock_slot max_staleness : UInt64) (min_samples : UInt32) (only_positive : Bool) :
    Exec OnDemandError api.Decimal := do
  let submissions ← filter_fresh checks clock_slot max_staleness
    (self.submissions.toList.takeWhile fun s => !s.is_empty)
  Exec.bailIf (submissions.length < min_samples.toNat) .NotEnoughSamples
  let median ← Exec.okOr .NotEnoughSamples (lower_bound_median (submissions.map OracleSubmission.value))
  Exec.bailIf (only_positive ∧ median ≤ 0) .IllegalFeedValue
  api.decimal median PRECISION

/-- List of samples that are valid for the current slot. -/
def valid_samples (checks : OverflowChecks) (self : PullFeedAccountData) (clock_slot : UInt64) :
    Exec ε (List OracleSubmission) :=
  filter_fresh checks clock_slot self.max_staleness.toUInt64 (self.submissions.toList.takeWhile fun s => !s.is_empty)

/-- The greatest slot at which a submission landed. -/
def last_update_slot (self : PullFeedAccountData) : UInt64 :=
  ((self.submissions.toList.map OracleSubmission.landed_at).max?).getD 0

/-- `self.submissions.iter().enumerate()`. -/
def enumerated (self : PullFeedAccountData) : List (Fin 32 × OracleSubmission) :=
  List.ofFn fun i => (i, self.submissions[i])

/-- All the samples used in the current result. -/
def current_result_samples (checks : OverflowChecks) (self : PullFeedAccountData) :
    Exec ε (List (Fin 32 × OracleSubmission)) := do
  let slot_threshold ← u64_sub checks (last_update_slot self) self.max_staleness.toUInt64
  pure (((enumerated self).takeWhile fun sample => !sample.2.is_empty).filter fun sample =>
    sample.2.slot ≥ slot_threshold)

/-- The least and the greatest timestamp of samples, 0 without samples. -/
def ts_range (self : PullFeedAccountData) (samples : List (Fin 32 × OracleSubmission)) : Int64 × Int64 :=
  let timestamps := samples.map fun sample => self.submission_timestamps[sample.1]
  (timestamps.min?.getD 0, timestamps.max?.getD 0)

def current_result_ts_range (checks : OverflowChecks) (self : PullFeedAccountData) : Exec ε (Int64 × Int64) := do
  let samples ← current_result_samples checks self
  pure (ts_range self samples)

def CurrentResult.result_slot (self : CurrentResult) : Option UInt64 :=
  if self.slot = 0 then none else some self.slot

/-- `CurrentResult::value()`, the decimal of the field `value`. -/
def CurrentResult.value_decimal (api : DecimalApi) (self : CurrentResult) : Exec ε (Option api.Decimal) :=
  if self.slot = 0 then pure none else some <$> api.decimal self.value PRECISION

/-- What the accessors of the stored result share: the decimal of one of its
    fields, unless it is empty. -/
def CurrentResult.field_decimal (api : DecimalApi) (self : CurrentResult) (field : I128) :
    Exec ε (Option api.Decimal) :=
  if self.slot = 0 then pure none else some <$> api.decimal field PRECISION

def CurrentResult.std_dev_decimal (api : DecimalApi) (self : CurrentResult) : Exec ε (Option api.Decimal) :=
  self.field_decimal api self.std_dev

def CurrentResult.mean_decimal (api : DecimalApi) (self : CurrentResult) : Exec ε (Option api.Decimal) :=
  self.field_decimal api self.mean

def CurrentResult.range_decimal (api : DecimalApi) (self : CurrentResult) : Exec ε (Option api.Decimal) :=
  self.field_decimal api self.range

def CurrentResult.min_value_decimal (api : DecimalApi) (self : CurrentResult) : Exec ε (Option api.Decimal) :=
  self.field_decimal api self.min_value

def CurrentResult.max_value_decimal (api : DecimalApi) (self : CurrentResult) : Exec ε (Option api.Decimal) :=
  self.field_decimal api self.max_value

/-- The value of the stored result, unless it is stale. -/
def value (api : DecimalApi) (checks : OverflowChecks) (self : PullFeedAccountData) (clock_slot : UInt64) :
    Exec OnDemandError api.Decimal := do
  let oldest ← u64_sub checks clock_slot self.max_staleness.toUInt64
  Exec.bailIf (self.result.result_slot.getD 0 < oldest) .StaleResult
  let result ← self.result.value_decimal api
  Exec.okOr .StaleResult result

def is_result_vaild (checks : OverflowChecks) (self : PullFeedAccountData) (clock_slot : UInt64) : Exec ε Bool := do
  let oldest ← u64_sub checks clock_slot self.max_staleness.toUInt64
  pure (self.result.slot ≥ oldest)

/-! ### The fresh submissions -/

/-- The submissions in front of the first empty one whose slot is at most
    `max_staleness` behind the clock. -/
def fresh (self : PullFeedAccountData) (clock_slot max_staleness : UInt64) : List OracleSubmission :=
  (self.submissions.toList.takeWhile fun s => !s.is_empty).filter fun s =>
    clock_slot.toNat - max_staleness.toNat ≤ s.slot.toNat

def freshValues (self : PullFeedAccountData) (clock_slot max_staleness : UInt64) : Multiset I128 :=
  (fresh self clock_slot max_staleness).map OracleSubmission.value

theorem filter_fresh_eq (checks : OverflowChecks) {clock_slot max_staleness : UInt64}
    (young : max_staleness ≤ clock_slot) (submissions : List OracleSubmission) :
    (filter_fresh checks clock_slot max_staleness submissions : Exec ε _) =
      .ok (submissions.filter fun s => clock_slot.toNat - max_staleness.toNat ≤ s.slot.toNat) := by
  induction submissions with
  | nil => rfl
  | cons s rest ih =>
    have recent : s.slot ≥ clock_slot - max_staleness ↔ clock_slot.toNat - max_staleness.toNat ≤ s.slot.toNat := by
      rw [ge_iff_le, UInt64.le_iff_toNat_le, UInt64.toNat_sub_of_le _ _ young]
    simp only [filter_fresh, u64_sub_of_le checks young, Exec.ok_bind, ih, Exec.pure_eq, recent, List.filter_cons,
      decide_eq_true_eq]

theorem lower_bound_median_eq (numbers : List I128) :
    lower_bound_median numbers = kth ↑numbers (numbers.length / 2) := by
  rw [lower_bound_median, kth_coe, List.length_insertionSort]
  split
  · rename_i empty
    rw [List.eq_nil_of_length_eq_zero empty]
    rfl
  · rfl

/-- What `get_value` reports: the middle one of at least `min_samples` fresh
    values, positive if it must be. -/
theorem get_value_ok_iff (api : DecimalApi) (checks : OverflowChecks) (self : PullFeedAccountData)
    {clock_slot max_staleness : UInt64} (young : max_staleness ≤ clock_slot) (min_samples : UInt32)
    (only_positive : Bool) (decimal : api.Decimal) :
    get_value api checks self clock_slot max_staleness min_samples only_positive = .ok decimal ↔
      min_samples.toNat ≤ (freshValues self clock_slot max_staleness).card ∧
      ∃ median, kth (freshValues self clock_slot max_staleness) ((freshValues self clock_slot max_staleness).card / 2) =
          some median ∧
        ¬ (only_positive ∧ median ≤ 0) ∧ api.from_i128_with_scale median PRECISION = .ok decimal := by
  simp only [get_value, filter_fresh_eq checks young, ← fresh.eq_def, Exec.ok_bind, Exec.bind_eq_ok, Exec.bailIf_eq_ok,
    exists_const, Exec.okOr_eq_ok, lower_bound_median_eq, List.length_map, DecimalApi.decimal_ok_iff, freshValues,
    Multiset.coe_card, Nat.not_lt]

theorem ordConnected_between (a b : Int) : {v : I128 | a ≤ v.val ∧ v.val ≤ b}.OrdConnected :=
  ⟨fun _ low _ high _ between => ⟨low.1.trans between.1, le_trans between.2 high.2⟩⟩

/-- No minority moves the price: `get_value` reports the middle one of the fresh
    values, which lies within any bounds that more than half of them keep. -/
theorem majority_decides (api : DecimalApi) (checks : OverflowChecks) (self : PullFeedAccountData)
    (clock_slot max_staleness : UInt64) (min_samples : UInt32) (only_positive : Bool) (decimal : api.Decimal)
    (young : max_staleness ≤ clock_slot)
    (done : get_value api checks self clock_slot max_staleness min_samples only_positive = .ok decimal) :
    let values := freshValues self clock_slot max_staleness
    ∃ v, kth values (values.card / 2) = some v ∧ api.number decimal = v.val / 10 ^ 18 ∧
      ∀ a b : Int, values.card < 2 * values.countP (fun value => a ≤ value.val ∧ value.val ≤ b) →
        a ≤ v.val ∧ v.val ≤ b := by
  obtain ⟨_, v, middle, _, converted⟩ :=
    (get_value_ok_iff api checks self young min_samples only_positive decimal).mp done
  refine ⟨v, middle, api.exact v PRECISION decimal converted, ?_⟩
  intro a b majority
  exact middle_mem middle (ordConnected_between a b) majority

/-- A feed with the given submissions and zeros elsewhere. -/
def PullFeedAccountData.ofSubmissions (submissions : List OracleSubmission) : PullFeedAccountData where
  submissions := Vector.ofFn fun i => submissions[i.val]?.getD ⟨0, 0, 0⟩
  queue := repeated 0 32
  feed_hash := repeated 0 32
  max_variance := 0
  min_responses := 0
  result := ⟨0, 0, 0, 0, 0, 0, 0⟩
  max_staleness := 0
  submission_timestamps := Vector.replicate 32 0

/-- Two oracles that say 7 and one that says 100. -/
def outvotedFeed : PullFeedAccountData := .ofSubmissions
  [⟨100, 100, ⟨100000000000000000000, by decide, by decide⟩⟩, ⟨101, 101, ⟨7000000000000000000, by decide, by decide⟩⟩,
    ⟨102, 102, ⟨7000000000000000000, by decide, by decide⟩⟩]

theorem majority_decides_outvotedFeed :
    ∃ decimal, get_value mantissa96 .on outvotedFeed 110 20 2 true = .ok decimal ∧ mantissa96.number decimal = 7 := by
  have done : get_value mantissa96 .on outvotedFeed 110 20 2 true =
      .ok ⟨7000000000000000000, 18, by decide, by decide⟩ := by rfl
  have fresh : freshValues outvotedFeed 110 20 = {⟨100000000000000000000, by decide, by decide⟩,
      ⟨7000000000000000000, by decide, by decide⟩, ⟨7000000000000000000, by decide, by decide⟩} := by rfl
  obtain ⟨v, _, number, within⟩ := majority_decides mantissa96 .on outvotedFeed 110 20 2 true _ (by decide) done
  have seven := within 7000000000000000000 7000000000000000000 (by rw [fresh]; decide)
  have value : v.val = 7000000000000000000 := le_antisymm seven.2 seven.1
  refine ⟨_, done, number.trans ?_⟩
  rw [value]
  norm_num

end SwitchboardOnDemand.PullFeed
