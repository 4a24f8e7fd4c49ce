import SwitchboardOnDemand.FeedInfo
import SwitchboardOnDemand.LowerMedian
import SwitchboardOnDemand.Staleness

/-!
# Values as decimals

A raw value is an `i128`, and a decimal has 96 bits. Every reader of a value
hands it to the constructor that panics on a wider one, so it comes back exactly
for the raw values that fit, and where it gives up before (`valuesRead_iff`).
-/

namespace SwitchboardOnDemand.FeedValues
open Rust OrderStatistics SwitchboardOnDemand.Decimals SwitchboardOnDemand.Error SwitchboardOnDemand.FeedInfo
open SwitchboardOnDemand.PullFeed SwitchboardOnDemand.LowerMedian SwitchboardOnDemand.Staleness

variable {ε : Type}

/-- `PackedFeedInfo::value()`, the normalized decimal of `feed_value()`. -/
def PackedFeedInfo.value (ops : DecimalOps) (self : PackedFeedInfo) : Exec ε ops.Decimal :=
  ops.normalize <$> ops.decimal self.feed_value PRECISION

/-! ### What readers should do -/

/-- The decimal of the raw value, or an error that is handed back. -/
def ReadsOrFails (api : DecimalApi) (raw : Option I128) : Exec ε api.Decimal → Prop
  | .ok decimal => ∃ v, raw = some v ∧ api.number decimal = v.val / 10 ^ 18
  | .err _ => True
  | .panic _ => False
  | .fault => False

/-- The decimal of the raw value, or `None`. -/
def ReadsOrNone (api : DecimalApi) (raw : I128) : Exec ε (Option api.Decimal) → Prop
  | .ok (some decimal) => api.number decimal = raw.val / 10 ^ 18
  | .ok none => True
  | .err _ => True
  | .panic _ => False
  | .fault => False

/-- The decimal accessors of the stored result. -/
inductive Accessor where
  | value
  | std_dev
  | mean
  | range
  | min_value
  | max_value
  deriving Repr, DecidableEq

def Accessor.raw (result : CurrentResult) : Accessor → I128
  | .value => result.value
  | .std_dev => result.std_dev
  | .mean => result.mean
  | .range => result.range
  | .min_value => result.min_value
  | .max_value => result.max_value

def Accessor.read (api : DecimalApi) (result : CurrentResult) : Accessor → Exec ε (Option api.Decimal)
  | .value => result.value_decimal api
  | .std_dev => result.std_dev_decimal api
  | .mean => result.mean_decimal api
  | .range => result.range_decimal api
  | .min_value => result.min_value_decimal api
  | .max_value => result.max_value_decimal api

/-- The middle one of the values that `get_value` takes. -/
def median (self : PullFeedAccountData) (clock_slot max_staleness : UInt64) : Option I128 :=
  kth ↑(takenValues self clock_slot max_staleness) ((takenValues self clock_slot max_staleness).length / 2)

/-- No slot is subtracted past zero with overflow checked, and the median fits
    unless an error is reported: there are too few values, or it must be positive
    and is not. -/
structure MedianReads (checks : OverflowChecks) (feed : PullFeedAccountData) (clock_slot max_staleness : UInt64)
    (min_samples : UInt32) (only_positive : Bool) : Prop where
  window : checks = .off ∨ max_staleness ≤ clock_slot ∨ listed feed = []
  fits : ∀ v, median feed clock_slot max_staleness = some v →
    (takenValues feed clock_slot max_staleness).length < min_samples.toNat ∨ (only_positive ∧ v ≤ 0) ∨ Narrow v

/-! ### One value -/

/-- The constructor comes back exactly for a narrow mantissa. -/
theorem decimal_cases {ops : DecimalOps} (wide : PanicsWhenWide ops) (num : I128) :
    (Narrow num ∧ ∃ decimal, (ops.decimal num PRECISION : Exec ε _) = .ok decimal ∧
      ops.number decimal = num.val / 10 ^ 18) ∨
    (¬ Narrow num ∧ ∃ message, (ops.decimal num PRECISION : Exec ε _) = .panic message) := by
  by_cases narrow : Narrow num
  · obtain ⟨decimal, done⟩ := wide.fits num PRECISION narrow (by decide)
    exact .inl ⟨narrow, decimal, (ops.decimal_ok_iff num PRECISION decimal).mpr done, ops.exact _ _ _ done⟩
  · obtain ⟨message, failed⟩ := wide.wide num PRECISION narrow
    refine .inr ⟨narrow, message, ?_⟩
    rw [DecimalApi.decimal, failed]

theorem decimal_reads_iff {ops : DecimalOps} (wide : PanicsWhenWide ops) (num : I128) :
    ReadsOrFails ops.toDecimalApi (some num) (ops.decimal num PRECISION : Exec ε _) ↔ Narrow num := by
  rcases decimal_cases wide num with ⟨narrow, decimal, done, number⟩ | ⟨notNarrow, message, failed⟩
  · rw [done]
    exact iff_of_true ⟨num, rfl, number⟩ narrow
  · rw [failed]
    exact iff_of_false id notNarrow

theorem packed_value_reads_iff {ops : DecimalOps} (wide : PanicsWhenWide ops) (self : PackedFeedInfo) :
    ReadsOrFails ops.toDecimalApi (some self.feed_value) (PackedFeedInfo.value ops self : Exec ε _) ↔
      Narrow self.feed_value := by
  rw [PackedFeedInfo.value]
  rcases decimal_cases wide self.feed_value with ⟨narrow, decimal, done, number⟩ | ⟨notNarrow, message, failed⟩
  · rw [done, Exec.map_ok]
    exact iff_of_true ⟨_, rfl, (wide.number_normalize decimal).trans number⟩ narrow
  · rw [failed]
    exact iff_of_false id notNarrow

theorem field_decimal_reads_iff {ops : DecimalOps} (wide : PanicsWhenWide ops) (self : CurrentResult) (field : I128) :
    ReadsOrNone ops.toDecimalApi field (self.field_decimal ops.toDecimalApi field : Exec ε _) ↔
      self.slot = 0 ∨ Narrow field := by
  rw [CurrentResult.field_decimal]
  by_cases empty : self.slot = 0
  · rw [if_pos empty]
    exact iff_of_true trivial (.inl empty)
  · rw [if_neg empty, or_iff_right empty]
    rcases decimal_cases wide field with ⟨narrow, decimal, done, number⟩ | ⟨notNarrow, message, failed⟩
    · rw [done, Exec.map_ok]
      exact iff_of_true number narrow
    · rw [failed]
      exact iff_of_false id notNarrow

/-- Every accessor is the shared one at its own field. -/
theorem read_eq (api : DecimalApi) (result : CurrentResult) (accessor : Accessor) :
    (accessor.read api result : Exec ε _) = result.field_decimal api (accessor.raw result) := by
  cases accessor <;> rfl

/-! ### The median -/

theorem filter_fresh_of_sub {checks : OverflowChecks} {clock_slot max_staleness oldest : UInt64}
    (sub : (u64_sub checks clock_slot max_staleness : Exec ε _) = .ok oldest) (submissions : List OracleSubmission) :
    (filter_fresh checks clock_slot max_staleness submissions : Exec ε _) =
      .ok (submissions.filter fun s => s.slot ≥ oldest) := by
  induction submissions with
  | nil => rfl
  | cons s rest ih =>
    rw [filter_fresh, sub, Exec.ok_bind, ih, Exec.ok_bind, Exec.pure_eq, List.filter_cons]
    simp only [decide_eq_true_eq]

/-- The submissions that `get_value` takes, or the panic of a subtraction. -/
theorem filter_fresh_cases (checks : OverflowChecks) (self : PullFeedAccountData) (clock_slot max_staleness : UInt64) :
    ((checks = .off ∨ max_staleness ≤ clock_slot ∨ listed self = []) ∧
      ∃ taken, (filter_fresh checks clock_slot max_staleness (listed self) : Exec ε _) = .ok taken ∧
        taken.map OracleSubmission.value = takenValues self clock_slot max_staleness) ∨
    (¬ (checks = .off ∨ max_staleness ≤ clock_slot ∨ listed self = []) ∧
      ∃ message, (filter_fresh checks clock_slot max_staleness (listed self) : Exec ε _) = .panic message) := by
  have difference : (u64_sub checks clock_slot max_staleness : Exec ε _) = .ok (clock_slot - max_staleness) →
      ∃ taken, (filter_fresh checks clock_slot max_staleness (listed self) : Exec ε _) = .ok taken ∧
        taken.map OracleSubmission.value = takenValues self clock_slot max_staleness :=
    fun sub => ⟨_, filter_fresh_of_sub sub _, rfl⟩
  by_cases window : checks = .off ∨ max_staleness ≤ clock_slot ∨ listed self = []
  · refine .inl ⟨window, ?_⟩
    rcases window with rfl | young | empty
    · exact difference rfl
    · exact difference (u64_sub_of_le checks young)
    · refine ⟨[], by rw [empty]; rfl, ?_⟩
      rw [takenValues, ← listed.eq_def, empty]
      rfl
  · refine .inr ⟨window, ?_⟩
    simp only [not_or, UInt64.not_le] at window
    obtain ⟨checked, old, some⟩ := window
    cases checks with
    | on => exact ⟨_, filter_fresh_underflow old some⟩
    | off => exact absurd rfl checked

/-- The report of the taken submissions is the median's decimal or an error
    exactly when the median fits or an error comes before. -/
theorem report_reads_iff {ops : DecimalOps} (wide : PanicsWhenWide ops) (min_samples : UInt32) (only_positive : Bool)
    (taken : List OracleSubmission) :
    let values := taken.map OracleSubmission.value
    ReadsOrFails ops.toDecimalApi (kth ↑values (values.length / 2))
        (report ops.toDecimalApi min_samples only_positive taken) ↔
      ∀ v, kth ↑values (values.length / 2) = some v →
        values.length < min_samples.toNat ∨ (only_positive ∧ v ≤ 0) ∨ Narrow v := by
  intro values
  have length : values.length = taken.length := List.length_map _
  rw [report, lower_bound_median_eq]
  by_cases few : taken.length < min_samples.toNat
  · rw [Exec.bailIf_true _ few, Exec.err_bind]
    exact iff_of_true trivial fun _ _ => .inl (length.trans_lt few)
  · rw [Exec.bailIf_false _ few, Exec.ok_bind]
    cases middle : kth (values : Multiset I128) (values.length / 2) with
    | none =>
      refine iff_of_true trivial ?_
      intro v some
      cases some
    | some v =>
      have only : (∀ w, some v = some w → values.length < min_samples.toNat ∨ (only_positive ∧ w ≤ 0) ∨ Narrow w) ↔
          (only_positive ∧ v ≤ 0) ∨ Narrow v := by
        simp [length, few]
      rw [only, Exec.okOr, Exec.ok_bind]
      by_cases negative : only_positive ∧ v ≤ 0
      · rw [Exec.bailIf_true _ negative, Exec.err_bind]
        exact iff_of_true trivial (.inl negative)
      · rw [Exec.bailIf_false _ negative, Exec.ok_bind, or_iff_right negative]
        exact decimal_reads_iff wide v

theorem get_value_reads_iff {ops : DecimalOps} (wide : PanicsWhenWide ops) (checks : OverflowChecks)
    (self : PullFeedAccountData) (clock_slot max_staleness : UInt64) (min_samples : UInt32) (only_positive : Bool) :
    ReadsOrFails ops.toDecimalApi (median self clock_slot max_staleness)
        (get_value ops.toDecimalApi checks self clock_slot max_staleness min_samples only_positive) ↔
      MedianReads checks self clock_slot max_staleness min_samples only_positive := by
  rw [get_value_eq_report]
  rcases filter_fresh_cases checks self clock_slot max_staleness with
    ⟨window, taken, run, values⟩ | ⟨noWindow, message, panics⟩
  · have reads := report_reads_iff wide min_samples only_positive taken
    simp only [values] at reads
    rw [run, Exec.ok_bind, median, reads]
    exact ⟨fun fits => ⟨window, fits⟩, MedianReads.fits⟩
  · rw [panics, Exec.panic_bind]
    exact iff_of_false id fun medianReads => noWindow medianReads.window

/-! ### All readers -/

/-- The readers of a value come back with its decimal or report a failure exactly
    when the value fits in 96 bits; the stored result also when it is empty, and
    `get_value` also when it gives up before. -/
theorem valuesRead_iff (ops : DecimalOps) (wide : PanicsWhenWide ops) :
    (∀ feed : PackedFeedInfo,
      ReadsOrFails ops.toDecimalApi (some feed.feed_value) (PackedFeedInfo.value ops feed : Exec OnDemandError _) ↔
        Narrow feed.feed_value) ∧
    (∀ submission : OracleSubmission,
      ReadsOrFails ops.toDecimalApi (some submission.value)
          (submission.value_decimal ops.toDecimalApi : Exec OnDemandError _) ↔
        Narrow submission.value) ∧
    (∀ (result : CurrentResult) (accessor : Accessor),
      ReadsOrNone ops.toDecimalApi (accessor.raw result)
          (accessor.read ops.toDecimalApi result : Exec OnDemandError _) ↔
        result.slot = 0 ∨ Narrow (accessor.raw result)) ∧
    (∀ (checks : OverflowChecks) (feed : PullFeedAccountData) (clock_slot max_staleness : UInt64)
        (min_samples : UInt32) (only_positive : Bool),
      ReadsOrFails ops.toDecimalApi (median feed clock_slot max_staleness)
          (get_value ops.toDecimalApi checks feed clock_slot max_staleness min_samples only_positive) ↔
        MedianReads checks feed clock_slot max_staleness min_samples only_positive) := by
  refine ⟨packed_value_reads_iff wide, fun submission => decimal_reads_iff wide submission.value, ?_,
    get_value_reads_iff wide⟩
  intro result accessor
  rw [read_eq]
  exact field_decimal_reads_iff wide result _

/-- A feed record with the given value. -/
def feedOf (value : I128) : PackedFeedInfo := ⟨repeated 66 32, value, 5⟩

/-- 115525.65 with 18 decimals. -/
def price : I128 := ⟨115525650000000000000000, by decide, by decide⟩

theorem valuesRead_iff_price :
    ReadsOrFails mantissa96 (some price) (PackedFeedInfo.value decimal96 (feedOf price) : Exec OnDemandError _) :=
  ((valuesRead_iff decimal96 panicsWhenWide_decimal96).1 (feedOf price)).mpr (by decide)

/-- The least raw value that no decimal holds. -/
def tooWide : I128 := ⟨79228162514264337593543950336, by decide, by decide⟩

/-- A feed to which one oracle submitted it. -/
def wideFeed : PullFeedAccountData := .ofSubmissions [⟨100, 100, tooWide⟩]

/-- Every reader panics on it. -/
theorem tooWide_panics :
    let message := "Number exceeds maximum value that can be represented."
    (PackedFeedInfo.value decimal96 (feedOf tooWide) : Exec OnDemandError _) = .panic message ∧
      (OracleSubmission.value_decimal mantissa96 ⟨100, 100, tooWide⟩ : Exec OnDemandError _) = .panic message ∧
      (∀ accessor : Accessor, (accessor.read mantissa96 ⟨tooWide, tooWide, tooWide, tooWide, tooWide, tooWide, 100⟩ :
        Exec OnDemandError _) = .panic message) ∧
      get_value mantissa96 .on wideFeed 110 20 1 true = .panic message ∧
      ¬ ReadsOrFails mantissa96 (some tooWide) (PackedFeedInfo.value decimal96 (feedOf tooWide) : Exec OnDemandError _) := by
  refine ⟨rfl, rfl, ?_, by rfl, id⟩
  intro accessor
  cases accessor <;> rfl

end SwitchboardOnDemand.FeedValues
