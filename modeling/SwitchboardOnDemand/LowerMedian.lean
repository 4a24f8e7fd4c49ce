import SwitchboardOnDemand.PullFeed

/-!
# The median is not rounded down

`lower_bound_median` takes the value at position `n / 2` of the ascending order.
The lower median stands at position `(n - 1) / 2`, which is the same place for an
odd number of values and the one before it for an even number. So the lower
median is what is returned, and what `get_value` reports at most, exactly when
the number of values is odd or the two middle ones are equal (`lower_median_iff`).
-/

namespace SwitchboardOnDemand.LowerMedian
open Rust OrderStatistics SwitchboardOnDemand.Decimals SwitchboardOnDemand.Error SwitchboardOnDemand.PullFeed

/-- The lower median is returned. -/
def ReturnsLower (numbers : List I128) : Prop :=
  ∃ m, lower_bound_median numbers = some m ∧ IsLowerMedian ↑numbers m

/-- The number of values is odd, or the two middle ones are equal. -/
def MiddlesAgree (values : Multiset I128) : Prop :=
  values.card % 2 = 1 ∨ kth values (values.card / 2 - 1) = kth values (values.card / 2)

/-- The values of the submissions that `get_value` takes: those in front of the
    first empty one whose slot is at least the difference on `u64`. -/
def takenValues (self : PullFeedAccountData) (clock_slot max_staleness : UInt64) : List I128 :=
  ((self.submissions.toList.takeWhile fun s => !s.is_empty).filter fun s =>
    s.slot ≥ clock_slot - max_staleness).map OracleSubmission.value

/-- The decimal is at most the lower median of the values. -/
def AtMostLower (api : DecimalApi) (decimal : api.Decimal) (values : Multiset I128) : Prop :=
  ∃ m, IsLowerMedian values m ∧ api.number decimal ≤ m.val / 10 ^ 18

/-! ### The two middle values -/

/-- The value at `n / 2` is the lower median exactly when the middles agree. -/
theorem isLowerMedian_middle_iff {values : Multiset I128} {v : I128} (middle : kth values (values.card / 2) = some v) :
    IsLowerMedian values v ↔ MiddlesAgree values := by
  have some : 0 < values.card := Multiset.card_pos_iff_exists_mem.mpr ⟨v, kth_mem middle⟩
  have place : values.card % 2 = 1 ∧ (values.card - 1) / 2 = values.card / 2 ∨
      values.card % 2 = 0 ∧ (values.card - 1) / 2 = values.card / 2 - 1 := by omega
  rw [isLowerMedian_iff]
  rcases place with ⟨odd, same⟩ | ⟨even, before⟩
  · rw [same]
    exact ⟨fun _ => .inl odd, fun _ => middle⟩
  · rw [before]
    constructor
    · intro isLower
      exact .inr (isLower.trans middle.symm)
    · rintro (odd | equal)
      · omega
      · exact equal.trans middle

/-- It is not below the lower median, so it is at most that only when equal. -/
theorem le_lowerMedian_iff {values : Multiset I128} {v : I128} (middle : kth values (values.card / 2) = some v) :
    (∃ m, IsLowerMedian values m ∧ v ≤ m) ↔ IsLowerMedian values v := by
  constructor
  · rintro ⟨m, isMedian, high⟩
    have low : m ≤ v := kth_mono (by omega) isMedian.position middle
    rwa [le_antisymm high low]
  · intro isMedian
    exact ⟨v, isMedian, le_refl v⟩

theorem returnsLower_iff {numbers : List I128} (some : numbers ≠ []) :
    ReturnsLower numbers ↔ MiddlesAgree ↑numbers := by
  have positive := List.length_pos_iff.mpr some
  have inside : numbers.length / 2 < (numbers : Multiset I128).card := by
    rw [Multiset.coe_card]
    omega
  obtain ⟨v, middle⟩ := kth_of_lt inside
  rw [← isLowerMedian_middle_iff (by rwa [Multiset.coe_card]), ReturnsLower, lower_bound_median_eq, middle]
  constructor
  · rintro ⟨m, returned, isMedian⟩
    cases returned
    exact isMedian
  · intro isMedian
    exact ⟨v, rfl, isMedian⟩

/-! ### The report -/

theorem filter_fresh_ok {ε : Type} {checks : OverflowChecks} {clock_slot max_staleness : UInt64}
    {submissions taken : List OracleSubmission}
    (done : (filter_fresh checks clock_slot max_staleness submissions : Exec ε _) = .ok taken) :
    taken = submissions.filter fun s => s.slot ≥ clock_slot - max_staleness := by
  have difference : ∀ oldest, (u64_sub checks clock_slot max_staleness : Exec ε _) = .ok oldest →
      oldest = clock_slot - max_staleness := by
    intro oldest sub
    cases checks with
    | on =>
      rw [u64_sub] at sub
      split at sub
      · cases sub
        rfl
      · cases sub
    | off =>
      cases sub
      rfl
  induction submissions generalizing taken with
  | nil =>
    cases done
    rfl
  | cons s rest ih =>
    obtain ⟨oldest, sub, done⟩ := Exec.bind_eq_ok.mp done
    obtain ⟨others, run, done⟩ := Exec.bind_eq_ok.mp done
    cases difference oldest sub
    cases ih run
    cases done
    rw [List.filter_cons]
    simp only [decide_eq_true_eq]

/-- A reported decimal is the middle one of the taken values. -/
theorem get_value_ok {api : DecimalApi} {checks : OverflowChecks} {self : PullFeedAccountData}
    {clock_slot max_staleness : UInt64} {min_samples : UInt32} {only_positive : Bool} {decimal : api.Decimal}
    (done : get_value api checks self clock_slot max_staleness min_samples only_positive = .ok decimal) :
    let values : Multiset I128 := ↑(takenValues self clock_slot max_staleness)
    ∃ v, kth values (values.card / 2) = some v ∧ api.number decimal = v.val / 10 ^ 18 := by
  obtain ⟨submissions, taken, done⟩ := Exec.bind_eq_ok.mp done
  cases filter_fresh_ok taken
  simp only [Exec.bind_eq_ok, Exec.bailIf_eq_ok, exists_const, Exec.okOr_eq_ok, lower_bound_median_eq,
    DecimalApi.decimal_ok_iff] at done
  obtain ⟨_, v, middle, _, converted⟩ := done
  refine ⟨v, ?_, api.exact v PRECISION decimal converted⟩
  rw [takenValues, Multiset.coe_card]
  exact middle

theorem atMostLower_iff {api : DecimalApi} {decimal : api.Decimal} {values : Multiset I128} {v : I128}
    (middle : kth values (values.card / 2) = some v) (number : api.number decimal = v.val / 10 ^ 18) :
    AtMostLower api decimal values ↔ MiddlesAgree values := by
  have scaled : ∀ m : I128, api.number decimal ≤ m.val / 10 ^ 18 ↔ v ≤ m := by
    intro m
    rw [number, div_le_div_iff_of_pos_right (by norm_num), Int.cast_le]
    rfl
  rw [← isLowerMedian_middle_iff middle, ← le_lowerMedian_iff middle, AtMostLower]
  simp only [scaled]

/-- The lower median of numbers is returned, and bounds what `get_value` reports
    when it takes them, exactly when there is an odd number of them or the two
    middle ones are equal. -/
theorem lower_median_iff (numbers : List I128) (some : numbers ≠ []) :
    (ReturnsLower numbers ↔ MiddlesAgree ↑numbers) ∧
    ∀ (api : DecimalApi) (checks : OverflowChecks) (self : PullFeedAccountData) (clock_slot max_staleness : UInt64)
      (min_samples : UInt32) (only_positive : Bool) (decimal : api.Decimal),
      takenValues self clock_slot max_staleness = numbers →
      get_value api checks self clock_slot max_staleness min_samples only_positive = .ok decimal →
        (AtMostLower api decimal ↑numbers ↔ MiddlesAgree ↑numbers) := by
  constructor
  · exact returnsLower_iff some
  · rintro api checks self clock_slot max_staleness min_samples only_positive decimal rfl done
    obtain ⟨v, middle, number⟩ := get_value_ok done
    exact atMostLower_iff middle number

theorem lower_median_iff_outvotedFeed :
    ∃ decimal, get_value mantissa96 .on outvotedFeed 110 20 2 true = .ok decimal ∧
      AtMostLower mantissa96 decimal (takenValues outvotedFeed 110 20) := by
  have done : get_value mantissa96 .on outvotedFeed 110 20 2 true =
      .ok ⟨7000000000000000000, 18, by decide, by decide⟩ := by rfl
  have three : (takenValues outvotedFeed 110 20).length = 3 := by rfl
  have some : takenValues outvotedFeed 110 20 ≠ [] := List.ne_nil_of_length_pos (by rw [three]; decide)
  refine ⟨_, done, ((lower_median_iff _ some).2 mantissa96 .on outvotedFeed 110 20 2 true _ rfl done).mpr (.inl ?_)⟩
  rw [Multiset.coe_card, three]

def oneAndTwo : List I128 :=
  [⟨1000000000000000000, by decide, by decide⟩, ⟨2000000000000000000, by decide, by decide⟩]

/-- Two oracles, one of which says 1 and the other 2. -/
def twoPrices : PullFeedAccountData := .ofSubmissions (oneAndTwo.map fun value => ⟨100, 100, value⟩)

/-- Of 1 and 2 the greater one is returned, and reported. -/
theorem oneAndTwo_not_lower :
    lower_bound_median oneAndTwo = some ⟨2000000000000000000, by decide, by decide⟩ ∧ ¬ ReturnsLower oneAndTwo ∧
      ∃ decimal, get_value mantissa96 .on twoPrices 110 20 2 true = .ok decimal ∧ mantissa96.number decimal = 2 ∧
        takenValues twoPrices 110 20 = oneAndTwo ∧ ¬ AtMostLower mantissa96 decimal ↑oneAndTwo := by
  have done : get_value mantissa96 .on twoPrices 110 20 2 true =
      .ok ⟨2000000000000000000, 18, by decide, by decide⟩ := by rfl
  have values : takenValues twoPrices 110 20 = oneAndTwo := by rfl
  have differ : ¬ MiddlesAgree ↑oneAndTwo := by
    rintro (odd | equal)
    · exact absurd odd (by decide)
    · rw [Multiset.coe_card, kth_coe, kth_coe] at equal
      exact absurd equal (by decide)
  refine ⟨by rfl, (returnsLower_iff (List.cons_ne_nil _ _)).not.mpr differ, _, done, ?_, values, ?_⟩
  · have number : mantissa96.number ⟨2000000000000000000, 18, by decide, by decide⟩ =
        ((2000000000000000000 : Int) : ℚ) / 10 ^ 18 := rfl
    rw [number]
    norm_num
  · obtain ⟨v, middle, number⟩ := get_value_ok done
    rw [values] at middle
    rw [atMostLower_iff middle number]
    exact differ

end SwitchboardOnDemand.LowerMedian
