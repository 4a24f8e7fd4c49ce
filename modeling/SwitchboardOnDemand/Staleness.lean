import SwitchboardOnDemand.PullFeed

/-!
# Staleness windows

Six accessors of a pull feed take the slots that are at most `max_staleness`
behind the clock, or behind the last update. They subtract `max_staleness` from
the reference slot, which is the window over the integers as long as nothing
underflows. The windows are exact in every build when and only when the clock
and the last update are past `max_staleness` (`windowsExact_iff`); for
`get_value` an empty feed also does, since it subtracts for each submission.
-/

namespace SwitchboardOnDemand.Staleness
open Rust SwitchboardOnDemand.Decimals SwitchboardOnDemand.Error SwitchboardOnDemand.PullFeed

/-! ### What the windows should be -/

/-- The slot is at most `max_staleness` behind the reference. -/
def InWindow (reference max_staleness slot : UInt64) : Prop :=
  slot.toNat + max_staleness.toNat ≥ reference.toNat

instance (reference max_staleness slot : UInt64) : Decidable (InWindow reference max_staleness slot) :=
  inferInstanceAs (Decidable (_ ≥ _))

/-- The submissions in front of the first empty one. -/
def listed (self : PullFeedAccountData) : List OracleSubmission :=
  self.submissions.toList.takeWhile fun s => !s.is_empty

/-- The listed submissions in a window. -/
def samplesIn (self : PullFeedAccountData) (reference max_staleness : UInt64) : List OracleSubmission :=
  (listed self).filter fun s => InWindow reference max_staleness s.slot

/-- The listed submissions in a window, with their places. -/
def numberedIn (self : PullFeedAccountData) (reference max_staleness : UInt64) : List (Fin 32 × OracleSubmission) :=
  ((enumerated self).takeWhile fun sample => !sample.2.is_empty).filter fun sample =>
    InWindow reference max_staleness sample.2.slot

/-- What `get_value` makes of the fresh submissions. -/
def report (api : DecimalApi) (min_samples : UInt32) (only_positive : Bool) (submissions : List OracleSubmission) :
    Exec OnDemandError api.Decimal := do
  Exec.bailIf (submissions.length < min_samples.toNat) .NotEnoughSamples
  let median ← Exec.okOr .NotEnoughSamples (lower_bound_median (submissions.map OracleSubmission.value))
  Exec.bailIf (only_positive ∧ median ≤ 0) .IllegalFeedValue
  api.decimal median PRECISION

/-- What `value` makes of a fresh result. -/
def stored_value (api : DecimalApi) (self : PullFeedAccountData) : Exec OnDemandError api.Decimal := do
  let result ← self.result.value_decimal api
  Exec.okOr .StaleResult result

/-- All windows of a feed are those over the integers, in every build. -/
structure WindowsExact (feed : PullFeedAccountData) (clock_slot max_staleness : UInt64) : Prop where
  get_value : ∀ api checks min_samples only_positive,
    get_value api checks feed clock_slot max_staleness min_samples only_positive =
      report api min_samples only_positive (samplesIn feed clock_slot max_staleness)
  valid_samples : ∀ checks, (valid_samples checks feed clock_slot : Exec OnDemandError _) =
    .ok (samplesIn feed clock_slot feed.max_staleness.toUInt64)
  value : ∀ api checks, value api checks feed clock_slot =
    if InWindow clock_slot feed.max_staleness.toUInt64 feed.result.slot then stored_value api feed
    else .err .StaleResult
  is_result_vaild : ∀ checks, (is_result_vaild checks feed clock_slot : Exec OnDemandError _) =
    .ok (decide (InWindow clock_slot feed.max_staleness.toUInt64 feed.result.slot))
  current_result_samples : ∀ checks, (current_result_samples checks feed : Exec OnDemandError _) =
    .ok (numberedIn feed (last_update_slot feed) feed.max_staleness.toUInt64)
  current_result_ts_range : ∀ checks, (current_result_ts_range checks feed : Exec OnDemandError _) =
    .ok (ts_range feed (numberedIn feed (last_update_slot feed) feed.max_staleness.toUInt64))

/-! ### Subtraction and windows -/

/-- Without underflow the difference is the start of the window. -/
theorem ge_sub_iff {reference max_staleness : UInt64} (young : max_staleness ≤ reference) (slot : UInt64) :
    slot ≥ reference - max_staleness ↔ InWindow reference max_staleness slot := by
  rw [ge_iff_le, UInt64.le_iff_toNat_le, UInt64.toNat_sub_of_le _ _ young, InWindow, ge_iff_le]
  exact Nat.sub_le_iff_le_add

theorem filter_fresh_window {ε : Type} (checks : OverflowChecks) {reference max_staleness : UInt64}
    (young : max_staleness ≤ reference) (submissions : List OracleSubmission) :
    (filter_fresh checks reference max_staleness submissions : Exec ε _) =
      .ok (submissions.filter fun s => InWindow reference max_staleness s.slot) := by
  have same : ∀ s : OracleSubmission, reference.toNat - max_staleness.toNat ≤ s.slot.toNat ↔
      InWindow reference max_staleness s.slot := fun s => Nat.sub_le_iff_le_add
  simp only [filter_fresh_eq checks young, same]

/-- The first submission already underflows. -/
theorem filter_fresh_underflow {ε : Type} {reference max_staleness : UInt64} (old : reference < max_staleness)
    {submissions : List OracleSubmission} (some : submissions ≠ []) :
    (filter_fresh .on reference max_staleness submissions : Exec ε _) =
      .panic "attempt to subtract with overflow" := by
  cases submissions with
  | nil => exact absurd rfl some
  | cons s rest => rw [filter_fresh, u64_sub_on_of_lt old, Exec.panic_bind]

theorem get_value_eq_report (api : DecimalApi) (checks : OverflowChecks) (self : PullFeedAccountData)
    (clock_slot max_staleness : UInt64) (min_samples : UInt32) (only_positive : Bool) :
    get_value api checks self clock_slot max_staleness min_samples only_positive =
      filter_fresh checks clock_slot max_staleness (listed self) >>= report api min_samples only_positive := rfl

/-- 4294967295 samples are never there. -/
theorem report_too_few (api : DecimalApi) (only_positive : Bool) (self : PullFeedAccountData)
    (reference max_staleness : UInt64) :
    report api 4294967295 only_positive (samplesIn self reference max_staleness) = .err .NotEnoughSamples := by
  have filtered : (samplesIn self reference max_staleness).length ≤ (listed self).length := List.length_filter_le _ _
  have inArray : (listed self).length ≤ 32 :=
    (List.takeWhile_prefix _).length_le.trans_eq (Vector.length_toList)
  have few : (samplesIn self reference max_staleness).length < (4294967295 : UInt32).toNat :=
    Nat.lt_of_le_of_lt (filtered.trans inArray) (by decide)
  rw [report, Exec.bailIf_true _ few, Exec.err_bind]

theorem result_slot_getD (self : CurrentResult) : self.result_slot.getD 0 = self.slot := by
  unfold CurrentResult.result_slot
  split
  · rename_i zero
    exact zero.symm
  · rfl

/-! ### When the windows are exact -/

variable {self : PullFeedAccountData} {clock_slot max_staleness : UInt64}

theorem get_value_window (young : max_staleness ≤ clock_slot ∨ listed self = []) (api : DecimalApi)
    (checks : OverflowChecks) (min_samples : UInt32) (only_positive : Bool) :
    get_value api checks self clock_slot max_staleness min_samples only_positive =
      report api min_samples only_positive (samplesIn self clock_slot max_staleness) := by
  rw [get_value_eq_report]
  rcases young with young | empty
  · rw [filter_fresh_window checks young, Exec.ok_bind, samplesIn]
  · rw [samplesIn, empty]
    rfl

theorem value_window (young : self.max_staleness.toUInt64 ≤ clock_slot) (api : DecimalApi) (checks : OverflowChecks) :
    value api checks self clock_slot =
      if InWindow clock_slot self.max_staleness.toUInt64 self.result.slot then stored_value api self
      else .err .StaleResult := by
  rw [value, u64_sub_of_le checks young, Exec.ok_bind, result_slot_getD]
  by_cases fresh : self.result.slot ≥ clock_slot - self.max_staleness.toUInt64
  · rw [Exec.bailIf_false _ (UInt64.not_lt.mpr fresh), Exec.ok_bind, if_pos ((ge_sub_iff young _).mp fresh),
      stored_value]
  · have stale : ¬ InWindow clock_slot self.max_staleness.toUInt64 self.result.slot :=
      fun window => fresh ((ge_sub_iff young _).mpr window)
    rw [Exec.bailIf_true _ (UInt64.not_le.mp fresh), Exec.err_bind, if_neg stale]

theorem is_result_vaild_window {ε : Type} (young : self.max_staleness.toUInt64 ≤ clock_slot)
    (checks : OverflowChecks) :
    (is_result_vaild checks self clock_slot : Exec ε _) =
      .ok (decide (InWindow clock_slot self.max_staleness.toUInt64 self.result.slot)) := by
  rw [is_result_vaild, u64_sub_of_le checks young, Exec.ok_bind, Exec.pure_eq]
  simp only [ge_sub_iff young]

theorem current_result_samples_window {ε : Type} (updated : self.max_staleness.toUInt64 ≤ last_update_slot self)
    (checks : OverflowChecks) :
    (current_result_samples checks self : Exec ε _) =
      .ok (numberedIn self (last_update_slot self) self.max_staleness.toUInt64) := by
  rw [current_result_samples, u64_sub_of_le checks updated, Exec.ok_bind, Exec.pure_eq, numberedIn]
  simp only [ge_sub_iff updated]

/-- The windows of all accessors are exact when and only when no subtraction
    underflows; `get_value` does not subtract for an empty feed. -/
theorem windowsExact_iff (self : PullFeedAccountData) (clock_slot max_staleness : UInt64) :
    WindowsExact self clock_slot max_staleness ↔
      (max_staleness ≤ clock_slot ∨ listed self = []) ∧ self.max_staleness.toUInt64 ≤ clock_slot ∧
        self.max_staleness.toUInt64 ≤ last_update_slot self := by
  constructor
  · intro windows
    refine ⟨?_, ?_, ?_⟩
    · by_contra both
      obtain ⟨old, some⟩ := not_or.mp both
      have run := windows.get_value mantissa96 .on 4294967295 false
      rw [get_value_eq_report, filter_fresh_underflow (UInt64.not_le.mp old) some, Exec.panic_bind,
        report_too_few] at run
      cases run
    · by_contra old
      have run := windows.is_result_vaild .on
      rw [is_result_vaild, u64_sub_on_of_lt (UInt64.not_le.mp old), Exec.panic_bind] at run
      cases run
    · by_contra old
      have run := windows.current_result_samples .on
      rw [current_result_samples, u64_sub_on_of_lt (UInt64.not_le.mp old), Exec.panic_bind] at run
      cases run
  · rintro ⟨given, young, updated⟩
    refine ⟨get_value_window given, ?_, value_window young, is_result_vaild_window young,
      current_result_samples_window updated, ?_⟩
    · intro checks
      exact filter_fresh_window checks young (listed self)
    · intro checks
      rw [current_result_ts_range, current_result_samples_window updated, Exec.ok_bind, Exec.pure_eq]

/-- A feed without submissions that keeps results for 100 slots. -/
def youngFeed : PullFeedAccountData := { PullFeedAccountData.ofSubmissions [] with max_staleness := 100 }

/-- At slot 50 it panics where overflow is checked, and else takes a slot for
    stale that is in the window. -/
theorem youngFeed_not_windowsExact :
    (is_result_vaild .on youngFeed 50 : Exec OnDemandError _) = .panic "attempt to subtract with overflow" ∧
      (is_result_vaild .off youngFeed 50 : Exec OnDemandError _) = .ok false ∧
      InWindow 50 100 youngFeed.result.slot ∧ ¬ WindowsExact youngFeed 50 0 := by
  refine ⟨rfl, rfl, by decide, ?_⟩
  intro windows
  have young := ((windowsExact_iff _ _ _).mp windows).2.1
  exact absurd young (by decide)

end SwitchboardOnDemand.Staleness
