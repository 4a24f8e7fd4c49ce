import SwitchboardOnDemand.Staleness

/-!
# What becomes of a value

A value of a pull feed ages: it changes only when a sample leaves the window, and
runs out with the last sample that is needed (`get_value_over_time`). Oracles that
change their samples move it by as many places in the order of the samples as
there are such oracles (`get_value_influence`).
-/

namespace SwitchboardOnDemand.SampleChanges
open Rust OrderStatistics SwitchboardOnDemand.Decimals SwitchboardOnDemand.Error SwitchboardOnDemand.PullFeed
open SwitchboardOnDemand.Staleness

variable {self : PullFeedAccountData} {clock_slot max_staleness : UInt64}

/-! ### Time -/

/-- The slots of the listed samples. -/
def slots (self : PullFeedAccountData) : Multiset ℕ := (listed self).map fun s => s.slot.toNat

/-- The samples that `get_value` cannot do without; it takes none for one. -/
def needed (min_samples : UInt32) : ℕ := max min_samples.toNat 1

theorem length_samplesIn : (samplesIn self clock_slot max_staleness).length =
    (slots self).countP (clock_slot.toNat - max_staleness.toNat ≤ ·) := by
  rw [samplesIn, slots, Multiset.coe_countP, List.countP_map, ← List.countP_eq_length_filter]
  refine List.countP_congr fun s _ => ?_
  simp [InWindow]

/-- Too few samples, or none, are the one reason for `NotEnoughSamples`. -/
theorem report_notEnough_iff (api : DecimalApi) (min_samples : UInt32) (only_positive : Bool)
    (submissions : List OracleSubmission) :
    report api min_samples only_positive submissions = .err .NotEnoughSamples ↔
      submissions.length < needed min_samples := by
  unfold report needed
  by_cases few : submissions.length < min_samples.toNat
  · rw [Exec.bailIf_true _ few, Exec.err_bind]
    exact iff_of_true rfl (by omega)
  · rw [Exec.bailIf_false _ few, Exec.ok_bind]
    by_cases none : submissions = []
    · subst none
      exact iff_of_true rfl (by simp)
    · rw [lower_bound_median_eq]
      have positive := List.length_pos_iff.mpr none
      have inside : (submissions.map OracleSubmission.value).length / 2 <
          ((submissions.map OracleSubmission.value : List I128) : Multiset I128).card := by
        rw [Multiset.coe_card, List.length_map]
        omega
      obtain ⟨median, is⟩ := kth_of_lt inside
      refine iff_of_false ?_ (by omega)
      rw [is]
      by_cases negative : only_positive = true ∧ median ≤ 0
      · simp [Exec.okOr, Exec.bailIf_true _ negative]
      · simp only [Exec.okOr, Exec.ok_bind, Exec.bailIf_false _ negative, DecimalApi.decimal]
        cases api.from_i128_with_scale median PRECISION <;> simp

/-- Whatever the clock, as long as it is past `max_staleness`: the answer stays the
    same until a sample leaves the window, and there are too few samples exactly
    from the slot on at which the last one that is needed has left it. Neither the
    values nor `only_positive` play a part in that. -/
theorem get_value_over_time (api : DecimalApi) (checks : OverflowChecks) (self : PullFeedAccountData)
    (max_staleness : UInt64) (min_samples : UInt32) (only_positive : Bool) :
    (∀ clock later : UInt64, max_staleness ≤ clock → clock ≤ later →
      (∀ slot ∈ slots self, ¬ (clock.toNat ≤ slot + max_staleness.toNat ∧ slot + max_staleness.toNat < later.toNat)) →
      get_value api checks self later max_staleness min_samples only_positive =
        get_value api checks self clock max_staleness min_samples only_positive) ∧
    ∀ clock : UInt64, max_staleness ≤ clock →
      (get_value api checks self clock max_staleness min_samples only_positive = .err .NotEnoughSamples ↔
        ∀ slot, nthGreatest (slots self) (needed min_samples) = some slot →
          slot + max_staleness.toNat < clock.toNat) := by
  constructor
  · intro clock later young after none
    have youngLater : max_staleness ≤ later := UInt64.le_trans young after
    rw [get_value_window (.inl young), get_value_window (.inl youngLater), samplesIn, samplesIn]
    refine congrArg _ (List.filter_congr fun s member => ?_)
    have stays := none s.slot.toNat (Multiset.mem_coe.mpr (List.mem_map_of_mem member))
    have order := UInt64.le_iff_toNat_le.mp after
    refine decide_eq_decide.mpr ?_
    unfold InWindow
    omega
  · intro clock young
    have order := UInt64.le_iff_toNat_le.mp young
    have positive : 1 ≤ needed min_samples := le_max_right _ _
    rw [get_value_window (.inl young), report_notEnough_iff, length_samplesIn, countP_ge_lt_iff _ positive]
    refine forall₂_congr fun slot _ => ?_
    omega

/-- Two samples of three slots: the feed of `outvotedFeed` runs out at slot 122. -/
theorem get_value_over_time_outvotedFeed :
    get_value mantissa96 .on outvotedFeed 122 20 2 true = .err .NotEnoughSamples ∧
      get_value mantissa96 .on outvotedFeed 121 20 2 true ≠ .err .NotEnoughSamples := by
  obtain ⟨_, runsOut⟩ := get_value_over_time mantissa96 .on outvotedFeed 20 2 true
  have three : slots outvotedFeed = ([100, 101, 102] : List ℕ) := by rfl
  have second : nthGreatest (slots outvotedFeed) (needed 2) = some 101 := by
    rw [three, nthGreatest, if_pos (by decide), kth_coe]
    rfl
  simp only [second, Option.some.injEq, forall_eq'] at runsOut
  have late : (20 : UInt64) ≤ 122 := by decide
  have before : (20 : UInt64) ≤ 121 := by decide
  exact ⟨(runsOut 122 late).mpr (by decide), mt (runsOut 121 before).mp (by decide)⟩

/-! ### Altered samples -/

/-- The samples have the same slots, place by place. -/
abbrev SameSlots (samples others : List OracleSubmission) : Prop :=
  List.Forall₂ (fun a b => a.slot = b.slot) samples others

/-- The number of places at which the values differ. -/
def differing : List OracleSubmission → List OracleSubmission → ℕ
  | a :: rest, b :: rest' => (if a.value = b.value then 0 else 1) + differing rest rest'
  | _, _ => 0

theorem differing_comm (samples others : List OracleSubmission) :
    differing samples others = differing others samples := by
  induction samples generalizing others with
  | nil => cases others <;> rfl
  | cons a rest ih =>
    cases others with
    | nil => rfl
    | cons b rest' => simp [differing, ih, eq_comm]

/-- Each value that differs counts once for any property of values. -/
theorem countP_values_le {samples others : List OracleSubmission} (same : SameSlots samples others)
    (p : I128 → Prop) [DecidablePred p] :
    (samples.map OracleSubmission.value).countP p ≤
      (others.map OracleSubmission.value).countP p + differing samples others := by
  induction same with
  | nil => simp
  | @cons a b rest rest' _ _ ih =>
    rw [List.map_cons, List.map_cons, List.countP_cons, List.countP_cons, differing]
    by_cases equal : a.value = b.value
    · rw [if_pos equal, equal]
      omega
    · rw [if_neg equal]
      split <;> split <;> omega

/-- What is fresh depends on the slots only. -/
theorem fresh_same {samples others : List OracleSubmission} (same : SameSlots samples others) (recent : UInt64 → Bool) :
    let taken := fun (list : List OracleSubmission) =>
      (list.takeWhile fun s => !s.is_empty).filter fun s => recent s.slot
    SameSlots (taken samples) (taken others) ∧ differing (taken samples) (taken others) ≤ differing samples others := by
  intro taken
  induction same with
  | nil => exact ⟨.nil, le_rfl⟩
  | @cons a b rest rest' slot _ ih =>
    obtain ⟨sameRest, fewer⟩ := ih
    have empty : a.is_empty = b.is_empty := by simp [OracleSubmission.is_empty, slot]
    by_cases stop : b.is_empty = true
    · have noneA : taken (a :: rest) = [] := by simp [taken, empty, stop]
      have noneB : taken (b :: rest') = [] := by simp [taken, stop]
      rw [noneA, noneB]
      exact ⟨.nil, Nat.zero_le _⟩
    · have go : b.is_empty = false := by simpa using stop
      by_cases fresh : recent b.slot = true
      · have takenA : taken (a :: rest) = a :: taken rest := by simp [taken, empty, go, slot, fresh]
        have takenB : taken (b :: rest') = b :: taken rest' := by simp [taken, go, fresh]
        rw [takenA, takenB, differing, differing]
        exact ⟨.cons slot sameRest, by omega⟩
      · have takenA : taken (a :: rest) = taken rest := by simp [taken, empty, go, slot, fresh]
        have takenB : taken (b :: rest') = taken rest' := by simp [taken, go, fresh]
        rw [takenA, takenB, differing]
        exact ⟨sameRest, by omega⟩

/-- Fresh values of altered samples are as many, and each that differs counts once. -/
theorem freshValues_near {self altered : PullFeedAccountData}
    (same : SameSlots self.submissions.toList altered.submissions.toList) (clock_slot max_staleness : UInt64) :
    (freshValues altered clock_slot max_staleness).card = (freshValues self clock_slot max_staleness).card ∧
    ∀ x, (freshValues self clock_slot max_staleness).countP (· ≤ x) ≤
      (freshValues altered clock_slot max_staleness).countP (· ≤ x) +
        differing self.submissions.toList altered.submissions.toList := by
  obtain ⟨sameFresh, fewer⟩ := fresh_same same fun slot => clock_slot.toNat - max_staleness.toNat ≤ slot.toNat
  constructor
  · rw [freshValues, freshValues, Multiset.coe_card, Multiset.coe_card, List.length_map, List.length_map]
    exact sameFresh.length_eq.symm
  · intro x
    have counted := countP_values_le sameFresh (· ≤ x)
    exact counted.trans (Nat.add_le_add_left fewer _)

/-- The decimal is bounded by the values `t` places below and above the middle one. -/
structure NearMiddle (api : DecimalApi) (decimal : api.Decimal) (values : Multiset I128) (t : ℕ) : Prop where
  atLeast : ∃ low, kth values (values.card / 2 - t) = some low ∧ low.val / 10 ^ 18 ≤ api.number decimal
  atMost : ∃ high, kth values (values.card / 2 + t) = some high ∧ api.number decimal ≤ high.val / 10 ^ 18

/-- When some oracles alter the values of their samples, fewer than half of the
    fresh ones, the value that is reported lies between two values of the unaltered
    samples that are as many places from the middle as there are such oracles. -/
theorem get_value_influence (api : DecimalApi) (checks : OverflowChecks) (self altered : PullFeedAccountData)
    (clock_slot max_staleness : UInt64) (young : max_staleness ≤ clock_slot) (min_samples : UInt32)
    (only_positive : Bool) (same : SameSlots self.submissions.toList altered.submissions.toList)
    (minority : 2 * differing self.submissions.toList altered.submissions.toList <
      (freshValues self clock_slot max_staleness).card)
    (decimal : api.Decimal)
    (done : get_value api checks altered clock_slot max_staleness min_samples only_positive = .ok decimal) :
    NearMiddle api decimal (freshValues self clock_slot max_staleness)
      (differing self.submissions.toList altered.submissions.toList) := by
  obtain ⟨_, v, middle, _, converted⟩ :=
    (get_value_ok_iff api checks altered young min_samples only_positive decimal).mp done
  have number : api.number decimal = v.val / 10 ^ 18 := api.exact v PRECISION decimal converted
  have scaled : ∀ a b : I128, (a.val / 10 ^ 18 : ℚ) ≤ b.val / 10 ^ 18 ↔ a ≤ b := by
    intro a b
    rw [div_le_div_iff_of_pos_right (by norm_num), Int.cast_le]
    rfl
  obtain ⟨card, near⟩ := freshValues_near same clock_slot max_staleness
  obtain ⟨_, near'⟩ := freshValues_near (same.flip.imp fun _ _ => Eq.symm) clock_slot max_staleness
  rw [differing_comm] at near'
  rw [card] at middle
  generalize differing self.submissions.toList altered.submissions.toList = t at *
  generalize freshValues self clock_slot max_staleness = values at *
  obtain ⟨low, isLow⟩ := kth_of_lt (show values.card / 2 - t < values.card by omega)
  obtain ⟨high, isHigh⟩ := kth_of_lt (show values.card / 2 + t < values.card by omega)
  refine ⟨⟨low, isLow, ?_⟩, ⟨high, isHigh, ?_⟩⟩
  · rw [number, scaled]
    refine kth_le_kth_add near' isLow ?_
    rwa [Nat.sub_add_cancel (by omega)]
  · rw [number, scaled]
    exact kth_le_kth_add near middle isHigh

def thousand : I128 := ⟨1000000000000000000000, by decide, by decide⟩

/-- The feed of `outvotedFeed` after the last oracle has said 1000. -/
def alteredFeed : PullFeedAccountData :=
  { outvotedFeed with submissions := outvotedFeed.submissions.setIfInBounds 2 ⟨102, 102, thousand⟩ }

/-- One oracle of three moves the value from 7 to 100 at most. -/
theorem get_value_influence_outvotedFeed : ∃ decimal,
    get_value mantissa96 .on alteredFeed 110 20 2 true = .ok decimal ∧
      NearMiddle mantissa96 decimal (freshValues outvotedFeed 110 20) 1 := by
  have done : get_value mantissa96 .on alteredFeed 110 20 2 true =
      .ok ⟨100000000000000000000, 18, by decide, by decide⟩ := by rfl
  have same : SameSlots outvotedFeed.submissions.toList alteredFeed.submissions.toList := by decide
  have one : differing outvotedFeed.submissions.toList alteredFeed.submissions.toList = 1 := by rfl
  have three : (freshValues outvotedFeed 110 20).card = 3 := by rfl
  have young : (20 : UInt64) ≤ 110 := by decide
  have near := get_value_influence mantissa96 .on outvotedFeed alteredFeed 110 20 young 2 true same
    (by rw [one, three]; decide) _ done
  rw [one] at near
  exact ⟨_, done, near⟩

end SwitchboardOnDemand.SampleChanges
