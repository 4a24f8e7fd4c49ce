import Mathlib.Data.Multiset.Sort
import Mathlib.Order.Interval.Set.OrdConnected

/-!
# Order statistics

The `k`-th smallest value of a multiset over a linear order. At most `k` values
lie below it and fewer than the rest above it, so a convex set with more than
half of the values has the middle one (`middle_mem`).
-/

namespace OrderStatistics

private theorem countP_mono {α : Type*} {values : Multiset α} {p q : α → Prop} [DecidablePred p] [DecidablePred q]
    (sub : ∀ x, p x → q x) : values.countP p ≤ values.countP q := by
  rw [Multiset.countP_eq_card_filter, Multiset.countP_eq_card_filter]
  exact Multiset.card_le_card (Multiset.monotone_filter_right values sub)

variable {α : Type*} [LinearOrder α]

/-- The value with `k` others in front of it in ascending order. -/
def kth (values : Multiset α) (k : Nat) : Option α := values.sort[k]?

theorem kth_coe (values : List α) (k : Nat) : kth ↑values k = (values.insertionSort (· ≤ ·))[k]? := by
  rw [kth, Multiset.coe_sort, List.mergeSort_eq_insertionSort]

theorem kth_eq_some {values : Multiset α} {k : Nat} {m : α} (is : kth values k = some m) :
    ∃ low high, low.length = k ∧ values = ↑(low ++ m :: high) ∧ (∀ x ∈ low, x ≤ m) ∧ ∀ x ∈ high, m ≤ x := by
  obtain ⟨inside, rfl⟩ := List.getElem?_eq_some_iff.mp is
  have split : values.sort = values.sort.take k ++ values.sort[k] :: values.sort.drop (k + 1) := by
    rw [← List.drop_eq_getElem_cons inside, List.take_append_drop]
  have sorted : values.sort.Pairwise (· ≤ ·) := values.pairwise_sort (· ≤ ·)
  rw [split, List.pairwise_append, List.pairwise_cons] at sorted
  obtain ⟨_, ⟨above, _⟩, between⟩ := sorted
  refine ⟨values.sort.take k, values.sort.drop (k + 1), ?_, ?_, ?_, above⟩
  · rw [List.length_take]
    omega
  · rw [← split, Multiset.sort_eq]
  · exact fun x member => between x member _ List.mem_cons_self

/-- At most `k` values lie below the `k`-th smallest one. -/
theorem countP_lt_kth {values : Multiset α} {k : Nat} {m : α} (is : kth values k = some m) :
    values.countP (· < m) ≤ k := by
  obtain ⟨low, high, length, rfl, _, above⟩ := kth_eq_some is
  have none : (m :: high).countP (· < m) = 0 := by
    rw [List.countP_eq_zero]
    intro x member
    rcases List.mem_cons.mp member with rfl | member
    · simp
    · simpa using above x member
  rw [Multiset.coe_countP, List.countP_append, none, ← length]
  exact List.countP_le_length

/-- Above the `k`-th smallest value lie at most the others. -/
theorem countP_gt_kth {values : Multiset α} {k : Nat} {m : α} (is : kth values k = some m) :
    values.countP (m < ·) + k + 1 ≤ values.card := by
  obtain ⟨low, high, length, rfl, below, _⟩ := kth_eq_some is
  have none : low.countP (m < ·) = 0 := by
    rw [List.countP_eq_zero]
    intro x member
    simpa using below x member
  have few : high.countP (m < ·) ≤ high.length := List.countP_le_length
  rw [Multiset.coe_countP, Multiset.coe_card, List.countP_append, none, List.countP_cons_of_neg (by simp),
    List.length_append, List.length_cons, length]
  omega

theorem kth_of_lt {values : Multiset α} {k : Nat} (inside : k < values.card) : ∃ m, kth values k = some m := by
  have inSorted : k < values.sort.length := by rwa [Multiset.length_sort]
  exact ⟨_, List.getElem?_eq_getElem inSorted⟩

theorem kth_mem {values : Multiset α} {k : Nat} {m : α} (is : kth values k = some m) : m ∈ values :=
  (Multiset.mem_sort (· ≤ ·)).mp (List.mem_of_getElem? is)

/-- A later value is at least as great. -/
theorem kth_mono {values : Multiset α} {j k : Nat} {a b : α} (before : j ≤ k) (isA : kth values j = some a)
    (isB : kth values k = some b) : a ≤ b := by
  obtain ⟨insideA, rfl⟩ := List.getElem?_eq_some_iff.mp isA
  obtain ⟨insideB, rfl⟩ := List.getElem?_eq_some_iff.mp isB
  have sorted : values.sort.Pairwise (· ≤ ·) := values.pairwise_sort (· ≤ ·)
  rcases Nat.eq_or_lt_of_le before with rfl | earlier
  · exact le_refl _
  · exact List.pairwise_iff_getElem.mp sorted j k insideA insideB earlier

/-- The `k`-th smallest value and the `k` in front of it are at most it. -/
theorem lt_countP_le_kth {values : Multiset α} {k : Nat} {m : α} (is : kth values k = some m) :
    k < values.countP (· ≤ m) := by
  have above := countP_gt_kth is
  have split := values.card_eq_countP_add_countP (· ≤ m)
  simp only [not_le] at split
  omega

/-- The others are at least the `k`-th smallest value. -/
theorem card_le_countP_ge_kth {values : Multiset α} {k : Nat} {m : α} (is : kth values k = some m) :
    values.card ≤ values.countP (m ≤ ·) + k := by
  have below := countP_lt_kth is
  have split := values.card_eq_countP_add_countP (m ≤ ·)
  simp only [not_le] at split
  omega

/-- Values that differ in at most `t` from others are not more than `t` places off:
    the `k`-th smallest of the others is at most the one `t` places later. -/
theorem kth_le_kth_add {values others : Multiset α} {k t : Nat} {a b : α}
    (near : ∀ x, values.countP (· ≤ x) ≤ others.countP (· ≤ x) + t) (isA : kth others k = some a)
    (isB : kth values (k + t) = some b) : a ≤ b := by
  by_contra above
  have many := lt_countP_le_kth isB
  have others : others.countP (· ≤ b) ≤ others.countP (· < a) :=
    countP_mono fun _ atMost => lt_of_le_of_lt atMost (not_le.mp above)
  have few := countP_lt_kth isA
  have close := near b
  omega

/-- The `n`-th greatest value, counted from one. -/
def nthGreatest (values : Multiset α) (n : Nat) : Option α :=
  if n ≤ values.card then kth values (values.card - n) else none

/-- Fewer than `n` values reach a bound exactly when the `n`-th greatest does not,
    or is missing. -/
theorem countP_ge_lt_iff (values : Multiset α) {n : Nat} (positive : 1 ≤ n) (bound : α) :
    values.countP (bound ≤ ·) < n ↔ ∀ x, nthGreatest values n = some x → x < bound := by
  unfold nthGreatest
  by_cases enough : n ≤ values.card
  · obtain ⟨x, is⟩ := kth_of_lt (show values.card - n < values.card by omega)
    have above := countP_gt_kth is
    have atLeast := card_le_countP_ge_kth is
    simp only [if_pos enough, is, Option.some.injEq, forall_eq']
    constructor
    · intro few
      by_contra reached
      have more : values.countP (x ≤ ·) ≤ values.countP (bound ≤ ·) :=
        countP_mono fun _ high => (not_lt.mp reached).trans high
      omega
    · intro below
      have fewer : values.countP (bound ≤ ·) ≤ values.countP (x < ·) :=
        countP_mono fun _ high => lt_of_lt_of_le below high
      omega
  · have all : values.countP (bound ≤ ·) ≤ values.card := Multiset.countP_le_card _ _
    simp only [if_neg enough]
    exact iff_of_true (by omega) (fun _ none => by cases none)

/-- The lower median of values: the one at position `(n - 1) / 2` of their
    ascending order, with half of them at most it and more than half at least it. -/
structure IsLowerMedian (values : Multiset α) (m : α) : Prop where
  position : kth values ((values.card - 1) / 2) = some m
  member : m ∈ values
  below : (values.card + 1) / 2 ≤ values.countP (· ≤ m)
  above : values.card / 2 + 1 ≤ values.countP (m ≤ ·)

theorem isLowerMedian_iff {values : Multiset α} {m : α} :
    IsLowerMedian values m ↔ kth values ((values.card - 1) / 2) = some m := by
  constructor
  · exact IsLowerMedian.position
  · intro is
    have some : 0 < values.card := Multiset.card_pos_iff_exists_mem.mpr ⟨m, kth_mem is⟩
    have below := lt_countP_le_kth is
    have above := card_le_countP_ge_kth is
    exact ⟨is, kth_mem is, by omega, by omega⟩

/-- A convex set that has more than half of the values has the middle one. -/
theorem middle_mem {values : Multiset α} {m : α} (is : kth values (values.card / 2) = some m) {s : Set α}
    [DecidablePred (· ∈ s)] (convex : s.OrdConnected) (majority : values.card < 2 * values.countP (· ∈ s)) :
    m ∈ s := by
  by_contra outside
  have oneSide : (∀ x ∈ s, x < m) ∨ ∀ x ∈ s, m < x := by
    by_contra both
    push Not at both
    obtain ⟨⟨x, memberX, above⟩, y, memberY, below⟩ := both
    exact outside (convex.out memberY memberX ⟨below, above⟩)
  rcases oneSide with below | above
  · have fewer : values.countP (· ∈ s) ≤ values.countP (· < m) := countP_mono below
    have few := countP_lt_kth is
    omega
  · have fewer : values.countP (· ∈ s) ≤ values.countP (m < ·) := countP_mono above
    have few := countP_gt_kth is
    omega

end OrderStatistics
