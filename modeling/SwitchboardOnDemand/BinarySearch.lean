import Mathlib.Order.Defs.LinearOrder
import Mathlib.Tactic.Common

/-!
# Binary search

`slice::binary_search_by` of Rust's standard library. On a list that its
comparison sorts, the search gives an index exactly when some element compares
equal, and the element at that index does (`binary_search_by_sound`,
`binary_search_by_complete`).
-/

namespace Rust.BinarySearch

variable {α : Type}

/-- Whether the element at an index compares as `answer`. -/
def ComparesAt (cmp : α → Ordering) (xs : List α) (i : Nat) (answer : Ordering) : Prop :=
  ∃ x, xs[i]? = some x ∧ cmp x = answer

instance (cmp : α → Ordering) (xs : List α) (i : Nat) (answer : Ordering) :
    Decidable (ComparesAt cmp xs i answer) :=
  match found : xs[i]? with
  | some x => decidable_of_iff (cmp x = answer) (by simp [ComparesAt, found])
  | none => .isFalse (by simp [ComparesAt, found])

/-- The halving loop: the part of the list still searched has `size` elements
    from `base` on. -/
def searchBase (cmp : α → Ordering) (xs : List α) (size base : Nat) : Nat :=
  if _more : 1 < size then
    let half := size / 2
    let mid := base + half
    searchBase cmp xs (size - half) (if ComparesAt cmp xs mid .gt then base else mid)
  else base
termination_by size
decreasing_by omega

/-- `xs.binary_search_by(cmp)`: `Ok` of an index that compares equal, or `Err` of
    the index to insert at. -/
def binary_search_by (cmp : α → Ordering) (xs : List α) : Except Nat Nat :=
  if xs.length = 0 then .error 0
  else
    let base := searchBase cmp xs xs.length 0
    if ComparesAt cmp xs base .eq then .ok base
    else .error (base + if ComparesAt cmp xs base .lt then 1 else 0)

/-- The comparison sorts the list: smaller elements come first and larger ones
    last. -/
structure SortedBy (cmp : α → Ordering) (xs : List α) : Prop where
  gt_after : ∀ i j, i ≤ j → j < xs.length → ComparesAt cmp xs i .gt → ComparesAt cmp xs j .gt
  lt_before : ∀ i j, i ≤ j → ComparesAt cmp xs j .lt → ComparesAt cmp xs i .lt

theorem ComparesAt.inside {cmp : α → Ordering} {xs : List α} {i : Nat} {answer : Ordering}
    (at_i : ComparesAt cmp xs i answer) : i < xs.length := by
  obtain ⟨x, found, _⟩ := at_i
  exact (List.getElem?_eq_some_iff.mp found).1

theorem ComparesAt.unique {cmp : α → Ordering} {xs : List α} {i : Nat} {a b : Ordering}
    (first : ComparesAt cmp xs i a) (second : ComparesAt cmp xs i b) : a = b := by
  obtain ⟨x, foundX, rfl⟩ := first
  obtain ⟨y, foundY, rfl⟩ := second
  rw [foundX] at foundY
  cases foundY
  rfl

theorem comparesAt_cases (cmp : α → Ordering) {xs : List α} {i : Nat} (inside : i < xs.length) :
    ComparesAt cmp xs i .lt ∨ ComparesAt cmp xs i .eq ∨ ComparesAt cmp xs i .gt := by
  have found := List.getElem?_eq_getElem inside
  cases answer : cmp xs[i] with
  | lt => exact .inl ⟨_, found, answer⟩
  | eq => exact .inr (.inl ⟨_, found, answer⟩)
  | gt => exact .inr (.inr ⟨_, found, answer⟩)

theorem searchBase_keeps {cmp : α → Ordering} {xs : List α} (sorted : SortedBy cmp xs) (size base : Nat)
    (positive : 0 < size) (inside : base + size ≤ xs.length)
    (present : ∃ i, base ≤ i ∧ i < base + size ∧ ComparesAt cmp xs i .eq) :
    ComparesAt cmp xs (searchBase cmp xs size base) .eq := by
  rw [searchBase]
  obtain ⟨i, low, high, equal⟩ := present
  split
  · rename_i more
    dsimp only
    have midInside : base + size / 2 < xs.length := by omega
    rcases comparesAt_cases cmp midInside with less | same | greater
    · -- Everything up to the middle is smaller, so the equal element is after it.
      have notGt : ¬ ComparesAt cmp xs (base + size / 2) .gt := fun gt => by cases less.unique gt
      have later : base + size / 2 < i := by
        by_contra early
        cases (sorted.lt_before i _ (by omega) less).unique equal
      rw [if_neg notGt]
      exact searchBase_keeps sorted _ _ (by omega) (by omega) ⟨i, by omega, by omega, equal⟩
    · have notGt : ¬ ComparesAt cmp xs (base + size / 2) .gt := fun gt => by cases same.unique gt
      rw [if_neg notGt]
      exact searchBase_keeps sorted _ _ (by omega) (by omega) ⟨_, Nat.le_refl _, by omega, same⟩
    · have earlier : i < base + size / 2 := by
        by_contra late
        cases (sorted.gt_after _ i (by omega) (by omega) greater).unique equal
      rw [if_pos greater]
      exact searchBase_keeps sorted _ _ (by omega) (by omega) ⟨i, low, by omega, equal⟩
  · have : i = base := by omega
    exact this ▸ equal
termination_by size
decreasing_by all_goals omega

theorem binary_search_by_sound {cmp : α → Ordering} {xs : List α} {i : Nat}
    (found : binary_search_by cmp xs = .ok i) : ComparesAt cmp xs i .eq := by
  unfold binary_search_by at found
  split at found
  · cases found
  · dsimp only at found
    split at found
    · rename_i equal
      cases found
      exact equal
    · cases found

/-- On a sorted list the search finds an equal element when there is one. -/
theorem binary_search_by_complete {cmp : α → Ordering} {xs : List α} (sorted : SortedBy cmp xs)
    (present : ∃ i, ComparesAt cmp xs i .eq) : ∃ i, binary_search_by cmp xs = .ok i := by
  obtain ⟨i, equal⟩ := present
  have inside := equal.inside
  have kept := searchBase_keeps sorted xs.length 0 (by omega) (by omega) ⟨i, by omega, by omega, equal⟩
  refine ⟨searchBase cmp xs xs.length 0, ?_⟩
  rw [binary_search_by, if_neg (by omega)]
  exact if_pos kept

end Rust.BinarySearch
