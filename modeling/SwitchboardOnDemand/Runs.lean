import Mathlib.Tactic.Common

/-!
# Runs of a state machine

A machine takes a state and an input to the next state. `Along` says that a
property of state and input holds at every step of a run; it is what a proof by
induction on the inputs works with, and `along_iff` reads it off the states that
the prefixes of the run reach.
-/

namespace Runs

variable {State Input : Type} (step : State → Input → State)

def run (s : State) (inputs : List Input) : State := inputs.foldl step s

/-- A property holds at every step of the run. -/
def Along (property : State → Input → Prop) : State → List Input → Prop
  | _, [] => True
  | s, input :: rest => property s input ∧ Along property (step s input) rest

variable {step}

theorem run_take_succ (s : State) {inputs : List Input} {k : Nat} (inside : k < inputs.length) :
    run step s (inputs.take (k + 1)) = step (run step s (inputs.take k)) inputs[k] := by
  rw [run, List.take_succ_eq_append_getElem inside, List.foldl_append]
  rfl

/-- What every step keeps holds at the end of every run. -/
theorem run_invariant {invariant : State → Prop} (kept : ∀ s input, invariant s → invariant (step s input)) {s : State}
    (start : invariant s) (inputs : List Input) : invariant (run step s inputs) := by
  induction inputs generalizing s with
  | nil => exact start
  | cons input rest ih => exact ih (kept s input start)

/-- A property holds along a run exactly when it holds of every input in the
    state that the inputs before it reach. -/
theorem along_iff {property : State → Input → Prop} (s : State) (inputs : List Input) :
    Along step property s inputs ↔
      ∀ k, (inside : k < inputs.length) → property (run step s (inputs.take k)) inputs[k] := by
  induction inputs generalizing s with
  | nil => simp [Along]
  | cons input rest ih =>
    rw [Along, ih]
    constructor
    · rintro ⟨first, later⟩ k inside
      cases k with
      | zero => exact first
      | succ k => exact later k (by simpa using inside)
    · intro all
      exact ⟨all 0 (by simp), fun k inside => all (k + 1) (by simpa using inside)⟩

/-- Two properties that agree at every step hold along the same runs. -/
theorem along_congr {first second : State → Input → Prop} (agree : ∀ s input, first s input ↔ second s input)
    (s : State) (inputs : List Input) : Along step first s inputs ↔ Along step second s inputs := by
  induction inputs generalizing s with
  | nil => exact Iff.rfl
  | cons input rest ih => exact and_congr (agree s input) (ih (step s input))

/-- What every state of an invariant gives holds along every run from it, where
    the inputs of the run keep the invariant. -/
theorem along_of_invariant {invariant : State → Prop} {allowed : Input → Prop} {property : State → Input → Prop}
    (kept : ∀ s input, allowed input → invariant s → invariant (step s input))
    (given : ∀ s input, allowed input → invariant s → property s input) {s : State} (start : invariant s)
    {inputs : List Input} (all : ∀ input ∈ inputs, allowed input) : Along step property s inputs := by
  induction inputs generalizing s with
  | nil => trivial
  | cons input rest ih =>
    have first := all input List.mem_cons_self
    exact ⟨given s input first start,
      ih (kept s input first start) fun other member => all other (List.mem_cons_of_mem _ member)⟩

theorem Along.left {first second : State → Input → Prop} {s : State} {inputs : List Input}
    (both : Along step (fun s input => first s input ∧ second s input) s inputs) : Along step first s inputs := by
  induction inputs generalizing s with
  | nil => trivial
  | cons input rest ih => exact ⟨both.1.1, ih both.2⟩

/-- Where an input that is not taken leaves the state, the end of a run is its
    start or what the last input that is taken makes of the state before it. -/
theorem run_last {taken : State → Input → Prop} (quiet : ∀ s input, ¬ taken s input → step s input = s) (s : State)
    (inputs : List Input) :
    ((∀ k, (inside : k < inputs.length) → ¬ taken (run step s (inputs.take k)) inputs[k]) ∧ run step s inputs = s) ∨
      ∃ i, ∃ inside : i < inputs.length, taken (run step s (inputs.take i)) inputs[i] ∧
        (∀ j, i < j → (later : j < inputs.length) → ¬ taken (run step s (inputs.take j)) inputs[j]) ∧
        run step s inputs = step (run step s (inputs.take i)) inputs[i] := by
  induction inputs generalizing s with
  | nil => exact .inl ⟨fun k inside => absurd inside (Nat.not_lt_zero k), rfl⟩
  | cons input rest ih =>
    rcases ih (step s input) with ⟨none, stays⟩ | ⟨i, inside, isTaken, last, ends⟩
    · have quietLater : ∀ j, 0 < j → (later : j < (input :: rest).length) →
          ¬ taken (run step s ((input :: rest).take j)) (input :: rest)[j] := by
        intro j positive later
        cases j with
        | zero => exact absurd positive (Nat.lt_irrefl 0)
        | succ j => exact none j (by simpa using later)
      by_cases first : taken s input
      · exact .inr ⟨0, Nat.zero_lt_succ _, first, quietLater, stays⟩
      · refine .inl ⟨fun k later => ?_, stays.trans (quiet s input first)⟩
        rcases Nat.eq_zero_or_pos k with rfl | positive
        · exact first
        · exact quietLater k positive later
    · refine .inr ⟨i + 1, Nat.succ_lt_succ inside, isTaken, ?_, ends⟩
      intro j after later
      cases j with
      | zero => exact absurd after (Nat.not_lt_zero _)
      | succ j => exact last j (Nat.lt_of_succ_lt_succ after) (by simpa using later)

/-- A reflexive and transitive relation that every step goes along relates the
    states of a run in their order. -/
theorem Along.related {related : State → State → Prop} (refl : ∀ s, related s s)
    (trans : ∀ a b c, related a b → related b c → related a c) {s : State} {inputs : List Input}
    (steps : Along step (fun s input => related s (step s input)) s inputs) {i j : Nat} (le : i ≤ j) :
    related (run step s (inputs.take i)) (run step s (inputs.take j)) := by
  induction inputs generalizing s i j with
  | nil => simpa [run] using refl s
  | cons input rest ih =>
    cases j with
    | zero => rw [Nat.le_zero.mp le]; exact refl _
    | succ j =>
      cases i with
      | zero => exact trans _ _ _ steps.1 (ih steps.2 (Nat.zero_le j))
      | succ i => exact ih steps.2 (Nat.le_of_succ_le_succ le)

/-! ### What a run leaves -/

section
variable {Value : Type}

/-- A list that every input adds to at its end. -/
theorem run_appends {get : State → List Value} {given : Input → List Value}
    (adds : ∀ s input, get (step s input) = get s ++ given input) (s : State) (inputs : List Input) :
    get (run step s inputs) = get s ++ inputs.flatMap given := by
  induction inputs generalizing s with
  | nil => simp [run]
  | cons input rest ih => rw [run, List.foldl_cons, ← run, ih, adds, List.flatMap_cons, List.append_assoc]

/-- A value that an input may replace: the last one stays. -/
theorem run_replaces {get : State → Option Value} {given : Input → Option Value}
    (replaces : ∀ s input, get (step s input) = (given input).or (get s)) (s : State) (inputs : List Input) :
    get (run step s inputs) = (inputs.filterMap given).getLast?.or (get s) := by
  induction inputs generalizing s with
  | nil => rfl
  | cons input rest ih =>
    rw [run, List.foldl_cons, ← run, ih, replaces]
    cases here : given input with
    | none => rw [List.filterMap_cons_none here, Option.none_or]
    | some value =>
      rw [List.filterMap_cons_some here, List.getLast?_cons]
      cases (rest.filterMap given).getLast? <;> rfl

/-- A value that an input may set where there is none: the first one stays. -/
theorem run_keeps {get : State → Option Value} {given : Input → Option Value}
    (keeps : ∀ s input, get (step s input) = (get s).or (given input)) (s : State) (inputs : List Input) :
    get (run step s inputs) = (get s).or (inputs.findSome? given) := by
  induction inputs generalizing s with
  | nil => exact (Option.or_none).symm
  | cons input rest ih =>
    rw [run, List.foldl_cons, ← run, ih, keeps, List.findSome?_cons]
    cases get s <;> cases given input <;> rfl

end

/-! ### Inputs in another order -/

section
variable {Kind : Type} {kind : Input → Kind}

/-- An input can be moved past inputs of other kinds. -/
theorem run_move (commute : ∀ s a b, kind a ≠ kind b → step (step s a) b = step (step s b) a) (s : State) (a : Input)
    {others : List Input} (differ : ∀ b ∈ others, kind b ≠ kind a) :
    step (run step s others) a = run step (step s a) others := by
  induction others generalizing s with
  | nil => rfl
  | cons b rest ih =>
    have first := differ b List.mem_cons_self
    rw [run, List.foldl_cons, ← run, ih (step s b) fun c member => differ c (List.mem_cons_of_mem b member),
      commute s b a first]
    rfl

/-- Where inputs of different kinds commute, a run depends only on the inputs of
    each kind in their order. -/
theorem run_eq_of_projections [DecidableEq Kind]
    (commute : ∀ s a b, kind a ≠ kind b → step (step s a) b = step (step s b) a) (s : State) {first second : List Input}
    (same : ∀ k, first.filter (fun a => kind a = k) = second.filter (fun a => kind a = k)) :
    run step s first = run step s second := by
  induction first generalizing s second with
  | nil =>
    cases second with
    | nil => rfl
    | cons b rest => simpa using same (kind b)
  | cons a rest ih =>
    have own := same (kind a)
    rw [List.filter_cons_of_pos (by simp)] at own
    obtain ⟨before, after, rfl, differ, _, behind⟩ := List.filter_eq_cons_iff.mp own.symm
    simp only [decide_eq_true_eq] at differ
    have rests : ∀ k, rest.filter (fun b => kind b = k) = (before ++ after).filter (fun b => kind b = k) := by
      intro k
      by_cases here : kind a = k
      · have none : before.filter (fun b => kind b = k) = [] := by simpa [here] using differ
        rw [List.filter_append, none, List.nil_append, ← here, ← behind]
      · simpa [here] using same k
    calc run step s (a :: rest) = run step (step s a) rest := rfl
      _ = run step (step s a) (before ++ after) := ih (step s a) rests
      _ = run step (run step (step s a) before) after := List.foldl_append
      _ = run step (step (run step s before) a) after := by rw [run_move commute s a differ]
      _ = run step s (before ++ a :: after) := by rw [run, run, run, List.foldl_append, List.foldl_cons]

end

end Runs
