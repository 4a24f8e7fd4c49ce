import SwitchboardOnDemand.Memory

/-!
Keys and accounts, and the two comparisons of 32 bytes as four `u64` words:
`check_pubkey_eq` on keys and `check_p64_eq` on raw pointers. Both decide byte
equality (`check_pubkey_eq_iff`, `check_p64_eq_true_iff`); the second one reads
word after word and stops at the first difference.
-/

namespace SwitchboardOnDemand.Utils
open Rust

abbrev Pubkey := FixedBytes 32

/-- The parts of a Solana account that the crate reads. -/
structure AccountInfo where
  key : Pubkey
  data : Bytes
  deriving Repr, DecidableEq

/-- The `AnyError` of `anyhow`: its message. -/
abbrev AnyError := String

variable {ε : Type}

/-- One word of `check_p64_eq`: `read_unaligned(lhs_ptr.add(word)) ==
    read_unaligned(rhs_ptr.add(word))`. -/
def p64_eq_at (lhs_ptr rhs_ptr : Ptr) (word : Nat) : Exec ε Bool := do
  let lhs ← (lhs_ptr.add (8 * word)).read_u64
  let rhs ← (rhs_ptr.add (8 * word)).read_u64
  pure (lhs == rhs)

/-- `&&` on calls: the second one runs only after `true`. -/
def andThen (first second : Exec ε Bool) : Exec ε Bool := do
  match ← first with
  | true => second
  | false => pure false

/-- Compares 32 bytes behind two pointers. -/
def check_p64_eq (lhs_ptr rhs_ptr : Ptr) : Exec ε Bool :=
  andThen (p64_eq_at lhs_ptr rhs_ptr 0) <| andThen (p64_eq_at lhs_ptr rhs_ptr 1) <|
    andThen (p64_eq_at lhs_ptr rhs_ptr 2) (p64_eq_at lhs_ptr rhs_ptr 3)

/-- Compares two keys, whose 32 bytes are always readable. -/
def check_pubkey_eq (lhs rhs : Pubkey) : Bool :=
  leU64 (window lhs.val 0 8) == leU64 (window rhs.val 0 8) &&
    leU64 (window lhs.val 8 8) == leU64 (window rhs.val 8 8) &&
    leU64 (window lhs.val 16 8) == leU64 (window rhs.val 16 8) &&
    leU64 (window lhs.val 24 8) == leU64 (window rhs.val 24 8)

/-! ### Four words are 32 bytes -/

private theorem word_eq_iff {a b : Bytes} {start : Nat} (insideA : start + 8 ≤ a.length)
    (insideB : start + 8 ≤ b.length) :
    leU64 (window a start 8) = leU64 (window b start 8) ↔ window a start 8 = window b start 8 :=
  ⟨leU64_injective (length_window_of_le insideA) (length_window_of_le insideB), congrArg leU64⟩

private theorem four_words_iff {a b : Bytes} (insideA : 32 ≤ a.length) (insideB : 32 ≤ b.length) :
    (window a 0 8 = window b 0 8 ∧ window a 8 8 = window b 8 8 ∧ window a 16 8 = window b 16 8 ∧
      window a 24 8 = window b 24 8) ↔ window a 0 32 = window b 0 32 := by
  have split : ∀ c : Bytes, window c 0 32 = window c 0 8 ++ window c 8 8 ++ window c 16 8 ++ window c 24 8 := by
    intro c
    rw [window_add c 0 24 8, window_add c 0 16 8, window_add c 0 8 8]
  have width : ∀ {c : Bytes} {start : Nat}, 32 ≤ c.length → start ≤ 24 → (window c start 8).length = 8 :=
    fun long low => length_window_of_le (by omega)
  constructor
  · rintro ⟨w0, w1, w2, w3⟩
    rw [split, split, w0, w1, w2, w3]
  · intro same
    rw [split, split] at same
    obtain ⟨same, w3⟩ := List.append_inj same
      (by simp only [List.length_append]; rw [width, width, width, width, width, width] <;> omega)
    obtain ⟨same, w2⟩ := List.append_inj same
      (by simp only [List.length_append]; rw [width, width, width, width] <;> omega)
    obtain ⟨w0, w1⟩ := List.append_inj same (by rw [width, width] <;> omega)
    exact ⟨w0, w1, w2, w3⟩

theorem check_pubkey_eq_iff (lhs rhs : Pubkey) : check_pubkey_eq lhs rhs = true ↔ lhs = rhs := by
  have l := lhs.property
  have r := rhs.property
  have whole : ∀ k : Pubkey, window k.val 0 32 = k.val := fun k => window_full k.property
  simp only [check_pubkey_eq, Bool.and_eq_true, beq_iff_eq]
  rw [word_eq_iff (by omega) (by omega), word_eq_iff (by omega) (by omega), word_eq_iff (by omega) (by omega),
    word_eq_iff (by omega) (by omega), and_assoc, and_assoc, four_words_iff (by omega) (by omega), whole, whole,
    Subtype.ext_iff]

/-! ### The comparison behind pointers -/

private theorem p64_eq_at_true_iff (lhs_ptr rhs_ptr : Ptr) (word : Nat) :
    (p64_eq_at lhs_ptr rhs_ptr word : Exec ε Bool) = .ok true ↔
      8 * word + 8 ≤ lhs_ptr.rest.length ∧ 8 * word + 8 ≤ rhs_ptr.rest.length ∧
        window lhs_ptr.rest (8 * word) 8 = window rhs_ptr.rest (8 * word) 8 := by
  by_cases l : 8 * word + 8 ≤ lhs_ptr.rest.length
  · by_cases r : 8 * word + 8 ≤ rhs_ptr.rest.length
    · simp [p64_eq_at, Ptr.read_u64_add l, Ptr.read_u64_add r, l, r, word_eq_iff l r]
    · simp [p64_eq_at, Ptr.read_u64_add l, Ptr.read_u64_add_outside r, r]
  · simp [p64_eq_at, Ptr.read_u64_add_outside l, l]

private theorem andThen_true_iff (first second : Exec ε Bool) :
    andThen first second = .ok true ↔ first = .ok true ∧ second = .ok true := by
  cases first with
  | ok value => cases value <;> simp [andThen]
  | err error => simp [andThen]
  | panic message => simp [andThen]
  | fault => simp [andThen]

/-- Both pointers have 32 readable bytes and these are the same. -/
def Same32 (lhs_ptr rhs_ptr : Ptr) : Prop :=
  32 ≤ lhs_ptr.rest.length ∧ 32 ≤ rhs_ptr.rest.length ∧ window lhs_ptr.rest 0 32 = window rhs_ptr.rest 0 32

theorem check_p64_eq_true_iff (lhs_ptr rhs_ptr : Ptr) :
    (check_p64_eq lhs_ptr rhs_ptr : Exec ε Bool) = .ok true ↔ Same32 lhs_ptr rhs_ptr := by
  simp only [check_p64_eq, andThen_true_iff, p64_eq_at_true_iff]
  constructor
  · rintro ⟨⟨_, _, w0⟩, ⟨_, _, w1⟩, ⟨_, _, w2⟩, l, r, w3⟩
    exact ⟨by omega, by omega, (four_words_iff (by omega) (by omega)).mp ⟨w0, w1, w2, w3⟩⟩
  · rintro ⟨l, r, same⟩
    obtain ⟨w0, w1, w2, w3⟩ := (four_words_iff l r).mpr same
    exact ⟨⟨by omega, by omega, w0⟩, ⟨by omega, by omega, w1⟩, ⟨by omega, by omega, w2⟩, by omega, by omega, w3⟩

theorem check_p64_eq_ne_err (lhs_ptr rhs_ptr : Ptr) (error : ε) :
    (check_p64_eq lhs_ptr rhs_ptr : Exec ε Bool) ≠ .err error := by
  have one : ∀ word, (p64_eq_at lhs_ptr rhs_ptr word : Exec ε Bool) ≠ .err error := by
    intro word h
    simp only [p64_eq_at, Ptr.read_u64, Ptr.read] at h
    split at h <;> split at h <;> simp at h
  have both : ∀ first second : Exec ε Bool, first ≠ .err error → second ≠ .err error →
      andThen first second ≠ .err error := by
    intro first second nf ns
    rcases first with value | e | m | _
    · cases value <;> simp [andThen, ns]
    · simpa [andThen] using nf
    · simp [andThen]
    · simp [andThen]
  exact both _ _ (one 0) (both _ _ (one 1) (both _ _ (one 2) (one 3)))

/-- `assert!(check_p64_eq(lhs_ptr, rhs_ptr))`. -/
def assert_p64_eq (lhs_ptr rhs_ptr : Ptr) (message : String) : Exec ε Unit := do
  let same ← check_p64_eq lhs_ptr rhs_ptr
  Exec.assert same message

theorem assert_p64_eq_ok_iff (lhs_ptr rhs_ptr : Ptr) (message : String) {u : Unit} :
    (assert_p64_eq lhs_ptr rhs_ptr message : Exec ε Unit) = .ok u ↔ Same32 lhs_ptr rhs_ptr := by
  rw [assert_p64_eq, Exec.bind_eq_ok]
  constructor
  · rintro ⟨same, done, holds⟩
    rw [Exec.assert_eq_ok.mp holds] at done
    exact (check_p64_eq_true_iff lhs_ptr rhs_ptr).mp done
  · intro same
    exact ⟨true, (check_p64_eq_true_iff lhs_ptr rhs_ptr).mpr same, Exec.assert_eq_ok.mpr rfl⟩

theorem assert_p64_eq_returns_iff (lhs_ptr rhs_ptr : Ptr) (message : String) :
    (assert_p64_eq lhs_ptr rhs_ptr message : Exec ε Unit).Returns ↔ Same32 lhs_ptr rhs_ptr := by
  have decides : (check_p64_eq lhs_ptr rhs_ptr : Exec ε Bool) = .ok true ↔ _ := check_p64_eq_true_iff lhs_ptr rhs_ptr
  have noErr : ∀ error : ε, (check_p64_eq lhs_ptr rhs_ptr : Exec ε Bool) ≠ .err error :=
    check_p64_eq_ne_err lhs_ptr rhs_ptr
  rw [← decides, assert_p64_eq]
  cases result : (check_p64_eq lhs_ptr rhs_ptr : Exec ε Bool) with
  | ok same => simp
  | err error => exact absurd result (noErr error)
  | panic text => simp
  | fault => simp

end SwitchboardOnDemand.Utils
