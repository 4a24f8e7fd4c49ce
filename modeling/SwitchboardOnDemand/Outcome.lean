import Mathlib.Tactic.Common

/-!
# Outcomes of Rust calls

A call ends in a value, in an error handed back through `Result`, in a panic,
or in undefined behaviour. `Exec` keeps the four apart and runs them in
sequence; `Returns` says that a call comes back to its caller at all.
-/

namespace Rust

/-- How a call ends. `fault` is a read through a raw pointer outside its
    allocation or at an address that does not suit its type; a debug build aborts
    on the latter. A function that returns no `Result` is written for every `ε`. -/
inductive Exec (ε α : Type) where
  | ok (value : α)
  | err (error : ε)
  | panic (message : String)
  | fault
  deriving Repr, DecidableEq

namespace Exec

variable {ε α β γ : Type}

def bind : Exec ε α → (α → Exec ε β) → Exec ε β
  | .ok value, next => next value
  | .err error, _ => .err error
  | .panic message, _ => .panic message
  | .fault, _ => .fault

instance : Monad (Exec ε) where
  pure := .ok
  bind := bind

@[simp] theorem pure_eq (value : α) : (pure value : Exec ε α) = .ok value := rfl
@[simp] theorem ok_bind (value : α) (next : α → Exec ε β) : (Exec.ok value >>= next) = next value := rfl
@[simp] theorem err_bind (error : ε) (next : α → Exec ε β) : (Exec.err error >>= next) = .err error := rfl
@[simp] theorem panic_bind (message : String) (next : α → Exec ε β) :
    (Exec.panic message >>= next) = .panic message := rfl
@[simp] theorem fault_bind (next : α → Exec ε β) : ((Exec.fault : Exec ε α) >>= next) = .fault := rfl

instance : LawfulMonad (Exec ε) := LawfulMonad.mk' _
  (fun x => by cases x <;> rfl)
  (fun _ _ => rfl)
  (fun x _ _ => by cases x <;> rfl)

@[simp] theorem map_ok (f : α → β) (value : α) : f <$> (Exec.ok value : Exec ε α) = .ok (f value) := rfl
@[simp] theorem map_fault (f : α → β) : f <$> (Exec.fault : Exec ε α) = .fault := rfl

theorem bind_eq_ok {x : Exec ε α} {next : α → Exec ε β} {b : β} :
    (x >>= next) = .ok b ↔ ∃ a, x = .ok a ∧ next a = .ok b := by
  cases x with
  | ok value => simp
  | err error => simp
  | panic message => simp
  | fault => simp

theorem map_eq_ok {x : Exec ε α} {f : α → β} {b : β} :
    f <$> x = .ok b ↔ ∃ a, x = .ok a ∧ f a = b := by
  rw [map_eq_pure_bind, bind_eq_ok]
  simp

theorem map_eq_err {x : Exec ε α} {f : α → β} {error : ε} : f <$> x = .err error ↔ x = .err error := by
  cases x with
  | ok value => simp
  | err error => simp [map_eq_pure_bind]
  | panic message => simp [map_eq_pure_bind]
  | fault => simp

/-- What follows two calls with the same image is the same when it depends on the
    image only. -/
theorem bind_congr_map {x y : Exec ε α} {f : α → γ} {next : α → Exec ε β} (same : f <$> x = f <$> y)
    (respects : ∀ a b, f a = f b → next a = next b) : (x >>= next) = (y >>= next) := by
  cases x with
  | ok a =>
    obtain ⟨b, run, image⟩ := map_eq_ok.mp same.symm
    rw [run, ok_bind, ok_bind, respects a b image.symm]
  | err error => rw [map_eq_err.mp (same.symm.trans (map_eq_err.mpr rfl))]
  | panic message =>
    cases y with
    | panic other => cases same; rfl
    | _ => cases same
  | fault =>
    cases y with
    | fault => rfl
    | _ => cases same

/-! ## Checks -/

/-- `if rejected { bail!(error) }`. -/
def bailIf (rejected : Prop) [Decidable rejected] (error : ε) : Exec ε Unit :=
  if rejected then .err error else .ok ()

/-- `assert!(holds, message)`. -/
def assert (holds : Prop) [Decidable holds] (message : String) : Exec ε Unit :=
  if holds then .ok () else .panic message

/-- `option.ok_or_else(|| error)?`. -/
def okOr (error : ε) : Option α → Exec ε α
  | some value => .ok value
  | none => .err error

/-- A `Result` that is handed on (`result?`). -/
def ofResult : Except ε α → Exec ε α
  | .ok value => .ok value
  | .error error => .err error

/-- The `Result` of a call as a value, for a caller that looks at it. -/
def result {δ : Type} : Exec ε α → Exec δ (Except ε α)
  | .ok value => .ok (.ok value)
  | .err error => .ok (.error error)
  | .panic message => .panic message
  | .fault => .fault

@[simp] theorem bailIf_eq_ok {rejected : Prop} [Decidable rejected] {error : ε} {u : Unit} :
    bailIf rejected error = .ok u ↔ ¬ rejected := by
  unfold bailIf; split <;> simp [*]

theorem bailIf_true {rejected : Prop} [Decidable rejected] (error : ε) (holds : rejected) :
    bailIf rejected error = .err error := if_pos holds

theorem bailIf_false {rejected : Prop} [Decidable rejected] (error : ε) (fails : ¬ rejected) :
    bailIf rejected error = .ok () := if_neg fails

@[simp] theorem assert_eq_ok {holds : Prop} [Decidable holds] {message : String} {u : Unit} :
    (assert holds message : Exec ε Unit) = .ok u ↔ holds := by
  unfold assert; split <;> simp [*]

theorem assert_true {holds : Prop} [Decidable holds] (message : String) (h : holds) :
    (assert holds message : Exec ε Unit) = .ok () := if_pos h

theorem assert_false {holds : Prop} [Decidable holds] (message : String) (h : ¬ holds) :
    (assert holds message : Exec ε Unit) = .panic message := if_neg h

@[simp] theorem okOr_eq_ok {error : ε} {option : Option α} {value : α} :
    okOr error option = .ok value ↔ option = some value := by
  cases option <;> simp [okOr]

@[simp] theorem ofResult_eq_ok {outcome : Except ε α} {value : α} :
    ofResult outcome = .ok value ↔ outcome = .ok value := by
  cases outcome <;> simp [ofResult]

/-- Of two calls in a row the second gives the value. -/
theorem result_bind_eq_ok {first : Except ε α} {next : α → Except ε β} {value : β} :
    first >>= next = .ok value ↔ ∃ a, first = .ok a ∧ next a = .ok value := by
  cases first with
  | error error =>
    constructor
    · intro done
      cases done
    · rintro ⟨a, done, _⟩
      cases done
  | ok a =>
    constructor
    · exact fun done => ⟨a, rfl, done⟩
    · rintro ⟨_, ⟨⟩, done⟩
      exact done

@[simp] theorem result_ok {δ : Type} (value : α) :
    ((Exec.ok value : Exec ε α).result : Exec δ _) = .ok (.ok value) := rfl
@[simp] theorem result_err {δ : Type} (error : ε) :
    ((Exec.err error : Exec ε α).result : Exec δ _) = .ok (.error error) := rfl

/-! ## Calls that come back -/

/-- The call comes back to its caller, with a value or with an error. -/
def Returns : Exec ε α → Prop
  | .ok _ => True
  | .err _ => True
  | .panic _ => False
  | .fault => False

@[simp] theorem returns_ok (value : α) : (Exec.ok value : Exec ε α).Returns := trivial
@[simp] theorem returns_err (error : ε) : (Exec.err error : Exec ε α).Returns := trivial
@[simp] theorem not_returns_panic (message : String) : ¬ (Exec.panic message : Exec ε α).Returns := id
@[simp] theorem not_returns_fault : ¬ (Exec.fault : Exec ε α).Returns := id

theorem returns_iff {x : Exec ε α} : x.Returns ↔ (∃ a, x = .ok a) ∨ ∃ e, x = .err e := by
  cases x <;> simp

/-- A sequence comes back exactly when its first call does and, after a value,
    its second one too. -/
theorem returns_bind {x : Exec ε α} {next : α → Exec ε β} :
    (x >>= next).Returns ↔ x.Returns ∧ ∀ a, x = .ok a → (next a).Returns := by
  cases x with
  | ok value => simp
  | err error => simp
  | panic message => simp
  | fault => simp

@[simp] theorem returns_bailIf {rejected : Prop} [Decidable rejected] {error : ε} :
    (bailIf rejected error).Returns := by
  unfold bailIf; split <;> trivial

@[simp] theorem returns_assert {holds : Prop} [Decidable holds] {message : String} :
    (assert holds message : Exec ε Unit).Returns ↔ holds := by
  unfold assert; split <;> simp [*]

@[simp] theorem returns_ofResult {outcome : Except ε α} : (ofResult outcome).Returns := by
  cases outcome <;> trivial

@[simp] theorem returns_okOr {error : ε} {option : Option α} : (okOr error option).Returns := by
  cases option <;> trivial

/-! ## One call after another -/

/-- Calls for the elements of a list give the list of their values. -/
theorem mapM_eq_ok {f : α → Exec ε β} {inputs : List α} {values : List β} :
    inputs.mapM f = .ok values ↔ List.Forall₂ (fun input value => f input = .ok value) inputs values := by
  induction inputs generalizing values with
  | nil =>
    constructor
    · rintro ⟨⟩
      exact .nil
    · rintro ⟨⟩
      rfl
  | cons input rest ih =>
    rw [List.mapM_cons, bind_eq_ok]
    constructor
    · rintro ⟨value, first, others⟩
      obtain ⟨restValues, all, ends⟩ := bind_eq_ok.mp others
      obtain rfl := ok.inj ends
      exact .cons first (ih.mp all)
    · rintro (_ | ⟨first, others⟩)
      exact ⟨_, first, bind_eq_ok.mpr ⟨_, ih.mpr others, rfl⟩⟩

theorem returns_mapM {f : α → Exec ε β} {inputs : List α} (each : ∀ input ∈ inputs, (f input).Returns) :
    (inputs.mapM f).Returns := by
  induction inputs with
  | nil => trivial
  | cons input rest ih =>
    rw [List.mapM_cons, returns_bind]
    refine ⟨each input List.mem_cons_self, fun value _ => ?_⟩
    rw [returns_bind]
    exact ⟨ih fun other member => each other (List.mem_cons_of_mem _ member), fun values _ => trivial⟩

end Exec

/-! ## Unsigned subtraction -/

/-- Whether the build checks integer overflow: a debug build and most on-chain
    builds do, a plain release build does not. -/
inductive OverflowChecks where
  | on
  | off
  deriving Repr, DecidableEq

/-- `a - b` on `u64`: an underflow panics, or wraps when overflow is not checked. -/
def u64_sub {ε : Type} (checks : OverflowChecks) (a b : UInt64) : Exec ε UInt64 :=
  match checks with
  | .on => if b ≤ a then .ok (a - b) else .panic "attempt to subtract with overflow"
  | .off => .ok (a - b)

theorem u64_sub_of_le {ε : Type} (checks : OverflowChecks) {a b : UInt64} (le : b ≤ a) :
    (u64_sub checks a b : Exec ε UInt64) = .ok (a - b) := by
  cases checks with
  | on => exact if_pos le
  | off => rfl

theorem u64_sub_on_of_lt {ε : Type} {a b : UInt64} (lt : a < b) :
    (u64_sub .on a b : Exec ε UInt64) = .panic "attempt to subtract with overflow" :=
  if_neg (UInt64.not_le.mpr lt)

end Rust
