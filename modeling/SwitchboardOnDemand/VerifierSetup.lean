import SwitchboardOnDemand.Runs
import SwitchboardOnDemand.Verifier

/-!
# Setting up a verifier

A verifier starts empty and is configured by setters, which can be called in any
order and again between two verifications. It holds the last value of each
(`configured_eq`), and accepts nothing before the queue, the slot hashes and the
clock are set (`verify_configured_iff`). One datum is accepted, if at all, in one
window of clock slots, always with the same quote (`verdict_over_time`).
-/

namespace SwitchboardOnDemand.VerifierSetup
open Rust SwitchboardOnDemand.Utils SwitchboardOnDemand.Verifier SwitchboardOnDemand.Quote
open SwitchboardOnDemand.Ed25519Sysvar SwitchboardOnDemand.Queue SwitchboardOnDemand.SlotSearch

/-- `QuoteVerifier::new` and `default`. -/
def new : QuoteVerifier := ⟨none, none, none, none, 0⟩

/-- A call of a setter. -/
inductive Setter where
  | queue (account : AccountInfo)
  | slothash_sysvar (sysvar : AccountInfo)
  | ix_sysvar (sysvar : AccountInfo)
  | clock_slot (clock_slot : UInt64)
  | max_age (max_age : UInt64)

def set (self : QuoteVerifier) : Setter → QuoteVerifier
  | .queue account => { self with queue := some account }
  | .slothash_sysvar sysvar => { self with slothash_sysvar := some sysvar }
  | .ix_sysvar sysvar => { self with ix_sysvar := some sysvar }
  | .clock_slot clock_slot => { self with clock_slot := some clock_slot }
  | .max_age max_age => { self with max_age := max_age }

/-- A new verifier after some setters. -/
def configured (setters : List Setter) : QuoteVerifier := Runs.run set new setters

/-! ### The last value of each setter -/

def givenQueue : Setter → Option AccountInfo
  | .queue account => some account
  | _ => none

def givenSlothashSysvar : Setter → Option AccountInfo
  | .slothash_sysvar sysvar => some sysvar
  | _ => none

def givenIxSysvar : Setter → Option AccountInfo
  | .ix_sysvar sysvar => some sysvar
  | _ => none

def givenClockSlot : Setter → Option UInt64
  | .clock_slot clock_slot => some clock_slot
  | _ => none

def givenMaxAge : Setter → Option UInt64
  | .max_age max_age => some max_age
  | _ => none

/-- The value of the last setter of a kind. -/
def last {α : Type} (given : Setter → Option α) (setters : List Setter) : Option α := (setters.filterMap given).getLast?

section
variable (self : QuoteVerifier) (setter : Setter)

theorem set_queue : (set self setter).queue = (givenQueue setter).or self.queue := by cases setter <;> rfl

theorem set_slothash_sysvar :
    (set self setter).slothash_sysvar = (givenSlothashSysvar setter).or self.slothash_sysvar := by
  cases setter <;> rfl

theorem set_ix_sysvar : (set self setter).ix_sysvar = (givenIxSysvar setter).or self.ix_sysvar := by
  cases setter <;> rfl

theorem set_clock_slot : (set self setter).clock_slot = (givenClockSlot setter).or self.clock_slot := by
  cases setter <;> rfl

theorem set_max_age : some (set self setter).max_age = (givenMaxAge setter).or (some self.max_age) := by
  cases setter <;> rfl

end

theorem configured_max_age (setters : List Setter) :
    (configured setters).max_age = (last givenMaxAge setters).getD 0 := by
  have value := @Runs.run_replaces _ _ set _ (fun self => some self.max_age) _ set_max_age new setters
  rw [last]
  cases given : (setters.filterMap givenMaxAge).getLast? with
  | none => simpa [given, configured, new] using value
  | some max_age => simpa [given, configured] using value

/-- A verifier holds the last value of each setter; without one its age is zero. -/
theorem configured_eq (setters : List Setter) :
    configured setters = ⟨last givenQueue setters, last givenSlothashSysvar setters, last givenIxSysvar setters,
      last givenClockSlot setters, (last givenMaxAge setters).getD 0⟩ := by
  have queue := Runs.run_replaces set_queue new setters
  have slothash := Runs.run_replaces set_slothash_sysvar new setters
  have ix := Runs.run_replaces set_ix_sysvar new setters
  have clock := Runs.run_replaces set_clock_slot new setters
  have age := configured_max_age setters
  unfold configured at *
  generalize Runs.run set new setters = self at *
  cases self
  simp only [new, Option.or_none] at *
  rw [queue, slothash, ix, clock, age]
  rfl

/-! ### What is accepted -/

/-- After any setters `verify` gives a quote exactly when the last queue, slot
    hashes and clock are set and accept the data; the age is the last one or zero. -/
theorem verify_configured_iff (checks : OverflowChecks) (setters : List Setter) (data : SafeSlice) (quote : OracleQuote) :
    verify checks (configured setters) data.toSlice = .ok quote ↔
      quote = quoteOf data.toSlice ∧ Accepted data.toSlice ∧ ∃ account sysvar clock queue hash,
        last givenQueue setters = some account ∧ last givenSlothashSysvar setters = some sysvar ∧
        last givenClockSlot setters = some clock ∧ IsQueue account queue ∧
        recentSlot data.toSlice ≤ clock ∧ clock - recentSlot data.toSlice ≤ (last givenMaxAge setters).getD 0 ∧
        find_slothash_in_sysvar checks (recentSlot data.toSlice) sysvar = .ok hash ∧
        HeaderHolds data.toSlice hash ∧ KeysHold queue data.toSlice := by
  rw [verify_ok_iff, configured_eq]
  constructor
  · rintro ⟨⟨queue, sysvar, clock, hash, verifies⟩, rfl⟩
    obtain ⟨account, queueSet, isQueue⟩ := verifies.queueSet
    exact ⟨rfl, verifies.accepted, account, sysvar, clock, queue, hash, queueSet, verifies.sysvarSet, verifies.clockSet,
      isQueue, verifies.fresh.1, verifies.fresh.2, verifies.found, verifies.header, verifies.keys⟩
  · rintro ⟨rfl, accepted, account, sysvar, clock, queue, hash, queueSet, sysvarSet, clockSet, isQueue, notNew, notOld,
      found, header, keys⟩
    exact ⟨⟨queue, sysvar, clock, hash, accepted, ⟨account, queueSet, isQueue⟩, sysvarSet, clockSet, ⟨notNew, notOld⟩,
      found, header, keys⟩, rfl⟩

/-- A verifier that is set to a clock slot and an age before it is asked. -/
def at_slot (setters : List Setter) (clock max_age : UInt64) : QuoteVerifier :=
  configured (setters ++ [.clock_slot clock, .max_age max_age])

theorem last_append {α : Type} (given : Setter → Option α) (setters more : List Setter) :
    last given (setters ++ more) = (last given more).or (last given setters) := by
  rw [last, List.filterMap_append, List.getLast?_append]
  rfl

/-- What a datum needs besides the clock. -/
structure Timeless (checks : OverflowChecks) (setters : List Setter) (data : Slice) : Prop where
  accepted : Accepted data
  checked : ∃ account sysvar queue hash, last givenQueue setters = some account ∧
    last givenSlothashSysvar setters = some sysvar ∧ IsQueue account queue ∧
    find_slothash_in_sysvar checks (recentSlot data) sysvar = .ok hash ∧ HeaderHolds data hash ∧ KeysHold queue data

theorem verify_at_slot_iff (checks : OverflowChecks) (setters : List Setter) (data : SafeSlice)
    (clock max_age : UInt64) (quote : OracleQuote) :
    verify checks (at_slot setters clock max_age) data.toSlice = .ok quote ↔
      Timeless checks setters data.toSlice ∧ quote = quoteOf data.toSlice ∧ recentSlot data.toSlice ≤ clock ∧
        clock - recentSlot data.toSlice ≤ max_age := by
  have queue : last givenQueue (setters ++ [.clock_slot clock, .max_age max_age]) = last givenQueue setters := by
    rw [last_append]
    rfl
  have sysvar : last givenSlothashSysvar (setters ++ [.clock_slot clock, .max_age max_age]) =
      last givenSlothashSysvar setters := by
    rw [last_append]
    rfl
  have slot : last givenClockSlot (setters ++ [.clock_slot clock, .max_age max_age]) = some clock := by
    rw [last_append]
    rfl
  have age : last givenMaxAge (setters ++ [.clock_slot clock, .max_age max_age]) = some max_age := by
    rw [last_append]
    rfl
  rw [at_slot, verify_configured_iff, queue, sysvar, slot, age]
  constructor
  · rintro ⟨rfl, accepted, account, sysvar, _, queue, hash, queueSet, sysvarSet, ⟨⟩, isQueue, notNew, notOld, rest⟩
    exact ⟨⟨accepted, account, sysvar, queue, hash, queueSet, sysvarSet, isQueue, rest⟩, rfl, notNew, notOld⟩
  · rintro ⟨⟨accepted, account, sysvar, queue, hash, queueSet, sysvarSet, isQueue, rest⟩, rfl, notNew, notOld⟩
    exact ⟨rfl, accepted, account, sysvar, clock, queue, hash, queueSet, sysvarSet, rfl, isQueue, notNew, notOld, rest⟩

/-- Whatever setters were called before, a datum is accepted at exactly the clock
    slots from its own to the age after it, always with one quote, or at none. -/
theorem verdict_over_time (checks : OverflowChecks) (setters : List Setter) (data : SafeSlice) :
    (∀ clock max_age quote, verify checks (at_slot setters clock max_age) data.toSlice = .ok quote ↔
      quote = quoteOf data.toSlice ∧ recentSlot data.toSlice ≤ clock ∧
        clock.toNat ≤ (recentSlot data.toSlice).toNat + max_age.toNat) ∨
    ∀ clock max_age quote, verify checks (at_slot setters clock max_age) data.toSlice ≠ .ok quote := by
  by_cases timeless : Timeless checks setters data.toSlice
  · refine .inl fun clock max_age quote => ?_
    rw [verify_at_slot_iff, and_iff_right timeless]
    refine and_congr_right fun _ => and_congr_right fun notNew => ?_
    rw [UInt64.le_iff_toNat_le, UInt64.toNat_sub_of_le _ _ notNew]
    have notNew := UInt64.le_iff_toNat_le.mp notNew
    omega
  · refine .inr fun clock max_age quote done => timeless ?_
    exact ((verify_at_slot_iff checks setters data clock max_age quote).mp done).1

end SwitchboardOnDemand.VerifierSetup
