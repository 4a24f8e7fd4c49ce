import SwitchboardOnDemand.QuoteStore
import SwitchboardOnDemand.SlothashSysvar
import SwitchboardOnDemand.Runs

/-!
# Replay over runs of writes

A quote account starts with zeros and takes one `write` after the other; a call
that panics is rolled back. The slots it holds should never decrease, and a call
that is not older than the held quote should pass. `write` compares the new slot
with eight bytes near the end of the account's buffer, wherever the held quote
ends, so that this is so exactly in the runs in which, at every call, these
bytes compare like the held slot (`anti_replay_iff`). Sources that fill the
account have their slot there (`anti_replay_of_fills`). Sources that end before
these bytes leave them zero, so that only the order of the calls is left to
keep the slots from decreasing (`anti_replay_of_short_iff`).
-/

namespace SwitchboardOnDemand.Replay
open Rust Runs SwitchboardOnDemand.Utils SwitchboardOnDemand.QuoteStore

/-- An account and the source that it was last written with. -/
structure QuoteAccount where
  account : AccountInfo
  held : Option Bytes
  deriving Repr, DecidableEq

def QuoteAccount.zeroed (key : Pubkey) (size : Nat) : QuoteAccount := ⟨⟨key, List.replicate size 0⟩, none⟩

structure WriteCall where
  clock_slot : UInt64
  source : SafeSlice

def WriteCall.slot (call : WriteCall) : UInt64 := backSlot call.source.bytes

def writeTo (s : QuoteAccount) (call : WriteCall) : Exec AnyError AccountInfo :=
  write call.clock_slot call.source.toSlice s.account

/-- A call that comes back leaves its source in the account; one that does not is
    rolled back. -/
def step (s : QuoteAccount) (call : WriteCall) : QuoteAccount :=
  match writeTo s call with
  | .ok account => ⟨account, some call.source.bytes⟩
  | _ => s

/-- What the first account holds is not newer than what the second one does. -/
def InOrder (earlier later : QuoteAccount) : Prop :=
  ∀ old, earlier.held = some old → ∃ new, later.held = some new ∧ backSlot old ≤ backSlot new

/-- The source is long enough, fits into the account, and is below the clock. -/
def Fits (s : QuoteAccount) (call : WriteCall) : Prop :=
  13 ≤ call.source.len ∧ call.source.len + 10 ≤ s.account.data.length ∧ call.slot < call.clock_slot

/-- The call is not older than what the account holds. -/
def NotOlder (s : QuoteAccount) (call : WriteCall) : Prop := ∀ old, s.held = some old → backSlot old ≤ call.slot

/-- Anti-replay over a run: the held slots never decrease, and a call that fits
    and is not older than the held quote is accepted. -/
structure AntiReplay (start : QuoteAccount) (calls : List WriteCall) : Prop where
  inOrder : ∀ i j, i ≤ j → j ≤ calls.length → InOrder (run step start (calls.take i)) (run step start (calls.take j))
  accepts : ∀ k, (inside : k < calls.length) → Fits (run step start (calls.take k)) calls[k] →
    NotOlder (run step start (calls.take k)) calls[k] →
    ∃ account, writeTo (run step start (calls.take k)) calls[k] = .ok account

/-- On a call that fits, the bytes near the end of the account compare with the
    new slot as the held slot does. -/
def EndComparesAsHeld (s : QuoteAccount) (call : WriteCall) : Prop :=
  Fits s call → (NotOlder s call ↔ backSlot s.account.data ≤ call.slot)

/-! ### One call -/

theorem writeTo_ok_iff (s : QuoteAccount) (call : WriteCall) (account : AccountInfo) :
    writeTo s call = .ok account ↔ Fits s call ∧ backSlot s.account.data ≤ call.slot ∧
      account = { s.account with data := stored call.source.bytes s.account.data } := by
  rw [writeTo, write_ok_iff call.source.inside, Fits, and_assoc, and_assoc]
  rfl

theorem step_accepted {s : QuoteAccount} {call : WriteCall} (fits : Fits s call)
    (passes : backSlot s.account.data ≤ call.slot) :
    step s call = ⟨{ s.account with data := stored call.source.bytes s.account.data }, some call.source.bytes⟩ := by
  rw [step, (writeTo_ok_iff s call _).mpr ⟨fits, passes, rfl⟩]

theorem step_rejected {s : QuoteAccount} {call : WriteCall}
    (rejected : ¬ (Fits s call ∧ backSlot s.account.data ≤ call.slot)) : step s call = s := by
  unfold step
  split
  · rename_i account accepted
    obtain ⟨fits, passes, _⟩ := (writeTo_ok_iff s call account).mp accepted
    exact absurd ⟨fits, passes⟩ rejected
  · rfl

/-- A step moves the held slot forward and accepts what it should. -/
def StepOk (s : QuoteAccount) (call : WriteCall) : Prop :=
  InOrder s (step s call) ∧ (Fits s call → NotOlder s call → ∃ account, writeTo s call = .ok account)

theorem InOrder.refl (s : QuoteAccount) : InOrder s s := fun old held => ⟨old, held, UInt64.le_refl _⟩

theorem InOrder.trans (a b c : QuoteAccount) (first : InOrder a b) (second : InOrder b c) : InOrder a c := by
  intro old held
  obtain ⟨middle, heldB, le⟩ := first old held
  obtain ⟨new, heldC, le'⟩ := second middle heldB
  exact ⟨new, heldC, UInt64.le_trans le le'⟩

theorem stepOk_iff (s : QuoteAccount) (call : WriteCall) : StepOk s call ↔ EndComparesAsHeld s call := by
  constructor
  · rintro ⟨inOrder, accepts⟩ fits
    refine ⟨fun notOlder => ?_, fun passes old held => ?_⟩
    · obtain ⟨account, accepted⟩ := accepts fits notOlder
      exact ((writeTo_ok_iff s call account).mp accepted).2.1
    · obtain ⟨new, heldNew, le⟩ := inOrder old held
      rw [step_accepted fits passes] at heldNew
      cases heldNew
      exact le
  · intro compares
    refine ⟨?_, fun fits notOlder => ⟨_, (writeTo_ok_iff s call _).mpr ⟨fits, (compares fits).mp notOlder, rfl⟩⟩⟩
    by_cases accepted : Fits s call ∧ backSlot s.account.data ≤ call.slot
    · rw [step_accepted accepted.1 accepted.2]
      exact fun old held => ⟨_, rfl, (compares accepted.1).mpr accepted.2 old held⟩
    · rw [step_rejected accepted]
      exact InOrder.refl s

/-! ### Runs -/

theorem antiReplay_iff_along (start : QuoteAccount) (calls : List WriteCall) :
    AntiReplay start calls ↔ Along step StepOk start calls := by
  constructor
  · intro anti
    rw [along_iff]
    intro k inside
    refine ⟨?_, anti.accepts k inside⟩
    have next : run step start (calls.take (k + 1)) = step (run step start (calls.take k)) calls[k] :=
      run_take_succ start inside
    rw [← next]
    exact anti.inOrder k (k + 1) (Nat.le_succ k) inside
  · intro along
    exact ⟨fun i j le _ => along.left.related InOrder.refl InOrder.trans le,
      fun k inside => ((along_iff start calls).mp along k inside).2⟩

/-- A run of writes to an account of zeros has the anti-replay property exactly
    when, at every call that fits, the bytes near the end of the account compare
    with the new slot as the held slot does. -/
theorem anti_replay_iff (key : Pubkey) (size : Nat) (calls : List WriteCall) :
    AntiReplay (.zeroed key size) calls ↔
      ∀ k, (inside : k < calls.length) → EndComparesAsHeld (run step (.zeroed key size) (calls.take k)) calls[k] := by
  rw [antiReplay_iff_along, ← along_iff]
  exact along_congr stepOk_iff (.zeroed key size) calls

/-- The end of the account holds the slot of the held quote, zero before the first. -/
def EndHoldsSlot (size : Nat) (s : QuoteAccount) : Prop :=
  s.account.data.length = size ∧ backSlot s.account.data = (s.held.map backSlot).getD 0

theorem endHoldsSlot_zeroed (key : Pubkey) (size : Nat) : EndHoldsSlot size (.zeroed key size) :=
  ⟨List.length_replicate, backSlot_zeros size⟩

theorem endHoldsSlot_step {size : Nat} (s : QuoteAccount) (call : WriteCall) (fills : call.source.len + 10 = size)
    (holds : EndHoldsSlot size s) : EndHoldsSlot size (step s call) := by
  by_cases accepted : Fits s call ∧ backSlot s.account.data ≤ call.slot
  · have long := Slice.length_bytes call.source.inside
    have length := holds.1
    rw [step_accepted accepted.1 accepted.2]
    exact ⟨by rw [length_stored (by omega), length], backSlot_stored (by rw [long]; exact accepted.1.1) (by omega)⟩
  · rw [step_rejected accepted]
    exact holds

/-- Where every source fills the account, the run has the anti-replay property. -/
theorem anti_replay_of_fills (key : Pubkey) {size : Nat} {calls : List WriteCall}
    (fill : ∀ call ∈ calls, call.source.len + 10 = size) : AntiReplay (.zeroed key size) calls := by
  have given : ∀ (s : QuoteAccount) (call : WriteCall), call.source.len + 10 = size → EndHoldsSlot size s →
      StepOk s call := by
    rintro s call _ ⟨_, holds⟩
    rw [stepOk_iff]
    intro _
    rw [holds, NotOlder]
    cases s.held with
    | none => simp
    | some old => simp
  rw [antiReplay_iff_along]
  exact along_of_invariant endHoldsSlot_step given (endHoldsSlot_zeroed key size) fill

/-- The call can be stored in an account that has room for it. -/
def Storable (call : WriteCall) : Prop := 13 ≤ call.source.len ∧ call.slot < call.clock_slot

instance : DecidablePred Storable := fun call => inferInstanceAs (Decidable (13 ≤ call.source.len ∧ _))

/-- The last 13 bytes of the account hold the slot zero. -/
def EndIsZero (size : Nat) (s : QuoteAccount) : Prop := s.account.data.length = size ∧ backSlot s.account.data = 0

/-- A short source passes whenever it is storable, and leaves the end at zero. -/
theorem step_short {size : Nat} {s : QuoteAccount} {call : WriteCall} (short : call.source.len + 23 ≤ size)
    (zero : EndIsZero size s) (storable : Storable call) :
    step s call = ⟨{ s.account with data := stored call.source.bytes s.account.data }, some call.source.bytes⟩ ∧
      EndIsZero size (step s call) := by
  obtain ⟨length, last⟩ := zero
  have long := Slice.length_bytes call.source.inside
  have accepted := step_accepted ⟨storable.1, by omega, storable.2⟩ (last ▸ UInt64.zero_le)
  refine ⟨accepted, ?_⟩
  rw [accepted]
  exact ⟨by rw [length_stored (by omega), length], by rw [backSlot_stored_short (by omega), last]⟩

theorem stepOk_short_iff {size : Nat} {s : QuoteAccount} {call : WriteCall} (short : call.source.len + 23 ≤ size)
    (zero : EndIsZero size s) : StepOk s call ↔ (Storable call → NotOlder s call) := by
  obtain ⟨length, last⟩ := zero
  have fits : Fits s call ↔ Storable call := by
    rw [Fits, Storable, and_congr_right_iff]
    exact fun _ => and_iff_right (by omega)
  rw [stepOk_iff, EndComparesAsHeld, fits, last]
  exact imp_congr_right fun _ => iff_true_right UInt64.zero_le

/-- The state matters only through what it holds, which no later call may be older than. -/
theorem along_short_iff {size : Nat} {calls : List WriteCall} (short : ∀ call ∈ calls, call.source.len + 23 ≤ size)
    {s : QuoteAccount} (zero : EndIsZero size s) :
    Along step StepOk s calls ↔ (∀ call ∈ calls.filter Storable, NotOlder s call) ∧
      (calls.filter Storable).Pairwise fun earlier later => earlier.slot ≤ later.slot := by
  induction calls generalizing s with
  | nil => simp [Along]
  | cons call rest ih =>
    obtain ⟨shortHere, shortRest⟩ := List.forall_mem_cons.mp short
    rw [Along, stepOk_short_iff shortHere zero]
    by_cases storable : Storable call
    · obtain ⟨accepted, zeroNext⟩ := step_short shortHere zero storable
      have next : ∀ later, NotOlder (step s call) later ↔ call.slot ≤ later.slot := by
        intro later
        rw [accepted]
        exact ⟨fun notOlder => notOlder _ rfl, fun le old held => Option.some.inj held ▸ le⟩
      rw [List.filter_cons_of_pos (by simpa using storable), List.forall_mem_cons, List.pairwise_cons, ih shortRest zeroNext]
      simp only [next]
      constructor
      · rintro ⟨here, above, ordered⟩
        have notOlder := here storable
        exact ⟨⟨notOlder, fun later member old held => UInt64.le_trans (notOlder old held) (above later member)⟩, above,
          ordered⟩
      · rintro ⟨⟨notOlder, _⟩, above, ordered⟩
        exact ⟨fun _ => notOlder, above, ordered⟩
    · have fits : ¬ Fits s call := fun fits => storable ⟨fits.1, fits.2.2⟩
      rw [List.filter_cons_of_neg (by simpa using storable), step_rejected fun both => fits both.1, ih shortRest zero]
      exact and_iff_right fun isStorable => absurd isStorable storable

/-- Where every source ends before the last 13 bytes of the account, the account does
    not tell the calls apart: the run has the anti-replay property exactly when the
    calls that can be stored come in the order of their slots. -/
theorem anti_replay_of_short_iff (key : Pubkey) {size : Nat} {calls : List WriteCall}
    (short : ∀ call ∈ calls, call.source.len + 23 ≤ size) :
    AntiReplay (.zeroed key size) calls ↔
      (calls.filter Storable).Pairwise fun earlier later => earlier.slot ≤ later.slot := by
  have zero : EndIsZero size (.zeroed key size) := ⟨List.length_replicate, backSlot_zeros size⟩
  rw [antiReplay_iff_along, along_short_iff short zero]
  exact and_iff_right fun call _ old held => by cases held

def shortSource (slot : UInt64) : SafeSlice := SafeSlice.of (leBytes 8 slot.toNat ++ [1, 83, 66, 79, 68])

def backwards : List WriteCall := [⟨100, shortSource 50⟩, ⟨100, shortSource 40⟩]

/-- In an account of 60 bytes the slot 40 is accepted after the slot 50. -/
theorem backwards_not_antiReplay : ¬ AntiReplay (.zeroed SlothashSysvar.slot_hashes_ID 60) backwards := by
  intro anti
  have first : (run step (.zeroed SlothashSysvar.slot_hashes_ID 60) (backwards.take 1)).held =
      some (shortSource 50).bytes := by decide
  have second : (run step (.zeroed SlothashSysvar.slot_hashes_ID 60) (backwards.take 2)).held =
      some (shortSource 40).bytes := by decide
  obtain ⟨new, held, le⟩ := anti.inOrder 1 2 (by decide) (by decide) _ first
  rw [second] at held
  cases held
  exact absurd le (by decide)

end SwitchboardOnDemand.Replay
