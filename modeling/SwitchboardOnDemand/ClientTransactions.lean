import SwitchboardOnDemand.Builders
import SwitchboardOnDemand.Doubles

/-!
# Transactions of the client

Besides the builder, the client makes transactions of instructions and signers
directly. These take exactly the signers that the message needs, where the
builder leaves out needless ones and misses a payer that nothing marks
(`ix_to_tx_and_builder`). The versioned one asks a node how many compute units
the transaction takes; whatever the node answers, the limit is 1.4 times the
estimate up to one unit, and no answer keeps the transaction from being signed
(`ix_to_tx_v0_signed_iff`).
-/

namespace SwitchboardOnDemand.ClientTransactions
open Rust SwitchboardOnDemand.Error SwitchboardOnDemand.Utils SwitchboardOnDemand.Transactions
open SwitchboardOnDemand.Signing

variable {sdk : SolanaSdk}

/-- `signers[0].pubkey()`. -/
def first_pubkey {ε : Type} : List sdk.Signer → Exec ε Pubkey
  | [] => .panic "index out of bounds: the len is 0 but the index is 0"
  | first :: _ => .ok (sdk.pubkey first)

def ix_to_tx (ixs : List Instruction) (signers : List sdk.Signer) (blockhash : sdk.Hash) :
    Exec OnDemandError sdk.Transaction := do
  let payer ← first_pubkey signers
  let tx ← orPanic (sdk.new_with_payer ixs payer)
  match sdk.try_sign tx signers blockhash with
  | .ok tx => pure tx
  | .error _ => .err .SolanaSignError

/-! ### Compute units -/

/-- What a simulation and the versioned transaction share: a message is compiled
    and signed. -/
def compile_and_sign (payer : Pubkey) (ixs : List Instruction) (luts : List sdk.AddressLookupTableAccount)
    (blockhash : sdk.Hash) (signers : List sdk.Signer) : Except OnDemandError sdk.VersionedTransaction :=
  match sdk.try_compile payer ixs luts blockhash with
  | .error _ => .error .SolanaSignError
  | .ok message => (sdk.try_new message signers).mapError fun _ => .SolanaSignError

/-- A node that simulates transactions: the units that one takes, if it says. -/
structure SimulationClient (sdk : SolanaSdk) where
  simulate_transaction : sdk.VersionedTransaction → Except String (Option UInt64)

/-- `anyhow::Error`. -/
inductive AnyhowError where
  | of (error : OnDemandError)
  | message (text : String)
  deriving DecidableEq

variable (rpc_client : SimulationClient sdk)

def estimate_compute_units (ixs : List Instruction) (luts : List sdk.AddressLookupTableAccount) (blockhash : sdk.Hash)
    (signers : List sdk.Signer) : Exec AnyhowError UInt32 := do
  let payer ← first_pubkey signers
  let ixs := sdk.set_compute_unit_limit 1400000 :: ixs
  match compile_and_sign payer ixs luts blockhash signers with
  | .error error => .err (.of error)
  | .ok tx =>
    match rpc_client.simulate_transaction tx with
    | .error _ => .err (.message "Failed to simulate transaction")
    | .ok (some units) => pure units.toUInt32
    | .ok none => .err (.message "Failed to estimate compute units")

/-- `(compute_unit_limit as f64 * 1.4) as u32`. As a double 1.4 is
    6305039478318694 / 2^52, the product is rounded, and the cast truncates it and
    saturates. -/
def scaled (compute_unit_limit : UInt32) : UInt32 :=
  UInt32.ofNat (min (Doubles.round (compute_unit_limit.toNat * 6305039478318694) / 2 ^ 52) (2 ^ 32 - 1))

/-- The limit that is asked for. -/
def cus (compute_unit_limit : UInt32) : UInt32 := min (scaled compute_unit_limit) 1400000

/-- `estimate.unwrap_or(1_400_000)`. -/
def limit_or_default : Except AnyhowError UInt32 → UInt32
  | .ok units => units
  | .error _ => 1400000

/-- The instructions behind those for the budget. -/
def with_budget (sdk : SolanaSdk) (units : UInt32) (ixs : List Instruction) : List Instruction :=
  sdk.set_compute_unit_limit units :: sdk.set_compute_unit_price 10000 :: ixs

def ix_to_tx_v0 (ixs : List Instruction) (signers : List sdk.Signer) (blockhash : sdk.Hash)
    (luts : List sdk.AddressLookupTableAccount) : Exec OnDemandError sdk.VersionedTransaction := do
  let payer ← first_pubkey signers
  let estimate ← (estimate_compute_units rpc_client ixs luts blockhash signers).result
  let compute_unit_limit := limit_or_default estimate
  let final_ixs := with_budget sdk (cus compute_unit_limit) ixs
  Exec.ofResult (compile_and_sign payer final_ixs luts blockhash signers)

/-! ### The limit -/

/-- 1.4 times the number, rounded down, or one less where it is whole and the
    product of the doubles falls below it. -/
theorem round_bounds {n : Nat} (small : n < 2 ^ 32) :
    let product := Doubles.round (n * 6305039478318694) / 2 ^ 52
    product ≤ 7 * n / 5 ∧ 7 * n / 5 ≤ product + 1 ∧ (n % 5 ≠ 0 → product = 7 * n / 5) := by
  obtain ⟨above, below⟩ := Doubles.round_error (n * 6305039478318694)
  have unit := Doubles.unit_le (n * 6305039478318694)
  simp only
  generalize Doubles.round (n * 6305039478318694) = rounded at *
  generalize Doubles.unit (n * 6305039478318694) = last at *
  have lastSmall : last ≤ 2 ^ 33 := by
    rcases unit with one | part
    · omega
    · omega
  -- Five times the product, by 5 * 6305039478318694 = 7 * 2 ^ 52 - 2.
  have atMost : 5 * rounded ≤ 7 * n * 2 ^ 52 + 5 * 2 ^ 32 := by omega
  have atLeast : 7 * n * 2 ^ 52 ≤ 5 * rounded + 2 * n + 5 * 2 ^ 32 := by omega
  have whole : 2 ^ 52 * (rounded / 2 ^ 52) + rounded % 2 ^ 52 = rounded := Nat.div_add_mod _ _
  have rest : rounded % 2 ^ 52 < 2 ^ 52 := Nat.mod_lt _ (by decide)
  generalize rounded / 2 ^ 52 = product at *
  generalize rounded % 2 ^ 52 = remainder at *
  have notAbove : 5 * product ≤ 7 * n := by omega
  have notBelow : 7 * n ≤ 5 * product + 5 := by omega
  refine ⟨by omega, by omega, fun broken => ?_⟩
  have broken : 7 * n % 5 ≠ 0 := by omega
  have near : 7 * n < 5 * product + 5 := by omega
  omega

/-- Whatever the estimate, the limit is 1.4 times it, but at most 1400000 units;
    where the estimate is a multiple of five it can be one unit less. -/
theorem cus_bounds (compute_unit_limit : UInt32) :
    let exact := min (7 * compute_unit_limit.toNat / 5) 1400000
    (cus compute_unit_limit).toNat ≤ exact ∧ exact ≤ (cus compute_unit_limit).toNat + 1 ∧
      (compute_unit_limit.toNat % 5 ≠ 0 → (cus compute_unit_limit).toNat = exact) := by
  have small := compute_unit_limit.toNat_lt
  obtain ⟨above, below, exact⟩ := round_bounds small
  have value : (scaled compute_unit_limit).toNat =
      min (Doubles.round (compute_unit_limit.toNat * 6305039478318694) / 2 ^ 52) (2 ^ 32 - 1) := by
    rw [scaled, UInt32.toNat_ofNat', Nat.mod_eq_of_lt]
    omega
  have limit : (cus compute_unit_limit).toNat = min (scaled compute_unit_limit).toNat 1400000 := by
    rw [cus, UInt32.min_def]
    by_cases le : scaled compute_unit_limit ≤ 1400000
    · rw [if_pos le]
      exact (Nat.min_eq_left (UInt32.le_iff_toNat_le.mp le)).symm
    · rw [if_neg le]
      exact (Nat.min_eq_right (Nat.le_of_not_le fun ge => le (UInt32.le_iff_toNat_le.mpr ge))).symm
  simp only
  rw [limit, value]
  omega

/-! ### Signing -/

variable {rpc_client}

/-- The keys of the signers are those that the message needs. -/
def Exactly (signers : List sdk.Signer) (payer : Pubkey) (ixs : List Instruction) : Prop :=
  ∀ key, key ∈ signers.map sdk.pubkey ↔ Needed payer ixs key

theorem ix_to_tx_ok_iff (exact : SignsExactly sdk) {ixs : List Instruction} {first : sdk.Signer}
    {rest : List sdk.Signer} (distinct : ((first :: rest).map sdk.pubkey).Nodup)
    (compiles : ∃ tx, sdk.new_with_payer ixs (sdk.pubkey first) = .ok tx) (blockhash : sdk.Hash) :
    (∃ tx, ix_to_tx ixs (first :: rest) blockhash = .ok tx) ↔ Exactly (first :: rest) (sdk.pubkey first) ixs := by
  obtain ⟨tx, compiled⟩ := compiles
  rw [Exactly, ← exact.legacy _ _ tx _ blockhash compiled distinct, ix_to_tx, first_pubkey, Exec.ok_bind, compiled, orPanic,
    Exec.ok_bind]
  cases sdk.try_sign tx (first :: rest) blockhash with
  | ok signed => simp
  | error message => simp

/-- A stored signer is one that was given to the builder. -/
theorem hasSigner_iff (first : sdk.Signer) (rest : List sdk.Signer) (ixs : List Instruction) (key : Pubkey) :
    HasSigner (built (.new_with_payer_and_ixs first ixs) [.add_signers rest]) key ↔
      key ∈ (first :: rest).map sdk.pubkey := by
  have single : ([.add_signers rest].findSome? fun method => find_signer (Builders.givenSigners method) key) =
      find_signer rest key := by
    rw [List.findSome?_cons, List.findSome?_nil, Builders.givenSigners]
    cases find_signer rest key <;> rfl
  have stored : find_signer (built (.new_with_payer_and_ixs first ixs) [.add_signers rest]).signers key =
      find_signer (first :: rest) key := by
    rw [Builders.built_signer]
    exact (congrArg _ single).trans List.find?_append.symm
  rw [HasSigner, ← find_signer_isSome_iff, stored, find_signer_isSome_iff]

/-- No signer is needless. -/
def NoneNeedless (signers : List sdk.Signer) (payer : Pubkey) (ixs : List Instruction) : Prop :=
  ∀ signer ∈ signers, Needed payer ixs (sdk.pubkey signer)

/-- Signers and instructions, the payer first, make a legacy transaction directly
    and through a builder. Directly no signer may be needless; through the builder
    the payer must be marked, and there may be at most ten instructions. Where all
    of this holds, both succeed or neither does. -/
theorem ix_to_tx_and_builder (exact : SignsExactly sdk) (budget : BudgetWithoutAccounts sdk) {ixs : List Instruction}
    {first : sdk.Signer} {rest : List sdk.Signer} (distinct : ((first :: rest).map sdk.pubkey).Nodup)
    (compiles : ∃ tx, sdk.new_with_payer ixs (sdk.pubkey first) = .ok tx) (blockhash : sdk.Hash) :
    ((∃ tx, ix_to_tx ixs (first :: rest) blockhash = .ok tx) ∧ Marked ixs (sdk.pubkey first) ∧ ixs.length ≤ 10) ↔
      (∃ tx, to_legacy_tx (built (.new_with_payer_and_ixs first ixs) [.add_signers rest]) = .ok tx) ∧
        NoneNeedless (first :: rest) (sdk.pubkey first) ixs := by
  have payer := Builders.built_payer (.new_with_payer_and_ixs first ixs) [.add_signers rest]
  have own : (built (.new_with_payer_and_ixs first ixs) [.add_signers rest]).ixs = ixs := by
    rw [Builders.built_ixs]
    exact List.append_nil ixs
  have noBudget : pre_ixs (built (.new_with_payer_and_ixs first ixs) [.add_signers rest]) = [] := by
    rw [Builders.built_pre_ixs]
    rfl
  have stored := hasSigner_iff first rest ixs
  rw [ix_to_tx_ok_iff exact distinct compiles]
  generalize built (.new_with_payer_and_ixs first ixs) [.add_signers rest] = builder at *
  have message : ∃ tx, sdk.new_with_payer (pre_ixs builder ++ builder.ixs) builder.payer = .ok tx := by
    rwa [noBudget, own, List.nil_append, payer]
  rw [legacy_signed_iff exact budget message]
  constructor
  · rintro ⟨exactly, marked, few⟩
    refine ⟨⟨?_, ?_, ?_, ?_⟩, ?_⟩
    · rw [own]
      rintro rfl
      obtain ⟨ix, member, _⟩ := marked
      cases member
    · rwa [noBudget, own]
    · intro key markedKey
      rw [own] at markedKey
      exact (stored key).mpr ((exactly key).mpr (.inr markedKey))
    · rwa [own, payer]
    · intro signer member
      exact (exactly _).mp (List.mem_map_of_mem member)
  · rintro ⟨⟨_, few, storedMarked, marked⟩, noneNeedless⟩
    rw [own, payer] at marked
    rw [noBudget, own] at few
    refine ⟨fun key => ⟨?_, ?_⟩, marked, few⟩
    · intro given
      obtain ⟨signer, member, rfl⟩ := List.mem_map.mp given
      exact noneNeedless signer member
    · rintro (rfl | markedKey)
      · exact List.mem_cons_self
      · rw [← own] at markedKey
        exact (stored key).mp (storedMarked key markedKey)

def cosignerKey : Pubkey := repeated 8 32

/-- The keys of a payer and of a cosigner. -/
theorem distinct_cosigned : (List.map keySdk.pubkey [payerKey, cosignerKey]).Nodup := by decide

/-- An instruction that marks both. -/
def cosignedIx : Instruction := withAccounts [⟨cosignerKey, true, false⟩, ⟨payerKey, true, true⟩]

theorem ix_to_tx_and_builder_marked :
    ∃ tx, to_legacy_tx (built (.new_with_payer_and_ixs payerKey [cosignedIx]) [.add_signers [cosignerKey]] :
      TransactionBuilder keySdk) = .ok tx := by
  have marked : Marked [cosignedIx] payerKey :=
    ⟨_, List.mem_cons_self, _, List.mem_cons_of_mem _ List.mem_cons_self, rfl, rfl⟩
  exact ((ix_to_tx_and_builder signsExactly_keySdk budgetWithoutAccounts_keySdk distinct_cosigned ⟨_, rfl⟩ ()).mp
    ⟨⟨_, rfl⟩, marked, by decide⟩).1

/-! ### With an estimate -/

/-- With a signer, an estimate may fail but comes back. -/
theorem estimate_returns (rpc_client : SimulationClient sdk) (ixs : List Instruction)
    (luts : List sdk.AddressLookupTableAccount) (blockhash : sdk.Hash) (first : sdk.Signer) (rest : List sdk.Signer) :
    (estimate_compute_units rpc_client ixs luts blockhash (first :: rest)).Returns := by
  rw [estimate_compute_units, first_pubkey, Exec.ok_bind]
  simp only
  cases compile_and_sign (sdk.pubkey first) (sdk.set_compute_unit_limit 1400000 :: ixs) luts blockhash (first :: rest) with
  | error error => trivial
  | ok tx =>
    simp only
    cases rpc_client.simulate_transaction tx with
    | error message => trivial
    | ok units => cases units <;> trivial

/-- So the transaction is the one with some estimate, or with the default. -/
theorem ix_to_tx_v0_eq (rpc_client : SimulationClient sdk) (ixs : List Instruction)
    (luts : List sdk.AddressLookupTableAccount) (blockhash : sdk.Hash) (first : sdk.Signer) (rest : List sdk.Signer) :
    ∃ estimate, ix_to_tx_v0 rpc_client ixs (first :: rest) blockhash luts =
      Exec.ofResult (compile_and_sign (sdk.pubkey first) (with_budget sdk (cus estimate) ixs) luts blockhash
        (first :: rest)) := by
  rw [ix_to_tx_v0, first_pubkey, Exec.ok_bind]
  rcases Exec.returns_iff.mp (estimate_returns rpc_client ixs luts blockhash first rest) with ⟨units, run⟩ | ⟨error, run⟩
  · exact ⟨units, by rw [run]; rfl⟩
  · exact ⟨1400000, by rw [run]; rfl⟩

theorem marked_with_budget_iff (budget : BudgetWithoutAccounts sdk) (units : UInt32) (ixs : List Instruction)
    (key : Pubkey) : Marked (with_budget sdk units ixs) key ↔ Marked ixs key := by
  simp [Marked, with_budget, budget.limit, budget.price]

/-- Whatever the node answers to the simulation, and whether it answers at all, the
    transaction is signed exactly when the keys of the signers are those that the
    message needs, and else there is an error. The node decides on the limit only. -/
theorem ix_to_tx_v0_signed_iff (exact : SignsExactly sdk) (budget : BudgetWithoutAccounts sdk)
    (rpc_client : SimulationClient sdk) {ixs : List Instruction} {first : sdk.Signer} {rest : List sdk.Signer}
    (distinct : ((first :: rest).map sdk.pubkey).Nodup) (luts : List sdk.AddressLookupTableAccount) (blockhash : sdk.Hash)
    (compiles : ∀ units, ∃ message,
      sdk.try_compile (sdk.pubkey first) (with_budget sdk units ixs) luts blockhash = .ok message) :
    ((∃ tx, ix_to_tx_v0 rpc_client ixs (first :: rest) blockhash luts = .ok tx) ↔
      Exactly (first :: rest) (sdk.pubkey first) ixs) ∧
    (¬ Exactly (first :: rest) (sdk.pubkey first) ixs →
      ix_to_tx_v0 rpc_client ixs (first :: rest) blockhash luts = .err .SolanaSignError) := by
  obtain ⟨estimate, run⟩ := ix_to_tx_v0_eq rpc_client ixs luts blockhash first rest
  obtain ⟨message, compiled⟩ := compiles (cus estimate)
  have signs := exact.v0 _ _ _ _ message (first :: rest) compiled distinct
  simp only [Needed, marked_with_budget_iff budget] at signs
  rw [run, compile_and_sign, compiled]
  simp only [Exactly, Needed, ← signs]
  cases sdk.try_new message (first :: rest) with
  | ok signed => simp [Except.mapError, Exec.ofResult]
  | error text => simp [Except.mapError, Exec.ofResult]

/-- A node that does not simulate. -/
def noSimulation : SimulationClient keySdk := ⟨fun _ => .error "method not found"⟩

theorem ix_to_tx_v0_signed_iff_offline :
    ∃ tx, ix_to_tx_v0 noSimulation [cosignedIx] [payerKey, cosignerKey] () [] = .ok tx := by
  refine (ix_to_tx_v0_signed_iff signsExactly_keySdk budgetWithoutAccounts_keySdk noSimulation distinct_cosigned [] ()
    fun _ => ⟨_, rfl⟩).1.mpr fun key => ?_
  have marked : Marked [cosignedIx] key ↔ cosignerKey = key ∨ payerKey = key := by
    simp [Marked, cosignedIx, withAccounts]
  simp only [Needed, marked, List.map_cons, List.map_nil, List.mem_cons, List.not_mem_nil, or_false]
  constructor
  · rintro (rfl | rfl)
    · exact .inl rfl
    · exact .inr (.inl rfl)
  · rintro (rfl | rfl | rfl)
    · exact .inl rfl
    · exact .inr rfl
    · exact .inl rfl

end SwitchboardOnDemand.ClientTransactions
