import SwitchboardOnDemand.Signing

/-!
# Runs of builder methods

Methods of different kinds commute, so that only the order within a kind matters
(`built_eq_of_projections`). What a run leaves is what it was given: all
instructions and tables in their order, the last value of every setting, and the
first signer with a key (`transactions_of_run`).
-/

namespace SwitchboardOnDemand.Builders
open Rust SwitchboardOnDemand.Error SwitchboardOnDemand.Utils SwitchboardOnDemand.Transactions
open SwitchboardOnDemand.Signing

variable {sdk : SolanaSdk}

/-! ### Kinds of methods -/

/-- The field of the builder that a method is about. -/
inductive Kind where
  | ixs
  | compute_units
  | priority_fees
  | recent_blockhash
  | min_context_slot
  | address_lookup_tables
  | signers
  deriving DecidableEq

def kind : Method sdk → Kind
  | .set_compute_units _ => .compute_units
  | .set_priority_fees _ => .priority_fees
  | .add_ix _ => .ixs
  | .add_signer _ => .signers
  | .add_signers _ => .signers
  | .set_recent_blockhash _ => .recent_blockhash
  | .set_min_context_slot _ => .min_context_slot
  | .add_address_lookup_account _ => .address_lookup_tables
  | .add_address_lookup_accounts _ => .address_lookup_tables
  | .add_address_lookup_table _ => .address_lookup_tables
  | .add_address_lookup_tables _ => .address_lookup_tables

/-- The signers that a method gives. -/
def givenSigners : Method sdk → List sdk.Signer
  | .add_signer signer => [signer]
  | .add_signers signers => signers
  | _ => []

/-- The tables that a method gives. -/
def givenTables : Method sdk → List sdk.AddressLookupTableAccount
  | .add_address_lookup_account table => [table]
  | .add_address_lookup_accounts tables => tables
  | .add_address_lookup_table (.ok table) => [table]
  | .add_address_lookup_tables (.ok tables) => tables
  | _ => []

def givenIxs : Method sdk → List Instruction
  | .add_ix ix => [ix]
  | _ => []

def givenComputeUnits : Method sdk → Option UInt32
  | .set_compute_units compute_units => some compute_units
  | _ => none

def givenPriorityFees : Method sdk → Option UInt64
  | .set_priority_fees priority_fees => some priority_fees
  | _ => none

def givenBlockhash : Method sdk → Option sdk.Hash
  | .set_recent_blockhash blockhash => some blockhash
  | _ => none

def givenSlot : Method sdk → Option UInt64
  | .set_min_context_slot min_context_slot => some min_context_slot
  | _ => none

/-! ### One method -/

/-- The signers that are stored when more are given. -/
def storeSigners (stored given : List sdk.Signer) : List sdk.Signer :=
  given.foldl (fun stored signer =>
    match find_signer stored (sdk.pubkey signer) with
    | none => stored ++ [signer]
    | some _ => stored) stored

@[simp] theorem storeSigners_nil (stored : List sdk.Signer) : storeSigners stored [] = stored := rfl

theorem add_signer_eq (self : TransactionBuilder sdk) (signer : sdk.Signer) :
    add_signer self signer = { self with signers := storeSigners self.signers [signer] } := by
  unfold add_signer storeSigners
  rw [List.foldl_cons, List.foldl_nil]
  cases find_signer self.signers (sdk.pubkey signer) <;> rfl

theorem add_signers_eq (self : TransactionBuilder sdk) (signers : List sdk.Signer) :
    add_signers self signers = { self with signers := storeSigners self.signers signers } := by
  induction signers generalizing self with
  | nil => rfl
  | cons signer rest ih =>
    rw [add_signers, List.foldl_cons, ← add_signers, ih, add_signer_eq]
    rfl

section
attribute [local simp] givenIxs givenComputeUnits givenPriorityFees givenBlockhash givenSlot givenTables givenSigners

/-- What a method makes of each field. -/
theorem call_eq (self : TransactionBuilder sdk) (method : Method sdk) :
    call self method =
      { payer := self.payer
        ixs := self.ixs ++ givenIxs method
        compute_units := (givenComputeUnits method).or self.compute_units
        priority_fees := (givenPriorityFees method).or self.priority_fees
        recent_blockhash := (givenBlockhash method).or self.recent_blockhash
        min_context_slot := (givenSlot method).or self.min_context_slot
        address_lookup_tables := self.address_lookup_tables ++ givenTables method
        signers := storeSigners self.signers (givenSigners method) } := by
  cases method with
  | add_signer signer => simp [call, add_signer_eq]
  | add_signers signers => simp [call, add_signers_eq]
  | add_address_lookup_table fetched => cases fetched <;> simp [call, add_address_lookup_accounts]
  | add_address_lookup_tables fetched => cases fetched <;> simp [call, add_address_lookup_accounts]
  | _ => simp [call, add_address_lookup_accounts]

/-- A method gives nothing for the fields of other kinds. -/
theorem given_of_kind (method : Method sdk) :
    (kind method ≠ .ixs → givenIxs method = []) ∧
    (kind method ≠ .compute_units → givenComputeUnits method = none) ∧
    (kind method ≠ .priority_fees → givenPriorityFees method = none) ∧
    (kind method ≠ .recent_blockhash → givenBlockhash method = none) ∧
    (kind method ≠ .min_context_slot → givenSlot method = none) ∧
    (kind method ≠ .address_lookup_tables → givenTables method = []) ∧
    (kind method ≠ .signers → givenSigners method = []) := by
  cases method <;> simp [kind]

end

theorem call_commute (self : TransactionBuilder sdk) (a b : Method sdk) (differ : kind a ≠ kind b) :
    call (call self a) b = call (call self b) a := by
  obtain ⟨ixsA, unitsA, feesA, hashA, slotA, tablesA, signersA⟩ := given_of_kind a
  obtain ⟨ixsB, unitsB, feesB, hashB, slotB, tablesB, signersB⟩ := given_of_kind b
  have onlyOne : ∀ k, kind a ≠ k ∨ kind b ≠ k := by
    intro k
    by_cases here : kind a = k
    · exact .inr fun there => differ (here.trans there.symm)
    · exact .inl here
  have ixs := (onlyOne .ixs).imp ixsA ixsB
  have units := (onlyOne .compute_units).imp unitsA unitsB
  have fees := (onlyOne .priority_fees).imp feesA feesB
  have hash := (onlyOne .recent_blockhash).imp hashA hashB
  have slot := (onlyOne .min_context_slot).imp slotA slotB
  have tables := (onlyOne .address_lookup_tables).imp tablesA tablesB
  have signers := (onlyOne .signers).imp signersA signersB
  simp only [call_eq, TransactionBuilder.mk.injEq, true_and]
  refine ⟨?_, ?_, ?_, ?_, ?_, ?_, ?_⟩
  · rcases ixs with empty | empty <;> simp [empty]
  · rcases units with empty | empty <;> simp [empty]
  · rcases fees with empty | empty <;> simp [empty]
  · rcases hash with empty | empty <;> simp [empty]
  · rcases slot with empty | empty <;> simp [empty]
  · rcases tables with empty | empty <;> simp [empty]
  · rcases signers with empty | empty <;> simp [empty]

/-- Two runs whose methods of each kind are the same in the same order build the
    same builder: methods of different kinds can be called in any order. -/
theorem built_eq_of_projections (start : Constructor sdk) {first second : List (Method sdk)}
    (same : ∀ k, first.filter (fun method => kind method = k) = second.filter (fun method => kind method = k)) :
    built start first = built start second :=
  Runs.run_eq_of_projections call_commute start.builder same

theorem built_eq_of_projections_swapped :
    built (.new payerKey) [.add_signer payerKey, .add_ix (withAccounts []), .set_compute_units 5] =
      (built (.new payerKey) [.set_compute_units 5, .add_ix (withAccounts []), .add_signer payerKey] : TransactionBuilder keySdk) :=
  built_eq_of_projections _ fun k => by cases k <;> rfl

/-! ### What a builder was given -/

/-- What a builder was given. Instead of a list of signers there is a map from keys. -/
structure Given (sdk : SolanaSdk) where
  payer : Pubkey
  ixs : List Instruction
  compute_units : Option UInt32
  priority_fees : Option UInt64
  blockhash : Option sdk.Hash
  tables : List sdk.AddressLookupTableAccount
  signer_of : Pubkey → Option sdk.Signer

/-- Everything in its order, the last value of a setting, and the first signer
    with a key. -/
def Given.of (start : Constructor sdk) (calls : List (Method sdk)) : Given sdk where
  payer := start.builder.payer
  ixs := start.builder.ixs ++ calls.flatMap givenIxs
  compute_units := (calls.filterMap givenComputeUnits).getLast?
  priority_fees := (calls.filterMap givenPriorityFees).getLast?
  blockhash := (calls.filterMap givenBlockhash).getLast?
  tables := calls.flatMap givenTables
  signer_of key :=
    (find_signer start.builder.signers key).or (calls.findSome? fun method => find_signer (givenSigners method) key)

/-- The key that an account marks. -/
def markedKey (account : AccountMeta) : List Pubkey := if account.is_signer then [account.pubkey] else []

namespace Given
variable (given : Given sdk)

/-- The marked keys, each where it comes first. -/
def required : List Pubkey := (given.ixs.flatMap fun ix => ix.accounts.flatMap markedKey).eraseDups

def budget : List Instruction :=
  (given.compute_units.map fun units => sdk.set_compute_unit_limit (max (min units 1400000) 200000)).toList ++
    (given.priority_fees.map fun fees => sdk.set_compute_unit_price (min 10000 fees)).toList

def instructions : Exec OnDemandError (List Instruction) :=
  if given.ixs = [] then .err .SolanaInstructionsEmpty
  else if 10 < (given.budget ++ given.ixs).length then .err .SolanaInstructionOverflow
  else .ok (given.budget ++ given.ixs)

def signers : Exec OnDemandError (List sdk.Signer) :=
  Exec.okOr .SolanaMissingSigner (given.required.mapM given.signer_of)

def legacy_tx : Exec OnDemandError sdk.Transaction := do
  Exec.bailIf (given.signer_of given.payer).isNone .SolanaPayerSignerMissing
  let ixs ← given.instructions
  let signers ← given.signers
  build_legacy_tx given.payer ixs signers (given.blockhash.getD sdk.default_hash)

def v0_tx : Exec OnDemandError sdk.VersionedTransaction := do
  let ixs ← given.instructions
  let signers ← given.signers
  build_v0_tx given.payer ixs signers given.tables (given.blockhash.getD sdk.default_hash)

end Given

/-! ### The loops over accounts and signers -/

theorem add_required_eraseDups (before : List Pubkey) (account : AccountMeta) :
    add_required before.eraseDups account = (before ++ markedKey account).eraseDups := by
  unfold add_required markedKey
  cases account.is_signer with
  | false => simp
  | true =>
    by_cases known : account.pubkey ∈ before
    · simp [known, List.eraseDups_append, List.removeAll]
    · simp [known, List.eraseDups_append, List.removeAll, List.eraseDups_cons]

theorem accounts_eraseDups (accounts : List AccountMeta) (before : List Pubkey) :
    accounts.foldl add_required before.eraseDups = (before ++ accounts.flatMap markedKey).eraseDups := by
  induction accounts generalizing before with
  | nil => simp
  | cons account rest ih => rw [List.foldl_cons, add_required_eraseDups, ih, List.append_assoc, List.flatMap_cons]

theorem instructions_eraseDups (ixs : List Instruction) (before : List Pubkey) :
    ixs.foldl (fun signers_required ixn => ixn.accounts.foldl add_required signers_required) before.eraseDups =
      (before ++ ixs.flatMap fun ix => ix.accounts.flatMap markedKey).eraseDups := by
  induction ixs generalizing before with
  | nil => simp
  | cons ix rest ih => rw [List.foldl_cons, accounts_eraseDups, ih, List.append_assoc, List.flatMap_cons]

theorem required_signers_eq (self : TransactionBuilder sdk) :
    required_signers self = (self.ixs.flatMap fun ix => ix.accounts.flatMap markedKey).eraseDups :=
  instructions_eraseDups self.ixs []

/-- A stored signer stays the one of its key. -/
theorem find_storeSigners (stored given : List sdk.Signer) (key : Pubkey) :
    find_signer (storeSigners stored given) key = (find_signer stored key).or (find_signer given key) := by
  induction given generalizing stored with
  | nil => exact Option.or_none.symm
  | cons signer rest ih =>
    rw [storeSigners, List.foldl_cons, ← storeSigners, ih]
    by_cases own : sdk.pubkey signer = key
    · subst own
      have here : find_signer (signer :: rest) (sdk.pubkey signer) = some signer := by simp [find_signer]
      rw [here]
      cases found : find_signer stored (sdk.pubkey signer) with
      | none =>
        rw [find_signer] at found
        simp [find_signer, found]
      | some other => simp [found]
    · cases find_signer stored (sdk.pubkey signer) with
      | none => simp [find_signer, own]
      | some other => simp [find_signer, own]

theorem mapM_okOr {ε α β : Type} (error : ε) (f : α → Option β) (inputs : List α) :
    (inputs.mapM fun input => Exec.okOr error (f input)) = Exec.okOr error (inputs.mapM f) := by
  induction inputs with
  | nil => rfl
  | cons input rest ih =>
    rw [List.mapM_cons, List.mapM_cons, ih]
    cases f input with
    | none => rfl
    | some value => cases rest.mapM f <;> rfl

/-! ### The fields after a run -/

section
variable (start : Constructor sdk) (calls : List (Method sdk))

theorem start_settings : start.builder.compute_units = none ∧ start.builder.priority_fees = none ∧
    start.builder.recent_blockhash = none ∧ start.builder.address_lookup_tables = [] := by
  cases start <;> exact ⟨rfl, rfl, rfl, rfl⟩

theorem built_payer : (built start calls).payer = start.builder.payer := by
  have kept : ∀ (self : TransactionBuilder sdk) method, self.payer = start.builder.payer →
      (call self method).payer = start.builder.payer := fun self method same => by rw [call_eq]; exact same
  exact Runs.run_invariant kept rfl calls

theorem built_ixs : (built start calls).ixs = (Given.of start calls).ixs := by
  have adds : ∀ (self : TransactionBuilder sdk) method, (call self method).ixs = self.ixs ++ givenIxs method :=
    fun self method => by rw [call_eq]
  exact Runs.run_appends adds start.builder calls

theorem built_tables : (built start calls).address_lookup_tables = (Given.of start calls).tables := by
  have adds : ∀ (self : TransactionBuilder sdk) method,
      (call self method).address_lookup_tables = self.address_lookup_tables ++ givenTables method :=
    fun self method => by rw [call_eq]
  have all := Runs.run_appends adds start.builder calls
  rw [(start_settings start).2.2.2] at all
  exact all

theorem built_compute_units : (built start calls).compute_units = (Given.of start calls).compute_units := by
  have replaces : ∀ (self : TransactionBuilder sdk) method,
      (call self method).compute_units = (givenComputeUnits method).or self.compute_units :=
    fun self method => by rw [call_eq]
  have last := Runs.run_replaces replaces start.builder calls
  rw [(start_settings start).1, Option.or_none] at last
  exact last

theorem built_priority_fees : (built start calls).priority_fees = (Given.of start calls).priority_fees := by
  have replaces : ∀ (self : TransactionBuilder sdk) method,
      (call self method).priority_fees = (givenPriorityFees method).or self.priority_fees :=
    fun self method => by rw [call_eq]
  have last := Runs.run_replaces replaces start.builder calls
  rw [(start_settings start).2.1, Option.or_none] at last
  exact last

theorem built_blockhash : (built start calls).recent_blockhash = (Given.of start calls).blockhash := by
  have replaces : ∀ (self : TransactionBuilder sdk) method,
      (call self method).recent_blockhash = (givenBlockhash method).or self.recent_blockhash :=
    fun self method => by rw [call_eq]
  have last := Runs.run_replaces replaces start.builder calls
  rw [(start_settings start).2.2.1, Option.or_none] at last
  exact last

theorem built_signer (key : Pubkey) :
    find_signer (built start calls).signers key = (Given.of start calls).signer_of key := by
  have keeps : ∀ (self : TransactionBuilder sdk) method, find_signer (call self method).signers key =
      (find_signer self.signers key).or (find_signer (givenSigners method) key) :=
    fun self method => by rw [call_eq]; exact find_storeSigners _ _ key
  exact @Runs.run_keeps _ _ call _ (fun builder => find_signer builder.signers key) _ keeps start.builder calls

/-! ### The transactions after a run -/

theorem built_pre_ixs : pre_ixs (built start calls) = (Given.of start calls).budget := by
  rw [pre_ixs, built_compute_units, built_priority_fees, Given.budget]
  cases (Given.of start calls).compute_units <;> cases (Given.of start calls).priority_fees <;> rfl

theorem built_instructions : Transactions.ixs (built start calls) = (Given.of start calls).instructions := by
  rw [Transactions.ixs, built_pre_ixs, built_ixs, Given.instructions]
  by_cases empty : (Given.of start calls).ixs = []
  · rw [if_pos empty, Exec.bailIf_true _ (by rw [empty]; rfl), Exec.err_bind]
  · rw [if_neg empty, Exec.bailIf_false _ (mt List.eq_nil_of_length_eq_zero empty), Exec.ok_bind]
    by_cases many : 10 < ((Given.of start calls).budget ++ (Given.of start calls).ixs).length
    · simp only [if_pos many, Exec.bailIf_true _ many, Exec.err_bind]
    · simp only [if_neg many, Exec.bailIf_false _ many, Exec.ok_bind, Exec.pure_eq]

theorem built_signers : Transactions.signers (built start calls) = (Given.of start calls).signers := by
  rw [Transactions.signers, required_signers_eq, built_ixs, Given.signers, ← mapM_okOr]
  simp only [built_signer]
  rfl

/-- However a builder is built, its transactions are those of what it was given:
    all instructions in their order behind the budget of the last settings, signed
    for each marked key by the first signer that was given for it. -/
theorem transactions_of_run :
    to_legacy_tx (built start calls) = (Given.of start calls).legacy_tx ∧
      to_v0_tx (built start calls) = (Given.of start calls).v0_tx := by
  have payer := built_payer start calls
  have blockhash : blockhash (built start calls) = (Given.of start calls).blockhash.getD sdk.default_hash :=
    congrArg (fun hash => hash.getD sdk.default_hash) (built_blockhash start calls)
  constructor
  · have present : (¬ has_payer (built start calls) = true) =
        (((Given.of start calls).signer_of (Given.of start calls).payer).isNone = true) := by
      rw [has_payer, has_signer, built_signer, payer]
      simp [Given.of]
    rw [to_legacy_tx, built_instructions, built_signers, payer, blockhash, Given.legacy_tx]
    simp only [present]
    rfl
  · rw [to_v0_tx, built_instructions, built_signers, payer, blockhash, built_tables, Given.v0_tx]
    rfl

end

end SwitchboardOnDemand.Builders
