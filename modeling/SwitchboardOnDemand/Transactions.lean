import SwitchboardOnDemand.Error
import SwitchboardOnDemand.Runs
import SwitchboardOnDemand.Utils

/-!
# Transactions from instructions and signers

A builder collects instructions and signers, and signs a legacy or a versioned
transaction with those of its signers that the instructions mark. Messages, keys
and signatures come from the Solana SDK, of which only the calls are known
(`SolanaSdk`). The keys that are handed to the signing step are the marked ones,
each once (`signers_keys`, `signers_with_payer_keys`).
-/

namespace SwitchboardOnDemand.Transactions
open Rust SwitchboardOnDemand.Error SwitchboardOnDemand.Utils

structure AccountMeta where
  pubkey : Pubkey
  is_signer : Bool
  is_writable : Bool
  deriving Repr, DecidableEq

structure Instruction where
  program_id : Pubkey
  accounts : List AccountMeta
  data : Bytes
  deriving Repr, DecidableEq

/-- The parts of the Solana SDK that the builder calls. -/
structure SolanaSdk where
  /-- What `as_signer()` gives of a stored signer. -/
  Signer : Type
  pubkey : Signer → Pubkey
  Hash : Type
  default_hash : Hash
  AddressLookupTableAccount : Type
  set_compute_unit_limit : UInt32 → Instruction
  set_compute_unit_price : UInt64 → Instruction
  Transaction : Type
  /-- The unsigned legacy transaction, or the message of a panic. -/
  new_with_payer : List Instruction → Pubkey → Except String Transaction
  try_sign : Transaction → List Signer → Hash → Except String Transaction
  Message : Type
  try_compile : Pubkey → List Instruction → List AddressLookupTableAccount → Hash → Except String Message
  VersionedTransaction : Type
  try_new : Message → List Signer → Except String VersionedTransaction

structure TransactionBuilder (sdk : SolanaSdk) where
  payer : Pubkey
  ixs : List Instruction
  compute_units : Option UInt32
  priority_fees : Option UInt64
  recent_blockhash : Option sdk.Hash
  min_context_slot : Option UInt64
  address_lookup_tables : List sdk.AddressLookupTableAccount
  signers : List sdk.Signer

variable {sdk : SolanaSdk}

/-! ### Constructors and builder methods -/

def new (payer : Pubkey) : TransactionBuilder sdk := ⟨payer, [], none, none, none, none, [], []⟩

def default_builder : TransactionBuilder sdk := new ⟨(Vector.replicate 32 0).toList, Vector.length_toList⟩

def new_with_payer (payer : sdk.Signer) : TransactionBuilder sdk := { new (sdk.pubkey payer) with signers := [payer] }

def new_with_ixs (payer : Pubkey) (ixs : List Instruction) : TransactionBuilder sdk := { new payer with ixs := ixs }

def new_with_payer_and_ixs (payer : sdk.Signer) (ixs : List Instruction) : TransactionBuilder sdk :=
  { new (sdk.pubkey payer) with signers := [payer], ixs := ixs }

/-- `signers.iter().find(|s| s.as_signer().pubkey() == key)`. -/
def find_signer (signers : List sdk.Signer) (key : Pubkey) : Option sdk.Signer :=
  signers.find? fun s => sdk.pubkey s = key

def has_signer (self : TransactionBuilder sdk) (signer : Pubkey) : Bool := (find_signer self.signers signer).isSome

def has_payer (self : TransactionBuilder sdk) : Bool := has_signer self self.payer

/-- Keeps a signer unless one with its key is stored. -/
def add_signer (self : TransactionBuilder sdk) (signer : sdk.Signer) : TransactionBuilder sdk :=
  match find_signer self.signers (sdk.pubkey signer) with
  | none => { self with signers := self.signers ++ [signer] }
  | some _ => self

def add_signers (self : TransactionBuilder sdk) (signers : List sdk.Signer) : TransactionBuilder sdk :=
  signers.foldl add_signer self

/-- A call of a constructor. -/
inductive Constructor (sdk : SolanaSdk) where
  | default
  | new (payer : Pubkey)
  | new_with_payer (payer : sdk.Signer)
  | new_with_ixs (payer : Pubkey) (ixs : List Instruction)
  | new_with_payer_and_ixs (payer : sdk.Signer) (ixs : List Instruction)

/-- A call of a builder method; the two that fetch lookup tables are given what
    the node answered. -/
inductive Method (sdk : SolanaSdk) where
  | set_compute_units (compute_units : UInt32)
  | set_priority_fees (priority_fees : UInt64)
  | add_ix (ix : Instruction)
  | add_signer (signer : sdk.Signer)
  | add_signers (signers : List sdk.Signer)
  | set_recent_blockhash (blockhash : sdk.Hash)
  | set_min_context_slot (min_context_slot : UInt64)
  | add_address_lookup_account (address_lookup_table : sdk.AddressLookupTableAccount)
  | add_address_lookup_accounts (address_lookup_tables : List sdk.AddressLookupTableAccount)
  | add_address_lookup_table (fetched : Except OnDemandError sdk.AddressLookupTableAccount)
  | add_address_lookup_tables (fetched : Except OnDemandError (List sdk.AddressLookupTableAccount))

def Constructor.builder : Constructor sdk → TransactionBuilder sdk
  | .default => default_builder
  | .new payer => Transactions.new payer
  | .new_with_payer payer => Transactions.new_with_payer payer
  | .new_with_ixs payer ixs => Transactions.new_with_ixs payer ixs
  | .new_with_payer_and_ixs payer ixs => Transactions.new_with_payer_and_ixs payer ixs

def add_address_lookup_accounts (self : TransactionBuilder sdk) (tables : List sdk.AddressLookupTableAccount) :
    TransactionBuilder sdk :=
  { self with address_lookup_tables := self.address_lookup_tables ++ tables }

def call (self : TransactionBuilder sdk) : Method sdk → TransactionBuilder sdk
  | .set_compute_units compute_units => { self with compute_units := some compute_units }
  | .set_priority_fees priority_fees => { self with priority_fees := some priority_fees }
  | .add_ix ix => { self with ixs := self.ixs ++ [ix] }
  | .add_signer signer => add_signer self signer
  | .add_signers signers => add_signers self signers
  | .set_recent_blockhash blockhash => { self with recent_blockhash := some blockhash }
  | .set_min_context_slot min_context_slot => { self with min_context_slot := some min_context_slot }
  | .add_address_lookup_account table => add_address_lookup_accounts self [table]
  | .add_address_lookup_accounts tables => add_address_lookup_accounts self tables
  | .add_address_lookup_table (.ok table) => add_address_lookup_accounts self [table]
  | .add_address_lookup_table (.error _) => self
  | .add_address_lookup_tables (.ok tables) => add_address_lookup_accounts self tables
  | .add_address_lookup_tables (.error _) => self

/-- The builder after a constructor and a sequence of methods. -/
def built (start : Constructor sdk) (calls : List (Method sdk)) : TransactionBuilder sdk :=
  Runs.run call start.builder calls

/-! ### Signers and instructions -/

/-- One account of the loop in `required_signers`. -/
def add_required (signers_required : List Pubkey) (account : AccountMeta) : List Pubkey :=
  if account.is_signer && !signers_required.contains account.pubkey then signers_required ++ [account.pubkey]
  else signers_required

/-- The keys of the accounts that are marked as signers, each at its first place. -/
def required_signers (self : TransactionBuilder sdk) : List Pubkey :=
  self.ixs.foldl (fun signers_required ixn => ixn.accounts.foldl add_required signers_required) []

/-- The first stored signer for each required key. -/
def signers (self : TransactionBuilder sdk) : Exec OnDemandError (List sdk.Signer) :=
  (required_signers self).mapM fun required_signer =>
    Exec.okOr .SolanaMissingSigner (find_signer self.signers required_signer)

/-- The given payer for its key, and the first stored signer for every other one. -/
def signers_with_payer (self : TransactionBuilder sdk) (payer : sdk.Signer) :
    Exec OnDemandError (List sdk.Signer) := do
  Exec.bailIf (sdk.pubkey payer ≠ self.payer) .SolanaPayerMismatch
  (required_signers self).mapM fun required_signer =>
    if required_signer = self.payer then pure payer
    else Exec.okOr .SolanaMissingSigner (find_signer self.signers required_signer)

/-- The compute-budget instructions, the limit before the price. -/
def pre_ixs (self : TransactionBuilder sdk) : List Instruction :=
  (self.compute_units.toList.map fun compute_units =>
    sdk.set_compute_unit_limit (max (min compute_units 1400000) 200000)) ++
  self.priority_fees.toList.map fun priority_fees => sdk.set_compute_unit_price (min 10000 priority_fees)

def ixs (self : TransactionBuilder sdk) : Exec OnDemandError (List Instruction) := do
  Exec.bailIf (self.ixs.length = 0) .SolanaInstructionsEmpty
  let ixs := pre_ixs self ++ self.ixs
  Exec.bailIf (ixs.length > 10) .SolanaInstructionOverflow
  pure ixs

/-! ### Transactions -/

/-- The value of a call, or its panic. -/
def orPanic {ε α : Type} : Except String α → Exec ε α
  | .ok value => .ok value
  | .error message => .panic message

/-- `Result::unwrap`. -/
def unwrap {ε α : Type} : Except String α → Exec ε α
  | .ok value => .ok value
  | .error error => .panic s!"called `Result::unwrap()` on an `Err` value: {error}"

def build_legacy_tx (payer : Pubkey) (ixs : List Instruction) (signers : List sdk.Signer)
    (recent_blockhash : sdk.Hash) : Exec OnDemandError sdk.Transaction := do
  let tx ← orPanic (sdk.new_with_payer ixs payer)
  match sdk.try_sign tx signers recent_blockhash with
  | .ok signed => pure signed
  | .error _ => .err .SolanaSignError

/-- `recent_blockhash.unwrap_or_default()`. -/
def blockhash (self : TransactionBuilder sdk) : sdk.Hash := self.recent_blockhash.getD sdk.default_hash

def to_legacy_tx (self : TransactionBuilder sdk) : Exec OnDemandError sdk.Transaction := do
  Exec.bailIf (¬ has_payer self) .SolanaPayerSignerMissing
  let ixs ← ixs self
  let signers ← signers self
  build_legacy_tx self.payer ixs signers (blockhash self)

def to_legacy_tx_with_payer (self : TransactionBuilder sdk) (payer : sdk.Signer) :
    Exec OnDemandError sdk.Transaction := do
  Exec.bailIf (sdk.pubkey payer ≠ self.payer) .SolanaPayerMismatch
  let ixs ← ixs self
  let signers ← signers_with_payer self payer
  build_legacy_tx self.payer ixs signers (blockhash self)

/-- A given blockhash comes before the stored one. -/
def to_legacy_tx_with_payer_and_blockhash (self : TransactionBuilder sdk) (payer : sdk.Signer)
    (recent_blockhash : Option sdk.Hash) : Exec OnDemandError sdk.Transaction := do
  Exec.bailIf (sdk.pubkey payer ≠ self.payer) .SolanaPayerMismatch
  let ixs ← ixs self
  let signers ← signers_with_payer self payer
  build_legacy_tx self.payer ixs signers (recent_blockhash.getD (self.recent_blockhash.getD sdk.default_hash))

/-- The stored blockhash comes before a given one. -/
def to_legacy_tx_with_blockhash (self : TransactionBuilder sdk) (recent_blockhash : Option sdk.Hash) :
    Exec OnDemandError sdk.Transaction := do
  let ixs ← ixs self
  let signers ← signers self
  build_legacy_tx self.payer ixs signers (self.recent_blockhash.getD (recent_blockhash.getD sdk.default_hash))

/-- Both `unwrap`s panic on a failure. -/
def build_v0_tx (payer : Pubkey) (ixs : List Instruction) (signers : List sdk.Signer)
    (address_lookup_accounts : List sdk.AddressLookupTableAccount) (recent_blockhash : sdk.Hash) :
    Exec OnDemandError sdk.VersionedTransaction := do
  let v0_message ← unwrap (sdk.try_compile payer ixs address_lookup_accounts recent_blockhash)
  unwrap (sdk.try_new v0_message signers)

def to_v0_tx (self : TransactionBuilder sdk) : Exec OnDemandError sdk.VersionedTransaction := do
  let ixs ← ixs self
  let signers ← signers self
  build_v0_tx self.payer ixs signers self.address_lookup_tables (blockhash self)

def to_v0_tx_with_payer (self : TransactionBuilder sdk) (payer : sdk.Signer) :
    Exec OnDemandError sdk.VersionedTransaction := do
  Exec.bailIf (sdk.pubkey payer ≠ self.payer) .SolanaPayerMismatch
  let ixs ← ixs self
  let signers ← signers_with_payer self payer
  build_v0_tx self.payer ixs signers self.address_lookup_tables (blockhash self)

/-! ### The required signers -/

/-- Some instruction marks the key as a signer. -/
def Marked (ixs : List Instruction) (key : Pubkey) : Prop :=
  ∃ ix ∈ ixs, ∃ account ∈ ix.accounts, account.is_signer = true ∧ account.pubkey = key

theorem adds_iff (keys : List Pubkey) (account : AccountMeta) :
    (account.is_signer && !keys.contains account.pubkey) = true ↔ account.is_signer = true ∧ account.pubkey ∉ keys := by
  rw [Bool.and_eq_true, Bool.not_eq_true', List.contains_eq_mem, decide_eq_false_iff_not]

theorem mem_add_required {key : Pubkey} (keys : List Pubkey) (account : AccountMeta) :
    key ∈ add_required keys account ↔ key ∈ keys ∨ account.is_signer = true ∧ account.pubkey = key := by
  simp only [add_required, adds_iff]
  split
  · rename_i new
    rw [List.mem_append, List.mem_singleton, eq_comm]
    exact or_congr_right (by simp [new.1])
  · rename_i old
    constructor
    · exact .inl
    · rintro (member | ⟨signer, rfl⟩)
      · exact member
      · by_contra missing
        exact old ⟨signer, missing⟩

theorem nodup_add_required {keys : List Pubkey} (distinct : keys.Nodup) (account : AccountMeta) :
    (add_required keys account).Nodup := by
  simp only [add_required, adds_iff]
  split
  · rename_i new
    rw [List.nodup_append]
    refine ⟨distinct, List.nodup_singleton _, ?_⟩
    rintro a memberA b memberB rfl
    exact new.2 (List.mem_singleton.mp memberB ▸ memberA)
  · exact distinct

/-- The loops over the accounts and the instructions, from keys that are there. -/
theorem mem_accounts {key : Pubkey} (accounts : List AccountMeta) (keys : List Pubkey) :
    key ∈ accounts.foldl add_required keys ↔
      key ∈ keys ∨ ∃ account ∈ accounts, account.is_signer = true ∧ account.pubkey = key := by
  induction accounts generalizing keys with
  | nil => simp
  | cons account rest ih => simp [ih, mem_add_required, or_assoc]

theorem nodup_accounts (accounts : List AccountMeta) {keys : List Pubkey} (distinct : keys.Nodup) :
    (accounts.foldl add_required keys).Nodup := by
  induction accounts generalizing keys with
  | nil => exact distinct
  | cons account rest ih => exact ih (nodup_add_required distinct account)

theorem mem_instructions {key : Pubkey} (ixs : List Instruction) (keys : List Pubkey) :
    key ∈ ixs.foldl (fun signers_required ixn => ixn.accounts.foldl add_required signers_required) keys ↔
      key ∈ keys ∨ Marked ixs key := by
  induction ixs generalizing keys with
  | nil => simp [Marked]
  | cons ix rest ih =>
    rw [List.foldl_cons, ih, mem_accounts, or_assoc]
    simp [Marked]

theorem nodup_instructions (ixs : List Instruction) {keys : List Pubkey} (distinct : keys.Nodup) :
    (ixs.foldl (fun signers_required ixn => ixn.accounts.foldl add_required signers_required) keys).Nodup := by
  induction ixs generalizing keys with
  | nil => exact distinct
  | cons ix rest ih => exact ih (nodup_accounts ix.accounts distinct)

theorem mem_required_signers (self : TransactionBuilder sdk) (key : Pubkey) :
    key ∈ required_signers self ↔ Marked self.ixs key := by
  simp [required_signers, mem_instructions]

theorem nodup_required_signers (self : TransactionBuilder sdk) : (required_signers self).Nodup :=
  nodup_instructions self.ixs List.nodup_nil

/-! ### The signers handed on -/

/-- A signer with the key is stored. -/
def HasSigner (self : TransactionBuilder sdk) (key : Pubkey) : Prop := key ∈ self.signers.map sdk.pubkey

instance (self : TransactionBuilder sdk) (key : Pubkey) : Decidable (HasSigner self key) :=
  inferInstanceAs (Decidable (key ∈ self.signers.map sdk.pubkey))

theorem find_signer_key {signers : List sdk.Signer} {key : Pubkey} {signer : sdk.Signer}
    (found : find_signer signers key = some signer) : sdk.pubkey signer = key := by
  simpa using List.find?_some found

theorem find_signer_isSome_iff (signers : List sdk.Signer) (key : Pubkey) :
    (find_signer signers key).isSome ↔ key ∈ signers.map sdk.pubkey := by
  simp [find_signer, List.find?_isSome]

theorem has_signer_iff (self : TransactionBuilder sdk) (key : Pubkey) :
    has_signer self key = true ↔ HasSigner self key := find_signer_isSome_iff self.signers key

/-- The key of the signer that is found is the required one. -/
theorem keys_find_signer (self : TransactionBuilder sdk) (key : Pubkey) :
    sdk.pubkey <$> Exec.okOr OnDemandError.SolanaMissingSigner (find_signer self.signers key) =
      if HasSigner self key then .ok key else .err .SolanaMissingSigner := by
  have stored := find_signer_isSome_iff self.signers key
  cases found : find_signer self.signers key with
  | none =>
    rw [if_neg (by simpa [HasSigner, found] using stored)]
    rfl
  | some signer =>
    rw [if_pos (by simpa [HasSigner, found] using stored)]
    simp [Exec.okOr, find_signer_key found]

/-- Picking a signer for each key hands on these keys, or fails. -/
theorem keys_mapM {pick : Pubkey → Exec OnDemandError sdk.Signer} {good : Pubkey → Prop} [DecidablePred good]
    {error : OnDemandError} {keys : List Pubkey}
    (picked : ∀ key ∈ keys, sdk.pubkey <$> pick key = if good key then .ok key else .err error) :
    List.map sdk.pubkey <$> keys.mapM pick = if ∀ key ∈ keys, good key then .ok keys else .err error := by
  induction keys with
  | nil => simp
  | cons key rest ih =>
    have first := picked key List.mem_cons_self
    have others := ih fun other member => picked other (List.mem_cons_of_mem _ member)
    rw [List.mapM_cons]
    by_cases goodKey : good key
    · rw [if_pos goodKey] at first
      obtain ⟨signer, run, same⟩ := Exec.map_eq_ok.mp first
      rw [run, Exec.ok_bind]
      by_cases goodRest : ∀ other ∈ rest, good other
      · rw [if_pos goodRest] at others
        obtain ⟨signers, runRest, sameRest⟩ := Exec.map_eq_ok.mp others
        rw [runRest, Exec.ok_bind, if_pos (List.forall_mem_cons.mpr ⟨goodKey, goodRest⟩), Exec.pure_eq, Exec.map_ok,
          List.map_cons, same, sameRest]
      · rw [if_neg goodRest] at others
        rw [Exec.map_eq_err.mp others, Exec.err_bind, if_neg fun all => goodRest (List.forall_mem_cons.mp all).2]
        rfl
    · rw [if_neg goodKey] at first
      rw [Exec.map_eq_err.mp first, Exec.err_bind, if_neg fun all => goodKey (all key List.mem_cons_self)]
      rfl

/-- The stored signers that are handed on have the required keys. -/
theorem signers_keys (self : TransactionBuilder sdk) :
    List.map sdk.pubkey <$> signers self =
      if ∀ key ∈ required_signers self, HasSigner self key then .ok (required_signers self)
      else .err .SolanaMissingSigner :=
  keys_mapM fun key _ => keys_find_signer self key

/-- So have the payer and the stored signers. -/
theorem signers_with_payer_keys (self : TransactionBuilder sdk) {payer : sdk.Signer}
    (isPayer : sdk.pubkey payer = self.payer) :
    List.map sdk.pubkey <$> signers_with_payer self payer =
      if ∀ key ∈ required_signers self, key = self.payer ∨ HasSigner self key then .ok (required_signers self)
      else .err .SolanaMissingSigner := by
  rw [signers_with_payer, Exec.bailIf_false _ (not_not.mpr isPayer), Exec.ok_bind]
  refine keys_mapM fun key _ => ?_
  by_cases own : key = self.payer
  · rw [if_pos own, if_pos (.inl own), Exec.pure_eq, Exec.map_ok, isPayer, own]
  · rw [if_neg own, keys_find_signer]
    simp only [own, false_or]

/-! ### The stored signers -/

/-- No two stored signers have one key. -/
def StoredDistinct (self : TransactionBuilder sdk) : Prop := (self.signers.map sdk.pubkey).Nodup

theorem storedDistinct_add_signer {self : TransactionBuilder sdk} (distinct : StoredDistinct self)
    (signer : sdk.Signer) : StoredDistinct (add_signer self signer) := by
  have stored := find_signer_isSome_iff self.signers (sdk.pubkey signer)
  unfold add_signer
  split
  · rename_i missing
    rw [missing] at stored
    rw [StoredDistinct, List.map_append, List.nodup_append]
    refine ⟨distinct, List.nodup_singleton _, ?_⟩
    rintro a memberA b memberB rfl
    rw [List.map_singleton, List.mem_singleton] at memberB
    exact absurd (stored.mpr (memberB ▸ memberA)) (by simp)
  · exact distinct

theorem storedDistinct_call {self : TransactionBuilder sdk} (distinct : StoredDistinct self) (method : Method sdk) :
    StoredDistinct (call self method) := by
  cases method with
  | add_signer signer => exact storedDistinct_add_signer distinct signer
  | add_signers signers =>
    have kept : ∀ (builder : TransactionBuilder sdk) signer, StoredDistinct builder →
        StoredDistinct (add_signer builder signer) := fun _ signer stored => storedDistinct_add_signer stored signer
    exact Runs.run_invariant kept distinct signers
  | add_address_lookup_table fetched => cases fetched <;> exact distinct
  | add_address_lookup_tables fetched => cases fetched <;> exact distinct
  | _ => exact distinct

/-- However a builder is built, it stores one signer for a key. -/
theorem storedDistinct_built (start : Constructor sdk) (calls : List (Method sdk)) :
    StoredDistinct (built start calls) := by
  have kept : ∀ (builder : TransactionBuilder sdk) method, StoredDistinct builder →
      StoredDistinct (call builder method) := fun _ method stored => storedDistinct_call stored method
  have first : StoredDistinct start.builder := by
    cases start with
    | new_with_payer payer => exact List.nodup_singleton _
    | new_with_payer_and_ixs payer ixs => exact List.nodup_singleton _
    | _ => exact List.nodup_nil
  exact Runs.run_invariant kept first calls

end SwitchboardOnDemand.Transactions
