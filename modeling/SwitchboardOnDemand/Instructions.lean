import SwitchboardOnDemand.Fetching
import SwitchboardOnDemand.InstructionData
import SwitchboardOnDemand.LookupTables
import SwitchboardOnDemand.Sha256
import SwitchboardOnDemand.SlothashSysvar

/-!
# Building instructions

Every instruction of the program that the crate builds, with the accounts it
fetches on the way. Each names the program of the network, carries its parameters
and marks the keys that its request makes signers, no others (`requests_build`);
so a transaction of such instructions needs just these signers
(`transaction_of_requests`). The payment of a subsidy loops over the oracles of a
queue and fetches each of them (`subsidy_accounts`).
-/

namespace SwitchboardOnDemand.Instructions
open Rust SwitchboardOnDemand.Utils SwitchboardOnDemand.Transactions SwitchboardOnDemand.InstructionData
open SwitchboardOnDemand.Addresses SwitchboardOnDemand.ZeroCopy SwitchboardOnDemand.LookupTables
open SwitchboardOnDemand.Signing
open SwitchboardOnDemand.OracleAccounts (firstOracle secondOracle)
open SwitchboardOnDemand.Fetching (ledgerClient fetch_async_ledgerClient zeroRecord)

/-- `AccountMeta::new`. -/
def new_writable (pubkey : Pubkey) (is_signer : Bool) : AccountMeta := ⟨pubkey, is_signer, true⟩

/-- `AccountMeta::new_readonly`. -/
def new_readonly (pubkey : Pubkey) (is_signer : Bool) : AccountMeta := ⟨pubkey, is_signer, false⟩

/-- `utils::build_ix`. -/
def build_ix {ε α : Type} (program_id : Pubkey) (accounts : List AccountMeta) (type : InstructionType α) (params : α) :
    Exec ε Instruction := do
  let data ← type.data params
  pure ⟨program_id, accounts, data⟩

variable (api : AddressApi) (rpc : RpcClient)

/-! ### Accounts -/

structure GuardianQuoteVerifyAccounts where
  guardian : Pubkey
  oracle : Pubkey
  authority : Pubkey
  guardian_queue : Pubkey
  state : Pubkey
  recent_slothashes : Pubkey

def GuardianQuoteVerifyAccounts.to_account_metas (self : GuardianQuoteVerifyAccounts) : List AccountMeta :=
  [new_writable self.guardian false, new_writable self.oracle false, new_readonly self.authority true,
    new_writable self.guardian_queue false, new_readonly self.state false, new_readonly self.recent_slothashes false]

structure OracleHeartbeatAccounts where
  oracle : Pubkey
  oracle_signer : Pubkey
  queue : Pubkey
  queue_authority : Pubkey
  gc_node : Pubkey
  payer : Pubkey
  stake_program : Pubkey
  delegation_pool : Pubkey
  delegation_group : Pubkey
  switch_mint : Pubkey

def OracleHeartbeatAccounts.to_account_metas (self : OracleHeartbeatAccounts) : List AccountMeta :=
  let state_pubkey := get_pda api
  let subsidy_vault := get_associated_token_address api state_pubkey self.switch_mint
  let queue_escrow := get_associated_token_address api self.queue native_mint
  let oracle_wsol_reward_pool_escrow := reward_pool_escrow api self.stake_program self.delegation_pool native_mint
  let oracle_switch_reward_pool_escrow :=
    reward_pool_escrow api self.stake_program self.delegation_pool self.switch_mint
  [new_writable self.oracle false, new_writable (stats_key api self.oracle) false,
    new_readonly self.oracle_signer true, new_writable self.queue false, new_writable self.gc_node false,
    new_writable state_pubkey false, new_writable self.payer true, new_readonly system_program false,
    new_readonly SPL_TOKEN_PROGRAM_ID false, new_readonly native_mint false, new_writable queue_escrow false,
    new_readonly self.stake_program false, new_writable self.delegation_pool false,
    new_writable self.delegation_group false, new_writable subsidy_vault false,
    new_writable oracle_wsol_reward_pool_escrow false, new_writable oracle_switch_reward_pool_escrow false]

structure OracleHeartbeatV2Accounts where
  oracle : Pubkey
  oracle_signer : Pubkey
  queue : Pubkey
  gc_node : Pubkey

def OracleHeartbeatV2Accounts.to_account_metas (self : OracleHeartbeatV2Accounts) : List AccountMeta :=
  let state_pubkey := get_pda api
  [new_writable self.oracle false, new_writable (stats_key api self.oracle) false,
    new_readonly self.oracle_signer true, new_writable self.queue false, new_writable self.gc_node false,
    new_writable state_pubkey false]

structure OracleResetLutAccounts where
  oracle : Pubkey
  authority : Pubkey
  payer : Pubkey
  system_program : Pubkey
  state : Pubkey
  lut_signer : Pubkey
  lut : Pubkey
  address_lookup_table_program : Pubkey

def OracleResetLutAccounts.to_account_metas (self : OracleResetLutAccounts) : List AccountMeta :=
  let state_pubkey := get_pda api
  [new_writable self.oracle false, new_readonly self.authority true, new_writable self.payer false,
    new_readonly Addresses.system_program false, new_readonly state_pubkey false, new_readonly self.lut_signer false,
    new_writable self.lut false, new_readonly Addresses.address_lookup_table_program false]

structure OracleSetConfigsAccounts where
  oracle : Pubkey
  authority : Pubkey

def OracleSetConfigsAccounts.to_account_metas (self : OracleSetConfigsAccounts) : List AccountMeta :=
  [new_writable self.oracle false, new_readonly self.authority true]

structure OracleSyncLutAccounts where
  oracle : Pubkey
  queue : Pubkey
  ncn : Pubkey
  vault : Pubkey
  state : Pubkey
  authority : Pubkey
  operator : Pubkey
  ncn_operator_state : Pubkey
  operator_vault_ticket : Pubkey
  vault_operator_delegation : Pubkey
  lut_signer : Pubkey
  lut : Pubkey
  address_lookup_table_program : Pubkey
  payer : Pubkey
  system_program : Pubkey

def OracleSyncLutAccounts.to_account_metas (self : OracleSyncLutAccounts) : List AccountMeta :=
  let state_pubkey := get_pda api
  [new_writable self.oracle false, new_readonly self.queue false, new_readonly self.ncn false,
    new_readonly self.vault false, new_readonly state_pubkey false, new_readonly self.authority true,
    new_readonly self.operator false, new_readonly self.ncn_operator_state false,
    new_readonly self.operator_vault_ticket false, new_readonly self.vault_operator_delegation false,
    new_readonly self.lut_signer false, new_writable self.lut false,
    new_readonly Addresses.address_lookup_table_program false, new_writable self.payer true,
    new_readonly Addresses.system_program false]

structure AttestationPermissionSetAccounts where
  authority : Pubkey
  granter : Pubkey
  grantee : Pubkey

def AttestationPermissionSetAccounts.to_account_metas (self : AttestationPermissionSetAccounts) : List AccountMeta :=
  [new_readonly self.authority true, new_readonly self.granter false, new_writable self.grantee false]

structure QueueGarbageCollectAccounts where
  queue : Pubkey
  oracle : Pubkey

def QueueGarbageCollectAccounts.to_account_metas (self : QueueGarbageCollectAccounts) : List AccountMeta :=
  [new_writable self.queue false, new_writable self.oracle false]

structure QueuePayRewardAccounts where
  queue : Pubkey
  oracle : Pubkey
  switch_mint : Pubkey
  payer : Pubkey
  remaining_accounts : List AccountMeta

def QueuePayRewardAccounts.to_account_metas (self : QueuePayRewardAccounts) : List AccountMeta :=
  let program_state := get_pda api
  let oracle_stats := stats_key api self.oracle
  [new_writable self.queue false, new_readonly program_state false, new_readonly system_program false,
    new_readonly self.oracle false, new_writable oracle_stats false, new_readonly SPL_TOKEN_PROGRAM_ID false,
    new_readonly SPL_ASSOCIATED_TOKEN_ACCOUNT_PROGRAM_ID false, new_readonly native_mint false,
    new_readonly self.switch_mint false, new_writable self.payer true] ++ self.remaining_accounts

structure QueuePaySubsidyAccounts where
  queue : Pubkey
  vault : Pubkey
  switch_mint : Pubkey
  payer : Pubkey
  remaining_accounts : List AccountMeta

def QueuePaySubsidyAccounts.to_account_metas (self : QueuePaySubsidyAccounts) : List AccountMeta :=
  let program_state := get_pda api
  let subsidy_vault := get_associated_token_address api program_state self.switch_mint
  let reward_vault := get_associated_token_address api self.vault self.switch_mint
  let vault_config := vault_config api
  [new_writable self.queue false, new_readonly program_state false, new_readonly system_program false,
    new_readonly self.vault false, new_writable reward_vault false, new_writable subsidy_vault false,
    new_readonly SPL_TOKEN_PROGRAM_ID false, new_readonly SPL_ASSOCIATED_TOKEN_ACCOUNT_PROGRAM_ID false,
    new_readonly native_mint false, new_readonly self.switch_mint false, new_readonly vault_config false,
    new_writable self.payer true] ++ self.remaining_accounts

structure QueueResetLutAccounts where
  queue : Pubkey
  authority : Pubkey
  payer : Pubkey
  recent_slot : UInt64

def QueueResetLutAccounts.to_account_metas (self : QueueResetLutAccounts) : List AccountMeta :=
  let program_state := get_pda api
  let lut_signer := find_lut_signer api self.queue
  [new_writable self.queue false, new_readonly self.authority true, new_writable self.payer true,
    new_readonly system_program false, new_readonly program_state false, new_readonly lut_signer false,
    new_writable (derive_lookup_table_address api lut_signer self.recent_slot).1 false,
    new_readonly address_lookup_table_program false]

structure RandomnessCommitAccounts where
  randomness : Pubkey
  queue : Pubkey
  oracle : Pubkey
  recent_slothashes : Pubkey
  authority : Pubkey

def RandomnessCommitAccounts.to_account_metas (self : RandomnessCommitAccounts) : List AccountMeta :=
  [new_writable self.randomness false, new_readonly self.queue false, new_writable self.oracle false,
    new_readonly SlothashSysvar.slot_hashes_ID false, new_readonly self.authority true]

/-! ### Requests -/

structure GuardianQuoteVerifyArgs where
  guardian : Pubkey
  oracle : Pubkey
  authority : Pubkey
  guardian_queue : Pubkey
  timestamp : Int64
  mr_enclave : FixedBytes 32
  idx : UInt32
  ed25519_key : Pubkey
  secp256k1_key : FixedBytes 64
  slot : UInt64
  signature : FixedBytes 64
  recovery_id : UInt8
  advisories : List UInt32

def guardian_quote_verify (args : GuardianQuoteVerifyArgs) : Exec CrateError Instruction :=
  build_ix (owner api)
    (GuardianQuoteVerifyAccounts.to_account_metas
      ⟨args.guardian, args.oracle, args.authority, args.guardian_queue, get_pda api, SlothashSysvar.slot_hashes_ID⟩)
    Name.GuardianQuoteVerify.type
    (⟨args.timestamp, args.mr_enclave, args.idx, args.ed25519_key, args.secp256k1_key, args.slot, args.signature,
      args.recovery_id, args.advisories⟩ : GuardianQuoteVerifyParams)

structure OracleHeartbeatArgs where
  oracle : Pubkey
  oracle_signer : Pubkey
  queue : Pubkey
  queue_authority : Pubkey
  gc_node : Pubkey
  uri : Option (FixedBytes 64)
  pending_paid_accounts : List Pubkey
  escrows : List Pubkey
  payer : Pubkey

/-- `State::fetch_async`. -/
def fetch_state : Except CrateError AccountLayouts.State := fetch_async rpc .state (get_pda api)

def oracle_heartbeat (args : OracleHeartbeatArgs) : Exec CrateError Instruction := do
  let state_key := get_pda api
  let state ← Exec.ofResult (fetch_state api rpc)
  let pool := delegation_pool api state.stake_program state_key (stats_key api args.oracle) state.stake_pool
  let group := delegation_group api state.stake_program state_key state.stake_pool args.queue
  let ix ← build_ix (owner api)
    (OracleHeartbeatAccounts.to_account_metas api
      ⟨args.oracle, args.oracle_signer, args.queue, args.queue_authority, args.gc_node, args.payer, state.stake_program,
        pool, group, state.switch_mint⟩)
    Name.OracleHeartbeat.type (⟨args.uri⟩ : OracleHeartbeatParams)
  let paid := args.pending_paid_accounts.map fun ppa => new_readonly ppa false
  let escrows := args.escrows.map fun escrow => new_writable escrow false
  pure { ix with accounts := ix.accounts ++ paid ++ escrows }

structure OracleHeartbeatV2Args where
  oracle : Pubkey
  oracle_signer : Pubkey
  gc_node : Pubkey
  uri : Option (FixedBytes 64)

def oracle_heartbeat_v2 (args : OracleHeartbeatV2Args) : Exec CrateError Instruction := do
  let oracle_data : AccountLayouts.OracleAccountData ← Exec.ofResult (fetch_async rpc .oracle args.oracle)
  build_ix (owner api)
    (OracleHeartbeatV2Accounts.to_account_metas api ⟨args.oracle, args.oracle_signer, oracle_data.queue, args.gc_node⟩)
    Name.OracleHeartbeatV2.type (⟨args.uri⟩ : OracleHeartbeatV2Params)

structure OracleResetLutArgs where
  oracle : Pubkey
  payer : Pubkey
  recent_slot : UInt64

/-- The payer is the authority of the oracle, whatever the arguments say. -/
def oracle_reset_lut (args : OracleResetLutArgs) : Exec CrateError Instruction := do
  let oracle_data : AccountLayouts.OracleAccountData ← Exec.ofResult (fetch_async rpc .oracle args.oracle)
  let authority := oracle_data.authority
  let payer := oracle_data.authority
  let lut_signer := find_lut_signer api args.oracle
  let lut := (derive_lookup_table_address api lut_signer args.recent_slot).1
  build_ix (owner api)
    (OracleResetLutAccounts.to_account_metas api
      ⟨args.oracle, authority, payer, system_program, get_pda api, lut_signer, lut, address_lookup_table_program⟩)
    Name.OracleResetLut.type (⟨args.recent_slot⟩ : OracleResetLutParams)

structure OracleSetConfigsArgs where
  oracle : Pubkey
  authority : Pubkey
  secp_authority : FixedBytes 64

def oracle_set_configs (args : OracleSetConfigsArgs) : Exec CrateError Instruction :=
  build_ix (owner api) (OracleSetConfigsAccounts.to_account_metas ⟨args.oracle, args.authority⟩)
    Name.OracleSetConfigs.type (⟨some args.authority, some args.secp_authority⟩ : OracleSetConfigsParams)

structure OracleSyncLutArgs where
  oracle : Pubkey
  vault : Pubkey
  payer : Pubkey

/-- Here too the payer is the authority of the oracle. -/
def oracle_sync_lut (args : OracleSyncLutArgs) : Exec CrateError Instruction := do
  let oracle_data : AccountLayouts.OracleAccountData ← Exec.ofResult (fetch_async rpc .oracle args.oracle)
  let queue := oracle_data.queue
  let queue_data : AccountLayouts.QueueAccountData ← Exec.ofResult (fetch_async rpc .queue queue)
  let authority := oracle_data.authority
  let operator := oracle_data.operator
  let payer := oracle_data.authority
  let lut_signer := find_lut_signer api queue
  let lut := (derive_lookup_table_address api lut_signer queue_data.lut_slot).1
  build_ix (owner api)
    (OracleSyncLutAccounts.to_account_metas api
      ⟨args.oracle, queue, queue_data.ncn, args.vault, get_pda api, authority, operator,
        ncn_operator_state api queue_data.ncn operator, operator_vault_ticket api operator args.vault,
        vault_operator_delegation api args.vault operator, lut_signer, lut, address_lookup_table_program, payer,
        system_program⟩)
    Name.OracleSyncLut.type ()

inductive SwitchboardPermission where
  | None
  | PermitOracleHeartbeat
  | PermitOracleQueueUsage
  deriving Repr, DecidableEq

/-- `permission as u8`. -/
def SwitchboardPermission.toU8 : SwitchboardPermission → UInt8
  | None => 0
  | PermitOracleHeartbeat => 1
  | PermitOracleQueueUsage => 2

def attestation_permission_set (granter authority grantee : Pubkey) (permission : SwitchboardPermission)
    (enable : Bool) : Exec CrateError Instruction :=
  build_ix (owner api) (AttestationPermissionSetAccounts.to_account_metas ⟨authority, granter, grantee⟩)
    Name.AttestationPermissionSet.type (⟨permission.toU8, enable⟩ : AttestationPermissionSetParams)

structure QueueGarbageCollectArgs where
  queue : Pubkey
  oracle : Pubkey
  idx : UInt32

def queue_garbage_collect (args : QueueGarbageCollectArgs) : Exec CrateError Instruction :=
  build_ix (owner api) (QueueGarbageCollectAccounts.to_account_metas ⟨args.queue, args.oracle⟩)
    Name.QueueGarbageCollect.type (⟨args.idx⟩ : QueueGarbageCollectParams)

structure QueuePayRewardArgs where
  queue : Pubkey
  oracle : Pubkey
  payer : Pubkey

/-- An operator that is set, and its token account: what both payments add. -/
def operator_accounts (operator switch_mint : Pubkey) : List AccountMeta :=
  if operator = AccountMethods.default_pubkey then []
  else [new_readonly operator false, new_writable (get_associated_token_address api operator switch_mint) false]

def queue_pay_reward (args : QueuePayRewardArgs) : Exec CrateError Instruction := do
  let state ← Exec.ofResult (fetch_state api rpc)
  let switch_mint := state.switch_mint
  let oracle_data : AccountLayouts.OracleAccountData ← Exec.ofResult (fetch_async rpc .oracle args.oracle)
  let remaining_accounts := operator_accounts api oracle_data.operator switch_mint
  build_ix (owner api)
    (QueuePayRewardAccounts.to_account_metas api
      ⟨args.queue, args.oracle, state.switch_mint, args.payer, remaining_accounts⟩)
    Name.QueuePayReward.type ()

structure QueuePaySubsidyArgs where
  queue : Pubkey
  vault : Pubkey
  payer : Pubkey

/-- One turn of the loop over the oracles of the queue. -/
def push_oracle (switch_mint : Pubkey) (remaining_accounts : List AccountMeta) (oracle : Pubkey) :
    Exec CrateError (List AccountMeta) := do
  let oracle_stats := stats_key api oracle
  let remaining_accounts := remaining_accounts ++ [new_readonly oracle false, new_readonly oracle_stats false]
  let oracle_data : AccountLayouts.OracleAccountData ← Exec.ofResult (fetch_async rpc .oracle oracle)
  pure (remaining_accounts ++ operator_accounts api oracle_data.operator switch_mint)

def queue_pay_subsidy (args : QueuePaySubsidyArgs) : Exec CrateError Instruction := do
  let state ← Exec.ofResult (fetch_state api rpc)
  let switch_mint := state.switch_mint
  let queue_data : AccountLayouts.QueueAccountData ← Exec.ofResult (fetch_async rpc .queue args.queue)
  let oracles ← AccountMethods.oracle_keys queue_data
  let remaining_accounts ← oracles.foldlM (push_oracle api rpc switch_mint) []
  build_ix (owner api)
    (QueuePaySubsidyAccounts.to_account_metas api
      ⟨args.queue, args.vault, state.switch_mint, args.payer, remaining_accounts⟩)
    Name.QueuePaySubsidy.type ()

def randomness_commit (randomness queue oracle authority : Pubkey) : Exec CrateError Instruction :=
  build_ix (owner api)
    (RandomnessCommitAccounts.to_account_metas ⟨randomness, queue, oracle, SlothashSysvar.slot_hashes_ID, authority⟩)
    Name.RandomnessCommit.type ()

/-- A call of one of these. -/
inductive Request where
  | guardian_quote_verify (args : GuardianQuoteVerifyArgs)
  | oracle_heartbeat (args : OracleHeartbeatArgs)
  | oracle_heartbeat_v2 (args : OracleHeartbeatV2Args)
  | oracle_reset_lut (args : OracleResetLutArgs)
  | oracle_set_configs (args : OracleSetConfigsArgs)
  | oracle_sync_lut (args : OracleSyncLutArgs)
  | attestation_permission_set (granter authority grantee : Pubkey) (permission : SwitchboardPermission) (enable : Bool)
  | queue_garbage_collect (args : QueueGarbageCollectArgs)
  | queue_pay_reward (args : QueuePayRewardArgs)
  | queue_pay_subsidy (args : QueuePaySubsidyArgs)
  | randomness_commit (randomness queue oracle authority : Pubkey)

def Request.build : Request → Exec CrateError Instruction
  | guardian_quote_verify args => Instructions.guardian_quote_verify api args
  | oracle_heartbeat args => Instructions.oracle_heartbeat api rpc args
  | oracle_heartbeat_v2 args => Instructions.oracle_heartbeat_v2 api rpc args
  | oracle_reset_lut args => Instructions.oracle_reset_lut api rpc args
  | oracle_set_configs args => Instructions.oracle_set_configs api args
  | oracle_sync_lut args => Instructions.oracle_sync_lut api rpc args
  | attestation_permission_set granter authority grantee permission enable =>
    Instructions.attestation_permission_set api granter authority grantee permission enable
  | queue_garbage_collect args => Instructions.queue_garbage_collect api args
  | queue_pay_reward args => Instructions.queue_pay_reward api rpc args
  | queue_pay_subsidy args => Instructions.queue_pay_subsidy api rpc args
  | randomness_commit randomness queue oracle authority =>
    Instructions.randomness_commit api randomness queue oracle authority

/-! ### What a request asks for -/

/-- The instruction with its parameters. -/
def Request.call : Request → Call
  | guardian_quote_verify args => ⟨.GuardianQuoteVerify,
    (⟨args.timestamp, args.mr_enclave, args.idx, args.ed25519_key, args.secp256k1_key, args.slot, args.signature,
      args.recovery_id, args.advisories⟩ : GuardianQuoteVerifyParams)⟩
  | oracle_heartbeat args => ⟨.OracleHeartbeat, (⟨args.uri⟩ : OracleHeartbeatParams)⟩
  | oracle_heartbeat_v2 args => ⟨.OracleHeartbeatV2, (⟨args.uri⟩ : OracleHeartbeatV2Params)⟩
  | oracle_reset_lut args => ⟨.OracleResetLut, (⟨args.recent_slot⟩ : OracleResetLutParams)⟩
  | oracle_set_configs args =>
    ⟨.OracleSetConfigs, (⟨some args.authority, some args.secp_authority⟩ : OracleSetConfigsParams)⟩
  | oracle_sync_lut _ => ⟨.OracleSyncLut, ()⟩
  | attestation_permission_set _ _ _ permission enable =>
    ⟨.AttestationPermissionSet, (⟨permission.toU8, enable⟩ : AttestationPermissionSetParams)⟩
  | queue_garbage_collect args => ⟨.QueueGarbageCollect, (⟨args.idx⟩ : QueueGarbageCollectParams)⟩
  | queue_pay_reward _ => ⟨.QueuePayReward, ()⟩
  | queue_pay_subsidy _ => ⟨.QueuePaySubsidy, ()⟩
  | randomness_commit _ _ _ _ => ⟨.RandomnessCommit, ()⟩

/-- The authority that the account of an oracle names. -/
def AuthorityOf (oracle authority : Pubkey) : Prop :=
  ∃ data, fetch_async rpc .oracle oracle = .ok data ∧ AccountLayouts.OracleAccountData.authority data = authority

/-- The keys whose signatures a request needs. -/
def Request.Signs : Request → Pubkey → Prop
  | guardian_quote_verify args, key => args.authority = key
  | oracle_heartbeat args, key => args.oracle_signer = key ∨ args.payer = key
  | oracle_heartbeat_v2 args, key => args.oracle_signer = key
  | oracle_reset_lut args, key => AuthorityOf rpc args.oracle key
  | oracle_set_configs args, key => args.authority = key
  | oracle_sync_lut args, key => AuthorityOf rpc args.oracle key
  | attestation_permission_set _ authority _ _ _, key => authority = key
  | queue_garbage_collect _, _ => False
  | queue_pay_reward args, key => args.payer = key
  | queue_pay_subsidy args, key => args.payer = key
  | randomness_commit _ _ _ authority, key => authority = key

/-- Some of the accounts is marked as a signer with the key. -/
def MarkedIn (accounts : List AccountMeta) (key : Pubkey) : Prop :=
  ∃ account ∈ accounts, account.is_signer = true ∧ account.pubkey = key

/-- An instruction of the program with a call's data, which marks certain keys. -/
structure Asks (api : AddressApi) (call : Call) (signs : Pubkey → Prop) (ix : Instruction) : Prop where
  program : ix.program_id = owner api
  data : read_call ix.data = some (call, [])
  marked : ∀ key, MarkedIn ix.accounts key ↔ signs key

/-! ### What is built -/

section
variable {api rpc} {ix : Instruction}

@[simp] theorem markedIn_nil (key : Pubkey) : ¬ MarkedIn [] key := by simp [MarkedIn]

@[simp] theorem markedIn_writable (pubkey : Pubkey) (is_signer : Bool) (rest : List AccountMeta) (key : Pubkey) :
    MarkedIn (new_writable pubkey is_signer :: rest) key ↔ is_signer = true ∧ pubkey = key ∨ MarkedIn rest key := by
  simp [MarkedIn, new_writable]

@[simp] theorem markedIn_readonly (pubkey : Pubkey) (is_signer : Bool) (rest : List AccountMeta) (key : Pubkey) :
    MarkedIn (new_readonly pubkey is_signer :: rest) key ↔ is_signer = true ∧ pubkey = key ∨ MarkedIn rest key := by
  simp [MarkedIn, new_readonly]

@[simp] theorem markedIn_append (a b : List AccountMeta) (key : Pubkey) :
    MarkedIn (a ++ b) key ↔ MarkedIn a key ∨ MarkedIn b key := by
  simp [MarkedIn, or_and_right, exists_or]

@[simp] theorem markedIn_map_readonly (keys : List Pubkey) (key : Pubkey) :
    ¬ MarkedIn (keys.map fun k => new_readonly k false) key := by
  simp [MarkedIn, new_readonly]

@[simp] theorem markedIn_map_writable (keys : List Pubkey) (key : Pubkey) :
    ¬ MarkedIn (keys.map fun k => new_writable k false) key := by
  simp [MarkedIn, new_writable]

@[simp] theorem markedIn_operator_accounts (operator switch_mint key : Pubkey) :
    ¬ MarkedIn (operator_accounts api operator switch_mint) key := by
  unfold operator_accounts
  split <;> simp

/-- What `build_ix` makes of a call. -/
theorem asks_of_build_ix {call : Call} {signs : Pubkey → Prop} {accounts : List AccountMeta}
    (built : (build_ix (owner api) accounts call.1.type call.2 : Exec CrateError Instruction) = .ok ix)
    (marked : ∀ key, MarkedIn accounts key ↔ signs key) : Asks api call signs ix := by
  obtain ⟨data, written, ends⟩ := Exec.bind_eq_ok.mp built
  obtain rfl := Exec.ok.inj ends
  refine ⟨rfl, (read_call_iff data call []).mpr ⟨data, written, (List.append_nil data).symm⟩, marked⟩

/-- What the payment of a subsidy adds for one oracle. -/
def AccountsOf (api : AddressApi) (rpc : RpcClient) (switch_mint oracle : Pubkey) (accounts : List AccountMeta) : Prop :=
  ∃ data : AccountLayouts.OracleAccountData, fetch_async rpc .oracle oracle = .ok data ∧
    accounts = [new_readonly oracle false, new_readonly (stats_key api oracle) false] ++
      operator_accounts api data.operator switch_mint

theorem push_oracle_ok_iff (switch_mint oracle : Pubkey) (before after : List AccountMeta) :
    push_oracle api rpc switch_mint before oracle = .ok after ↔
      ∃ accounts, AccountsOf api rpc switch_mint oracle accounts ∧ after = before ++ accounts := by
  unfold push_oracle
  rw [Exec.bind_eq_ok]
  constructor
  · rintro ⟨data, read, ends⟩
    obtain rfl := Exec.ok.inj ends
    exact ⟨_, ⟨data, Exec.ofResult_eq_ok.mp read, rfl⟩, by simp⟩
  · rintro ⟨_, ⟨data, read, rfl⟩, rfl⟩
    exact ⟨data, Exec.ofResult_eq_ok.mpr read, congrArg Exec.ok (by simp)⟩

/-- The loop over the oracles fetches each of them and adds its accounts in turn. -/
theorem push_oracles_ok_iff (switch_mint : Pubkey) (oracles : List Pubkey) (before after : List AccountMeta) :
    oracles.foldlM (push_oracle api rpc switch_mint) before = .ok after ↔
      ∃ each, List.Forall₂ (AccountsOf api rpc switch_mint) oracles each ∧ after = before ++ each.flatten := by
  induction oracles generalizing before with
  | nil =>
    constructor
    · intro done
      cases done
      exact ⟨[], .nil, by simp⟩
    · rintro ⟨_, ⟨⟩, rfl⟩
      simp
  | cons oracle rest ih =>
    rw [List.foldlM_cons, Exec.bind_eq_ok]
    constructor
    · rintro ⟨here, first, others⟩
      obtain ⟨accounts, added, rfl⟩ := (push_oracle_ok_iff switch_mint oracle before here).mp first
      obtain ⟨each, all, rfl⟩ := (ih _).mp others
      exact ⟨accounts :: each, .cons added all, by simp⟩
    · rintro ⟨_, _ | ⟨added, all⟩, rfl⟩
      exact ⟨_, (push_oracle_ok_iff switch_mint oracle before _).mpr ⟨_, added, rfl⟩,
        (ih _).mpr ⟨_, all, by simp⟩⟩

theorem markedIn_accountsOf {switch_mint oracle key : Pubkey} {accounts : List AccountMeta}
    (added : AccountsOf api rpc switch_mint oracle accounts) : ¬ MarkedIn accounts key := by
  obtain ⟨data, _, rfl⟩ := added
  simp

theorem markedIn_flatten {switch_mint key : Pubkey} {oracles : List Pubkey} {each : List (List AccountMeta)}
    (all : List.Forall₂ (AccountsOf api rpc switch_mint) oracles each) : ¬ MarkedIn each.flatten key := by
  induction all with
  | nil => simp
  | cons added _ ih => simp [markedIn_accountsOf added, ih]

theorem authorityOf_iff {oracle key : Pubkey} {data : AccountLayouts.OracleAccountData}
    (read : (Exec.ofResult (fetch_async rpc .oracle oracle) : Exec CrateError AccountLayouts.OracleAccountData) =
      .ok data) : AuthorityOf rpc oracle key ↔ data.authority = key := by
  have read := Exec.ofResult_eq_ok.mp read
  constructor
  · rintro ⟨other, again, same⟩
    obtain rfl := Except.ok.inj (read.symm.trans again)
    exact same
  · intro same
    exact ⟨data, read, same⟩

theorem asks_of_build (api : AddressApi) (rpc : RpcClient) (request : Request) {ix : Instruction}
    (built : request.build api rpc = .ok ix) : Asks api request.call (request.Signs rpc) ix := by
  cases request with
  | guardian_quote_verify args =>
    refine asks_of_build_ix built fun key => ?_
    simp [GuardianQuoteVerifyAccounts.to_account_metas, Request.Signs]
  | oracle_heartbeat args =>
    obtain ⟨state, _, built⟩ := Exec.bind_eq_ok.mp built
    obtain ⟨bare, bareBuilt, ends⟩ := Exec.bind_eq_ok.mp built
    obtain rfl := Exec.ok.inj ends
    have asks : Asks api (Request.call (.oracle_heartbeat args)) (Request.Signs rpc (.oracle_heartbeat args)) bare := by
      refine asks_of_build_ix bareBuilt fun key => ?_
      simp [OracleHeartbeatAccounts.to_account_metas, Request.Signs]
    refine ⟨asks.program, asks.data, fun key => ?_⟩
    simp [asks.marked key]
  | oracle_heartbeat_v2 args =>
    obtain ⟨data, _, built⟩ := Exec.bind_eq_ok.mp built
    refine asks_of_build_ix built fun key => ?_
    simp [OracleHeartbeatV2Accounts.to_account_metas, Request.Signs]
  | oracle_reset_lut args =>
    obtain ⟨data, read, built⟩ := Exec.bind_eq_ok.mp built
    refine asks_of_build_ix built fun key => ?_
    simp [OracleResetLutAccounts.to_account_metas, Request.Signs, authorityOf_iff read]
  | oracle_set_configs args =>
    refine asks_of_build_ix built fun key => ?_
    simp [OracleSetConfigsAccounts.to_account_metas, Request.Signs]
  | oracle_sync_lut args =>
    obtain ⟨data, read, built⟩ := Exec.bind_eq_ok.mp built
    obtain ⟨queue, _, built⟩ := Exec.bind_eq_ok.mp built
    refine asks_of_build_ix built fun key => ?_
    simp [OracleSyncLutAccounts.to_account_metas, Request.Signs, authorityOf_iff read]
  | attestation_permission_set granter authority grantee permission enable =>
    refine asks_of_build_ix built fun key => ?_
    simp [AttestationPermissionSetAccounts.to_account_metas, Request.Signs]
  | queue_garbage_collect args =>
    refine asks_of_build_ix built fun key => ?_
    simp [QueueGarbageCollectAccounts.to_account_metas, Request.Signs]
  | queue_pay_reward args =>
    obtain ⟨state, _, built⟩ := Exec.bind_eq_ok.mp built
    obtain ⟨data, _, built⟩ := Exec.bind_eq_ok.mp built
    refine asks_of_build_ix built fun key => ?_
    simp [QueuePayRewardAccounts.to_account_metas, Request.Signs]
  | queue_pay_subsidy args =>
    obtain ⟨state, _, built⟩ := Exec.bind_eq_ok.mp built
    obtain ⟨queue, _, built⟩ := Exec.bind_eq_ok.mp built
    obtain ⟨oracles, _, built⟩ := Exec.bind_eq_ok.mp built
    obtain ⟨remaining, pushed, built⟩ := Exec.bind_eq_ok.mp built
    obtain ⟨each, all, rfl⟩ := (push_oracles_ok_iff _ _ _ _).mp pushed
    refine asks_of_build_ix built fun key => ?_
    simp [QueuePaySubsidyAccounts.to_account_metas, Request.Signs, markedIn_flatten all]
  | randomness_commit randomness queue oracle authority =>
    refine asks_of_build_ix built fun key => ?_
    simp [RandomnessCommitAccounts.to_account_metas, Request.Signs]

/-- Whatever the node answers, the instructions that are built are those of the
    program of the network, each carries the parameters of its request, and marks
    the keys of the request and no others. -/
theorem requests_build (api : AddressApi) (rpc : RpcClient) {requests : List Request} {ixs : List Instruction}
    (built : requests.mapM (Request.build api rpc) = .ok ixs) :
    List.Forall₂ (fun request ix => Asks api request.call (request.Signs rpc) ix) requests ixs :=
  (Exec.mapM_eq_ok.mp built).imp fun request _ first => asks_of_build api rpc request first

end

/-! ### The payment of a subsidy -/

section
variable {api rpc}

theorem returns_push_oracles (switch_mint : Pubkey) (oracles : List Pubkey) (before : List AccountMeta) :
    (oracles.foldlM (push_oracle api rpc switch_mint) before).Returns := by
  induction oracles generalizing before with
  | nil => trivial
  | cons oracle rest ih =>
    rw [List.foldlM_cons, Exec.returns_bind]
    refine ⟨?_, fun after _ => ih after⟩
    unfold push_oracle
    rw [Exec.returns_bind]
    exact ⟨Exec.returns_ofResult, fun data _ => trivial⟩

/-- The accounts for a subsidy, with those of each oracle behind the fixed ones. -/
def subsidyAccounts (api : AddressApi) (args : QueuePaySubsidyArgs) (switch_mint : Pubkey)
    (each : List (List AccountMeta)) : List AccountMeta :=
  QueuePaySubsidyAccounts.to_account_metas api ⟨args.queue, args.vault, switch_mint, args.payer, each.flatten⟩

/-- The instruction is there exactly when the state, the queue and every oracle that
    the queue lists can be fetched: one oracle that cannot loses it. It names the
    oracles in the order of the queue, each with its statistics and its operator.
    Only a list that is longer than its array makes it panic. -/
theorem subsidy_accounts (api : AddressApi) (rpc : RpcClient) (args : QueuePaySubsidyArgs) :
    (∀ ix, queue_pay_subsidy api rpc args = .ok ix ↔
      ∃ state queue_data oracles each, fetch_state api rpc = .ok state ∧ fetch_async rpc .queue args.queue = .ok queue_data ∧
        (AccountMethods.oracle_keys queue_data : Exec CrateError _) = .ok oracles ∧
        List.Forall₂ (AccountsOf api rpc state.switch_mint) oracles each ∧
        ix = ⟨owner api, subsidyAccounts api args state.switch_mint each, Name.QueuePaySubsidy.type.discriminator.val⟩) ∧
    ((queue_pay_subsidy api rpc args).Returns ↔
      ∀ state, fetch_state api rpc = .ok state → ∀ queue_data : AccountLayouts.QueueAccountData,
        fetch_async rpc .queue args.queue = .ok queue_data → queue_data.oracle_keys_len.toNat ≤ 78) := by
  have written : ∀ accounts, (build_ix (owner api) accounts Name.QueuePaySubsidy.type () : Exec CrateError _) =
      .ok ⟨owner api, accounts, Name.QueuePaySubsidy.type.discriminator.val⟩ := fun _ => rfl
  constructor
  · intro ix
    constructor
    · intro done
      obtain ⟨state, readState, done⟩ := Exec.bind_eq_ok.mp done
      obtain ⟨queue_data, readQueue, done⟩ := Exec.bind_eq_ok.mp done
      obtain ⟨oracles, listed, done⟩ := Exec.bind_eq_ok.mp done
      obtain ⟨remaining, pushed, done⟩ := Exec.bind_eq_ok.mp done
      obtain ⟨each, all, rfl⟩ := (push_oracles_ok_iff _ _ _ _).mp pushed
      rw [written] at done
      exact ⟨state, queue_data, oracles, each, Exec.ofResult_eq_ok.mp readState, Exec.ofResult_eq_ok.mp readQueue, listed,
        all, (Exec.ok.inj done).symm⟩
    · rintro ⟨state, queue_data, oracles, each, readState, readQueue, listed, all, rfl⟩
      refine Exec.bind_eq_ok.mpr ⟨state, Exec.ofResult_eq_ok.mpr readState, ?_⟩
      refine Exec.bind_eq_ok.mpr ⟨queue_data, Exec.ofResult_eq_ok.mpr readQueue, ?_⟩
      refine Exec.bind_eq_ok.mpr ⟨oracles, listed, ?_⟩
      exact Exec.bind_eq_ok.mpr ⟨_, (push_oracles_ok_iff _ _ _ _).mpr ⟨each, all, rfl⟩, written _⟩
  · refine Exec.returns_bind.trans ((and_iff_right Exec.returns_ofResult).trans ?_)
    refine forall_congr' fun state => imp_congr Exec.ofResult_eq_ok ?_
    refine Exec.returns_bind.trans ((and_iff_right Exec.returns_ofResult).trans ?_)
    refine forall_congr' fun queue_data => imp_congr Exec.ofResult_eq_ok ?_
    rw [Exec.returns_bind]
    rw [AccountMethods.oracle_keys, AccountMethods.slice_to_returns, and_iff_left]
    intro oracles _
    rw [Exec.returns_bind]
    refine ⟨returns_push_oracles _ _ _, fun remaining _ => ?_⟩
    rw [written]
    trivial

end

/-! ### A transaction of requests -/

/-- What requests need of the builder that their instructions are put into. -/
structure Ready (rpc : RpcClient) {sdk : SolanaSdk} (requests : List Request) (builder : TransactionBuilder sdk) :
    Prop where
  some : requests ≠ []
  few : (pre_ixs builder).length + requests.length ≤ 10
  stored : ∀ request ∈ requests, ∀ key, request.Signs rpc key → HasSigner builder key
  payer : ∃ request ∈ requests, request.Signs rpc builder.payer

theorem marked_iff_signs {api : AddressApi} {rpc : RpcClient} {requests : List Request} {ixs : List Instruction}
    (built : List.Forall₂ (fun request ix => request.build api rpc = .ok ix) requests ixs) (key : Pubkey) :
    Marked ixs key ↔ ∃ request ∈ requests, request.Signs rpc key := by
  induction built with
  | nil => simp [Marked]
  | @cons request ix requests ixs first others ih =>
    rw [List.exists_mem_cons_iff, ← ih, ← (asks_of_build api rpc request first).marked key]
    simp only [Marked, MarkedIn, List.exists_mem_cons_iff]

/-- The instructions of some requests, put into a builder, make a signed transaction
    of either format exactly when there are some but not too many of them, the
    builder stores a signer for every key that they need, and its payer is one of
    these. -/
theorem transaction_of_requests (api : AddressApi) (rpc : RpcClient) {sdk : SolanaSdk} (exact : SignsExactly sdk)
    (budget : BudgetWithoutAccounts sdk) {builder : TransactionBuilder sdk} (compiles : Compiles builder)
    {requests : List Request} (built : requests.mapM (Request.build api rpc) = .ok builder.ixs) :
    ((∃ tx, to_legacy_tx builder = .ok tx) ↔ Ready rpc requests builder) ∧
      ((∃ tx, to_v0_tx builder = .ok tx) ↔ Ready rpc requests builder) := by
  have each := Exec.mapM_eq_ok.mp built
  have lengths := each.length_eq
  have signs := marked_iff_signs each
  have signable : Signable builder ↔ Ready rpc requests builder := by
    constructor
    · rintro ⟨some, few, stored, payer⟩
      refine ⟨?_, ?_, fun request member key needs => stored key ((signs key).mpr ⟨request, member, needs⟩),
        (signs _).mp payer⟩
      · rintro rfl
        exact some (List.eq_nil_of_length_eq_zero lengths.symm)
      · rwa [lengths, ← List.length_append]
    · rintro ⟨some, few, stored, payer⟩
      refine ⟨?_, ?_, fun key marked => ?_, (signs _).mpr payer⟩
      · intro none
        rw [none] at lengths
        exact some (List.eq_nil_of_length_eq_zero lengths)
      · rwa [List.length_append, ← lengths]
      · obtain ⟨request, member, needs⟩ := (signs key).mp marked
        exact stored request member key needs
  rw [← signable]
  exact signed_iff exact budget compiles

/-! ### A reset and a payment -/

/-- Mainnet, with one bump for all seeds. -/
def oneBump : AddressApi where
  is_devnet := false
  sha256 := Sha256.hash
  find_program_address seeds program := (Sha256.hash (preimage seeds 255 program), 255)
  derived _ _ := rfl

def authorityKey : Pubkey := repeated 9 32
def operatorKey : Pubkey := repeated 5 32
def mintKey : Pubkey := repeated 4 32
def vaultKey : Pubkey := repeated 3 32

/-- An oracle with an authority and an operator. -/
def servedOracle : AccountLayouts.OracleAccountData :=
  { (zeroRecord .oracle : AccountLayouts.OracleAccountData) with authority := authorityKey, operator := operatorKey }

/-- A queue with one oracle. -/
def listingQueue : AccountLayouts.QueueAccountData :=
  { (zeroRecord .queue : AccountLayouts.QueueAccountData) with
    oracle_keys := ⟨(firstOracle :: List.replicate 77 AccountMethods.default_pubkey).toArray, rfl⟩, oracle_keys_len := 1 }

def mintState : AccountLayouts.State :=
  { (zeroRecord .state : AccountLayouts.State) with switch_mint := mintKey }

/-- The oracle and its queue, `secondOracle`, and the state. -/
def subsidyLedger (key : Pubkey) : Option OracleAccounts.Account :=
  if key = firstOracle then some ⟨Account.oracle.type.encode servedOracle⟩
  else if key = secondOracle then some ⟨Account.queue.type.encode listingQueue⟩
  else if key = get_pda oneBump then some ⟨Account.state.type.encode mintState⟩
  else none

def subsidyNode : RpcClient := ledgerClient subsidyLedger

theorem fetch_servedOracle : fetch_async subsidyNode .oracle firstOracle = .ok servedOracle :=
  fetch_async_ledgerClient (by decide) rfl

theorem fetch_listingQueue : fetch_async subsidyNode .queue secondOracle = .ok listingQueue :=
  fetch_async_ledgerClient (by decide) rfl

theorem fetch_mintState : fetch_state oneBump subsidyNode = .ok mintState := by
  have first : get_pda oneBump ≠ firstOracle := by decide +kernel
  have second : get_pda oneBump ≠ secondOracle := by decide +kernel
  refine fetch_async_ledgerClient (by decide) ?_
  rw [subsidyLedger, if_neg first, if_neg second, if_pos rfl]

/-- The table of an oracle is reset, and then its subsidy is paid. -/
def resetAndPay : List Request :=
  [.oracle_reset_lut ⟨firstOracle, payerKey, 7⟩, .queue_pay_subsidy ⟨secondOracle, vaultKey, payerKey⟩]

def resetIx : Instruction :=
  ⟨ON_DEMAND_MAINNET_PID,
    OracleResetLutAccounts.to_account_metas oneBump
      ⟨firstOracle, authorityKey, authorityKey, system_program, get_pda oneBump, find_lut_signer oneBump firstOracle,
        (derive_lookup_table_address oneBump (find_lut_signer oneBump firstOracle) 7).1, address_lookup_table_program⟩,
    [147, 244, 108, 198, 152, 219, 0, 22, 7, 0, 0, 0, 0, 0, 0, 0]⟩

/-- What the payment adds for the oracle. -/
def servedAccounts : List AccountMeta :=
  [new_readonly firstOracle false, new_readonly (stats_key oneBump firstOracle) false] ++
    operator_accounts oneBump operatorKey mintKey

def payIx : Instruction :=
  ⟨ON_DEMAND_MAINNET_PID, subsidyAccounts oneBump ⟨secondOracle, vaultKey, payerKey⟩ mintKey [servedAccounts],
    Name.QueuePaySubsidy.type.discriminator.val⟩

theorem oracle_reset_lut_resetIx : oracle_reset_lut oneBump subsidyNode ⟨firstOracle, payerKey, 7⟩ = .ok resetIx :=
  Exec.bind_eq_ok.mpr ⟨servedOracle, Exec.ofResult_eq_ok.mpr fetch_servedOracle, rfl⟩

theorem queue_pay_subsidy_payIx :
    queue_pay_subsidy oneBump subsidyNode ⟨secondOracle, vaultKey, payerKey⟩ = .ok payIx := by
  have added : List.Forall₂ (AccountsOf oneBump subsidyNode mintKey) [firstOracle] [servedAccounts] :=
    .cons ⟨servedOracle, fetch_servedOracle, rfl⟩ .nil
  refine Exec.bind_eq_ok.mpr ⟨mintState, Exec.ofResult_eq_ok.mpr fetch_mintState, ?_⟩
  refine Exec.bind_eq_ok.mpr ⟨listingQueue, Exec.ofResult_eq_ok.mpr fetch_listingQueue, ?_⟩
  refine Exec.bind_eq_ok.mpr ⟨[firstOracle], rfl, ?_⟩
  exact Exec.bind_eq_ok.mpr ⟨_, (push_oracles_ok_iff mintKey [firstOracle] [] _).mpr ⟨_, added, rfl⟩, rfl⟩

theorem resetAndPay_build : resetAndPay.mapM (Request.build oneBump subsidyNode) = .ok [resetIx, payIx] :=
  Exec.mapM_eq_ok.mpr (.cons oracle_reset_lut_resetIx (.cons queue_pay_subsidy_payIx .nil))

theorem requests_build_subsidy :
    Asks oneBump ⟨.OracleResetLut, (⟨7⟩ : OracleResetLutParams)⟩ (AuthorityOf subsidyNode firstOracle) resetIx ∧
      Asks oneBump ⟨.QueuePaySubsidy, ()⟩ (fun key => payerKey = key) payIx := by
  rcases requests_build oneBump subsidyNode resetAndPay_build with _ | ⟨resets, _ | ⟨pays, _⟩⟩
  exact ⟨resets, pays⟩

/-- A builder with the signers of both. -/
def resetAndPayBuilder : TransactionBuilder keySdk :=
  built (.new_with_payer payerKey) [.add_signer authorityKey, .add_ix resetIx, .add_ix payIx]

theorem transaction_of_requests_signed : ∃ tx, to_v0_tx resetAndPayBuilder = .ok tx := by
  have ready : Ready subsidyNode resetAndPay resetAndPayBuilder := by
    refine ⟨by simp [resetAndPay], by decide, ?_, ?_⟩
    · intro request member key needs
      simp only [resetAndPay, List.mem_cons, List.not_mem_nil, or_false] at member
      rcases member with rfl | rfl
      · obtain ⟨data, read, rfl⟩ := needs
        obtain rfl := Except.ok.inj (fetch_servedOracle.symm.trans read)
        exact List.mem_cons_of_mem _ (List.mem_singleton_self _)
      · obtain rfl : payerKey = key := needs
        exact List.mem_cons_self
    · exact ⟨_, List.mem_cons_of_mem _ (List.mem_singleton_self _), rfl⟩
  exact (transaction_of_requests oneBump subsidyNode signsExactly_keySdk budgetWithoutAccounts_keySdk
    (compiles_keySdk resetAndPayBuilder) resetAndPay_build).2.mpr ready

end SwitchboardOnDemand.Instructions
