import SwitchboardOnDemand.Pod
import SwitchboardOnDemand.Utils

/-!
The zero-copy accounts of the program, with all their fields in the order of the
source and as they lie in memory.
-/

namespace SwitchboardOnDemand.AccountLayouts
open Rust SwitchboardOnDemand.Utils

/-- Information about a reward vault. -/
structure VaultInfo where
  vault_key : Pubkey
  last_reward_epoch : UInt64

def VaultInfo.layout : Layout VaultInfo :=
  .struct (
    .cons (.bytes 32) <| .last .u64)
    ⟨fun x => (x.vault_key, x.last_reward_epoch),
      fun (vault_key, last_reward_epoch) =>
      ⟨vault_key, last_reward_epoch⟩,
      fun _ => rfl, fun _ => rfl⟩

/-- A queue: the keys of its oracles and its configuration. -/
structure QueueAccountData where
  authority : Pubkey
  mr_enclaves : Vector (FixedBytes 32) 32
  oracle_keys : Vector Pubkey 78
  reserved1 : FixedBytes 40
  secp_oracle_signing_keys : Vector (FixedBytes 20) 30
  ed25519_oracle_signing_keys : Vector Pubkey 30
  max_quote_verification_age : Int64
  last_heartbeat : Int64
  node_timeout : Int64
  oracle_min_stake : UInt64
  allow_authority_override_after : Int64
  mr_enclaves_len : UInt32
  oracle_keys_len : UInt32
  reward : UInt32
  curr_idx : UInt32
  gc_idx : UInt32
  require_authority_heartbeat_permission : UInt8
  require_authority_verify_permission : UInt8
  require_usage_permissions : UInt8
  signer_bump : UInt8
  mint : Pubkey
  lut_slot : UInt64
  allow_subsidies : UInt8
  ebuf6 : FixedBytes 15
  ncn : Pubkey
  resrved : UInt64
  vaults : Vector VaultInfo 4
  last_reward_epoch : UInt64
  ebuf4 : FixedBytes 32
  ebuf2 : FixedBytes 256
  ebuf1 : FixedBytes 504

def QueueAccountData.layout : Layout QueueAccountData :=
  .struct (
    .cons (.bytes 32) <| .cons (.array (.bytes 32) 32) <| .cons (.array (.bytes 32) 78) <| .cons (.bytes 40) <|
    .cons (.array (.bytes 20) 30) <| .cons (.array (.bytes 32) 30) <| .cons .i64 <| .cons .i64 <| .cons .i64 <|
    .cons .u64 <| .cons .i64 <| .cons .u32 <| .cons .u32 <| .cons .u32 <| .cons .u32 <| .cons .u32 <| .cons .u8 <|
    .cons .u8 <| .cons .u8 <| .cons .u8 <| .cons (.bytes 32) <| .cons .u64 <| .cons .u8 <| .cons (.bytes 15) <|
    .cons (.bytes 32) <| .cons .u64 <| .cons (.array VaultInfo.layout.pod 4) <| .cons .u64 <| .cons (.bytes 32) <|
    .cons (.bytes 256) <| .last (.bytes 504))
    ⟨fun x => (x.authority, x.mr_enclaves, x.oracle_keys, x.reserved1, x.secp_oracle_signing_keys,
      x.ed25519_oracle_signing_keys, x.max_quote_verification_age, x.last_heartbeat, x.node_timeout,
      x.oracle_min_stake, x.allow_authority_override_after, x.mr_enclaves_len, x.oracle_keys_len, x.reward,
      x.curr_idx, x.gc_idx, x.require_authority_heartbeat_permission, x.require_authority_verify_permission,
      x.require_usage_permissions, x.signer_bump, x.mint, x.lut_slot, x.allow_subsidies, x.ebuf6, x.ncn, x.resrved,
      x.vaults, x.last_reward_epoch, x.ebuf4, x.ebuf2, x.ebuf1),
      fun (authority, mr_enclaves, oracle_keys, reserved1, secp_oracle_signing_keys, ed25519_oracle_signing_keys,
      max_quote_verification_age, last_heartbeat, node_timeout, oracle_min_stake, allow_authority_override_after,
      mr_enclaves_len, oracle_keys_len, reward, curr_idx, gc_idx, require_authority_heartbeat_permission,
      require_authority_verify_permission, require_usage_permissions, signer_bump, mint, lut_slot, allow_subsidies,
      ebuf6, ncn, resrved, vaults, last_reward_epoch, ebuf4, ebuf2, ebuf1) =>
      ⟨authority, mr_enclaves, oracle_keys, reserved1, secp_oracle_signing_keys, ed25519_oracle_signing_keys,
      max_quote_verification_age, last_heartbeat, node_timeout, oracle_min_stake, allow_authority_override_after,
      mr_enclaves_len, oracle_keys_len, reward, curr_idx, gc_idx, require_authority_heartbeat_permission,
      require_authority_verify_permission, require_usage_permissions, signer_bump, mint, lut_slot, allow_subsidies,
      ebuf6, ncn, resrved, vaults, last_reward_epoch, ebuf4, ebuf2, ebuf1⟩,
      fun _ => rfl, fun _ => rfl⟩

/-- The attestation of an enclave. -/
structure Quote where
  enclave_signer : Pubkey
  mr_enclave : FixedBytes 32
  verification_status : UInt8
  padding1 : FixedBytes 7
  verification_timestamp : Int64
  valid_until : Int64
  quote_registry : FixedBytes 32
  registry_key : FixedBytes 64
  secp256k1_signer : FixedBytes 64
  last_ed25519_signer : Pubkey
  last_secp256k1_signer : FixedBytes 64
  last_rotate_slot : UInt64
  guardian_approvers : Vector Pubkey 64
  guardian_approvers_len : UInt8
  padding2 : FixedBytes 7
  ebuf : FixedBytes 1024

def Quote.layout : Layout Quote :=
  .struct (
    .cons (.bytes 32) <| .cons (.bytes 32) <| .cons .u8 <| .cons (.bytes 7) <| .cons .i64 <| .cons .i64 <|
    .cons (.bytes 32) <| .cons (.bytes 64) <| .cons (.bytes 64) <| .cons (.bytes 32) <| .cons (.bytes 64) <|
    .cons .u64 <| .cons (.array (.bytes 32) 64) <| .cons .u8 <| .cons (.bytes 7) <| .last (.bytes 1024))
    ⟨fun x => (x.enclave_signer, x.mr_enclave, x.verification_status, x.padding1, x.verification_timestamp,
      x.valid_until, x.quote_registry, x.registry_key, x.secp256k1_signer, x.last_ed25519_signer,
      x.last_secp256k1_signer, x.last_rotate_slot, x.guardian_approvers, x.guardian_approvers_len, x.padding2,
      x.ebuf), fun (enclave_signer, mr_enclave, verification_status, padding1, verification_timestamp, valid_until,
      quote_registry, registry_key, secp256k1_signer, last_ed25519_signer, last_secp256k1_signer, last_rotate_slot,
      guardian_approvers, guardian_approvers_len, padding2, ebuf) =>
      ⟨enclave_signer, mr_enclave, verification_status, padding1, verification_timestamp, valid_until,
      quote_registry, registry_key, secp256k1_signer, last_ed25519_signer, last_secp256k1_signer, last_rotate_slot,
      guardian_approvers, guardian_approvers_len, padding2, ebuf⟩,
      fun _ => rfl, fun _ => rfl⟩

/-- An oracle: its enclave and its configuration. -/
structure OracleAccountData where
  enclave : Quote
  authority : Pubkey
  queue : Pubkey
  created_at : Int64
  last_heartbeat : Int64
  secp_authority : FixedBytes 64
  gateway_uri : FixedBytes 64
  permissions : UInt64
  is_on_queue : UInt8
  padding1 : FixedBytes 7
  lut_slot : UInt64
  last_reward_epoch : UInt64
  operator : Pubkey
  ebuf3 : FixedBytes 16
  ebuf2 : FixedBytes 64
  ebuf1 : FixedBytes 1024

def OracleAccountData.layout : Layout OracleAccountData :=
  .struct (
    .cons Quote.layout.pod <| .cons (.bytes 32) <| .cons (.bytes 32) <| .cons .i64 <| .cons .i64 <|
    .cons (.bytes 64) <| .cons (.bytes 64) <| .cons .u64 <| .cons .u8 <| .cons (.bytes 7) <| .cons .u64 <|
    .cons .u64 <| .cons (.bytes 32) <| .cons (.bytes 16) <| .cons (.bytes 64) <| .last (.bytes 1024))
    ⟨fun x => (x.enclave, x.authority, x.queue, x.created_at, x.last_heartbeat, x.secp_authority, x.gateway_uri,
      x.permissions, x.is_on_queue, x.padding1, x.lut_slot, x.last_reward_epoch, x.operator, x.ebuf3, x.ebuf2,
      x.ebuf1),
      fun (enclave, authority, queue, created_at, last_heartbeat, secp_authority, gateway_uri, permissions,
      is_on_queue, padding1, lut_slot, last_reward_epoch, operator, ebuf3, ebuf2, ebuf1) =>
      ⟨enclave, authority, queue, created_at, last_heartbeat, secp_authority, gateway_uri, permissions, is_on_queue,
      padding1, lut_slot, last_reward_epoch, operator, ebuf3, ebuf2, ebuf1⟩,
      fun _ => rfl, fun _ => rfl⟩

/-- What an oracle did in an epoch. -/
structure OracleEpochInfo where
  id : UInt64
  reserved1 : UInt64
  slot_end : UInt64
  slash_score : UInt64
  reward_score : UInt64
  stake_score : UInt64

def OracleEpochInfo.layout : Layout OracleEpochInfo :=
  .struct (
    .cons .u64 <| .cons .u64 <| .cons .u64 <| .cons .u64 <| .cons .u64 <| .last .u64)
    ⟨fun x => (x.id, x.reserved1, x.slot_end, x.slash_score, x.reward_score, x.stake_score),
      fun (id, reserved1, slot_end, slash_score, reward_score, stake_score) =>
      ⟨id, reserved1, slot_end, slash_score, reward_score, stake_score⟩,
      fun _ => rfl, fun _ => rfl⟩

structure MegaSlotInfo where
  reserved1 : UInt64
  slot_end : UInt64
  perf_goal : Int64
  current_signature_count : Int64

def MegaSlotInfo.layout : Layout MegaSlotInfo :=
  .struct (
    .cons .u64 <| .cons .u64 <| .cons .i64 <| .last .i64)
    ⟨fun x => (x.reserved1, x.slot_end, x.perf_goal, x.current_signature_count),
      fun (reserved1, slot_end, perf_goal, current_signature_count) =>
      ⟨reserved1, slot_end, perf_goal, current_signature_count⟩,
      fun _ => rfl, fun _ => rfl⟩

structure OracleStatsAccountData where
  owner : Pubkey
  oracle : Pubkey
  finalized_epoch : OracleEpochInfo
  current_epoch : OracleEpochInfo
  mega_slot_info : MegaSlotInfo
  last_transfer_slot : UInt64
  bump : UInt8
  padding1 : FixedBytes 7
  ebuf : FixedBytes 1024

def OracleStatsAccountData.layout : Layout OracleStatsAccountData :=
  .struct (
    .cons (.bytes 32) <| .cons (.bytes 32) <| .cons OracleEpochInfo.layout.pod <| .cons OracleEpochInfo.layout.pod <|
    .cons MegaSlotInfo.layout.pod <| .cons .u64 <| .cons .u8 <| .cons (.bytes 7) <| .last (.bytes 1024))
    ⟨fun x => (x.owner, x.oracle, x.finalized_epoch, x.current_epoch, x.mega_slot_info, x.last_transfer_slot,
      x.bump, x.padding1, x.ebuf),
      fun (owner, oracle, finalized_epoch, current_epoch, mega_slot_info, last_transfer_slot, bump, padding1,
      ebuf) => ⟨owner, oracle, finalized_epoch, current_epoch, mega_slot_info, last_transfer_slot, bump, padding1,
      ebuf⟩, fun _ => rfl, fun _ => rfl⟩

structure RandomnessAccountData where
  authority : Pubkey
  queue : Pubkey
  seed_slothash : FixedBytes 32
  seed_slot : UInt64
  oracle : Pubkey
  reveal_slot : UInt64
  value : FixedBytes 32
  ebuf2 : FixedBytes 96
  ebuf1 : FixedBytes 128

def RandomnessAccountData.layout : Layout RandomnessAccountData :=
  .struct (
    .cons (.bytes 32) <| .cons (.bytes 32) <| .cons (.bytes 32) <| .cons .u64 <| .cons (.bytes 32) <| .cons .u64 <|
    .cons (.bytes 32) <| .cons (.bytes 96) <| .last (.bytes 128))
    ⟨fun x => (x.authority, x.queue, x.seed_slothash, x.seed_slot, x.oracle, x.reveal_slot, x.value, x.ebuf2,
      x.ebuf1), fun (authority, queue, seed_slothash, seed_slot, oracle, reveal_slot, value, ebuf2, ebuf1) =>
      ⟨authority, queue, seed_slothash, seed_slot, oracle, reveal_slot, value, ebuf2, ebuf1⟩,
      fun _ => rfl, fun _ => rfl⟩

structure OracleSubmission where
  oracle : Pubkey
  slot : UInt64
  landed_at : UInt64
  value : I128

def OracleSubmission.layout : Layout OracleSubmission :=
  .struct (
    .cons (.bytes 32) <| .cons .u64 <| .cons .u64 <| .last .i128)
    ⟨fun x => (x.oracle, x.slot, x.landed_at, x.value),
      fun (oracle, slot, landed_at, value) =>
      ⟨oracle, slot, landed_at, value⟩,
      fun _ => rfl, fun _ => rfl⟩

structure CurrentResult where
  value : I128
  std_dev : I128
  mean : I128
  range : I128
  min_value : I128
  max_value : I128
  num_samples : UInt8
  submission_idx : UInt8
  padding1 : FixedBytes 6
  slot : UInt64
  min_slot : UInt64
  max_slot : UInt64

def CurrentResult.layout : Layout CurrentResult :=
  .struct (
    .cons .i128 <| .cons .i128 <| .cons .i128 <| .cons .i128 <| .cons .i128 <| .cons .i128 <| .cons .u8 <|
    .cons .u8 <| .cons (.bytes 6) <| .cons .u64 <| .cons .u64 <| .last .u64)
    ⟨fun x => (x.value, x.std_dev, x.mean, x.range, x.min_value, x.max_value, x.num_samples, x.submission_idx,
      x.padding1, x.slot, x.min_slot, x.max_slot),
      fun (value, std_dev, mean, range, min_value, max_value, num_samples, submission_idx, padding1, slot, min_slot,
      max_slot) =>
      ⟨value, std_dev, mean, range, min_value, max_value, num_samples, submission_idx, padding1, slot, min_slot,
      max_slot⟩,
      fun _ => rfl, fun _ => rfl⟩

/-- A past result; its floats are the 32 bits of an `f32`. -/
structure CompactResult where
  std_dev : UInt32
  mean : UInt32
  slot : UInt64

def CompactResult.layout : Layout CompactResult :=
  .struct (
    .cons .u32 <| .cons .u32 <| .last .u64)
    ⟨fun x => (x.std_dev, x.mean, x.slot),
      fun (std_dev, mean, slot) =>
      ⟨std_dev, mean, slot⟩,
      fun _ => rfl, fun _ => rfl⟩

structure PullFeedAccountData where
  submissions : Vector OracleSubmission 32
  authority : Pubkey
  queue : Pubkey
  feed_hash : FixedBytes 32
  initialized_at : Int64
  permissions : UInt64
  max_variance : UInt64
  min_responses : UInt32
  name : FixedBytes 32
  padding1 : FixedBytes 2
  historical_result_idx : UInt8
  min_sample_size : UInt8
  last_update_timestamp : Int64
  lut_slot : UInt64
  reserved1 : FixedBytes 32
  result : CurrentResult
  max_staleness : UInt32
  padding2 : FixedBytes 12
  historical_results : Vector CompactResult 32
  ebuf4 : FixedBytes 8
  ebuf3 : FixedBytes 24
  submission_timestamps : Vector Int64 32

def PullFeedAccountData.layout : Layout PullFeedAccountData :=
  .struct (
    .cons (.array OracleSubmission.layout.pod 32) <| .cons (.bytes 32) <| .cons (.bytes 32) <| .cons (.bytes 32) <|
    .cons .i64 <| .cons .u64 <| .cons .u64 <| .cons .u32 <| .cons (.bytes 32) <| .cons (.bytes 2) <| .cons .u8 <|
    .cons .u8 <| .cons .i64 <| .cons .u64 <| .cons (.bytes 32) <| .cons CurrentResult.layout.pod <| .cons .u32 <|
    .cons (.bytes 12) <| .cons (.array CompactResult.layout.pod 32) <| .cons (.bytes 8) <| .cons (.bytes 24) <|
    .last (.array .i64 32))
    ⟨fun x => (x.submissions, x.authority, x.queue, x.feed_hash, x.initialized_at, x.permissions, x.max_variance,
      x.min_responses, x.name, x.padding1, x.historical_result_idx, x.min_sample_size, x.last_update_timestamp,
      x.lut_slot, x.reserved1, x.result, x.max_staleness, x.padding2, x.historical_results, x.ebuf4, x.ebuf3,
      x.submission_timestamps),
      fun (submissions, authority, queue, feed_hash, initialized_at, permissions, max_variance, min_responses, name,
      padding1, historical_result_idx, min_sample_size, last_update_timestamp, lut_slot, reserved1, result,
      max_staleness, padding2, historical_results, ebuf4, ebuf3, submission_timestamps) =>
      ⟨submissions, authority, queue, feed_hash, initialized_at, permissions, max_variance, min_responses, name,
      padding1, historical_result_idx, min_sample_size, last_update_timestamp, lut_slot, reserved1, result,
      max_staleness, padding2, historical_results, ebuf4, ebuf3, submission_timestamps⟩,
      fun _ => rfl, fun _ => rfl⟩

/-- An epoch of the program. The struct is not `repr(C)`; that its fields lie in the
    order of their declaration is an assumption on the compiler. -/
structure StateEpochInfo where
  id : UInt64
  reserved1 : UInt64
  slot_end : UInt64

def StateEpochInfo.layout : Layout StateEpochInfo :=
  .struct (
    .cons .u64 <| .cons .u64 <| .last .u64)
    ⟨fun x => (x.id, x.reserved1, x.slot_end),
      fun (id, reserved1, slot_end) =>
      ⟨id, reserved1, slot_end⟩,
      fun _ => rfl, fun _ => rfl⟩

/-- The state of the program. -/
structure State where
  bump : UInt8
  test_only_disable_mr_enclave_check : UInt8
  padding1 : FixedBytes 6
  authority : Pubkey
  guardian_queue : Pubkey
  reserved1 : UInt64
  epoch_length : UInt64
  current_epoch : StateEpochInfo
  next_epoch : StateEpochInfo
  finalized_epoch : StateEpochInfo
  stake_pool : Pubkey
  stake_program : Pubkey
  switch_mint : Pubkey
  sgx_advisories : Vector UInt16 32
  advisories_len : UInt8
  ebuf4 : FixedBytes 15
  ebuf3 : FixedBytes 256
  ebuf2 : FixedBytes 512
  ebuf1 : FixedBytes 1024

def State.layout : Layout State :=
  .struct (
    .cons .u8 <| .cons .u8 <| .cons (.bytes 6) <| .cons (.bytes 32) <| .cons (.bytes 32) <| .cons .u64 <| .cons .u64 <|
    .cons StateEpochInfo.layout.pod <| .cons StateEpochInfo.layout.pod <| .cons StateEpochInfo.layout.pod <|
    .cons (.bytes 32) <| .cons (.bytes 32) <| .cons (.bytes 32) <| .cons (.array .u16 32) <| .cons .u8 <|
    .cons (.bytes 15) <| .cons (.bytes 256) <| .cons (.bytes 512) <| .last (.bytes 1024))
    ⟨fun x => (x.bump, x.test_only_disable_mr_enclave_check, x.padding1, x.authority, x.guardian_queue, x.reserved1,
      x.epoch_length, x.current_epoch, x.next_epoch, x.finalized_epoch, x.stake_pool, x.stake_program, x.switch_mint,
      x.sgx_advisories, x.advisories_len, x.ebuf4, x.ebuf3, x.ebuf2, x.ebuf1),
      fun (bump, test_only_disable_mr_enclave_check, padding1, authority, guardian_queue, reserved1, epoch_length,
      current_epoch, next_epoch, finalized_epoch, stake_pool, stake_program, switch_mint, sgx_advisories,
      advisories_len, ebuf4, ebuf3, ebuf2, ebuf1) =>
      ⟨bump, test_only_disable_mr_enclave_check, padding1, authority, guardian_queue, reserved1, epoch_length,
      current_epoch, next_epoch, finalized_epoch, stake_pool, stake_program, switch_mint, sgx_advisories,
      advisories_len, ebuf4, ebuf3, ebuf2, ebuf1⟩,
      fun _ => rfl, fun _ => rfl⟩

end SwitchboardOnDemand.AccountLayouts
