import SwitchboardOnDemand.Hashing
import SwitchboardOnDemand.Utils

/-!
# Derived addresses

The accounts that the instructions name besides their arguments lie at addresses
derived from seeds: those of the program, of the token and lookup-table programs
and of Jito's. The seeds are digested one after the other with nothing between
them. Those of any two derivations have different lengths or the same fields, so
that two different derivations give one address only through a collision of the
digest (`address_eq_iff`).
-/

namespace SwitchboardOnDemand.Addresses
open Rust SwitchboardOnDemand.Utils

def ON_DEMAND_MAINNET_PID : Pubkey :=
  ⟨[6, 115, 189, 70, 242, 228, 126, 4, 241, 43, 217, 47, 183, 49, 150, 142, 205, 157, 151, 87, 194, 116, 218, 135, 71,
    111, 70, 92, 4, 12, 101, 115], by decide⟩

def ON_DEMAND_DEVNET_PID : Pubkey :=
  ⟨[144, 110, 20, 100, 197, 248, 183, 99, 60, 192, 90, 66, 76, 221, 179, 174, 205, 109, 171, 184, 174, 199, 71, 188, 79,
    62, 17, 48, 30, 64, 99, 203], by decide⟩

def SPL_ASSOCIATED_TOKEN_ACCOUNT_PROGRAM_ID : Pubkey :=
  ⟨[140, 151, 37, 143, 78, 36, 137, 241, 187, 61, 16, 41, 20, 142, 13, 131, 11, 90, 19, 153, 218, 255, 16, 132, 4, 142,
    123, 216, 219, 233, 248, 89], by decide⟩

/-- Also `spl_token::ID`. -/
def SPL_TOKEN_PROGRAM_ID : Pubkey :=
  ⟨[6, 221, 246, 225, 215, 101, 161, 147, 217, 203, 225, 70, 206, 235, 121, 172, 28, 180, 133, 237, 95, 91, 55, 145, 58,
    140, 245, 133, 126, 255, 0, 169], by decide⟩

def JITO_VAULT_ID : Pubkey :=
  ⟨[7, 82, 151, 3, 233, 209, 72, 36, 13, 237, 19, 215, 83, 88, 206, 101, 40, 120, 109, 65, 221, 187, 195, 114, 118, 11,
    178, 161, 116, 80, 255, 125], by decide⟩

def JITO_RESTAKING_ID : Pubkey :=
  ⟨[6, 80, 196, 128, 197, 32, 56, 109, 46, 134, 174, 14, 207, 116, 137, 139, 142, 86, 234, 52, 231, 39, 253, 70, 176,
    213, 22, 247, 84, 97, 202, 81], by decide⟩

/-- `address_lookup_table::program::ID`. -/
def address_lookup_table_program : Pubkey :=
  ⟨[2, 119, 166, 175, 151, 51, 155, 122, 200, 141, 24, 146, 201, 4, 70, 245, 0, 2, 48, 146, 102, 246, 46, 83, 193, 24,
    36, 73, 130, 0, 0, 0], by decide⟩

/-- `spl_token::native_mint::ID`. -/
def native_mint : Pubkey :=
  ⟨[6, 155, 136, 87, 254, 171, 129, 132, 251, 104, 127, 99, 70, 24, 192, 53, 218, 196, 57, 220, 26, 235, 59, 85, 152,
    160, 240, 0, 0, 0, 0, 1], by decide⟩

/-- `system_program::ID`. -/
def system_program : Pubkey := repeated 0 32

/-- What the digest of an address is taken of. -/
def preimage (seeds : List Bytes) (bump : UInt8) (program : Pubkey) : Bytes :=
  seeds.flatten ++ [bump] ++ program.val ++ utf8 "ProgramDerivedAddress"

/-- The parts of the SDK and of the environment that addresses come from. -/
structure AddressApi where
  /-- The feature `devnet`, or `SB_ENV` set to it. -/
  is_devnet : Bool
  sha256 : Bytes → Pubkey
  /-- An address that seeds derive, and its bump. -/
  find_program_address : List Bytes → Pubkey → Pubkey × UInt8
  derived : ∀ seeds program,
    (find_program_address seeds program).1 = sha256 (preimage seeds (find_program_address seeds program).2 program)

variable (api : AddressApi)

/-! ### The program -/

def get_switchboard_on_demand_program_id : Pubkey :=
  if api.is_devnet then ON_DEMAND_DEVNET_PID else ON_DEMAND_MAINNET_PID

def get_sb_program_id (cluster : String) : Pubkey :=
  if ¬ (utf8 "mainnet").isPrefixOf (utf8 cluster) then ON_DEMAND_DEVNET_PID else ON_DEMAND_MAINNET_PID

/-- `Owner::owner` of every account type, and the program of every instruction. -/
def owner : Pubkey := if api.is_devnet then get_sb_program_id "devnet" else get_sb_program_id "mainnet"

theorem owner_eq : owner api = get_switchboard_on_demand_program_id api := by
  unfold owner get_switchboard_on_demand_program_id
  cases api.is_devnet with
  | true => rfl
  | false => rfl

/-! ### Derivations -/

/-- `State::get_pda`. -/
def get_pda : Pubkey := (api.find_program_address [utf8 "STATE"] (owner api)).1

def get_program_pda (program_id : Option Pubkey) : Pubkey :=
  (api.find_program_address [utf8 "STATE"] (program_id.getD (owner api))).1

def find_lut_signer (k : Pubkey) : Pubkey :=
  let pid := if api.is_devnet then ON_DEMAND_DEVNET_PID else ON_DEMAND_MAINNET_PID
  (api.find_program_address [utf8 "LutSigner", k.val] pid).1

/-- Also the SDK's function of this name. -/
def derive_lookup_table_address (authority_address : Pubkey) (recent_block_slot : UInt64) : Pubkey × UInt8 :=
  api.find_program_address [authority_address.val, leBytes 8 recent_block_slot.toNat] address_lookup_table_program

def find_lut_of (k : Pubkey) (lut_slot : UInt64) : Pubkey := (derive_lookup_table_address api k lut_slot).1

def stats_key (key : Pubkey) : Pubkey := (api.find_program_address [utf8 "OracleStats", key.val] (owner api)).1

def feed_stats_seed (feed oracle bump : Bytes) : List Bytes := [utf8 "OracleFeedStats", feed, oracle, bump]

def feed_stats_key (feed oracle : Pubkey) : Pubkey × UInt8 :=
  api.find_program_address (feed_stats_seed feed.val oracle.val []) (owner api)

def get_associated_token_address_and_bump_seed (wallet_address token_mint_address program_id token_program_id : Pubkey) :
    Pubkey × UInt8 :=
  api.find_program_address [wallet_address.val, token_program_id.val, token_mint_address.val] program_id

def get_associated_token_address_with_program_id (wallet_address token_mint_address token_program_id : Pubkey) : Pubkey :=
  (get_associated_token_address_and_bump_seed api wallet_address token_mint_address
    SPL_ASSOCIATED_TOKEN_ACCOUNT_PROGRAM_ID token_program_id).1

def get_associated_token_address (wallet_address token_mint_address : Pubkey) : Pubkey :=
  get_associated_token_address_with_program_id api wallet_address token_mint_address SPL_TOKEN_PROGRAM_ID

def find_associated_token_address (owner mint : Pubkey) : Pubkey :=
  (api.find_program_address [owner.val, SPL_TOKEN_PROGRAM_ID.val, mint.val] SPL_ASSOCIATED_TOKEN_ACCOUNT_PROGRAM_ID).1

def vault_config : Pubkey := (api.find_program_address [utf8 "config"] JITO_VAULT_ID).1

/-- The two escrows of a reward pool, by their mints. -/
def reward_pool_escrow (stake_program delegation_pool mint : Pubkey) : Pubkey :=
  (api.find_program_address [utf8 "RewardPool", delegation_pool.val, mint.val] stake_program).1

def delegation_pool (stake_program state_key oracle_stats stake_pool : Pubkey) : Pubkey :=
  (api.find_program_address [utf8 "Delegation", state_key.val, oracle_stats.val, stake_pool.val] stake_program).1

def delegation_group (stake_program state_key stake_pool queue : Pubkey) : Pubkey :=
  (api.find_program_address [utf8 "Group", state_key.val, stake_pool.val, queue.val] stake_program).1

def ncn_operator_state (ncn operator : Pubkey) : Pubkey :=
  (api.find_program_address [utf8 "ncn_operator_state", ncn.val, operator.val] JITO_RESTAKING_ID).1

def operator_vault_ticket (operator vault : Pubkey) : Pubkey :=
  (api.find_program_address [utf8 "operator_vault_ticket", operator.val, vault.val] JITO_RESTAKING_ID).1

def vault_operator_delegation (vault operator : Pubkey) : Pubkey :=
  (api.find_program_address [utf8 "vault_operator_delegation", vault.val, operator.val] JITO_VAULT_ID).1

/-! ### All of them -/

/-- A derivation with its arguments. -/
inductive Derivation where
  | state (program_id : Pubkey)
  | lut_signer (k : Pubkey)
  | lookup_table (authority_address : Pubkey) (recent_block_slot : UInt64)
  | oracle_stats (key : Pubkey)
  | feed_stats (feed oracle : Pubkey)
  | associated_token (wallet_address token_mint_address program_id token_program_id : Pubkey)
  | vault_config
  | reward_pool_escrow (stake_program delegation_pool mint : Pubkey)
  | delegation_pool (stake_program state_key oracle_stats stake_pool : Pubkey)
  | delegation_group (stake_program state_key stake_pool queue : Pubkey)
  | ncn_operator_state (ncn operator : Pubkey)
  | operator_vault_ticket (operator vault : Pubkey)
  | vault_operator_delegation (vault operator : Pubkey)
  deriving DecidableEq

namespace Derivation

def address : Derivation → Pubkey
  | state program_id => get_program_pda api (some program_id)
  | lut_signer k => find_lut_signer api k
  | lookup_table authority_address recent_block_slot => find_lut_of api authority_address recent_block_slot
  | oracle_stats key => stats_key api key
  | feed_stats feed oracle => (feed_stats_key api feed oracle).1
  | associated_token wallet mint program_id token_program_id =>
    (get_associated_token_address_and_bump_seed api wallet mint program_id token_program_id).1
  | vault_config => Addresses.vault_config api
  | reward_pool_escrow stake_program pool mint => Addresses.reward_pool_escrow api stake_program pool mint
  | delegation_pool stake_program state_key stats stake_pool =>
    Addresses.delegation_pool api stake_program state_key stats stake_pool
  | delegation_group stake_program state_key stake_pool queue =>
    Addresses.delegation_group api stake_program state_key stake_pool queue
  | ncn_operator_state ncn operator => Addresses.ncn_operator_state api ncn operator
  | operator_vault_ticket operator vault => Addresses.operator_vault_ticket api operator vault
  | vault_operator_delegation vault operator => Addresses.vault_operator_delegation api vault operator

/-- The account of a wallet for the tokens of a mint. -/
def token_account (wallet mint : Pubkey) : Derivation :=
  associated_token wallet mint SPL_ASSOCIATED_TOKEN_ACCOUNT_PROGRAM_ID SPL_TOKEN_PROGRAM_ID

def seeds : Derivation → List Bytes
  | state _ => [utf8 "STATE"]
  | lut_signer k => [utf8 "LutSigner", k.val]
  | lookup_table authority_address recent_block_slot => [authority_address.val, leBytes 8 recent_block_slot.toNat]
  | oracle_stats key => [utf8 "OracleStats", key.val]
  | feed_stats feed oracle => feed_stats_seed feed.val oracle.val []
  | associated_token wallet mint _ token_program_id => [wallet.val, token_program_id.val, mint.val]
  | vault_config => [utf8 "config"]
  | reward_pool_escrow _ pool mint => [utf8 "RewardPool", pool.val, mint.val]
  | delegation_pool _ state_key stats stake_pool => [utf8 "Delegation", state_key.val, stats.val, stake_pool.val]
  | delegation_group _ state_key stake_pool queue => [utf8 "Group", state_key.val, stake_pool.val, queue.val]
  | ncn_operator_state ncn operator => [utf8 "ncn_operator_state", ncn.val, operator.val]
  | operator_vault_ticket operator vault => [utf8 "operator_vault_ticket", operator.val, vault.val]
  | vault_operator_delegation vault operator => [utf8 "vault_operator_delegation", vault.val, operator.val]

def program : Derivation → Pubkey
  | state program_id => program_id
  | lut_signer _ => owner api
  | lookup_table _ _ => address_lookup_table_program
  | oracle_stats _ => owner api
  | feed_stats _ _ => owner api
  | associated_token _ _ program_id _ => program_id
  | vault_config => JITO_VAULT_ID
  | reward_pool_escrow stake_program _ _ => stake_program
  | delegation_pool stake_program _ _ _ => stake_program
  | delegation_group stake_program _ _ _ => stake_program
  | ncn_operator_state _ _ => JITO_RESTAKING_ID
  | operator_vault_ticket _ _ => JITO_RESTAKING_ID
  | vault_operator_delegation _ _ => JITO_VAULT_ID

/-- How wide the seeds are. -/
def widths : Derivation → List Nat
  | state _ => [5]
  | lut_signer _ => [9, 32]
  | lookup_table _ _ => [32, 8]
  | oracle_stats _ => [11, 32]
  | feed_stats _ _ => [15, 32, 32, 0]
  | associated_token _ _ _ _ => [32, 32, 32]
  | vault_config => [6]
  | reward_pool_escrow _ _ _ => [10, 32, 32]
  | delegation_pool _ _ _ _ => [10, 32, 32, 32]
  | delegation_group _ _ _ _ => [5, 32, 32, 32]
  | ncn_operator_state _ _ => [18, 32, 32]
  | operator_vault_ticket _ _ => [21, 32, 32]
  | vault_operator_delegation _ _ => [25, 32, 32]

/-- The digested bytes of a derivation. -/
def digested (d : Derivation) : Bytes :=
  preimage d.seeds (api.find_program_address d.seeds (d.program api)).2 (d.program api)

theorem address_eq_digest (d : Derivation) : d.address api = api.sha256 (d.digested api) := by
  have found : d.address api = (api.find_program_address d.seeds (d.program api)).1 := by
    cases d with
    | lut_signer k =>
      show find_lut_signer api k = (api.find_program_address _ (owner api)).1
      rw [owner_eq]
      rfl
    | _ => rfl
  rw [found, api.derived]
  rfl

theorem map_length_seeds (d : Derivation) : d.seeds.map List.length = d.widths := by
  have key : ∀ k : Pubkey, k.val.length = 32 := fun k => k.property
  cases d with
  | state _ => rfl
  | lookup_table authority_address slot => simp only [seeds, widths, List.map_cons, List.map_nil, key, length_leBytes]
  | vault_config => rfl
  | associated_token _ _ _ _ => simp only [seeds, widths, List.map_cons, List.map_nil, key]
  | _ =>
    simp only [seeds, feed_stats_seed, widths, List.map_cons, List.map_nil, key]
    rfl

/-- How wide the seeds are together tells which derivation it is. -/
theorem widths_of_sum {a b : Derivation} (same : a.widths.sum = b.widths.sum) : a.widths = b.widths := by
  cases a <;> cases b <;> first
    | rfl
    | simp [widths] at same

/-- The seeds and the program tell the derivation with its arguments. -/
theorem eq_of_seeds {a b : Derivation} (seeds : a.seeds = b.seeds) (program : a.program api = b.program api) :
    a = b := by
  have widths : a.widths = b.widths := by rw [← map_length_seeds, seeds, map_length_seeds]
  have slot : ∀ m n : UInt64, leBytes 8 m.toNat = leBytes 8 n.toNat ↔ m = n := by
    intro m n
    constructor
    · intro same
      rw [← leU64_leBytes m, same, leU64_leBytes]
    · rintro rfl
      rfl
  -- One case for each pair; those of different kinds differ in their widths.
  cases a <;> cases b <;> first
    | (simp [Derivation.widths] at widths; done)
    | simp_all [Derivation.seeds, Derivation.program, feed_stats_seed, Subtype.ext_iff]

theorem length_flatten_seeds (d : Derivation) : d.seeds.flatten.length = d.widths.sum := by
  rw [List.length_flatten, map_length_seeds]

theorem eq_of_digested {a b : Derivation} (same : a.digested api = b.digested api) : a = b := by
  obtain ⟨same, _⟩ := List.append_inj' same rfl
  have keys : (a.program api).val.length = (b.program api).val.length :=
    (a.program api).property.trans (b.program api).property.symm
  obtain ⟨same, program⟩ := List.append_inj' same keys
  obtain ⟨flat, _⟩ := List.append_inj' same rfl
  have sums : a.widths.sum = b.widths.sum := by rw [← length_flatten_seeds, flat, length_flatten_seeds]
  have lengths : a.seeds.map List.length = b.seeds.map List.length := by
    rw [map_length_seeds, widths_of_sum sums, map_length_seeds]
  exact eq_of_seeds api (List.eq_iff_flatten_eq.mpr ⟨flat, lengths⟩) (Subtype.ext program)

/-- The bytes of two derivations with one address are the same or collide. -/
theorem eq_or_collision {a b : Derivation} (same : a.address api = b.address api) :
    a = b ∨ Collision api.sha256 (a.digested api) (b.digested api) := by
  rw [address_eq_digest, address_eq_digest, digest_eq_iff] at same
  exact same.imp_left (eq_of_digested api)

theorem address_of_collision {a b : Derivation} (collision : Collision api.sha256 (a.digested api) (b.digested api)) :
    a.address api = b.address api := by
  rw [address_eq_digest, address_eq_digest, digest_eq_iff]
  exact .inr collision

/-- The two functions that find the account of a wallet for a mint agree: the
    addresses are one for one wallet and mint, and for others only if their bytes
    collide. -/
theorem token_account_eq_iff (owner mint wallet_address token_mint_address : Pubkey) :
    find_associated_token_address api owner mint = get_associated_token_address api wallet_address token_mint_address ↔
      (owner = wallet_address ∧ mint = token_mint_address) ∨
        Collision api.sha256 ((token_account owner mint).digested api)
          ((token_account wallet_address token_mint_address).digested api) := by
  have found : find_associated_token_address api owner mint = (token_account owner mint).address api := rfl
  have got : get_associated_token_address api wallet_address token_mint_address =
      (token_account wallet_address token_mint_address).address api := rfl
  rw [found, got]
  constructor
  · intro same
    refine (eq_or_collision api same).imp_left fun equal => ?_
    obtain ⟨rfl, rfl, _⟩ := associated_token.inj equal
    exact ⟨rfl, rfl⟩
  · rintro (⟨rfl, rfl⟩ | collision)
    · rfl
    · exact address_of_collision api collision

/-- Two derivations give one address exactly when they are one, with the same
    arguments, or their bytes collide. -/
theorem address_eq_iff (a b : Derivation) :
    a.address api = b.address api ↔ a = b ∨ Collision api.sha256 (a.digested api) (b.digested api) := by
  constructor
  · exact eq_or_collision api
  · rintro (rfl | collision)
    · rfl
    · exact address_of_collision api collision

end Derivation

end SwitchboardOnDemand.Addresses
