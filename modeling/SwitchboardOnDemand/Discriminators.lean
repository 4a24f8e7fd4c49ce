import SwitchboardOnDemand.Instructions
import SwitchboardOnDemand.Sha256

/-!
# Discriminators

Instructions and accounts are told apart by eight bytes that the source writes
down. By the convention that `InstructionData` states, these are the front of the
SHA-256 hash of a name, the method that an instruction calls. For all but two of
the instructions they are, and these two start with the hash of no method
(`dispatch_data`). The call from within another program hashes the name and is the
same instruction as the one from outside (`invoke_eq`).
-/

namespace SwitchboardOnDemand.Discriminators
open Rust SwitchboardOnDemand.Utils SwitchboardOnDemand.InstructionData SwitchboardOnDemand.ZeroCopy
open SwitchboardOnDemand.Transactions SwitchboardOnDemand.Instructions SwitchboardOnDemand.Addresses

/-! ### Hashes of names -/

/-- The first eight bytes of a hash. -/
def sighash (preimage : String) : FixedBytes 8 :=
  fixedAt (Sha256.hash (utf8 preimage)).val 0 8 (by rw [(Sha256.hash _).property]; omega)

def get_ixn_discriminator (ixn_name : String) : FixedBytes 8 := sighash ("global:" ++ ixn_name)

def get_account_discriminator (account_name : String) : FixedBytes 8 := sighash ("account:" ++ account_name)

/-- The one of `randomness_commit`. -/
def ix_discriminator (name : String) : FixedBytes 8 := sighash ("global:" ++ name)

/-- The method that an instruction is for, by the name of its module. -/
def method : Name → String
  | .GuardianQuoteVerify => "guardian_quote_verify"
  | .OracleHeartbeat => "oracle_heartbeat"
  | .OracleHeartbeatV2 => "oracle_heartbeat_v2"
  | .OracleResetLut => "oracle_reset_lut"
  | .OracleSetConfigs => "oracle_set_configs"
  | .OracleSyncLut => "oracle_sync_lut"
  | .AttestationPermissionSet => "permission_set"
  | .QueueGarbageCollect => "queue_garbage_collect"
  | .QueuePayReward => "queue_pay_rewards"
  | .QueuePaySubsidy => "queue_pay_subsidy"
  | .QueueResetLut => "queue_reset_lut"
  | .RandomnessCommit => "randomness_commit"

/-- The name of an account type. -/
def account_name : Account → String
  | .queue => "QueueAccountData"
  | .oracle => "OracleAccountData"
  | .oracle_stats => "OracleStatsAccountData"
  | .randomness => "RandomnessAccountData"
  | .pull_feed => "PullFeedAccountData"
  | .state => "State"

/-- What the hashes of the methods are. -/
def hashed : Name → FixedBytes 8
  | .QueuePayReward => ⟨[67, 87, 149, 166, 56, 112, 20, 12], rfl⟩
  | .QueueResetLut => ⟨[224, 85, 0, 204, 71, 42, 11, 242], rfl⟩
  | name => name.type.discriminator

theorem get_ixn_discriminator_method (name : Name) : get_ixn_discriminator (method name) = hashed name := by
  cases name <;> decide +kernel

/-- Every account type has the hash of its name. -/
theorem get_account_discriminator_name (account : Account) :
    get_account_discriminator (account_name account) = account.type.discriminator := by
  cases account <;> decide +kernel

/-! ### The method of an instruction -/

/-- The instruction that some data are for by the convention: they start with the
    hash of its method. -/
def dispatch (data : Bytes) : Option Name :=
  names.find? fun name => (get_ixn_discriminator (method name)).val = window data 0 8

/-- The source does not write down the hash. -/
def Misnamed (name : Name) : Prop := name = .QueuePayReward ∨ name = .QueueResetLut

instance (name : Name) : Decidable (Misnamed name) := inferInstanceAs (Decidable (_ ∨ _))

theorem find_hashed (name : Name) : (names.find? fun other => (hashed other).val = name.type.discriminator.val) =
    if Misnamed name then none else some name := by
  cases name <;> decide

theorem dispatch_discriminator (name : Name) (rest : Bytes) :
    dispatch (name.type.discriminator.val ++ rest) = if Misnamed name then none else some name := by
  have eight := name.type.discriminator.property
  have front : window (name.type.discriminator.val ++ rest) 0 8 = name.type.discriminator.val := by
    rw [window_append_left (by omega), window_full eight]
  unfold dispatch
  simp only [front, get_ixn_discriminator_method]
  exact find_hashed name

/-- The data of a call are for its own method, whatever the parameters and the bytes
    behind them; only those of two instructions are for none. -/
theorem dispatch_data {ε : Type} {call : Call} {data : Bytes} (written : (call.data : Exec ε Bytes) = .ok data)
    (rest : Bytes) : dispatch (data ++ rest) = if Misnamed call.1 then none else some call.1 := by
  obtain ⟨bytes, _, rfl⟩ := (data_ok_iff call data).mp written
  rw [List.append_assoc]
  exact dispatch_discriminator call.1 (bytes ++ rest)

theorem dispatch_data_subsidy :
    dispatch ([85, 84, 51, 251, 144, 57, 105, 200] ++ [1, 2]) = if Misnamed .QueuePaySubsidy then none
      else some .QueuePaySubsidy :=
  @dispatch_data Empty ⟨.QueuePaySubsidy, ()⟩ _ rfl [1, 2]

theorem call_ne_resetLut (request : Request) : request.call.1 ≠ .QueueResetLut := by
  cases request <;> exact Name.noConfusion

/-- Of the instructions that are built, only the payment of a reward is for no
    method. -/
theorem dispatch_built {api : AddressApi} {rpc : LookupTables.RpcClient} {request : Request} {ix : Instruction}
    (built : request.build api rpc = .ok ix) :
    dispatch ix.data = if request.call.1 = .QueuePayReward then none else some request.call.1 := by
  have asks := asks_of_build api rpc request built
  obtain ⟨data, written, same⟩ := (read_call_iff (ε := CrateError) ix.data request.call []).mp asks.data
  obtain ⟨bytes, _, rfl⟩ := (data_ok_iff request.call data).mp written
  rw [same, List.append_assoc, dispatch_discriminator]
  simp [Misnamed, call_ne_resetLut request]

/-! ### A call from another program -/

/-- `RandomnessCommit::invoke`, with the call that the runtime makes. -/
def invoke {ε : Type} (invoke_signed : Instruction → List AccountInfo → List (List Bytes) → Exec ε Unit)
    (switchboard randomness queue oracle authority recent_slothashes : AccountInfo) (seeds : List (List Bytes)) :
    Exec ε Unit :=
  let accounts := [randomness, queue, oracle, recent_slothashes, authority]
  let account_metas := RandomnessCommitAccounts.to_account_metas
    ⟨randomness.key, queue.key, oracle.key, recent_slothashes.key, authority.key⟩
  let ix : Instruction := ⟨switchboard.key, account_metas, (ix_discriminator "randomness_commit").val⟩
  invoke_signed ix accounts seeds

/-- Every account that the instruction names is handed over with it. -/
def Provides (ix : Instruction) (accounts : List AccountInfo) : Prop :=
  ∀ named ∈ ix.accounts, ∃ account ∈ accounts, account.key = named.pubkey

/-- The call is the instruction that `build_ix` builds for these accounts, at the
    given program. It names the slot-hashes sysvar, whatever account was given for it;
    so that must be among the accounts. -/
theorem invoke_eq {ε : Type} (api : AddressApi)
    (invoke_signed : Instruction → List AccountInfo → List (List Bytes) → Exec ε Unit)
    (switchboard randomness queue oracle authority recent_slothashes : AccountInfo) (seeds : List (List Bytes)) :
    ∃ ix, randomness_commit api randomness.key queue.key oracle.key authority.key = .ok ix ∧
      invoke invoke_signed switchboard randomness queue oracle authority recent_slothashes seeds =
        invoke_signed { ix with program_id := switchboard.key }
          [randomness, queue, oracle, recent_slothashes, authority] seeds ∧
      (Provides ix [randomness, queue, oracle, recent_slothashes, authority] ↔
        ∃ account ∈ [randomness, queue, oracle, recent_slothashes, authority],
          account.key = SlothashSysvar.slot_hashes_ID) := by
  refine ⟨_, rfl, ?_, ?_⟩
  · have same : ix_discriminator "randomness_commit" = Name.RandomnessCommit.type.discriminator :=
      get_ixn_discriminator_method .RandomnessCommit
    rw [invoke, same]
    rfl
  · constructor
    · intro provides
      have named : new_readonly SlothashSysvar.slot_hashes_ID false ∈ RandomnessCommitAccounts.to_account_metas
          ⟨randomness.key, queue.key, oracle.key, SlothashSysvar.slot_hashes_ID, authority.key⟩ := by
        simp [RandomnessCommitAccounts.to_account_metas]
      exact provides _ named
    · intro sysvar named member
      simp only [RandomnessCommitAccounts.to_account_metas, List.mem_cons, List.not_mem_nil, or_false] at member
      rcases member with rfl | rfl | rfl | rfl | rfl
      · exact ⟨randomness, by simp, rfl⟩
      · exact ⟨queue, by simp, rfl⟩
      · exact ⟨oracle, by simp, rfl⟩
      · exact sysvar
      · exact ⟨authority, by simp, rfl⟩

end SwitchboardOnDemand.Discriminators
