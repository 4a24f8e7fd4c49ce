import SwitchboardOnDemand.Borsh
import SwitchboardOnDemand.Outcome
import SwitchboardOnDemand.Utils

/-!
# Instruction data

An instruction of the program carries a discriminator of 8 bytes and its
parameters in the Borsh format. The data of an instruction, with whatever bytes
behind them, are read back as this instruction with these parameters and these
bytes. Writing them panics only for a list of 2^32 advisories or more
(`instruction_data_round_trip`).
-/

namespace SwitchboardOnDemand.InstructionData
open Rust SwitchboardOnDemand.Utils

/-- What `Discriminator` and `BorshSerialize` say of an instruction. -/
structure InstructionType (α : Type) where
  discriminator : FixedBytes 8
  format : Borsh α

/-- `InstructionData::data`. -/
def InstructionType.data {ε α : Type} (type : InstructionType α) (params : α) : Exec ε Bytes :=
  match type.format.serialize params with
  | some bytes => .ok (type.discriminator.val ++ bytes)
  | none => .panic "Should always serialize: Kind(InvalidData)"

/-! ### Parameters -/

structure GuardianQuoteVerifyParams where
  timestamp : Int64
  mr_enclave : FixedBytes 32
  idx : UInt32
  ed25519_key : Pubkey
  secp256k1_key : FixedBytes 64
  slot : UInt64
  signature : FixedBytes 64
  recovery_id : UInt8
  advisories : List UInt32

def GuardianQuoteVerifyParams.format : Borsh GuardianQuoteVerifyParams :=
  (Borsh.pair .i64 <| .pair (.bytes 32) <| .pair .u32 <| .pair (.bytes 32) <| .pair (.bytes 64) <| .pair .u64 <|
    .pair (.bytes 64) <| .pair .u8 <| .vec .u32).iso
    ⟨fun x => (x.timestamp, x.mr_enclave, x.idx, x.ed25519_key, x.secp256k1_key, x.slot, x.signature, x.recovery_id,
      x.advisories),
      fun (timestamp, mr_enclave, idx, ed25519_key, secp256k1_key, slot, signature, recovery_id, advisories) =>
      ⟨timestamp, mr_enclave, idx, ed25519_key, secp256k1_key, slot, signature, recovery_id, advisories⟩,
      fun _ => rfl, fun _ => rfl⟩

theorem GuardianQuoteVerifyParams.writes_iff (params : GuardianQuoteVerifyParams) :
    format.Writes params ↔ params.advisories.length < 2 ^ 32 := by
  simp only [format, Borsh.writes_iso, Equiv.coe_fn_mk, Borsh.writes_pair, Borsh.writes_i64, Borsh.writes_bytes,
    Borsh.writes_u32, Borsh.writes_u64, Borsh.writes_u8, Borsh.writes_vec, true_and, implies_true, and_true]

structure OracleHeartbeatParams where
  uri : Option (FixedBytes 64)

def OracleHeartbeatParams.format : Borsh OracleHeartbeatParams :=
  (Borsh.option (.bytes 64)).iso ⟨fun x => x.uri, fun uri => ⟨uri⟩, fun _ => rfl, fun _ => rfl⟩

theorem OracleHeartbeatParams.writes (params : OracleHeartbeatParams) : format.Writes params := by
  simp [format, Borsh.writes_option]

structure OracleHeartbeatV2Params where
  uri : Option (FixedBytes 64)

def OracleHeartbeatV2Params.format : Borsh OracleHeartbeatV2Params :=
  (Borsh.option (.bytes 64)).iso ⟨fun x => x.uri, fun uri => ⟨uri⟩, fun _ => rfl, fun _ => rfl⟩

theorem OracleHeartbeatV2Params.writes (params : OracleHeartbeatV2Params) : format.Writes params := by
  simp [format, Borsh.writes_option]

structure OracleResetLutParams where
  recent_slot : UInt64

def OracleResetLutParams.format : Borsh OracleResetLutParams :=
  Borsh.u64.iso ⟨fun x => x.recent_slot, fun recent_slot => ⟨recent_slot⟩, fun _ => rfl, fun _ => rfl⟩

structure OracleSetConfigsParams where
  new_authority : Option Pubkey
  new_secp_authority : Option (FixedBytes 64)

def OracleSetConfigsParams.format : Borsh OracleSetConfigsParams :=
  (Borsh.pair (.option (.bytes 32)) (.option (.bytes 64))).iso
    ⟨fun x => (x.new_authority, x.new_secp_authority),
      fun (new_authority, new_secp_authority) => ⟨new_authority, new_secp_authority⟩, fun _ => rfl, fun _ => rfl⟩

theorem OracleSetConfigsParams.writes (params : OracleSetConfigsParams) : format.Writes params := by
  simp [format, Borsh.writes_option]

structure AttestationPermissionSetParams where
  permission : UInt8
  enable : Bool

def AttestationPermissionSetParams.format : Borsh AttestationPermissionSetParams :=
  (Borsh.pair .u8 .bool).iso
    ⟨fun x => (x.permission, x.enable), fun (permission, enable) => ⟨permission, enable⟩, fun _ => rfl, fun _ => rfl⟩

theorem AttestationPermissionSetParams.writes (params : AttestationPermissionSetParams) : format.Writes params := by
  simp [format]

structure QueueGarbageCollectParams where
  idx : UInt32

def QueueGarbageCollectParams.format : Borsh QueueGarbageCollectParams :=
  Borsh.u32.iso ⟨fun x => x.idx, fun idx => ⟨idx⟩, fun _ => rfl, fun _ => rfl⟩

structure QueueResetLutParams where
  recent_slot : UInt64

def QueueResetLutParams.format : Borsh QueueResetLutParams :=
  Borsh.u64.iso ⟨fun x => x.recent_slot, fun recent_slot => ⟨recent_slot⟩, fun _ => rfl, fun _ => rfl⟩

/-! These have no parameters. -/

abbrev OracleSyncLutParams := Unit
abbrev QueuePayRewardParams := Unit
abbrev QueuePaySubsidyParams := Unit
abbrev RandomnessCommitParams := Unit

/-! ### The instructions -/

inductive Name where
  | GuardianQuoteVerify
  | OracleHeartbeat
  | OracleHeartbeatV2
  | OracleResetLut
  | OracleSetConfigs
  | OracleSyncLut
  | AttestationPermissionSet
  | QueueGarbageCollect
  | QueuePayReward
  | QueuePaySubsidy
  | QueueResetLut
  | RandomnessCommit
  deriving Repr, DecidableEq

def Name.Params : Name → Type
  | GuardianQuoteVerify => GuardianQuoteVerifyParams
  | OracleHeartbeat => OracleHeartbeatParams
  | OracleHeartbeatV2 => OracleHeartbeatV2Params
  | OracleResetLut => OracleResetLutParams
  | OracleSetConfigs => OracleSetConfigsParams
  | OracleSyncLut => OracleSyncLutParams
  | AttestationPermissionSet => AttestationPermissionSetParams
  | QueueGarbageCollect => QueueGarbageCollectParams
  | QueuePayReward => QueuePayRewardParams
  | QueuePaySubsidy => QueuePaySubsidyParams
  | QueueResetLut => QueueResetLutParams
  | RandomnessCommit => RandomnessCommitParams

def Name.type : (name : Name) → InstructionType name.Params
  | GuardianQuoteVerify => ⟨⟨[168, 36, 93, 156, 157, 150, 148, 45], by decide⟩, GuardianQuoteVerifyParams.format⟩
  | OracleHeartbeat => ⟨⟨[10, 175, 217, 130, 111, 35, 117, 54], by decide⟩, OracleHeartbeatParams.format⟩
  | OracleHeartbeatV2 => ⟨⟨[122, 231, 66, 32, 226, 62, 144, 103], by decide⟩, OracleHeartbeatV2Params.format⟩
  | OracleResetLut => ⟨⟨[147, 244, 108, 198, 152, 219, 0, 22], by decide⟩, OracleResetLutParams.format⟩
  | OracleSetConfigs => ⟨⟨[129, 111, 223, 4, 191, 188, 70, 180], by decide⟩, OracleSetConfigsParams.format⟩
  | OracleSyncLut => ⟨⟨[138, 99, 12, 59, 18, 170, 171, 45], by decide⟩, .unit⟩
  | AttestationPermissionSet =>
    ⟨⟨[211, 122, 185, 120, 129, 182, 55, 103], by decide⟩, AttestationPermissionSetParams.format⟩
  | QueueGarbageCollect => ⟨⟨[187, 208, 104, 247, 16, 91, 96, 98], by decide⟩, QueueGarbageCollectParams.format⟩
  | QueuePayReward => ⟨⟨[42, 168, 3, 251, 144, 57, 105, 201], by decide⟩, .unit⟩
  | QueuePaySubsidy => ⟨⟨[85, 84, 51, 251, 144, 57, 105, 200], by decide⟩, .unit⟩
  | QueueResetLut => ⟨⟨[126, 234, 176, 75, 38, 211, 204, 53], by decide⟩, QueueResetLutParams.format⟩
  | RandomnessCommit => ⟨⟨[52, 170, 152, 201, 179, 133, 242, 141], by decide⟩, .unit⟩

/-- An instruction with its parameters. -/
abbrev Call := (name : Name) × name.Params

def Call.data {ε : Type} (call : Call) : Exec ε Bytes := call.1.type.data call.2

/-- Its lists have lengths that a `u32` can hold. -/
def Call.Short : Call → Prop
  | ⟨.GuardianQuoteVerify, (params : GuardianQuoteVerifyParams)⟩ => params.advisories.length < 2 ^ 32
  | _ => True

/-! ### Reading the data back -/

def names : List Name :=
  [.GuardianQuoteVerify, .OracleHeartbeat, .OracleHeartbeatV2, .OracleResetLut, .OracleSetConfigs, .OracleSyncLut,
    .AttestationPermissionSet, .QueueGarbageCollect, .QueuePayReward, .QueuePaySubsidy, .QueueResetLut,
    .RandomnessCommit]

/-- The call at the front of some bytes: its discriminator names the instruction,
    whose format reads the parameters. -/
def read_call (data : Bytes) : Option (Call × Bytes) :=
  (names.find? fun name => name.type.discriminator.val = window data 0 8).bind fun name =>
    (name.type.format.deserialize (data.drop 8)).map fun (params, rest) => (⟨name, params⟩, rest)

theorem discriminator_injective {a b : Name} (same : a.type.discriminator.val = b.type.discriminator.val) : a = b := by
  revert same
  cases a <;> cases b <;> decide

theorem find_name (name : Name) :
    (names.find? fun other => other.type.discriminator.val = name.type.discriminator.val) = some name := by
  cases name <;> decide

theorem data_ok_iff {ε : Type} (call : Call) (data : Bytes) :
    (call.data : Exec ε Bytes) = .ok data ↔
      ∃ bytes, call.1.type.format.serialize call.2 = some bytes ∧ data = call.1.type.discriminator.val ++ bytes := by
  unfold Call.data InstructionType.data
  cases call.1.type.format.serialize call.2 with
  | none => simp
  | some bytes => simp [eq_comm]

theorem read_call_iff {ε : Type} (data : Bytes) (call : Call) (rest : Bytes) :
    read_call data = some (call, rest) ↔ ∃ bytes, (call.data : Exec ε Bytes) = .ok bytes ∧ data = bytes ++ rest := by
  obtain ⟨name, params⟩ := call
  have eight := name.type.discriminator.property
  simp only [data_ok_iff, read_call, Option.bind_eq_some_iff, Option.map_eq_some_iff, Prod.mk.injEq, Prod.exists]
  constructor
  · rintro ⟨found, named, read, behind, deserialized, same, rfl⟩
    obtain ⟨rfl, same⟩ := Sigma.mk.inj same
    obtain rfl := eq_of_heq same
    obtain ⟨bytes, written, back⟩ := (found.type.format.reads _ _ _).mp deserialized
    have front : found.type.discriminator.val = window data 0 8 := by simpa using List.find?_some named
    refine ⟨_, ⟨bytes, written, rfl⟩, ?_⟩
    rw [front, List.append_assoc, ← back, window, List.drop_zero, List.take_append_drop]
  · rintro ⟨_, ⟨bytes, written, rfl⟩, rfl⟩
    have front : window (name.type.discriminator.val ++ bytes ++ rest) 0 8 = name.type.discriminator.val := by
      rw [List.append_assoc, window_append_left (by omega), window_full eight]
    have back : (name.type.discriminator.val ++ bytes ++ rest).drop 8 = bytes ++ rest := by
      rw [List.append_assoc, List.drop_left' eight]
    rw [front, back]
    exact ⟨name, find_name name, params, rest, name.type.format.deserialize_serialize written rest, rfl, rfl⟩

/-- Only a list that is too long cannot be written. -/
theorem writes_params_iff (call : Call) : call.1.type.format.Writes call.2 ↔ call.Short := by
  obtain ⟨name, params⟩ := call
  cases name with
  | GuardianQuoteVerify => exact GuardianQuoteVerifyParams.writes_iff params
  | OracleHeartbeat => exact iff_of_true (OracleHeartbeatParams.writes params) trivial
  | OracleHeartbeatV2 => exact iff_of_true (OracleHeartbeatV2Params.writes params) trivial
  | OracleSetConfigs => exact iff_of_true (OracleSetConfigsParams.writes params) trivial
  | AttestationPermissionSet => exact iff_of_true (AttestationPermissionSetParams.writes params) trivial
  | _ => exact iff_of_true ⟨_, rfl⟩ trivial

/-- The data of a call, with any bytes behind it, are read back as this call and
    these bytes, and nothing else is read as it. Only with a list of 2^32 elements
    or more there is no data, but a panic. -/
theorem instruction_data_round_trip {ε : Type} (call : Call) :
    (∀ data rest, read_call data = some (call, rest) ↔
      ∃ bytes, (call.data : Exec ε Bytes) = .ok bytes ∧ data = bytes ++ rest) ∧
    ((∃ bytes, (call.data : Exec ε Bytes) = .ok bytes) ↔ call.Short) ∧
    ((call.data : Exec ε Bytes) = .panic "Should always serialize: Kind(InvalidData)" ↔ ¬ call.Short) := by
  have writes := writes_params_iff call
  unfold Borsh.Writes at writes
  refine ⟨fun data rest => read_call_iff data call rest, ?_, ?_⟩
  · rw [← writes]
    unfold Call.data InstructionType.data
    cases call.1.type.format.serialize call.2 with
    | none => simp
    | some bytes => simp
  · rw [← writes]
    unfold Call.data InstructionType.data
    cases call.1.type.format.serialize call.2 with
    | none => simp
    | some bytes => simp

end SwitchboardOnDemand.InstructionData
