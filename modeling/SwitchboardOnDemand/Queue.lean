import SwitchboardOnDemand.AccountData
import SwitchboardOnDemand.Utils

/-!
The queue account: the 6272 bytes of `QueueAccountData` behind an 8-byte
discriminator, with the keys of its oracles at their places in the layout.
-/

namespace SwitchboardOnDemand.Queue
open Rust SwitchboardOnDemand.Error SwitchboardOnDemand.Utils

/-- The fields of a queue that the modelled functions read. -/
structure QueueAccountData where
  oracle_keys : Vector Pubkey 78
  ed25519_oracle_signing_keys : Vector Pubkey 30
  oracle_keys_len : Nat
  deriving Repr, DecidableEq

/-- `size_of::<QueueAccountData>()`. -/
def QUEUE_SIZE : Nat := 6272

/-- The fields at their offsets: the authority and the 32 enclave measurements
    come before the oracle keys, 40 reserved bytes and the 30 SECP256K1 keys
    before the Ed25519 keys, and five `i64` and `u64` fields and the number of
    measurements before the number of oracle keys. -/
def QueueAccountData.ofBytes (bytes : FixedBytes QUEUE_SIZE) : QueueAccountData where
  oracle_keys := Vector.ofFn fun i => fixedAt bytes.val (1056 + 32 * i) 32
    (by have := bytes.property; unfold QUEUE_SIZE at this; omega)
  ed25519_oracle_signing_keys := Vector.ofFn fun i => fixedAt bytes.val (4192 + 32 * i) 32
    (by have := bytes.property; unfold QUEUE_SIZE at this; omega)
  oracle_keys_len := leNat (window bytes.val 5196 4)

/-- `bytemuck::try_from_bytes::<QueueAccountData>` on bytes at an aligned address:
    the length must be exact. -/
def try_from_bytes (bytes : Bytes) : Except String QueueAccountData :=
  if size : bytes.length = QUEUE_SIZE then .ok (QueueAccountData.ofBytes ⟨bytes, size⟩) else .error "SizeMismatch"

theorem try_from_bytes_ok_iff (bytes : Bytes) (queue : QueueAccountData) :
    try_from_bytes bytes = .ok queue ↔
      ∃ size : bytes.length = QUEUE_SIZE, queue = QueueAccountData.ofBytes ⟨bytes, size⟩ := by
  by_cases size : bytes.length = QUEUE_SIZE
  · simp [try_from_bytes, size, eq_comm]
  · simp [try_from_bytes, size]

def QUEUE_ACCOUNT_DISCRIMINATOR : Bytes := [217, 194, 55, 127, 184, 83, 138, 1]

/-- Reads a queue behind its discriminator; bytes behind the queue are ignored. -/
def QueueAccountData.new_from_bytes (data : Bytes) : Except OnDemandError QueueAccountData :=
  AccountData.new_from_bytes QUEUE_ACCOUNT_DISCRIMINATOR QUEUE_SIZE try_from_bytes data

theorem QueueAccountData.new_from_bytes_ok_iff (data : Bytes) (queue : QueueAccountData) :
    new_from_bytes data = .ok queue ↔
      QUEUE_SIZE + 8 ≤ data.length ∧ window data 0 8 = QUEUE_ACCOUNT_DISCRIMINATOR ∧
        try_from_bytes (window data 8 QUEUE_SIZE) = .ok queue :=
  AccountData.new_from_bytes_ok_iff rfl _ _ _ _

/-- A queue account of the right size. -/
structure QueueAccount where
  account : AccountInfo
  size : account.data.length = 8 + QUEUE_SIZE

def QueueAccount.queue (queue : QueueAccount) : QueueAccountData :=
  QueueAccountData.ofBytes (fixedAt queue.account.data 8 QUEUE_SIZE (by rw [queue.size]))

theorem QueueAccount.try_from_bytes_eq (queue : QueueAccount) :
    try_from_bytes (queue.account.data.drop 8) = .ok queue.queue := by
  have size : (queue.account.data.drop 8).length = QUEUE_SIZE := by simp [queue.size]
  refine (try_from_bytes_ok_iff _ _).mpr ⟨size, ?_⟩
  rw [QueueAccount.queue]
  congr 1
  apply Subtype.ext
  exact List.take_of_length_le (le_of_eq size)

/-- The key at an unset place. -/
def unsetKey : Pubkey := ⟨List.replicate 32 0, by decide⟩

/-! ### Building a queue -/

private theorem each_key (keys : Vector Pubkey 30) : ∀ chunk ∈ keys.toList.map Subtype.val, chunk.length = 32 := by
  intro chunk member
  obtain ⟨key, _, rfl⟩ := List.mem_map.mp member
  exact key.property

/-- A queue account with the given Ed25519 keys and zeros elsewhere. -/
def QueueAccount.ofKeys (key : Pubkey) (keys : Vector Pubkey 30) : QueueAccount where
  account := ⟨key, List.replicate 4200 0 ++ (keys.toList.map Subtype.val).flatten ++ List.replicate 1120 0⟩
  size := by
    rw [List.length_append, List.length_append, length_flatten (each_key keys), List.length_map, Vector.length_toList,
      List.length_replicate, List.length_replicate]
    rfl

theorem QueueAccount.ofKeys_keys (key : Pubkey) (keys : Vector Pubkey 30) :
    (ofKeys key keys).queue.ed25519_oracle_signing_keys = keys := by
  ext1 i inside
  simp only [queue, QueueAccountData.ofBytes, Vector.getElem_ofFn]
  apply Subtype.ext
  rw [fixedAt_val, fixedAt_val, window_window (by unfold QUEUE_SIZE; omega)]
  simp only [ofKeys]
  rw [List.append_assoc,
    window_append_right (by rw [List.length_replicate]; omega), List.length_replicate,
    window_append_left (by rw [length_flatten (each_key keys), List.length_map, Vector.length_toList]; omega),
    show 8 + (4192 + 32 * i) - 4200 = 32 * i by omega, window_flatten (each_key keys) (by simpa using inside),
    List.getElem_map,
    Vector.getElem_toList]

end SwitchboardOnDemand.Queue
