import SwitchboardOnDemand.Outcome
import SwitchboardOnDemand.ZeroCopy

/-!
# What the accounts are asked

The accessors of queues, oracles, randomness accounts and pull feeds. The lists
of a queue are the front of an array, with a stored length that is not checked:
one that is too long makes the accessors of the list panic, and otherwise they
are about one list (`idx_of_oracle_iff`, `has_mr_enclave_iff`).
-/

namespace SwitchboardOnDemand.AccountMethods
open Rust SwitchboardOnDemand.Error SwitchboardOnDemand.Utils SwitchboardOnDemand.AccountLayouts
open SwitchboardOnDemand.ZeroCopy

variable {ε α : Type} {n : Nat}

/-- `array[..len]`. -/
def slice_to (array : Vector α n) (len : UInt32) : Exec ε (List α) :=
  if len.toNat ≤ n then .ok (array.toList.take len.toNat)
  else .panic s!"range end index {len} out of range for slice of length {n}"

/-- `array[index]`. -/
def index_of (array : Vector α n) (index : Nat) : Exec ε α :=
  if inside : index < n then .ok array[index]
  else .panic s!"index out of bounds: the len is {n} but the index is {index}"

/-- `Pubkey::default()`. -/
def default_pubkey : Pubkey := repeated 0 32

/-- A stored key, unless it is the one that stands for none. -/
def if_set [DecidableEq α] (unset key : α) : Option α := if key = unset then none else some key

theorem if_set_eq_some [DecidableEq α] {unset key value : α} :
    if_set unset key = some value ↔ key = value ∧ value ≠ unset := by
  unfold if_set
  split
  · rename_i same
    simp [same, eq_comm]
  · rename_i other
    constructor
    · rintro ⟨⟩
      exact ⟨rfl, other⟩
    · rintro ⟨rfl, _⟩
      rfl

theorem index_of_eq_ok {array : Vector α n} {index : Nat} {value : α} :
    (index_of array index : Exec ε α) = .ok value ↔ array[index]? = some value := by
  unfold index_of
  split
  · rename_i inside
    rw [Vector.getElem?_eq_getElem inside, Exec.ok.injEq, Option.some.injEq]
  · rename_i outside
    rw [Vector.getElem?_eq_none (Nat.not_lt.mp outside)]
    exact ⟨nofun, nofun⟩

theorem index_of_returns (array : Vector α n) (index : Nat) :
    (index_of array index : Exec ε α).Returns ↔ index < n := by
  unfold index_of
  split <;> simp [*]

/-! ### Queues -/

section
variable (self : QueueAccountData)

def permitted_enclaves : Exec ε (List (FixedBytes 32)) := slice_to self.mr_enclaves self.mr_enclaves_len

def has_mr_enclave (mr_enclave : Bytes) : Exec ε Bool := do
  let permitted ← slice_to self.mr_enclaves self.mr_enclaves_len
  pure (permitted.any fun x => x.val = mr_enclave)

def garbage_collection_node : Exec ε (Option Pubkey) := do
  let gc_node ← index_of self.oracle_keys self.gc_idx.toNat
  pure (if_set default_pubkey gc_node)

def oracle_keys : Exec ε (List Pubkey) := slice_to self.oracle_keys self.oracle_keys_len

def idx_of_oracle (oracle : Pubkey) : Exec ε (Option Nat) := do
  let keys ← slice_to self.oracle_keys self.oracle_keys_len
  pure (keys.findIdx? fun x => x = oracle)

variable {self}

theorem slice_to_returns (array : Vector α n) (len : UInt32) :
    (slice_to array len : Exec ε (List α)).Returns ↔ len.toNat ≤ n := by
  unfold slice_to
  split <;> simp [*]

/-- The index of an oracle is the first place of its key in the list of oracles. -/
theorem idx_of_oracle_iff {keys : List Pubkey} (listed : (oracle_keys self : Exec ε _) = .ok keys) (oracle : Pubkey) :
    (∀ i, (idx_of_oracle self oracle : Exec ε _) = .ok (some i) ↔
      keys[i]? = some oracle ∧ ∀ j < i, keys[j]? ≠ some oracle) ∧
    ((idx_of_oracle self oracle : Exec ε _) = .ok none ↔ oracle ∉ keys) := by
  have found : (idx_of_oracle self oracle : Exec ε _) = .ok (keys.findIdx? fun x => x = oracle) := by
    have listed : (slice_to self.oracle_keys self.oracle_keys_len : Exec ε _) = .ok keys := listed
    rw [idx_of_oracle, listed]
    rfl
  rw [found]
  constructor
  · intro i
    simp only [Exec.ok.injEq, List.findIdx?_eq_some_iff_getElem, decide_eq_true_eq]
    constructor
    · rintro ⟨inside, here, before⟩
      refine ⟨by rw [List.getElem?_eq_getElem inside, here], fun j first => ?_⟩
      rw [List.getElem?_eq_getElem (first.trans inside)]
      simpa using before j first
    · rintro ⟨here, before⟩
      obtain ⟨inside, here⟩ := List.getElem?_eq_some_iff.mp here
      refine ⟨inside, here, fun j first same => before j first ?_⟩
      rw [List.getElem?_eq_getElem (first.trans inside), same]
  · simp only [Exec.ok.injEq, List.findIdx?_eq_none_iff, decide_eq_false_iff_not]
    exact ⟨fun none member => none oracle member rfl, fun missing x member same => missing (same ▸ member)⟩

/-- The node to collect is the key at a stored index, which is not checked, of the
    whole array. -/
theorem garbage_collection_node_iff :
    ((garbage_collection_node self : Exec ε _).Returns ↔ self.gc_idx.toNat < 78) ∧
    ∀ key, (garbage_collection_node self : Exec ε _) = .ok (some key) ↔
      self.oracle_keys[self.gc_idx.toNat]? = some key ∧ key ≠ default_pubkey := by
  constructor
  · rw [garbage_collection_node, Exec.returns_bind, index_of_returns, and_iff_left]
    exact fun _ _ => trivial
  · intro key
    simp only [garbage_collection_node, Exec.bind_eq_ok, index_of_eq_ok, Exec.pure_eq, Exec.ok.injEq, if_set_eq_some]
    constructor
    · rintro ⟨_, here, rfl, set⟩
      exact ⟨here, set⟩
    · rintro ⟨here, set⟩
      exact ⟨key, here, rfl, set⟩

/-- An enclave is permitted exactly when it is in the list of permitted ones. -/
theorem has_mr_enclave_iff {permitted : List (FixedBytes 32)}
    (listed : (permitted_enclaves self : Exec ε _) = .ok permitted) (mr_enclave : Bytes) :
    (has_mr_enclave self mr_enclave : Exec ε _) = .ok true ↔ ∃ x ∈ permitted, x.val = mr_enclave := by
  have listed : (slice_to self.mr_enclaves self.mr_enclaves_len : Exec ε _) = .ok permitted := listed
  rw [has_mr_enclave, listed]
  simp

end

/-! ### Oracles -/

/-- How the attestation of an enclave was verified. -/
inductive VerificationStatus where
  | None
  | VerificationPending
  | VerificationFailure
  | VerificationSuccess
  | VerificationOverride
  deriving Repr, DecidableEq

def VerificationStatus.toU8 : VerificationStatus → UInt8
  | VerificationPending => 1
  | VerificationFailure => 2
  | VerificationSuccess => 4
  | VerificationOverride => 8
  | _ => 0

def VerificationStatus.ofU8 (value : UInt8) : VerificationStatus :=
  if value = 1 then VerificationPending
  else if value = 2 then VerificationFailure
  else if value = 4 then VerificationSuccess
  else if value = 8 then VerificationOverride
  else None

theorem VerificationStatus.ofU8_toU8 (status : VerificationStatus) : ofU8 status.toU8 = status := by
  cases status <;> rfl

/-- `Quote::is_verified`, at the timestamp of the clock. -/
def is_verified (self : Quote) (unix_timestamp : Int64) : Bool :=
  match VerificationStatus.ofU8 self.verification_status with
  | .VerificationOverride => true
  | .VerificationSuccess => self.valid_until > unix_timestamp
  | _ => false

/-- `OracleAccountData::is_verified`, of its enclave. -/
def oracle_is_verified (self : OracleAccountData) (unix_timestamp : Int64) : Bool :=
  match VerificationStatus.ofU8 self.enclave.verification_status with
  | .VerificationOverride => true
  | .VerificationSuccess => self.enclave.valid_until > unix_timestamp
  | _ => false

def verify (self : OracleAccountData) (unix_timestamp : Int64) : Except CrateError Unit :=
  if ¬ oracle_is_verified self unix_timestamp then .error .InvalidQuote else .ok ()

def signer (self : OracleAccountData) : Pubkey := self.enclave.enclave_signer

def ed25519_signer (self : OracleAccountData) : Option Pubkey :=
  if_set default_pubkey self.enclave.enclave_signer

def secp_authority (self : OracleAccountData) : Option (FixedBytes 64) :=
  if_set (repeated 0 64) self.secp_authority

def secp256k1_signer (self : OracleAccountData) : Option (FixedBytes 64) :=
  if_set (repeated 0 64) self.enclave.secp256k1_signer

/-- An oracle gives the keys that it has set, and its signer is the Ed25519 one. -/
theorem keys_given_iff (self : OracleAccountData) :
    (∀ key, ed25519_signer self = some key ↔ signer self = key ∧ key ≠ default_pubkey) ∧
    (∀ key, secp_authority self = some key ↔ self.secp_authority = key ∧ key ≠ repeated 0 64) ∧
    ∀ key, secp256k1_signer self = some key ↔ self.enclave.secp256k1_signer = key ∧ key ≠ repeated 0 64 :=
  ⟨fun _ => if_set_eq_some, fun _ => if_set_eq_some, fun _ => if_set_eq_some⟩

/-- An oracle is verified exactly when its enclave is: by an override, or by an
    attestation that is still valid. -/
theorem verify_ok_iff (self : OracleAccountData) (unix_timestamp : Int64) :
    (verify self unix_timestamp = .ok () ↔ is_verified self.enclave unix_timestamp = true) ∧
    (is_verified self.enclave unix_timestamp = true ↔ self.enclave.verification_status = 8 ∨
      self.enclave.verification_status = 4 ∧ unix_timestamp < self.enclave.valid_until) := by
  constructor
  · have same : oracle_is_verified self unix_timestamp = is_verified self.enclave unix_timestamp := rfl
    rw [verify, same]
    cases is_verified self.enclave unix_timestamp with
    | true => simp
    | false => simp
  · unfold is_verified VerificationStatus.ofU8
    by_cases pending : self.enclave.verification_status = 1
    · simp [pending]
    · by_cases failure : self.enclave.verification_status = 2
      · simp [failure]
      · by_cases success : self.enclave.verification_status = 4
        · simp [success]
        · by_cases override : self.enclave.verification_status = 8
          · simp [override]
          · simp [pending, failure, success, override]

/-- An oracle that is not verified stays so as time passes. -/
theorem verify_antitone (self : OracleAccountData) {earlier later : Int64} (passes : earlier ≤ later)
    (verified : verify self later = .ok ()) : verify self earlier = .ok () := by
  have still : oracle_is_verified self later = true → oracle_is_verified self earlier = true := by
    unfold oracle_is_verified
    split
    · exact id
    · intro valid
      simp only [gt_iff_lt, decide_eq_true_eq] at valid ⊢
      exact Int64.lt_of_le_of_lt passes valid
    · exact id
  unfold verify at verified ⊢
  split at verified
  · cases verified
  · rename_i holds
    rw [if_neg fun fails => fails (still (not_not.mp holds))]

/-! ### Randomness -/

def get_value (self : RandomnessAccountData) (clock_slot : UInt64) : Except CrateError (FixedBytes 32) :=
  if clock_slot ≠ self.reveal_slot then .error .SwitchboardRandomnessTooOld else .ok self.value

def is_revealable (self : RandomnessAccountData) (clock_slot : UInt64) : Bool := self.seed_slot < clock_slot

/-- Randomness stays revealable from the slot behind its seed on, and its value is
    given in the one slot of its reveal. -/
theorem value_in_one_slot (self : RandomnessAccountData) :
    (∀ slot value, get_value self slot = .ok value ↔ slot = self.reveal_slot ∧ value = self.value) ∧
    ∀ earlier later, earlier ≤ later → is_revealable self earlier = true → is_revealable self later = true := by
  constructor
  · intro slot value
    unfold get_value
    split
    · rename_i other
      simp [other]
    · rename_i same
      simp [not_not.mp same, eq_comm]
  · intro earlier later passes revealable
    unfold is_revealable at *
    exact decide_eq_true (UInt64.lt_of_lt_of_le (of_decide_eq_true revealable) passes)

/-! ### Pull feeds -/

def result_submission (self : PullFeedAccountData) : Exec ε OracleSubmission :=
  index_of self.submissions self.result.submission_idx.toNat

def result_ts (self : PullFeedAccountData) : Exec ε Int64 :=
  index_of self.submission_timestamps self.result.submission_idx.toNat

def result_land_slot (self : PullFeedAccountData) : Exec ε UInt64 :=
  OracleSubmission.landed_at <$> index_of self.submissions self.result.submission_idx.toNat

/-- The accessors of the last result read one submission and its time, at an index
    that is not checked: all of them panic where it is too great. -/
theorem result_read_iff (self : PullFeedAccountData) :
    (∀ submission, (result_submission self : Exec ε _) = .ok submission ↔
      self.submissions[self.result.submission_idx.toNat]? = some submission) ∧
    (∀ timestamp, (result_ts self : Exec ε _) = .ok timestamp ↔
      self.submission_timestamps[self.result.submission_idx.toNat]? = some timestamp) ∧
    (∀ slot, (result_land_slot self : Exec ε _) = .ok slot ↔
      ∃ submission, (result_submission self : Exec ε _) = .ok submission ∧ submission.landed_at = slot) ∧
    ((result_submission self : Exec ε _).Returns ↔ self.result.submission_idx.toNat < 32) ∧
    ((result_ts self : Exec ε _).Returns ↔ self.result.submission_idx.toNat < 32) :=
  ⟨fun _ => index_of_eq_ok, fun _ => index_of_eq_ok, fun _ => Exec.map_eq_ok, index_of_returns _ _, index_of_returns _ _⟩

end SwitchboardOnDemand.AccountMethods
