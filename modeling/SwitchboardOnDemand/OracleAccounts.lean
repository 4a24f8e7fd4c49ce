import SwitchboardOnDemand.Queue

/-!
# The oracles of a queue

`fetch_oracles` asks for the accounts of the listed keys, drops the missing and
the undecodable ones, and pairs what is left with the keys from the first one on.
The pairs are those of every oracle with its own account exactly when the keys of
the accounts that are left are the first ones of the list
(`fetch_oracles_pairs_iff`).
-/

namespace SwitchboardOnDemand.OracleAccounts
open Rust SwitchboardOnDemand.Error SwitchboardOnDemand.Utils SwitchboardOnDemand.Queue

/-! ### Dropping from one of two lists -/

section PairedLists

variable {κ α β : Type}

/-- The pairs of a key and what its answer decodes to. -/
def decodedPairs (decode : α → Option β) (keys : List κ) (answers : List α) : List (κ × β) :=
  (keys.zip answers).filterMap fun pair => (decode pair.2).map fun value => (pair.1, value)

/-- The keys whose answers decode. -/
def decodedKeys (decode : α → Option β) (keys : List κ) (answers : List α) : List κ :=
  (decodedPairs decode keys answers).map Prod.fst

theorem decodedPairs_cons_some {decode : α → Option β} {answer : α} {value : β} (decoded : decode answer = some value)
    (key : κ) (keys : List κ) (answers : List α) :
    decodedPairs decode (key :: keys) (answer :: answers) = (key, value) :: decodedPairs decode keys answers := by
  simp [decodedPairs, decoded]

theorem decodedPairs_cons_none {decode : α → Option β} {answer : α} (missing : decode answer = none) (key : κ)
    (keys : List κ) (answers : List α) :
    decodedPairs decode (key :: keys) (answer :: answers) = decodedPairs decode keys answers := by
  simp [decodedPairs, missing]

theorem decodedPairs_values (decode : α → Option β) {keys : List κ} {answers : List α}
    (enough : answers.length ≤ keys.length) :
    (decodedPairs decode keys answers).map Prod.snd = answers.filterMap decode := by
  induction answers generalizing keys with
  | nil => simp [decodedPairs]
  | cons answer answers ih =>
    cases keys with
    | nil => simp at enough
    | cons key keys =>
      have tail : answers.length ≤ keys.length := Nat.le_of_succ_le_succ enough
      cases decoded : decode answer with
      | none => rw [decodedPairs_cons_none decoded, List.filterMap_cons_none decoded, ih tail]
      | some value =>
        rw [decodedPairs_cons_some decoded, List.filterMap_cons_some decoded, List.map_cons, ih tail]

theorem zip_take_length {keys : List κ} {values : List β} (fits : values.length ≤ keys.length) :
    keys.zip values = (keys.take values.length).zip values := by
  rw [List.zip_eq_zip_take_min, Nat.min_eq_right fits, List.take_length]

/-- Pairing the keys with the decoded values from the first one on gives every
    value its own key exactly when the keys that decode come first. -/
theorem zip_filterMap_eq_iff (decode : α → Option β) {keys : List κ} {answers : List α}
    (enough : answers.length ≤ keys.length) :
    keys.zip (answers.filterMap decode) = decodedPairs decode keys answers ↔
      decodedKeys decode keys answers <+: keys := by
  have values := decodedPairs_values decode enough
  have own : decodedPairs decode keys answers =
      (decodedKeys decode keys answers).zip (answers.filterMap decode) := List.zip_of_prod rfl values
  have sameLength : (decodedKeys decode keys answers).length = (answers.filterMap decode).length := by
    rw [← values, decodedKeys, List.length_map, List.length_map]
  have fits : (answers.filterMap decode).length ≤ keys.length :=
    (List.length_filterMap_le _ _).trans enough
  rw [zip_take_length fits, own, List.prefix_iff_eq_take, sameLength]
  constructor
  · intro same
    have firsts := congrArg (List.map Prod.fst) same
    rw [List.map_fst_zip (by rw [List.length_take]; omega), List.map_fst_zip sameLength.le] at firsts
    exact firsts.symm
  · intro first
    rw [← first]

end PairedLists

/-! ### The accounts -/

/-- `size_of::<OracleAccountData>()`. -/
def ORACLE_SIZE : Nat := 4808

/-- An oracle: the bytes of its fields, none of which the modelled functions read. -/
structure OracleAccountData where
  bytes : FixedBytes ORACLE_SIZE
  deriving Repr, DecidableEq

def OracleAccountData.DISCRIMINATOR : Bytes := [128, 30, 16, 241, 170, 73, 55, 54]

/-- `bytemuck::try_from_bytes::<OracleAccountData>` on bytes at an aligned address. -/
def OracleAccountData.try_from_bytes (bytes : Bytes) : Except String OracleAccountData :=
  if size : bytes.length = ORACLE_SIZE then .ok ⟨bytes, size⟩ else .error "SizeMismatch"

def OracleAccountData.new_from_bytes (data : Bytes) : Except OnDemandError OracleAccountData :=
  AccountData.new_from_bytes DISCRIMINATOR ORACLE_SIZE try_from_bytes data

/-- An account as the RPC node gives it: the part that is read. -/
structure Account where
  data : Bytes
  deriving Repr, DecidableEq

/-- The RPC node: what it answers to a list of keys. -/
structure RpcClient where
  get_multiple_accounts : List Pubkey → Except String (List (Option Account))

/-- `&self.oracle_keys[..self.oracle_keys_len as usize]`. -/
def listed_oracles {ε : Type} (self : QueueAccountData) : Exec ε (List Pubkey) :=
  if self.oracle_keys_len ≤ 78 then .ok (self.oracle_keys.toList.take self.oracle_keys_len)
  else .panic s!"range end index {self.oracle_keys_len} out of range for slice of length 78"

def fetch_oracles (self : QueueAccountData) (client : RpcClient) :
    Exec OnDemandError (List (Pubkey × OracleAccountData)) := do
  let oracles ← listed_oracles self
  match client.get_multiple_accounts oracles with
  | .error _ => .err .NetworkError
  | .ok answers =>
    let datas := ((answers.filterMap id).map Account.data).map OracleAccountData.new_from_bytes
    pure (oracles.zip (datas.filterMap Except.toOption))

/-! ### Every oracle with its own account -/

/-- What the answer for a key decodes to. -/
def decodeAnswer (answer : Option Account) : Option OracleAccountData :=
  answer.bind fun account => (OracleAccountData.new_from_bytes account.data).toOption

variable {self : QueueAccountData} {client : RpcClient} {answers : List (Option Account)}

/-- The keys are paired with the values that are left, from the first one on. -/
theorem fetch_oracles_eq (few : self.oracle_keys_len ≤ 78) {keys : List Pubkey}
    (listed : keys = self.oracle_keys.toList.take self.oracle_keys_len)
    (answered : client.get_multiple_accounts keys = .ok answers) :
    fetch_oracles self client = .ok (keys.zip (answers.filterMap decodeAnswer)) := by
  have kept : (((answers.filterMap id).map Account.data).map OracleAccountData.new_from_bytes).filterMap
      Except.toOption = answers.filterMap decodeAnswer := by
    rw [List.map_map, List.filterMap_map, List.filterMap_filterMap]
    rfl
  simp only [fetch_oracles, listed_oracles, if_pos few, Exec.ok_bind, ← listed, answered, kept, Exec.pure_eq]

/-- The pairs are those of each listed key with its own decoded account exactly
    when the keys of the decodable accounts are the first of the listed ones. -/
theorem fetch_oracles_pairs_iff (few : self.oracle_keys_len ≤ 78) {keys : List Pubkey}
    (listed : keys = self.oracle_keys.toList.take self.oracle_keys_len)
    (answered : client.get_multiple_accounts keys = .ok answers) (each : answers.length = self.oracle_keys_len) :
    fetch_oracles self client = .ok (decodedPairs decodeAnswer keys answers) ↔
      decodedKeys decodeAnswer keys answers <+: keys := by
  have enough : answers.length ≤ keys.length := by
    rw [listed, List.length_take, Vector.length_toList, each]
    omega
  rw [fetch_oracles_eq few listed answered, Exec.ok.injEq]
  exact zip_filterMap_eq_iff decodeAnswer enough

/-! ### An answer with a gap -/

def zeroOracle : OracleAccountData := ⟨⟨List.replicate ORACLE_SIZE 0, List.length_replicate⟩⟩

/-- The account of `zeroOracle`. -/
def zeroOracleAccount : Account := ⟨OracleAccountData.DISCRIMINATOR ++ List.replicate ORACLE_SIZE 0⟩

theorem decodeAnswer_zeroOracleAccount : decodeAnswer (some zeroOracleAccount) = some zeroOracle := by
  have eight : OracleAccountData.DISCRIMINATOR.length = 8 := rfl
  have size : (List.replicate ORACLE_SIZE (0 : UInt8)).length = ORACLE_SIZE := List.length_replicate
  have read : OracleAccountData.new_from_bytes zeroOracleAccount.data = .ok zeroOracle := by
    refine (AccountData.new_from_bytes_ok_iff eight _ _ _ _).mpr ⟨?_, ?_, ?_⟩
    · rw [zeroOracleAccount, List.length_append, size, eight, Nat.add_comm]
    · rw [zeroOracleAccount, window_append_left (Nat.le_of_eq eight.symm), window_full eight]
    · rw [zeroOracleAccount, window_append_right (Nat.le_of_eq eight), eight, Nat.sub_self, window_full size]
      exact dif_pos size
  rw [decodeAnswer, Option.bind_some, read]
  rfl

theorem decodeAnswer_none : decodeAnswer none = none := rfl

def firstOracle : Pubkey := ⟨List.replicate 32 1, rfl⟩

def secondOracle : Pubkey := ⟨List.replicate 32 2, rfl⟩

/-- A queue of two oracles. -/
def twoOracles : QueueAccountData where
  oracle_keys := ⟨(firstOracle :: secondOracle :: List.replicate 76 unsetKey).toArray, rfl⟩
  ed25519_oracle_signing_keys := Vector.replicate 30 unsetKey
  oracle_keys_len := 2

/-- A node that always gives the same answers. -/
def answering (answers : List (Option Account)) : RpcClient := ⟨fun _ => .ok answers⟩

theorem fetch_oracles_pairs_iff_present :
    fetch_oracles twoOracles (answering [some zeroOracleAccount, none]) = .ok [(firstOracle, zeroOracle)] := by
  have pairs : decodedPairs decodeAnswer [firstOracle, secondOracle] [some zeroOracleAccount, none] =
      [(firstOracle, zeroOracle)] := by
    rw [decodedPairs_cons_some decodeAnswer_zeroOracleAccount, decodedPairs_cons_none decodeAnswer_none]
    rfl
  have fetched : fetch_oracles twoOracles (answering [some zeroOracleAccount, none]) =
      .ok (decodedPairs decodeAnswer [firstOracle, secondOracle] [some zeroOracleAccount, none]) ↔ _ :=
    fetch_oracles_pairs_iff (by decide) rfl rfl rfl
  rw [pairs, decodedKeys, pairs] at fetched
  exact fetched.mpr (List.prefix_append [firstOracle] [secondOracle])

/-- When the first account is missing, its key is given with the second one. -/
theorem fetch_oracles_gap :
    fetch_oracles twoOracles (answering [none, some zeroOracleAccount]) = .ok [(firstOracle, zeroOracle)] ∧
      decodedPairs decodeAnswer [firstOracle, secondOracle] [none, some zeroOracleAccount] =
        [(secondOracle, zeroOracle)] ∧ firstOracle ≠ secondOracle := by
  refine ⟨?_, ?_, by simp [firstOracle, secondOracle]⟩
  · have fetched : fetch_oracles twoOracles (answering [none, some zeroOracleAccount]) =
        .ok ([firstOracle, secondOracle].zip ([none, some zeroOracleAccount].filterMap decodeAnswer)) :=
      fetch_oracles_eq (by decide) rfl rfl
    rw [fetched, List.filterMap_cons_none decodeAnswer_none, List.filterMap_cons_some decodeAnswer_zeroOracleAccount]
    rfl
  · rw [decodedPairs_cons_none decodeAnswer_none, decodedPairs_cons_some decodeAnswer_zeroOracleAccount]
    rfl

end SwitchboardOnDemand.OracleAccounts
