import SwitchboardOnDemand.AccountMethods
import SwitchboardOnDemand.Addresses
import SwitchboardOnDemand.OracleAccounts
import SwitchboardOnDemand.Signing

/-!
# Fetching address lookup tables

A builder takes lookup tables from a node, one by one or all at once. All at
once is all or nothing: one table that is missing or cannot be decoded loses the
others, while one by one keeps them (`tables_at_once`). The tables of a queue and
of its oracles lie at derived addresses, so that no two of them are one
(`subsidy_luts`).
-/

namespace SwitchboardOnDemand.LookupTables
open Rust SwitchboardOnDemand.Error SwitchboardOnDemand.Utils SwitchboardOnDemand.Transactions
open SwitchboardOnDemand.ZeroCopy SwitchboardOnDemand.OracleAccounts SwitchboardOnDemand.Addresses
open SwitchboardOnDemand.Signing

/-- An RPC node: what it answers to the requests of the crate. -/
structure RpcClient where
  get_account : Pubkey → Except String OracleAccounts.Account
  get_multiple_accounts : List Pubkey → Except String (List (Option OracleAccounts.Account))

/-- The data of the account. -/
def get_account_data (rpc : RpcClient) (pubkey : Pubkey) : Except String Bytes :=
  (rpc.get_account pubkey).map OracleAccounts.Account.data

/-- The lookup tables of the SDK: how one is read, and a table with its key. -/
structure TableApi (sdk : SolanaSdk) where
  deserialize : Bytes → Except String (List Pubkey)
  account : Pubkey → List Pubkey → sdk.AddressLookupTableAccount
  key : sdk.AddressLookupTableAccount → Pubkey
  key_account : ∀ k addresses, key (account k addresses) = k

variable {sdk : SolanaSdk} (tables : TableApi sdk) (rpc : RpcClient)

def fetch_address_lookup_account (address_lookup_table_pubkey : Pubkey) :
    Except CrateError sdk.AddressLookupTableAccount :=
  match rpc.get_account address_lookup_table_pubkey with
  | .error _ => .error (.of .NetworkError)
  | .ok account =>
    match tables.deserialize account.data with
    | .error _ => .error (.of .AccountDeserializeError)
    | .ok addresses => .ok (tables.account address_lookup_table_pubkey addresses)

/-- One turn of the loop: the answer for the key at its place. -/
def lookup_account (address_lookup_pubkeys : List Pubkey) (i : Nat) (account : Option OracleAccounts.Account) :
    Exec CrateError sdk.AddressLookupTableAccount := do
  let account ← Exec.okOr .AccountNotFound account
  match tables.deserialize account.data with
  | .error _ => .err (.of .AccountDeserializeError)
  | .ok addresses =>
    match address_lookup_pubkeys[i]? with
    | some key => pure (tables.account key addresses)
    | none => .panic s!"index out of bounds: the len is {address_lookup_pubkeys.length} but the index is {i}"

def fetch_multiple_address_lookup_accounts (address_lookup_pubkeys : List Pubkey) :
    Exec CrateError (List sdk.AddressLookupTableAccount) :=
  if address_lookup_pubkeys.isEmpty then pure []
  else
    match rpc.get_multiple_accounts address_lookup_pubkeys with
    | .error _ => .err (.of .NetworkError)
    | .ok accounts => accounts.zipIdx.mapM fun (account, i) => lookup_account tables address_lookup_pubkeys i account

def add_address_lookup_table (self : TransactionBuilder sdk) (address_lookup_table_pubkey : Pubkey) :
    TransactionBuilder sdk :=
  match fetch_address_lookup_account tables rpc address_lookup_table_pubkey with
  | .ok table => call self (.add_address_lookup_account table)
  | .error _ => self

def add_address_lookup_tables {ε : Type} (self : TransactionBuilder sdk) (address_lookup_table_pubkeys : List Pubkey) :
    Exec ε (TransactionBuilder sdk) := do
  match ← (fetch_multiple_address_lookup_accounts tables rpc address_lookup_table_pubkeys).result with
  | .ok fetched => pure (call self (.add_address_lookup_accounts fetched))
  | .error _ => pure self

/-- `address_lookup_table::fetch`. -/
def fetch (address : Pubkey) : Except CrateError sdk.AddressLookupTableAccount :=
  match get_account_data rpc address with
  | .error _ => .error .AddressLookupTableFetchError
  | .ok account =>
    match tables.deserialize account with
    | .error _ => .error .AddressLookupTableDeserializeError
    | .ok addresses => .ok (tables.account address addresses)

/-! ### The tables of queues and oracles -/

section
variable (api : AddressApi)

def queue_fetch_lut (self : AccountLayouts.QueueAccountData) (pubkey : Pubkey) :
    Except CrateError sdk.AddressLookupTableAccount :=
  let lut_slot := self.lut_slot
  let lut_signer := find_lut_signer api pubkey
  let lut := (derive_lookup_table_address api lut_signer lut_slot).1
  fetch tables rpc lut

def oracle_fetch_lut (self : AccountLayouts.OracleAccountData) (oracle_pubkey : Pubkey) :
    Except CrateError sdk.AddressLookupTableAccount :=
  let lut_slot := self.lut_slot
  let lut_signer := find_lut_signer api oracle_pubkey
  let lut := (derive_lookup_table_address api lut_signer lut_slot).1
  fetch tables rpc lut

/-- Where the allocator of a client puts the data of an answer: at multiples of 16,
    and only the remainder matters. -/
def heap : Nat := 0

/-- `fetch_async` of an account type. -/
def fetch_async (account : ZeroCopy.Account) (pubkey : Pubkey) : Except CrateError account.Record :=
  account.type.fetch_zerocopy_account heap (get_account_data rpc) pubkey

/-- `QueueResetLut::fetch_luts`. -/
def reset_lut_fetch_luts (queue : Pubkey) : Except CrateError (List sdk.AddressLookupTableAccount) := do
  let queue_data ← fetch_async rpc .queue queue
  let queue_lut ← queue_fetch_lut tables rpc api queue_data queue
  pure [queue_lut]

/-- `QueuePayReward::fetch_luts`. -/
def pay_reward_fetch_luts (queue oracle : Pubkey) : Except CrateError (List sdk.AddressLookupTableAccount) := do
  let queue_data ← fetch_async rpc .queue queue
  let queue_lut ← queue_fetch_lut tables rpc api queue_data queue
  let oracle_data ← fetch_async rpc .oracle oracle
  match oracle_fetch_lut tables rpc api oracle_data oracle with
  | .ok oracle_lut => pure [queue_lut, oracle_lut]
  | .error _ => pure [queue_lut]

/-- The table of an oracle, if its account and the table can be fetched. -/
def oracle_lut (oracle : Pubkey) : Option sdk.AddressLookupTableAccount :=
  (fetch_async rpc .oracle oracle).toOption.bind fun oracle_data =>
    (oracle_fetch_lut tables rpc api oracle_data oracle).toOption

/-- `QueuePaySubsidy::fetch_luts`. -/
def pay_subsidy_fetch_luts (queue : Pubkey) : Exec CrateError (List sdk.AddressLookupTableAccount) := do
  let queue_data ← Exec.ofResult (fetch_async rpc .queue queue)
  let queue_lut ← Exec.ofResult (queue_fetch_lut tables rpc api queue_data queue)
  let oracles ← AccountMethods.oracle_keys queue_data
  let luts := oracles.filterMap (oracle_lut tables rpc api)
  pure (luts ++ [queue_lut])

end

/-! ### What a node may answer -/

/-- The table of a key, if the answer for it is one. -/
def decoded (key : Pubkey) (answer : Option OracleAccounts.Account) : Option sdk.AddressLookupTableAccount :=
  answer.bind fun account => (tables.deserialize account.data).toOption.map (tables.account key)

variable {tables rpc}

theorem lookup_account_ok_iff {keys : List Pubkey} {i : Nat} {answer : Option OracleAccounts.Account}
    {table : sdk.AddressLookupTableAccount} :
    lookup_account tables keys i answer = .ok table ↔
      ∃ key, keys[i]? = some key ∧ decoded tables key answer = some table := by
  cases answer with
  | none => simp [lookup_account, decoded, Exec.okOr]
  | some account =>
    simp only [lookup_account, decoded, Exec.okOr, Exec.ok_bind, Option.bind_some]
    cases tables.deserialize account.data with
    | error message => simp [Except.toOption]
    | ok addresses =>
      cases keys[i]? with
      | none => simp
      | some key => simp [Except.toOption]

theorem fetch_address_lookup_account_ok_iff {key : Pubkey} {table : sdk.AddressLookupTableAccount} :
    fetch_address_lookup_account tables rpc key = .ok table ↔
      decoded tables key (rpc.get_account key).toOption = some table := by
  unfold fetch_address_lookup_account decoded
  cases rpc.get_account key with
  | error message => simp [Except.toOption]
  | ok account =>
    simp only [Except.toOption, Option.bind_some]
    cases tables.deserialize account.data with
    | error message => simp
    | ok addresses => simp

/-- The loop over the answers, at the keys behind some that are done. -/
theorem loop_ok_iff (done keys : List Pubkey) (answers : List (Option OracleAccounts.Account))
    (fetched : List sdk.AddressLookupTableAccount) :
    (answers.zipIdx done.length).mapM (fun (account, i) => lookup_account tables (done ++ keys) i account) = .ok fetched ↔
      answers.length ≤ keys.length ∧
        List.Forall₂ (fun pair table => decoded tables pair.1 pair.2 = some table) (keys.zip answers) fetched := by
  rw [Exec.mapM_eq_ok]
  induction answers generalizing done keys fetched with
  | nil => simp
  | cons answer rest ih =>
    cases keys with
    | nil =>
      constructor
      · rintro (_ | ⟨first, _⟩)
        obtain ⟨key, found, _⟩ := lookup_account_ok_iff.mp first
        simp at found
      · rintro ⟨long, _⟩
        cases long
    | cons key keys =>
      have here : (done ++ key :: keys)[done.length]? = some key := by simp
      have first : ∀ table, lookup_account tables (done ++ key :: keys) done.length answer = .ok table ↔
          decoded tables key answer = some table := by
        intro table
        simp only [lookup_account_ok_iff, here, Option.some.injEq, exists_eq_left']
      have behind := fun tail => ih (done ++ [key]) keys tail
      simp only [List.append_assoc, List.singleton_append, List.length_append, List.length_singleton] at behind
      cases fetched with
      | nil => simp
      | cons table fetched =>
        simp only [List.zipIdx_cons, List.zip_cons_cons, List.forall₂_cons, behind, first, List.length_cons,
          Nat.add_le_add_iff_right]
        exact and_left_comm

/-- Whatever the node answers, the tables are those of the keys, each with the
    answer at its place, and no answer is left out. -/
theorem tables_of_any_node (keys : List Pubkey) (fetched : List sdk.AddressLookupTableAccount) :
    fetch_multiple_address_lookup_accounts tables rpc keys = .ok fetched ↔
      keys = [] ∧ fetched = [] ∨ keys ≠ [] ∧ ∃ answers, rpc.get_multiple_accounts keys = .ok answers ∧
        answers.length ≤ keys.length ∧
        List.Forall₂ (fun pair table => decoded tables pair.1 pair.2 = some table) (keys.zip answers) fetched := by
  unfold fetch_multiple_address_lookup_accounts
  cases keys with
  | nil => simp [eq_comm]
  | cons key keys =>
    cases answered : rpc.get_multiple_accounts (key :: keys) with
    | error message => simp
    | ok answers => simpa using loop_ok_iff [] (key :: keys) answers fetched

/-! ### A node that reads one ledger -/

/-- The node answers from one state of the accounts: one key at a time, and up to
    100 keys at once. -/
structure ReadsLedger (rpc : RpcClient) (ledger : Pubkey → Option OracleAccounts.Account) : Prop where
  single : ∀ key, (rpc.get_account key).toOption = ledger key
  many : ∀ keys, keys.length ≤ 100 → rpc.get_multiple_accounts keys = .ok (keys.map ledger)

/-- The table can be fetched. -/
def Fetches (tables : TableApi sdk) (rpc : RpcClient) (key : Pubkey) : Prop :=
  ∃ table, fetch_address_lookup_account tables rpc key = .ok table

section
variable {ledger : Pubkey → Option OracleAccounts.Account} (node : ReadsLedger rpc ledger) {keys : List Pubkey}
  (few : keys.length ≤ 100)
include node few

theorem fetch_multiple_ok_iff (fetched : List sdk.AddressLookupTableAccount) :
    fetch_multiple_address_lookup_accounts tables rpc keys = .ok fetched ↔
      List.Forall₂ (fun key table => fetch_address_lookup_account tables rpc key = .ok table) keys fetched := by
  have answered := node.many keys few
  have pairs : keys.zip (keys.map ledger) = keys.map fun key => (key, ledger key) :=
    List.map_prod_left_eq_zip.symm
  rw [tables_of_any_node]
  simp only [fetch_address_lookup_account_ok_iff, node.single, answered, Except.ok.injEq, exists_eq_left',
    List.length_map, le_refl, true_and, pairs, List.forall₂_map_left_iff]
  cases keys with
  | nil => simp
  | cons key keys => simp

/-- The answers for up to 100 keys do not make it panic. -/
theorem fetch_multiple_returns : (fetch_multiple_address_lookup_accounts tables rpc keys).Returns := by
  unfold fetch_multiple_address_lookup_accounts
  rw [node.many keys few]
  split
  · trivial
  · refine Exec.returns_mapM ?_
    rintro ⟨answer, i⟩ member
    have inside : i < keys.length := by
      have bound := List.snd_lt_of_mem_zipIdx member
      rw [List.length_map] at bound
      omega
    cases answer with
    | none => trivial
    | some account =>
      simp only [lookup_account, Exec.okOr, Exec.ok_bind, List.getElem?_eq_getElem inside]
      cases tables.deserialize account.data with
      | error message => trivial
      | ok addresses => trivial

end

/-! ### One by one and all at once -/

/-- The table of a key, if it can be fetched. -/
def fetchedTable (tables : TableApi sdk) (rpc : RpcClient) (key : Pubkey) : Option sdk.AddressLookupTableAccount :=
  (fetch_address_lookup_account tables rpc key).toOption

theorem fetchedTable_eq_some {key : Pubkey} {table : sdk.AddressLookupTableAccount} :
    fetchedTable tables rpc key = some table ↔ fetch_address_lookup_account tables rpc key = .ok table := by
  unfold fetchedTable
  cases fetch_address_lookup_account tables rpc key <;> simp [Except.toOption]

theorem add_none (self : TransactionBuilder sdk) : add_address_lookup_accounts self [] = self := by
  simp [add_address_lookup_accounts]

theorem add_add (self : TransactionBuilder sdk) (first second : List sdk.AddressLookupTableAccount) :
    add_address_lookup_accounts (add_address_lookup_accounts self first) second =
      add_address_lookup_accounts self (first ++ second) := by
  simp [add_address_lookup_accounts]

theorem add_eq_self_iff (self : TransactionBuilder sdk) (given : List sdk.AddressLookupTableAccount) :
    add_address_lookup_accounts self given = self ↔ given = [] := by
  constructor
  · intro same
    simpa [add_address_lookup_accounts] using congrArg TransactionBuilder.address_lookup_tables same
  · rintro rfl
    exact add_none self

/-- One by one, the tables that can be fetched are added. -/
theorem foldl_add_address_lookup_table (self : TransactionBuilder sdk) (keys : List Pubkey) :
    keys.foldl (add_address_lookup_table tables rpc) self =
      add_address_lookup_accounts self (keys.filterMap (fetchedTable tables rpc)) := by
  induction keys generalizing self with
  | nil => exact (add_none self).symm
  | cons key rest ih =>
    rw [List.foldl_cons, ih, add_address_lookup_table, List.filterMap_cons, fetchedTable]
    cases fetch_address_lookup_account tables rpc key with
    | error error => rfl
    | ok table => exact add_add self [table] _

theorem filterMap_of_forall₂ {keys : List Pubkey} {fetched : List sdk.AddressLookupTableAccount}
    (each : List.Forall₂ (fun key table => fetch_address_lookup_account tables rpc key = .ok table) keys fetched) :
    keys.filterMap (fetchedTable tables rpc) = fetched := by
  induction each with
  | nil => rfl
  | cons first _ ih => rw [List.filterMap_cons_some (fetchedTable_eq_some.mpr first), ih]

theorem forall_fetches_iff {keys : List Pubkey} :
    (∀ key ∈ keys, Fetches tables rpc key) ↔
      ∃ fetched, List.Forall₂ (fun key table => fetch_address_lookup_account tables rpc key = .ok table) keys fetched := by
  induction keys with
  | nil => exact ⟨fun _ => ⟨[], .nil⟩, fun _ key member => by cases member⟩
  | cons key rest ih =>
    rw [List.forall_mem_cons, ih]
    constructor
    · rintro ⟨⟨table, first⟩, fetched, others⟩
      exact ⟨table :: fetched, .cons first others⟩
    · rintro ⟨_, _ | ⟨first, others⟩⟩
      exact ⟨⟨_, first⟩, _, others⟩

theorem filterMap_eq_nil_iff {keys : List Pubkey} :
    keys.filterMap (fetchedTable tables rpc) = [] ↔ ∀ key ∈ keys, ¬ Fetches tables rpc key := by
  rw [List.filterMap_eq_nil_iff]
  refine forall₂_congr fun key _ => ?_
  rw [Option.eq_none_iff_forall_ne_some, Fetches, not_exists]
  exact forall_congr' fun table => not_congr fetchedTable_eq_some

/-- From a node that reads one ledger, fetching up to 100 tables at once gives
    what fetching each of them gives, or an error if one cannot be fetched. A
    builder that asks for all at once then gets none of them, and so ends as one
    that asks one by one exactly when all or none can be fetched. -/
theorem tables_at_once {ε : Type} {ledger : Pubkey → Option OracleAccounts.Account} (node : ReadsLedger rpc ledger)
    {keys : List Pubkey} (few : keys.length ≤ 100) (self : TransactionBuilder sdk) :
    (∀ fetched, fetch_multiple_address_lookup_accounts tables rpc keys = .ok fetched ↔
      List.Forall₂ (fun key table => fetch_address_lookup_account tables rpc key = .ok table) keys fetched) ∧
    ((∃ key ∈ keys, ¬ Fetches tables rpc key) →
      (add_address_lookup_tables tables rpc self keys : Exec ε _) = .ok self) ∧
    ((add_address_lookup_tables tables rpc self keys : Exec ε _) =
        .ok (keys.foldl (add_address_lookup_table tables rpc) self) ↔
      (∀ key ∈ keys, Fetches tables rpc key) ∨ ∀ key ∈ keys, ¬ Fetches tables rpc key) := by
  have given : ∀ fetched, fetch_multiple_address_lookup_accounts tables rpc keys = .ok fetched ↔ _ :=
    fetch_multiple_ok_iff node few
  have loses : ¬ (∀ key ∈ keys, Fetches tables rpc key) →
      (add_address_lookup_tables tables rpc self keys : Exec ε _) = .ok self := by
    intro some
    have returns : (fetch_multiple_address_lookup_accounts tables rpc keys).Returns := fetch_multiple_returns node few
    rcases Exec.returns_iff.mp returns with ⟨fetched, run⟩ | ⟨error, run⟩
    · exact absurd (forall_fetches_iff.mpr ⟨fetched, (given fetched).mp run⟩) some
    · rw [add_address_lookup_tables, run]
      rfl
  refine ⟨given, fun ⟨key, member, missing⟩ => loses fun all => missing (all key member), ?_⟩
  rw [foldl_add_address_lookup_table]
  by_cases all : ∀ key ∈ keys, Fetches tables rpc key
  · obtain ⟨fetched, each⟩ := forall_fetches_iff.mp all
    rw [add_address_lookup_tables, (given fetched).mpr each, filterMap_of_forall₂ each]
    exact ⟨fun _ => .inl all, fun _ => rfl⟩
  · rw [loses all, Exec.ok.injEq, eq_comm, add_eq_self_iff, filterMap_eq_nil_iff]
    exact ⟨.inr, fun either => either.resolve_left all⟩

/-! ### The tables of a queue and of its oracles -/

section
variable {api : AddressApi}

theorem key_fetch {address : Pubkey} {table : sdk.AddressLookupTableAccount} (found : fetch tables rpc address = .ok table) :
    tables.key table = address := by
  unfold fetch at found
  split at found
  · cases found
  · split at found
    · cases found
    · cases found
      exact tables.key_account _ _

/-- The slot that the account of a key names for its table. -/
def LutSlot (rpc : RpcClient) (key : Pubkey) (slot : UInt64) : Prop :=
  (∃ queue, fetch_async rpc .queue key = .ok queue ∧ AccountLayouts.QueueAccountData.lut_slot queue = slot) ∨
    ∃ oracle, fetch_async rpc .oracle key = .ok oracle ∧ AccountLayouts.OracleAccountData.lut_slot oracle = slot

/-- The derivation of the table of a key, from the address of its signer. -/
def tableOf (api : AddressApi) (key : Pubkey) (slot : UInt64) : Derivation :=
  .lookup_table (find_lut_signer api key) slot

/-- Two keys whose tables or whose signers lie at one address: their bytes collide. -/
def LutsCollide (api : AddressApi) (rpc : RpcClient) (a b : Pubkey) : Prop :=
  Collision api.sha256 ((Derivation.lut_signer a).digested api) ((Derivation.lut_signer b).digested api) ∨
    ∃ s t, LutSlot rpc a s ∧ LutSlot rpc b t ∧
      Collision api.sha256 ((tableOf api a s).digested api) ((tableOf api b t).digested api)

/-- The table has the derived address of the key. -/
def TableFor (tables : TableApi sdk) (api : AddressApi) (rpc : RpcClient) (key : Pubkey)
    (table : sdk.AddressLookupTableAccount) : Prop :=
  ∃ slot, LutSlot rpc key slot ∧ tables.key table = (tableOf api key slot).address api

theorem tableFor_queue {queue : Pubkey} {queue_data : AccountLayouts.QueueAccountData}
    {table : sdk.AddressLookupTableAccount} (read : fetch_async rpc .queue queue = .ok queue_data)
    (found : queue_fetch_lut tables rpc api queue_data queue = .ok table) : TableFor tables api rpc queue table :=
  ⟨queue_data.lut_slot, .inl ⟨queue_data, read, rfl⟩, key_fetch found⟩

theorem oracle_lut_of_read {oracle : Pubkey} {oracle_data : AccountLayouts.OracleAccountData}
    (read : fetch_async rpc .oracle oracle = .ok oracle_data) :
    oracle_lut tables rpc api oracle = (oracle_fetch_lut tables rpc api oracle_data oracle).toOption := by
  rw [oracle_lut, read]
  rfl

theorem tableFor_oracle {oracle : Pubkey} {table : sdk.AddressLookupTableAccount}
    (found : oracle_lut tables rpc api oracle = some table) : TableFor tables api rpc oracle table := by
  cases read : fetch_async rpc .oracle oracle with
  | error error => rw [oracle_lut, read] at found; cases found
  | ok oracle_data =>
    rw [oracle_lut_of_read read] at found
    cases lut : oracle_fetch_lut tables rpc api oracle_data oracle with
    | error error => simp [Except.toOption, lut] at found
    | ok lutTable =>
      obtain rfl : lutTable = table := by simpa [Except.toOption, lut] using found
      exact ⟨oracle_data.lut_slot, .inr ⟨oracle_data, read, rfl⟩, key_fetch lut⟩

/-- One table for two keys comes from a collision. -/
theorem key_of_tableFor {a b : Pubkey} {x y : sdk.AddressLookupTableAccount} (forA : TableFor tables api rpc a x)
    (forB : TableFor tables api rpc b y) (same : tables.key x = tables.key y) : a = b ∨ LutsCollide api rpc a b := by
  obtain ⟨s, slotA, keyA⟩ := forA
  obtain ⟨t, slotB, keyB⟩ := forB
  rw [keyA, keyB] at same
  rcases Derivation.eq_or_collision api same with equal | collision
  · have signers : (Derivation.lut_signer a).address api = (Derivation.lut_signer b).address api :=
      (Derivation.lookup_table.inj equal).1
    rcases Derivation.eq_or_collision api signers with equal | collision
    · exact .inl (Derivation.lut_signer.inj equal)
    · exact .inr (.inl collision)
  · exact .inr (.inr ⟨s, t, slotA, slotB, collision⟩)

theorem exists_owner {related : Pubkey → sdk.AddressLookupTableAccount → Prop} {keys : List Pubkey}
    {luts : List sdk.AddressLookupTableAccount} (each : List.Forall₂ related keys luts)
    {table : sdk.AddressLookupTableAccount} (member : table ∈ luts) : ∃ key ∈ keys, related key table := by
  induction each with
  | nil => cases member
  | cons first _ ih =>
    rcases List.mem_cons.mp member with rfl | later
    · exact ⟨_, List.mem_cons_self, first⟩
    · obtain ⟨key, inside, holds⟩ := ih later
      exact ⟨key, List.mem_cons_of_mem _ inside, holds⟩

/-- The tables of different keys are different, unless the bytes of two keys collide. -/
theorem nodup_of_tableFor {keys : List Pubkey} {luts : List sdk.AddressLookupTableAccount}
    (each : List.Forall₂ (TableFor tables api rpc) keys luts) (distinct : keys.Nodup) :
    (luts.map tables.key).Nodup ∨ ∃ a ∈ keys, ∃ b ∈ keys, a ≠ b ∧ LutsCollide api rpc a b := by
  induction each with
  | nil => exact .inl List.nodup_nil
  | @cons a x keys luts first others ih =>
    obtain ⟨new, distinct⟩ := List.nodup_cons.mp distinct
    rcases ih distinct with apart | ⟨b, memberB, c, memberC, different, collide⟩
    · by_cases again : tables.key x ∈ luts.map tables.key
      · obtain ⟨y, member, same⟩ := List.mem_map.mp again
        obtain ⟨b, memberB, forB⟩ := exists_owner others member
        have different : a ≠ b := fun equal => new (equal ▸ memberB)
        exact .inr ⟨a, List.mem_cons_self, b, List.mem_cons_of_mem a memberB, different,
          (key_of_tableFor first forB same.symm).resolve_left different⟩
      · exact .inl (List.nodup_cons.mpr ⟨again, apart⟩)
    · exact .inr ⟨b, List.mem_cons_of_mem a memberB, c, List.mem_cons_of_mem a memberC, different, collide⟩

/-- The tables of some of the keys, none of which is there twice. -/
theorem nodup_of_owners {owners keys : List Pubkey} {luts : List sdk.AddressLookupTableAccount}
    (each : List.Forall₂ (TableFor tables api rpc) owners luts) (within : owners.Sublist keys) (distinct : keys.Nodup) :
    (luts.map tables.key).Nodup ∨ ∃ a ∈ keys, ∃ b ∈ keys, a ≠ b ∧ LutsCollide api rpc a b := by
  rcases nodup_of_tableFor each (distinct.sublist within) with apart | ⟨a, memberA, b, memberB, collide⟩
  · exact .inl apart
  · exact .inr ⟨a, within.subset memberA, b, within.subset memberB, collide⟩

/-- The oracles whose tables can be fetched, with these. -/
theorem forall₂_filterMap (tables : TableApi sdk) (rpc : RpcClient) (api : AddressApi) (oracles : List Pubkey) :
    ∃ owners, owners.Sublist oracles ∧
      List.Forall₂ (TableFor tables api rpc) owners (oracles.filterMap (oracle_lut tables rpc api)) := by
  induction oracles with
  | nil => exact ⟨[], .slnil, .nil⟩
  | cons oracle rest ih =>
    obtain ⟨owners, within, each⟩ := ih
    cases found : oracle_lut tables rpc api oracle with
    | none => exact ⟨owners, within.cons oracle, by rwa [List.filterMap_cons_none found]⟩
    | some table =>
      refine ⟨oracle :: owners, within.cons_cons oracle, ?_⟩
      rw [List.filterMap_cons_some found]
      exact .cons (tableFor_oracle found) each

/-- The tables for a subsidy are those of the listed oracles that can be fetched,
    in their order, and last that of the queue, each at the address derived from
    its owner. Where no oracle is listed twice or is the queue, no table is there
    twice unless the derived addresses of two of them collide. -/
theorem subsidy_luts (api : AddressApi) (queue : Pubkey) (luts : List sdk.AddressLookupTableAccount) :
    pay_subsidy_fetch_luts tables rpc api queue = .ok luts ↔
      ∃ queue_data oracles queue_lut, fetch_async rpc .queue queue = .ok queue_data ∧
        (AccountMethods.oracle_keys queue_data : Exec CrateError _) = .ok oracles ∧
        queue_fetch_lut tables rpc api queue_data queue = .ok queue_lut ∧
        luts = oracles.filterMap (oracle_lut tables rpc api) ++ [queue_lut] ∧
        (∃ owners, owners.Sublist oracles ∧ List.Forall₂ (TableFor tables api rpc) (owners ++ [queue]) luts) ∧
        ((oracles ++ [queue]).Nodup → (luts.map tables.key).Nodup ∨
          ∃ a ∈ oracles ++ [queue], ∃ b ∈ oracles ++ [queue], a ≠ b ∧ LutsCollide api rpc a b) := by
  constructor
  · intro done
    obtain ⟨queue_data, read, done⟩ := Exec.bind_eq_ok.mp done
    obtain ⟨queue_lut, found, done⟩ := Exec.bind_eq_ok.mp done
    obtain ⟨oracles, listed, ends⟩ := Exec.bind_eq_ok.mp done
    obtain rfl := Exec.ok.inj ends
    rw [Exec.ofResult_eq_ok] at read found
    obtain ⟨owners, within, each⟩ := forall₂_filterMap tables rpc api oracles
    have all := List.rel_append each (.cons (tableFor_queue read found) .nil)
    have inside : (owners ++ [queue]).Sublist (oracles ++ [queue]) := within.append_right [queue]
    exact ⟨queue_data, oracles, queue_lut, read, listed, found, rfl, ⟨owners, within, all⟩, nodup_of_owners all inside⟩
  · rintro ⟨queue_data, oracles, queue_lut, read, listed, found, rfl, _⟩
    refine Exec.bind_eq_ok.mpr ⟨queue_data, Exec.ofResult_eq_ok.mpr read, ?_⟩
    refine Exec.bind_eq_ok.mpr ⟨queue_lut, Exec.ofResult_eq_ok.mpr found, ?_⟩
    exact Exec.bind_eq_ok.mpr ⟨oracles, listed, rfl⟩

/-- The table for a reset is the one that the queue has: without it there is no
    reset. -/
theorem reset_luts (api : AddressApi) (queue : Pubkey) (luts : List sdk.AddressLookupTableAccount) :
    reset_lut_fetch_luts tables rpc api queue = .ok luts ↔
      ∃ queue_data queue_lut, fetch_async rpc .queue queue = .ok queue_data ∧
        queue_fetch_lut tables rpc api queue_data queue = .ok queue_lut ∧ luts = [queue_lut] ∧
        TableFor tables api rpc queue queue_lut := by
  constructor
  · intro done
    obtain ⟨queue_data, read, done⟩ := Exec.result_bind_eq_ok.mp done
    obtain ⟨queue_lut, found, ends⟩ := Exec.result_bind_eq_ok.mp done
    exact ⟨queue_data, queue_lut, read, found, (Except.ok.inj ends).symm, tableFor_queue read found⟩
  · rintro ⟨queue_data, queue_lut, read, found, rfl, _⟩
    exact Exec.result_bind_eq_ok.mpr ⟨queue_data, read, Exec.result_bind_eq_ok.mpr ⟨queue_lut, found, rfl⟩⟩

/-- The tables for a reward are that of the queue and behind it that of the oracle.
    The account of the oracle must be there, but its table may be missing. -/
theorem reward_luts (api : AddressApi) (queue oracle : Pubkey) (luts : List sdk.AddressLookupTableAccount) :
    pay_reward_fetch_luts tables rpc api queue oracle = .ok luts ↔
      ∃ queue_data queue_lut oracle_data, fetch_async rpc .queue queue = .ok queue_data ∧
        queue_fetch_lut tables rpc api queue_data queue = .ok queue_lut ∧
        fetch_async rpc .oracle oracle = .ok oracle_data ∧
        luts = queue_lut :: [oracle].filterMap (oracle_lut tables rpc api) ∧
        (∃ owners, owners.Sublist [oracle] ∧ List.Forall₂ (TableFor tables api rpc) (queue :: owners) luts) ∧
        ([queue, oracle].Nodup → (luts.map tables.key).Nodup ∨
          ∃ a ∈ [queue, oracle], ∃ b ∈ [queue, oracle], a ≠ b ∧ LutsCollide api rpc a b) := by
  have last : ∀ {oracle_data} (queue_lut : sdk.AddressLookupTableAccount),
      fetch_async rpc .oracle oracle = .ok oracle_data →
      (match oracle_fetch_lut tables rpc api oracle_data oracle with
        | .ok oracle_lut => pure [queue_lut, oracle_lut]
        | .error _ => pure [queue_lut] : Except CrateError _) =
        .ok (queue_lut :: [oracle].filterMap (oracle_lut tables rpc api)) := by
    intro oracle_data queue_lut read
    rw [List.filterMap_cons, oracle_lut_of_read read]
    cases oracle_fetch_lut tables rpc api oracle_data oracle with
    | error error => rfl
    | ok table => rfl
  constructor
  · intro done
    obtain ⟨queue_data, readQueue, done⟩ := Exec.result_bind_eq_ok.mp done
    obtain ⟨queue_lut, found, done⟩ := Exec.result_bind_eq_ok.mp done
    obtain ⟨oracle_data, readOracle, ends⟩ := Exec.result_bind_eq_ok.mp done
    rw [last queue_lut readOracle] at ends
    obtain rfl := Except.ok.inj ends
    obtain ⟨owners, within, each⟩ := forall₂_filterMap tables rpc api [oracle]
    have all := List.Forall₂.cons (tableFor_queue readQueue found) each
    exact ⟨queue_data, queue_lut, oracle_data, readQueue, found, readOracle, rfl, ⟨owners, within, all⟩,
      nodup_of_owners all (within.cons_cons queue)⟩
  · rintro ⟨queue_data, queue_lut, oracle_data, readQueue, found, readOracle, rfl, _⟩
    refine Exec.result_bind_eq_ok.mpr ⟨queue_data, readQueue, Exec.result_bind_eq_ok.mpr ⟨queue_lut, found, ?_⟩⟩
    exact Exec.result_bind_eq_ok.mpr ⟨oracle_data, readOracle, last queue_lut readOracle⟩

end

/-! ### A missing table -/

/-- The SDK of keys with lookup tables. -/
abbrev tableSdk : SolanaSdk where
  Signer := Pubkey
  pubkey key := key
  Hash := Unit
  default_hash := ()
  AddressLookupTableAccount := Pubkey × List Pubkey
  set_compute_unit_limit := keySdk.set_compute_unit_limit
  set_compute_unit_price := keySdk.set_compute_unit_price
  Transaction := KeyTransaction
  new_with_payer := keySdk.new_with_payer
  try_sign := keySdk.try_sign
  Message := KeyTransaction
  try_compile payer ixs _ _ := .ok ⟨payer, ixs, []⟩
  VersionedTransaction := KeyTransaction
  try_new := keySdk.try_new

/-- Reads a table that has one address. -/
def oneAddress : TableApi tableSdk where
  deserialize data :=
    if size : data.length = 88 then
      if data[0]? = some 1 then .ok [fixedAt data 56 32 (Nat.le_of_eq size.symm)] else .error "UninitializedAccount"
    else .error "InvalidAccountData"
  account key addresses := (key, addresses)
  key := Prod.fst
  key_account _ _ := rfl

/-- An active table whose one address is `secondOracle`. -/
def tableAccount : OracleAccounts.Account :=
  ⟨[1, 0, 0, 0] ++ List.replicate 8 255 ++ List.replicate 44 0 ++ secondOracle.val⟩

/-- Only the first key has an account. -/
def oneAccount (key : Pubkey) : Option OracleAccounts.Account := if key = firstOracle then some tableAccount else none

def readsOneAccount : RpcClient where
  get_account key := (oneAccount key).elim (.error "AccountNotFound") .ok
  get_multiple_accounts keys := .ok (keys.map oneAccount)

theorem readsLedger_readsOneAccount : ReadsLedger readsOneAccount oneAccount where
  single key := by
    show ((oneAccount key).elim (Except.error "AccountNotFound") Except.ok).toOption = oneAccount key
    cases oneAccount key with
    | none => rfl
    | some account => rfl
  many _ _ := rfl

theorem tables_at_once_missing :
    (add_address_lookup_tables oneAddress readsOneAccount (new firstOracle) [firstOracle, secondOracle] :
      Exec CrateError _) = .ok (new firstOracle) ∧
    [firstOracle, secondOracle].foldl (add_address_lookup_table oneAddress readsOneAccount) (new firstOracle) =
      { new firstOracle with address_lookup_tables := [(firstOracle, [secondOracle])] } := by
  have missing : ¬ Fetches oneAddress readsOneAccount secondOracle := by
    rintro ⟨table, found⟩
    cases found
  have few : [firstOracle, secondOracle].length ≤ 100 := by simp
  refine ⟨?_, rfl⟩
  exact (tables_at_once readsLedger_readsOneAccount few (new firstOracle)).2.1 ⟨secondOracle, by simp, missing⟩

end SwitchboardOnDemand.LookupTables
