import SwitchboardOnDemand.Borsh
import SwitchboardOnDemand.LookupTables

/-!
# Fetching oracles and the clock

Oracles are fetched one by one or many at once. At once a missing or undecodable
account is left out, and an account with bytes behind its record is read too, as
it is not one by one (`fetch_many_one_by_one`). The clock is read on chain through
a pointer, and by a client from its encoding, with the same slot
(`clock_slot_agrees`).
-/

namespace SwitchboardOnDemand.Fetching
open Rust SwitchboardOnDemand.Error SwitchboardOnDemand.Utils SwitchboardOnDemand.ZeroCopy
open SwitchboardOnDemand.LookupTables
open SwitchboardOnDemand.OracleAccounts (firstOracle secondOracle)

/-! ### Lists -/

section
variable {α β : Type} {f g : α → Option β}

/-- A function that is defined at fewer places gives fewer values. -/
theorem filterMap_sublist (below : ∀ x y, g x = some y → f x = some y) (l : List α) :
    (l.filterMap g).Sublist (l.filterMap f) := by
  induction l with
  | nil => exact .slnil
  | cons x rest ih =>
    cases here : g x with
    | some y =>
      rw [List.filterMap_cons_some here, List.filterMap_cons_some (below x y here)]
      exact ih.cons_cons y
    | none =>
      rw [List.filterMap_cons_none here]
      cases there : f x with
      | none => rwa [List.filterMap_cons_none there]
      | some y =>
        rw [List.filterMap_cons_some there]
        exact ih.cons y

/-- It gives all of them exactly when it is defined wherever the other one is. -/
theorem filterMap_eq_iff (below : ∀ x y, g x = some y → f x = some y) (l : List α) :
    l.filterMap g = l.filterMap f ↔ ∀ x ∈ l, g x = f x := by
  constructor
  · intro same
    induction l with
    | nil => exact fun x member => by cases member
    | cons x rest ih =>
      have fewer := (filterMap_sublist below rest).length_le
      rw [List.forall_mem_cons]
      cases here : g x with
      | some y =>
        rw [List.filterMap_cons_some here, List.filterMap_cons_some (below x y here), List.cons.injEq] at same
        exact ⟨(below x y here).symm, ih same.2⟩
      | none =>
        rw [List.filterMap_cons_none here] at same
        cases there : f x with
        | none =>
          rw [List.filterMap_cons_none there] at same
          exact ⟨rfl, ih same⟩
        | some y =>
          rw [List.filterMap_cons_some there] at same
          rw [same, List.length_cons] at fewer
          exact absurd fewer (Nat.not_succ_le_self _)
  · exact fun same => List.filterMap_congr same

end

/-! ### Oracles -/

/-- `OracleAccountData::fetch_many`. -/
def fetch_many (client : RpcClient) (oracles : List Pubkey) : Except CrateError (List Account.oracle.Record) :=
  match client.get_multiple_accounts oracles with
  | .error _ => .error (.of .NetworkError)
  | .ok answers =>
    let datas := (answers.filterMap id).map OracleAccounts.Account.data
    .ok ((datas.map (Account.oracle.type.new_from_bytes ⟨.host, heap⟩)).filterMap Except.toOption)

variable {rpc : RpcClient} {ledger : Pubkey → Option OracleAccounts.Account}

/-- What the account of a key starts with. -/
def storedOracle (ledger : Pubkey → Option OracleAccounts.Account) (key : Pubkey) : Option Account.oracle.Record :=
  (ledger key).bind fun account => (Account.oracle.type.new_from_bytes ⟨.host, heap⟩ account.data).toOption

/-- The account of a key, fetched alone. -/
def fetchedOracle (rpc : RpcClient) (key : Pubkey) : Option Account.oracle.Record :=
  (fetch_async rpc .oracle key).toOption

theorem fetch_many_eq (node : ReadsLedger rpc ledger) {keys : List Pubkey} (few : keys.length ≤ 100) :
    fetch_many rpc keys = .ok (keys.filterMap (storedOracle ledger)) := by
  rw [fetch_many, node.many keys few]
  refine congrArg Except.ok ?_
  rw [List.filterMap_map, List.filterMap_map, List.filterMap_filterMap, List.filterMap_map]
  rfl

theorem toOption_eq_some {ε α : Type} {outcome : Except ε α} {value : α} :
    outcome.toOption = some value ↔ outcome = .ok value := by
  cases outcome <;> simp [Except.toOption]

/-- The buffers of a client have all records but pull feeds at multiples of their
    alignment. -/
theorem aligned_in_heap {account : Account} (other : account ≠ .pull_feed) : account.type.Aligned ⟨.host, heap⟩ :=
  (aligned_in_client account (Nat.zero_mod 16)).mpr other

theorem aligned_oracle : Account.oracle.type.Aligned ⟨.host, heap⟩ := aligned_in_heap (by decide)

theorem storedOracle_eq_some {key : Pubkey} {record : Account.oracle.Record} :
    storedOracle ledger key = some record ↔
      ∃ account, ledger key = some account ∧ Account.oracle.type.encode record <+: account.data := by
  simp only [storedOracle, Option.bind_eq_some_iff, toOption_eq_some, AccountType.new_from_bytes_ok_iff, aligned_oracle,
    true_and]

theorem fetchedOracle_eq_some (node : ReadsLedger rpc ledger) {key : Pubkey} {record : Account.oracle.Record} :
    fetchedOracle rpc key = some record ↔
      ∃ account, ledger key = some account ∧ account.data = Account.oracle.type.encode record := by
  rw [fetchedOracle, toOption_eq_some, fetch_async, AccountType.fetch_zerocopy_account_ok_iff, ← node.single key,
    get_account_data]
  cases rpc.get_account key with
  | error message => simp [Except.map, Except.toOption]
  | ok account => simp [Except.map, Except.toOption, aligned_oracle]

/-- An account is no longer than the oracle that it starts with. -/
def Whole (account : OracleAccounts.Account) : Prop :=
  ∀ record, Account.oracle.type.encode record <+: account.data → account.data = Account.oracle.type.encode record

/-- From a node that reads one ledger, up to 100 oracles at once are those that can
    be fetched one by one, in the order of their keys, and besides them those whose
    accounts go on behind the record. -/
theorem fetch_many_one_by_one (node : ReadsLedger rpc ledger) {keys : List Pubkey} (few : keys.length ≤ 100) :
    ∃ oracles, fetch_many rpc keys = .ok oracles ∧ (keys.filterMap (fetchedOracle rpc)).Sublist oracles ∧
      (keys.filterMap (fetchedOracle rpc) = oracles ↔
        ∀ key ∈ keys, ∀ account, ledger key = some account → Whole account) := by
  have below : ∀ key record, fetchedOracle rpc key = some record → storedOracle ledger key = some record := by
    intro key record fetched
    obtain ⟨account, held, whole⟩ := (fetchedOracle_eq_some node).mp fetched
    exact storedOracle_eq_some.mpr ⟨account, held, whole ▸ List.prefix_rfl⟩
  refine ⟨_, fetch_many_eq node few, filterMap_sublist below keys, ?_⟩
  rw [filterMap_eq_iff below]
  refine forall₂_congr fun key _ => ?_
  constructor
  · intro same account held record starts
    have stored := storedOracle_eq_some.mpr ⟨account, held, starts⟩
    obtain ⟨other, heldOther, whole⟩ := (fetchedOracle_eq_some node).mp (same.trans stored)
    rw [Option.some.inj (held.symm.trans heldOther), whole]
  · intro whole
    cases stored : storedOracle ledger key with
    | none =>
      refine Option.eq_none_iff_forall_ne_some.mpr fun record fetched => ?_
      rw [below key record fetched] at stored
      cases stored
    | some record =>
      obtain ⟨account, held, starts⟩ := storedOracle_eq_some.mp stored
      exact (fetchedOracle_eq_some node).mpr ⟨account, held, whole account held record starts⟩

/-- A node that answers from a ledger. -/
def ledgerClient (ledger : Pubkey → Option OracleAccounts.Account) : RpcClient where
  get_account key := (ledger key).elim (.error "AccountNotFound") .ok
  get_multiple_accounts keys := .ok (keys.map ledger)

theorem readsLedger_ledgerClient (ledger : Pubkey → Option OracleAccounts.Account) :
    ReadsLedger (ledgerClient ledger) ledger where
  single key := by
    show ((ledger key).elim (Except.error "AccountNotFound") Except.ok).toOption = ledger key
    cases ledger key with
    | none => rfl
    | some account => rfl
  many _ _ := rfl

/-- A record that the account of a key holds is fetched. -/
theorem fetch_async_ledgerClient {ledger : Pubkey → Option OracleAccounts.Account} {account : Account} {key : Pubkey}
    {record : account.Record} (other : account ≠ .pull_feed) (held : ledger key = some ⟨account.type.encode record⟩) :
    fetch_async (ledgerClient ledger) account key = .ok record := by
  refine (account.type.fetch_zerocopy_account_ok_iff heap _ key record).mpr ⟨aligned_in_heap other, ?_⟩
  show ((ledger key).elim (Except.error "AccountNotFound") Except.ok).map OracleAccounts.Account.data = _
  rw [held]
  rfl

/-- An oracle with a byte behind it. -/
def longAccount (record : Account.oracle.Record) : OracleAccounts.Account := ⟨Account.oracle.type.encode record ++ [0]⟩

theorem not_whole_longAccount (record : Account.oracle.Record) : ¬ Whole (longAccount record) := fun whole =>
  List.cons_ne_nil 0 [] (List.append_right_eq_self.mp (whole record (List.prefix_append _ [0])))

/-- A record of zeros. -/
def zeroRecord (account : Account) : account.Record := account.type.layout.pod.ofBytes (repeated 0 _)

def zeroOracle : Account.oracle.Record := zeroRecord .oracle

theorem fetch_many_one_by_one_long :
    ∃ oracles, fetch_many (ledgerClient fun _ => some (longAccount zeroOracle)) [firstOracle] = .ok oracles ∧
      [firstOracle].filterMap (fetchedOracle (ledgerClient fun _ => some (longAccount zeroOracle))) ≠ oracles := by
  have few : [firstOracle].length ≤ 100 := by simp
  obtain ⟨oracles, fetched, _, agrees⟩ :=
    fetch_many_one_by_one (readsLedger_ledgerClient fun _ => some (longAccount zeroOracle)) few
  refine ⟨oracles, fetched, fun same => not_whole_longAccount zeroOracle ?_⟩
  exact agrees.mp same firstOracle List.mem_cons_self _ rfl

/-! ### The clock -/

/-- The clock sysvar. -/
structure Clock where
  slot : UInt64
  epoch_start_timestamp : Int64
  epoch : UInt64
  leader_schedule_epoch : UInt64
  unix_timestamp : Int64
  deriving DecidableEq

/-- `bincode`: the numbers in their order; bytes behind them are ignored. -/
def Clock.format : Borsh Clock :=
  (Borsh.pair .u64 <| .pair .i64 <| .pair .u64 <| .pair .u64 .i64).iso
    ⟨fun x => (x.slot, x.epoch_start_timestamp, x.epoch, x.leader_schedule_epoch, x.unix_timestamp),
      fun (slot, epoch_start_timestamp, epoch, leader_schedule_epoch, unix_timestamp) =>
      ⟨slot, epoch_start_timestamp, epoch, leader_schedule_epoch, unix_timestamp⟩, fun _ => rfl, fun _ => rfl⟩

/-- `sysvar::clock::ID`. -/
def clock_ID : Pubkey :=
  ⟨[6, 167, 213, 23, 24, 199, 116, 201, 40, 86, 99, 152, 105, 29, 94, 182, 139, 94, 184, 163, 155, 75, 109, 92, 115, 85,
    91, 33, 0, 0, 0, 0], by decide⟩

/-- `clock::get_slot`, through a pointer to the data. -/
def get_slot {ε : Type} (clock_sysvar : AccountInfo) : Exec ε UInt64 := do
  Exec.assert (check_pubkey_eq clock_sysvar.key clock_ID = true)
    "assertion failed: check_pubkey_eq(clock_sysvar.as_ref().key,\n    &solana_program::sysvar::clock::ID)"
  (addrOf clock_sysvar.data).read_u64

/-- `clock::fetch_async`. -/
def fetch_clock (client : RpcClient) : Except CrateError Clock :=
  match get_account_data client clock_ID with
  | .error _ => .error .AccountNotFound
  | .ok data =>
    match Clock.format.deserialize data with
    | some (clock, _) => .ok clock
    | none => .error .AccountNotFound

theorem fetch_clock_ok_iff (client : RpcClient) (clock : Clock) :
    fetch_clock client = .ok clock ↔ ∃ data rest, get_account_data client clock_ID = .ok data ∧
      Clock.format.deserialize data = some (clock, rest) := by
  unfold fetch_clock
  cases get_account_data client clock_ID with
  | error message => simp
  | ok data =>
    cases read : Clock.format.deserialize data with
    | none => simp [read]
    | some pair => simp [read, Prod.ext_iff]

/-- The clock that is read starts the data with its slot. -/
theorem slot_of_format {data rest : Bytes} {clock : Clock} (read : Clock.format.deserialize data = some (clock, rest)) :
    8 ≤ data.length ∧ leU64 (window data 0 8) = clock.slot := by
  obtain ⟨bytes, written, rfl⟩ := (Clock.format.reads _ _ _).mp read
  have fields : (Borsh.pair .u64 (.pair .i64 (.pair .u64 (.pair .u64 .i64)))).serialize (clock.slot, _) = some bytes := written
  obtain ⟨first, slot, behind, _, rfl⟩ := Borsh.pair_serialize_eq_some.mp fields
  obtain rfl : leBytes 8 clock.slot.toNat = first := Option.some.inj slot
  have eight : (leBytes 8 clock.slot.toNat).length = 8 := length_leBytes 8 _
  rw [List.append_assoc, window_append_left (by omega), window_full eight, leU64_leBytes]
  exact ⟨by rw [List.length_append]; omega, rfl⟩

theorem get_slot_of_long {ε : Type} {data : Bytes} (long : 8 ≤ data.length) :
    (get_slot ⟨clock_ID, data⟩ : Exec ε UInt64) = .ok (leU64 (window data 0 8)) := by
  have same : check_pubkey_eq clock_ID clock_ID = true := (check_pubkey_eq_iff _ _).mpr rfl
  rw [get_slot, Exec.assert_true _ same, Exec.ok_bind, ← Ptr.add_zero (addrOf data), Ptr.read_u64_add (by simpa using long)]
  rfl

/-- Where a client fetches a clock, a program that is given the same account reads
    its slot; and a program that reads a slot was given the account of the clock. -/
theorem clock_slot_agrees {ε : Type} (client : RpcClient) :
    (∀ clock, fetch_clock client = .ok clock → ∃ data, get_account_data client clock_ID = .ok data ∧
      (get_slot ⟨clock_ID, data⟩ : Exec ε UInt64) = .ok clock.slot) ∧
    ∀ (account : AccountInfo) slot, (get_slot account : Exec ε UInt64) = .ok slot →
      account.key = clock_ID ∧ 8 ≤ account.data.length ∧ slot = leU64 (window account.data 0 8) := by
  constructor
  · intro clock fetched
    obtain ⟨data, rest, held, read⟩ := (fetch_clock_ok_iff client clock).mp fetched
    obtain ⟨long, slot⟩ := slot_of_format read
    exact ⟨data, held, by rw [get_slot_of_long long, slot]⟩
  · intro account slot done
    obtain ⟨_, passed, read⟩ := Exec.bind_eq_ok.mp done
    have key := (check_pubkey_eq_iff _ _).mp (Exec.assert_eq_ok.mp passed)
    by_cases long : 8 ≤ account.data.length
    · rw [← Ptr.add_zero (addrOf account.data), Ptr.read_u64_add (by simpa using long)] at read
      exact ⟨key, long, (Exec.ok.inj read).symm⟩
    · rw [← Ptr.add_zero (addrOf account.data), Ptr.read_u64_add_outside (by simpa using long)] at read
      cases read

end SwitchboardOnDemand.Fetching
