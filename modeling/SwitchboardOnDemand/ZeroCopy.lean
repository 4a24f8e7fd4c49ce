import SwitchboardOnDemand.AccountData
import SwitchboardOnDemand.AccountLayouts
import SwitchboardOnDemand.Queue
import SwitchboardOnDemand.OracleAccounts
import SwitchboardOnDemand.Verifier

/-!
# Decoding zero-copy accounts

The crate reads a zero-copy account in three ways: `new_from_bytes`, `new` and
`parse` take the record at the front of a buffer, the `fetch_zerocopy_account`
family and Anchor's `try_deserialize` only a buffer of the exact size. All of
them undo one encoding, the discriminator and the bytes of the record, and read
it where it lies at a multiple of its alignment. On the chain every account does;
the memory of a client has no pull feed that can be read (`decoders_undo_encode`).
No buffer is read as two types (`one_type_per_account`). The readings are stated for
every type, also where the crate gives a type only some of them (a pull feed has
`parse` and the generic fetches, but no `try_deserialize`).
-/

namespace SwitchboardOnDemand.ZeroCopy
open Rust SwitchboardOnDemand.Error SwitchboardOnDemand.Utils SwitchboardOnDemand.QuoteStore

/-- The variants of the crate's error that only its clients see; `of` are the others. -/
inductive CrateError where
  | AccountBorrowError
  | AccountNotFound
  | AnchorParseError
  | InvalidQuote
  | SwitchboardRandomnessTooOld
  | AddressLookupTableFetchError
  | AddressLookupTableDeserializeError
  | of (error : OnDemandError)
  deriving Repr, DecidableEq

/-- Anchor's error codes of `try_deserialize`. -/
inductive ErrorCode where
  | AccountDiscriminatorMismatch
  | AccountDidNotDeserialize
  deriving Repr, DecidableEq

/-- A place in the memory of a machine. -/
structure Place where
  target : Target
  address : Nat
  deriving Repr, DecidableEq

def Place.add (place : Place) (count : Nat) : Place := { place with address := place.address + count }

/-- What `Pod` and `Discriminator` say of an account type. -/
structure AccountType (α : Type) where
  layout : Layout α
  discriminator : FixedBytes 8

namespace AccountType

variable {α β η : Type} (T : AccountType α)

/-- `size_of::<T>()`. -/
def size : Nat := T.layout.pod.size

/-- `align_of::<T>()`. -/
def align (target : Target) : Nat := structAlign target T.layout.fields

/-- `bytemuck::try_from_bytes::<T>` on bytes at a place. -/
def try_from_bytes (place : Place) (bytes : Bytes) : Except String α :=
  if exact : bytes.length = T.size then
    if place.address % T.align place.target = 0 then .ok (T.layout.pod.ofBytes ⟨bytes, exact⟩)
    else .error "TargetAlignmentGreaterAndInputNotAligned"
  else .error "SizeMismatch"

/-- Reads a record behind its discriminator; bytes behind it are ignored. -/
def new_from_bytes (place : Place) (data : Bytes) : Except OnDemandError α :=
  AccountData.new_from_bytes T.discriminator.val T.size (T.try_from_bytes (place.add 8)) data

/-- `new_from_bytes` on the data of an account that may be borrowed elsewhere. -/
def new (place : Place) (try_borrow_data : Except η Bytes) : Except CrateError α :=
  match try_borrow_data with
  | .error _ => .error .AccountBorrowError
  | .ok data =>
    match T.new_from_bytes place data with
    | .ok record => .ok record
    | .error error => .error (.of error)

/-- `parse`, on data that is borrowed already. -/
def parse (place : Place) (data : Bytes) : Except OnDemandError α := T.new_from_bytes place data

/-- The second half of a fetch, on the data of the account, which a client has in a
    buffer of its own. -/
def from_account_data (buffer : Nat) (data : Bytes) : Except CrateError α :=
  if data.length < T.discriminator.val.length then .error (.of .InvalidDiscriminator)
  else
    let disc_bytes := window data 0 8
    if disc_bytes ≠ T.discriminator.val then .error (.of .InvalidDiscriminator)
    else
      match T.try_from_bytes ⟨.host, buffer + 8⟩ (data.drop 8) with
      | .ok record => .ok record
      | .error _ => .error .AnchorParseError

/-- `fetch_zerocopy_account` and `fetch_zerocopy_account_async`, with what the
    client answers and where it puts it. -/
def fetch_zerocopy_account (buffer : Nat) (get_account_data : Pubkey → Except η Bytes) (pubkey : Pubkey) :
    Except CrateError α :=
  match get_account_data pubkey with
  | .error _ => .error .AccountNotFound
  | .ok data => T.from_account_data buffer data

def fetch_zerocopy_account_sync (buffer : Nat) (get_account_data : Pubkey → Except η (Option Bytes))
    (pubkey : Pubkey) : Except CrateError α :=
  match get_account_data pubkey with
  | .error _ => .error .AccountNotFound
  | .ok none => .error .AccountNotFound
  | .ok (some data) => T.from_account_data buffer data

def try_deserialize_unchecked (buffer : Nat) (buf : Bytes) : Except ErrorCode α :=
  match T.try_from_bytes ⟨.host, buffer + 8⟩ (buf.drop 8) with
  | .ok record => .ok record
  | .error _ => .error .AccountDidNotDeserialize

def try_deserialize (buffer : Nat) (buf : Bytes) : Except ErrorCode α :=
  if buf.length < T.discriminator.val.length then .error .AccountDiscriminatorMismatch
  else
    let given_disc := window buf 0 8
    if T.discriminator.val ≠ given_disc then .error .AccountDiscriminatorMismatch
    else T.try_deserialize_unchecked buffer buf

/-- `fetch_borsh_account` and `fetch_borsh_account_async`. -/
def fetch_borsh_account (buffer : Nat) (get_account_data : Pubkey → Except η Bytes) (pubkey : Pubkey) :
    Except CrateError α :=
  match get_account_data pubkey with
  | .error _ => .error .AccountNotFound
  | .ok data =>
    match T.try_deserialize buffer data with
    | .ok record => .ok record
    | .error _ => .error .AnchorParseError

/-! ### The encoding -/

/-- The discriminator and the bytes of a record. -/
def encode (record : α) : Bytes := T.discriminator.val ++ (T.layout.pod.toBytes record).val

theorem length_encode (record : α) : (T.encode record).length = 8 + T.size := by
  rw [encode, List.length_append, T.discriminator.property, (T.layout.pod.toBytes record).property, size]

/-- A buffer at the place has the record of the type, behind the discriminator, at a
    multiple of its alignment. -/
def Aligned (place : Place) : Prop := (place.address + 8) % T.align place.target = 0

instance (place : Place) : Decidable (T.Aligned place) := inferInstanceAs (Decidable (_ = _))

theorem try_from_bytes_ok_iff (place : Place) (bytes : Bytes) (record : α) :
    T.try_from_bytes place bytes = .ok record ↔
      place.address % T.align place.target = 0 ∧ bytes = (T.layout.pod.toBytes record).val := by
  by_cases exact : bytes.length = T.size
  · simp only [try_from_bytes, exact, dite_true]
    split
    · rename_i aligned
      simp only [aligned, true_and, Except.ok.injEq]
      constructor
      · rintro rfl
        rw [T.layout.pod.toBytes_ofBytes]
      · rintro rfl
        exact T.layout.pod.ofBytes_toBytes record
    · rename_i misaligned
      simp [misaligned]
  · simp only [try_from_bytes, exact, dite_false, reduceCtorEq, false_iff]
    rintro ⟨_, rfl⟩
    exact exact (T.layout.pod.toBytes record).property

theorem prefix_iff_window {front data : Bytes} {width : Nat} (wide : front.length = width) :
    front <+: data ↔ window data 0 width = front := by
  rw [List.prefix_iff_eq_take, wide, window, List.drop_zero, eq_comm]

/-- A buffer with a record at its front starts with the encoding of the record. -/
theorem new_from_bytes_ok_iff (place : Place) (data : Bytes) (record : α) :
    T.new_from_bytes place data = .ok record ↔ T.Aligned place ∧ T.encode record <+: data := by
  have eight := T.discriminator.property
  have body : (T.layout.pod.toBytes record).val.length = T.size := (T.layout.pod.toBytes record).property
  rw [new_from_bytes, AccountData.new_from_bytes_ok_iff eight, try_from_bytes_ok_iff,
    prefix_iff_window (T.length_encode record), window_add]
  constructor
  · rintro ⟨_, front, aligned, back⟩
    rw [front, Nat.zero_add, back, encode]
    exact ⟨aligned, rfl⟩
  · rintro ⟨aligned, whole⟩
    have long := congrArg List.length whole
    rw [List.length_append, length_window, length_window, T.length_encode record] at long
    obtain ⟨front, back⟩ := List.append_inj whole (by rw [length_window, eight]; omega)
    exact ⟨by omega, front, aligned, by rwa [Nat.zero_add] at back⟩

theorem new_ok_iff (place : Place) (try_borrow_data : Except η Bytes) (record : α) :
    T.new place try_borrow_data = .ok record ↔
      ∃ data, try_borrow_data = .ok data ∧ T.new_from_bytes place data = .ok record := by
  cases try_borrow_data with
  | error error => simp [new]
  | ok data =>
    cases read : T.new_from_bytes place data with
    | ok first => simp [new, read]
    | error error => simp [new, read]

/-- The data of a whole account is the encoding of its record. -/
theorem exact_iff (place : Place) (data : Bytes) (record : α) :
    (window data 0 8 = T.discriminator.val ∧ T.try_from_bytes (place.add 8) (data.drop 8) = .ok record) ↔
      T.Aligned place ∧ data = T.encode record := by
  rw [try_from_bytes_ok_iff]
  constructor
  · rintro ⟨front, aligned, back⟩
    refine ⟨aligned, ?_⟩
    rw [encode, ← front, ← back, window, List.drop_zero, List.take_append_drop]
  · rintro ⟨aligned, rfl⟩
    have eight := T.discriminator.property
    refine ⟨?_, aligned, List.drop_left' eight⟩
    rw [encode, window_append_left (by omega), window_full eight]

theorem from_account_data_ok_iff (buffer : Nat) (data : Bytes) (record : α) :
    T.from_account_data buffer data = .ok record ↔ T.Aligned ⟨.host, buffer⟩ ∧ data = T.encode record := by
  rw [← exact_iff, from_account_data]
  have eight := T.discriminator.property
  by_cases same : window data 0 8 = T.discriminator.val
  · have long : ¬ data.length < T.discriminator.val.length := by
      have length := congrArg List.length same
      rw [length_window] at length
      omega
    simp only [long, same, Place.add, if_false, ne_eq, not_true_eq_false, true_and]
    cases T.try_from_bytes ⟨.host, buffer + 8⟩ (data.drop 8) with
    | ok read => simp
    | error message => simp
  · simp only [same, false_and, iff_false, ne_eq, not_false_eq_true, if_true]
    split_ifs
    · rintro ⟨⟩
    · rintro ⟨⟩

/-- The code that Anchor's reading has for an error of the crate's. -/
def errorCode : CrateError → ErrorCode
  | .AnchorParseError => .AccountDidNotDeserialize
  | _ => .AccountDiscriminatorMismatch

/-- Anchor's reading makes the same checks in the same order. -/
theorem try_deserialize_eq (buffer : Nat) (buf : Bytes) :
    T.try_deserialize buffer buf = (T.from_account_data buffer buf).mapError errorCode := by
  rw [try_deserialize, from_account_data, try_deserialize_unchecked]
  by_cases short : buf.length < T.discriminator.val.length
  · simp only [short, if_true]
    rfl
  · by_cases same : window buf 0 8 = T.discriminator.val
    · simp only [short, same, if_false, ne_eq, not_true_eq_false]
      cases T.try_from_bytes ⟨.host, buffer + 8⟩ (buf.drop 8) with
      | ok record => rfl
      | error message => rfl
    · simp only [short, same, eq_comm (a := T.discriminator.val), if_false, ne_eq, not_false_eq_true, if_true]
      rfl

theorem try_deserialize_ok_iff (buffer : Nat) (buf : Bytes) (record : α) :
    T.try_deserialize buffer buf = .ok record ↔ T.Aligned ⟨.host, buffer⟩ ∧ buf = T.encode record := by
  rw [try_deserialize_eq, ← from_account_data_ok_iff]
  cases T.from_account_data buffer buf with
  | ok read => simp [Except.mapError]
  | error error => simp [Except.mapError]

section
variable (buffer : Nat) (get_account_data : Pubkey → Except η Bytes)
  (get_account_data_sync : Pubkey → Except η (Option Bytes)) (pubkey : Pubkey) (record : α)

theorem fetch_zerocopy_account_ok_iff :
    T.fetch_zerocopy_account buffer get_account_data pubkey = .ok record ↔
      T.Aligned ⟨.host, buffer⟩ ∧ get_account_data pubkey = .ok (T.encode record) := by
  unfold fetch_zerocopy_account
  cases get_account_data pubkey with
  | error error => simp
  | ok data => simpa using T.from_account_data_ok_iff buffer data record

theorem fetch_zerocopy_account_sync_ok_iff :
    T.fetch_zerocopy_account_sync buffer get_account_data_sync pubkey = .ok record ↔
      T.Aligned ⟨.host, buffer⟩ ∧ get_account_data_sync pubkey = .ok (some (T.encode record)) := by
  unfold fetch_zerocopy_account_sync
  cases get_account_data_sync pubkey with
  | error error => simp
  | ok found =>
    cases found with
    | none => simp
    | some data => simpa using T.from_account_data_ok_iff buffer data record

theorem fetch_borsh_account_ok_iff :
    T.fetch_borsh_account buffer get_account_data pubkey = .ok record ↔
      T.Aligned ⟨.host, buffer⟩ ∧ get_account_data pubkey = .ok (T.encode record) := by
  unfold fetch_borsh_account
  cases get_account_data pubkey with
  | error error => simp
  | ok data =>
    simp only [Except.ok.injEq, ← T.try_deserialize_ok_iff buffer data record]
    cases T.try_deserialize buffer data with
    | ok read => simp
    | error code => simp

end

/-- One of the crate's readings takes the record from the data of an account. -/
inductive Reads (T : AccountType α) (data : Bytes) (record : α) : Prop
  | new_from_bytes (place : Place) (done : T.new_from_bytes place data = .ok record)
  | parse (place : Place) (done : T.parse place data = .ok record)
  | new {η : Type} (place : Place) (done : T.new place (.ok data : Except η Bytes) = .ok record)
  | try_deserialize (buffer : Nat) (done : T.try_deserialize buffer data = .ok record)
  | fetch_zerocopy_account {η : Type} (buffer : Nat) (get_account_data : Pubkey → Except η Bytes) (pubkey : Pubkey)
      (answer : get_account_data pubkey = .ok data)
      (done : T.fetch_zerocopy_account buffer get_account_data pubkey = .ok record)
  | fetch_zerocopy_account_sync {η : Type} (buffer : Nat) (get_account_data : Pubkey → Except η (Option Bytes))
      (pubkey : Pubkey) (answer : get_account_data pubkey = .ok (some data))
      (done : T.fetch_zerocopy_account_sync buffer get_account_data pubkey = .ok record)
  | fetch_borsh_account {η : Type} (buffer : Nat) (get_account_data : Pubkey → Except η Bytes) (pubkey : Pubkey)
      (answer : get_account_data pubkey = .ok data)
      (done : T.fetch_borsh_account buffer get_account_data pubkey = .ok record)

/-- Whatever is read, the data starts with the encoding of the record. -/
theorem Reads.prefix {data : Bytes} {record : α} (reads : T.Reads data record) : T.encode record <+: data := by
  cases reads with
  | new_from_bytes place done => exact ((T.new_from_bytes_ok_iff place data record).mp done).2
  | parse place done => exact ((T.new_from_bytes_ok_iff place data record).mp done).2
  | new place done =>
    obtain ⟨borrowed, same, done⟩ := (T.new_ok_iff place (.ok data) record).mp done
    obtain rfl := Except.ok.inj same
    exact ((T.new_from_bytes_ok_iff place data record).mp done).2
  | try_deserialize buffer done =>
    obtain ⟨_, rfl⟩ := (T.try_deserialize_ok_iff buffer data record).mp done
    exact List.prefix_rfl
  | fetch_zerocopy_account buffer get pubkey answer done =>
    have fetched := ((T.fetch_zerocopy_account_ok_iff buffer get pubkey record).mp done).2
    exact Except.ok.inj (answer.symm.trans fetched) ▸ List.prefix_rfl
  | fetch_zerocopy_account_sync buffer get pubkey answer done =>
    have fetched := ((T.fetch_zerocopy_account_sync_ok_iff buffer get pubkey record).mp done).2
    exact Option.some.inj (Except.ok.inj (answer.symm.trans fetched)) ▸ List.prefix_rfl
  | fetch_borsh_account buffer get pubkey answer done =>
    have fetched := ((T.fetch_borsh_account_ok_iff buffer get pubkey record).mp done).2
    exact Except.ok.inj (answer.symm.trans fetched) ▸ List.prefix_rfl

end AccountType

/-! ### The account types of the program -/

inductive Account where
  | queue
  | oracle
  | oracle_stats
  | randomness
  | pull_feed
  | state
  deriving Repr, DecidableEq

def Account.Record : Account → Type
  | queue => AccountLayouts.QueueAccountData
  | oracle => AccountLayouts.OracleAccountData
  | oracle_stats => AccountLayouts.OracleStatsAccountData
  | randomness => AccountLayouts.RandomnessAccountData
  | pull_feed => AccountLayouts.PullFeedAccountData
  | state => AccountLayouts.State

def Account.type : (account : Account) → AccountType account.Record
  | queue => ⟨AccountLayouts.QueueAccountData.layout, [217, 194, 55, 127, 184, 83, 138, 1], by decide⟩
  | oracle => ⟨AccountLayouts.OracleAccountData.layout, [128, 30, 16, 241, 170, 73, 55, 54], by decide⟩
  | oracle_stats => ⟨AccountLayouts.OracleStatsAccountData.layout, [180, 157, 178, 234, 240, 27, 152, 179], by decide⟩
  | randomness => ⟨AccountLayouts.RandomnessAccountData.layout, [10, 66, 229, 135, 220, 239, 217, 114], by decide⟩
  | pull_feed => ⟨AccountLayouts.PullFeedAccountData.layout, [196, 27, 108, 196, 10, 215, 219, 40], by decide⟩
  | state => ⟨AccountLayouts.State.layout, [216, 146, 107, 94, 104, 75, 182, 177], by decide⟩

/-- Different types have different discriminators, none of them that of a quote. -/
theorem discriminator_injective {a b : Account} (same : a.type.discriminator.val = b.type.discriminator.val) : a = b := by
  revert same
  cases a <;> cases b <;> decide

theorem discriminator_ne_quote (a : Account) : a.type.discriminator.val ≠ QUOTE_DISCRIMINATOR := by
  cases a <;> decide

/-- No data is read as two types, by whichever of the readings and wherever it lies,
    and none that the verifier takes for a quote is read as any of them. -/
theorem one_type_per_account (data : Bytes) :
    (∀ a b : Account, ∀ (r : a.Record) (s : b.Record), a.type.Reads data r → b.type.Reads data s → a = b) ∧
    ∀ (a : Account) (r : a.Record) (checks : OverflowChecks) (verifier : Verifier.QuoteVerifier) (key : Pubkey)
      (quote : Quote.OracleQuote), a.type.Reads data r →
      Verifier.verify_account checks verifier ⟨key, data⟩ ≠ .ok quote := by
  have front : ∀ (a : Account) (r : a.Record), a.type.Reads data r →
      8 ≤ data.length ∧ window data 0 8 = a.type.discriminator.val := by
    intro a r reads
    have eight := a.type.discriminator.property
    obtain ⟨behind, rfl⟩ := reads.prefix
    have long := a.type.length_encode r
    refine ⟨by rw [List.length_append]; omega, ?_⟩
    rw [AccountType.encode, List.append_assoc, window_append_left (by omega), window_full eight]
  constructor
  · intro a b r s readA readB
    exact discriminator_injective ((front a r readA).2.symm.trans (front b s readB).2)
  · intro a r checks verifier key quote read verified
    obtain ⟨long, same⟩ := front a r read
    have wrong : window data 0 8 ≠ QUOTE_DISCRIMINATOR := same ▸ discriminator_ne_quote a
    rw [Verifier.verify_account_large long, if_pos wrong] at verified
    cases verified

/-! ### Layouts -/

/-- The structs of the accounts, those inside others too. -/
def structs : List (List Field) :=
  [AccountLayouts.VaultInfo.layout.fields, AccountLayouts.QueueAccountData.layout.fields,
    AccountLayouts.Quote.layout.fields, AccountLayouts.OracleAccountData.layout.fields,
    AccountLayouts.OracleEpochInfo.layout.fields, AccountLayouts.MegaSlotInfo.layout.fields,
    AccountLayouts.OracleStatsAccountData.layout.fields, AccountLayouts.RandomnessAccountData.layout.fields,
    AccountLayouts.OracleSubmission.layout.fields, AccountLayouts.CurrentResult.layout.fields,
    AccountLayouts.CompactResult.layout.fields, AccountLayouts.PullFeedAccountData.layout.fields,
    AccountLayouts.StateEpochInfo.layout.fields, AccountLayouts.State.layout.fields]

theorem packed_structs (target : Target) : ∀ fields ∈ structs, Packed target fields := by
  cases target <;> decide

/-- `StateEpochInfo` in any order of its fields. -/
theorem packed_stateEpochInfo (target : Target) {fields : List Field}
    (reordered : fields.Perm AccountLayouts.StateEpochInfo.layout.fields) :
    Packed target fields ∧ totalSize fields = 24 := by
  have same : AccountLayouts.StateEpochInfo.layout.fields = List.replicate 3 ⟨8, fun _ => 8⟩ := rfl
  rw [same, List.perm_replicate] at reordered
  subst reordered
  cases target <;> decide

/-- The fields of a queue that the verifier reads. -/
def queueView (record : AccountLayouts.QueueAccountData) : Queue.QueueAccountData where
  oracle_keys := record.oracle_keys
  ed25519_oracle_signing_keys := record.ed25519_oracle_signing_keys
  oracle_keys_len := record.oracle_keys_len.toNat

/-- The verifier reads these fields where `repr(C)` puts them. -/
theorem queueView_ofBytes (bytes : FixedBytes AccountLayouts.QueueAccountData.layout.pod.size) :
    queueView (AccountLayouts.QueueAccountData.layout.pod.ofBytes bytes) = Queue.QueueAccountData.ofBytes bytes := by
  rw [Pod.ofBytes_eq_ofWindow]
  unfold AccountLayouts.QueueAccountData.layout
  simp only [Layout.struct, Pod.ofWindow_iso, Layout.ofWindow_cons, Equiv.coe_fn_symm_mk, queueView, Pod.ofWindow_array,
    Queue.QueueAccountData.ofBytes, Queue.QueueAccountData.mk.injEq]
  exact ⟨rfl, rfl, Pod.toNat_u32_ofWindow _⟩

/-- Records of all types but the pull feed need addresses at multiples of 8; hosts
    have pull feeds at multiples of 16. -/
theorem align_type (account : Account) (target : Target) :
    account.type.align target = if account = .pull_feed ∧ target = .host then 16 else 8 := by
  cases account <;> cases target <;> decide

/-- The verifier's queue is the view of a record. -/
theorem queue_try_from_bytes_iff {place : Place} (aligned : place.address % 8 = 0) (bytes : Bytes)
    (queue : Queue.QueueAccountData) :
    Queue.try_from_bytes bytes = .ok queue ↔
      ∃ record, Account.queue.type.try_from_bytes place bytes = .ok record ∧ queueView record = queue := by
  have align : Account.queue.type.align place.target = 8 := align_type .queue place.target
  rw [Queue.try_from_bytes_ok_iff]
  constructor
  · rintro ⟨size, rfl⟩
    exact ⟨_, (dif_pos size).trans (if_pos (align ▸ aligned)), queueView_ofBytes ⟨bytes, size⟩⟩
  · rintro ⟨record, cast, rfl⟩
    obtain ⟨_, rfl⟩ := (AccountType.try_from_bytes_ok_iff _ place bytes record).mp cast
    have back : queueView (AccountLayouts.QueueAccountData.layout.pod.ofBytes _) = queueView record :=
      congrArg queueView (AccountLayouts.QueueAccountData.layout.pod.ofBytes_toBytes record)
    exact ⟨(AccountLayouts.QueueAccountData.layout.pod.toBytes record).property, back.symm.trans (queueView_ofBytes _)⟩

theorem oracle_try_from_bytes_iff {place : Place} (aligned : place.address % 8 = 0) (bytes : Bytes)
    (oracle : OracleAccounts.OracleAccountData) :
    OracleAccounts.OracleAccountData.try_from_bytes bytes = .ok oracle ↔
      ∃ record, Account.oracle.type.try_from_bytes place bytes = .ok record ∧
        AccountLayouts.OracleAccountData.layout.pod.toBytes record = oracle.bytes := by
  have align : Account.oracle.type.align place.target = 8 := align_type .oracle place.target
  constructor
  · intro cast
    unfold OracleAccounts.OracleAccountData.try_from_bytes at cast
    split at cast
    · rename_i size
      cases cast
      exact ⟨_, (dif_pos size).trans (if_pos (align ▸ aligned)),
        AccountLayouts.OracleAccountData.layout.pod.toBytes_ofBytes ⟨bytes, size⟩⟩
    · cases cast
  · rintro ⟨record, cast, same⟩
    obtain ⟨_, rfl⟩ := (AccountType.try_from_bytes_ok_iff _ place bytes record).mp cast
    have size : (AccountLayouts.OracleAccountData.layout.pod.toBytes record).val.length = OracleAccounts.ORACLE_SIZE :=
      (AccountLayouts.OracleAccountData.layout.pod.toBytes record).property
    refine (dif_pos size).trans (congrArg Except.ok ?_)
    cases oracle
    exact congrArg OracleAccounts.OracleAccountData.mk same

/-- Two casts that agree give two readings that agree. -/
theorem new_from_bytes_congr {α β : Type} {discriminator : Bytes} (eight : discriminator.length = 8) {size : Nat}
    {cast : Bytes → Except String α} {other : Bytes → Except String β} {a : α} {related : β → Prop}
    (same : ∀ bytes, cast bytes = .ok a ↔ ∃ b, other bytes = .ok b ∧ related b) (data : Bytes) :
    AccountData.new_from_bytes discriminator size cast data = .ok a ↔
      ∃ b, AccountData.new_from_bytes discriminator size other data = .ok b ∧ related b := by
  simp only [AccountData.new_from_bytes_ok_iff eight, same, and_assoc]
  constructor
  · rintro ⟨long, front, b, read, holds⟩
    exact ⟨b, long, front, read, holds⟩
  · rintro ⟨b, long, front, read, holds⟩
    exact ⟨long, front, b, read, holds⟩

/-- No build has padding in any of the structs, so that each of them lies in memory as
    its fields do, and none in `StateEpochInfo`, whatever order its fields get; the
    verifier and `fetch_oracles` read queues and oracles so. -/
theorem layouts_agree :
    (∀ target, ∀ fields ∈ structs,
      placed target 0 fields = offsets 0 fields ∧ structSize target fields = totalSize fields) ∧
    (∀ target fields, fields.Perm AccountLayouts.StateEpochInfo.layout.fields →
      placed target 0 fields = offsets 0 fields ∧ structSize target fields = 24) ∧
    (∀ (place : Place) (data : Bytes) (queue : Queue.QueueAccountData), place.address % 8 = 0 →
      (Queue.QueueAccountData.new_from_bytes data = .ok queue ↔
        ∃ record, Account.queue.type.new_from_bytes place data = .ok record ∧ queueView record = queue)) ∧
    ∀ (place : Place) (data : Bytes) (oracle : OracleAccounts.OracleAccountData), place.address % 8 = 0 →
      (OracleAccounts.OracleAccountData.new_from_bytes data = .ok oracle ↔
        ∃ record, Account.oracle.type.new_from_bytes place data = .ok record ∧
          AccountLayouts.OracleAccountData.layout.pod.toBytes record = oracle.bytes) := by
  have behind : ∀ place : Place, place.address % 8 = 0 → (place.add 8).address % 8 = 0 := by
    intro place aligned
    simpa [Place.add] using aligned
  refine ⟨fun target fields member => reprC_of_packed (packed_structs target fields member), ?_, ?_, ?_⟩
  · intro target fields reordered
    obtain ⟨packed, size⟩ := packed_stateEpochInfo target reordered
    obtain ⟨places, total⟩ := reprC_of_packed packed
    exact ⟨places, total.trans size⟩
  · intro place data queue aligned
    exact new_from_bytes_congr rfl (fun bytes => queue_try_from_bytes_iff (behind place aligned) bytes queue) data
  · intro place data oracle aligned
    exact new_from_bytes_congr rfl (fun bytes => oracle_try_from_bytes_iff (behind place aligned) bytes oracle) data

/-! ### What is read where -/

/-- On the chain, where the data of an account starts at a multiple of 8, every type
    can be read. -/
theorem aligned_on_chain (account : Account) {address : Nat} (eight : address % 8 = 0) :
    account.type.Aligned ⟨.sbf, address⟩ := by
  have align : account.type.align .sbf = 8 := (align_type account .sbf).trans (if_neg (by simp))
  rw [AccountType.Aligned, align]
  dsimp only
  omega

/-- In a client, whose allocator gives multiples of 16, every type but the pull feed
    can be read: a pull feed comes 8 bytes behind such a multiple. -/
theorem aligned_in_client (account : Account) {buffer : Nat} (sixteen : buffer % 16 = 0) :
    account.type.Aligned ⟨.host, buffer⟩ ↔ account ≠ .pull_feed := by
  rw [AccountType.Aligned, align_type]
  dsimp only
  by_cases pull : account = .pull_feed
  · rw [if_pos ⟨pull, rfl⟩]
    exact iff_of_false (by omega) (not_not_intro pull)
  · rw [if_neg (fun both => pull both.1)]
    exact iff_of_true (by omega) pull

/-- Every reading of an account type undoes its encoding where the record is at a
    multiple of its alignment, and reads nothing elsewhere: a buffer starts with
    the encoding of the record, and an account that is fetched is that encoding.
    On the chain every account is so aligned, in a client every one but a pull feed. -/
theorem decoders_undo_encode {η : Type} (account : Account) (record : account.Record) (place : Place) (data : Bytes)
    (try_borrow_data : Except η Bytes) (buffer : Nat) (get_account_data : Pubkey → Except η Bytes)
    (get_account_data_sync : Pubkey → Except η (Option Bytes)) (pubkey : Pubkey) :
    (account.type.new_from_bytes place data = .ok record ↔
      account.type.Aligned place ∧ account.type.encode record <+: data) ∧
    (account.type.parse place data = .ok record ↔
      account.type.Aligned place ∧ account.type.encode record <+: data) ∧
    (account.type.new place try_borrow_data = .ok record ↔
      ∃ data, try_borrow_data = .ok data ∧ account.type.Aligned place ∧ account.type.encode record <+: data) ∧
    (account.type.try_deserialize buffer data = .ok record ↔
      account.type.Aligned ⟨.host, buffer⟩ ∧ data = account.type.encode record) ∧
    (account.type.fetch_zerocopy_account buffer get_account_data pubkey = .ok record ↔
      account.type.Aligned ⟨.host, buffer⟩ ∧ get_account_data pubkey = .ok (account.type.encode record)) ∧
    (account.type.fetch_zerocopy_account_sync buffer get_account_data_sync pubkey = .ok record ↔
      account.type.Aligned ⟨.host, buffer⟩ ∧ get_account_data_sync pubkey = .ok (some (account.type.encode record))) ∧
    (account.type.fetch_borsh_account buffer get_account_data pubkey = .ok record ↔
      account.type.Aligned ⟨.host, buffer⟩ ∧ get_account_data pubkey = .ok (account.type.encode record)) ∧
    (∀ address, address % 8 = 0 → account.type.Aligned ⟨.sbf, address⟩) ∧
    ∀ address, address % 16 = 0 → (account.type.Aligned ⟨.host, address⟩ ↔ account ≠ .pull_feed) := by
  refine ⟨account.type.new_from_bytes_ok_iff place data record, account.type.new_from_bytes_ok_iff place data record, ?_,
    account.type.try_deserialize_ok_iff buffer data record,
    account.type.fetch_zerocopy_account_ok_iff buffer get_account_data pubkey record,
    account.type.fetch_zerocopy_account_sync_ok_iff buffer get_account_data_sync pubkey record,
    account.type.fetch_borsh_account_ok_iff buffer get_account_data pubkey record,
    fun address => aligned_on_chain account, fun address => aligned_in_client account⟩
  simp only [account.type.new_ok_iff, account.type.new_from_bytes_ok_iff]

end SwitchboardOnDemand.ZeroCopy
