import SwitchboardOnDemand.Encoding

/-!
# Which accounts the verifier takes for a queue

`verify` reads the queue from the bytes behind the first eight, which must be as
many as a queue has; it does not look at the first eight.
`QueueAccountData.new_from_bytes` compares these with the discriminator and
ignores bytes behind the queue. The two agree on an account exactly when it is
too short for both, of the exact size and with the discriminator, or longer and
without it (`trustsOnlyQueues_iff`).
-/

namespace SwitchboardOnDemand.QueueDecoding
open Rust SwitchboardOnDemand.Error SwitchboardOnDemand.Utils SwitchboardOnDemand.Ed25519Sysvar
open SwitchboardOnDemand.Quote SwitchboardOnDemand.Queue SwitchboardOnDemand.SlotSearch
open SwitchboardOnDemand.SlothashSysvar SwitchboardOnDemand.Verifier SwitchboardOnDemand.Encoding

/-- The queue decoding of `verify`. -/
def decode_queue (queue : AccountInfo) : Exec AnyError QueueAccountData := do
  Exec.bailIf (queue.data.length < 6280) s!"Queue account too small: {queue.data.length} bytes"
  match try_from_bytes (queue.data.drop 8) with
  | .ok queue_data => pure queue_data
  | .error e => .err s!"Failed to deserialize queue data: {e}"

/-- `verify` around any way to get a queue from the account. -/
def verify_decoding (decode : AccountInfo → Exec AnyError QueueAccountData) (checks : OverflowChecks)
    (self : QuoteVerifier) (data : Slice) : Exec AnyError OracleQuote := do
  let parsed ← parse_instruction data
  let queue ← Exec.okOr "Queue account not set" self.queue
  let slothash_sysvar ← Exec.okOr "Slothash sysvar not set" self.slothash_sysvar
  let clock_slot ← Exec.okOr "Clock slot not set" self.clock_slot
  Exec.bailIf (clock_slot < parsed.recent_slot ∨ clock_slot - parsed.recent_slot > self.max_age)
    s!"Quote is too old: recent_slot={parsed.recent_slot}, current_slot={clock_slot}, max_age={self.max_age}"
  Exec.bailIf (parsed.sig_count = 0) "No signatures provided"
  let queue_data ← decode queue
  verify_parsed checks queue_data slothash_sysvar parsed data

theorem verify_eq_decoding (checks : OverflowChecks) (self : QuoteVerifier) (data : Slice) :
    verify checks self data = verify_decoding decode_queue checks self data := by
  simp only [verify, verify_decoding, decode_queue, bind_assoc]
  refine bind_congr fun parsed => bind_congr fun queue => bind_congr fun sysvar => bind_congr fun clock =>
    bind_congr fun _ => bind_congr fun _ => bind_congr fun _ => ?_
  cases try_from_bytes (queue.data.drop 8) with
  | ok queue_data => rfl
  | error e => rfl

/-- Whatever else it is given, `verify` goes on behind its queue decoding with
    the queue. -/
def GetsPast (account : AccountInfo) (queue : QueueAccountData) : Prop :=
  ∀ checks (self : QuoteVerifier) (data : SafeSlice), self.queue = some account →
    verify checks self data.toSlice = verify_decoding (fun _ => .ok queue) checks self data.toSlice

/-- `verify` gets past its queue decoding exactly on accounts that
    `new_from_bytes` accepts, and with the same signing keys. -/
structure TrustsOnlyQueues (account : AccountInfo) : Prop where
  accepts : (∃ queue, GetsPast account queue) ↔
    ∃ queue, QueueAccountData.new_from_bytes account.data = .ok queue
  keys : ∀ read decoded, GetsPast account read → QueueAccountData.new_from_bytes account.data = .ok decoded →
    read.ed25519_oracle_signing_keys = decoded.ed25519_oracle_signing_keys

/-! ### The two decodings -/

theorem decode_queue_ok_iff (account : AccountInfo) (queue : QueueAccountData) :
    decode_queue account = .ok queue ↔
      account.data.length = 6280 ∧ try_from_bytes (account.data.drop 8) = .ok queue := by
  rw [decode_queue, Exec.bind_eq_ok]
  simp only [Exec.bailIf_eq_ok, exists_const]
  constructor
  · rintro ⟨large, read⟩
    split at read
    · rename_i queue_data cast
      cases read
      obtain ⟨size, _⟩ := (try_from_bytes_ok_iff _ _).mp cast
      rw [List.length_drop, QUEUE_SIZE] at size
      exact ⟨by omega, cast⟩
    · cases read
  · rintro ⟨size, cast⟩
    rw [cast]
    exact ⟨by omega, rfl⟩

theorem decode_queue_cases (account : AccountInfo) :
    (∃ queue, decode_queue account = .ok queue) ∨ ∃ error, decode_queue account = .err error := by
  apply Exec.returns_iff.mp
  rw [decode_queue, Exec.returns_bind]
  refine ⟨Exec.returns_bailIf, fun _ _ => ?_⟩
  cases try_from_bytes (account.data.drop 8) with
  | ok queue => trivial
  | error e => trivial

/-- An account of the exact size is a queue to `verify`. -/
theorem decodes_iff (account : AccountInfo) :
    (∃ queue, decode_queue account = .ok queue) ↔ account.data.length = 6280 := by
  constructor
  · rintro ⟨queue, decoded⟩
    exact ((decode_queue_ok_iff _ _).mp decoded).1
  · intro size
    have cast : (account.data.drop 8).length = QUEUE_SIZE := by rw [List.length_drop, size]; rfl
    exact ⟨_, (decode_queue_ok_iff _ _).mpr ⟨size, (try_from_bytes_ok_iff _ _).mpr ⟨cast, rfl⟩⟩⟩

/-- An account that is large enough is one to `new_from_bytes` when it has the
    discriminator. -/
theorem new_from_bytes_accepts_iff (data : Bytes) :
    (∃ queue, QueueAccountData.new_from_bytes data = .ok queue) ↔
      6280 ≤ data.length ∧ window data 0 8 = QUEUE_ACCOUNT_DISCRIMINATOR := by
  simp only [QueueAccountData.new_from_bytes_ok_iff]
  constructor
  · rintro ⟨queue, large, discriminator, _⟩
    exact ⟨large, discriminator⟩
  · rintro ⟨large, discriminator⟩
    have size : (window data 8 QUEUE_SIZE).length = QUEUE_SIZE :=
      length_window_of_le (by unfold QUEUE_SIZE; omega)
    exact ⟨_, large, discriminator, (try_from_bytes_ok_iff _ _).mpr ⟨size, rfl⟩⟩

/-! ### The queue behind the decoding -/

theorem check_keys_congr {a b : QueueAccountData}
    (same : a.ed25519_oracle_signing_keys = b.ed25519_oracle_signing_keys)
    (parsed_sigs : Vector ParsedEd25519SignatureDataRef 8) (oracle_idxs : Slice) (todo i : Nat) :
    check_keys a parsed_sigs oracle_idxs todo i = check_keys b parsed_sigs oracle_idxs todo i := by
  induction todo generalizing i with
  | zero => rfl
  | succ todo ih => simp only [check_keys, signing_key_at, same, ih]

/-- Behind the decoding only the Ed25519 keys of the queue count. -/
theorem verify_parsed_congr {a b : QueueAccountData}
    (same : a.ed25519_oracle_signing_keys = b.ed25519_oracle_signing_keys) (checks : OverflowChecks)
    (sysvar : AccountInfo) (parsed : ParsedInstruction) (data : Slice) :
    verify_parsed checks a sysvar parsed data = verify_parsed checks b sysvar parsed data := by
  simp only [verify_parsed, check_keys_congr same]

/-- `signedQuote` with another key and one record for a place of the queue. -/
def quoteOfKey (key : Pubkey) (idx : UInt8) : OneSigner :=
  { signedQuote ⟨[idx], Nat.le_refl 1, Nat.le_add_left 1 7⟩ with key := key }

abbrev dataOfKey (key : Pubkey) (idx : UInt8) : SafeSlice := SafeSlice.of (quoteOfKey key idx).data

def verifierOf (account : AccountInfo) : QuoteVerifier := { verifierAt2000 with queue := some account }

variable (checks : OverflowChecks) (account : AccountInfo) (key : Pubkey) (idx : UInt8)

/-- On this data the verifier reaches the decoding. -/
theorem verify_decoding_dataOfKey (decode : AccountInfo → Exec AnyError QueueAccountData) :
    verify_decoding decode checks (verifierOf account) (dataOfKey key idx).toSlice =
      decode account >>= fun queue_data => verify_parsed checks queue_data everyOtherSlot.account
        (parsedOf (dataOfKey key idx).toSlice) (dataOfKey key idx).toSlice := by
  have accepted : Accepted (dataOfKey key idx).toSlice := (quoteOfKey key idx).accepted
  have parsed := (parse_instruction_ok_iff (dataOfKey key idx) _).mpr ⟨accepted, rfl⟩
  have slot : (parsedOf (dataOfKey key idx).toSlice).recent_slot = 2000 := (quoteOfKey key idx).recentSlot_data
  have fresh : ¬ ((2000 : UInt64) < 2000 ∨ (2000 : UInt64) - 2000 > 0) := by decide
  have some : ¬ (parsedOf (dataOfKey key idx).toSlice).sig_count = 0 := Nat.ne_of_gt accepted.header.2.1
  simp only [verify_decoding, parsed, Exec.ok_bind, verifierOf, verifierAt2000, Exec.okOr, slot,
    Exec.bailIf_false _ fresh, Exec.bailIf_false _ some]

/-- Its quote is given exactly by the queues with the key at its place, and no
    queue makes it an error. -/
theorem verify_parsed_dataOfKey (queue : QueueAccountData) :
    (verify_parsed checks queue everyOtherSlot.account (parsedOf (dataOfKey key idx).toSlice)
        (dataOfKey key idx).toSlice = .ok (quoteOf (dataOfKey key idx).toSlice) ↔
      queue.ed25519_oracle_signing_keys[idx.toNat % 30] = key) ∧
    ∀ error, verify_parsed checks queue everyOtherSlot.account (parsedOf (dataOfKey key idx).toSlice)
      (dataOfKey key idx).toSlice ≠ .err error := by
  have header : HeaderOk (dataOfKey key idx).toSlice := (quoteOfKey key idx).headerOk
  have slot : recentSlot (dataOfKey key idx).toSlice = 2000 := (quoteOfKey key idx).recentSlot_data
  have found : find_slothash_in_sysvar checks (recentSlot (dataOfKey key idx).toSlice) everyOtherSlot.account =
      .ok (evenSlot 0).hash := by
    rw [slot]
    exact find_signedSlot checks
  have hashed : HeaderHolds (dataOfKey key idx).toSlice (evenSlot 0).hash := (quoteOfKey key idx).headerHolds
  have accepts := verify_parsed_ok_iff checks queue everyOtherSlot.account (dataOfKey key idx) header
    (quoteOf (dataOfKey key idx).toSlice)
  constructor
  · rw [accepts]
    constructor
    · rintro ⟨_, _, _, keys, _⟩
      obtain ⟨_, same⟩ := keys 0 header.2.1
      have record : recordAt (dataOfKey key idx).ptr.rest 0 = (quoteOfKey key idx).offsets :=
        (quoteOfKey key idx).recordAt_data Nat.zero_lt_one
      have place : oracleIdx (dataOfKey key idx).toSlice 0 = idx := (quoteOfKey key idx).oracleIdx_data Nat.zero_lt_one
      simp only [expectedKey, place, record] at same
      exact Subtype.ext (same.symm.trans (quoteOfKey key idx).window_key)
    · intro registered
      refine ⟨_, found, hashed, (quoteOfKey key idx).keysHold ?_, rfl⟩
      intro i inside
      obtain rfl : i = 0 := Nat.lt_one_iff.mp inside
      exact registered
  · intro error rejected
    have returns := (verify_parsed_returns_iff checks queue everyOtherSlot.account (dataOfKey key idx) header).mp
      (by rw [rejected]; trivial)
    obtain ⟨_, keys⟩ := returns.2 _ found
    rw [accepts.mpr ⟨_, found, hashed, keys, rfl⟩] at rejected
    cases rejected

/-- What `verify` goes on with is what its decoding read, up to the fields that
    nothing behind it reads. -/
theorem getsPast_iff (queue : QueueAccountData) :
    GetsPast account queue ↔ ∃ decoded, decode_queue account = .ok decoded ∧
      decoded.ed25519_oracle_signing_keys = queue.ed25519_oracle_signing_keys := by
  constructor
  · intro getsPast
    have onData : ∀ key idx, decode_queue account >>= (fun queue_data => verify_parsed .on queue_data
        everyOtherSlot.account (parsedOf (dataOfKey key idx).toSlice) (dataOfKey key idx).toSlice) =
        verify_parsed .on queue everyOtherSlot.account (parsedOf (dataOfKey key idx).toSlice)
          (dataOfKey key idx).toSlice := by
      intro key idx
      have run := getsPast .on (verifierOf account) (dataOfKey key idx) rfl
      rwa [verify_eq_decoding, verify_decoding_dataOfKey, verify_decoding_dataOfKey, Exec.ok_bind] at run
    rcases decode_queue_cases account with ⟨decoded, read⟩ | ⟨error, rejected⟩
    · refine ⟨decoded, read, ?_⟩
      ext1 i inside
      let idx := UInt8.ofNat i
      have place : idx.toNat % 30 = i := by
        rw [UInt8.toNat_ofNat']
        omega
      have run := onData decoded.ed25519_oracle_signing_keys[idx.toNat % 30] idx
      rw [read, Exec.ok_bind, ((verify_parsed_dataOfKey .on _ idx decoded).1).mpr rfl] at run
      have same := ((verify_parsed_dataOfKey .on _ idx queue).1).mp run.symm
      simp only [place] at same
      exact same.symm
    · have run := onData unsetKey 0
      rw [rejected, Exec.err_bind] at run
      exact absurd run.symm ((verify_parsed_dataOfKey .on unsetKey 0 queue).2 error)
  · rintro ⟨decoded, read, same⟩ checks self data queueSet
    have decoding : ∀ (sysvar : AccountInfo) (parsed : ParsedInstruction),
        (decode_queue account >>= fun queue_data => verify_parsed checks queue_data sysvar parsed data.toSlice) =
          verify_parsed checks queue sysvar parsed data.toSlice := by
      intro sysvar parsed
      rw [read, Exec.ok_bind, verify_parsed_congr same]
    simp only [verify_eq_decoding, verify_decoding, queueSet, Exec.okOr, Exec.ok_bind, decoding]

theorem getsPast_some_iff : (∃ queue, GetsPast account queue) ↔ account.data.length = 6280 := by
  rw [← decodes_iff]
  simp only [getsPast_iff]
  constructor
  · rintro ⟨_, decoded, read, _⟩
    exact ⟨decoded, read⟩
  · rintro ⟨decoded, read⟩
    exact ⟨decoded, decoded, read, rfl⟩

/-- The verifier and `new_from_bytes` agree on an account exactly when it is too
    short, or of the size of a queue and with the discriminator, or longer and
    without it. -/
theorem trustsOnlyQueues_iff :
    TrustsOnlyQueues account ↔
      (account.data.length = 6280 → window account.data 0 8 = QUEUE_ACCOUNT_DISCRIMINATOR) ∧
      (6280 < account.data.length → window account.data 0 8 ≠ QUEUE_ACCOUNT_DISCRIMINATOR) := by
  constructor
  · rintro ⟨accepts, _⟩
    rw [getsPast_some_iff, new_from_bytes_accepts_iff] at accepts
    constructor
    · intro size
      exact (accepts.mp size).2
    · intro longer discriminator
      exact absurd (accepts.mpr ⟨Nat.le_of_lt longer, discriminator⟩) (Nat.ne_of_gt longer)
  · rintro ⟨onSize, onLonger⟩
    constructor
    · rw [getsPast_some_iff, new_from_bytes_accepts_iff]
      constructor
      · intro size
        exact ⟨Nat.le_of_eq size.symm, onSize size⟩
      · rintro ⟨large, discriminator⟩
        rcases Nat.eq_or_lt_of_le large with size | longer
        · exact size.symm
        · exact absurd discriminator (onLonger longer)
    · intro read decoded getsPast accepted
      obtain ⟨other, decodes, same⟩ := (getsPast_iff account read).mp getsPast
      obtain ⟨size, cast⟩ := (decode_queue_ok_iff account other).mp decodes
      obtain ⟨_, _, castSlice⟩ := (QueueAccountData.new_from_bytes_ok_iff _ _).mp accepted
      have whole : window account.data 8 QUEUE_SIZE = account.data.drop 8 :=
        List.take_of_length_le (by rw [List.length_drop, size]; decide)
      rw [whole, cast] at castSlice
      cases castSlice
      exact same.symm

/-- `verify` accepts a signed quote for an account of zeros and one key, which is
    no queue to `new_from_bytes`. -/
theorem oneOracleQueue_not_trustsOnlyQueues :
    (∃ quote, verify .on verifierAt2000 (signedData zeroOnce).toSlice = .ok quote) ∧
      QueueAccountData.new_from_bytes oneOracleQueue.account.data = .error .InvalidDiscriminator ∧
      ¬ TrustsOnlyQueues oneOracleQueue.account := by
  have start : window oneOracleQueue.account.data 0 8 = List.replicate 8 0 := by
    simp only [oneOracleQueue, QueueAccount.ofKeys]
    rw [List.append_assoc, window_append_left (by rw [List.length_replicate]; omega), window, List.drop_replicate,
      List.take_replicate]
    rfl
  have size : oneOracleQueue.account.data.length = 6280 := oneOracleQueue.size
  have other : window oneOracleQueue.account.data 0 8 ≠ QUEUE_ACCOUNT_DISCRIMINATOR := by
    rw [start]
    decide
  refine ⟨⟨_, verify_signedData .on zeroOnce (by decide)⟩, ?_, ?_⟩
  · have enough : ¬ oneOracleQueue.account.data.length < QUEUE_ACCOUNT_DISCRIMINATOR.length := by
      rw [size]
      decide
    rw [QueueAccountData.new_from_bytes, AccountData.new_from_bytes, if_neg enough]
    exact if_pos other
  · intro agree
    exact other (((trustsOnlyQueues_iff _).mp agree).1 size)

end SwitchboardOnDemand.QueueDecoding
