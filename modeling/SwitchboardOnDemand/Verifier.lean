import SwitchboardOnDemand.SlotSearch
import SwitchboardOnDemand.Ed25519Sysvar
import SwitchboardOnDemand.Queue
import SwitchboardOnDemand.QuoteStore

/-!
# The quote verifier

`verify` parses the data of an Ed25519 instruction, compares its slot with the
clock, its signed slot hash with the slot-hashes sysvar and its signing keys with
the queue, and gives a quote of references into the data. What it accepts is
`verify_ok_iff`; when it comes back to its caller is `verify_returns_iff`. The
entries `verify_delimited`, `verify_account` and `verify_instruction_at` find
the data in a buffer, an account and the instructions sysvar.
-/

namespace SwitchboardOnDemand.Verifier
open Rust SwitchboardOnDemand.Utils SwitchboardOnDemand.FeedInfo SwitchboardOnDemand.SlotSearch
open SwitchboardOnDemand.Ed25519Sysvar SwitchboardOnDemand.IxSysvar SwitchboardOnDemand.Queue
open SwitchboardOnDemand.Quote SwitchboardOnDemand.QuoteStore SwitchboardOnDemand.SlothashSysvar

variable {ε : Type}

/-- A verifier with the accounts and numbers that were set. -/
structure QuoteVerifier where
  queue : Option AccountInfo
  slothash_sysvar : Option AccountInfo
  ix_sysvar : Option AccountInfo
  clock_slot : Option UInt64
  max_age : UInt64
  deriving Repr, DecidableEq

/-- `parsed_sigs[i]`. -/
def sig_at (parsed_sigs : Vector ParsedEd25519SignatureDataRef 8) (i : Nat) :
    Exec ε ParsedEd25519SignatureDataRef :=
  match parsed_sigs[i]? with
  | some sig => .ok sig
  | none => .panic s!"index out of bounds: the len is 8 but the index is {i}"

/-- `queue_data.ed25519_oracle_signing_keys[oracle_idx as usize % 30]`. -/
def signing_key_at (queue_data : QueueAccountData) (oracle_idx : UInt8) : Pubkey :=
  queue_data.ed25519_oracle_signing_keys[oracle_idx.toNat % 30]

/-- The loop over the signing keys: `todo` signatures are left and the next one
    is number `i`. -/
def check_keys (queue_data : QueueAccountData) (parsed_sigs : Vector ParsedEd25519SignatureDataRef 8)
    (oracle_idxs : Slice) : Nat → Nat → Exec AnyError Unit
  | 0, _ => .ok ()
  | todo + 1, i => do
    let oracle_idx ← oracle_idxs.index i
    let expected_oracle_key := signing_key_at queue_data oracle_idx
    let sig ← sig_at parsed_sigs i
    assert_p64_eq sig.pubkey (addrOf expected_oracle_key.val)
      "assertion failed: unsafe \x7b check_p64_eq(actual_oracle_key, &expected_oracle_key) \x7d"
    check_keys queue_data parsed_sigs oracle_idxs todo (i + 1)

/-- The second half of `verify`, behind the queue data: the slot hash, the keys
    and the quote. -/
def verify_parsed (checks : OverflowChecks) (queue_data : QueueAccountData) (slothash_sysvar : AccountInfo)
    (parsed : ParsedInstruction) (data : Slice) : Exec AnyError OracleQuote := do
  let reference_sig := parsed.parsed_sigs[0]
  let target_slothash := reference_sig.bundle_header
  let found_slothash ← find_slothash_in_sysvar checks parsed.recent_slot slothash_sysvar
  assert_p64_eq (addrOf found_slothash.val) target_slothash
    "assertion failed: unsafe \x7b check_p64_eq(found_slothash, target_slothash) \x7d"
  check_keys queue_data parsed.parsed_sigs parsed.oracle_idxs parsed.sig_count 0
  pure {
    quote_header_refs := reference_sig.bundle_header
    oracle_count := parsed.sig_count
    packed_feed_infos := ⟨reference_sig.feed_infos, reference_sig.feed_count⟩
    -- `feed_count as u8` keeps the low 8 bits.
    feed_count := reference_sig.feed_count % 256
    oracle_idxs := parsed.oracle_idxs
    recent_slot := parsed.recent_slot
    version := parsed.version
    raw_buffer := some data }

def verify (checks : OverflowChecks) (self : QuoteVerifier) (data : Slice) : Exec AnyError OracleQuote := do
  let parsed ← parse_instruction data
  let queue ← Exec.okOr "Queue account not set" self.queue
  let slothash_sysvar ← Exec.okOr "Slothash sysvar not set" self.slothash_sysvar
  let clock_slot ← Exec.okOr "Clock slot not set" self.clock_slot
  Exec.bailIf (clock_slot < parsed.recent_slot ∨ clock_slot - parsed.recent_slot > self.max_age)
    s!"Quote is too old: recent_slot={parsed.recent_slot}, current_slot={clock_slot}, max_age={self.max_age}"
  Exec.bailIf (parsed.sig_count = 0) "No signatures provided"
  Exec.bailIf (queue.data.length < 6280) s!"Queue account too small: {queue.data.length} bytes"
  match try_from_bytes (queue.data.drop 8) with
  | .ok queue_data => verify_parsed checks queue_data slothash_sysvar parsed data
  | .error e => .err s!"Failed to deserialize queue data: {e}"

def verify_delimited (checks : OverflowChecks) (self : QuoteVerifier) (data : Slice) : Exec AnyError OracleQuote := do
  let len ← data.ptr.read_u16
  let data ← data.sliceRange 2 (len + 2)
  verify checks self data

def verify_account (checks : OverflowChecks) (self : QuoteVerifier) (oracle_account : AccountInfo) :
    Exec AnyError OracleQuote := do
  let data := Slice.of oracle_account.data
  Exec.bailIf (data.len < 8) s!"Oracle account too small: {data.len} bytes, expected at least 8"
  let discriminator ← data.ptr.read_u64
  Exec.bailIf (discriminator ≠ QUOTE_DISCRIMINATOR_U64_LE) "Invalid oracle account discriminator"
  let data ← data.sliceFrom 8
  verify_delimited checks self data

/-- Verifies the instruction with the given number; a negative number is a huge
    one as `usize`. -/
def verify_instruction_at (checks : OverflowChecks) (self : QuoteVerifier) (instruction_idx : Int64) :
    Exec AnyError OracleQuote := do
  let ix_sysvar ← Exec.okOr "Instructions sysvar not set" self.ix_sysvar
  let data ← extract_ix_data ix_sysvar instruction_idx.toUInt64.toNat
  verify checks self data

/-! ### What accepted data says -/

/-- 32 bytes that lie at an offset. -/
def Holds (rest : Bytes) (offset : Nat) (bytes : FixedBytes 32) : Prop :=
  offset + 32 ≤ rest.length ∧ window rest offset 32 = bytes.val

def oracleIdx (data : Slice) (i : Nat) : UInt8 := byteAt data.ptr.rest (data.len - sigCount data - 13 + i)

def recentSlot (data : Slice) : UInt64 := leU64 (window data.ptr.rest (data.len - 13) 8)

def expectedKey (queue : QueueAccountData) (data : Slice) (i : Nat) : Pubkey :=
  queue.ed25519_oracle_signing_keys[(oracleIdx data i).toNat % 30]

/-- Every signature names a key that the queue has at its index. -/
def KeysHold (queue : QueueAccountData) (data : Slice) : Prop :=
  ∀ i < sigCount data, Holds data.ptr.rest (recordAt data.ptr.rest i).public_key_offset (expectedKey queue data i)

/-- The message starts with a hash. -/
def HeaderHolds (data : Slice) (hash : FixedBytes 32) : Prop :=
  Holds data.ptr.rest (recordAt data.ptr.rest 0).message_data_offset hash

/-- The quote is not newer than the clock and not older than the verifier allows. -/
def Fresh (self : QuoteVerifier) (clock slot : UInt64) : Prop := slot ≤ clock ∧ clock - slot ≤ self.max_age

/-- The account holds a queue. -/
def IsQueue (account : AccountInfo) (queue : QueueAccountData) : Prop :=
  6280 ≤ account.data.length ∧ try_from_bytes (account.data.drop 8) = .ok queue

def quoteOf (data : Slice) : OracleQuote :=
  let first := recordAt data.ptr.rest 0
  let feed_count := (first.message_data_size - HEADER_SIZE) / PACKED_SIZE
  { quote_header_refs := data.ptr.add first.message_data_offset
    oracle_count := sigCount data
    packed_feed_infos := ⟨(data.ptr.add first.message_data_offset).add HEADER_SIZE, feed_count⟩
    feed_count := feed_count % 256
    oracle_idxs := ⟨data.ptr.add (data.len - sigCount data - 13), sigCount data⟩
    recent_slot := recentSlot data
    version := byteAt data.ptr.rest (data.len - 5)
    raw_buffer := some data }

/-- What `verify` demands of a verifier and its data. -/
structure Verifies (checks : OverflowChecks) (verifier : QuoteVerifier) (data : Slice) (queue : QueueAccountData)
    (sysvar : AccountInfo) (clock : UInt64) (hash : FixedBytes 32) : Prop where
  accepted : Accepted data
  queueSet : ∃ account, verifier.queue = some account ∧ IsQueue account queue
  sysvarSet : verifier.slothash_sysvar = some sysvar
  clockSet : verifier.clock_slot = some clock
  fresh : Fresh verifier clock (recentSlot data)
  found : find_slothash_in_sysvar checks (recentSlot data) sysvar = .ok hash
  header : HeaderHolds data hash
  keys : KeysHold queue data

/-! ### What the quote refers to -/

theorem header_quoteOf {data : Slice} {hash : FixedBytes 32} (header : HeaderHolds data hash) :
    ((quoteOf data).header : Exec ε _) = .ok ⟨hash⟩ := by
  obtain ⟨inside, same⟩ := header
  rw [OracleQuote.header, quoteOf, read_header, Ptr.read_add inside]
  exact congrArg (fun bytes => Exec.ok (PackedQuoteHeader.mk bytes)) (Subtype.ext same)

/-- Its feeds are the records behind the header, when the message can be read. -/
theorem feeds_quoteOf {data : Slice} (size : SizeOk (recordAt data.ptr.rest 0))
    (inside : (recordAt data.ptr.rest 0).message_data_offset + (recordAt data.ptr.rest 0).message_data_size ≤
      data.ptr.rest.length) :
    ∃ feeds, ((quoteOf data).feeds : Exec ε _) = .ok feeds ∧ (feeds.map PackedFeedInfo.toBytes).flatten =
      window data.ptr.rest ((recordAt data.ptr.rest 0).message_data_offset + 32)
        ((recordAt data.ptr.rest 0).message_data_size - 32) := by
  obtain ⟨count, few, size⟩ := size
  have feed_count : ((recordAt data.ptr.rest 0).message_data_size - HEADER_SIZE) / PACKED_SIZE = count := by
    unfold HEADER_SIZE PACKED_SIZE
    omega
  have small : count % 256 = count := Nat.mod_eq_of_lt (by omega)
  have fits : 49 * count ≤
      ((data.ptr.add (recordAt data.ptr.rest 0).message_data_offset).add HEADER_SIZE).rest.length := by
    simp only [Ptr.rest_add, List.length_drop, HEADER_SIZE]
    omega
  obtain ⟨feeds, read⟩ : ∃ feeds, (read_feeds _ count : Exec ε _) = .ok feeds := read_feeds_of_le fits
  refine ⟨feeds, ?_, ?_⟩
  · simp only [OracleQuote.feeds, quoteOf, feed_count, small, Exec.assert_true _ (Nat.le_refl count),
      Exec.ok_bind, read]
  · rw [(read_feeds_bytes read).2.2, size, Nat.add_sub_cancel_left]
    simp only [Ptr.rest_add, window_drop, HEADER_SIZE, Nat.add_zero]

/-! ### The keys -/

theorem same32_add_iff (p : Ptr) (offset : Nat) (bytes : FixedBytes 32) :
    Same32 (p.add offset) (addrOf bytes.val) ↔ Holds p.rest offset bytes := by
  have length := bytes.property
  simp only [Same32, Holds, Ptr.rest_add, addrOf_rest, List.length_drop, window_drop, Nat.add_zero,
    window_full bytes.property, length, le_refl, true_and]
  exact and_congr_left fun _ => by omega

theorem same32_comm (p q : Ptr) : Same32 p q ↔ Same32 q p :=
  ⟨fun same => ⟨same.2.1, same.1, same.2.2.symm⟩, fun same => ⟨same.2.1, same.1, same.2.2.symm⟩⟩

theorem sig_at_signatureRefs (p : Ptr) {count i : Nat} (counted : i < count) (few : count ≤ 8) :
    (sig_at (signatureRefs p count) i : Exec ε _) = .ok (signature_ref p (recordAt p.rest 0) (recordAt p.rest i)) := by
  have inside : i < 8 := by omega
  simp [sig_at, signatureRefs, inside, counted]

theorem index_oracle_idxs (data : SafeSlice) (header : HeaderOk data.toSlice) {i : Nat}
    (counted : i < sigCount data.toSlice) :
    ((parsedOf data.toSlice).oracle_idxs.index i : Exec ε _) = .ok (oracleIdx data.toSlice i) := by
  obtain ⟨_, _, _, room⟩ := header
  have inside : data.len ≤ data.ptr.rest.length := data.inside
  rw [Slice.index_of_lt (by simp only [Slice.InBounds, parsedOf, Ptr.rest_add, List.length_drop]; omega) counted]
  simp only [parsedOf, Ptr.rest_add, byteAt_drop, oracleIdx]

/-- The loop passes the signatures whose keys are the queue's, and does not come
    back from another one. -/
theorem check_keys_cases (queue : QueueAccountData) (data : SafeSlice) (header : HeaderOk data.toSlice) {todo i : Nat}
    (upTo : i + todo = sigCount data.toSlice) :
    let loop := check_keys queue (signatureRefs data.ptr (sigCount data.toSlice)) (parsedOf data.toSlice).oracle_idxs
      todo i
    let good := ∀ j, i ≤ j → j < sigCount data.toSlice →
      Holds data.ptr.rest (recordAt data.ptr.rest j).public_key_offset (expectedKey queue data.toSlice j)
    loop = .ok () ∧ good ∨ ¬ loop.Returns ∧ ¬ good := by
  have few := header.2.2.1
  induction todo generalizing i with
  | zero => exact .inl ⟨rfl, fun j low high => by omega⟩
  | succ todo ih =>
    have idx : ((parsedOf data.toSlice).oracle_idxs.index i : Exec AnyError _) = .ok (oracleIdx data.toSlice i) :=
      index_oracle_idxs data header (by omega)
    have key : Same32 (data.ptr.add (recordAt data.ptr.rest i).public_key_offset)
        (addrOf (expectedKey queue data.toSlice i).val) ↔ _ := same32_add_iff _ _ _
    simp only [check_keys, signing_key_at, idx, Exec.ok_bind,
      sig_at_signatureRefs data.ptr (show i < _ by omega) few, signature_ref, ← expectedKey.eq_def]
    by_cases holds : Holds data.ptr.rest (recordAt data.ptr.rest i).public_key_offset (expectedKey queue data.toSlice i)
    · rw [(assert_p64_eq_ok_iff (u := ()) _ _ _).mpr (key.mpr holds), Exec.ok_bind]
      rcases ih (show i + 1 + todo = _ by omega) with ⟨done, good⟩ | ⟨stuck, bad⟩
      · refine .inl ⟨done, ?_⟩
        intro j low high
        rcases Nat.eq_or_lt_of_le low with rfl | more
        · exact holds
        · exact good j more high
      · exact .inr ⟨stuck, fun good => bad fun j low high => good j (by omega) high⟩
    · refine .inr ⟨fun returns => holds ?_, fun good => holds (good i (Nat.le_refl i) (by omega))⟩
      exact key.mp ((assert_p64_eq_returns_iff _ _ _).mp (Exec.returns_bind.mp returns).1)

theorem check_keys_ok_iff (queue : QueueAccountData) (data : SafeSlice) (header : HeaderOk data.toSlice) {u : Unit} :
    check_keys queue (signatureRefs data.ptr (sigCount data.toSlice)) (parsedOf data.toSlice).oracle_idxs
      (sigCount data.toSlice) 0 = .ok u ↔ KeysHold queue data.toSlice := by
  rcases check_keys_cases queue data header (Nat.zero_add _) with ⟨done, good⟩ | ⟨stuck, bad⟩
  · exact ⟨fun _ i => good i (Nat.zero_le i), fun _ => done⟩
  · exact ⟨fun done => absurd (by rw [done]; trivial) stuck, fun keys => absurd (fun j _ => keys j) bad⟩

theorem check_keys_returns_iff (queue : QueueAccountData) (data : SafeSlice) (header : HeaderOk data.toSlice) :
    (check_keys queue (signatureRefs data.ptr (sigCount data.toSlice)) (parsedOf data.toSlice).oracle_idxs
      (sigCount data.toSlice) 0).Returns ↔ KeysHold queue data.toSlice := by
  rcases check_keys_cases queue data header (Nat.zero_add _) with ⟨done, good⟩ | ⟨stuck, bad⟩
  · exact ⟨fun _ i => good i (Nat.zero_le i), fun _ => by rw [done]; trivial⟩
  · exact ⟨fun returns => absurd returns stuck, fun keys => absurd (fun j _ => keys j) bad⟩

/-! ### The whole verification -/

theorem first_sig (data : Slice) (header : HeaderOk data) :
    (parsedOf data).parsed_sigs[0] =
      signature_ref data.ptr (recordAt data.ptr.rest 0) (recordAt data.ptr.rest 0) := by
  have some : 0 < sigCount data := header.2.1
  simp [parsedOf, signatureRefs, some]

theorem header_same32_iff (data : Slice) (header : HeaderOk data) (hash : FixedBytes 32) :
    Same32 (addrOf hash.val) (parsedOf data).parsed_sigs[0].bundle_header ↔ HeaderHolds data hash := by
  rw [first_sig data header, same32_comm]
  exact same32_add_iff _ _ _

theorem quoteOf_eq (data : Slice) (header : HeaderOk data) :
    { quote_header_refs := (parsedOf data).parsed_sigs[0].bundle_header
      oracle_count := (parsedOf data).sig_count
      packed_feed_infos := ⟨(parsedOf data).parsed_sigs[0].feed_infos, (parsedOf data).parsed_sigs[0].feed_count⟩
      feed_count := (parsedOf data).parsed_sigs[0].feed_count % 256
      oracle_idxs := (parsedOf data).oracle_idxs
      recent_slot := (parsedOf data).recent_slot
      version := (parsedOf data).version
      raw_buffer := some data } = quoteOf data := by
  rw [first_sig data header]
  rfl

theorem verify_parsed_ok_iff (checks : OverflowChecks) (queue : QueueAccountData) (sysvar : AccountInfo)
    (data : SafeSlice) (header : HeaderOk data.toSlice) (quote : OracleQuote) :
    verify_parsed checks queue sysvar (parsedOf data.toSlice) data.toSlice = .ok quote ↔
      ∃ hash, find_slothash_in_sysvar checks (recentSlot data.toSlice) sysvar = .ok hash ∧
        HeaderHolds data.toSlice hash ∧ KeysHold queue data.toSlice ∧ quote = quoteOf data.toSlice := by
  simp only [verify_parsed, Exec.bind_eq_ok, assert_p64_eq_ok_iff, header_same32_iff data.toSlice header, exists_const,
    Exec.pure_eq, Exec.ok.injEq, quoteOf_eq data.toSlice header]
  refine exists_congr fun hash => and_congr_right fun _ => and_congr_right fun _ => ?_
  constructor
  · rintro ⟨_, passed, same⟩
    exact ⟨(check_keys_ok_iff queue data header).mp passed, same.symm⟩
  · rintro ⟨keys, same⟩
    exact ⟨(), (check_keys_ok_iff queue data header).mpr keys, same.symm⟩

theorem verify_parsed_returns_iff (checks : OverflowChecks) (queue : QueueAccountData) (sysvar : AccountInfo)
    (data : SafeSlice) (header : HeaderOk data.toSlice) :
    (verify_parsed checks queue sysvar (parsedOf data.toSlice) data.toSlice).Returns ↔
      (find_slothash_in_sysvar checks (recentSlot data.toSlice) sysvar).Returns ∧
        ∀ hash, find_slothash_in_sysvar checks (recentSlot data.toSlice) sysvar = .ok hash →
          HeaderHolds data.toSlice hash ∧ KeysHold queue data.toSlice := by
  simp only [verify_parsed, Exec.returns_bind, assert_p64_eq_returns_iff, assert_p64_eq_ok_iff,
    header_same32_iff data.toSlice header, Exec.pure_eq, Exec.returns_ok, implies_true, and_true]
  refine and_congr_right fun _ => forall_congr' fun hash => imp_congr_right fun _ => ?_
  constructor
  · rintro ⟨same, rest⟩
    exact ⟨same, (check_keys_returns_iff queue data header).mp (rest () same)⟩
  · rintro ⟨same, keys⟩
    exact ⟨same, fun _ _ => (check_keys_returns_iff queue data header).mpr keys⟩

/-- The data of a verifier's run: `verify` gives a quote exactly when the data is
    accepted, fresh, signed over the hash that the sysvar has for its slot, and
    signed with the keys of the queue. -/
theorem verify_ok_iff (checks : OverflowChecks) (self : QuoteVerifier) (data : SafeSlice) (quote : OracleQuote) :
    verify checks self data.toSlice = .ok quote ↔
      (∃ queue sysvar clock hash, Verifies checks self data.toSlice queue sysvar clock hash) ∧
        quote = quoteOf data.toSlice := by
  simp only [verify, Exec.bind_eq_ok, parse_instruction_ok_iff, Exec.okOr_eq_ok, Exec.bailIf_eq_ok, exists_const]
  constructor
  · rintro ⟨parsed, ⟨accepted, rfl⟩, account, queueSet, sysvar, sysvarSet, clock, clockSet, fresh, _, large, done⟩
    obtain ⟨slotLe, young⟩ := not_or.mp fresh
    split at done
    · rename_i queue isQueue
      obtain ⟨hash, found, header, keys, rfl⟩ :=
        (verify_parsed_ok_iff checks queue sysvar data accepted.header quote).mp done
      exact ⟨⟨queue, sysvar, clock, hash, accepted, ⟨account, queueSet, Nat.not_lt.mp large, isQueue⟩, sysvarSet,
        clockSet, ⟨UInt64.not_lt.mp slotLe, UInt64.not_lt.mp young⟩, found, header, keys⟩, rfl⟩
    · cases done
  · rintro ⟨⟨queue, sysvar, clock, hash, verifies⟩, rfl⟩
    obtain ⟨account, queueSet, large, isQueue⟩ := verifies.queueSet
    refine ⟨_, ⟨verifies.accepted, rfl⟩, account, queueSet, sysvar, verifies.sysvarSet, clock, verifies.clockSet,
      not_or.mpr ⟨UInt64.not_lt.mpr verifies.fresh.1, UInt64.not_lt.mpr verifies.fresh.2⟩, ?_, Nat.not_lt.mpr large, ?_⟩
    · exact Nat.ne_of_gt verifies.accepted.header.2.1
    · rw [isQueue]
      exact (verify_parsed_ok_iff checks queue sysvar data verifies.accepted.header _).mpr
        ⟨hash, verifies.found, verifies.header, verifies.keys, rfl⟩

theorem verify_odd (checks : OverflowChecks) (self : QuoteVerifier) {data : SafeSlice}
    (odd : ¬ EvenAddress data.toSlice) (header : HeaderOk data.toSlice) : verify checks self data.toSlice = .fault := by
  rw [verify, parse_instruction_odd odd header]
  rfl

/-- On accepted data, with its accounts set, `verify` gives an error for an unset
    clock and for a stale quote, and else goes on to the second half. -/
theorem verify_accepted_returns_iff (checks : OverflowChecks) (self : QuoteVerifier) (data : SafeSlice)
    (queue : QueueAccount) (sysvar : AccountInfo) (queueSet : self.queue = some queue.account)
    (sysvarSet : self.slothash_sysvar = some sysvar) (accepted : Accepted data.toSlice) :
    (verify checks self data.toSlice).Returns ↔
      ∀ clock, self.clock_slot = some clock → Fresh self clock (recentSlot data.toSlice) →
        (verify_parsed checks queue.queue sysvar (parsedOf data.toSlice) data.toSlice).Returns := by
  have parsed := (parse_instruction_ok_iff data _).mpr ⟨accepted, rfl⟩
  have some : ¬ (parsedOf data.toSlice).sig_count = 0 := Nat.ne_of_gt accepted.header.2.1
  have large : ¬ queue.account.data.length < 6280 := by rw [queue.size]; decide
  have queueOk : Exec.okOr "Queue account not set" self.queue = .ok queue.account := Exec.okOr_eq_ok.mpr queueSet
  have sysvarOk : Exec.okOr "Slothash sysvar not set" self.slothash_sysvar = .ok sysvar := Exec.okOr_eq_ok.mpr sysvarSet
  simp only [verify, parsed, Exec.ok_bind, queueOk, sysvarOk, Exec.bailIf_false _ some, Exec.bailIf_false _ large,
    queue.try_from_bytes_eq, Exec.returns_bind, Exec.returns_okOr, Exec.returns_bailIf, Exec.okOr_eq_ok,
    Exec.bailIf_eq_ok, true_and, forall_const]
  refine forall_congr' fun clock => imp_congr_right fun _ => imp_congr_left ?_
  rw [not_or, UInt64.not_lt, gt_iff_lt, UInt64.not_lt]
  rfl

/-- When `verify` comes back to its caller, for a queue of the right size and a
    full slot-hashes sysvar. -/
inductive ComesBack (checks : OverflowChecks) (verifier : QuoteVerifier) (queue : QueueAccountData)
    (sysvar : SlotHashesSysvar) (data : Slice) : Prop where
  | rejected (malformed : Rejected data)
  | accepted (wellFormed : Accepted data)
      (matching : ∀ clock, verifier.clock_slot = some clock → Fresh verifier clock (recentSlot data) →
        (checks = .on → recentSlot data ≤ firstSlot sysvar) ∧
        ∀ i, StopsAt sysvar (recentSlot data) (estimate sysvar (recentSlot data)) i →
          HeaderHolds data (entry sysvar i).hash ∧ KeysHold queue data)

/-- `verify` comes back on malformed data, and on accepted data when the clock
    turns it down or its slot is not newer than the sysvar and its hash and keys
    are those of the sysvar and the queue. -/
theorem verify_returns_iff (checks : OverflowChecks) (self : QuoteVerifier) (data : SafeSlice) (queue : QueueAccount)
    (sysvar : SlotHashesSysvar) (queueSet : self.queue = some queue.account)
    (sysvarSet : self.slothash_sysvar = some sysvar.account) :
    (verify checks self data.toSlice).Returns ↔ ComesBack checks self queue.queue sysvar data.toSlice := by
  have second : Accepted data.toSlice →
      ((verify_parsed checks queue.queue sysvar.account (parsedOf data.toSlice) data.toSlice).Returns ↔
        (checks = .on → recentSlot data.toSlice ≤ firstSlot sysvar) ∧
          ∀ i, StopsAt sysvar (recentSlot data.toSlice) (estimate sysvar (recentSlot data.toSlice)) i →
            HeaderHolds data.toSlice (entry sysvar i).hash ∧ KeysHold queue.queue data.toSlice) := by
    intro accepted
    rw [verify_parsed_returns_iff checks queue.queue sysvar.account data accepted.header, find_slothash_returns_iff]
    refine and_congr_right fun low => ⟨fun found i stops => ?_, fun stops hash found => ?_⟩
    · exact found _ ((find_slothash_ok_iff sysvar checks _ _).mpr ⟨low, i, stops, rfl⟩)
    · obtain ⟨_, i, stopsAt, rfl⟩ := (find_slothash_ok_iff sysvar checks _ _).mp found
      exact stops i stopsAt
  constructor
  · intro returns
    have parsed := returns
    rw [verify, Exec.returns_bind] at parsed
    rcases (parse_instruction_returns_iff data).mp parsed.1 with accepted | rejected
    · refine .accepted accepted fun clock clockSet fresh => (second accepted).mp ?_
      exact (verify_accepted_returns_iff checks self data queue _ queueSet sysvarSet accepted).mp returns clock clockSet
        fresh
    · exact .rejected rejected
  · rintro (rejected | ⟨accepted, matching⟩)
    · obtain ⟨error, answer⟩ := (parse_instruction_err_iff data).mpr rejected
      rw [verify, answer]
      trivial
    · refine (verify_accepted_returns_iff checks self data queue _ queueSet sysvarSet accepted).mpr ?_
      exact fun clock clockSet fresh => (second accepted).mpr (matching clock clockSet fresh)

/-! ### Data in an account -/

def heldLength (account : AccountInfo) : Nat := leNat (window account.data 8 2)

def heldData (account : AccountInfo) : Slice := ⟨(addrOf account.data).add 10, heldLength account⟩

/-- Stored data lies at an even address, behind ten bytes of its account. -/
theorem evenAddress_heldData (account : AccountInfo) : EvenAddress (heldData account) :=
  (Ptr.aligned_add (by decide)).mpr (evenAddress_of account.data)

theorem heldData_inBounds {account : AccountInfo} (fits : 10 + heldLength account ≤ account.data.length) :
    (heldData account).InBounds := by
  simp only [Slice.InBounds, heldData, Ptr.rest_add, addrOf_rest, List.length_drop]
  omega

private theorem discriminator_iff {account : AccountInfo} (large : 8 ≤ account.data.length) :
    leU64 (window account.data 0 8) ≠ QUOTE_DISCRIMINATOR_U64_LE ↔ window account.data 0 8 ≠ QUOTE_DISCRIMINATOR := by
  refine not_congr ⟨fun same => ?_, fun same => by rw [same]; rfl⟩
  exact leU64_injective (length_window_of_le (by omega)) rfl same

theorem verify_account_small {checks : OverflowChecks} {self : QuoteVerifier} {account : AccountInfo}
    (small : account.data.length < 8) : ∃ error, verify_account checks self account = .err error :=
  ⟨_, by rw [verify_account, Exec.bailIf_true _ (by rwa [Slice.of_len]), Exec.err_bind]⟩

theorem verify_account_large {checks : OverflowChecks} {self : QuoteVerifier} {account : AccountInfo}
    (large : 8 ≤ account.data.length) :
    verify_account checks self account =
      if window account.data 0 8 ≠ QUOTE_DISCRIMINATOR then .err "Invalid oracle account discriminator"
      else verify_delimited checks self ⟨(addrOf account.data).add 8, account.data.length - 8⟩ := by
  have start : ((Slice.of account.data).ptr.read_u64 : Exec AnyError _) = .ok (leU64 (window account.data 0 8)) := by
    rw [← Ptr.add_zero (Slice.of account.data).ptr, Ptr.read_u64_add (by rw [Slice.of_ptr_rest]; omega)]
    rfl
  rw [verify_account, Exec.bailIf_false _ (by rw [Slice.of_len]; omega), Exec.ok_bind, start, Exec.ok_bind]
  by_cases wrong : window account.data 0 8 ≠ QUOTE_DISCRIMINATOR
  · rw [if_pos wrong, Exec.bailIf_true _ ((discriminator_iff large).mpr wrong), Exec.err_bind]
  · rw [if_neg wrong, Exec.bailIf_false _ (fun other => wrong ((discriminator_iff large).mp other)), Exec.ok_bind,
      Slice.sliceFrom_of_le (by rw [Slice.of_len]; omega), Exec.ok_bind]
    rfl

/-- A length that fits into the account gives its data to `verify`. -/
theorem verify_delimited_fits {checks : OverflowChecks} {self : QuoteVerifier} {account : AccountInfo}
    (fits : 10 + heldLength account ≤ account.data.length) :
    verify_delimited checks self ⟨(addrOf account.data).add 8, account.data.length - 8⟩ =
      verify checks self (heldData account) := by
  have length : (((addrOf account.data).add 8).read_u16 : Exec AnyError _) = .ok (heldLength account) :=
    Ptr.read_u16_add (by rw [addrOf_rest]; omega)
  simp only [verify_delimited, length, Exec.ok_bind]
  rw [Slice.sliceRange_of_le (by omega) (by simp only; omega), Exec.ok_bind, Ptr.add_add, Nat.add_sub_cancel, heldData]

/-- Without two bytes for the length, or with too great a length, the call does
    not come back. -/
theorem verify_delimited_short {checks : OverflowChecks} {self : QuoteVerifier} {account : AccountInfo}
    (short : ¬ (10 ≤ account.data.length ∧ 10 + heldLength account ≤ account.data.length)) :
    ¬ (verify_delimited checks self ⟨(addrOf account.data).add 8, account.data.length - 8⟩).Returns := by
  by_cases two : 10 ≤ account.data.length
  · have length : (((addrOf account.data).add 8).read_u16 : Exec AnyError _) = .ok (heldLength account) :=
      Ptr.read_u16_add (by rw [addrOf_rest]; omega)
    have outside : ¬ heldLength account + 2 ≤ account.data.length - 8 := by omega
    simp only [verify_delimited, length, Exec.ok_bind, Slice.sliceRange, Exec.assert_true _ (Nat.le_add_left 2 _),
      Exec.assert_false _ outside, Exec.panic_bind]
    exact id
  · have missing : (((addrOf account.data).add 8).read_u16 : Exec AnyError _) = .fault := by
      rw [Ptr.read_u16, Ptr.read_add_outside (by rw [addrOf_rest]; omega) (by decide), Exec.map_fault]
    simp only [verify_delimited, missing, Exec.fault_bind]
    exact id

/-! ### Data in an instruction -/

/-- The first record names an instruction for its signature, key and message. -/
theorem firstRecordNames_iff (data : Bytes) (idx : Nat) :
    FirstRecordNames data idx ↔ (recordAt data 0).signature_instruction_index = idx ∧
      (recordAt data 0).public_key_instruction_index = idx ∧ (recordAt data 0).message_instruction_index = idx := by
  simp only [FirstRecordNames, recordAt, Ed25519SignatureOffsets.ofBytes, window_window (show 2 + 2 ≤ 14 by decide),
    window_window (show 6 + 2 ≤ 14 by decide), window_window (show 12 + 2 ≤ 14 by decide), Nat.mul_zero, Nat.reduceAdd]

theorem verify_instruction_at_eq {checks : OverflowChecks} {self : QuoteVerifier} {ix_sysvar : AccountInfo}
    {instruction_idx : Int64} {source : Slice} (ixSet : self.ix_sysvar = some ix_sysvar)
    (found : (extract_ix_data ix_sysvar instruction_idx.toUInt64.toNat : Exec AnyError _) = .ok source) :
    verify_instruction_at checks self instruction_idx = verify checks self source := by
  rw [verify_instruction_at, ixSet, Exec.okOr, Exec.ok_bind, found, Exec.ok_bind]

end SwitchboardOnDemand.Verifier
