import SwitchboardOnDemand.Authenticity
import SwitchboardOnDemand.StoreRoundTrip

/-!
# Bundles of several oracles

A bundle is signed by one to eight oracles, each with its own key, signature and
index. Gateways write bundles, programs only read them; the layout here is one
that programs read. Its data is accepted at any even address, for what it says
(`verify_bundle`), and exactly when the part of each oracle alone is (`accepts_each`).
A transaction publishes it when it has it at such an address and the native
program verifies all signatures (`publish_bundle`), and an account of the right
size stores it (`store_bundle`).
-/

namespace SwitchboardOnDemand.Bundles
open Rust SwitchboardOnDemand.Utils SwitchboardOnDemand.FeedInfo SwitchboardOnDemand.SlotSearch
open SwitchboardOnDemand.Ed25519Sysvar SwitchboardOnDemand.Quote SwitchboardOnDemand.Queue
open SwitchboardOnDemand.SlothashSysvar SwitchboardOnDemand.IxSysvar SwitchboardOnDemand.Verifier
open SwitchboardOnDemand.QuoteStore SwitchboardOnDemand.Placement SwitchboardOnDemand.StoredPath
open SwitchboardOnDemand.Authenticity
open SwitchboardOnDemand.Encoding (oracleKey oracleSignature signedQuote zeroOnce find_signedSlot)

variable {ε : Type}

/-- The part of one oracle. -/
structure Signer where
  key : Pubkey
  signature : FixedBytes 64
  idx : UInt8

def Signer.toBytes (signer : Signer) : Bytes := signer.key.val ++ signer.signature.val

/-- A message with the parts of its oracles, for the instruction with a number. -/
structure Bundle where
  instruction : Nat
  hash : FixedBytes 32
  feeds : List PackedFeedInfo
  signers : List Signer
  slot : UInt64
  version : UInt8
  narrow : instruction < 65536
  few : feeds.length ≤ 8
  someSigner : 1 ≤ signers.length
  fewSigners : signers.length ≤ 8

namespace Bundle

variable (self : Bundle)

def message : Bytes := self.hash.val ++ (self.feeds.map PackedFeedInfo.toBytes).flatten

def messageAt : Nat := 2 + 14 * self.signers.length
def partsAt : Nat := self.messageAt + self.message.length
def idxsAt : Nat := self.partsAt + 96 * self.signers.length

/-- The record of the signer with number `i`. -/
def offsets (i : Nat) : Ed25519SignatureOffsets :=
  ⟨self.partsAt + 96 * i + 32, self.instruction, self.partsAt + 96 * i, self.instruction, self.messageAt,
    self.message.length, self.instruction⟩

def count : Bytes := [UInt8.ofNat self.signers.length, 0]
def records : Bytes := ((List.range self.signers.length).map fun i => (self.offsets i).toBytes).flatten
def parts : Bytes := (self.signers.map Signer.toBytes).flatten
def idxs : Bytes := self.signers.map Signer.idx

/-- `SBOD`. -/
def discriminator : Bytes := [83, 66, 79, 68]

/-- Count, records, message, keys with signatures, indexes, slot, version and
    discriminator. -/
def data : Bytes :=
  self.count ++ self.records ++ self.message ++ self.parts ++ self.idxs ++ leBytes 8 self.slot.toNat ++
    [self.version] ++ discriminator

/-- What a quote of the bundle says. -/
def view : QuoteView where
  header := ⟨self.hash⟩
  feeds := self.feeds
  oracle_count := self.signers.length
  oracle_idxs := self.idxs
  recent_slot := self.slot
  version := self.version
  raw_data := some self.data

/-! ### Where its parts lie -/

theorem each_feed (feeds : List PackedFeedInfo) : ∀ chunk ∈ feeds.map PackedFeedInfo.toBytes, chunk.length = 49 := by
  simp

theorem each_record : ∀ chunk ∈ (List.range self.signers.length).map fun i => (self.offsets i).toBytes,
    chunk.length = 14 := by
  simp [Ed25519SignatureOffsets.length_toBytes]

theorem each_part : ∀ chunk ∈ self.signers.map Signer.toBytes, chunk.length = 96 := by
  simp only [List.mem_map]
  rintro chunk ⟨signer, _, rfl⟩
  rw [Signer.toBytes, List.length_append, signer.key.property, signer.signature.property]

theorem length_message : self.message.length = 32 + 49 * self.feeds.length := by
  simp [message, self.hash.property, length_flatten (each_feed self.feeds)]

@[simp] theorem length_records : self.records.length = 14 * self.signers.length := by
  simp [records, length_flatten self.each_record]

@[simp] theorem length_parts : self.parts.length = 96 * self.signers.length := by
  simp [parts, length_flatten self.each_part]

@[simp] theorem length_idxs : self.idxs.length = self.signers.length := by
  simp [idxs]

theorem length_data : self.data.length = self.idxsAt + self.signers.length + 13 := by
  simp only [data, List.length_append, count, length_records, length_parts, length_idxs, length_leBytes, discriminator,
    List.length_cons, List.length_nil, idxsAt, partsAt, messageAt]

/-- Each signer takes 111 bytes and each feed 49. -/
theorem length_data_eq : self.data.length = 47 + 111 * self.signers.length + 49 * self.feeds.length := by
  rw [length_data, idxsAt, partsAt, messageAt, length_message]
  omega

theorem narrow_offsets {i : Nat} (counted : i < self.signers.length) : ∀ n ∈ (self.offsets i).fields, n < 65536 := by
  have narrow := self.narrow
  have few := self.few
  have fewSigners := self.fewSigners
  simp only [Ed25519SignatureOffsets.fields, offsets, partsAt, messageAt, length_message, List.mem_cons,
    List.not_mem_nil, or_false]
  rintro n (rfl | rfl | rfl | rfl | rfl | rfl | rfl) <;> omega

theorem window_records : window self.data 2 (14 * self.signers.length) = self.records := by
  have split : self.data = self.count ++ self.records ++ (self.message ++ self.parts ++ self.idxs ++
      leBytes 8 self.slot.toNat ++ [self.version] ++ discriminator) := by
    simp only [data, List.append_assoc]
  rw [split]
  exact window_middle rfl self.length_records

theorem window_message : window self.data self.messageAt self.message.length = self.message := by
  have split : self.data = (self.count ++ self.records) ++ self.message ++ (self.parts ++ self.idxs ++
      leBytes 8 self.slot.toNat ++ [self.version] ++ discriminator) := by
    simp only [data, List.append_assoc]
  rw [split]
  exact window_middle (by simp [count, messageAt]; omega) rfl

theorem window_parts : window self.data self.partsAt (96 * self.signers.length) = self.parts := by
  have split : self.data = (self.count ++ self.records ++ self.message) ++ self.parts ++ (self.idxs ++
      leBytes 8 self.slot.toNat ++ [self.version] ++ discriminator) := by
    simp only [data, List.append_assoc]
  rw [split]
  exact window_middle (by simp [count, partsAt, messageAt]; omega) self.length_parts

theorem window_idxs : window self.data self.idxsAt self.signers.length = self.idxs := by
  have split : self.data = (self.count ++ self.records ++ self.message ++ self.parts) ++ self.idxs ++
      (leBytes 8 self.slot.toNat ++ [self.version] ++ discriminator) := by
    simp only [data, List.append_assoc]
  rw [split]
  exact window_middle (by simp [count, idxsAt, partsAt, messageAt]; omega) self.length_idxs

theorem window_slot : window self.data (self.data.length - 13) 8 = leBytes 8 self.slot.toNat := by
  have split : self.data = (self.count ++ self.records ++ self.message ++ self.parts ++ self.idxs) ++
      leBytes 8 self.slot.toNat ++ ([self.version] ++ discriminator) := by
    simp only [data, List.append_assoc]
  have front : (self.count ++ self.records ++ self.message ++ self.parts ++ self.idxs).length =
      self.data.length - 13 := by
    rw [length_data]
    simp [count, idxsAt, partsAt, messageAt]
    omega
  rw [← front, split]
  exact window_middle rfl (length_leBytes 8 _)

theorem byteAt_version : byteAt self.data (self.data.length - 5) = self.version := by
  have split : self.data = (self.count ++ self.records ++ self.message ++ self.parts ++ self.idxs ++
      leBytes 8 self.slot.toNat) ++ ([self.version] ++ discriminator) := by
    simp only [data, List.append_assoc]
  have front : (self.count ++ self.records ++ self.message ++ self.parts ++ self.idxs ++
      leBytes 8 self.slot.toNat).length = self.data.length - 5 := by
    rw [length_data]
    simp [count, idxsAt, partsAt, messageAt]
    omega
  rw [← front, split, byteAt, List.getElem?_append_right le_rfl, Nat.sub_self]
  rfl

theorem sigCount_data : (byteAt self.data 0).toNat = self.signers.length := by
  have few := self.fewSigners
  have first : byteAt self.data 0 = UInt8.ofNat self.signers.length := by simp [data, count, byteAt]
  rw [first, UInt8.toNat_ofNat']
  omega

theorem recordAt_data {i : Nat} (counted : i < self.signers.length) : recordAt self.data i = self.offsets i := by
  have chunk : window self.records (14 * i) 14 = (self.offsets i).toBytes := by
    rw [records, window_flatten self.each_record (by simpa using counted)]
    simp
  rw [recordAt, ← window_window (show 14 * i + 14 ≤ 14 * self.signers.length by omega), window_records, chunk,
    Ed25519SignatureOffsets.ofBytes_toBytes _ (self.narrow_offsets counted)]

theorem window_part {i : Nat} (counted : i < self.signers.length) :
    window self.data (self.partsAt + 96 * i) 96 = self.signers[i].toBytes := by
  rw [← window_window (show 96 * i + 96 ≤ 96 * self.signers.length by omega), window_parts, parts,
    window_flatten self.each_part (by simpa using counted), List.getElem_map]

theorem window_key {i : Nat} (counted : i < self.signers.length) :
    window self.data (self.partsAt + 96 * i) 32 = self.signers[i].key.val := by
  have inPart : window self.signers[i].toBytes 0 32 = self.signers[i].key.val := by
    rw [Signer.toBytes, window_append_left self.signers[i].key.property.ge, window_full self.signers[i].key.property]
  rw [← inPart, ← self.window_part counted, window_window (by decide), Nat.add_zero]

theorem window_signature {i : Nat} (counted : i < self.signers.length) :
    window self.data (self.partsAt + 96 * i + 32) 64 = self.signers[i].signature.val := by
  have key := self.signers[i].key.property
  have inPart : window self.signers[i].toBytes 32 64 = self.signers[i].signature.val := by
    rw [Signer.toBytes, window_append_right key.le, key, Nat.sub_self, window_full self.signers[i].signature.property]
  rw [← inPart, ← self.window_part counted, window_window (by decide)]

theorem byteAt_idx {i : Nat} (counted : i < self.signers.length) :
    byteAt self.data (self.idxsAt + i) = self.signers[i].idx := by
  have inIdxs : byteAt self.idxs i = self.signers[i].idx := by
    rw [byteAt_of_lt (by simpa using counted)]
    simp [idxs]
  rw [← inIdxs, ← self.window_idxs, window, byteAt_take counted, byteAt_drop]

theorem window_hash : window self.data self.messageAt 32 = self.hash.val := by
  have long := self.length_message
  have inMessage : window self.message 0 32 = self.hash.val := by
    rw [message, window_append_left self.hash.property.ge, window_full self.hash.property]
  rw [← inMessage, ← self.window_message, window_window (by omega), Nat.add_zero]

/-! ### What the parser and the verifier make of it -/

theorem headerOk : HeaderOk (Slice.of self.data) := by
  have long := self.length_data
  have some := self.someSigner
  have few := self.fewSigners
  have count : sigCount (Slice.of self.data) = self.signers.length := self.sigCount_data
  rw [HeaderOk, count, Slice.of_len]
  omega

theorem offsetsInside : OffsetsInside self.data := by
  have long := self.length_data
  have size := self.length_message
  rw [OffsetsInside, self.sigCount_data]
  refine ⟨by unfold idxsAt partsAt messageAt at long; omega, ?_⟩
  intro i counted
  rw [self.recordAt_data counted]
  simp only [offsets, idxsAt, partsAt] at long ⊢
  omega

theorem accepted : Accepted (Slice.of self.data) := by
  have count : sigCount (Slice.of self.data) = self.signers.length := self.sigCount_data
  have first : recordAt self.data 0 = self.offsets 0 := self.recordAt_data self.someSigner
  refine ⟨evenAddress_of _, self.headerOk, ?_, ?_, ?_⟩
  · intro i counted
    obtain ⟨records, _⟩ := self.offsetsInside
    rw [self.sigCount_data] at records
    rw [count] at counted
    rw [Slice.of_ptr_rest, Readable]
    omega
  · rw [Slice.of_ptr_rest, first]
    exact ⟨self.feeds.length, self.few, self.length_message⟩
  · intro i _ counted
    rw [count] at counted
    rw [Slice.of_ptr_rest, first, self.recordAt_data counted]
    exact ⟨rfl, rfl, rfl, rfl, rfl⟩

theorem recentSlot_data : recentSlot (Slice.of self.data) = self.slot := by
  rw [recentSlot, Slice.of_ptr_rest, Slice.of_len, self.window_slot, leU64_leBytes]

theorem backSlot_data : backSlot self.data = self.slot := self.recentSlot_data

theorem oracleIdx_data {i : Nat} (counted : i < self.signers.length) :
    oracleIdx (Slice.of self.data) i = self.signers[i].idx := by
  have long := self.length_data
  have count : sigCount (Slice.of self.data) = self.signers.length := self.sigCount_data
  have start : self.data.length - self.signers.length - 13 + i = self.idxsAt + i := by omega
  rw [oracleIdx, count, Slice.of_ptr_rest, Slice.of_len, start, self.byteAt_idx counted]

/-- Its message starts with one hash. -/
theorem headerHolds_iff (hash : FixedBytes 32) : HeaderHolds (Slice.of self.data) hash ↔ hash = self.hash := by
  have long := self.length_data
  have size := self.length_message
  have inside : self.messageAt + 32 ≤ self.data.length := by
    unfold idxsAt partsAt at long
    omega
  rw [HeaderHolds, Holds, Slice.of_ptr_rest, self.recordAt_data self.someSigner]
  simp only [offsets, self.window_hash, inside, true_and]
  exact ⟨fun same => Subtype.ext same.symm, fun same => by rw [same]⟩

/-- The queue has the key of each signer at its index. -/
theorem keysHold_iff (queue : QueueAccountData) :
    KeysHold queue (Slice.of self.data) ↔ ∀ signer ∈ self.signers, signing_key_at queue signer.idx = signer.key := by
  have long := self.length_data
  have count : sigCount (Slice.of self.data) = self.signers.length := self.sigCount_data
  have here : ∀ i, (counted : i < self.signers.length) →
      (Holds self.data (recordAt self.data i).public_key_offset (expectedKey queue (Slice.of self.data) i) ↔
        signing_key_at queue self.signers[i].idx = self.signers[i].key) := by
    intro i counted
    have inside : self.partsAt + 96 * i + 32 ≤ self.data.length := by
      unfold idxsAt at long
      omega
    have expected : expectedKey queue (Slice.of self.data) i = signing_key_at queue self.signers[i].idx := by
      rw [← self.oracleIdx_data counted]
      rfl
    rw [Holds, self.recordAt_data counted, expected]
    simp only [offsets, self.window_key counted, inside, true_and]
    exact ⟨fun same => Subtype.ext same.symm, fun same => by rw [same]⟩
  rw [KeysHold, count, List.forall_mem_iff_forall_getElem]
  exact forall₂_congr here

/-- The feeds are read back. -/
theorem read_feeds_data :
    (read_feeds ((addrOf self.data).add (self.messageAt + 32)) self.feeds.length : Exec ε _) = .ok self.feeds := by
  have long := self.length_data
  have size := self.length_message
  have fits : 49 * self.feeds.length ≤ ((addrOf self.data).add (self.messageAt + 32)).rest.length := by
    rw [Ptr.rest_add, addrOf_rest, List.length_drop]
    unfold idxsAt partsAt at long
    omega
  obtain ⟨feeds, read⟩ : ∃ feeds, (read_feeds _ self.feeds.length : Exec ε _) = .ok feeds := read_feeds_of_le fits
  obtain ⟨length, _, bytes⟩ := read_feeds_bytes read
  have inMessage : window self.message 32 (49 * self.feeds.length) =
      (self.feeds.map PackedFeedInfo.toBytes).flatten := by
    have hash := self.hash.property
    rw [message, window_append_right hash.le, hash, Nat.sub_self,
      window_full (by rw [length_flatten (each_feed self.feeds), List.length_map])]
  have same : (feeds.map PackedFeedInfo.toBytes).flatten = (self.feeds.map PackedFeedInfo.toBytes).flatten := by
    rw [bytes, Ptr.rest_add, addrOf_rest, window_drop, ← inMessage, ← self.window_message, window_window (by omega)]
  rw [read]
  refine congrArg Exec.ok (List.ext_getElem length fun i insideA insideB => ?_)
  have chunkA := window_flatten (each_feed feeds) (i := i) (by simpa using insideA)
  have chunkB := window_flatten (each_feed self.feeds) (i := i) (by simpa using insideB)
  rw [List.getElem_map] at chunkA chunkB
  have bytes : feeds[i].toBytes = self.feeds[i].toBytes := by rw [← chunkA, same, chunkB]
  rw [← PackedFeedInfo.ofBytes_toBytes feeds[i], ← PackedFeedInfo.ofBytes_toBytes self.feeds[i]]
  exact congrArg PackedFeedInfo.ofBytes (Subtype.ext bytes)

/-- A quote of the bundle says what the bundle says. -/
theorem viewFrom_data : (viewFrom self.data : Exec ε _) = .ok self.view := by
  have long := self.length_data
  have size := self.length_message
  have first : recordAt self.data 0 = self.offsets 0 := self.recordAt_data self.someSigner
  have feedCount : (self.message.length - HEADER_SIZE) / PACKED_SIZE = self.feeds.length := by
    unfold HEADER_SIZE PACKED_SIZE
    omega
  have header : (((addrOf self.data).add self.messageAt).read 32 : Exec ε _) = .ok self.hash := by
    have inside : self.messageAt + 32 ≤ (addrOf self.data).rest.length := by
      rw [addrOf_rest]
      unfold idxsAt partsAt at long
      omega
    rw [Ptr.read_add inside]
    exact congrArg Exec.ok (Subtype.ext self.window_hash)
  have idxs : self.data.length - self.signers.length - 13 = self.idxsAt := by omega
  have feeds : (read_feeds ((addrOf self.data).add (self.messageAt + HEADER_SIZE)) self.feeds.length : Exec ε _) =
      .ok self.feeds := self.read_feeds_data
  simp only [viewFrom, first, offsets, read_header, header, Exec.map_ok, Exec.ok_bind, feedCount, feeds,
    self.sigCount_data, idxs, self.window_idxs, self.window_slot, leU64_leBytes, self.byteAt_version]
  rfl

end Bundle

/-! ### What is accepted -/

/-- What a verifier demands of a bundle. -/
structure Admits (checks : OverflowChecks) (verifier : QuoteVerifier) (bundle : Bundle) (queue : QueueAccountData)
    (sysvar : AccountInfo) (clock : UInt64) : Prop where
  queueSet : ∃ account, verifier.queue = some account ∧ IsQueue account queue
  sysvarSet : verifier.slothash_sysvar = some sysvar
  clockSet : verifier.clock_slot = some clock
  fresh : Fresh verifier clock bundle.slot
  found : find_slothash_in_sysvar checks bundle.slot sysvar = .ok bundle.hash
  keys : ∀ signer ∈ bundle.signers, signing_key_at queue signer.idx = signer.key

def Admitted (checks : OverflowChecks) (verifier : QuoteVerifier) (bundle : Bundle) : Prop :=
  ∃ queue sysvar clock, Admits checks verifier bundle queue sysvar clock

/-- A quote that says what the bundle says, and finds its feeds and indexes. -/
structure Tells (quote : OracleQuote) (bundle : Bundle) : Prop where
  view : (quote.view : Exec AnyError _) = .ok bundle.view
  feed : ∀ feed_id, quote.feed feed_id =
    Exec.okOr "Switchboard On-Demand FeedNotFound" (bundle.feeds.find? fun info => info.feed_id = feed_id)
  index : ∀ i, (counted : i < bundle.signers.length) → quote.oracle_index i = .ok bundle.signers[i].idx

variable {checks : OverflowChecks} {verifier : QuoteVerifier}

theorem verifies_iff (bundle : Bundle) {data : SafeSlice} (here : data.bytes = bundle.data) (queue : QueueAccountData)
    (sysvar : AccountInfo) (clock : UInt64) (hash : FixedBytes 32) :
    Verifies checks verifier data.toSlice queue sysvar clock hash ↔
      EvenAddress data.toSlice ∧ Admits checks verifier bundle queue sysvar clock ∧ hash = bundle.hash := by
  rw [verifies_of_bytes (here ▸ bundle.offsetsInside), here]
  refine and_congr_right fun _ => ?_
  constructor
  · rintro ⟨_, queueSet, sysvarSet, clockSet, fresh, found, header, keys⟩
    rw [bundle.recentSlot_data] at fresh found
    obtain rfl := (bundle.headerHolds_iff hash).mp header
    exact ⟨⟨queueSet, sysvarSet, clockSet, fresh, found, (bundle.keysHold_iff queue).mp keys⟩, rfl⟩
  · rintro ⟨⟨queueSet, sysvarSet, clockSet, fresh, found, keys⟩, rfl⟩
    refine ⟨bundle.accepted, queueSet, sysvarSet, clockSet, ?_, ?_, ?_, ?_⟩
    · rwa [bundle.recentSlot_data]
    · rwa [bundle.recentSlot_data]
    · exact (bundle.headerHolds_iff _).mpr rfl
    · exact (bundle.keysHold_iff queue).mpr keys

/-- The quote of accepted data of a bundle says what the bundle says. -/
theorem tells_quoteOf (bundle : Bundle) {data : SafeSlice} (here : data.bytes = bundle.data)
    (accepted : Accepted data.toSlice) : Tells (quoteOf data.toSlice) bundle := by
  have inside : OffsetsInside data.bytes := here ▸ bundle.offsetsInside
  have view : ((quoteOf data.toSlice).view : Exec AnyError _) = .ok bundle.view := by
    rw [view_of_bytes inside accepted, here, bundle.viewFrom_data]
  refine ⟨view, ?_, ?_⟩
  · intro feed_id
    obtain ⟨header, _, view⟩ := Exec.bind_eq_ok.mp view
    obtain ⟨feeds, read, view⟩ := Exec.bind_eq_ok.mp view
    obtain ⟨idxs, _, view⟩ := Exec.bind_eq_ok.mp view
    obtain ⟨raw, _, view⟩ := Exec.bind_eq_ok.mp view
    obtain rfl : feeds = bundle.feeds := congrArg QuoteView.feeds (Exec.ok.inj view)
    exact OracleQuote.feed_of_feeds feed_id read
  · intro i counted
    have length := Slice.length_bytes data.inside
    have long := bundle.length_data
    have count : sigCount data.toSlice = bundle.signers.length := by
      rw [sigCount_of_bytes (records_fit inside), here]
      exact bundle.sigCount_data
    have idx : oracleIdx data.toSlice i = bundle.signers[i].idx := by
      rw [here] at length
      have start : data.len - bundle.signers.length - 13 + i = bundle.idxsAt + i := by omega
      rw [oracleIdx, count, start, ← byteAt_take (show bundle.idxsAt + i < data.len by omega)]
      exact (congrArg (byteAt · _) here).trans (bundle.byteAt_idx counted)
    have found : ((quoteOf data.toSlice).oracle_idxs.index i : Exec AnyError _) = .ok (oracleIdx data.toSlice i) :=
      index_oracle_idxs data accepted.header (count ▸ counted)
    have inCount : i < (quoteOf data.toSlice).oracle_count := lt_of_lt_of_eq counted count.symm
    rw [OracleQuote.oracle_index, if_pos inCount, found, idx]

theorem verified_iff (bundle : Bundle) {data : SafeSlice} (here : data.bytes = bundle.data) :
    (∃ quote, verify checks verifier data.toSlice = .ok quote) ↔
      EvenAddress data.toSlice ∧ Admitted checks verifier bundle := by
  simp only [Admitted, verify_ok_iff, verifies_iff bundle here]
  constructor
  · rintro ⟨_, ⟨queue, sysvar, clock, _, even, admits, _⟩, _⟩
    exact ⟨even, queue, sysvar, clock, admits⟩
  · rintro ⟨even, queue, sysvar, clock, admits⟩
    exact ⟨_, ⟨queue, sysvar, clock, _, even, admits, rfl⟩, rfl⟩

theorem tells_of_verified (bundle : Bundle) {data : SafeSlice} (here : data.bytes = bundle.data) {quote : OracleQuote}
    (verified : verify checks verifier data.toSlice = .ok quote) : Tells quote bundle := by
  obtain ⟨⟨_, _, _, _, verifies⟩, rfl⟩ := (verify_ok_iff checks verifier data quote).mp verified
  exact tells_quoteOf bundle here verifies.accepted

/-- The data of a bundle is accepted exactly when it lies at an even address and the
    verifier admits the bundle, and the quote says what the bundle says. -/
theorem verify_bundle (checks : OverflowChecks) (verifier : QuoteVerifier) (bundle : Bundle) (data : SafeSlice)
    (here : data.bytes = bundle.data) :
    ((∃ quote, verify checks verifier data.toSlice = .ok quote) ↔
        EvenAddress data.toSlice ∧ Admitted checks verifier bundle) ∧
      ∀ quote, verify checks verifier data.toSlice = .ok quote → Tells quote bundle :=
  ⟨verified_iff bundle here, fun _ => tells_of_verified bundle here⟩

/-! ### Oracle by oracle -/

/-- The bundle with one oracle only. -/
def Bundle.only (bundle : Bundle) (signer : Signer) : Bundle :=
  { bundle with signers := [signer], someSigner := le_rfl, fewSigners := by simp }

/-- The verifier gives a quote for the data of the bundle. -/
def Accepts (checks : OverflowChecks) (verifier : QuoteVerifier) (bundle : Bundle) : Prop :=
  ∃ quote, verify checks verifier (SafeSlice.of bundle.data).toSlice = .ok quote

theorem accepts_iff (bundle : Bundle) : Accepts checks verifier bundle ↔ Admitted checks verifier bundle :=
  (@verified_iff checks verifier bundle (SafeSlice.of bundle.data) (Slice.of_bytes _)).trans
    (and_iff_right (evenAddress_of _))

/-- A verifier reads one queue, one sysvar and one clock. -/
theorem admits_unique {one two : Bundle} {queue queue' : QueueAccountData} {sysvar sysvar' : AccountInfo}
    {clock clock' : UInt64} (first : Admits checks verifier one queue sysvar clock)
    (second : Admits checks verifier two queue' sysvar' clock') :
    queue' = queue ∧ sysvar' = sysvar ∧ clock' = clock := by
  obtain ⟨account, set, _, isQueue⟩ := first.queueSet
  obtain ⟨account', set', _, isQueue'⟩ := second.queueSet
  obtain rfl := Option.some.inj (set.symm.trans set')
  have queues : queue' = queue := Except.ok.inj (isQueue'.symm.trans isQueue)
  exact ⟨queues, Option.some.inj (second.sysvarSet.symm.trans first.sysvarSet),
    Option.some.inj (second.clockSet.symm.trans first.clockSet)⟩

/-- A bundle is accepted exactly when the part of each of its oracles is accepted
    alone. -/
theorem accepts_each (checks : OverflowChecks) (verifier : QuoteVerifier) (bundle : Bundle) :
    Accepts checks verifier bundle ↔ ∀ signer ∈ bundle.signers, Accepts checks verifier (bundle.only signer) := by
  simp only [accepts_iff]
  constructor
  · rintro ⟨queue, sysvar, clock, queueSet, sysvarSet, clockSet, fresh, found, keys⟩ signer member
    refine ⟨queue, sysvar, clock, queueSet, sysvarSet, clockSet, fresh, found, ?_⟩
    intro other same
    obtain rfl := List.mem_singleton.mp same
    exact keys other member
  · intro each
    obtain ⟨queue, sysvar, clock, first⟩ := each _ (List.getElem_mem bundle.someSigner)
    refine ⟨queue, sysvar, clock, first.queueSet, first.sysvarSet, first.clockSet, first.fresh, first.found, ?_⟩
    intro signer member
    obtain ⟨_, _, _, alone⟩ := each signer member
    obtain ⟨rfl, _, _⟩ := admits_unique first alone
    exact alone.keys signer List.mem_cons_self

/-! ### In a transaction -/

/-- The transaction has the bundle in the instruction that its records name. -/
def Carries (sysvar : InstructionsSysvar) (bundle : Bundle) : Prop :=
  ∃ accounts, sysvar.instructions[bundle.instruction]? = some ⟨accounts, ED25519_PROGRAM_ID, bundle.data⟩

theorem extract_carried {sysvar : InstructionsSysvar} {bundle : Bundle} (carries : Carries sysvar bundle) :
    ∃ source : SafeSlice, (extract_ix_data sysvar.account bundle.instruction : Exec AnyError _) = .ok source.toSlice ∧
      source.bytes = bundle.data ∧
      (EvenAddress source.toSlice ↔ EvenlyPlaced sysvar.instructions bundle.instruction) := by
  obtain ⟨accounts, here⟩ := carries
  obtain ⟨inside, ix⟩ := List.getElem?_eq_some_iff.mp here
  have bytes := instructionSlice_bytes sysvar inside
  rw [ix] at bytes
  refine ⟨⟨_, bytes.1⟩, ?_, bytes.2, aligned_instructionSlice sysvar inside⟩
  refine (extract_ix_data_ok_iff sysvar _ _).mpr ⟨inside, ?_⟩
  rw [ix]
  refine ⟨rfl, ?_, ?_, rfl⟩
  · rw [bundle.length_data_eq]
    omega
  · rw [firstRecordNames_iff, bundle.recordAt_data bundle.someSigner]
    exact ⟨rfl, rfl, rfl⟩

/-- A record of a bundle in its own instruction verifies when the signature is valid. -/
theorem recordVerifies_iff (valid : Valid) {datas : List Bytes} {bundle : Bundle}
    (here : datas[bundle.instruction]? = some bundle.data) {i : Nat} (counted : i < bundle.signers.length) :
    RecordVerifies valid datas bundle.data (recordAt bundle.data i) ↔
      valid bundle.signers[i].key bundle.message bundle.signers[i].signature := by
  obtain ⟨_, inside⟩ := bundle.offsetsInside
  rw [bundle.sigCount_data] at inside
  obtain ⟨keyInside, signatureInside, messageInside⟩ := inside i counted
  rw [bundle.recordAt_data counted] at keyInside signatureInside messageInside ⊢
  have key := (named_own here keyInside).trans (congrArg some (bundle.window_key counted))
  have signature := (named_own here signatureInside).trans (congrArg some (bundle.window_signature counted))
  have message := (named_own here messageInside).trans (congrArg some bundle.window_message)
  constructor
  · rintro ⟨key', message', signature', keyNamed, signatureNamed, messageNamed, isValid⟩
    obtain rfl : bundle.signers[i].key = key' := Subtype.ext (Option.some.inj (key.symm.trans keyNamed))
    obtain rfl : bundle.signers[i].signature = signature' :=
      Subtype.ext (Option.some.inj (signature.symm.trans signatureNamed))
    obtain rfl : bundle.message = message' := Option.some.inj (message.symm.trans messageNamed)
    exact isValid
  · intro isValid
    exact ⟨_, _, _, key, signature, message, isValid⟩

/-- The native program verifies each signature over the message. -/
theorem nativeAccepts_iff (valid : Valid) {datas : List Bytes} {bundle : Bundle}
    (here : datas[bundle.instruction]? = some bundle.data) :
    NativeAccepts valid datas bundle.instruction ↔
      ∀ signer ∈ bundle.signers, valid signer.key bundle.message signer.signature := by
  obtain ⟨records, _⟩ := bundle.offsetsInside
  rw [List.forall_mem_iff_forall_getElem]
  constructor
  · rintro ⟨own, ownHere, _, verify⟩ i counted
    obtain rfl := Option.some.inj (here.symm.trans ownHere)
    rw [bundle.sigCount_data] at verify
    exact (recordVerifies_iff valid here counted).mp (verify i counted)
  · intro signed
    refine ⟨bundle.data, here, records, ?_⟩
    intro i counted
    rw [bundle.sigCount_data] at counted
    exact (recordVerifies_iff valid here counted).mpr (signed i counted)

/-- A transaction that carries a bundle passes the native program and the verifier
    exactly when all signatures are valid, the bundle lies at an even place and the
    verifier admits it. -/
theorem publish_bundle (valid : Valid) (checks : OverflowChecks) (verifier : QuoteVerifier)
    (sysvar : InstructionsSysvar) (bundle : Bundle) (carries : Carries sysvar bundle) (k : Int64)
    (number : k.toUInt64.toNat = bundle.instruction)
    (ixSet : verifier.ix_sysvar = some sysvar.account) :
    (NativeAccepts valid (sysvar.instructions.map Instruction.data) bundle.instruction ∧
        (∃ quote, verify_instruction_at checks verifier k = .ok quote) ↔
      (∀ signer ∈ bundle.signers, valid signer.key bundle.message signer.signature) ∧
        EvenlyPlaced sysvar.instructions bundle.instruction ∧ Admitted checks verifier bundle) ∧
    ∀ quote, verify_instruction_at checks verifier k = .ok quote → Tells quote bundle := by
  obtain ⟨source, found, bytes, place⟩ := extract_carried carries
  obtain ⟨accounts, here⟩ := carries
  have data : (sysvar.instructions.map Instruction.data)[bundle.instruction]? = some bundle.data := by
    simp [here]
  have answer : verify_instruction_at checks verifier k = verify checks verifier source.toSlice :=
    verify_instruction_at_eq ixSet (number ▸ found)
  rw [answer, nativeAccepts_iff valid data, ← place]
  exact ⟨and_congr_right fun _ => verified_iff bundle bytes, fun _ => tells_of_verified bundle bytes⟩

theorem write_bundle_iff {sysvar : InstructionsSysvar} {bundle : Bundle} (carries : Carries sysvar bundle)
    (account after : AccountInfo) (curr_slot : UInt64) :
    (write_from_ix sysvar.account account curr_slot bundle.instruction : Exec AnyError _) = .ok after ↔
      57 + 111 * bundle.signers.length + 49 * bundle.feeds.length ≤ account.data.length ∧ bundle.slot < curr_slot ∧
        backSlot account.data ≤ bundle.slot ∧ after = { account with data := stored bundle.data account.data } := by
  obtain ⟨source, found, bytes, _⟩ := extract_carried carries
  have length := Slice.length_bytes source.inside
  have size := bundle.length_data_eq
  have few := bundle.few
  have fewSigners := bundle.fewSigners
  rw [write_from_ix, found, Exec.ok_bind, write_ok_iff source.inside, bytes, bundle.backSlot_data]
  rw [bytes] at length
  constructor
  · rintro ⟨_, fits, fresh, progress, rfl⟩
    exact ⟨by omega, fresh, progress, rfl⟩
  · rintro ⟨fits, fresh, progress, rfl⟩
    exact ⟨by omega, by omega, fresh, progress, rfl⟩

/-- A transaction that carries a bundle stores it exactly when the account has 111
    bytes for each signer, 49 for each feed and 57 more, and the slot is in order.
    The verifier then takes from the account what it would take from the bundle. -/
theorem store_bundle (sysvar : InstructionsSysvar) (bundle : Bundle) (carries : Carries sysvar bundle)
    (account : AccountInfo) (curr_slot : UInt64) :
    ((∃ after, (write_from_ix sysvar.account account curr_slot bundle.instruction : Exec AnyError _) = .ok after) ↔
      57 + 111 * bundle.signers.length + 49 * bundle.feeds.length ≤ account.data.length ∧
        bundle.slot < curr_slot ∧ backSlot account.data ≤ bundle.slot) ∧
    ∀ after, (write_from_ix sysvar.account account curr_slot bundle.instruction : Exec AnyError _) = .ok after →
      ∀ checks verifier,
        ((∃ quote, verify_account checks verifier after = .ok quote) ↔ Admitted checks verifier bundle) ∧
        ∀ quote, verify_account checks verifier after = .ok quote → Tells quote bundle := by
  have size := bundle.length_data_eq
  have few := bundle.few
  have fewSigners := bundle.fewSigners
  simp only [write_bundle_iff carries]
  constructor
  · constructor
    · rintro ⟨_, fits, fresh, progress, _⟩
      exact ⟨fits, fresh, progress⟩
    · rintro ⟨fits, fresh, progress⟩
      exact ⟨_, fits, fresh, progress, rfl⟩
  · rintro after ⟨fits, _, _, rfl⟩ checks verifier
    have room : bundle.data.length + 10 ≤ account.data.length := by omega
    have narrow : bundle.data.length < 65536 := by omega
    have held : (heldData ⟨account.key, stored bundle.data account.data⟩).InBounds :=
      heldData_inBounds (by rw [heldLength_stored narrow, length_stored room]; omega)
    let slice : SafeSlice := ⟨_, held⟩
    have same : slice.bytes = bundle.data := heldData_stored narrow account.key
    rw [verify_account_stored room narrow]
    exact ⟨(verified_iff bundle same).trans (and_iff_right (evenAddress_heldData _)),
      fun _ => tells_of_verified bundle same⟩

/-! ### Two oracles -/

/-- The Ed25519 key of the seed of 32 bytes 8. -/
def otherKey : Pubkey :=
  ⟨[19, 152, 246, 44, 109, 26, 69, 124, 81, 186, 106, 75, 95, 61, 189, 47, 105, 252, 169, 50, 22, 33, 141, 200, 153,
    126, 65, 107, 209, 125, 147, 202], by decide⟩

/-- Its signature over the message of `twoOracles`. -/
def otherSignature : FixedBytes 64 :=
  ⟨[175, 60, 182, 177, 190, 138, 21, 57, 109, 69, 15, 115, 160, 30, 252, 242, 232, 247, 36, 141, 195, 89, 172, 202, 62,
    186, 86, 41, 171, 62, 117, 115, 40, 99, 41, 68, 121, 164, 146, 126, 122, 40, 95, 199, 84, 116, 23, 93, 178, 41, 142,
    150, 104, 44, 148, 135, 241, 245, 251, 169, 105, 159, 194, 4], by decide⟩

/-- The message of `signedQuote`, signed by the oracles at the places 0 and 1. -/
def twoOracles : Bundle where
  instruction := (signedQuote zeroOnce).instruction
  hash := (signedQuote zeroOnce).hash
  feeds := (signedQuote zeroOnce).feeds
  signers := [⟨oracleKey, oracleSignature, 0⟩, ⟨otherKey, otherSignature, 1⟩]
  slot := (signedQuote zeroOnce).slot
  version := 1
  narrow := (signedQuote zeroOnce).narrow
  few := (signedQuote zeroOnce).few
  someSigner := Nat.succ_le_succ (Nat.zero_le _)
  fewSigners := by simp

def twoOracleQueue : QueueAccount :=
  .ofKeys slot_hashes_ID (Vector.ofFn fun i => if i.val = 0 then oracleKey else otherKey)

def twoOracleTransaction : InstructionsSysvar where
  instructions := [⟨[], ED25519_PROGRAM_ID, twoOracles.data⟩]
  fits := by
    have short : twoOracles.data.length < 65536 := by
      rw [Bundle.length_data_eq]
      decide
    refine ⟨by simp, fun idx inside => ?_, by simp, by simpa using short⟩
    obtain rfl : idx = 0 := by simpa using inside
    simp [startOffset]
  trailing := [0, 0]

def twoOracleVerifier : QuoteVerifier where
  queue := some twoOracleQueue.account
  slothash_sysvar := some everyOtherSlot.account
  ix_sysvar := some twoOracleTransaction.account
  clock_slot := some 2000
  max_age := 0

theorem carries_twoOracles : Carries twoOracleTransaction twoOracles := ⟨[], rfl⟩

theorem admitted_twoOracles (checks : OverflowChecks) : Admitted checks twoOracleVerifier twoOracles := by
  have isQueue : IsQueue twoOracleQueue.account twoOracleQueue.queue :=
    ⟨by rw [twoOracleQueue.size]; decide, twoOracleQueue.try_from_bytes_eq⟩
  have young : (2000 : UInt64) - 2000 ≤ 0 := by decide
  refine ⟨twoOracleQueue.queue, everyOtherSlot.account, 2000, ⟨_, rfl, isQueue⟩, rfl, rfl, ⟨UInt64.le_refl _, young⟩,
    find_signedSlot checks, ?_⟩
  have keys : ∀ i, (inside : i < 30) → twoOracleQueue.queue.ed25519_oracle_signing_keys[i] =
      if i = 0 then oracleKey else otherKey := by
    intro i inside
    simp only [twoOracleQueue, QueueAccount.ofKeys_keys, Vector.getElem_ofFn]
  intro signer member
  simp only [twoOracles, List.mem_cons, List.not_mem_nil, or_false] at member
  rcases member with rfl | rfl
  · exact keys 0 (by decide)
  · exact keys 1 (by decide)

theorem verify_bundle_twoOracles : ∃ quote,
    verify .on twoOracleVerifier (SafeSlice.of twoOracles.data).toSlice = .ok quote ∧ Tells quote twoOracles := by
  obtain ⟨accepts, tells⟩ :=
    verify_bundle .on twoOracleVerifier twoOracles (SafeSlice.of twoOracles.data) (Slice.of_bytes _)
  obtain ⟨quote, verified⟩ := accepts.mpr ⟨evenAddress_of _, admitted_twoOracles .on⟩
  exact ⟨quote, verified, tells quote verified⟩

/-- A signature check that knows the two signatures, which the real check accepts
    as well. -/
def signedByBoth : Valid := fun key message signature =>
  message = twoOracles.message ∧ (key = oracleKey ∧ signature = oracleSignature ∨
    key = otherKey ∧ signature = otherSignature)

theorem publish_bundle_twoOracles :
    NativeAccepts signedByBoth (twoOracleTransaction.instructions.map Instruction.data) 0 ∧
      ∃ quote, verify_instruction_at .on twoOracleVerifier 0 = .ok quote := by
  refine (publish_bundle signedByBoth .on twoOracleVerifier twoOracleTransaction twoOracles carries_twoOracles 0 rfl
    rfl).1.mpr ⟨?_, rfl, admitted_twoOracles .on⟩
  intro signer member
  simp only [twoOracles, List.mem_cons, List.not_mem_nil, or_false] at member
  rcases member with rfl | rfl
  · exact ⟨rfl, .inl ⟨rfl, rfl⟩⟩
  · exact ⟨rfl, .inr ⟨rfl, rfl⟩⟩

/-- An account of the size of `SwitchboardQuote`. -/
def quoteAccount : AccountInfo := ⟨slot_hashes_ID, List.replicate 1032 0⟩

theorem store_bundle_twoOracles : ∃ after quote,
    (write_from_ix twoOracleTransaction.account quoteAccount 2001 0 : Exec AnyError _) = .ok after ∧
      verify_account .on twoOracleVerifier after = .ok quote ∧ Tells quote twoOracles := by
  obtain ⟨stores, reads⟩ := store_bundle twoOracleTransaction twoOracles carries_twoOracles quoteAccount 2001
  have size : quoteAccount.data.length = 1032 := List.length_replicate
  have room : 57 + 111 * twoOracles.signers.length + 49 * twoOracles.feeds.length ≤ quoteAccount.data.length := by
    rw [size]
    decide
  have empty : backSlot quoteAccount.data = 0 := backSlot_zeros 1032
  obtain ⟨after, written⟩ := stores.mpr ⟨room, by decide, by rw [empty]; decide⟩
  obtain ⟨accepts, tells⟩ := reads after written .on twoOracleVerifier
  obtain ⟨quote, verified⟩ := accepts.mpr (admitted_twoOracles .on)
  exact ⟨after, quote, written, verified, tells quote verified⟩

end SwitchboardOnDemand.Bundles
