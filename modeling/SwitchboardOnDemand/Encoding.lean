import SwitchboardOnDemand.Placement

/-!
# Data with one signature

The data of an Ed25519 instruction in which one or more records name the same
key, signature and message, with its parts in this order: count, records,
message, key, signature, trailer. The parser accepts all such data (`accepted`),
and the verifier does when the queue has the key at each of the indexes
(`verifies`), however often the one signature is named.
-/

namespace SwitchboardOnDemand.Encoding
open Rust SwitchboardOnDemand.Utils SwitchboardOnDemand.FeedInfo SwitchboardOnDemand.SlotSearch
open SwitchboardOnDemand.Ed25519Sysvar SwitchboardOnDemand.Quote SwitchboardOnDemand.Queue
open SwitchboardOnDemand.SlothashSysvar SwitchboardOnDemand.IxSysvar SwitchboardOnDemand.Verifier
open SwitchboardOnDemand.Placement

/-- A signature over a header and feeds, and the oracle indexes of the records
    that name it. -/
structure OneSigner where
  instruction : Nat
  key : Pubkey
  signature : FixedBytes 64
  hash : FixedBytes 32
  feeds : List PackedFeedInfo
  idxs : Bytes
  slot : UInt64
  narrow : instruction < 65536
  few : feeds.length ≤ 8
  someIdx : 1 ≤ idxs.length
  fewIdxs : idxs.length ≤ 8

namespace OneSigner

variable (self : OneSigner)

def message : Bytes := self.hash.val ++ (self.feeds.map PackedFeedInfo.toBytes).flatten

def messageAt : Nat := 2 + 14 * self.idxs.length
def keyAt : Nat := self.messageAt + self.message.length
def signatureAt : Nat := self.keyAt + 32

/-- The record that every signature has. -/
def offsets : Ed25519SignatureOffsets :=
  ⟨self.signatureAt, self.instruction, self.keyAt, self.instruction, self.messageAt, self.message.length,
    self.instruction⟩

def count : Bytes := [UInt8.ofNat self.idxs.length, 0]
def records : Bytes := (List.replicate self.idxs.length self.offsets.toBytes).flatten

def tail : Bytes := [1, 83, 66, 79, 68]

def data : Bytes :=
  self.count ++ self.records ++ self.message ++ self.key.val ++ self.signature.val ++ self.idxs ++
    leBytes 8 self.slot.toNat ++ tail

/-! ### Where its parts lie -/

theorem length_message : self.message.length = 32 + 49 * self.feeds.length := by
  have each : ∀ chunk ∈ self.feeds.map PackedFeedInfo.toBytes, chunk.length = 49 := by simp
  rw [message, List.length_append, self.hash.property, length_flatten each, List.length_map]

private theorem each_record : ∀ chunk ∈ List.replicate self.idxs.length self.offsets.toBytes, chunk.length = 14 := by
  intro chunk member
  rw [List.eq_of_mem_replicate member, Ed25519SignatureOffsets.length_toBytes]

theorem length_records : self.records.length = 14 * self.idxs.length := by
  rw [records, length_flatten self.each_record, List.length_replicate]

theorem length_data : self.data.length = self.signatureAt + 64 + self.idxs.length + 13 := by
  simp only [data, List.length_append, count, List.length_cons, List.length_nil, length_records, self.key.property,
    self.signature.property, length_leBytes, tail, signatureAt, keyAt, messageAt]

theorem narrow_offsets : ∀ n ∈ self.offsets.fields, n < 65536 := by
  have narrow := self.narrow
  have few := self.few
  have fewIdxs := self.fewIdxs
  simp only [Ed25519SignatureOffsets.fields, offsets, signatureAt, keyAt, messageAt, length_message, List.mem_cons,
    List.not_mem_nil, or_false]
  rintro n (rfl | rfl | rfl | rfl | rfl | rfl | rfl) <;> omega

private theorem length_front :
    (self.count ++ self.records).length = self.messageAt ∧
    (self.count ++ self.records ++ self.message).length = self.keyAt ∧
    (self.count ++ self.records ++ self.message ++ self.key.val).length = self.signatureAt ∧
    (self.count ++ self.records ++ self.message ++ self.key.val ++ self.signature.val).length =
      self.signatureAt + 64 := by
  simp only [List.length_append, count, List.length_cons, List.length_nil, length_records, self.key.property,
    self.signature.property, signatureAt, keyAt, messageAt, and_self]

theorem sigCount_data : sigCount (Slice.of self.data) = self.idxs.length := by
  have few := self.fewIdxs
  have first : byteAt self.data 0 = UInt8.ofNat self.idxs.length := by simp [data, count, byteAt]
  rw [sigCount, Slice.of_ptr_rest, first, UInt8.toNat_ofNat']
  omega

theorem recordAt_data {i : Nat} (counted : i < self.idxs.length) : recordAt self.data i = self.offsets := by
  have chunk : window self.records (14 * i) 14 = self.offsets.toBytes := by
    rw [records, window_flatten self.each_record (by rwa [List.length_replicate]), List.getElem_replicate]
  have split : self.data = self.count ++ self.records ++ (self.message ++ self.key.val ++ self.signature.val ++
      self.idxs ++ leBytes 8 self.slot.toNat ++ tail) := by
    simp only [data, List.append_assoc]
  have two : self.count.length = 2 := rfl
  have records := self.length_records
  rw [recordAt, split, window_append_left (by rw [List.length_append]; omega), window_append_right (by omega), two,
    Nat.add_sub_cancel_left, chunk, Ed25519SignatureOffsets.ofBytes_toBytes _ self.narrow_offsets]

theorem window_message : window self.data self.messageAt self.message.length = self.message := by
  have split : self.data = self.count ++ self.records ++ self.message ++
      (self.key.val ++ self.signature.val ++ self.idxs ++ leBytes 8 self.slot.toNat ++ tail) := by
    simp only [data, List.append_assoc]
  rw [split]
  exact window_middle self.length_front.1 rfl

theorem window_key : window self.data self.keyAt 32 = self.key.val := by
  have split : self.data = self.count ++ self.records ++ self.message ++ self.key.val ++
      (self.signature.val ++ self.idxs ++ leBytes 8 self.slot.toNat ++ tail) := by
    simp only [data, List.append_assoc]
  rw [split]
  exact window_middle self.length_front.2.1 self.key.property

theorem window_signature : window self.data self.signatureAt 64 = self.signature.val := by
  have split : self.data = self.count ++ self.records ++ self.message ++ self.key.val ++ self.signature.val ++
      (self.idxs ++ leBytes 8 self.slot.toNat ++ tail) := by
    simp only [data, List.append_assoc]
  rw [split]
  exact window_middle self.length_front.2.2.1 self.signature.property

theorem window_idxs : window self.data (self.signatureAt + 64) self.idxs.length = self.idxs := by
  have split : self.data = self.count ++ self.records ++ self.message ++ self.key.val ++ self.signature.val ++
      self.idxs ++ (leBytes 8 self.slot.toNat ++ tail) := by
    simp only [data, List.append_assoc]
  rw [split]
  exact window_middle self.length_front.2.2.2 rfl

theorem window_hash : window self.data self.messageAt 32 = self.hash.val := by
  have long := self.length_message
  have inMessage : window self.message 0 32 = self.hash.val := by
    rw [message, window_append_left (by rw [self.hash.property]), window_full self.hash.property]
  rw [← inMessage, ← self.window_message, window_window (by omega), Nat.add_zero]

/-! ### What the parser and the verifier make of it -/

theorem firstRecordNames : FirstRecordNames self.data self.instruction := by
  rw [firstRecordNames_iff, self.recordAt_data self.someIdx]
  exact ⟨rfl, rfl, rfl⟩

/-- In the instruction that its records name, the data is found. -/
theorem extract_data (sysvar : InstructionsSysvar) {accounts : List (FixedBytes 33)}
    (here : sysvar.instructions[self.instruction]? = some ⟨accounts, ED25519_PROGRAM_ID, self.data⟩) :
    ∃ source : SafeSlice, (extract_ix_data sysvar.account self.instruction : Exec AnyError _) = .ok source.toSlice ∧
      source.bytes = self.data ∧
      (EvenAddress source.toSlice ↔ EvenlyPlaced sysvar.instructions self.instruction) := by
  obtain ⟨inside, ix⟩ := List.getElem?_eq_some_iff.mp here
  have inBounds := instructionSlice_bytes sysvar inside
  have large : 16 ≤ self.data.length := by
    have long := self.length_data
    unfold signatureAt keyAt messageAt at long
    omega
  rw [ix] at inBounds
  refine ⟨⟨_, inBounds.1⟩, ?_, inBounds.2, aligned_instructionSlice sysvar inside⟩
  refine (extract_ix_data_ok_iff sysvar _ _).mpr ⟨inside, ?_⟩
  rw [ix]
  exact ⟨rfl, large, self.firstRecordNames, rfl⟩

theorem headerOk : HeaderOk (Slice.of self.data) := by
  have long := self.length_data
  have some := self.someIdx
  have few := self.fewIdxs
  unfold HeaderOk
  rw [sigCount_data, Slice.of_len]
  omega

theorem rangesInside : RangesInside self.data self.idxs.length (self.signatureAt + 64) := by
  have long := self.length_message
  refine ⟨by unfold signatureAt keyAt messageAt; omega, ?_⟩
  intro i counted
  rw [self.recordAt_data counted]
  simp only [offsets, signatureAt, keyAt]
  omega

theorem offsetsInside : OffsetsInside self.data := by
  have count : (byteAt self.data 0).toNat = self.idxs.length := self.sigCount_data
  have long := self.length_data
  obtain ⟨records, named⟩ := self.rangesInside
  rw [OffsetsInside, count]
  refine ⟨by omega, ?_⟩
  intro i counted
  obtain ⟨key, signature, message⟩ := named i counted
  omega

theorem accepted : Accepted (Slice.of self.data) where
  even := evenAddress_of self.data
  header := self.headerOk
  readable i counted := by
    have inside := self.rangesInside.1
    have long := self.length_data
    rw [sigCount_data] at counted
    rw [Slice.of_ptr_rest]
    unfold Readable
    omega
  size := by
    rw [Slice.of_ptr_rest, self.recordAt_data self.someIdx]
    exact ⟨self.feeds.length, self.few, self.length_message⟩
  agrees i later counted := by
    rw [sigCount_data] at counted
    rw [Slice.of_ptr_rest, self.recordAt_data counted, self.recordAt_data self.someIdx]
    exact ⟨rfl, rfl, rfl, rfl, rfl⟩

theorem recentSlot_data : recentSlot (Slice.of self.data) = self.slot := by
  have split : self.data = (self.count ++ self.records ++ self.message ++ self.key.val ++ self.signature.val ++
      self.idxs) ++ leBytes 8 self.slot.toNat ++ tail := by
    simp only [data]
  have front : (self.count ++ self.records ++ self.message ++ self.key.val ++ self.signature.val ++
      self.idxs).length = self.data.length - 13 := by
    rw [List.length_append, self.length_front.2.2.2, length_data]
    omega
  rw [recentSlot, Slice.of_ptr_rest, Slice.of_len, ← front, split,
    window_middle rfl (length_leBytes 8 _), leU64_leBytes]

theorem backSlot_data : QuoteStore.backSlot self.data = self.slot := self.recentSlot_data

theorem oracleIdx_data {i : Nat} (counted : i < self.idxs.length) :
    oracleIdx (Slice.of self.data) i = self.idxs[i] := by
  have long := self.length_data
  have at_i : byteAt (window self.data (self.signatureAt + 64) self.idxs.length) i =
      byteAt self.data (self.signatureAt + 64 + i) := by
    rw [window, byteAt_take counted, byteAt_drop]
  rw [oracleIdx, sigCount_data, Slice.of_ptr_rest, Slice.of_len,
    show self.data.length - self.idxs.length - 13 + i = self.signatureAt + 64 + i by omega, ← at_i, window_idxs,
    byteAt_of_lt counted]

theorem headerHolds : HeaderHolds (Slice.of self.data) self.hash := by
  have long := self.length_data
  have size := self.length_message
  unfold HeaderHolds
  rw [Slice.of_ptr_rest, self.recordAt_data self.someIdx]
  refine ⟨?_, self.window_hash⟩
  simp only [offsets, signatureAt, keyAt] at long ⊢
  omega

theorem keysHold {queue : QueueAccountData}
    (registered : ∀ i, (inside : i < self.idxs.length) →
      queue.ed25519_oracle_signing_keys[self.idxs[i].toNat % 30] = self.key) :
    KeysHold queue (Slice.of self.data) := by
  intro i counted
  have long := self.length_data
  rw [sigCount_data] at counted
  simp only [expectedKey, self.oracleIdx_data counted, registered i counted, Slice.of_ptr_rest,
    self.recordAt_data counted]
  refine ⟨?_, self.window_key⟩
  simp only [offsets, signatureAt] at long ⊢
  omega

/-- A verifier with a queue and a slot-hashes sysvar accepts the data when the
    queue has its key at each index and the search finds its hash. -/
theorem verifies {checks : OverflowChecks} {verifier : QuoteVerifier} {queue : QueueAccount} {sysvar : AccountInfo}
    {clock : UInt64} (queueSet : verifier.queue = some queue.account)
    (sysvarSet : verifier.slothash_sysvar = some sysvar) (clockSet : verifier.clock_slot = some clock)
    (fresh : Fresh verifier clock self.slot)
    (found : find_slothash_in_sysvar checks self.slot sysvar = .ok self.hash)
    (registered : ∀ i, (inside : i < self.idxs.length) →
      queue.queue.ed25519_oracle_signing_keys[self.idxs[i].toNat % 30] = self.key) :
    Verifies checks verifier (Slice.of self.data) queue.queue sysvar clock self.hash where
  accepted := self.accepted
  queueSet := ⟨queue.account, queueSet, by rw [queue.size]; decide, queue.try_from_bytes_eq⟩
  sysvarSet := sysvarSet
  clockSet := clockSet
  fresh := by rwa [recentSlot_data]
  found := by rwa [recentSlot_data]
  header := self.headerHolds
  keys := self.keysHold registered

end OneSigner

/-! ### A quote with a real signature -/

/-- The Ed25519 key of the seed of 32 bytes 7. -/
def oracleKey : Pubkey :=
  ⟨[234, 74, 108, 99, 226, 156, 82, 10, 190, 245, 80, 123, 19, 46, 197, 249, 149, 71, 118, 174, 190, 190, 123, 146,
    66, 30, 234, 105, 20, 70, 210, 44], by decide⟩

/-- Its signature over the message of `signedQuote`. -/
def oracleSignature : FixedBytes 64 :=
  ⟨[111, 173, 46, 126, 140, 9, 190, 18, 236, 237, 50, 224, 226, 130, 0, 94, 190, 37, 79, 203, 196, 51, 82, 234, 104,
    139, 231, 202, 75, 176, 167, 240, 234, 107, 68, 60, 32, 38, 152, 188, 141, 189, 184, 6, 120, 207, 137, 246, 119,
    244, 120, 96, 22, 138, 17, 71, 171, 3, 54, 22, 30, 192, 222, 13], by decide⟩

/-- The oracle indexes of 1 to 8 records. -/
abbrev OracleIdxs := { idxs : Bytes // 1 ≤ idxs.length ∧ idxs.length ≤ 8 }

/-- Every index names place 0 of a queue. -/
def NamePlaceZero (idxs : OracleIdxs) : Prop := ∀ idx ∈ idxs.val, idx.toNat % 30 = 0

instance (idxs : OracleIdxs) : Decidable (NamePlaceZero idxs) := List.decidableBAll _ _

def zeroOnce : OracleIdxs := ⟨[0], by decide⟩

def zeroTwice : OracleIdxs := ⟨[0, 0], by decide⟩

/-- One feed with the value 5, signed over the hash of slot 2000 of
    `everyOtherSlot`, and named by a record for each oracle index. -/
def quoteIn (instruction : Fin 65536) (idxs : OracleIdxs) : OneSigner where
  instruction := instruction
  key := oracleKey
  signature := oracleSignature
  hash := (evenSlot 0).hash
  feeds := [⟨⟨List.replicate 32 9, by decide⟩, ⟨5000000000000000000, by decide, by decide⟩, 1⟩]
  idxs := idxs.val
  slot := 2000
  narrow := instruction.isLt
  few := by decide
  someIdx := idxs.property.1
  fewIdxs := idxs.property.2

/-- The quote for the first instruction of a transaction. -/
abbrev signedQuote (idxs : OracleIdxs) : OneSigner := quoteIn 0 idxs

abbrev signedData (idxs : OracleIdxs) : SafeSlice := SafeSlice.of (signedQuote idxs).data

theorem sigCount_signedData (idxs : OracleIdxs) : sigCount (signedData idxs).toSlice = idxs.val.length :=
  (signedQuote idxs).sigCount_data

theorem oracleIdx_signedData (idxs : OracleIdxs) {i : Nat} (counted : i < idxs.val.length) :
    oracleIdx (signedData idxs).toSlice i = idxs.val[i] :=
  (signedQuote idxs).oracleIdx_data counted

theorem length_quoteIn (instruction : Fin 65536) (idxs : OracleIdxs) :
    (quoteIn instruction idxs).data.length = 192 + 15 * idxs.val.length := by
  have feeds : (quoteIn instruction idxs).feeds.length = 1 := rfl
  have same : (quoteIn instruction idxs).idxs = idxs.val := rfl
  rw [OneSigner.length_data, OneSigner.signatureAt, OneSigner.keyAt, OneSigner.messageAt, OneSigner.length_message,
    feeds, same]
  omega

/-- The transaction whose only instruction has the data of the quote; the runtime
    puts the number of the running instruction behind the records. -/
def signedTransaction (idxs : OracleIdxs) : InstructionsSysvar where
  instructions := [⟨[], ED25519_PROGRAM_ID, (signedQuote idxs).data⟩]
  fits := by
    have short : (signedQuote idxs).data.length < 65536 := by
      have few := idxs.property.2
      rw [length_quoteIn]
      omega
    refine ⟨by simp, fun idx inside => ?_, by simp, by simpa using short⟩
    obtain rfl : idx = 0 := by simpa using inside
    simp [startOffset]
  trailing := [0, 0]

theorem extract_signedTransaction (idxs : OracleIdxs) :
    ∃ source : SafeSlice, (extract_ix_data (signedTransaction idxs).account 0 : Exec AnyError _) = .ok source.toSlice ∧
      source.bytes = (signedQuote idxs).data ∧ EvenAddress source.toSlice := by
  obtain ⟨source, found, bytes, even⟩ := (signedQuote idxs).extract_data (signedTransaction idxs) rfl
  exact ⟨source, found, bytes, even.mpr rfl⟩

/-- The queue with the key at place 0 and no other keys. -/
def oneOracleQueue : QueueAccount :=
  .ofKeys slot_hashes_ID (Vector.ofFn fun i => if i = 0 then oracleKey else unsetKey)

theorem oneOracleQueue_key {i : Nat} (inside : i < 30) : oneOracleQueue.queue.ed25519_oracle_signing_keys[i] =
    if i = 0 then oracleKey else unsetKey := by
  simp only [oneOracleQueue, QueueAccount.ofKeys_keys, Vector.getElem_ofFn, Fin.ext_iff, Fin.val_zero]

/-- A verifier with that queue at slot 2000. -/
def verifierAt2000 : QuoteVerifier where
  queue := some oneOracleQueue.account
  slothash_sysvar := some everyOtherSlot.account
  ix_sysvar := none
  clock_slot := some 2000
  max_age := 0

theorem isQueue_oneOracleQueue : IsQueue oneOracleQueue.account oneOracleQueue.queue :=
  ⟨by rw [oneOracleQueue.size]; decide, oneOracleQueue.try_from_bytes_eq⟩

theorem find_signedSlot (checks : OverflowChecks) :
    find_slothash_in_sysvar checks 2000 everyOtherSlot.account = .ok (evenSlot 0).hash := by
  have newest : everyOtherSlot.newest = 2000 := (firstSlot_eq everyOtherSlot).symm.trans firstSlot_everyOtherSlot
  have found := find_newest everyOtherSlot checks
  rwa [newest, entry_everyOtherSlot] at found

/-- Indexes that are 0 modulo 30 let the verifier accept the quote. -/
theorem quoteIn_verifies (checks : OverflowChecks) (instruction : Fin 65536) {idxs : OracleIdxs}
    (zero : NamePlaceZero idxs) :
    Verifies checks verifierAt2000 (Slice.of (quoteIn instruction idxs).data) oneOracleQueue.queue
      everyOtherSlot.account 2000 (evenSlot 0).hash := by
  have young : (2000 : UInt64) - 2000 ≤ 0 := by decide
  refine OneSigner.verifies (quoteIn instruction idxs) rfl rfl rfl ⟨UInt64.le_refl _, young⟩ (find_signedSlot checks) ?_
  intro i inside
  have place : idxs.val[i].toNat % 30 = 0 := zero _ (List.getElem_mem inside)
  rw [oneOracleQueue_key (Nat.mod_lt _ (by decide))]
  exact if_pos place

/-- Data with the bytes of the quote is verified at any even address. -/
theorem verify_quoteIn (checks : OverflowChecks) (instruction : Fin 65536) {idxs : OracleIdxs}
    (zero : NamePlaceZero idxs) {data : SafeSlice} (bytes : data.bytes = (quoteIn instruction idxs).data)
    (even : EvenAddress data.toSlice) :
    verify checks verifierAt2000 data.toSlice = .ok (quoteOf data.toSlice) := by
  have offsets : OffsetsInside data.bytes := bytes ▸ (quoteIn instruction idxs).offsetsInside
  have alone := quoteIn_verifies checks instruction zero
  rw [← bytes] at alone
  exact (verify_ok_iff checks verifierAt2000 data _).mpr
    ⟨⟨_, _, _, _, (verifies_of_bytes offsets ..).mpr ⟨even, alone⟩⟩, rfl⟩

theorem verify_signedData (checks : OverflowChecks) (idxs : OracleIdxs) (zero : NamePlaceZero idxs) :
    verify checks verifierAt2000 (signedData idxs).toSlice = .ok (quoteOf (signedData idxs).toSlice) :=
  verify_quoteIn checks 0 zero (Slice.of_bytes _) (evenAddress_of _)

def verifierWith (ix_sysvar : AccountInfo) : QuoteVerifier := { verifierAt2000 with ix_sysvar := some ix_sysvar }

theorem verify_signedTransaction (checks : OverflowChecks) (idxs : OracleIdxs) (zero : NamePlaceZero idxs) :
    ∃ quote, verify_instruction_at checks (verifierWith (signedTransaction idxs).account) 0 = .ok quote := by
  obtain ⟨source, found, bytes, even⟩ := extract_signedTransaction idxs
  have answer : verify_instruction_at checks (verifierWith (signedTransaction idxs).account) 0 =
      verify checks verifierAt2000 source.toSlice := verify_instruction_at_eq rfl found
  exact ⟨_, answer.trans (verify_quoteIn checks 0 zero bytes even)⟩

end SwitchboardOnDemand.Encoding
