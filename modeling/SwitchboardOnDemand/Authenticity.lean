import SwitchboardOnDemand.Encoding

/-!
# Authenticity

The program never checks a signature itself: the Ed25519 native program does,
for every offset record of an instruction, wherever in the transaction the
record points. The three checks of the instruction path together tie each of
these records to the verified quote (`quote_signed`): the keys that the quote
counts have signed its header and feeds.
-/

namespace SwitchboardOnDemand.Authenticity
open Rust SwitchboardOnDemand.Utils SwitchboardOnDemand.FeedInfo SwitchboardOnDemand.SlothashSysvar
open SwitchboardOnDemand.Ed25519Sysvar SwitchboardOnDemand.IxSysvar SwitchboardOnDemand.Queue
open SwitchboardOnDemand.Quote SwitchboardOnDemand.Verifier SwitchboardOnDemand.Placement
open SwitchboardOnDemand.Encoding

/-! ### The native program -/

/-- The data that an instruction index names; 65535 is the instruction itself. -/
def dataOf (datas : List Bytes) (own : Bytes) (instruction_index : Nat) : Option Bytes :=
  if instruction_index = 65535 then some own else datas[instruction_index]?

/-- The bytes at an offset of the data that an instruction index names. -/
def named (datas : List Bytes) (own : Bytes) (instruction_index offset size : Nat) : Option Bytes :=
  (dataOf datas own instruction_index).bind fun data =>
    if offset + size ≤ data.length then some (window data offset size) else none

/-- Which signatures are valid: the check that the native program makes. -/
abbrev Valid := Pubkey → Bytes → FixedBytes 64 → Prop

/-- The key, signature and message that a record names lie in bounds and verify. -/
def RecordVerifies (valid : Valid) (datas : List Bytes) (own : Bytes) (offsets : Ed25519SignatureOffsets) : Prop :=
  ∃ key message signature,
    named datas own offsets.public_key_instruction_index offsets.public_key_offset 32 = some key.val ∧
    named datas own offsets.signature_instruction_index offsets.signature_offset 64 = some signature.val ∧
    named datas own offsets.message_instruction_index offsets.message_data_offset offsets.message_data_size =
      some message ∧
    valid key message signature

/-- The native program accepts instruction `k`: it has all of its records, and
    each of them verifies. -/
def NativeAccepts (valid : Valid) (datas : List Bytes) (k : Nat) : Prop :=
  ∃ own, datas[k]? = some own ∧ 2 + 14 * (byteAt own 0).toNat ≤ own.length ∧
    ∀ i < (byteAt own 0).toNat, RecordVerifies valid datas own (recordAt own i)

theorem named_eq_some {datas : List Bytes} {own bytes : Bytes} {instruction_index offset size : Nat}
    (here : datas[instruction_index]? = some own)
    (found : named datas own instruction_index offset size = some bytes) :
    offset + size ≤ own.length ∧ bytes = window own offset size := by
  have data : dataOf datas own instruction_index = some own := by rw [dataOf, here, ite_self]
  rw [named, data, Option.bind_some] at found
  split at found
  · rename_i inside
    exact ⟨inside, (Option.some.inj found).symm⟩
  · cases found

theorem named_own {datas : List Bytes} {own : Bytes} {instruction_index offset size : Nat}
    (here : datas[instruction_index]? = some own) (inside : offset + size ≤ own.length) :
    named datas own instruction_index offset size = some (window own offset size) := by
  have data : dataOf datas own instruction_index = some own := by rw [dataOf, here, ite_self]
  rw [named, data, Option.bind_some, if_pos inside]

theorem nativeAccepts_oneSigner {valid : Valid} {datas : List Bytes} (signer : OneSigner)
    (here : datas[signer.instruction]? = some signer.data)
    (isValid : valid signer.key signer.message signer.signature) :
    NativeAccepts valid datas signer.instruction := by
  have count : (byteAt signer.data 0).toNat = signer.idxs.length := signer.sigCount_data
  obtain ⟨records, inside⟩ := signer.offsetsInside
  rw [count] at records inside
  refine ⟨signer.data, here, count ▸ records, ?_⟩
  intro i counted
  rw [count] at counted
  obtain ⟨keyInside, signatureInside, messageInside⟩ := inside i counted
  rw [signer.recordAt_data counted] at keyInside signatureInside messageInside ⊢
  refine ⟨signer.key, signer.message, signer.signature, ?_, ?_, ?_, isValid⟩
  · exact (named_own here keyInside).trans (congrArg some signer.window_key)
  · exact (named_own here signatureInside).trans (congrArg some signer.window_signature)
  · exact (named_own here messageInside).trans (congrArg some signer.window_message)

/-! ### The records of a verified quote -/

/-- All three instruction indexes of a record are `k`. -/
def NamesOnly (offsets : Ed25519SignatureOffsets) (k : Nat) : Prop :=
  offsets.signature_instruction_index = k ∧ offsets.public_key_instruction_index = k ∧
    offsets.message_instruction_index = k

/-- The first record is checked with the sysvar, the later ones with the first. -/
theorem namesOnly_of_accepted {data : Slice} {k : Nat} (accepted : Accepted data)
    (first : NamesOnly (recordAt data.ptr.rest 0) k) {i : Nat} (counted : i < sigCount data) :
    NamesOnly (recordAt data.ptr.rest i) k := by
  rcases Nat.eq_zero_or_pos i with rfl | later
  · exact first
  · obtain ⟨_, _, signature, key, message⟩ := accepted.agrees i later counted
    rw [first.2.2] at signature key message
    exact ⟨signature, key, message⟩

/-- A record that names only its own instruction verifies parts of that one. -/
theorem verifies_own {valid : Valid} {datas : List Bytes} {own : Bytes} {k : Nat} {offsets : Ed25519SignatureOffsets}
    (here : datas[k]? = some own) (names : NamesOnly offsets k) (verifies : RecordVerifies valid datas own offsets) :
    offsets.public_key_offset + 32 ≤ own.length ∧ offsets.signature_offset + 64 ≤ own.length ∧
      offsets.message_data_offset + offsets.message_data_size ≤ own.length ∧
      ∃ (key : Pubkey) (signature : FixedBytes 64), window own offsets.public_key_offset 32 = key.val ∧
        valid key (window own offsets.message_data_offset offsets.message_data_size) signature := by
  obtain ⟨key, message, signature, keyNamed, signatureNamed, messageNamed, isValid⟩ := verifies
  obtain ⟨signatureIndex, keyIndex, messageIndex⟩ := names
  obtain ⟨keyInside, isKey⟩ := named_eq_some (keyIndex.symm ▸ here) keyNamed
  obtain ⟨signatureInside, _⟩ := named_eq_some (signatureIndex.symm ▸ here) signatureNamed
  obtain ⟨messageInside, rfl⟩ := named_eq_some (messageIndex.symm ▸ here) messageNamed
  exact ⟨keyInside, signatureInside, messageInside, key, signature, isKey.symm, isValid⟩

/-- Every signature of a verified quote is valid over its header and feeds, with
    the key that the queue has for its oracle index. -/
def Signed (valid : Valid) (queue : QueueAccountData) (quote : OracleQuote) : Prop :=
  ∃ header feeds, (quote.header : Exec AnyError _) = .ok header ∧ (quote.feeds : Exec AnyError _) = .ok feeds ∧
    ∀ i < quote.oracle_count, ∃ idx signature, (quote.oracle_idxs.index i : Exec AnyError _) = .ok idx ∧
      valid queue.ed25519_oracle_signing_keys[idx.toNat % 30]
        (header.signed_slothash.val ++ (feeds.map PackedFeedInfo.toBytes).flatten) signature

section
variable {valid : Valid} {datas : List Bytes} {data : SafeSlice} {k : Nat} (here : datas[k]? = some data.bytes)
  (accepted : Accepted data.toSlice) (first : NamesOnly (recordAt data.bytes 0) k)
  (native : NativeAccepts valid datas k)
include here accepted first native

theorem records_verify {i : Nat} (counted : i < sigCount data.toSlice) :
    let offsets := recordAt data.ptr.rest i
    offsets.public_key_offset + 32 ≤ data.len ∧ offsets.message_data_offset + offsets.message_data_size ≤ data.len ∧
      ∃ (key : Pubkey) (signature : FixedBytes 64), window data.bytes offsets.public_key_offset 32 = key.val ∧
        valid key (window data.bytes offsets.message_data_offset offsets.message_data_size) signature := by
  obtain ⟨own, ownHere, fit, each⟩ := native
  cases here.symm.trans ownHere
  have long := Slice.length_bytes data.inside
  rw [long] at fit
  have firstRest : NamesOnly (recordAt data.ptr.rest 0) k := by
    rwa [recordAt_of_bytes fit accepted.header.2.1]
  have names := namesOnly_of_accepted accepted firstRest counted
  have record := recordAt_of_bytes fit counted
  rw [sigCount_of_bytes fit] at counted
  rw [record] at names ⊢
  have verified := verifies_own here names (each i counted)
  rw [long] at verified
  exact ⟨verified.1, verified.2.2.1, verified.2.2.2⟩

/-- The message of every record is the header and the feeds of the quote, and its
    key the one that the queue has for its oracle index. -/
theorem signed_of_verifies {checks : OverflowChecks} {self : QuoteVerifier} {queue : QueueAccountData}
    {slothashes : AccountInfo} {clock : UInt64} {hash : FixedBytes 32}
    (verifies : Verifies checks self data.toSlice queue slothashes clock hash) :
    Signed valid queue (quoteOf data.toSlice) := by
  have bound : data.len ≤ data.ptr.rest.length := data.inside
  obtain ⟨_, firstInside, _⟩ := records_verify here accepted first native accepted.header.2.1
  obtain ⟨feeds, feedsRead, feedBytes⟩ : ∃ feeds, ((quoteOf data.toSlice).feeds : Exec AnyError _) = .ok feeds ∧ _ :=
    feeds_quoteOf accepted.size (firstInside.trans bound)
  refine ⟨⟨hash⟩, feeds, header_quoteOf verifies.header, feedsRead, ?_⟩
  intro i counted
  obtain ⟨keyInside, messageInside, key, signature, isKey, isValid⟩ :=
    records_verify here accepted first native counted
  refine ⟨oracleIdx data.toSlice i, signature, index_oracle_idxs data accepted.header counted, ?_⟩
  have keyOf : key = expectedKey queue data.toSlice i := by
    apply Subtype.ext
    rw [← isKey, ← Slice.window_rest keyInside]
    exact (verifies.keys i counted).2
  have message : window data.bytes (recordAt data.ptr.rest i).message_data_offset
      (recordAt data.ptr.rest i).message_data_size = hash.val ++ (feeds.map PackedFeedInfo.toBytes).flatten := by
    have same : (recordAt data.ptr.rest i).message_data_offset = (recordAt data.ptr.rest 0).message_data_offset ∧
        (recordAt data.ptr.rest i).message_data_size = (recordAt data.ptr.rest 0).message_data_size := by
      rcases Nat.eq_zero_or_pos i with rfl | later
      · exact ⟨rfl, rfl⟩
      · exact ⟨(accepted.agrees i later counted).1, (accepted.agrees i later counted).2.1⟩
    obtain ⟨count, _, size⟩ := accepted.size
    rw [← Slice.window_rest messageInside, same.1, same.2, feedBytes, ← verifies.header.2, ← window_add]
    congr 1
    omega
  rw [message, keyOf] at isValid
  exact isValid

end

/-- End-to-end authenticity: what `verify_instruction_at` accepts, of an
    instruction that the native program accepts, is signed. -/
theorem quote_signed (valid : Valid) (checks : OverflowChecks) (self : QuoteVerifier) (sysvar : InstructionsSysvar)
    (k : Int64) (quote : OracleQuote) (ixSet : self.ix_sysvar = some sysvar.account)
    (native : NativeAccepts valid (sysvar.instructions.map Instruction.data) k.toUInt64.toNat)
    (verified : verify_instruction_at checks self k = .ok quote) :
    ∃ account queue, self.queue = some account ∧ IsQueue account queue ∧ Signed valid queue quote := by
  rw [verify_instruction_at, ixSet, Exec.okOr, Exec.ok_bind, Exec.bind_eq_ok] at verified
  obtain ⟨source, found, verified⟩ := verified
  obtain ⟨inside, _, _, names, rfl⟩ := (extract_ix_data_ok_iff sysvar _ source).mp found
  obtain ⟨inBounds, bytes⟩ := instructionSlice_bytes sysvar inside
  let data : SafeSlice := ⟨instructionSlice sysvar _ inside, inBounds⟩
  have isData : data.bytes = sysvar.instructions[k.toUInt64.toNat].data := bytes
  have here : (sysvar.instructions.map Instruction.data)[k.toUInt64.toNat]? = some data.bytes := by
    rw [isData, List.getElem?_map, List.getElem?_eq_getElem inside, Option.map_some]
  have first : NamesOnly (recordAt data.bytes 0) k.toUInt64.toNat := by
    rw [isData]
    exact (firstRecordNames_iff _ _).mp names
  obtain ⟨⟨queue, slothashes, clock, hash, verifies⟩, rfl⟩ := (verify_ok_iff checks self data quote).mp verified
  obtain ⟨account, queueSet, isQueue⟩ := verifies.queueSet
  exact ⟨account, queue, queueSet, isQueue, signed_of_verifies here verifies.accepted first native verifies⟩

/-- A signature check that knows one signature, which the real check accepts as well. -/
def signedOnce : Valid := fun key message signature =>
  key = oracleKey ∧ message = (signedQuote zeroOnce).message ∧ signature = oracleSignature

theorem quote_signed_signedQuote :
    let verifier := verifierWith (signedTransaction zeroTwice).account
    ∃ quote account queue, verify_instruction_at .on verifier 0 = .ok quote ∧ verifier.queue = some account ∧
      IsQueue account queue ∧ Signed signedOnce queue quote := by
  intro verifier
  obtain ⟨quote, verified⟩ := verify_signedTransaction .on zeroTwice (by decide)
  have native : NativeAccepts signedOnce ((signedTransaction zeroTwice).instructions.map Instruction.data)
      (0 : Int64).toUInt64.toNat := nativeAccepts_oneSigner (signedQuote zeroTwice) rfl ⟨rfl, rfl, rfl⟩
  obtain ⟨account, queue, queueSet, isQueue, signed⟩ :=
    quote_signed signedOnce .on verifier (signedTransaction zeroTwice) 0 quote rfl native verified
  exact ⟨quote, account, queue, verified, queueSet, isQueue, signed⟩

end SwitchboardOnDemand.Authenticity
