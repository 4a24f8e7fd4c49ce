import SwitchboardOnDemand.Encoding

/-!
# The age of a quote

The slot of a quote lies in the unsigned trailer. `verify` accepts it only
within the age that the verifier allows and only when the sysvar has the signed
hash for it. Where different slots carry different hashes the message therefore
fixes the slot: rewriting the trailer of a signed quote cannot change its age
(`age_not_forged`).
-/

namespace SwitchboardOnDemand.Freshness
open Rust SwitchboardOnDemand.Utils SwitchboardOnDemand.FeedInfo SwitchboardOnDemand.SlotSearch
open SwitchboardOnDemand.SlothashSysvar SwitchboardOnDemand.Ed25519Sysvar SwitchboardOnDemand.Quote
open SwitchboardOnDemand.Verifier SwitchboardOnDemand.Encoding

/-- The signed message, read through the pointer that the parser gives for the
    first signature. -/
def signed_message (data : Slice) : Exec AnyError Bytes := do
  let parsed ← parse_instruction data
  let sig ← sig_at parsed.parsed_sigs 0
  let message ← sig.message_bytes
  pure message.val

/-- Different slots carry different hashes. -/
def HashesDiffer (sysvar : SlotHashesSysvar) : Prop :=
  ∀ a ∈ sysvar.entries, ∀ b ∈ sysvar.entries, a.slot ≠ b.slot → a.hash ≠ b.hash

/-- A quote of the verifier's age, whose signed hash the sysvar has for its slot. -/
def Current (self : QuoteVerifier) (sysvar : SlotHashesSysvar) (clock : UInt64) (quote : OracleQuote) : Prop :=
  quote.recent_slot ≤ clock ∧ clock - quote.recent_slot ≤ self.max_age ∧
    ∃ header : PackedQuoteHeader, (quote.header : Exec AnyError _) = .ok header ∧
      ⟨quote.recent_slot, header.signed_slothash⟩ ∈ sysvar.entries

theorem current_of_verified {checks : OverflowChecks} {self : QuoteVerifier} {data : SafeSlice} {quote : OracleQuote}
    {sysvar : SlotHashesSysvar} {clock : UInt64} (sysvarSet : self.slothash_sysvar = some sysvar.account)
    (clockSet : self.clock_slot = some clock) (verified : verify checks self data.toSlice = .ok quote) :
    Current self sysvar clock quote := by
  obtain ⟨⟨queue, account, time, hash, verifies⟩, rfl⟩ := (verify_ok_iff checks self data quote).mp verified
  have same := verifies.sysvarSet
  rw [sysvarSet] at same
  cases same
  have now := verifies.clockSet
  rw [clockSet] at now
  cases now
  exact ⟨verifies.fresh.1, verifies.fresh.2, ⟨hash⟩, header_quoteOf verifies.header, find_slothash_mem verifies.found⟩

theorem signed_message_eq {data : SafeSlice} (accepted : Accepted data.toSlice) :
    signed_message data.toSlice = Subtype.val <$> (data.ptr.add (recordAt data.ptr.rest 0).message_data_offset).read
      (recordAt data.ptr.rest 0).message_data_size := by
  have sig : (sig_at (parsedOf data.toSlice).parsed_sigs 0 : Exec AnyError _) = _ :=
    sig_at_signatureRefs data.ptr accepted.header.2.1 accepted.header.2.2.1
  rw [signed_message, (parse_instruction_ok_iff data _).mpr ⟨accepted, rfl⟩, Exec.ok_bind, sig, Exec.ok_bind,
    map_eq_pure_bind]
  rfl

theorem hash_of_message {data : SafeSlice} {message : Bytes} {hash : FixedBytes 32} (accepted : Accepted data.toSlice)
    (header : HeaderHolds data.toSlice hash) (read : signed_message data.toSlice = .ok message) :
    window message 0 32 = hash.val := by
  obtain ⟨feeds, _, size⟩ := accepted.size
  rw [signed_message_eq accepted, Exec.map_eq_ok] at read
  obtain ⟨bytes, done, rfl⟩ := read
  have positive : 0 < (recordAt data.ptr.rest 0).message_data_size := by omega
  obtain ⟨_, isWindow⟩ := (Ptr.read_add_eq_ok positive).mp done
  rw [isWindow, window_window (by omega), Nat.add_zero]
  exact header.2

/-- Freshness: a verified quote is current, and quotes with the same signed
    message have the same slot. -/
theorem age_not_forged {sysvar : SlotHashesSysvar} (differ : HashesDiffer sysvar) :
    (∀ (checks : OverflowChecks) (self : QuoteVerifier) (data : SafeSlice) (quote : OracleQuote) (clock : UInt64),
      self.slothash_sysvar = some sysvar.account → self.clock_slot = some clock →
      verify checks self data.toSlice = .ok quote → Current self sysvar clock quote) ∧
    (∀ (checks : OverflowChecks) (one two : QuoteVerifier) (a b : SafeSlice) (q r : OracleQuote) (message : Bytes),
      one.slothash_sysvar = some sysvar.account → two.slothash_sysvar = some sysvar.account →
      verify checks one a.toSlice = .ok q → verify checks two b.toSlice = .ok r →
      signed_message a.toSlice = .ok message → signed_message b.toSlice = .ok message →
      q.recent_slot = r.recent_slot) := by
  refine ⟨fun _ _ _ _ _ sysvarSet clockSet verified => current_of_verified sysvarSet clockSet verified, ?_⟩
  intro checks one two a b q r message sysvarOne sysvarTwo verifiedA verifiedB messageA messageB
  obtain ⟨⟨_, accountA, _, hashA, verifiesA⟩, rfl⟩ := (verify_ok_iff checks one a q).mp verifiedA
  obtain ⟨⟨_, accountB, _, hashB, verifiesB⟩, rfl⟩ := (verify_ok_iff checks two b r).mp verifiedB
  have sameA := sysvarOne.symm.trans verifiesA.sysvarSet
  have sameB := sysvarTwo.symm.trans verifiesB.sysvarSet
  cases sameA
  cases sameB
  have sameHash : hashA = hashB := Subtype.ext <| by
    rw [← hash_of_message verifiesA.accepted verifiesA.header messageA,
      ← hash_of_message verifiesB.accepted verifiesB.header messageB]
  have entryA := find_slothash_mem verifiesA.found
  have entryB := find_slothash_mem verifiesB.found
  by_contra apart
  exact differ _ entryA _ entryB apart sameHash

theorem hashesDiffer_everyOtherSlot : HashesDiffer everyOtherSlot.toSlotHashesSysvar := by
  intro a memberA b memberB apart
  obtain ⟨i, _, rfl⟩ := eq_evenSlot_of_mem memberA
  obtain ⟨j, _, rfl⟩ := eq_evenSlot_of_mem memberB
  exact evenSlot_hash_ne apart

theorem signed_message_data (signer : OneSigner) :
    signed_message (SafeSlice.of signer.data).toSlice = .ok signer.message := by
  have long := signer.length_data
  have inside : signer.messageAt + signer.message.length ≤ (addrOf signer.data).rest.length := by
    simp only [addrOf_rest, OneSigner.signatureAt, OneSigner.keyAt] at long ⊢
    omega
  have record : recordAt (addrOf signer.data).rest 0 = signer.offsets := signer.recordAt_data signer.someIdx
  have read : (((addrOf signer.data).add signer.messageAt).read signer.message.length : Exec AnyError _) =
      .ok ⟨signer.message, rfl⟩ := by
    rw [Ptr.read_add inside]
    exact congrArg Exec.ok (Subtype.ext signer.window_message)
  rw [signed_message_eq signer.accepted]
  simp only [SafeSlice.of, Slice.of]
  rw [record]
  exact Exec.map_eq_ok.mpr ⟨_, read, rfl⟩

/-- Two quotes with one message, one record and two records: the first is current
    and both have one slot. -/
theorem age_not_forged_signedQuote :
    Current verifierAt2000 everyOtherSlot.toSlotHashesSysvar 2000 (quoteOf (signedData zeroOnce).toSlice) ∧
    (quoteOf (signedData zeroOnce).toSlice).recent_slot = (quoteOf (signedData zeroTwice).toSlice).recent_slot := by
  have once := verify_signedData .on zeroOnce (by decide)
  have twice := verify_signedData .on zeroTwice (by decide)
  obtain ⟨current, one_slot⟩ := age_not_forged hashesDiffer_everyOtherSlot
  exact ⟨current .on verifierAt2000 (signedData zeroOnce) _ 2000 rfl rfl once,
    one_slot .on verifierAt2000 verifierAt2000 (signedData zeroOnce) (signedData zeroTwice) _ _ _ rfl rfl once twice
      (signed_message_data (signedQuote zeroOnce)) (signed_message_data (signedQuote zeroTwice))⟩

end SwitchboardOnDemand.Freshness
