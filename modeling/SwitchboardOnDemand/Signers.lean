import SwitchboardOnDemand.Encoding

/-!
# The counted signers

`verify` counts signature records. It compares the key of each with the queue
slot that its trailer index names modulo 30, and compares no record with another
one and no slot with the value of an unset one. Two counted keys therefore
differ exactly when their records name different slots that are not both unset
(`counted_keys_distinct_iff`), and a counted signature is attributed to a
registered oracle exactly when its index needs no reduction and its slot is set
(`attributed_iff`).
-/

namespace SwitchboardOnDemand.Signers
open Rust SwitchboardOnDemand.Utils SwitchboardOnDemand.Ed25519Sysvar SwitchboardOnDemand.Quote
open SwitchboardOnDemand.Queue SwitchboardOnDemand.Verifier SwitchboardOnDemand.Encoding

/-- The key of the signature with number `i`, read through the pointer that the
    parser gives for it. -/
def signing_key (data : Slice) (i : Nat) : Exec AnyError Pubkey := do
  let parsed ← parse_instruction data
  let sig ← sig_at parsed.parsed_sigs i
  sig.pubkey_bytes

/-- The keys of the first `count` signatures are pairwise distinct. -/
def KeysDistinct (data : Slice) (count : Nat) : Prop :=
  ∀ i j, i < j → j < count → signing_key data i ≠ signing_key data j

/-- The keys that are set in a queue are pairwise distinct. -/
def NonzeroDistinct (queue : QueueAccountData) : Prop :=
  ∀ i j, (insideI : i < 30) → (insideJ : j < 30) → i ≠ j → queue.ed25519_oracle_signing_keys[i] ≠ unsetKey →
    queue.ed25519_oracle_signing_keys[i] ≠ queue.ed25519_oracle_signing_keys[j]

/-- The records name pairwise different slots, at most one of them unset. -/
def SlotsDistinct (queue : QueueAccountData) (data : Slice) : Prop :=
  ∀ i j, i < j → j < sigCount data →
    (oracleIdx data i).toNat % 30 ≠ (oracleIdx data j).toNat % 30 ∧
      ¬ (expectedKey queue data i = unsetKey ∧ expectedKey queue data j = unsetKey)

/-- Every counted signature has an index of the queue, at which the queue has its
    key, and that key is set. -/
def Attributed (queue : QueueAccountData) (data : Slice) (quote : OracleQuote) : Prop :=
  ∀ i < quote.oracle_count, ∃ k, quote.oracle_index i = .ok k ∧ ∃ inside : k.toNat < 30,
    signing_key data i = .ok queue.ed25519_oracle_signing_keys[k.toNat] ∧
      queue.ed25519_oracle_signing_keys[k.toNat] ≠ unsetKey

/-- Every record has an index below 30 of a slot that is set. -/
def IndexesRegistered (queue : QueueAccountData) (data : Slice) : Prop :=
  ∀ i < sigCount data, (oracleIdx data i).toNat < 30 ∧ expectedKey queue data i ≠ unsetKey

/-! ### The signer of a record -/

theorem signing_key_eq {queue : QueueAccountData} {data : SafeSlice} (accepted : Accepted data.toSlice)
    (keys : KeysHold queue data.toSlice) {i : Nat} (counted : i < sigCount data.toSlice) :
    signing_key data.toSlice i = .ok (expectedKey queue data.toSlice i) := by
  obtain ⟨inside, same⟩ := keys i counted
  have parsed := (parse_instruction_ok_iff data _).mpr ⟨accepted, rfl⟩
  have sig : (sig_at (parsedOf data.toSlice).parsed_sigs i : Exec AnyError _) = _ :=
    sig_at_signatureRefs data.ptr counted accepted.header.2.2.1
  rw [signing_key, parsed, Exec.ok_bind, sig, Exec.ok_bind, ParsedEd25519SignatureDataRef.pubkey_bytes, signature_ref,
    Ptr.read_add inside]
  exact congrArg Exec.ok (Subtype.ext same)

/-- The index of a counted signature is its byte of the trailer, unreduced. -/
theorem oracle_index_eq {data : SafeSlice} (header : HeaderOk data.toSlice) {i : Nat}
    (counted : i < sigCount data.toSlice) :
    (quoteOf data.toSlice).oracle_index i = .ok (oracleIdx data.toSlice i) := by
  obtain ⟨_, _, _, room⟩ := header
  have inside : data.len ≤ data.ptr.rest.length := data.inside
  rw [OracleQuote.oracle_index, quoteOf, if_pos counted, Slice.index_of_lt _ counted]
  · simp only [Ptr.rest_add, byteAt_drop, oracleIdx]
  · simp only [Slice.InBounds, Ptr.rest_add, List.length_drop]
    omega

theorem keysHold_of_verified {checks : OverflowChecks} {self : QuoteVerifier} {data : SafeSlice} {quote : OracleQuote}
    {account : AccountInfo} {queue : QueueAccountData} (verified : verify checks self data.toSlice = .ok quote)
    (queueSet : self.queue = some account) (isQueue : IsQueue account queue) :
    Accepted data.toSlice ∧ KeysHold queue data.toSlice ∧ quote = quoteOf data.toSlice := by
  obtain ⟨⟨other, sysvar, clock, hash, verifies⟩, rfl⟩ := (verify_ok_iff checks self data quote).mp verified
  obtain ⟨otherAccount, otherSet, _, isOther⟩ := verifies.queueSet
  rw [queueSet] at otherSet
  cases otherSet
  rw [isQueue.2] at isOther
  cases isOther
  exact ⟨verifies.accepted, verifies.keys, rfl⟩

/-! ### Different signers -/

/-- Two keys of a queue with distinct keys differ exactly when they stand at
    different places and are not both unset. -/
theorem key_ne_iff {queue : QueueAccountData} (distinct : NonzeroDistinct queue) (i j : Nat) (insideI : i < 30)
    (insideJ : j < 30) :
    queue.ed25519_oracle_signing_keys[i] ≠ queue.ed25519_oracle_signing_keys[j] ↔
      i ≠ j ∧ ¬ (queue.ed25519_oracle_signing_keys[i] = unsetKey ∧
        queue.ed25519_oracle_signing_keys[j] = unsetKey) := by
  constructor
  · intro differ
    constructor
    · rintro rfl
      exact differ rfl
    · rintro ⟨unsetI, unsetJ⟩
      exact differ (unsetI.trans unsetJ.symm)
  · rintro ⟨apart, notBoth⟩
    by_cases set : queue.ed25519_oracle_signing_keys[i] = unsetKey
    · exact fun same => notBoth ⟨set, same ▸ set⟩
    · exact distinct i j insideI insideJ apart set

/-- The count is that of the records, and the keys of the counted signatures are
    pairwise distinct exactly when their records name pairwise different slots of
    the queue, at most one of them unset. -/
theorem counted_keys_distinct_iff {checks : OverflowChecks} {self : QuoteVerifier} {data : SafeSlice}
    {quote : OracleQuote} {account : AccountInfo} {queue : QueueAccountData}
    (verified : verify checks self data.toSlice = .ok quote) (queueSet : self.queue = some account)
    (isQueue : IsQueue account queue) (distinct : NonzeroDistinct queue) :
    quote.oracle_count = sigCount data.toSlice ∧
      (KeysDistinct data.toSlice quote.oracle_count ↔ SlotsDistinct queue data.toSlice) := by
  obtain ⟨accepted, keys, rfl⟩ := keysHold_of_verified verified queueSet isQueue
  refine ⟨rfl, ?_⟩
  refine forall_congr' fun i => forall_congr' fun j => imp_congr_right fun before => imp_congr_right fun counted => ?_
  have countedJ : j < sigCount data.toSlice := counted
  rw [signing_key_eq accepted keys (Nat.lt_trans before countedJ), signing_key_eq accepted keys countedJ, ne_eq,
    Exec.ok.injEq]
  exact key_ne_iff distinct _ _ (Nat.mod_lt _ (by decide)) (Nat.mod_lt _ (by decide))

theorem nonzeroDistinct_oneOracleQueue : NonzeroDistinct oneOracleQueue.queue := by
  intro i j insideI insideJ apart
  rw [oneOracleQueue_key insideI, oneOracleQueue_key insideJ]
  by_cases zero : i = 0
  · rw [if_pos zero, if_neg (by omega)]
    decide
  · rw [if_neg zero]
    exact fun set => absurd rfl set

def zeroAnd30 : OracleIdxs := ⟨[0, 30], by decide⟩

theorem counted_keys_distinct_iff_zeroAnd30 :
    ¬ KeysDistinct (signedData zeroAnd30).toSlice (quoteOf (signedData zeroAnd30).toSlice).oracle_count := by
  have count : sigCount (signedData zeroAnd30).toSlice = 2 := sigCount_signedData _
  obtain ⟨_, distinct⟩ := counted_keys_distinct_iff (verify_signedData .on zeroAnd30 (by decide)) rfl
    isQueue_oneOracleQueue nonzeroDistinct_oneOracleQueue
  refine distinct.not.mpr fun slots => (slots 0 1 (by decide) (by rw [count]; decide)).1 ?_
  rw [oracleIdx_signedData _ (by decide), oracleIdx_signedData _ (by decide)]
  decide

/-- A quote whose two records repeat one signature is accepted, and both are
    counted. -/
theorem repeated_signature_counted_twice :
    NonzeroDistinct oneOracleQueue.queue ∧
    verify .on verifierAt2000 (signedData zeroTwice).toSlice = .ok (quoteOf (signedData zeroTwice).toSlice) ∧
    ¬ KeysDistinct (signedData zeroTwice).toSlice (quoteOf (signedData zeroTwice).toSlice).oracle_count := by
  have verified := verify_signedData .on zeroTwice (by decide)
  obtain ⟨accepted, keys, _⟩ := keysHold_of_verified verified rfl isQueue_oneOracleQueue
  have count : sigCount (signedData zeroTwice).toSlice = 2 := sigCount_signedData _
  have first : oracleIdx (signedData zeroTwice).toSlice 0 = 0 := oracleIdx_signedData zeroTwice (by decide)
  have second : oracleIdx (signedData zeroTwice).toSlice 1 = 0 := oracleIdx_signedData zeroTwice (by decide)
  refine ⟨nonzeroDistinct_oneOracleQueue, verified, ?_⟩
  intro distinct
  refine distinct 0 1 (by decide) (lt_of_lt_of_eq (by decide) count.symm) ?_
  rw [signing_key_eq accepted keys (by rw [count]; decide), signing_key_eq accepted keys (by rw [count]; decide),
    expectedKey, expectedKey]
  simp only [first, second]

/-! ### Registered signers -/

/-- The counted signatures are attributed to registered oracles exactly when every
    trailer index is below 30 and names a slot that is set. -/
theorem attributed_iff {checks : OverflowChecks} {self : QuoteVerifier} {data : SafeSlice} {quote : OracleQuote}
    {account : AccountInfo} {queue : QueueAccountData} (verified : verify checks self data.toSlice = .ok quote)
    (queueSet : self.queue = some account) (isQueue : IsQueue account queue) :
    Attributed queue data.toSlice quote ↔ IndexesRegistered queue data.toSlice := by
  obtain ⟨accepted, keys, rfl⟩ := keysHold_of_verified verified queueSet isQueue
  refine forall_congr' fun i => imp_congr_right fun counted => ?_
  have place : ∀ inside : (oracleIdx data.toSlice i).toNat < 30,
      queue.ed25519_oracle_signing_keys[(oracleIdx data.toSlice i).toNat] = expectedKey queue data.toSlice i := by
    intro inside
    simp only [expectedKey, Nat.mod_eq_of_lt inside]
  rw [signing_key_eq accepted keys counted, oracle_index_eq accepted.header counted]
  constructor
  · rintro ⟨k, index, inside, _, set⟩
    cases index
    exact ⟨inside, place inside ▸ set⟩
  · rintro ⟨inside, set⟩
    exact ⟨_, rfl, inside, by rw [place inside], place inside ▸ set⟩

theorem attributed_iff_zeroOnce :
    Attributed oneOracleQueue.queue (signedData zeroOnce).toSlice (quoteOf (signedData zeroOnce).toSlice) := by
  have count : sigCount (signedData zeroOnce).toSlice = 1 := sigCount_signedData _
  have idx : oracleIdx (signedData zeroOnce).toSlice 0 = 0 := oracleIdx_signedData zeroOnce (by decide)
  have verified := verify_signedData .on zeroOnce (by decide)
  refine (attributed_iff verified rfl isQueue_oneOracleQueue).mpr ?_
  intro i counted
  have first : i = 0 := by omega
  rw [first]
  refine ⟨by rw [idx]; decide, ?_⟩
  simp only [expectedKey, idx]
  rw [oneOracleQueue_key (by decide)]
  decide

def thirtyOnce : OracleIdxs := ⟨[30], by decide⟩

/-- A quote with index 30 is accepted, and the index that it hands on is no index
    of the queue. -/
theorem index_30_not_attributed :
    verify .on verifierAt2000 (signedData thirtyOnce).toSlice = .ok (quoteOf (signedData thirtyOnce).toSlice) ∧
    ¬ Attributed oneOracleQueue.queue (signedData thirtyOnce).toSlice (quoteOf (signedData thirtyOnce).toSlice) := by
  have verified := verify_signedData .on thirtyOnce (by decide)
  obtain ⟨accepted, _⟩ := keysHold_of_verified verified rfl isQueue_oneOracleQueue
  have count : sigCount (signedData thirtyOnce).toSlice = 1 := sigCount_signedData _
  have idx : oracleIdx (signedData thirtyOnce).toSlice 0 = 30 := oracleIdx_signedData thirtyOnce (by decide)
  refine ⟨verified, ?_⟩
  intro attributed
  obtain ⟨k, index, inside, _⟩ := attributed 0 (lt_of_lt_of_eq (by decide) count.symm)
  rw [oracle_index_eq accepted.header (by rw [count]; decide), idx] at index
  cases index
  exact absurd inside (by decide)

end SwitchboardOnDemand.Signers
