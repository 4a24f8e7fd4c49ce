import SwitchboardOnDemand.Encoding

/-!
# What the verifier looks at

Of the data, `verify` only ever compares the count, the records, the hash in
front of the first message, the keys and the trailer. Two data with these parts
in common, both at even or both at odd addresses, are accepted alike
(`verify_footprint`), whatever their feeds and signatures are: that the feeds are
signed rests on the native program alone.
-/

namespace SwitchboardOnDemand.Footprint
open Rust SwitchboardOnDemand.Utils SwitchboardOnDemand.FeedInfo SwitchboardOnDemand.Ed25519Sysvar
open SwitchboardOnDemand.Queue SwitchboardOnDemand.Quote SwitchboardOnDemand.Verifier SwitchboardOnDemand.Placement
open SwitchboardOnDemand.Encoding

/-- The parts of two data that the verifier looks at are the same. -/
structure SameFootprint (a b : Bytes) : Prop where
  length : a.length = b.length
  records : window a 0 (2 + 14 * (byteAt a 0).toNat) = window b 0 (2 + 14 * (byteAt a 0).toNat)
  hash : 0 < (byteAt a 0).toNat →
    window a (recordAt a 0).message_data_offset 32 = window b (recordAt a 0).message_data_offset 32
  keys : ∀ i < (byteAt a 0).toNat,
    window a (recordAt a i).public_key_offset 32 = window b (recordAt a i).public_key_offset 32
  trailer : window a (a.length - (byteAt a 0).toNat - 13) ((byteAt a 0).toNat + 13) =
    window b (a.length - (byteAt a 0).toNat - 13) ((byteAt a 0).toNat + 13)

/-- Equal windows have equal parts. -/
theorem window_part {a b : Bytes} {outer size : Nat} (same : window a outer size = window b outer size)
    (start width : Nat) (inside : start + width ≤ size) : window a (outer + start) width = window b (outer + start) width := by
  rw [← window_window inside, same, window_window inside]

theorem byteAt_part {a b : Bytes} {outer size i : Nat} (same : window a outer size = window b outer size)
    (inside : i < size) : byteAt a (outer + i) = byteAt b (outer + i) := by
  have read : ∀ bytes, byteAt (window bytes outer size) i = byteAt bytes (outer + i) := by
    intro bytes
    rw [window, byteAt_take inside, byteAt_drop]
  rw [← read, same, read]

namespace SameFootprint

variable {a b : Bytes} (same : SameFootprint a b)
include same

theorem count : byteAt b 0 = byteAt a 0 := by
  have first := byteAt_part same.records (i := 0) (by omega)
  rwa [Nat.zero_add, eq_comm] at first

theorem record {i : Nat} (counted : i < (byteAt a 0).toNat) : recordAt b i = recordAt a i := by
  have part := window_part same.records (2 + 14 * i) 14 (by omega)
  rw [Nat.zero_add] at part
  rw [recordAt, recordAt, part]

theorem offsetsInside (inside : OffsetsInside a) : OffsetsInside b := by
  rw [OffsetsInside, RangesInside, same.count, ← same.length]
  refine ⟨inside.1, fun i counted => ?_⟩
  rw [same.record counted]
  exact inside.2 i counted

theorem symm : SameFootprint b a := by
  refine ⟨same.length.symm, ?_, ?_, ?_, ?_⟩
  · rw [same.count]
    exact same.records.symm
  · rw [same.count]
    intro some
    rw [same.record some]
    exact (same.hash some).symm
  · rw [same.count]
    intro i counted
    rw [same.record counted]
    exact (same.keys i counted).symm
  · rw [same.count, ← same.length]
    exact same.trailer.symm

/-! ### The parser and the verifier -/

theorem headerOk (header : HeaderOk (Slice.of a)) : HeaderOk (Slice.of b) := by
  simp only [HeaderOk, sigCount, Slice.of_ptr_rest, Slice.of_len] at header ⊢
  rwa [same.count, ← same.length]

theorem accepted (accepted : Accepted (Slice.of a)) : Accepted (Slice.of b) := by
  have some := accepted.header.2.1
  have count : sigCount (Slice.of b) = sigCount (Slice.of a) := congrArg UInt8.toNat same.count
  refine ⟨evenAddress_of b, same.headerOk accepted.header, fun i counted => ?_, ?_, fun i later counted => ?_⟩
  · rw [count] at counted
    have readable := accepted.readable i counted
    rw [Readable, Slice.of_ptr_rest] at readable ⊢
    rwa [← same.length]
  · rw [Slice.of_ptr_rest, same.record some]
    exact accepted.size
  · rw [count] at counted
    rw [Slice.of_ptr_rest, same.record some, same.record counted]
    exact accepted.agrees i later counted

theorem recentSlot (header : HeaderOk (Slice.of a)) : recentSlot (Slice.of b) = recentSlot (Slice.of a) := by
  have room : 13 + (byteAt a 0).toNat ≤ a.length := header.2.2.2
  have part := window_part same.trailer (byteAt a 0).toNat 8 (by omega)
  rw [show a.length - (byteAt a 0).toNat - 13 + (byteAt a 0).toNat = a.length - 13 by omega] at part
  rw [Verifier.recentSlot, Verifier.recentSlot, Slice.of_ptr_rest, Slice.of_ptr_rest, Slice.of_len, Slice.of_len,
    ← same.length, part]

theorem oracleIdx {i : Nat} (counted : i < (byteAt a 0).toNat) :
    oracleIdx (Slice.of b) i = oracleIdx (Slice.of a) i := by
  have part := byteAt_part same.trailer (i := i) (by omega)
  simp only [Verifier.oracleIdx, sigCount, Slice.of_ptr_rest, Slice.of_len, same.count, ← same.length]
  exact part.symm

theorem holds {offset : Nat} (part : window a offset 32 = window b offset 32) {hash : FixedBytes 32}
    (holds : Holds a offset hash) : Holds b offset hash :=
  ⟨same.length ▸ holds.1, part ▸ holds.2⟩

theorem keysHold {queue : QueueAccountData} (keys : KeysHold queue (Slice.of a)) : KeysHold queue (Slice.of b) := by
  intro i counted
  have inA : i < (byteAt a 0).toNat := lt_of_lt_of_eq counted (congrArg UInt8.toNat same.count)
  rw [Slice.of_ptr_rest, same.record inA]
  simp only [expectedKey, same.oracleIdx inA]
  exact same.holds (same.keys i inA) (keys i inA)

theorem verifies {checks : OverflowChecks} {verifier : QuoteVerifier} {queue : QueueAccountData} {sysvar : AccountInfo}
    {clock : UInt64} {hash : FixedBytes 32} (verifies : Verifies checks verifier (Slice.of a) queue sysvar clock hash) :
    Verifies checks verifier (Slice.of b) queue sysvar clock hash := by
  have header := verifies.accepted.header
  have slot := same.recentSlot header
  refine ⟨same.accepted verifies.accepted, verifies.queueSet, verifies.sysvarSet, verifies.clockSet,
    slot ▸ verifies.fresh, slot ▸ verifies.found, ?_, same.keysHold verifies.keys⟩
  rw [HeaderHolds, Slice.of_ptr_rest, same.record header.2.1]
  exact same.holds (same.hash header.2.1) verifies.header

/-- What a quote says apart from its feeds comes from the footprint. -/
theorem viewFrom (header : HeaderOk (Slice.of a)) {v w : QuoteView} (first : (viewFrom a : Exec AnyError _) = .ok v)
    (second : (viewFrom b : Exec AnyError _) = .ok w) :
    v.header = w.header ∧ v.oracle_count = w.oracle_count ∧ v.oracle_idxs = w.oracle_idxs ∧
      v.recent_slot = w.recent_slot ∧ v.version = w.version ∧ v.feeds.length = w.feeds.length := by
  have some : 0 < (byteAt a 0).toNat := header.2.1
  have room : 13 + (byteAt a 0).toNat ≤ a.length := header.2.2.2
  have idxs := window_part same.trailer 0 (byteAt a 0).toNat (by omega)
  have slot := window_part same.trailer (byteAt a 0).toNat 8 (by omega)
  have version := byteAt_part same.trailer (i := (byteAt a 0).toNat + 8) (by omega)
  rw [Nat.add_zero] at idxs
  rw [show a.length - (byteAt a 0).toNat - 13 + (byteAt a 0).toNat = a.length - 13 by omega] at slot
  rw [show a.length - (byteAt a 0).toNat - 13 + ((byteAt a 0).toNat + 8) = a.length - 5 by omega] at version
  simp only [Placement.viewFrom, Exec.bind_eq_ok, Exec.pure_eq, Exec.ok.injEq] at first second
  obtain ⟨headerA, readA, feedsA, feedsReadA, rfl⟩ := first
  obtain ⟨headerB, readB, feedsB, feedsReadB, rfl⟩ := second
  rw [same.record some] at readB feedsReadB
  simp only [same.count, ← same.length]
  refine ⟨?_, trivial, idxs, congrArg leU64 slot, version,
    (read_feeds_bytes feedsReadA).1.trans (read_feeds_bytes feedsReadB).1.symm⟩
  simp only [read_header, Exec.map_eq_ok, Ptr.read_add_eq_ok (show 0 < 32 by decide), addrOf_rest] at readA readB
  obtain ⟨hashA, ⟨_, isA⟩, rfl⟩ := readA
  obtain ⟨hashB, ⟨_, isB⟩, rfl⟩ := readB
  exact congrArg PackedQuoteHeader.mk (Subtype.ext (isA.trans ((same.hash some).trans isB.symm)))

end SameFootprint

section
variable {a b : SafeSlice} (parity : EvenAddress a.toSlice ↔ EvenAddress b.toSlice)
  (inside : OffsetsInside a.bytes) (same : SameFootprint a.bytes b.bytes)
include parity inside same

theorem verify_of_footprint {checks : OverflowChecks} {verifier : QuoteVerifier} {quote : OracleQuote}
    (verified : verify checks verifier a.toSlice = .ok quote) : ∃ quote, verify checks verifier b.toSlice = .ok quote := by
  obtain ⟨⟨queue, sysvar, clock, hash, verifies⟩, _⟩ := (verify_ok_iff checks verifier a quote).mp verified
  obtain ⟨even, onA⟩ := (verifies_of_bytes inside ..).mp verifies
  have onB := (verifies_of_bytes (same.offsetsInside inside) ..).mpr ⟨parity.mp even, same.verifies onA⟩
  exact ⟨_, (verify_ok_iff checks verifier b _).mpr ⟨⟨queue, sysvar, clock, hash, onB⟩, rfl⟩⟩

end

/-- The verifier accepts data with the same footprint at addresses of the same parity
    alike, and its quotes differ in their feeds at most. -/
theorem verify_footprint (checks : OverflowChecks) (verifier : QuoteVerifier) (a b : SafeSlice)
    (parity : EvenAddress a.toSlice ↔ EvenAddress b.toSlice) (inside : OffsetsInside a.bytes)
    (same : SameFootprint a.bytes b.bytes) :
    ((∃ quote, verify checks verifier a.toSlice = .ok quote) ↔ ∃ quote, verify checks verifier b.toSlice = .ok quote) ∧
    ∀ q r, verify checks verifier a.toSlice = .ok q → verify checks verifier b.toSlice = .ok r →
      ∃ v w, (q.view : Exec AnyError _) = .ok v ∧ (r.view : Exec AnyError _) = .ok w ∧ v.header = w.header ∧
        v.oracle_count = w.oracle_count ∧ v.oracle_idxs = w.oracle_idxs ∧ v.recent_slot = w.recent_slot ∧
        v.version = w.version ∧ v.feeds.length = w.feeds.length := by
  have insideB := same.offsetsInside inside
  refine ⟨⟨fun ⟨_, verified⟩ => verify_of_footprint parity inside same verified,
    fun ⟨_, verified⟩ => verify_of_footprint parity.symm insideB same.symm verified⟩, ?_⟩
  intro q r verifiedA verifiedB
  obtain ⟨⟨_, _, _, _, verifiesA⟩, rfl⟩ := (verify_ok_iff checks verifier a q).mp verifiedA
  obtain ⟨⟨_, _, _, _, verifiesB⟩, rfl⟩ := (verify_ok_iff checks verifier b r).mp verifiedB
  obtain ⟨v, readA, _⟩ : ∃ v, (viewFrom a.bytes : Exec AnyError _) = .ok v ∧ _ := view_ok inside verifiesA.accepted
  obtain ⟨w, readB, _⟩ : ∃ w, (viewFrom b.bytes : Exec AnyError _) = .ok w ∧ _ := view_ok insideB verifiesB.accepted
  exact ⟨v, w, (view_of_bytes inside verifiesA.accepted).trans readA, (view_of_bytes insideB verifiesB.accepted).trans readB,
    same.viewFrom ((accepted_of_bytes inside).mp verifiesA.accepted).2.header readA readB⟩

/-! ### Forged feeds -/

/-- The data of a signer with other feeds, as many as before, and another signature. -/
def forged (signer : OneSigner) (feeds : List PackedFeedInfo) (asMany : feeds.length = signer.feeds.length)
    (signature : FixedBytes 64) : OneSigner :=
  { signer with feeds := feeds, signature := signature, few := asMany ▸ signer.few }

section
variable (signer : OneSigner) {feeds : List PackedFeedInfo} (asMany : feeds.length = signer.feeds.length)
  (signature : FixedBytes 64)

theorem length_message_forged : (forged signer feeds asMany signature).message.length = signer.message.length := by
  rw [OneSigner.length_message, OneSigner.length_message]
  exact congrArg (fun n => 32 + 49 * n) asMany

theorem offsets_forged : (forged signer feeds asMany signature).offsets = signer.offsets := by
  have long := length_message_forged signer asMany signature
  simp only [OneSigner.offsets, OneSigner.signatureAt, OneSigner.keyAt, long, OneSigner.messageAt]
  rfl

theorem front_data : window signer.data 0 (2 + 14 * signer.idxs.length) = signer.count ++ signer.records := by
  have long : (signer.count ++ signer.records).length = 2 + 14 * signer.idxs.length := by
    rw [List.length_append, OneSigner.length_records]
    rfl
  have split : signer.data = signer.count ++ signer.records ++ (signer.message ++ signer.key.val ++
      signer.signature.val ++ signer.idxs ++ leBytes 8 signer.slot.toNat ++ OneSigner.tail) := by
    simp only [OneSigner.data, List.append_assoc]
  rw [split, window_append_left (by omega), window_full long]

theorem back_data : window signer.data (signer.data.length - signer.idxs.length - 13) (signer.idxs.length + 13) =
    signer.idxs ++ leBytes 8 signer.slot.toNat ++ OneSigner.tail := by
  have behind : signer.data = (signer.count ++ signer.records ++ signer.message ++ signer.key.val ++
      signer.signature.val) ++ (signer.idxs ++ leBytes 8 signer.slot.toNat ++ OneSigner.tail) ++ [] := by
    simp only [OneSigner.data, List.append_assoc, List.append_nil]
  have wide : (signer.idxs ++ leBytes 8 signer.slot.toNat ++ OneSigner.tail).length = signer.idxs.length + 13 := by
    rw [List.length_append, List.length_append, length_leBytes]
    rfl
  have front : (signer.count ++ signer.records ++ signer.message ++ signer.key.val ++ signer.signature.val).length =
      signer.data.length - signer.idxs.length - 13 := by
    have total := congrArg List.length behind
    rw [List.length_append, List.length_append, wide] at total
    simp only [List.length_nil] at total
    omega
  rw [← front]
  nth_rewrite 1 [behind]
  exact window_middle rfl wide

theorem sameFootprint_forged : SameFootprint signer.data (forged signer feeds asMany signature).data := by
  have long := length_message_forged signer asMany signature
  have offsets := offsets_forged signer asMany signature
  have count : (byteAt signer.data 0).toNat = signer.idxs.length := signer.sigCount_data
  have length : signer.data.length = (forged signer feeds asMany signature).data.length := by
    rw [OneSigner.length_data, OneSigner.length_data]
    simp only [OneSigner.signatureAt, OneSigner.keyAt, long]
    rfl
  have hash := (forged signer feeds asMany signature).window_hash
  have key := (forged signer feeds asMany signature).window_key
  have front := front_data (forged signer feeds asMany signature)
  have back := back_data (forged signer feeds asMany signature)
  refine ⟨length, ?_, fun _ => ?_, fun i counted => ?_, ?_⟩
  · rw [count, front_data]
    refine Eq.trans ?_ front.symm
    rw [OneSigner.records, OneSigner.records, offsets]
    rfl
  · rw [signer.recordAt_data signer.someIdx]
    exact signer.window_hash.trans hash.symm
  · rw [count] at counted
    rw [signer.recordAt_data counted]
    refine signer.window_key.trans (key.symm.trans ?_)
    rw [OneSigner.keyAt, long]
    rfl
  · rw [count, back_data, length]
    exact back.symm

end

/-- The signed quote with the value of its feed raised to 6. -/
def raised : PackedFeedInfo := ⟨repeated 9 32, ⟨6000000000000000000, by decide, by decide⟩, 1⟩

theorem verify_footprint_raised :
    ∃ quote, verify .on verifierAt2000
      (SafeSlice.of (forged (signedQuote zeroOnce) [raised] rfl (repeated 0 64)).data).toSlice = .ok quote := by
  have zero : NamePlaceZero zeroOnce := by decide
  have bytes : (signedData zeroOnce).bytes = (signedQuote zeroOnce).data := Slice.of_bytes _
  have inside : OffsetsInside (signedData zeroOnce).bytes := bytes ▸ (signedQuote zeroOnce).offsetsInside
  have asMany : [raised].length = (signedQuote zeroOnce).feeds.length := rfl
  have same : SameFootprint (signedData zeroOnce).bytes
      (SafeSlice.of (forged (signedQuote zeroOnce) [raised] asMany (repeated 0 64)).data).bytes := by
    have forgedBytes : (SafeSlice.of (forged (signedQuote zeroOnce) [raised] asMany (repeated 0 64)).data).bytes = _ :=
      Slice.of_bytes _
    rw [bytes, forgedBytes]
    exact sameFootprint_forged (signedQuote zeroOnce) asMany (repeated 0 64)
  have verified := verify_signedData .on zeroOnce zero
  have parity : EvenAddress (signedData zeroOnce).toSlice ↔ EvenAddress
      (SafeSlice.of (forged (signedQuote zeroOnce) [raised] asMany (repeated 0 64)).data).toSlice :=
    iff_of_true (evenAddress_of _) (evenAddress_of _)
  exact (verify_footprint .on verifierAt2000 (signedData zeroOnce) _ parity inside same).1.mp ⟨_, verified⟩

end SwitchboardOnDemand.Footprint
