import SwitchboardOnDemand.Verifier

/-!
# Where the data lies

The parser works on a pointer into a larger allocation: an account or the
instructions sysvar. When the records of the data and all that they name lie
inside it, as the Ed25519 native program ensures, what is behind the data does
not matter: at an even address, the verifier decides as on the bytes of the data
alone (`verifies_of_bytes`), and the quote says the same (`view_of_bytes`), with
all its references readable (`view_ok`).
-/

namespace SwitchboardOnDemand.Placement
open Rust SwitchboardOnDemand.Utils SwitchboardOnDemand.FeedInfo SwitchboardOnDemand.Ed25519Sysvar
open SwitchboardOnDemand.Queue SwitchboardOnDemand.Quote SwitchboardOnDemand.QuoteStore SwitchboardOnDemand.Verifier

variable {ε : Type}

/-- The records of the data, and the keys, signatures and messages that they name,
    lie inside it. -/
def OffsetsInside (bytes : Bytes) : Prop := RangesInside bytes (byteAt bytes 0).toNat bytes.length

instance (bytes : Bytes) : Decidable (OffsetsInside bytes) := inferInstanceAs (Decidable (RangesInside _ _ _))

section
variable {data : SafeSlice}

theorem sigCount_of_bytes (fit : 2 + 14 * sigCount (Slice.of data.bytes) ≤ data.len) :
    sigCount data.toSlice = sigCount (Slice.of data.bytes) := by
  rw [sigCount, sigCount, Slice.of_ptr_rest, Slice.bytes, byteAt_take (by omega)]

theorem recordAt_of_bytes (fit : 2 + 14 * sigCount (Slice.of data.bytes) ≤ data.len) {i : Nat}
    (counted : i < sigCount data.toSlice) : recordAt data.ptr.rest i = recordAt data.bytes i := by
  rw [sigCount_of_bytes fit] at counted
  rw [recordAt, recordAt, Slice.window_rest (by omega)]

end

section
variable {data : SafeSlice} (inside : OffsetsInside data.bytes)
include inside

theorem records_fit : 2 + 14 * sigCount (Slice.of data.bytes) ≤ data.len := by
  have long := Slice.length_bytes data.inside
  have fit := inside.1
  rw [long] at fit
  exact fit

theorem named_inside {i : Nat} (counted : i < sigCount data.toSlice) :
    (recordAt data.ptr.rest i).public_key_offset + 32 ≤ data.len ∧
      (recordAt data.ptr.rest i).message_data_offset + (recordAt data.ptr.rest i).message_data_size ≤ data.len := by
  have named := inside.2 i (lt_of_lt_of_eq counted (sigCount_of_bytes (records_fit inside)))
  rw [Slice.length_bytes data.inside, ← recordAt_of_bytes (records_fit inside) counted] at named
  exact ⟨named.1, named.2.2⟩

omit inside in
theorem holds_of_bytes {offset : Nat} (fits : offset + 32 ≤ data.len) (bytes : FixedBytes 32) :
    Holds data.ptr.rest offset bytes ↔ Holds data.bytes offset bytes := by
  have bound : data.len ≤ data.ptr.rest.length := data.inside
  rw [Holds, Holds, Slice.length_bytes data.inside, Slice.window_rest fits]
  exact and_congr_left fun _ => by omega

theorem headerOk_of_bytes : HeaderOk data.toSlice ↔ HeaderOk (Slice.of data.bytes) := by
  rw [HeaderOk, HeaderOk, sigCount_of_bytes (records_fit inside), Slice.of_len, Slice.length_bytes data.inside]

theorem accepted_of_bytes :
    Accepted data.toSlice ↔ EvenAddress data.toSlice ∧ Accepted (Slice.of data.bytes) := by
  have fit := records_fit inside
  have bound : data.len ≤ data.ptr.rest.length := data.inside
  have long := Slice.length_bytes data.inside
  have count := sigCount_of_bytes (records_fit inside)
  constructor
  · intro accepted
    have some := accepted.header.2.1
    refine ⟨accepted.even, evenAddress_of _, (headerOk_of_bytes inside).mp accepted.header, fun i counted => ?_, ?_,
      fun i later counted => ?_⟩
    · rw [Slice.of_ptr_rest, Readable]
      omega
    · rw [Slice.of_ptr_rest, ← recordAt_of_bytes (records_fit inside) some]
      exact accepted.size
    · rw [← count] at counted
      rw [Slice.of_ptr_rest, ← recordAt_of_bytes (records_fit inside) some,
        ← recordAt_of_bytes (records_fit inside) counted]
      exact accepted.agrees i later counted
  · rintro ⟨even, accepted⟩
    have header := (headerOk_of_bytes inside).mpr accepted.header
    refine ⟨even, header, fun i counted => ?_, ?_, fun i later counted => ?_⟩
    · rw [Readable]
      omega
    · rw [recordAt_of_bytes (records_fit inside) header.2.1]
      exact accepted.size
    · rw [recordAt_of_bytes (records_fit inside) header.2.1, recordAt_of_bytes (records_fit inside) counted]
      exact accepted.agrees i later (count ▸ counted)

omit inside in
theorem recentSlot_of_bytes (header : HeaderOk data.toSlice) :
    recentSlot data.toSlice = recentSlot (Slice.of data.bytes) := by
  obtain ⟨_, _, _, room⟩ := header
  rw [recentSlot, recentSlot, Slice.of_ptr_rest, Slice.of_len, Slice.length_bytes data.inside,
    Slice.window_rest (by omega)]

theorem expectedKey_of_bytes (queue : QueueAccountData) (header : HeaderOk data.toSlice) {i : Nat}
    (counted : i < sigCount data.toSlice) :
    expectedKey queue data.toSlice i = expectedKey queue (Slice.of data.bytes) i := by
  obtain ⟨_, _, _, room⟩ := header
  have idx : oracleIdx data.toSlice i = oracleIdx (Slice.of data.bytes) i := by
    rw [oracleIdx, oracleIdx, ← sigCount_of_bytes (records_fit inside), Slice.of_ptr_rest, Slice.of_len,
      Slice.length_bytes data.inside, Slice.bytes, byteAt_take (by omega)]
  simp only [expectedKey, idx]

theorem headerHolds_of_bytes (accepted : Accepted data.toSlice) (hash : FixedBytes 32) :
    HeaderHolds data.toSlice hash ↔ HeaderHolds (Slice.of data.bytes) hash := by
  obtain ⟨feeds, _, size⟩ := accepted.size
  have fits := (named_inside inside accepted.header.2.1).2
  rw [HeaderHolds, HeaderHolds, Slice.of_ptr_rest, ← recordAt_of_bytes (records_fit inside) accepted.header.2.1]
  exact holds_of_bytes (by omega) hash

theorem keysHold_of_bytes (queue : QueueAccountData) (header : HeaderOk data.toSlice) :
    KeysHold queue data.toSlice ↔ KeysHold queue (Slice.of data.bytes) := by
  rw [KeysHold, KeysHold, ← sigCount_of_bytes (records_fit inside)]
  refine forall_congr' fun i => imp_congr_right fun counted => ?_
  rw [← expectedKey_of_bytes inside queue header counted, Slice.of_ptr_rest,
    ← recordAt_of_bytes (records_fit inside) counted]
  exact holds_of_bytes (named_inside inside counted).1 _

/-- At an even address, and only there, the verifier decides as on the bytes of the
    data alone. -/
theorem verifies_of_bytes (checks : OverflowChecks) (verifier : QuoteVerifier) (queue : QueueAccountData)
    (sysvar : AccountInfo) (clock : UInt64) (hash : FixedBytes 32) :
    Verifies checks verifier data.toSlice queue sysvar clock hash ↔
      EvenAddress data.toSlice ∧ Verifies checks verifier (Slice.of data.bytes) queue sysvar clock hash := by
  constructor
  · intro verifies
    have header := verifies.accepted.header
    have slot := recentSlot_of_bytes header
    obtain ⟨even, accepted⟩ := (accepted_of_bytes inside).mp verifies.accepted
    exact ⟨even, accepted, verifies.queueSet, verifies.sysvarSet, verifies.clockSet, slot ▸ verifies.fresh,
      slot ▸ verifies.found, (headerHolds_of_bytes inside verifies.accepted hash).mp verifies.header,
      (keysHold_of_bytes inside queue header).mp verifies.keys⟩
  · rintro ⟨even, verifies⟩
    have accepted := (accepted_of_bytes inside).mpr ⟨even, verifies.accepted⟩
    have slot := recentSlot_of_bytes accepted.header
    exact ⟨accepted, verifies.queueSet, verifies.sysvarSet, verifies.clockSet, slot ▸ verifies.fresh,
      slot ▸ verifies.found, (headerHolds_of_bytes inside accepted hash).mpr verifies.header,
      (keysHold_of_bytes inside queue accepted.header).mpr verifies.keys⟩

end

/-! ### What the quote says -/

theorem read_of_bytes {data : SafeSlice} {offset n : Nat} (fits : offset + n ≤ data.len) :
    ((data.ptr.add offset).read n : Exec ε _) = ((addrOf data.bytes).add offset).read n := by
  have bound : data.len ≤ data.ptr.rest.length := data.inside
  have long := Slice.length_bytes data.inside
  rw [Ptr.read_add (by omega), Ptr.read_add (by rw [addrOf_rest]; omega)]
  exact congrArg Exec.ok (Subtype.ext (Slice.window_rest fits))

theorem read_feeds_of_bytes {data : SafeSlice} (count : Nat) {offset : Nat} (fits : offset + 49 * count ≤ data.len) :
    (read_feeds (data.ptr.add offset) count : Exec ε _) = read_feeds ((addrOf data.bytes).add offset) count := by
  induction count generalizing offset with
  | zero => rfl
  | succ count ih =>
    have first : offset + 49 ≤ data.len := by omega
    have later : offset + PACKED_SIZE + 49 * count ≤ data.len := by unfold PACKED_SIZE; omega
    rw [read_feeds, read_feeds, read_feed, read_feed, read_of_bytes first, Ptr.add_add, Ptr.add_add, ih later]

/-- What a quote says, in terms of the bytes of its data. -/
def viewFrom (bytes : Bytes) : Exec ε QuoteView := do
  let first := recordAt bytes 0
  let count := (byteAt bytes 0).toNat
  let header ← read_header ((addrOf bytes).add first.message_data_offset)
  let feeds ← read_feeds ((addrOf bytes).add (first.message_data_offset + HEADER_SIZE))
    ((first.message_data_size - HEADER_SIZE) / PACKED_SIZE)
  pure {
    header := header
    feeds := feeds
    oracle_count := count
    oracle_idxs := window bytes (bytes.length - count - 13) count
    recent_slot := leU64 (window bytes (bytes.length - 13) 8)
    version := byteAt bytes (bytes.length - 5)
    raw_data := some bytes }

/-- The quote of accepted data says what the bytes of the data do. -/
theorem view_of_bytes {data : SafeSlice} (inside : OffsetsInside data.bytes) (accepted : Accepted data.toSlice) :
    ((quoteOf data.toSlice).view : Exec ε _) = viewFrom data.bytes := by
  obtain ⟨feeds, few, size⟩ := accepted.size
  obtain ⟨long, some, _, room⟩ := accepted.header
  have bound : data.len ≤ data.ptr.rest.length := data.inside
  have length := Slice.length_bytes data.inside
  have fits := (named_inside inside some).2
  have count : sigCount data.toSlice = (byteAt data.bytes 0).toNat := sigCount_of_bytes (records_fit inside)
  have record := recordAt_of_bytes (records_fit inside) some
  have feed_count : ((recordAt data.bytes 0).message_data_size - HEADER_SIZE) / PACKED_SIZE = feeds := by
    rw [← record]
    unfold HEADER_SIZE PACKED_SIZE
    omega
  have small : feeds % 256 = feeds := Nat.mod_eq_of_lt (by omega)
  have headerFits : (recordAt data.ptr.rest 0).message_data_offset + 32 ≤ data.len := by omega
  have feedsFit : (recordAt data.ptr.rest 0).message_data_offset + HEADER_SIZE + 49 * feeds ≤ data.len := by
    unfold HEADER_SIZE
    omega
  rw [record] at headerFits feedsFit
  have version : byteAt data.ptr.rest (data.len - 5) = byteAt data.bytes (data.len - 5) := by
    rw [Slice.bytes, byteAt_take (by omega)]
  have whole : window data.ptr.rest 0 data.len = data.bytes := rfl
  have slot : recentSlot data.toSlice = leU64 (window data.bytes (data.len - 13) 8) := by
    rw [recentSlot, Slice.window_rest (by omega)]
  have idxsFit : data.len - sigCount data.toSlice - 13 + sigCount data.toSlice ≤ data.len := by omega
  have idxs : ((data.ptr.add (data.len - sigCount data.toSlice - 13)).read (sigCount data.toSlice) : Exec ε _) = _ :=
    Ptr.read_add (idxsFit.trans bound)
  have raw : (data.ptr.read data.len : Exec ε _) = _ := Ptr.read_of_le data.inside
  simp only [OracleQuote.view, OracleQuote.header, OracleQuote.feeds, OracleQuote.raw_data, quoteOf, viewFrom, record,
    feed_count, small, Exec.assert_true _ (Nat.le_refl feeds), Exec.ok_bind, read_header, Ptr.add_add,
    read_of_bytes headerFits, read_feeds_of_bytes feeds feedsFit, idxs, raw, Exec.pure_eq, fixedAt_val,
    Slice.window_rest idxsFit, version, whole, slot]
  -- The number of signatures goes last: the type of the index bytes has it.
  rw [count, length]

theorem view_ok {data : SafeSlice} (inside : OffsetsInside data.bytes) (accepted : Accepted data.toSlice) :
    ∃ view, (viewFrom data.bytes : Exec ε _) = .ok view ∧ view.recent_slot = backSlot data.bytes := by
  obtain ⟨feeds, few, size⟩ := accepted.size
  have some := accepted.header.2.1
  have length := Slice.length_bytes data.inside
  have fits := (named_inside inside some).2
  rw [recordAt_of_bytes (records_fit inside) some] at size fits
  have header : (((addrOf data.bytes).add (recordAt data.bytes 0).message_data_offset).read 32 : Exec ε _) = _ :=
    Ptr.read_add (by rw [addrOf_rest]; omega)
  have feedsFit : 49 * (((recordAt data.bytes 0).message_data_size - HEADER_SIZE) / PACKED_SIZE) ≤
      ((addrOf data.bytes).add ((recordAt data.bytes 0).message_data_offset + HEADER_SIZE)).rest.length := by
    rw [Ptr.rest_add, addrOf_rest, List.length_drop]
    unfold HEADER_SIZE PACKED_SIZE
    omega
  obtain ⟨read, done⟩ : ∃ read, (read_feeds _ _ : Exec ε _) = .ok read := read_feeds_of_le feedsFit
  simp only [viewFrom, read_header, header, Exec.map_ok, Exec.ok_bind, done, Exec.pure_eq, Exec.ok.injEq]
  exact ⟨_, rfl, rfl⟩

end SwitchboardOnDemand.Placement
