import SwitchboardOnDemand.Encoding

/-!
# The format of the Ed25519 data

On data whose records, and all that these name, lie in front of the trailer, the
parser accepts exactly one format: 1 to 8 records that agree on the message and
the instruction, and a message of a header and at most 8 feeds. What it then
gives are the parts of that format, wherever the records place them. At an odd
address it does not come back from data in the format (`accepts_format_iff`).
-/

namespace SwitchboardOnDemand.ParserFormat
open Rust SwitchboardOnDemand.Utils SwitchboardOnDemand.FeedInfo SwitchboardOnDemand.Ed25519Sysvar
open SwitchboardOnDemand.Verifier SwitchboardOnDemand.Placement SwitchboardOnDemand.Encoding

variable {ε : Type}

/-- The number of records that the first byte announces. -/
def recordCount (bytes : Bytes) : Nat := (byteAt bytes 0).toNat

/-- The data has room for the trailer, and its records and what they name lie in
    front of it. -/
def FitsMessagePart (bytes : Bytes) : Prop :=
  13 + recordCount bytes ≤ bytes.length ∧
    RangesInside bytes (recordCount bytes) (bytes.length - recordCount bytes - 13)

/-- The format of accepted data. -/
structure InFormat (bytes : Bytes) : Prop where
  some : 1 ≤ recordCount bytes
  few : recordCount bytes ≤ 8
  size : SizeOk (recordAt bytes 0)
  agrees : ∀ i, 1 ≤ i → i < recordCount bytes → Agrees (recordAt bytes 0) (recordAt bytes i)

/-- A feed record at an offset of a message: 32 bytes of id, 16 of value and one of
    samples. -/
structure FeedAt (message : Bytes) (start : Nat) (feed : PackedFeedInfo) : Prop where
  feed_id : feed.feed_id.val = window message start 32
  feed_value : feed.feed_value.toLE.val = window message (start + 32) 16
  min_oracle_samples : feed.min_oracle_samples = byteAt message (start + 48)

/-- A message of a header and feeds. -/
structure MessageOf (message : Bytes) (header : PackedQuoteHeader) (feeds : List PackedFeedInfo) : Prop where
  size : message.length = 32 + 49 * feeds.length
  header : header.signed_slothash.val = window message 0 32
  feeds : ∀ j, (inside : j < feeds.length) → FeedAt message (32 + 49 * j) feeds[j]

/-- What is read through a parsed signature: the key, signature and message at the
    offsets of its record, and the header and feeds of that message. -/
structure SignatureReads (bytes : Bytes) (offsets : Ed25519SignatureOffsets) (header : PackedQuoteHeader)
    (feeds : List PackedFeedInfo) (sig : ParsedEd25519SignatureDataRef) : Prop where
  pubkey : ∃ key, (sig.pubkey_bytes : Exec AnyError _) = .ok key ∧
    key.val = window bytes offsets.public_key_offset 32
  signature : ∃ signature, (sig.signature_bytes : Exec AnyError _) = .ok signature ∧
    signature.val = window bytes offsets.signature_offset 64
  message : ∃ message, (sig.message_bytes : Exec AnyError _) = .ok message ∧
    message.val = window bytes offsets.message_data_offset offsets.message_data_size ∧
    MessageOf message.val header feeds
  header : (sig.quote_header : Exec AnyError _) = .ok header
  feeds : (sig.feed_info_list : Exec AnyError _) = .ok feeds

/-- The parts that the parser gives for data of the format. -/
structure ReadsFormat (bytes : Bytes) (parsed : ParsedInstruction) : Prop where
  count : parsed.sig_count = recordCount bytes
  oracle_idxs : parsed.oracle_idxs.InBounds ∧ parsed.oracle_idxs.bytes =
    window bytes (bytes.length - recordCount bytes - 13) (recordCount bytes)
  slot : parsed.recent_slot = leU64 (window bytes (bytes.length - 13) 8)
  version : parsed.version = byteAt bytes (bytes.length - 5)
  signatures : ∃ header feeds, ∀ i < recordCount bytes, ∃ sig,
    (sig_at parsed.parsed_sigs i : Exec AnyError _) = .ok sig ∧
      SignatureReads bytes (recordAt bytes i) header feeds sig

/-- The parser accepts the data exactly when it is in the format, and gives the
    parts of the format. -/
structure AcceptsFormat (data : Slice) : Prop where
  accepts : (∃ parsed, parse_instruction data = .ok parsed) ↔ InFormat data.bytes
  reads : ∀ parsed, parse_instruction data = .ok parsed → ReadsFormat data.bytes parsed

/-- The parser answers data that is not in the format with an error. -/
def RejectsOthers (data : Slice) : Prop :=
  ¬ InFormat data.bytes → ∃ error, parse_instruction data = .err error

/-! ### The feeds of a message -/

theorem feedAt_of_toBytes {message : Bytes} {start : Nat} {feed : PackedFeedInfo}
    (same : feed.toBytes = window message start 49) : FeedAt message start feed := by
  have front : (feed.feed_id.val ++ feed.feed_value.toLE.val).length = 48 := by
    rw [List.length_append, feed.feed_id.property, feed.feed_value.toLE.property]
  refine ⟨?_, ?_, ?_⟩
  · have inFeed : window feed.toBytes 0 32 = feed.feed_id.val := by
      rw [PackedFeedInfo.toBytes, List.append_assoc, window_append_left feed.feed_id.property.ge,
        window_full feed.feed_id.property]
    rw [← inFeed, same, window_window (by decide), Nat.add_zero]
  · have inFeed : window feed.toBytes 32 16 = feed.feed_value.toLE.val :=
      window_middle feed.feed_id.property feed.feed_value.toLE.property
    rw [← inFeed, same, window_window (by decide)]
  · have inFeed : byteAt feed.toBytes 48 = feed.min_oracle_samples := by
      rw [PackedFeedInfo.toBytes, byteAt, List.getElem?_append_right front.le, front]
      rfl
    rw [← inFeed, same, window, byteAt_take (by decide), byteAt_drop]

/-- Feeds that are read are the records of the bytes they are read from. -/
theorem toBytes_of_read {count : Nat} {p : Ptr} {feeds : List PackedFeedInfo}
    (done : (read_feeds p count : Exec ε _) = .ok feeds) {j : Nat} (inside : j < feeds.length) :
    feeds[j].toBytes = window p.rest (49 * j) 49 := by
  obtain ⟨length, _, bytes⟩ := read_feeds_bytes done
  have each : ∀ chunk ∈ feeds.map PackedFeedInfo.toBytes, chunk.length = 49 := by simp
  have chunk := window_flatten each (i := j) (by rwa [List.length_map])
  rw [bytes, window_window (by omega), Nat.zero_add, List.getElem_map] at chunk
  exact chunk.symm

/-! ### What is accepted -/

/-- Data at an even address with readable records that the parser does not accept
    gets an error. -/
theorem rejected_of_not_accepted {data : Slice} (even : EvenAddress data)
    (readable : ∀ i < sigCount data, Readable data.ptr.rest i) (not : ¬ Accepted data) : Rejected data := by
  by_cases header : HeaderOk data
  · have first := readable 0 header.2.1
    by_cases size : SizeOk (recordAt data.ptr.rest 0)
    · by_contra none
      refine not ⟨even, header, readable, size, ?_⟩
      intro i later counted
      by_contra bad
      exact none (.disagrees even i later counted (readable i counted) bad)
    · exact .size even first size
  · exact .header header

section
variable {data : SafeSlice} (fits : FitsMessagePart data.bytes)
include fits

theorem offsetsInside_of_fits : OffsetsInside data.bytes := by
  obtain ⟨_, records, named⟩ := fits
  refine ⟨by unfold recordCount at records; omega, ?_⟩
  intro i counted
  obtain ⟨key, signature, message⟩ := named i counted
  omega

theorem sigCount_eq : sigCount data.toSlice = recordCount data.bytes :=
  sigCount_of_bytes (records_fit (offsetsInside_of_fits fits))

theorem recordAt_eq {i : Nat} (counted : i < recordCount data.bytes) :
    recordAt data.ptr.rest i = recordAt data.bytes i := by
  rw [← sigCount_eq fits] at counted
  exact recordAt_of_bytes (records_fit (offsetsInside_of_fits fits)) counted

/-- The count is one of those that the parser reads records for. -/
theorem headerOk_iff_count :
    HeaderOk data.toSlice ↔ 1 ≤ recordCount data.bytes ∧ recordCount data.bytes ≤ 8 := by
  have long := Slice.length_bytes data.inside
  have room := fits.1
  rw [HeaderOk, sigCount_eq fits]
  omega

theorem accepted_iff_inFormat : Accepted data.toSlice ↔ EvenAddress data.toSlice ∧ InFormat data.bytes := by
  have long := Slice.length_bytes data.inside
  have bound : data.len ≤ data.ptr.rest.length := data.inside
  have count := sigCount_eq fits
  have room := fits.1
  have records := fits.2.1
  constructor
  · rintro ⟨even, ⟨_, some, few, _⟩, _, size, agrees⟩
    rw [count] at some few
    refine ⟨even, some, few, ?_, ?_⟩
    · rw [← recordAt_eq fits some]
      exact size
    · intro i later counted
      rw [← recordAt_eq fits some, ← recordAt_eq fits counted]
      exact agrees i later (count ▸ counted)
  · rintro ⟨even, some, few, size, agrees⟩
    refine ⟨even, (headerOk_iff_count fits).mpr ⟨some, few⟩, ?_, ?_, ?_⟩
    · intro i counted
      rw [Readable]
      omega
    · rw [recordAt_eq fits some]
      exact size
    · intro i later counted
      rw [count] at counted
      rw [recordAt_eq fits some, recordAt_eq fits counted]
      exact agrees i later counted

/-! ### What is read -/

/-- The header and feeds that are read through the first record are those of its
    message. -/
theorem messageOf_read (format : InFormat data.bytes) {header : PackedQuoteHeader} {feeds : List PackedFeedInfo}
    (headerRead : (read_header (data.ptr.add (recordAt data.bytes 0).message_data_offset) : Exec AnyError _) =
      .ok header)
    (feedsRead : (read_feeds ((data.ptr.add (recordAt data.bytes 0).message_data_offset).add HEADER_SIZE)
      (((recordAt data.bytes 0).message_data_size - HEADER_SIZE) / PACKED_SIZE) : Exec AnyError _) = .ok feeds) :
    MessageOf (window data.bytes (recordAt data.bytes 0).message_data_offset (recordAt data.bytes 0).message_data_size)
      header feeds := by
  have long := Slice.length_bytes data.inside
  obtain ⟨_, _, messageIn⟩ := fits.2.2 0 format.some
  obtain ⟨count, _, size⟩ := format.size
  have length := (read_feeds_bytes feedsRead).1
  have counted : feeds.length = count := by
    rw [length, size]
    unfold HEADER_SIZE PACKED_SIZE
    omega
  refine ⟨?_, ?_, ?_⟩
  · rw [length_window_of_le (by omega), size, counted]
  · obtain ⟨bytes, read, rfl⟩ := Exec.map_eq_ok.mp headerRead
    rw [window_window (by omega), Nat.add_zero, ← Slice.window_rest (by omega)]
    exact ((Ptr.read_add_eq_ok (by decide)).mp read).2
  · intro j inside
    apply feedAt_of_toBytes
    have read := toBytes_of_read feedsRead inside
    rw [Ptr.rest_add, Ptr.rest_add, window_drop, window_drop, ← Nat.add_assoc] at read
    rw [read, window_window (by omega), ← Nat.add_assoc, ← Slice.window_rest (by omega)]
    rfl

/-- The key, signature and message of a record are those at its offsets. -/
theorem signature_reads (format : InFormat data.bytes) {header : PackedQuoteHeader} {feeds : List PackedFeedInfo}
    (headerRead : (read_header (data.ptr.add (recordAt data.bytes 0).message_data_offset) : Exec AnyError _) =
      .ok header)
    (feedsRead : (read_feeds ((data.ptr.add (recordAt data.bytes 0).message_data_offset).add HEADER_SIZE)
      (((recordAt data.bytes 0).message_data_size - HEADER_SIZE) / PACKED_SIZE) : Exec AnyError _) = .ok feeds)
    {i : Nat} (counted : i < recordCount data.bytes) :
    SignatureReads data.bytes (recordAt data.bytes i) header feeds
      (signature_ref data.ptr (recordAt data.bytes 0) (recordAt data.bytes i)) := by
  have long := Slice.length_bytes data.inside
  have bound : data.len ≤ data.ptr.rest.length := data.inside
  obtain ⟨keyIn, signatureIn, messageIn⟩ := fits.2.2 i counted
  have same : (recordAt data.bytes i).message_data_offset = (recordAt data.bytes 0).message_data_offset ∧
      (recordAt data.bytes i).message_data_size = (recordAt data.bytes 0).message_data_size := by
    rcases Nat.eq_zero_or_pos i with rfl | later
    · exact ⟨rfl, rfl⟩
    · exact ⟨(format.agrees i later counted).1, (format.agrees i later counted).2.1⟩
  have message : window data.ptr.rest (recordAt data.bytes i).message_data_offset
      (recordAt data.bytes i).message_data_size = window data.bytes (recordAt data.bytes i).message_data_offset
      (recordAt data.bytes i).message_data_size := Slice.window_rest (by omega)
  refine ⟨⟨_, Ptr.read_add (by omega), Slice.window_rest (by omega)⟩,
    ⟨_, Ptr.read_add (by omega), Slice.window_rest (by omega)⟩,
    ⟨_, Ptr.read_add (by simp only [signature_ref]; omega), message, ?_⟩, headerRead, feedsRead⟩
  rw [fixedAt_val]
  simp only [signature_ref]
  rw [message, same.1, same.2]
  exact messageOf_read fits format headerRead feedsRead

theorem reads_format (format : InFormat data.bytes) : ReadsFormat data.bytes (parsedOf data.toSlice) := by
  have long := Slice.length_bytes data.inside
  have bound : data.len ≤ data.ptr.rest.length := data.inside
  have count := sigCount_eq fits
  have room := fits.1
  obtain ⟨_, _, messageIn⟩ := fits.2.2 0 format.some
  obtain ⟨feedCount, _, size⟩ := format.size
  refine ⟨count, ⟨?_, ?_⟩, ?_, ?_, ?_⟩
  · simp only [parsedOf, Slice.InBounds, Ptr.rest_add, List.length_drop]
    omega
  · rw [← Slice.window_rest (by omega), long, ← count]
    simp only [parsedOf, Slice.bytes, Ptr.rest_add, window]
  · rw [← Slice.window_rest (by omega), long]
    rfl
  · rw [long, Slice.bytes, byteAt_take (by omega)]
    rfl
  · obtain ⟨header, headerRead⟩ : ∃ header, (read_header (data.ptr.add (recordAt data.bytes 0).message_data_offset) :
        Exec AnyError _) = .ok header := by
      rw [read_header, Ptr.read_add (by omega)]
      exact ⟨_, rfl⟩
    obtain ⟨feeds, feedsRead⟩ : ∃ feeds, (read_feeds ((data.ptr.add (recordAt data.bytes 0).message_data_offset).add
        HEADER_SIZE) (((recordAt data.bytes 0).message_data_size - HEADER_SIZE) / PACKED_SIZE) : Exec AnyError _) =
        .ok feeds := by
      apply read_feeds_of_le
      simp only [Ptr.rest_add, List.length_drop, HEADER_SIZE, PACKED_SIZE]
      omega
    refine ⟨header, feeds, ?_⟩
    intro i counted
    refine ⟨_, sig_at_signatureRefs data.ptr (count ▸ counted) (count ▸ format.few), ?_⟩
    rw [recordAt_eq fits format.some, recordAt_eq fits counted]
    exact signature_reads fits format headerRead feedsRead counted

theorem parse_ok_iff :
    (∃ parsed, parse_instruction data.toSlice = .ok parsed) ↔ EvenAddress data.toSlice ∧ InFormat data.bytes := by
  rw [← accepted_iff_inFormat fits]
  constructor
  · rintro ⟨parsed, done⟩
    exact ((parse_instruction_ok_iff data parsed).mp done).1
  · exact fun accepted => ⟨_, (parse_instruction_ok_iff data _).mpr ⟨accepted, rfl⟩⟩

theorem acceptsFormat_iff : AcceptsFormat data.toSlice ↔ EvenAddress data.toSlice ∨ ¬ InFormat data.bytes := by
  have reads : ∀ parsed, parse_instruction data.toSlice = .ok parsed → ReadsFormat data.bytes parsed := by
    intro parsed done
    obtain ⟨accepted, rfl⟩ := (parse_instruction_ok_iff data parsed).mp done
    exact reads_format fits ((accepted_iff_inFormat fits).mp accepted).2
  constructor
  · intro accepts
    by_cases format : InFormat data.bytes
    · exact .inl ((parse_ok_iff fits).mp (accepts.accepts.mpr format)).1
    · exact .inr format
  · intro condition
    refine ⟨(parse_ok_iff fits).trans (and_iff_right_of_imp fun format => ?_), reads⟩
    exact condition.resolve_right (not_not_intro format)

theorem rejectsOthers_even (even : EvenAddress data.toSlice) : RejectsOthers data.toSlice := by
  intro other
  have long := Slice.length_bytes data.inside
  have bound : data.len ≤ data.ptr.rest.length := data.inside
  have records := fits.2.1
  apply (parse_instruction_err_iff data).mpr
  apply rejected_of_not_accepted even
  · intro i counted
    rw [sigCount_eq fits] at counted
    rw [Readable]
    omega
  · exact fun accepted => other ((accepted_iff_inFormat fits).mp accepted).2

/-- A count of none or of more than eight is turned down before any record is read. -/
theorem rejectsOthers_badCount (bad : ¬ (1 ≤ recordCount data.bytes ∧ recordCount data.bytes ≤ 8)) :
    RejectsOthers data.toSlice := fun _ => by
  obtain ⟨error, answer⟩ := parse_instruction_badHeader data (mt (headerOk_iff_count fits).mp bad)
  exact ⟨error, answer⟩

end

/-- On data whose records and ranges lie in front of the trailer, the parser accepts
    exactly the format and gives its parts, exactly when the data lies at an even
    address or is not in the format. It does so and answers everything else with an
    error exactly when the data lies at an even address or its count is turned
    down before the records are read. -/
theorem accepts_format_iff (data : SafeSlice) (fits : FitsMessagePart data.bytes) :
    (AcceptsFormat data.toSlice ↔ EvenAddress data.toSlice ∨ ¬ InFormat data.bytes) ∧
    (AcceptsFormat data.toSlice ∧ RejectsOthers data.toSlice ↔
      EvenAddress data.toSlice ∨ ¬ (1 ≤ recordCount data.bytes ∧ recordCount data.bytes ≤ 8)) := by
  refine ⟨acceptsFormat_iff fits, ?_⟩
  rw [acceptsFormat_iff fits]
  constructor
  · rintro ⟨even | other, rejects⟩
    · exact .inl even
    · by_contra neither
      obtain ⟨odd, count⟩ := not_or.mp neither
      obtain ⟨error, failed⟩ := rejects other
      rw [parse_instruction_odd odd ((headerOk_iff_count fits).mpr (not_not.mp count))] at failed
      cases failed
  · rintro (even | bad)
    · exact ⟨.inl even, rejectsOthers_even fits even⟩
    · exact ⟨.inr fun format => bad ⟨format.some, format.few⟩, rejectsOthers_badCount fits bad⟩

theorem fitsMessagePart_data (signer : OneSigner) : FitsMessagePart signer.data := by
  have long := signer.length_data
  have count : recordCount signer.data = signer.idxs.length := signer.sigCount_data
  have inFront : signer.data.length - signer.idxs.length - 13 = signer.signatureAt + 64 := by omega
  rw [FitsMessagePart, count, inFront]
  exact ⟨by omega, signer.rangesInside⟩

theorem inFormat_data (signer : OneSigner) : InFormat signer.data := by
  have bytes : (SafeSlice.of signer.data).bytes = signer.data := Slice.of_bytes _
  have fits : FitsMessagePart (SafeSlice.of signer.data).bytes := by
    rw [bytes]
    exact fitsMessagePart_data signer
  have format := ((accepted_iff_inFormat fits).mp signer.accepted).2
  rwa [bytes] at format

theorem accepts_format_iff_signedQuote :
    AcceptsFormat (signedData zeroTwice).toSlice ∧ RejectsOthers (signedData zeroTwice).toSlice := by
  have bytes : (signedData zeroTwice).bytes = (signedQuote zeroTwice).data := Slice.of_bytes _
  have fits : FitsMessagePart (signedData zeroTwice).bytes := by
    rw [bytes]
    exact fitsMessagePart_data (signedQuote zeroTwice)
  exact (accepts_format_iff (signedData zeroTwice) fits).2.mpr (.inl (evenAddress_of _))

/-- The data of the signed quote behind one other byte. -/
def shiftedData : SafeSlice := .behind [0] (signedQuote zeroTwice).data

/-- It is in the format, with all records and ranges in front of the trailer, but
    the parser does not come back from its odd address. -/
theorem shiftedData_not_accepted :
    FitsMessagePart shiftedData.bytes ∧ InFormat shiftedData.bytes ∧
      parse_instruction shiftedData.toSlice = .fault ∧ ¬ AcceptsFormat shiftedData.toSlice := by
  have bytes : shiftedData.bytes = (signedQuote zeroTwice).data := SafeSlice.behind_bytes _ _
  have fits : FitsMessagePart shiftedData.bytes := by
    rw [bytes]
    exact fitsMessagePart_data (signedQuote zeroTwice)
  have format : InFormat shiftedData.bytes := by
    rw [bytes]
    exact inFormat_data (signedQuote zeroTwice)
  have odd : ¬ EvenAddress shiftedData.toSlice := by
    show ¬ (1 % 2 = 0)
    decide
  have stuck := parse_instruction_odd odd ((headerOk_iff_count fits).mpr ⟨format.some, format.few⟩)
  refine ⟨fits, format, stuck, fun accepts => ?_⟩
  obtain ⟨parsed, done⟩ := accepts.accepts.mpr format
  rw [stuck] at done
  cases done

end SwitchboardOnDemand.ParserFormat
