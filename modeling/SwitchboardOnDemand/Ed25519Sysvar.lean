import SwitchboardOnDemand.FeedInfo
import SwitchboardOnDemand.Utils

/-!
# The Ed25519 instruction data of a quote

`parse_instruction` splits the data of an Ed25519 instruction into its offset
records and the trailer behind them. It compares lengths, counts and indexes,
and builds raw pointers out of the offsets without comparing these with the
length of the data. It reads each record through a pointer to its struct, which
is undefined at an odd address. What it accepts (`parse_instruction_ok_iff`) and
what it answers with an error (`parse_instruction_err_iff`) is stated on the
address of the data and the bytes from there to the end of its allocation.
-/

namespace SwitchboardOnDemand.Ed25519Sysvar
open Rust SwitchboardOnDemand.Utils SwitchboardOnDemand.FeedInfo

variable {ε : Type}

/-- One offset record. The struct is not `repr(C)`; that its seven `u16` fields lie
    in the order of their declaration is an assumption on the compiler. -/
structure Ed25519SignatureOffsets where
  signature_offset : Nat
  signature_instruction_index : Nat
  public_key_offset : Nat
  public_key_instruction_index : Nat
  message_data_offset : Nat
  message_data_size : Nat
  message_instruction_index : Nat
  deriving Repr, DecidableEq

def Ed25519SignatureOffsets.ofBytes (bytes : Bytes) : Ed25519SignatureOffsets where
  signature_offset := leNat (window bytes 0 2)
  signature_instruction_index := leNat (window bytes 2 2)
  public_key_offset := leNat (window bytes 4 2)
  public_key_instruction_index := leNat (window bytes 6 2)
  message_data_offset := leNat (window bytes 8 2)
  message_data_size := leNat (window bytes 10 2)
  message_instruction_index := leNat (window bytes 12 2)

def Ed25519SignatureOffsets.fields (offsets : Ed25519SignatureOffsets) : List Nat :=
  [offsets.signature_offset, offsets.signature_instruction_index, offsets.public_key_offset,
    offsets.public_key_instruction_index, offsets.message_data_offset, offsets.message_data_size,
    offsets.message_instruction_index]

def Ed25519SignatureOffsets.toBytes (offsets : Ed25519SignatureOffsets) : Bytes :=
  (offsets.fields.map (leBytes 2)).flatten

def ED25519_SIGNATURE_OFFSETS_SERIALIZED_SIZE : Nat := 14

/-- `align_of::<Ed25519SignatureOffsets>()`, that of its `u16` fields. -/
def OFFSETS_ALIGN : Nat := 2

/-- `*(p as *const Ed25519SignatureOffsets)`. -/
def read_offsets (p : Ptr) : Exec ε Ed25519SignatureOffsets :=
  (fun bytes => Ed25519SignatureOffsets.ofBytes bytes.val) <$>
    p.deref OFFSETS_ALIGN ED25519_SIGNATURE_OFFSETS_SERIALIZED_SIZE

structure ParsedEd25519SignatureDataRef where
  offsets : Ed25519SignatureOffsets
  pubkey : Ptr
  signature : Ptr
  message : Ptr
  message_len : Nat
  bundle_header : Ptr
  feed_infos : Ptr
  feed_count : Nat
  deriving Repr, DecidableEq

namespace ParsedEd25519SignatureDataRef

def default_empty : ParsedEd25519SignatureDataRef :=
  ⟨⟨0, 0, 0, 0, 0, 0, 0⟩, Ptr.null, Ptr.null, Ptr.null, 0, Ptr.null, Ptr.null, 0⟩

def pubkey_bytes (self : ParsedEd25519SignatureDataRef) : Exec ε (FixedBytes 32) := self.pubkey.read 32
def signature_bytes (self : ParsedEd25519SignatureDataRef) : Exec ε (FixedBytes 64) := self.signature.read 64
def message_bytes (self : ParsedEd25519SignatureDataRef) : Exec ε (FixedBytes self.message_len) :=
  self.message.read self.message_len
def quote_header (self : ParsedEd25519SignatureDataRef) : Exec ε PackedQuoteHeader := read_header self.bundle_header
/-- The records of `feed_infos()`. -/
def feed_info_list (self : ParsedEd25519SignatureDataRef) : Exec ε (List PackedFeedInfo) :=
  read_feeds self.feed_infos self.feed_count

end ParsedEd25519SignatureDataRef

/-- The result `(signatures, sig_count, oracle_idxs, recent_slot, version)`. -/
structure ParsedInstruction where
  parsed_sigs : Vector ParsedEd25519SignatureDataRef 8
  sig_count : Nat
  oracle_idxs : Slice
  recent_slot : UInt64
  version : UInt8
  deriving Repr, DecidableEq

/-- The pointers that a record names: its own key and signature, and the header
    and feeds of the first record's message. -/
def signature_ref (message_data_ptr : Ptr) (first offsets : Ed25519SignatureOffsets) :
    ParsedEd25519SignatureDataRef where
  offsets := offsets
  pubkey := message_data_ptr.add offsets.public_key_offset
  signature := message_data_ptr.add offsets.signature_offset
  message := message_data_ptr.add offsets.message_data_offset
  message_len := offsets.message_data_size
  bundle_header := message_data_ptr.add first.message_data_offset
  feed_infos := (message_data_ptr.add first.message_data_offset).add HEADER_SIZE
  feed_count := (first.message_data_size - HEADER_SIZE) / PACKED_SIZE

def check_offsets (first offsets : Ed25519SignatureOffsets) : Exec AnyError Unit := do
  let expected := first.message_instruction_index
  Exec.bailIf (offsets.message_data_offset ≠ first.message_data_offset ∨
    offsets.message_data_size ≠ first.message_data_size) "Inconsistent message offsets or sizes"
  Exec.bailIf (offsets.signature_instruction_index ≠ expected)
    s!"Signature instruction index mismatch: expected {expected}, got {offsets.signature_instruction_index}"
  Exec.bailIf (offsets.public_key_instruction_index ≠ expected)
    s!"Public key instruction index mismatch: expected {expected}, got {offsets.public_key_instruction_index}"
  Exec.bailIf (offsets.message_instruction_index ≠ expected)
    s!"Message instruction index mismatch: expected {expected}, got {offsets.message_instruction_index}"

/-- The loop over the signatures after the first one: `todo` of them are left,
    the next one is number `i` and its record lies at `offset`. -/
def parse_rest (message_data_ptr : Ptr) (first : Ed25519SignatureOffsets) :
    Nat → Nat → Nat → Vector ParsedEd25519SignatureDataRef 8 →
      Exec AnyError (Vector ParsedEd25519SignatureDataRef 8)
  | 0, _, _, parsed_sigs_array => .ok parsed_sigs_array
  | todo + 1, i, offset, parsed_sigs_array => do
    let offsets ← read_offsets (message_data_ptr.add offset)
    check_offsets first offsets
    parse_rest message_data_ptr first todo (i + 1) (offset + ED25519_SIGNATURE_OFFSETS_SERIALIZED_SIZE)
      (parsed_sigs_array.setIfInBounds i (signature_ref message_data_ptr first offsets))

/-- The unsafe block: the first record with the structure of the message, then
    the loop. -/
def parse_signatures (message_data_ptr : Ptr) (num_signatures : Nat) :
    Exec AnyError (Vector ParsedEd25519SignatureDataRef 8) := do
  let offset := 2
  let first_offsets ← read_offsets (message_data_ptr.add offset)
  let first_message_size := first_offsets.message_data_size
  let message : Slice := ⟨message_data_ptr.add first_offsets.message_data_offset, first_message_size⟩
  Exec.bailIf (first_message_size < HEADER_SIZE) "Message too short for bundle header"
  let _shared_header ← message.indexRef 0
  let remaining_bytes := first_message_size - HEADER_SIZE
  Exec.bailIf (remaining_bytes % PACKED_SIZE ≠ 0)
    s!"Invalid message size: remaining bytes not divisible by feed info size, got {remaining_bytes}, with feed info size {PACKED_SIZE}"
  let shared_feed_count := remaining_bytes / PACKED_SIZE
  Exec.bailIf (shared_feed_count > 8)
    s!"Too many feeds in message: {shared_feed_count} feeds but maximum is 8"
  let parsed_sigs_array := (Vector.replicate 8 ParsedEd25519SignatureDataRef.default_empty).setIfInBounds 0
    (signature_ref message_data_ptr first_offsets first_offsets)
  parse_rest message_data_ptr first_offsets (num_signatures - 1) 1
    (offset + ED25519_SIGNATURE_OFFSETS_SERIALIZED_SIZE) parsed_sigs_array

def parse_instruction (data : Slice) : Exec AnyError ParsedInstruction := do
  let data_len := data.len
  Exec.bailIf (data_len < 2) "Data too short for Ed25519SignatureHeader"
  let header ← data.index 0
  let num_signatures := header.toNat
  Exec.bailIf (num_signatures > 8) "Too many signatures - maximum 8 supported"
  Exec.bailIf (num_signatures = 0) "No signatures found in instruction data"
  Exec.bailIf (data_len < 13 + num_signatures)
    s!"Data too short for oracle indices and metadata: need {13 + num_signatures} bytes, got {data_len}"
  -- The discriminator has 4 bytes, the slot 8 and the version 1.
  let end_of_message := data_len - num_signatures - 13
  let suffix ← data.sliceFrom end_of_message
  let oracle_idxs : Slice := ⟨suffix.ptr, num_signatures⟩
  let suffix : Slice := ⟨suffix.ptr.add num_signatures, suffix.len - num_signatures⟩
  let slot_ptr ← suffix.indexRef 0
  let slot ← slot_ptr.read_u64
  let version ← (suffix.ptr.add 8).read_u8
  let message_data ← data.sliceTo end_of_message
  let parsed_sigs_array ← parse_signatures message_data.ptr num_signatures
  pure ⟨parsed_sigs_array, num_signatures, oracle_idxs, slot, version⟩

/-! ### The format in terms of bytes -/

/-- The data starts at an even address, and with it each of its records. -/
def EvenAddress (data : Slice) : Prop := data.ptr.Aligned OFFSETS_ALIGN

instance (data : Slice) : Decidable (EvenAddress data) := inferInstanceAs (Decidable (Ptr.Aligned _ _))

theorem evenAddress_of (bytes : Bytes) : EvenAddress (Slice.of bytes) := Nat.zero_mod 2

/-- The number of signatures that the data announces. -/
def sigCount (data : Slice) : Nat := (byteAt data.ptr.rest 0).toNat

/-- The offset record with number `i`, read off the bytes from the start of the
    data on. -/
def recordAt (rest : Bytes) (i : Nat) : Ed25519SignatureOffsets :=
  Ed25519SignatureOffsets.ofBytes (window rest (2 + 14 * i) 14)

def Readable (rest : Bytes) (i : Nat) : Prop := 2 + 14 * i + 14 ≤ rest.length

instance (rest : Bytes) (i : Nat) : Decidable (Readable rest i) := inferInstanceAs (Decidable (_ ≤ _))

/-- The count is 1 to 8 and the data has room for the trailer. -/
def HeaderOk (data : Slice) : Prop :=
  2 ≤ data.len ∧ 1 ≤ sigCount data ∧ sigCount data ≤ 8 ∧ 13 + sigCount data ≤ data.len

/-- The message is a header and 0 to 8 feeds. -/
def SizeOk (first : Ed25519SignatureOffsets) : Prop :=
  ∃ feeds ≤ 8, first.message_data_size = 32 + 49 * feeds

/-- A later record names the first one's message and instruction. -/
def Agrees (first offsets : Ed25519SignatureOffsets) : Prop :=
  offsets.message_data_offset = first.message_data_offset ∧
  offsets.message_data_size = first.message_data_size ∧
  offsets.signature_instruction_index = first.message_instruction_index ∧
  offsets.public_key_instruction_index = first.message_instruction_index ∧
  offsets.message_instruction_index = first.message_instruction_index

/-- The records and the key, signature and message that each of them names lie
    in the first `limit` bytes. -/
def RangesInside (rest : Bytes) (count limit : Nat) : Prop :=
  2 + 14 * count ≤ limit ∧ ∀ i < count,
    (recordAt rest i).public_key_offset + 32 ≤ limit ∧
    (recordAt rest i).signature_offset + 64 ≤ limit ∧
    (recordAt rest i).message_data_offset + (recordAt rest i).message_data_size ≤ limit

instance (rest : Bytes) (count limit : Nat) : Decidable (RangesInside rest count limit) :=
  inferInstanceAs (Decidable (_ ∧ _))

/-- What the parser accepts. -/
structure Accepted (data : Slice) : Prop where
  even : EvenAddress data
  header : HeaderOk data
  readable : ∀ i < sigCount data, Readable data.ptr.rest i
  size : SizeOk (recordAt data.ptr.rest 0)
  agrees : ∀ i, 1 ≤ i → i < sigCount data → Agrees (recordAt data.ptr.rest 0) (recordAt data.ptr.rest i)

/-- What the parser answers with an error: a wrong count or length at any address,
    and wrong records where they can be read. -/
inductive Rejected (data : Slice) : Prop where
  | header (bad : ¬ HeaderOk data)
  | size (even : EvenAddress data) (readable : Readable data.ptr.rest 0) (bad : ¬ SizeOk (recordAt data.ptr.rest 0))
  | disagrees (even : EvenAddress data) (i : Nat) (later : 1 ≤ i) (counted : i < sigCount data)
      (readable : Readable data.ptr.rest i) (bad : ¬ Agrees (recordAt data.ptr.rest 0) (recordAt data.ptr.rest i))

def signatureRefs (p : Ptr) (count : Nat) : Vector ParsedEd25519SignatureDataRef 8 :=
  Vector.ofFn fun i => if i < count then signature_ref p (recordAt p.rest 0) (recordAt p.rest i)
    else ParsedEd25519SignatureDataRef.default_empty

def parsedOf (data : Slice) : ParsedInstruction where
  parsed_sigs := signatureRefs data.ptr (sigCount data)
  sig_count := sigCount data
  oracle_idxs := ⟨data.ptr.add (data.len - sigCount data - 13), sigCount data⟩
  recent_slot := leU64 (window data.ptr.rest (data.len - 13) 8)
  version := byteAt data.ptr.rest (data.len - 5)

/-! ### One record -/

theorem Ed25519SignatureOffsets.length_toBytes (offsets : Ed25519SignatureOffsets) : offsets.toBytes.length = 14 := by
  rw [toBytes, length_flatten (by simp : ∀ chunk ∈ offsets.fields.map (leBytes 2), chunk.length = 2), List.length_map]
  rfl

private theorem field_at (offsets : Ed25519SignatureOffsets) (narrow : ∀ n ∈ offsets.fields, n < 65536) {i : Nat}
    (inside : i < offsets.fields.length) : leNat (window offsets.toBytes (2 * i) 2) = offsets.fields[i] := by
  rw [Ed25519SignatureOffsets.toBytes, window_flatten (by simp) (by rwa [List.length_map]), List.getElem_map,
    leNat_leBytes_of_lt (narrow _ (List.getElem_mem inside))]

theorem Ed25519SignatureOffsets.ofBytes_toBytes (offsets : Ed25519SignatureOffsets)
    (narrow : ∀ n ∈ offsets.fields, n < 65536) : ofBytes offsets.toBytes = offsets := by
  have seven : offsets.fields.length = 7 := rfl
  have at_i : ∀ i, (inside : i < offsets.fields.length) →
      leNat (window offsets.toBytes (2 * i) 2) = offsets.fields[i] := fun i inside => field_at offsets narrow inside
  simp only [ofBytes, at_i 0 (by omega), at_i 1 (by omega), at_i 2 (by omega), at_i 3 (by omega), at_i 4 (by omega),
    at_i 5 (by omega), at_i 6 (by omega)]
  rfl

/-- A record lies at an even address exactly when the data does. -/
theorem aligned_record (p : Ptr) (i : Nat) : (p.add (2 + 14 * i)).Aligned OFFSETS_ALIGN ↔ p.Aligned OFFSETS_ALIGN :=
  Ptr.aligned_add (by unfold OFFSETS_ALIGN; omega)

theorem read_offsets_eq {p : Ptr} (even : p.Aligned OFFSETS_ALIGN) (i : Nat) :
    (read_offsets (p.add (2 + 14 * i)) : Exec ε _) =
      if Readable p.rest i then .ok (recordAt p.rest i) else .fault := by
  rw [read_offsets, Ptr.deref_aligned _ ((aligned_record p i).mpr even), ED25519_SIGNATURE_OFFSETS_SERIALIZED_SIZE]
  by_cases readable : Readable p.rest i
  · rw [if_pos readable, Ptr.read_add readable]
    rfl
  · rw [if_neg readable, Ptr.read_add_outside readable (by decide)]
    rfl

theorem read_offsets_odd {p : Ptr} (odd : ¬ p.Aligned OFFSETS_ALIGN) (i : Nat) :
    (read_offsets (p.add (2 + 14 * i)) : Exec ε _) = .fault := by
  rw [read_offsets, Ptr.deref_misaligned _ (mt (aligned_record p i).mp odd)]
  rfl

theorem check_offsets_ok_iff (first offsets : Ed25519SignatureOffsets) {u : Unit} :
    check_offsets first offsets = .ok u ↔ Agrees first offsets := by
  simp only [check_offsets, Exec.bind_eq_ok, Exec.bailIf_eq_ok, exists_const, not_or, not_not, Agrees, and_assoc]

theorem check_offsets_returns (first offsets : Ed25519SignatureOffsets) : (check_offsets first offsets).Returns := by
  simp [check_offsets, Exec.returns_bind]

theorem check_offsets_err {first offsets : Ed25519SignatureOffsets} (bad : ¬ Agrees first offsets) :
    ∃ error, check_offsets first offsets = .err error := by
  rcases Exec.returns_iff.mp (check_offsets_returns first offsets) with ⟨u, done⟩ | rejected
  · exact absurd ((check_offsets_ok_iff first offsets).mp done) bad
  · exact rejected

/-! ### The loop over the later records -/

theorem Readable.mono {rest : Bytes} {i j : Nat} (readable : Readable rest j) (le : i ≤ j) : Readable rest i := by
  unfold Readable at *; omega

theorem parse_rest_succ {p : Ptr} (even : p.Aligned OFFSETS_ALIGN) (first : Ed25519SignatureOffsets) (todo i : Nat)
    (sigs : Vector ParsedEd25519SignatureDataRef 8) :
    parse_rest p first (todo + 1) i (2 + 14 * i) sigs =
      if Readable p.rest i then
        check_offsets first (recordAt p.rest i) >>= fun _ =>
          parse_rest p first todo (i + 1) (2 + 14 * (i + 1))
            (sigs.setIfInBounds i (signature_ref p first (recordAt p.rest i)))
      else .fault := by
  rw [parse_rest, read_offsets_eq even]
  by_cases readable : Readable p.rest i
  · rw [if_pos readable, if_pos readable, Exec.ok_bind, ED25519_SIGNATURE_OFFSETS_SERIALIZED_SIZE,
      show 2 + 14 * i + 14 = 2 + 14 * (i + 1) by omega]
  · rw [if_neg readable, if_neg readable, Exec.fault_bind]

/-- All indices from `i` on, the first one apart. -/
theorem forall_from_succ_iff {holds : Nat → Prop} {i todo : Nat} :
    (∀ j, i ≤ j → j < i + (todo + 1) → holds j) ↔ holds i ∧ ∀ j, i + 1 ≤ j → j < i + 1 + todo → holds j := by
  constructor
  · intro all
    exact ⟨all i (Nat.le_refl i) (by omega), fun j low high => all j (by omega) (by omega)⟩
  · rintro ⟨first, later⟩ j low high
    rcases Nat.eq_or_lt_of_le low with rfl | more
    · exact first
    · exact later j more (by omega)

/-- Writing record `i` first and the later ones after it writes all of them. -/
theorem written_succ (p : Ptr) (first : Ed25519SignatureOffsets) (todo i : Nat)
    (sigs : Vector ParsedEd25519SignatureDataRef 8) {j : Nat} (inside : j < 8) :
    (if i + 1 ≤ j ∧ j < i + 1 + todo then signature_ref p first (recordAt p.rest j)
      else (sigs.setIfInBounds i (signature_ref p first (recordAt p.rest i)))[j]) =
      if i ≤ j ∧ j < i + (todo + 1) then signature_ref p first (recordAt p.rest j) else sigs[j] := by
  rw [Vector.getElem_setIfInBounds]
  by_cases here : i = j
  · subst here
    rw [if_neg (by omega), if_pos rfl, if_pos (by omega)]
  · rw [if_neg here]
    exact if_congr (by omega) rfl rfl

/-- The loop gives a value exactly when every later record is readable and
    agrees with the first one; it then has written each of their signatures. -/
theorem parse_rest_ok_iff {p : Ptr} (even : p.Aligned OFFSETS_ALIGN) (first : Ed25519SignatureOffsets) (todo i : Nat)
    (sigs out : Vector ParsedEd25519SignatureDataRef 8) :
    parse_rest p first todo i (2 + 14 * i) sigs = .ok out ↔
      (∀ j, i ≤ j → j < i + todo → Readable p.rest j ∧ Agrees first (recordAt p.rest j)) ∧
      ∀ j, (inside : j < 8) → out[j] =
        if i ≤ j ∧ j < i + todo then signature_ref p first (recordAt p.rest j) else sigs[j] := by
  induction todo generalizing i sigs with
  | zero =>
    simp only [parse_rest, Exec.ok.injEq, Nat.add_zero]
    constructor
    · rintro rfl
      exact ⟨fun j low high => by omega, fun j inside => by rw [if_neg (by omega)]⟩
    · rintro ⟨_, entries⟩
      ext1 j inside
      rw [entries j inside, if_neg (by omega)]
  | succ todo ih =>
    rw [parse_rest_succ even, forall_from_succ_iff]
    by_cases readable : Readable p.rest i
    · rw [if_pos readable, Exec.bind_eq_ok]
      simp only [check_offsets_ok_iff, exists_const, ih, readable, true_and, and_assoc]
      refine and_congr_right fun _ => and_congr_right fun _ => forall₂_congr fun j inside => ?_
      rw [written_succ p first todo i sigs inside]
    · rw [if_neg readable]
      constructor
      · intro impossible; cases impossible
      · rintro ⟨⟨here, _⟩, _⟩
        exact absurd here.1 readable

/-- The loop gives an error exactly when it reaches a readable record that
    disagrees with the first one. -/
theorem parse_rest_err_iff {p : Ptr} (even : p.Aligned OFFSETS_ALIGN) (first : Ed25519SignatureOffsets) (todo i : Nat)
    (sigs : Vector ParsedEd25519SignatureDataRef 8) :
    (∃ error, parse_rest p first todo i (2 + 14 * i) sigs = .err error) ↔
      ∃ j, i ≤ j ∧ j < i + todo ∧ Readable p.rest j ∧ ¬ Agrees first (recordAt p.rest j) := by
  induction todo generalizing i sigs with
  | zero =>
    simp only [parse_rest]
    constructor
    · rintro ⟨_, impossible⟩; cases impossible
    · rintro ⟨j, low, high, _⟩; omega
  | succ todo ih =>
    rw [parse_rest_succ even]
    by_cases readable : Readable p.rest i
    · rw [if_pos readable]
      by_cases agrees : Agrees first (recordAt p.rest i)
      · have passed : check_offsets first (recordAt p.rest i) = .ok () := (check_offsets_ok_iff _ _).mpr agrees
        rw [passed, Exec.ok_bind, ih]
        constructor
        · rintro ⟨j, low, high, bad⟩
          exact ⟨j, by omega, by omega, bad⟩
        · rintro ⟨j, low, high, readableJ, bad⟩
          have notHere : i ≠ j := by rintro rfl; exact bad agrees
          exact ⟨j, by omega, by omega, readableJ, bad⟩
      · obtain ⟨error, rejected⟩ := check_offsets_err agrees
        rw [rejected, Exec.err_bind]
        exact ⟨fun _ => ⟨i, Nat.le_refl i, by omega, readable, agrees⟩, fun _ => ⟨error, rfl⟩⟩
    · rw [if_neg readable]
      constructor
      · rintro ⟨_, impossible⟩; cases impossible
      · rintro ⟨j, low, high, readableJ, _⟩
        exact absurd (readableJ.mono low) readable

theorem parse_rest_ne_panic {p : Ptr} (even : p.Aligned OFFSETS_ALIGN) (first : Ed25519SignatureOffsets) (todo i : Nat)
    (sigs : Vector ParsedEd25519SignatureDataRef 8) (message : String) :
    parse_rest p first todo i (2 + 14 * i) sigs ≠ .panic message := by
  induction todo generalizing i sigs with
  | zero => rw [parse_rest]; nofun
  | succ todo ih =>
    rw [parse_rest_succ even]
    split
    · rcases Exec.returns_iff.mp (check_offsets_returns first (recordAt p.rest i)) with ⟨_, done⟩ | ⟨_, done⟩
      · rw [done, Exec.ok_bind]
        exact ih (i + 1) _
      · rw [done, Exec.err_bind]
        nofun
    · nofun

/-! ### The first record and the message -/

theorem sizeOk_iff (first : Ed25519SignatureOffsets) :
    SizeOk first ↔ ¬ first.message_data_size < HEADER_SIZE ∧
      ¬ (first.message_data_size - HEADER_SIZE) % PACKED_SIZE ≠ 0 ∧
      ¬ (first.message_data_size - HEADER_SIZE) / PACKED_SIZE > 8 := by
  unfold SizeOk HEADER_SIZE PACKED_SIZE
  constructor
  · rintro ⟨feeds, few, size⟩
    omega
  · rintro ⟨long, whole, few⟩
    exact ⟨(first.message_data_size - 32) / 49, by omega, by omega⟩

/-- The first record cannot be read at an odd address or behind the allocation. -/
theorem parse_signatures_unreadable {p : Ptr} (count : Nat)
    (unreadable : ¬ (p.Aligned OFFSETS_ALIGN ∧ Readable p.rest 0)) : parse_signatures p count = .fault := by
  have first : (read_offsets (p.add (2 + 14 * 0)) : Exec AnyError _) = .fault := by
    by_cases even : p.Aligned OFFSETS_ALIGN
    · rw [read_offsets_eq even, if_neg fun readable => unreadable ⟨even, readable⟩]
    · exact read_offsets_odd even 0
  simp only [parse_signatures, first, Exec.fault_bind]

theorem parse_signatures_badSize {p : Ptr} (even : p.Aligned OFFSETS_ALIGN) (count : Nat) (readable : Readable p.rest 0)
    (bad : ¬ SizeOk (recordAt p.rest 0)) : ∃ error, parse_signatures p count = .err error := by
  have first : (read_offsets (p.add (2 + 14 * 0)) : Exec AnyError _) = .ok (recordAt p.rest 0) := by
    rw [read_offsets_eq even, if_pos readable]
  rw [sizeOk_iff] at bad
  simp only [parse_signatures, first, Exec.ok_bind]
  by_cases short : (recordAt p.rest 0).message_data_size < HEADER_SIZE
  · exact ⟨_, by rw [Exec.bailIf_true _ short, Exec.err_bind]⟩
  · have some : 0 < (recordAt p.rest 0).message_data_size := by unfold HEADER_SIZE at short; omega
    rw [Exec.bailIf_false _ short, Exec.ok_bind, Slice.indexRef_of_lt some, Exec.ok_bind]
    by_cases partial_feed : ((recordAt p.rest 0).message_data_size - HEADER_SIZE) % PACKED_SIZE ≠ 0
    · exact ⟨_, by rw [Exec.bailIf_true _ partial_feed, Exec.err_bind]⟩
    · by_cases many : ((recordAt p.rest 0).message_data_size - HEADER_SIZE) / PACKED_SIZE > 8
      · exact ⟨_, by rw [Exec.bailIf_false _ partial_feed, Exec.ok_bind, Exec.bailIf_true _ many, Exec.err_bind]⟩
      · exact absurd ⟨short, partial_feed, many⟩ bad

theorem parse_signatures_goodSize {p : Ptr} (even : p.Aligned OFFSETS_ALIGN) (count : Nat) (readable : Readable p.rest 0)
    (good : SizeOk (recordAt p.rest 0)) :
    parse_signatures p count = parse_rest p (recordAt p.rest 0) (count - 1) 1 (2 + 14 * 1)
      ((Vector.replicate 8 ParsedEd25519SignatureDataRef.default_empty).setIfInBounds 0
        (signature_ref p (recordAt p.rest 0) (recordAt p.rest 0))) := by
  have first : (read_offsets (p.add (2 + 14 * 0)) : Exec AnyError _) = .ok (recordAt p.rest 0) := by
    rw [read_offsets_eq even, if_pos readable]
  obtain ⟨short, partial_feed, many⟩ := (sizeOk_iff _).mp good
  have some : 0 < (recordAt p.rest 0).message_data_size := by unfold HEADER_SIZE at short; omega
  simp only [parse_signatures, first, Exec.ok_bind]
  rw [Exec.bailIf_false _ short, Exec.ok_bind, Slice.indexRef_of_lt some, Exec.ok_bind,
    Exec.bailIf_false _ partial_feed, Exec.ok_bind, Exec.bailIf_false _ many, Exec.ok_bind]
  rfl

/-- The first signature and those that the loop writes behind it are all
    signatures. -/
theorem written_eq_signatureRefs (p : Ptr) {count : Nat} (some : 1 ≤ count)
    (sigs : Vector ParsedEd25519SignatureDataRef 8) :
    (∀ j, (inside : j < 8) → sigs[j] =
      if 1 ≤ j ∧ j < 1 + (count - 1) then signature_ref p (recordAt p.rest 0) (recordAt p.rest j)
      else ((Vector.replicate 8 ParsedEd25519SignatureDataRef.default_empty).setIfInBounds 0
        (signature_ref p (recordAt p.rest 0) (recordAt p.rest 0)))[j]) ↔ sigs = signatureRefs p count := by
  rw [Vector.ext_iff]
  refine forall_congr' fun j => forall_congr' fun inside => ?_
  rw [signatureRefs, Vector.getElem_ofFn, Vector.getElem_setIfInBounds, Vector.getElem_replicate]
  dsimp only
  rcases Nat.eq_zero_or_pos j with rfl | positive
  · rw [if_neg (by omega), if_pos rfl, if_pos (by omega)]
  · rw [if_neg (by omega : ¬ 0 = j)]
    exact Eq.congr_right (if_congr (by omega) rfl rfl)

theorem parse_signatures_ok_iff (p : Ptr) {count : Nat} (some : 1 ≤ count)
    (sigs : Vector ParsedEd25519SignatureDataRef 8) :
    parse_signatures p count = .ok sigs ↔
      p.Aligned OFFSETS_ALIGN ∧ (∀ i < count, Readable p.rest i) ∧ SizeOk (recordAt p.rest 0) ∧
      (∀ i, 1 ≤ i → i < count → Agrees (recordAt p.rest 0) (recordAt p.rest i)) ∧
      sigs = signatureRefs p count := by
  by_cases reached : p.Aligned OFFSETS_ALIGN ∧ Readable p.rest 0
  · obtain ⟨even, readable⟩ := reached
    by_cases good : SizeOk (recordAt p.rest 0)
    · rw [parse_signatures_goodSize even count readable good, parse_rest_ok_iff even,
        written_eq_signatureRefs p some sigs]
      constructor
      · rintro ⟨all, is⟩
        refine ⟨even, fun i inside => ?_, good, fun i later inside => (all i later (by omega)).2, is⟩
        rcases Nat.eq_zero_or_pos i with rfl | positive
        · exact readable
        · exact (all i positive (by omega)).1
      · rintro ⟨_, allReadable, _, agrees, is⟩
        exact ⟨fun j later inside => ⟨allReadable j (by omega), agrees j later (by omega)⟩, is⟩
    · obtain ⟨error, rejected⟩ := parse_signatures_badSize even count readable good
      rw [rejected]
      constructor
      · intro done
        cases done
      · rintro ⟨_, _, isGood, _⟩
        exact absurd isGood good
  · rw [parse_signatures_unreadable count reached]
    constructor
    · intro done
      cases done
    · rintro ⟨even, allReadable, _⟩
      exact absurd ⟨even, allReadable 0 some⟩ reached

theorem parse_signatures_err_iff (p : Ptr) {count : Nat} (some : 1 ≤ count) :
    (∃ error, parse_signatures p count = .err error) ↔
      (p.Aligned OFFSETS_ALIGN ∧ Readable p.rest 0) ∧ (¬ SizeOk (recordAt p.rest 0) ∨
        ∃ i, 1 ≤ i ∧ i < count ∧ Readable p.rest i ∧ ¬ Agrees (recordAt p.rest 0) (recordAt p.rest i)) := by
  by_cases reached : p.Aligned OFFSETS_ALIGN ∧ Readable p.rest 0
  · obtain ⟨even, readable⟩ := reached
    by_cases good : SizeOk (recordAt p.rest 0)
    · rw [parse_signatures_goodSize even count readable good, parse_rest_err_iff even,
        show 1 + (count - 1) = count by omega]
      constructor
      · intro bad
        exact ⟨⟨even, readable⟩, .inr bad⟩
      · rintro ⟨_, bad⟩
        exact bad.resolve_left (not_not_intro good)
    · exact ⟨fun _ => ⟨⟨even, readable⟩, .inl good⟩, fun _ => parse_signatures_badSize even count readable good⟩
  · rw [parse_signatures_unreadable count reached]
    constructor
    · rintro ⟨error, failed⟩
      cases failed
    · rintro ⟨isReached, _⟩
      exact absurd isReached reached

theorem parse_signatures_ne_panic (p : Ptr) (count : Nat) (message : String) :
    parse_signatures p count ≠ .panic message := by
  by_cases reached : p.Aligned OFFSETS_ALIGN ∧ Readable p.rest 0
  · obtain ⟨even, readable⟩ := reached
    by_cases good : SizeOk (recordAt p.rest 0)
    · rw [parse_signatures_goodSize even count readable good]
      exact parse_rest_ne_panic even _ _ _ _ message
    · obtain ⟨error, rejected⟩ := parse_signatures_badSize even count readable good
      rw [rejected]
      nofun
  · rw [parse_signatures_unreadable count reached]
    nofun

/-! ### The whole data -/

theorem parse_instruction_badHeader (data : SafeSlice) (bad : ¬ HeaderOk data.toSlice) :
    ∃ error, parse_instruction data.toSlice = .err error := by
  unfold HeaderOk at bad
  simp only [parse_instruction]
  by_cases short : data.len < 2
  · exact ⟨_, by rw [Exec.bailIf_true _ short, Exec.err_bind]⟩
  · rw [Exec.bailIf_false _ short, Exec.ok_bind, Slice.index_of_lt data.inside (by omega), Exec.ok_bind,
      ← sigCount.eq_def]
    by_cases many : sigCount data.toSlice > 8
    · exact ⟨_, by rw [Exec.bailIf_true _ many, Exec.err_bind]⟩
    · rw [Exec.bailIf_false _ many, Exec.ok_bind]
      by_cases none : sigCount data.toSlice = 0
      · exact ⟨_, by rw [Exec.bailIf_true _ none, Exec.err_bind]⟩
      · rw [Exec.bailIf_false _ none, Exec.ok_bind]
        exact ⟨_, by rw [Exec.bailIf_true _ (by omega), Exec.err_bind]⟩

theorem parse_instruction_goodHeader (data : SafeSlice) (good : HeaderOk data.toSlice) :
    parse_instruction data.toSlice =
      (fun sigs => { parsedOf data.toSlice with parsed_sigs := sigs }) <$>
        parse_signatures data.ptr (sigCount data.toSlice) := by
  obtain ⟨long, some, few, room⟩ := good
  have inside : data.len ≤ data.ptr.rest.length := data.inside
  have slotAt : data.len - sigCount data.toSlice - 13 + sigCount data.toSlice + 0 = data.len - 13 := by omega
  have versionAt : data.len - sigCount data.toSlice - 13 + sigCount data.toSlice + 8 = data.len - 5 := by omega
  simp only [parse_instruction]
  rw [Exec.bailIf_false _ (by omega), Exec.ok_bind, Slice.index_of_lt data.inside (by omega), Exec.ok_bind,
    ← sigCount.eq_def, Exec.bailIf_false _ (by omega), Exec.ok_bind, Exec.bailIf_false _ (by omega), Exec.ok_bind,
    Exec.bailIf_false _ (by omega), Exec.ok_bind, Slice.sliceFrom_of_le (by omega), Exec.ok_bind]
  dsimp only
  rw [Slice.indexRef_of_lt (by dsimp only; omega), Exec.ok_bind]
  simp only [Ptr.add_add, slotAt, versionAt]
  rw [Ptr.read_u64_add (by omega), Exec.ok_bind, Ptr.read_u8_add (by omega),
    Exec.ok_bind, Slice.sliceTo_of_le (by omega), Exec.ok_bind, map_eq_pure_bind]
  rfl

/-- Behind the checks of the count, the parser does not come back from an odd
    address. -/
theorem parse_instruction_odd {data : SafeSlice} (odd : ¬ EvenAddress data.toSlice) (header : HeaderOk data.toSlice) :
    parse_instruction data.toSlice = .fault := by
  rw [parse_instruction_goodHeader data header, parse_signatures_unreadable _ fun reached => odd reached.1]
  rfl

/-- The parser accepts data exactly when it lies at an even address, its records
    are readable and its counts, sizes and indexes are right; what it gives is
    `parsedOf`. -/
theorem parse_instruction_ok_iff (data : SafeSlice) (parsed : ParsedInstruction) :
    parse_instruction data.toSlice = .ok parsed ↔ Accepted data.toSlice ∧ parsed = parsedOf data.toSlice := by
  by_cases header : HeaderOk data.toSlice
  · rw [parse_instruction_goodHeader data header, Exec.map_eq_ok]
    simp only [parse_signatures_ok_iff data.ptr header.2.1]
    constructor
    · rintro ⟨sigs, ⟨even, readable, size, agrees, rfl⟩, rfl⟩
      exact ⟨⟨even, header, readable, size, agrees⟩, rfl⟩
    · rintro ⟨accepted, rfl⟩
      exact ⟨_, ⟨accepted.even, accepted.readable, accepted.size, accepted.agrees, rfl⟩, rfl⟩
  · obtain ⟨error, rejected⟩ := parse_instruction_badHeader data header
    rw [rejected]
    constructor
    · intro done
      cases done
    · rintro ⟨accepted, _⟩
      exact absurd accepted.header header

/-- The parser gives an error exactly on rejected data. -/
theorem parse_instruction_err_iff (data : SafeSlice) :
    (∃ error, parse_instruction data.toSlice = .err error) ↔ Rejected data.toSlice := by
  by_cases header : HeaderOk data.toSlice
  · have same : (∃ error, parse_instruction data.toSlice = .err error) ↔
        ∃ error, parse_signatures data.ptr (sigCount data.toSlice) = .err error := by
      rw [parse_instruction_goodHeader data header]
      cases parse_signatures data.ptr (sigCount data.toSlice) with
      | ok sigs => simp
      | err error => exact ⟨fun _ => ⟨error, rfl⟩, fun _ => ⟨error, rfl⟩⟩
      | panic message => exact ⟨nofun, nofun⟩
      | fault => exact ⟨nofun, nofun⟩
    rw [same, parse_signatures_err_iff _ header.2.1]
    constructor
    · rintro ⟨⟨even, readable⟩, bad | ⟨i, later, counted, readableI, bad⟩⟩
      · exact .size even readable bad
      · exact .disagrees even i later counted readableI bad
    · intro rejected
      cases rejected with
      | header bad => exact absurd header bad
      | size even readable bad => exact ⟨⟨even, readable⟩, .inl bad⟩
      | disagrees even i later counted readable bad =>
        exact ⟨⟨even, readable.mono (Nat.zero_le i)⟩, .inr ⟨i, later, counted, readable, bad⟩⟩
  · exact ⟨fun _ => .header header, fun _ => parse_instruction_badHeader data header⟩

/-- The parser never panics; what keeps it from coming back is a record outside
    the allocation or at an odd address. -/
theorem parse_instruction_ne_panic (data : SafeSlice) (message : String) :
    parse_instruction data.toSlice ≠ .panic message := by
  by_cases header : HeaderOk data.toSlice
  · rw [parse_instruction_goodHeader data header]
    have noPanic := parse_signatures_ne_panic data.ptr (sigCount data.toSlice) message
    cases result : parse_signatures data.ptr (sigCount data.toSlice) with
    | ok sigs => nofun
    | err error => nofun
    | panic text =>
      rw [result] at noPanic
      exact fun same => noPanic (by cases same; rfl)
    | fault => nofun
  · obtain ⟨error, rejected⟩ := parse_instruction_badHeader data header
    rw [rejected]
    nofun

theorem parse_instruction_returns_iff (data : SafeSlice) :
    (parse_instruction data.toSlice).Returns ↔ Accepted data.toSlice ∨ Rejected data.toSlice := by
  rw [Exec.returns_iff, parse_instruction_err_iff]
  refine or_congr_left ⟨fun ⟨parsed, done⟩ => ((parse_instruction_ok_iff data parsed).mp done).1, ?_⟩
  intro accepted
  exact ⟨_, (parse_instruction_ok_iff data _).mpr ⟨accepted, rfl⟩⟩

end SwitchboardOnDemand.Ed25519Sysvar
