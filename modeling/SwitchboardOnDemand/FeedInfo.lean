import SwitchboardOnDemand.Int128
import SwitchboardOnDemand.Memory

/-!
The packed records of a signed quote: the 32-byte header with the signed slot
hash and the 49-byte feed records, as they lie in the message. Decoding and
encoding a feed record undo each other.
-/

namespace SwitchboardOnDemand.FeedInfo
open Rust

variable {ε : Type}

structure PackedQuoteHeader where
  signed_slothash : FixedBytes 32
  deriving Repr, DecidableEq

/-- `size_of::<PackedQuoteHeader>()`. -/
def HEADER_SIZE : Nat := 32

structure PackedFeedInfo where
  feed_id : FixedBytes 32
  feed_value : I128
  min_oracle_samples : UInt8
  deriving Repr, DecidableEq

/-- `size_of::<PackedFeedInfo>()`. -/
def PACKED_SIZE : Nat := 49

def PackedFeedInfo.ofBytes (bytes : FixedBytes 49) : PackedFeedInfo where
  feed_id := fixedAt bytes.val 0 32 (by rw [bytes.property]; decide)
  feed_value := I128.ofLE (fixedAt bytes.val 32 16 (by rw [bytes.property]; decide))
  min_oracle_samples := byteAt bytes.val 48

def PackedFeedInfo.toBytes (feed : PackedFeedInfo) : Bytes :=
  feed.feed_id.val ++ feed.feed_value.toLE.val ++ [feed.min_oracle_samples]

@[simp] theorem PackedFeedInfo.length_toBytes (feed : PackedFeedInfo) : feed.toBytes.length = 49 := by
  simp [toBytes, feed.feed_id.property, feed.feed_value.toLE.property]

theorem PackedFeedInfo.toBytes_ofBytes (bytes : FixedBytes 49) : (ofBytes bytes).toBytes = bytes.val := by
  have last : window bytes.val 48 1 = [byteAt bytes.val 48] := window_one (by rw [bytes.property]; decide)
  have split : bytes.val = window bytes.val 0 32 ++ window bytes.val 32 16 ++ window bytes.val 48 1 := by
    rw [← window_add bytes.val 0 32 16, ← window_add bytes.val 0 48 1, window_full bytes.property]
  simp only [toBytes, ofBytes, I128.toLE_ofLE, fixedAt_val]
  rw [← last, ← split]

theorem PackedFeedInfo.ofBytes_toBytes (feed : PackedFeedInfo) : ofBytes ⟨feed.toBytes, feed.length_toBytes⟩ = feed := by
  obtain ⟨id, value, samples⟩ := feed
  have front : (id.val ++ value.toLE.val).length = 48 := by
    rw [List.length_append, id.property, value.toLE.property]
  have idAt : window (id.val ++ value.toLE.val ++ [samples]) 0 32 = id.val := by
    rw [List.append_assoc, window_append_left id.property.ge, window_full id.property]
  have valueAt : window (id.val ++ value.toLE.val ++ [samples]) 32 16 = value.toLE.val :=
    window_middle id.property value.toLE.property
  have samplesAt : byteAt (id.val ++ value.toLE.val ++ [samples]) 48 = samples := by
    rw [byteAt, List.getElem?_append_right front.le, front]
    rfl
  have value16 : ∀ inside, fixedAt (id.val ++ value.toLE.val ++ [samples]) 32 16 inside = value.toLE :=
    fun _ => Subtype.ext valueAt
  simp only [ofBytes, toBytes, mk.injEq]
  refine ⟨Subtype.ext idAt, ?_, samplesAt⟩
  rw [value16, I128.ofLE_toLE]

/-- `*(p as *const PackedQuoteHeader)`. -/
def read_header (p : Ptr) : Exec ε PackedQuoteHeader := PackedQuoteHeader.mk <$> p.read 32

/-- `*(p as *const PackedFeedInfo)`. -/
def read_feed (p : Ptr) : Exec ε PackedFeedInfo := PackedFeedInfo.ofBytes <$> p.read 49

/-- The feed records of a `&[PackedFeedInfo]` of the given length, in order. -/
def read_feeds (p : Ptr) : Nat → Exec ε (List PackedFeedInfo)
  | 0 => .ok []
  | count + 1 => do
    let feed ← read_feed p
    let rest ← read_feeds (p.add PACKED_SIZE) count
    pure (feed :: rest)

/-- `iter().find(|info| info.feed_id() == feed_id)`: the records are read one after
    the other, up to the first one with the id. -/
def find_feed (p : Ptr) (feed_id : FixedBytes 32) : Nat → Exec ε (Option PackedFeedInfo)
  | 0 => .ok none
  | count + 1 => do
    let info ← read_feed p
    if info.feed_id = feed_id then pure (some info) else find_feed (p.add PACKED_SIZE) feed_id count

theorem read_feed_eq_ok {p : Ptr} {feed : PackedFeedInfo} :
    (read_feed p : Exec ε _) = .ok feed ↔
      ∃ inside : 0 + 49 ≤ p.rest.length, PackedFeedInfo.ofBytes (fixedAt p.rest 0 49 inside) = feed := by
  by_cases inside : 0 + 49 ≤ p.rest.length
  · simp [read_feed, Ptr.read_of_le (by omega : 49 ≤ p.rest.length), inside]
  · simp [read_feed, Ptr.read, inside]

/-- Feeds that are read are the bytes they are read from, record after record. -/
theorem read_feeds_bytes {count : Nat} {p : Ptr} {feeds : List PackedFeedInfo}
    (done : (read_feeds p count : Exec ε _) = .ok feeds) :
    feeds.length = count ∧ 49 * count ≤ p.rest.length ∧
      (feeds.map PackedFeedInfo.toBytes).flatten = window p.rest 0 (49 * count) := by
  induction count generalizing p feeds with
  | zero => cases done; simp [window]
  | succ count ih =>
    simp only [read_feeds, Exec.bind_eq_ok, Exec.pure_eq, Exec.ok.injEq] at done
    obtain ⟨feed, first, rest, later, rfl⟩ := done
    obtain ⟨inside, rfl⟩ := read_feed_eq_ok.mp first
    obtain ⟨length, fits, bytes⟩ := ih later
    simp only [Ptr.rest_add, PACKED_SIZE, List.length_drop, window_drop] at fits bytes
    refine ⟨by simp [length], by omega, ?_⟩
    rw [List.map_cons, List.flatten_cons, PackedFeedInfo.toBytes_ofBytes, bytes, fixedAt_val,
      show 49 * (count + 1) = 49 + 49 * count by omega, window_add]

theorem read_feeds_of_le {count : Nat} {p : Ptr} (fits : 49 * count ≤ p.rest.length) :
    ∃ feeds, (read_feeds p count : Exec ε _) = .ok feeds := by
  induction count generalizing p with
  | zero => exact ⟨[], rfl⟩
  | succ count ih =>
    obtain ⟨rest, later⟩ := @ih (p.add PACKED_SIZE) (by simp [PACKED_SIZE]; omega)
    have inside : 0 + 49 ≤ p.rest.length := by omega
    have first : (read_feed p : Exec ε _) = .ok _ := read_feed_eq_ok.mpr ⟨inside, rfl⟩
    exact ⟨PackedFeedInfo.ofBytes (fixedAt p.rest 0 49 inside) :: rest, by simp [read_feeds, first, later]⟩

/-- Among records that can all be read, the search finds the first one with the id. -/
theorem find_feed_of_feeds {count : Nat} {p : Ptr} {feeds : List PackedFeedInfo} (feed_id : FixedBytes 32)
    (done : (read_feeds p count : Exec ε _) = .ok feeds) :
    (find_feed p feed_id count : Exec ε _) = .ok (feeds.find? fun info => info.feed_id = feed_id) := by
  induction count generalizing p feeds with
  | zero => cases done; rfl
  | succ count ih =>
    simp only [read_feeds, Exec.bind_eq_ok, Exec.pure_eq, Exec.ok.injEq] at done
    obtain ⟨feed, first, rest, later, rfl⟩ := done
    rw [find_feed, first, Exec.ok_bind]
    by_cases same : feed.feed_id = feed_id
    · rw [if_pos same, List.find?_cons_of_pos (by simpa using same), Exec.pure_eq]
    · rw [if_neg same, List.find?_cons_of_neg (by simpa using same), ih later]

end SwitchboardOnDemand.FeedInfo
