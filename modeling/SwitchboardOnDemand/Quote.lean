import SwitchboardOnDemand.FeedInfo
import SwitchboardOnDemand.Utils

/-!
A verified quote: references to its header and feeds, the number of its
signatures, and the slot, version and oracle indexes of its trailer.
`OracleQuote.view` is everything a caller can read from it.
-/

namespace SwitchboardOnDemand.Quote
open Rust SwitchboardOnDemand.Utils SwitchboardOnDemand.FeedInfo

variable {ε : Type}

/-- A `&[PackedFeedInfo]`. -/
structure FeedSlice where
  ptr : Ptr
  len : Nat
  deriving Repr, DecidableEq

structure OracleQuote where
  quote_header_refs : Ptr
  oracle_count : Nat
  packed_feed_infos : FeedSlice
  feed_count : Nat
  oracle_idxs : Slice
  recent_slot : UInt64
  version : UInt8
  raw_buffer : Option Slice
  deriving Repr, DecidableEq

namespace OracleQuote

def header (self : OracleQuote) : Exec ε PackedQuoteHeader := read_header self.quote_header_refs

/-- `&self.packed_feed_infos[..self.feed_count as usize]`, read. -/
def feeds (self : OracleQuote) : Exec ε (List PackedFeedInfo) := do
  Exec.assert (self.feed_count ≤ self.packed_feed_infos.len)
    s!"range end index {self.feed_count} out of range for slice of length {self.packed_feed_infos.len}"
  read_feeds self.packed_feed_infos.ptr self.feed_count

def oracle_index (self : OracleQuote) (signature_index : Nat) : Exec AnyError UInt8 :=
  if signature_index < self.oracle_count then self.oracle_idxs.index signature_index
  else .err s!"Invalid signature index {signature_index} for quote with {self.oracle_count} oracles"

def raw_data (self : OracleQuote) : Option Slice := self.raw_buffer

def len (self : OracleQuote) : Nat := self.feed_count

def is_empty (self : OracleQuote) : Bool := self.feed_count == 0

/-- Finds the first feed with an id. -/
def feed (self : OracleQuote) (feed_id : FixedBytes 32) : Exec AnyError PackedFeedInfo := do
  Exec.assert (self.feed_count ≤ self.packed_feed_infos.len)
    s!"range end index {self.feed_count} out of range for slice of length {self.packed_feed_infos.len}"
  let info ← find_feed self.packed_feed_infos.ptr feed_id self.feed_count
  Exec.okOr "Switchboard On-Demand FeedNotFound" info

/-- Where the feeds can be read, `feed` looks them up in order. -/
theorem feed_of_feeds {self : OracleQuote} {feeds : List PackedFeedInfo} (feed_id : FixedBytes 32)
    (read : (self.feeds : Exec AnyError _) = .ok feeds) :
    self.feed feed_id =
      Exec.okOr "Switchboard On-Demand FeedNotFound" (feeds.find? fun info => info.feed_id = feed_id) := by
  obtain ⟨_, within, done⟩ := Exec.bind_eq_ok.mp read
  rw [Exec.assert_eq_ok] at within
  have found : (find_feed self.packed_feed_infos.ptr feed_id self.feed_count : Exec AnyError _) = _ :=
    find_feed_of_feeds feed_id done
  rw [feed, Exec.assert_true _ within, Exec.ok_bind, found, Exec.ok_bind]

theorem len_of_feeds {self : OracleQuote} {feeds : List PackedFeedInfo}
    (read : (self.feeds : Exec ε _) = .ok feeds) : self.len = feeds.length := by
  obtain ⟨_, _, done⟩ := Exec.bind_eq_ok.mp read
  exact (read_feeds_bytes done).1.symm

end OracleQuote

/-- What a quote says, with its references followed. -/
structure QuoteView where
  header : PackedQuoteHeader
  feeds : List PackedFeedInfo
  oracle_count : Nat
  oracle_idxs : Bytes
  recent_slot : UInt64
  version : UInt8
  raw_data : Option Bytes
  deriving Repr, DecidableEq

def OracleQuote.view (self : OracleQuote) : Exec ε QuoteView := do
  let header ← self.header
  let feeds ← self.feeds
  let oracle_idxs ← self.oracle_idxs.ptr.read self.oracle_idxs.len
  match self.raw_data with
  | none => pure ⟨header, feeds, self.oracle_count, oracle_idxs.val, self.recent_slot, self.version, none⟩
  | some raw =>
    let raw_data ← raw.ptr.read raw.len
    pure ⟨header, feeds, self.oracle_count, oracle_idxs.val, self.recent_slot, self.version, some raw_data.val⟩

end SwitchboardOnDemand.Quote
