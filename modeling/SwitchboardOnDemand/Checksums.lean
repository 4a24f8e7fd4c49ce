import SwitchboardOnDemand.Hashing
import SwitchboardOnDemand.PullFeed

/-!
# Checksums of a feed

An oracle signs the digest of a feed's parameters, its result and a slot hash,
in one of two formats. All fields have a fixed width, and the formats differ in
length, so the digested bytes determine the format and every field
(`fed_injective`), and equal checksums of different calls are a collision of the
digest (`checksum_binds`).
-/

namespace SwitchboardOnDemand.Checksums
open Rust SwitchboardOnDemand.Utils SwitchboardOnDemand.PullFeed

variable (sha256 : Bytes → FixedBytes 32)

/-! ### The two formats -/

/-- The hasher of `generate_checksum_inner` before it is finalized. -/
def inner_hasher (queue : Pubkey) (feed_hash : FixedBytes 32) (result : I128) (slothash : FixedBytes 32)
    (max_variance : UInt64) (min_responses : UInt32) : Hasher :=
  let hasher := Hasher.new
  let hasher := hasher.update queue.val
  let hasher := hasher.update feed_hash.val
  let hasher := hasher.update result.toLE.val
  let hasher := hasher.update slothash.val
  let hasher := hasher.update (leBytes 8 max_variance.toNat)
  hasher.update (leBytes 4 min_responses.toNat)

def generate_checksum_inner (queue : Pubkey) (feed_hash : FixedBytes 32) (result : I128) (slothash : FixedBytes 32)
    (max_variance : UInt64) (min_responses : UInt32) : FixedBytes 32 :=
  (inner_hasher queue feed_hash result slothash max_variance min_responses).finalize sha256

/-- The hasher of `generate_checksum_with_timestamp` before it is finalized. -/
def timestamp_hasher (queue : Pubkey) (feed_hash : FixedBytes 32) (result : I128) (slothash : FixedBytes 32)
    (max_variance : UInt64) (min_responses : UInt32) (timestamp : UInt64) : Hasher :=
  let hasher := Hasher.new
  let hasher := hasher.update queue.val
  let hasher := hasher.update feed_hash.val
  let hasher := hasher.update result.toLE.val
  let hasher := hasher.update slothash.val
  let hasher := hasher.update (leBytes 8 max_variance.toNat)
  let hasher := hasher.update (leBytes 4 min_responses.toNat)
  hasher.update (leBytes 8 timestamp.toNat)

def generate_checksum_with_timestamp (queue : Pubkey) (feed_hash : FixedBytes 32) (result : I128)
    (slothash : FixedBytes 32) (max_variance : UInt64) (min_responses : UInt32) (timestamp : UInt64) :
    FixedBytes 32 :=
  (timestamp_hasher queue feed_hash result slothash max_variance min_responses timestamp).finalize sha256

/-- The checksum of a result under the feed's own parameters. -/
def generate_checksum (self : PullFeedAccountData) (result : I128) (slothash : FixedBytes 32) : FixedBytes 32 :=
  generate_checksum_inner sha256 self.queue self.feed_hash result slothash self.max_variance self.min_responses

/-! ### Calls -/

/-- A call of one of the two functions with all its arguments. -/
inductive ChecksumCall where
  | inner (queue : Pubkey) (feed_hash : FixedBytes 32) (result : I128) (slothash : FixedBytes 32)
    (max_variance : UInt64) (min_responses : UInt32)
  | with_timestamp (queue : Pubkey) (feed_hash : FixedBytes 32) (result : I128) (slothash : FixedBytes 32)
    (max_variance : UInt64) (min_responses : UInt32) (timestamp : UInt64)
  deriving Repr, DecidableEq

/-- The bytes that the call digests. -/
def ChecksumCall.fed : ChecksumCall → Bytes
  | .inner queue feed_hash result slothash max_variance min_responses =>
    (inner_hasher queue feed_hash result slothash max_variance min_responses).fed
  | .with_timestamp queue feed_hash result slothash max_variance min_responses timestamp =>
    (timestamp_hasher queue feed_hash result slothash max_variance min_responses timestamp).fed

def ChecksumCall.checksum : ChecksumCall → FixedBytes 32
  | .inner queue feed_hash result slothash max_variance min_responses =>
    generate_checksum_inner sha256 queue feed_hash result slothash max_variance min_responses
  | .with_timestamp queue feed_hash result slothash max_variance min_responses timestamp =>
    generate_checksum_with_timestamp sha256 queue feed_hash result slothash max_variance min_responses timestamp

theorem checksum_eq (call : ChecksumCall) : call.checksum sha256 = sha256 call.fed := by
  cases call <;> rfl

/-! ### Every field is bound -/

variable {queue queue' : Pubkey} {feed_hash feed_hash' : FixedBytes 32} {result result' : I128}
  {slothash slothash' : FixedBytes 32} {max_variance max_variance' : UInt64} {min_responses min_responses' : UInt32}

theorem length_inner : (inner_hasher queue feed_hash result slothash max_variance min_responses).fed.length = 124 := by
  simp [inner_hasher, queue.property, feed_hash.property, result.toLE.property, slothash.property]

/-- The second format is the first one with a timestamp behind it. -/
theorem timestamp_fed (timestamp : UInt64) :
    (timestamp_hasher queue feed_hash result slothash max_variance min_responses timestamp).fed =
      (inner_hasher queue feed_hash result slothash max_variance min_responses).fed ++ leBytes 8 timestamp.toNat := rfl

theorem u32_leBytes_injective {a b : UInt32} (same : leBytes 4 a.toNat = leBytes 4 b.toNat) : a = b :=
  UInt32.toNat_inj.mp (leBytes_injective a.toNat_lt b.toNat_lt same)

theorem u64_leBytes_injective {a b : UInt64} (same : leBytes 8 a.toNat = leBytes 8 b.toNat) : a = b :=
  UInt64.toNat_inj.mp (leBytes_injective a.toNat_lt b.toNat_lt same)

/-- Fields of fixed widths are cut off one by one, from the last one on. -/
theorem inner_injective
    (same : (inner_hasher queue feed_hash result slothash max_variance min_responses).fed =
      (inner_hasher queue' feed_hash' result' slothash' max_variance' min_responses').fed) :
    queue = queue' ∧ feed_hash = feed_hash' ∧ result = result' ∧ slothash = slothash' ∧
      max_variance = max_variance' ∧ min_responses = min_responses' := by
  simp only [inner_hasher, Hasher.fed_update, Hasher.fed_new, List.nil_append] at same
  obtain ⟨same, responses⟩ := List.append_inj' same (by simp)
  obtain ⟨same, variance⟩ := List.append_inj' same (by simp)
  obtain ⟨same, slot⟩ := List.append_inj' same (slothash.property.trans slothash'.property.symm)
  obtain ⟨same, value⟩ := List.append_inj' same (result.toLE.property.trans result'.toLE.property.symm)
  obtain ⟨queues, feeds⟩ := List.append_inj' same (feed_hash.property.trans feed_hash'.property.symm)
  exact ⟨Subtype.ext queues, Subtype.ext feeds, I128.toLE_injective (Subtype.ext value), Subtype.ext slot,
    u64_leBytes_injective variance, u32_leBytes_injective responses⟩

/-- The digested bytes determine the function and all its arguments. -/
theorem fed_injective : Function.Injective ChecksumCall.fed := by
  intro a b same
  cases a with
  | inner =>
    cases b with
    | inner =>
      obtain ⟨rfl, rfl, rfl, rfl, rfl, rfl⟩ := inner_injective same
      rfl
    | with_timestamp =>
      have lengths := congrArg List.length same
      simp [ChecksumCall.fed, timestamp_fed, length_inner] at lengths
  | with_timestamp =>
    cases b with
    | inner =>
      have lengths := congrArg List.length same
      simp [ChecksumCall.fed, timestamp_fed, length_inner] at lengths
    | with_timestamp =>
      obtain ⟨same, timestamps⟩ := List.append_inj' same (by simp)
      obtain ⟨rfl, rfl, rfl, rfl, rfl, rfl⟩ := inner_injective same
      rw [u64_leBytes_injective timestamps]

/-- The first format determines all its fields. -/
theorem inner_fed_eq_iff : (inner_hasher queue feed_hash result slothash max_variance min_responses).fed =
      (inner_hasher queue' feed_hash' result' slothash' max_variance' min_responses').fed ↔
    queue = queue' ∧ feed_hash = feed_hash' ∧ result = result' ∧ slothash = slothash' ∧
      max_variance = max_variance' ∧ min_responses = min_responses' := by
  refine ⟨inner_injective, ?_⟩
  rintro ⟨rfl, rfl, rfl, rfl, rfl, rfl⟩
  rfl

/-- A checksum under one feed's parameters is that of another feed exactly when
    the two have the same parameters, or the digest collides. -/
theorem generate_checksum_eq_iff (feed other : PullFeedAccountData) :
    generate_checksum sha256 feed result slothash = generate_checksum sha256 other result' slothash' ↔
      (feed.queue = other.queue ∧ feed.feed_hash = other.feed_hash ∧ result = result' ∧ slothash = slothash' ∧
        feed.max_variance = other.max_variance ∧ feed.min_responses = other.min_responses) ∨
      Collision sha256
        (inner_hasher feed.queue feed.feed_hash result slothash feed.max_variance feed.min_responses).fed
        (inner_hasher other.queue other.feed_hash result' slothash' other.max_variance other.min_responses).fed := by
  rw [← inner_fed_eq_iff]
  exact digest_eq_iff sha256 _ _

/-- Two calls digest the same bytes exactly when they are the same call, and have
    the same checksum exactly when they are or their bytes are a collision. -/
theorem checksum_binds (a b : ChecksumCall) :
    (a.fed = b.fed ↔ a = b) ∧
      (a.checksum sha256 = b.checksum sha256 ↔ a = b ∨ Collision sha256 a.fed b.fed) := by
  have bytes : a.fed = b.fed ↔ a = b := fed_injective.eq_iff
  refine ⟨bytes, ?_⟩
  rw [checksum_eq, checksum_eq, digest_eq_iff, bytes]

end SwitchboardOnDemand.Checksums
