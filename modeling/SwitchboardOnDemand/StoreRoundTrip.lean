import SwitchboardOnDemand.StoredPath

/-!
# Reading a store back

`store_delimited` checks the capacity with the whole length of the source and
writes the low 16 bits of it; `verify_delimited` reads as many bytes as these 16
bits say. What is read back is the source exactly when its length has 16 bits
(`round_trip_iff`); the bytes behind the source never change.
-/

namespace SwitchboardOnDemand.StoreRoundTrip
open Rust SwitchboardOnDemand.Utils SwitchboardOnDemand.QuoteStore SwitchboardOnDemand.Verifier
open SwitchboardOnDemand.StoredPath

variable {ε : Type}

/-- The reading part of `verify_delimited`: a length, then that many bytes. -/
def read_delimited (data : Slice) : Exec ε Slice := do
  let len ← data.ptr.read_u16
  data.sliceRange 2 (len + 2)

/-- The reading part of `verify_account`. -/
def read_account (oracle_account : AccountInfo) : Exec AnyError Slice := do
  let data := Slice.of oracle_account.data
  Exec.bailIf (data.len < 8) s!"Oracle account too small: {data.len} bytes, expected at least 8"
  let discriminator ← data.ptr.read_u64
  Exec.bailIf (discriminator ≠ QUOTE_DISCRIMINATOR_U64_LE) "Invalid oracle account discriminator"
  let data ← data.sliceFrom 8
  read_delimited data

theorem verify_delimited_eq (checks : OverflowChecks) (self : QuoteVerifier) (data : Slice) :
    verify_delimited checks self data = read_delimited data >>= verify checks self := by
  rw [verify_delimited, read_delimited, bind_assoc]

theorem verify_account_eq (checks : OverflowChecks) (self : QuoteVerifier) (account : AccountInfo) :
    verify_account checks self account = read_account account >>= verify checks self := by
  simp only [verify_account, read_account, bind_assoc, verify_delimited_eq]

/-- The source is read back from the buffer, and the bytes behind it are the old
    ones. -/
structure RoundTrips (source dst out : Bytes) : Prop where
  back : ∃ read, (read_delimited (Slice.of out) : Exec AnyError Slice) = .ok read ∧ read.InBounds ∧
    read.bytes = source
  length : out.length = dst.length
  rest : out.drop (2 + source.length) = dst.drop (2 + source.length)

/-- The source is read back from the account, and the bytes behind it are the old
    ones. -/
structure WriteRoundTrips (source : Bytes) (account after : AccountInfo) : Prop where
  back : ∃ read, read_account after = .ok read ∧ read.InBounds ∧ read.bytes = source
  length : after.data.length = account.data.length
  rest : after.data.drop (10 + source.length) = account.data.drop (10 + source.length)

/-! ### What is read back -/

/-- Behind a pointer to a 16-bit length and bytes, as many of these are read. -/
theorem read_delimited_eq {p : Ptr} {len total : Nat} {source : Bytes} (narrow : len < 65536)
    (starts : p.rest = leBytes 2 len ++ source) (fits : len + 2 ≤ total) :
    (read_delimited ⟨p, total⟩ : Exec ε Slice) = .ok ⟨p.add 2, len⟩ := by
  have length : (p.read_u16 : Exec ε _) = .ok len := by
    rw [← Ptr.add_zero p, Ptr.read_u16_add (by rw [starts, List.length_append, length_leBytes]; omega), starts,
      window_append_left (by rw [length_leBytes]), window_full (length_leBytes 2 _),
      leNat_leBytes_of_lt (by simpa using narrow)]
  simp only [read_delimited, length, Exec.ok_bind]
  rw [Slice.sliceRange_of_le (by omega) fits, Nat.add_sub_cancel]

/-- A source behind the low 16 bits of its length is read back exactly when its
    length has no others. -/
theorem back_iff {p : Ptr} {total : Nat} {source behind : Bytes}
    (starts : p.rest = leBytes 2 (source.length % 65536) ++ (source ++ behind)) (fits : source.length + 2 ≤ total) :
    (∃ read, (read_delimited ⟨p, total⟩ : Exec ε Slice) = .ok read ∧ read.InBounds ∧ read.bytes = source) ↔
      source.length < 65536 := by
  have low : source.length % 65536 ≤ source.length := Nat.mod_le _ _
  have read : (read_delimited ⟨p, total⟩ : Exec ε Slice) = _ :=
    read_delimited_eq (Nat.mod_lt _ (by decide)) starts (by omega)
  have rest : (p.add 2).rest = source ++ behind := by
    rw [Ptr.rest_add, starts, List.drop_left' (length_leBytes 2 _)]
  have inBounds : (⟨p.add 2, source.length % 65536⟩ : Slice).InBounds := by
    rw [Slice.InBounds, rest, List.length_append]
    exact Nat.le_add_right_of_le low
  constructor
  · rintro ⟨slice, done, _, same⟩
    rw [read] at done
    cases done
    have length := Slice.length_bytes inBounds
    rw [same] at length
    dsimp only at length
    omega
  · intro narrow
    refine ⟨_, read, inBounds, ?_⟩
    rw [Slice.bytes, rest, Nat.mod_eq_of_lt narrow, List.take_left]

theorem delimited_append (source dst : Bytes) : delimited source dst =
    leBytes 2 (source.length % 65536) ++ (source ++ dst.drop (2 + source.length)) := by
  rw [delimited, List.append_assoc]

theorem drop_delimited (source dst : Bytes) :
    (delimited source dst).drop (2 + source.length) = dst.drop (2 + source.length) := by
  rw [delimited, List.drop_left' (by rw [List.length_append, length_leBytes])]

theorem roundTrips_delimited_iff {source dst : Bytes} (fits : source.length + 2 ≤ dst.length) :
    RoundTrips source dst (delimited source dst) ↔ source.length < 65536 := by
  have length : (delimited source dst).length = dst.length := by
    simp only [delimited, List.length_append, length_leBytes, List.length_drop]
    omega
  have back : (∃ read, (read_delimited (Slice.of (delimited source dst)) : Exec AnyError Slice) = .ok read ∧
      read.InBounds ∧ read.bytes = source) ↔ source.length < 65536 :=
    back_iff (delimited_append source dst) (fits.trans_eq length.symm)
  constructor
  · rintro ⟨isBack, _, _⟩
    exact back.mp isBack
  · intro narrow
    exact ⟨back.mpr narrow, length, drop_delimited source dst⟩

/-! ### An account behind its discriminator -/

/-- Behind the discriminator the account is read as a buffer. -/
theorem read_account_stored {source data : Bytes} (key : Pubkey) (fits : source.length + 10 ≤ data.length) :
    read_account ⟨key, stored source data⟩ =
      read_delimited ⟨(addrOf (stored source data)).add 8, (stored source data).length - 8⟩ := by
  have length := length_stored fits
  have discriminator : ((Slice.of (stored source data)).ptr.read_u64 : Exec AnyError _) =
      .ok QUOTE_DISCRIMINATOR_U64_LE := by
    rw [← Ptr.add_zero (Slice.of (stored source data)).ptr, Ptr.read_u64_add (by rw [Slice.of_ptr_rest]; omega),
      Slice.of_ptr_rest, window_discriminator_stored]
    rfl
  rw [read_account, Exec.bailIf_false _ (by simp only [Slice.of_len]; omega), Exec.ok_bind, discriminator, Exec.ok_bind,
    Exec.bailIf_false _ (not_not.mpr rfl), Exec.ok_bind, Slice.sliceFrom_of_le (by simp only [Slice.of_len]; omega),
    Exec.ok_bind]
  rfl

theorem writeRoundTrips_stored_iff {source : Bytes} {account : AccountInfo}
    (fits : source.length + 10 ≤ account.data.length) :
    WriteRoundTrips source account { account with data := stored source account.data } ↔ source.length < 65536 := by
  have length := length_stored fits
  have eight : QUOTE_DISCRIMINATOR.length = 8 := rfl
  have rest : ((addrOf (stored source account.data)).add 8).rest = leBytes 2 (source.length % 65536) ++
      (source ++ (account.data.drop 8).drop (2 + source.length)) := by
    rw [Ptr.rest_add, addrOf_rest, stored, List.drop_left' eight, delimited_append]
  have inside : source.length + 2 ≤ (stored source account.data).length - 8 := by omega
  have back : (∃ read, read_account ⟨account.key, stored source account.data⟩ = .ok read ∧ read.InBounds ∧
      read.bytes = source) ↔ source.length < 65536 := by
    rw [read_account_stored account.key fits]
    exact back_iff rest inside
  constructor
  · rintro ⟨isBack, _, _⟩
    exact back.mp isBack
  · intro narrow
    refine ⟨back.mpr narrow, length, ?_⟩
    have split : 10 + source.length = 8 + (2 + source.length) := by omega
    rw [split]
    calc (stored source account.data).drop (8 + (2 + source.length))
      _ = ((stored source account.data).drop 8).drop (2 + source.length) := List.drop_drop.symm
      _ = (delimited source (account.data.drop 8)).drop (2 + source.length) := by rw [stored, List.drop_left' eight]
      _ = (account.data.drop 8).drop (2 + source.length) := drop_delimited source _
      _ = account.data.drop (8 + (2 + source.length)) := List.drop_drop

/-- A store, and a write behind its discriminator, is read back exactly for a
    source whose length has 16 bits. -/
theorem round_trip_iff (clock_slot : UInt64) (source : SafeSlice) :
    (∀ dst out, (store_delimited clock_slot source.toSlice dst : Exec AnyError Bytes) = .ok out →
      (RoundTrips source.bytes dst out ↔ source.len < 65536)) ∧
    ∀ account after, (write clock_slot source.toSlice account : Exec AnyError AccountInfo) = .ok after →
      (WriteRoundTrips source.bytes account after ↔ source.len < 65536) := by
  have length := Slice.length_bytes source.inside
  constructor
  · intro dst out done
    obtain ⟨_, _, fits, _, rfl⟩ := (store_delimited_ok_iff source.inside clock_slot dst out).mp done
    rw [roundTrips_delimited_iff (by omega), length]
  · intro account after done
    obtain ⟨_, fits, _, _, rfl⟩ := (write_ok_iff source.inside clock_slot account after).mp done
    rw [writeRoundTrips_stored_iff (by omega), length]

/-- A quote of slot 50 without feeds and signatures. -/
def slot50 : SafeSlice := SafeSlice.of [50, 0, 0, 0, 0, 0, 0, 0, 1, 83, 66, 79, 68]

theorem round_trip_iff_slot50 : ∃ out,
    (store_delimited 100 slot50.toSlice (List.replicate 20 0) : Exec AnyError Bytes) = .ok out ∧
      RoundTrips slot50.bytes (List.replicate 20 0) out := by
  have done : (store_delimited 100 slot50.toSlice (List.replicate 20 0) : Exec AnyError Bytes) =
      .ok (delimited slot50.bytes (List.replicate 20 0)) := by decide
  refine ⟨_, done, ((round_trip_iff 100 slot50).1 _ _ done).mpr ?_⟩
  exact Nat.lt_of_lt_of_le (show slot50.len < 14 by decide) (by decide)

/-- A source of 65536 zeros, one byte more than 16 bits count. -/
def longSource : SafeSlice := SafeSlice.of (List.replicate 65536 0)

/-- The store accepts `longSource`, and reading back gives nothing of it. -/
theorem longSource_not_back : ∃ out,
    (store_delimited 1 longSource.toSlice (List.replicate 65538 0) : Exec AnyError Bytes) = .ok out ∧
      ¬ RoundTrips longSource.bytes (List.replicate 65538 0) out := by
  have bytes : longSource.bytes = List.replicate 65536 0 := Slice.of_bytes _
  have size : longSource.len = 65536 := List.length_replicate
  have room : (List.replicate 65538 (0 : UInt8)).length = 65538 := List.length_replicate
  have fits : longSource.len + 2 ≤ (List.replicate 65538 (0 : UInt8)).length := by omega
  refine ⟨_, (store_delimited_ok_iff longSource.inside 1 _ _).mpr ⟨by rw [size]; decide, ?_, fits, ?_, rfl⟩, ?_⟩
  · rw [bytes, backSlot_zeros]
    decide
  · rw [bytes, backSlot_zeros, backSlot_zeros]
    exact UInt64.le_refl 0
  · have length : longSource.bytes.length = 65536 := (Slice.length_bytes longSource.inside).trans size
    intro roundTrips
    have narrow := (roundTrips_delimited_iff (by omega)).mp roundTrips
    omega

end SwitchboardOnDemand.StoreRoundTrip
