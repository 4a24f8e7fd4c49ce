import SwitchboardOnDemand.Quote
import SwitchboardOnDemand.IxSysvar

/-!
The store of a quote: `write` puts the data of an Ed25519 instruction behind a
discriminator and a 16-bit length into an account, after two checks of its slot.
What a write accepts and what it leaves is `write_ok_iff`.
-/

namespace SwitchboardOnDemand.QuoteStore
open Rust SwitchboardOnDemand.Utils SwitchboardOnDemand.IxSysvar

variable {ε : Type}

/-- `*b"SBOracle"`. -/
def QUOTE_DISCRIMINATOR : Bytes := [83, 66, 79, 114, 97, 99, 108, 101]
/-- `u64::from_le_bytes(QUOTE_DISCRIMINATOR)`. -/
def QUOTE_DISCRIMINATOR_U64_LE : UInt64 := leU64 QUOTE_DISCRIMINATOR

/-- The `u64` that lies 13 bytes before the end of a slice, in front of a version
    byte and a discriminator of 4 bytes. -/
def slot_from_back (data : Slice) : Exec ε UInt64 := (data.ptr.add (data.len - 13)).read_u64

/-- The slot checks before a write: the new slot is below the clock slot and not
    below the slot at the back of the existing data. -/
def validate_slot_progression (clock_slot : UInt64) (source : Slice) (existing_data : Bytes) : Exec ε Unit := do
  let source_len := source.len
  Exec.assert (¬ source_len < 13) s!"Invalid source data length: {source_len}"
  let new_slot ← slot_from_back source
  Exec.assert (new_slot < clock_slot)
    s!"SB oracle slot is stale new_slot: {new_slot}, clock.slot: {clock_slot}"
  if existing_data.length ≥ 13 then do
    let existing_slot ← slot_from_back (Slice.of existing_data)
    Exec.assert (new_slot ≥ existing_slot)
      s!"SB oracle slot regression new_slot: {new_slot}, existing_slot: {existing_slot}"
  else pure ()

def store_delimited (clock_slot : UInt64) (source : Slice) (dst : Bytes) : Exec ε Bytes := do
  validate_slot_progression clock_slot source dst
  let data_len := source.len
  Exec.assert (data_len + 2 ≤ dst.length) "assertion failed: data_len + 2 <= dst.len()"
  -- `data_len as u16` keeps the low 16 bits.
  let dst := overwrite dst 0 (leBytes 2 (data_len % 65536))
  let copied ← source.ptr.read data_len
  pure (overwrite dst 2 copied.val)

def write (clock_slot : UInt64) (source : Slice) (oracle_account : AccountInfo) : Exec ε AccountInfo := do
  let dst := oracle_account.data
  Exec.assert (dst.length ≥ 23) "assertion failed: dst.len() >= 23"
  let dst := overwrite dst 0 (leBytes 8 QUOTE_DISCRIMINATOR_U64_LE.toNat)
  let stored ← store_delimited clock_slot source (dst.drop 8)
  pure { oracle_account with data := dst.take 8 ++ stored }

def write_from_ix (ix_sysvar oracle_account : AccountInfo) (curr_slot : UInt64) (instruction_index : Nat) :
    Exec ε AccountInfo := do
  let data ← extract_ix_data ix_sysvar instruction_index
  write curr_slot data oracle_account

/-! ### What a write does -/

/-- The slot in the last 13 bytes of a byte string. -/
def backSlot (bytes : Bytes) : UInt64 := leU64 (window bytes (bytes.length - 13) 8)

/-- The destination behind a store: the length, the source, and the old bytes
    after them. -/
def delimited (source dst : Bytes) : Bytes :=
  leBytes 2 (source.length % 65536) ++ source ++ dst.drop (2 + source.length)

def stored (source data : Bytes) : Bytes := QUOTE_DISCRIMINATOR ++ delimited source (data.drop 8)

/-- Zeros hold the slot zero. -/
theorem backSlot_zeros (size : Nat) : backSlot (List.replicate size 0) = 0 := by
  rw [backSlot, List.length_replicate, window, List.drop_replicate, List.take_replicate, leU64, leNat_replicate_zero]
  rfl

theorem discriminator_bytes : leBytes 8 QUOTE_DISCRIMINATOR_U64_LE.toNat = QUOTE_DISCRIMINATOR := by
  rw [QUOTE_DISCRIMINATOR_U64_LE, leU64_toNat rfl]
  exact leBytes_leNat QUOTE_DISCRIMINATOR

theorem slot_from_back_eq {data : Slice} (inside : data.InBounds) (long : 13 ≤ data.len) :
    (slot_from_back data : Exec ε _) = .ok (backSlot data.bytes) := by
  have bound : data.len ≤ data.ptr.rest.length := inside
  rw [slot_from_back, Ptr.read_u64_add (by omega), Slice.window_rest (by omega), backSlot, Slice.length_bytes inside]

theorem validate_ok_iff {source : Slice} (inside : source.InBounds) (clock_slot : UInt64) (existing : Bytes)
    {u : Unit} :
    (validate_slot_progression clock_slot source existing : Exec ε Unit) = .ok u ↔
      13 ≤ source.len ∧ backSlot source.bytes < clock_slot ∧
        (13 ≤ existing.length → backSlot existing ≤ backSlot source.bytes) := by
  by_cases long : 13 ≤ source.len
  · simp only [validate_slot_progression, Exec.assert_true _ (show ¬ source.len < 13 by omega), Exec.ok_bind,
      slot_from_back_eq inside long, Exec.bind_eq_ok, Exec.assert_eq_ok, exists_const, long, true_and]
    by_cases old : 13 ≤ existing.length
    · simp only [ge_iff_le, old, if_true, forall_const, slot_from_back_eq (Slice.of_inBounds existing) old,
        Exec.ok_bind, Exec.assert_eq_ok, Slice.of_bytes]
    · simp [old]
  · simp only [validate_slot_progression, Exec.assert_false _ (show ¬ ¬ source.len < 13 by omega), Exec.panic_bind]
    constructor
    · intro done
      cases done
    · rintro ⟨isLong, _⟩
      exact absurd isLong long

/-- A slice that `memcpy` can copy lies inside its allocation. -/
theorem read_len_ok {source : Slice} {copied : FixedBytes source.len}
    (done : (source.ptr.read source.len : Exec ε _) = .ok copied) : source.InBounds ∧ copied.val = source.bytes := by
  unfold Ptr.read at done
  split at done
  · rename_i inside
    cases done
    exact ⟨by simpa [Slice.InBounds] using inside, by simp [window, Slice.bytes]⟩
  · cases done

theorem delimited_eq (source dst : Bytes) :
    overwrite (overwrite dst 0 (leBytes 2 (source.length % 65536))) 2 source = delimited source dst := by
  have first : overwrite dst 0 (leBytes 2 (source.length % 65536)) =
      leBytes 2 (source.length % 65536) ++ dst.drop 2 := by
    simp [overwrite]
  have width : (leBytes 2 (source.length % 65536)).length = 2 := length_leBytes 2 _
  rw [first, overwrite, List.take_append_of_le_length (by omega), List.take_of_length_le (by omega), delimited,
    List.drop_append, List.drop_eq_nil_of_le (by omega), List.nil_append, List.drop_drop]
  congr 2
  omega

theorem store_delimited_ok_iff {source : Slice} (inside : source.InBounds) (clock_slot : UInt64) (dst out : Bytes) :
    (store_delimited clock_slot source dst : Exec ε Bytes) = .ok out ↔
      13 ≤ source.len ∧ backSlot source.bytes < clock_slot ∧ source.len + 2 ≤ dst.length ∧
        backSlot dst ≤ backSlot source.bytes ∧ out = delimited source.bytes dst := by
  have length := Slice.length_bytes inside
  simp only [store_delimited, Exec.bind_eq_ok, validate_ok_iff inside, Exec.assert_eq_ok, exists_const,
    Ptr.read_of_le inside, Exec.ok.injEq, exists_eq_left', Exec.pure_eq]
  constructor
  · rintro ⟨⟨long, fresh, progress⟩, fits, rfl⟩
    refine ⟨long, fresh, fits, progress (by omega), ?_⟩
    rw [← delimited_eq, length]
    rfl
  · rintro ⟨long, fresh, fits, progress, rfl⟩
    refine ⟨⟨long, fresh, fun _ => progress⟩, fits, ?_⟩
    rw [← delimited_eq, length]
    rfl

/-- A write comes back exactly for a source of at least 13 bytes that fits and
    whose slot passes both checks; it leaves `stored`. -/
theorem write_ok_iff {source : Slice} (inside : source.InBounds) (clock_slot : UInt64) (account after : AccountInfo) :
    (write clock_slot source account : Exec ε AccountInfo) = .ok after ↔
      13 ≤ source.len ∧ source.len + 10 ≤ account.data.length ∧ backSlot source.bytes < clock_slot ∧
        backSlot account.data ≤ backSlot source.bytes ∧
        after = { account with data := stored source.bytes account.data } := by
  have start : overwrite account.data 0 (leBytes 8 QUOTE_DISCRIMINATOR_U64_LE.toNat) =
      QUOTE_DISCRIMINATOR ++ account.data.drop 8 := by
    rw [discriminator_bytes]
    simp [overwrite, QUOTE_DISCRIMINATOR]
  have eight : QUOTE_DISCRIMINATOR.length = 8 := rfl
  simp only [write, Exec.bind_eq_ok, Exec.assert_eq_ok, exists_const, start, List.drop_left' eight,
    List.take_left' eight, store_delimited_ok_iff inside, Exec.pure_eq, Exec.ok.injEq]
  have back : 23 ≤ account.data.length → backSlot (account.data.drop 8) = backSlot account.data := by
    intro large
    rw [backSlot, backSlot, window_drop, List.length_drop]
    congr 2
    omega
  constructor
  · rintro ⟨large, out, ⟨long, fresh, fits, progress, rfl⟩, rfl⟩
    rw [List.length_drop] at fits
    exact ⟨long, by omega, fresh, back large ▸ progress, rfl⟩
  · rintro ⟨long, fits, fresh, progress, rfl⟩
    have large : 23 ≤ account.data.length := by omega
    refine ⟨large, _, ⟨long, fresh, ?_, ?_, rfl⟩, rfl⟩
    · rw [List.length_drop]; omega
    · rw [back large]; exact progress

theorem length_stored {source data : Bytes} (fits : source.length + 10 ≤ data.length) :
    (stored source data).length = data.length := by
  simp only [stored, delimited, List.length_append, length_leBytes, List.length_drop, QUOTE_DISCRIMINATOR,
    List.length_cons, List.length_nil]
  omega

theorem write_inBounds {source : Slice} {clock_slot : UInt64} {account after : AccountInfo}
    (written : (write clock_slot source account : Exec ε AccountInfo) = .ok after) : source.InBounds := by
  simp only [write, store_delimited, Exec.bind_eq_ok] at written
  obtain ⟨_, _, _, ⟨_, _, _, _, copied, done, _⟩, _⟩ := written
  exact (read_len_ok done).1

/-- A source that fills the account leaves its slot at the back. -/
theorem backSlot_stored {source data : Bytes} (long : 13 ≤ source.length) (fills : source.length + 10 = data.length) :
    backSlot (stored source data) = backSlot source := by
  have nothing : (data.drop 8).drop (2 + source.length) = [] := by
    rw [List.drop_drop]
    exact List.drop_eq_nil_of_le (by omega)
  have head : (QUOTE_DISCRIMINATOR ++ leBytes 2 (source.length % 65536)).length = 10 := by
    rw [List.length_append, length_leBytes]; rfl
  have whole : stored source data = (QUOTE_DISCRIMINATOR ++ leBytes 2 (source.length % 65536)) ++ source := by
    rw [stored, delimited, nothing, List.append_nil, List.append_assoc]
  rw [backSlot, length_stored (by omega), whole, window_append_right (by omega), head, backSlot]
  congr 2
  omega

/-- A source that ends before the last 13 bytes leaves them as they are. -/
theorem backSlot_stored_short {source data : Bytes} (short : source.length + 23 ≤ data.length) :
    backSlot (stored source data) = backSlot data := by
  have head : (QUOTE_DISCRIMINATOR ++ (leBytes 2 (source.length % 65536) ++ source)).length = 10 + source.length := by
    rw [List.length_append, List.length_append, length_leBytes, ← Nat.add_assoc]; rfl
  have whole : stored source data =
      (QUOTE_DISCRIMINATOR ++ (leBytes 2 (source.length % 65536) ++ source)) ++ data.drop (10 + source.length) := by
    rw [stored, delimited, List.drop_drop, List.append_assoc QUOTE_DISCRIMINATOR]
    congr 3
    omega
  rw [backSlot, length_stored (by omega), whole, window_append_right (by omega), head, window_drop, backSlot]
  congr 2
  omega

end SwitchboardOnDemand.QuoteStore
