import SwitchboardOnDemand.Utils
import SwitchboardOnDemand.BinarySearch

/-!
The slot-hashes sysvar: its 40-byte entries behind an 8-byte header, newest slot
first, and the plain lookup `get_slothash`. On entries in strictly descending
slot order the lookup gives a hash exactly when the sysvar has the entry
(`get_slothash_ok_iff`).
-/

namespace SwitchboardOnDemand.SlothashSysvar
open Rust Rust.BinarySearch SwitchboardOnDemand.Utils

variable {ε : Type}

/-- The address `SysvarS1otHashes111111111111111111111111111`. -/
def slot_hashes_ID : Pubkey :=
  ⟨[6, 167, 213, 23, 25, 47, 10, 175, 198, 242, 101, 227, 251, 119, 204, 122,
    218, 130, 197, 41, 208, 190, 59, 19, 110, 45, 0, 85, 32, 0, 0, 0], by decide⟩

structure SlotHash where
  slot : UInt64
  hash : FixedBytes 32
  deriving Repr, DecidableEq

/-- `bytemuck::cast_slice::<u8, SlotHash>`: the entries of 40 bytes. -/
def cast_slice (bytes : Bytes) : List SlotHash :=
  List.ofFn fun i : Fin (bytes.length / 40) =>
    ⟨leU64 (window bytes (40 * i) 8), fixedAt bytes (40 * i + 8) 32 (by omega)⟩

/-- Finds the index of a slot by binary search, since slots are often skipped. -/
def find_idx (slot_hashes : List SlotHash) (slot : UInt64) : Option Nat :=
  match binary_search_by (fun x => compare slot x.slot) slot_hashes with
  | .ok idx => some idx
  | .error _ => none

/-- `array_ref![slots_data, 8, 20_480]` and the cast of it. -/
def slots_of (slots_data : Bytes) : Exec ε (List SlotHash) := do
  let slots ← (Slice.of slots_data).sliceRange 8 (8 + 20480)
  pure (cast_slice slots.bytes)

def slot_at (slots : List SlotHash) (idx : Nat) : Exec ε SlotHash :=
  match slots[idx]? with
  | some entry => .ok entry
  | none => .panic s!"index out of bounds: the len is {slots.length} but the index is {idx}"

def get_slothash (slot_sysvar : AccountInfo) (slot : UInt64) : Exec AnyError (FixedBytes 32) := do
  Exec.assert (slot_hashes_ID = slot_sysvar.key)
    "assertion failed: sysvar::slot_hashes::id() == slot_sysvar.key.to_bytes().into()"
  let slots ← slots_of slot_sysvar.data
  let first ← slot_at slots 0
  Exec.bailIf (slot > first.slot) "SwitchboardError::InvalidSlotNumber"
  let idx ← Exec.okOr "InvalidSlotNumber" (find_idx slots slot)
  let signed_slot ← slot_at slots idx
  Exec.assert (signed_slot.slot = slot) "assertion `left == right` failed"
  pure signed_slot.hash

/-- Looks up the slot with the given low 16 bits: first with the high bits of the
    newest slot, then with those of the oldest one. -/
def get_slothash_from_lower_byte (slot_hashes : AccountInfo) (slot : UInt16) : Exec AnyError SlotHash := do
  let slots ← slots_of slot_hashes.data
  let first ← slot_at slots 0
  let upper_slot := (first.slot &&& 0xFFFFFFFFFFFF0000) ||| slot.toUInt64
  let last ← slot_at slots (slots.length - 1)
  let lower_slot := (last.slot &&& 0xFFFFFFFFFFFF0000) ||| slot.toUInt64
  match ← (get_slothash slot_hashes upper_slot).result with
  | .ok slothash => pure ⟨upper_slot, slothash⟩
  | .error _ => SlotHash.mk lower_slot <$> get_slothash slot_hashes lower_slot

/-! ### A sysvar of 512 entries -/

/-- The slot-hashes sysvar of the runtime: its address, and 512 entries behind
    the header. -/
structure SlotHashesSysvar where
  account : AccountInfo
  isSysvar : account.key = slot_hashes_ID
  full : account.data.length = 20488

def SlotHashesSysvar.entries (sysvar : SlotHashesSysvar) : List SlotHash :=
  cast_slice (window sysvar.account.data 8 20480)

@[simp] theorem SlotHashesSysvar.length_entries (sysvar : SlotHashesSysvar) : sysvar.entries.length = 512 := by
  have size : (window sysvar.account.data 8 20480).length = 20480 :=
    length_window_of_le (by rw [sysvar.full])
  rw [entries, cast_slice, List.length_ofFn, size]

theorem SlotHashesSysvar.getElem_entries (sysvar : SlotHashesSysvar) {i : Nat} (inside : i < 512) :
    getElem sysvar.entries i (by simpa using inside) =
      ⟨leU64 (window sysvar.account.data (8 + 40 * i) 8),
        fixedAt sysvar.account.data (8 + 40 * i + 8) 32 (by have := sysvar.full; omega)⟩ := by
  simp only [entries, cast_slice, List.getElem_ofFn, fixedAt, SlotHash.mk.injEq]
  constructor
  · rw [window_window (by omega)]
  · simp only [Subtype.mk.injEq]
    rw [window_window (by omega), Nat.add_assoc]

theorem SlotHashesSysvar.slots_of_eq (sysvar : SlotHashesSysvar) :
    (slots_of sysvar.account.data : Exec ε _) = .ok sysvar.entries := by
  have full := sysvar.full
  rw [slots_of, Slice.sliceRange_of_le (by omega) (by simp [full])]
  simp [Slice.bytes, entries, window]

/-! ### Building a sysvar -/

def SlotHash.toBytes (entry : SlotHash) : Bytes := leBytes 8 entry.slot.toNat ++ entry.hash.val

@[simp] theorem SlotHash.length_toBytes (entry : SlotHash) : entry.toBytes.length = 40 := by
  simp [toBytes, entry.hash.property]

private theorem each_toBytes (entries : List SlotHash) : ∀ chunk ∈ entries.map SlotHash.toBytes, chunk.length = 40 := by
  simp

/-- The sysvar with the given entries: their number in 8 bytes, then one entry
    after the other. -/
def SlotHashesSysvar.ofEntries (entries : List SlotHash) (count : entries.length = 512) : SlotHashesSysvar where
  account := ⟨slot_hashes_ID, leBytes 8 entries.length ++ (entries.map SlotHash.toBytes).flatten⟩
  isSysvar := rfl
  full := by
    rw [List.length_append, length_leBytes, length_flatten (each_toBytes entries), List.length_map, count]

theorem SlotHashesSysvar.entries_ofEntries (entries : List SlotHash) (count : entries.length = 512) :
    (ofEntries entries count).entries = entries := by
  apply List.ext_getElem (by rw [length_entries, count])
  intro i insideL insideR
  have chunk : window (ofEntries entries count).account.data (8 + 40 * i) 40 = entries[i].toBytes := by
    rw [ofEntries, window_append_right (by rw [length_leBytes]; omega), length_leBytes, Nat.add_sub_cancel_left,
      window_flatten (each_toBytes entries) (by rwa [List.length_map]), List.getElem_map]
  have slot : window (ofEntries entries count).account.data (8 + 40 * i) 8 = leBytes 8 entries[i].slot.toNat := by
    rw [← Nat.add_zero (8 + 40 * i), ← window_window (show 0 + 8 ≤ 40 by decide), chunk, SlotHash.toBytes,
      window_append_left (by simp), window_full (length_leBytes 8 _)]
  have hash : window (ofEntries entries count).account.data (8 + 40 * i + 8) 32 = entries[i].hash.val := by
    rw [← window_window (show 8 + 32 ≤ 40 by decide), chunk, SlotHash.toBytes, window_append_right (by simp),
      length_leBytes, Nat.sub_self, window_full entries[i].hash.property]
  rw [getElem_entries _ (by rwa [count] at insideR), slot, leU64_leBytes]
  exact congrArg (SlotHash.mk _) (Subtype.ext hash)

/-- A sysvar with its entries in strictly descending slot order; slots may be
    skipped. -/
structure DescendingSlotHashes extends SlotHashesSysvar where
  descending : toSlotHashesSysvar.entries.Pairwise fun newer older => older.slot < newer.slot

namespace DescendingSlotHashes

variable (sysvar : DescendingSlotHashes)

def newest : UInt64 := (getElem sysvar.entries 0 (by simp)).slot

def oldest : UInt64 := (getElem sysvar.entries 511 (by simp)).slot

theorem slot_lt {i j : Nat} (i_lt_j : i < j) (inside : j < sysvar.entries.length) :
    sysvar.entries[j].slot < (getElem sysvar.entries i (by omega)).slot :=
  List.pairwise_iff_getElem.mp sysvar.descending i j (by omega) inside i_lt_j

theorem slot_le {i j : Nat} (i_le_j : i ≤ j) (inside : j < sysvar.entries.length) :
    sysvar.entries[j].slot ≤ (getElem sysvar.entries i (by omega)).slot := by
  rcases Nat.eq_or_lt_of_le i_le_j with rfl | i_lt_j
  · exact UInt64.le_refl _
  · exact UInt64.le_of_lt (sysvar.slot_lt i_lt_j inside)

theorem le_newest {entry : SlotHash} (member : entry ∈ sysvar.entries) : entry.slot ≤ sysvar.newest := by
  obtain ⟨i, inside, rfl⟩ := List.mem_iff_getElem.mp member
  exact sysvar.slot_le (Nat.zero_le i) inside

theorem oldest_le {entry : SlotHash} (member : entry ∈ sysvar.entries) : sysvar.oldest ≤ entry.slot := by
  obtain ⟨i, inside, rfl⟩ := List.mem_iff_getElem.mp member
  have bound : i < 512 := by simpa using inside
  exact sysvar.slot_le (Nat.le_of_lt_succ bound) (by simp)

theorem slot_injective {i j : Nat} (insideI : i < sysvar.entries.length) (insideJ : j < sysvar.entries.length)
    (same : sysvar.entries[i].slot = sysvar.entries[j].slot) : i = j := by
  rcases Nat.lt_trichotomy i j with less | equal | greater
  · exact absurd (same ▸ sysvar.slot_lt less insideJ) (UInt64.lt_irrefl _)
  · exact equal
  · exact absurd (same ▸ sysvar.slot_lt greater insideI) (UInt64.lt_irrefl _)

/-- Entries with one slot are one entry. -/
theorem entry_unique {a b : SlotHash} (memberA : a ∈ sysvar.entries) (memberB : b ∈ sysvar.entries)
    (same : a.slot = b.slot) : a = b := by
  obtain ⟨i, insideI, rfl⟩ := List.mem_iff_getElem.mp memberA
  obtain ⟨j, insideJ, rfl⟩ := List.mem_iff_getElem.mp memberB
  cases sysvar.slot_injective insideI insideJ same
  rfl

private theorem comparesAt_iff (slot : UInt64) (i : Nat) (answer : Ordering) :
    ComparesAt (fun x : SlotHash => compare slot x.slot) sysvar.entries i answer ↔
      ∃ inside : i < sysvar.entries.length, compare slot sysvar.entries[i].slot = answer := by
  simp only [ComparesAt, List.getElem?_eq_some_iff]
  constructor
  · rintro ⟨x, ⟨inside, rfl⟩, compares⟩
    exact ⟨inside, compares⟩
  · rintro ⟨inside, compares⟩
    exact ⟨_, ⟨inside, rfl⟩, compares⟩

theorem sortedBy (slot : UInt64) :
    SortedBy (fun x : SlotHash => compare slot x.slot) sysvar.entries where
  gt_after i j i_le_j insideJ := by
    rw [comparesAt_iff, comparesAt_iff]
    rintro ⟨inside, greater⟩
    exact ⟨insideJ, Std.compare_eq_gt.mpr
      (UInt64.lt_of_le_of_lt (sysvar.slot_le i_le_j insideJ) (Std.compare_eq_gt.mp greater))⟩
  lt_before i j i_le_j := by
    rw [comparesAt_iff, comparesAt_iff]
    rintro ⟨inside, less⟩
    exact ⟨by omega, Std.compare_eq_lt.mpr
      (UInt64.lt_of_lt_of_le (Std.compare_eq_lt.mp less) (sysvar.slot_le i_le_j inside))⟩

/-- `find_idx` gives an index exactly when the entry there has the slot. -/
theorem find_idx_iff (slot : UInt64) (idx : Nat) :
    find_idx sysvar.entries slot = some idx ↔
      ∃ inside : idx < sysvar.entries.length, sysvar.entries[idx].slot = slot := by
  have sound : ∀ k, find_idx sysvar.entries slot = some k →
      ∃ inside : k < sysvar.entries.length, sysvar.entries[k].slot = slot := by
    intro k found
    unfold find_idx at found
    split at found
    · rename_i result
      cases found
      obtain ⟨inside, equal⟩ := (sysvar.comparesAt_iff slot _ _).mp (binary_search_by_sound result)
      exact ⟨inside, (Std.compare_eq_iff_eq.mp equal).symm⟩
    · cases found
  refine ⟨sound idx, ?_⟩
  rintro ⟨inside, same⟩
  have present : ComparesAt (fun x : SlotHash => compare slot x.slot) sysvar.entries idx .eq :=
    (sysvar.comparesAt_iff slot idx _).mpr ⟨inside, Std.compare_eq_iff_eq.mpr same.symm⟩
  obtain ⟨k, result⟩ := binary_search_by_complete (sysvar.sortedBy slot) ⟨idx, present⟩
  have found : find_idx sysvar.entries slot = some k := by simp [find_idx, result]
  obtain ⟨insideK, sameK⟩ := sound k found
  rw [found, sysvar.slot_injective insideK inside (sameK.trans same.symm)]

end DescendingSlotHashes

theorem slot_at_of_lt {slots : List SlotHash} {idx : Nat} (inside : idx < slots.length) :
    (slot_at slots idx : Exec ε _) = .ok slots[idx] := by
  simp [slot_at, List.getElem?_eq_getElem inside]

/-- The plain lookup gives a hash exactly when the sysvar has the entry. -/
theorem get_slothash_ok_iff (sysvar : DescendingSlotHashes) (slot : UInt64) (hash : FixedBytes 32) :
    get_slothash sysvar.account slot = .ok hash ↔ ⟨slot, hash⟩ ∈ sysvar.entries := by
  have first : (slot_at sysvar.entries 0 : Exec AnyError _) = .ok (getElem sysvar.entries 0 (by simp)) :=
    slot_at_of_lt (by simp)
  simp only [get_slothash, Exec.assert_true _ sysvar.isSysvar.symm, sysvar.slots_of_eq, Exec.ok_bind, first,
    Exec.bind_eq_ok, Exec.bailIf_eq_ok, Exec.okOr_eq_ok, Exec.assert_eq_ok, Exec.pure_eq, sysvar.find_idx_iff]
  constructor
  · rintro ⟨_, _, idx, ⟨inside, same⟩, entry, at_idx, _, _, hashIs⟩
    rw [slot_at_of_lt inside] at at_idx
    cases at_idx
    cases hashIs
    exact List.mem_iff_getElem.mpr ⟨idx, inside, by cases same; rfl⟩
  · intro member
    have bound := sysvar.le_newest member
    obtain ⟨idx, inside, at_idx⟩ := List.mem_iff_getElem.mp member
    have same : sysvar.entries[idx].slot = slot := by rw [at_idx]
    exact ⟨(), UInt64.not_lt.mpr bound, idx, ⟨inside, same⟩, _, slot_at_of_lt inside, (), same, by rw [at_idx]⟩

theorem get_slothash_returns (sysvar : DescendingSlotHashes) (slot : UInt64) :
    (get_slothash sysvar.account slot).Returns := by
  have first : (slot_at sysvar.entries 0 : Exec AnyError _) = .ok (getElem sysvar.entries 0 (by simp)) :=
    slot_at_of_lt (by simp)
  simp only [get_slothash, Exec.assert_true _ sysvar.isSysvar.symm, sysvar.slots_of_eq, Exec.ok_bind, first,
    Exec.returns_bind, Exec.returns_bailIf, Exec.returns_okOr, Exec.bailIf_eq_ok, Exec.okOr_eq_ok, true_and]
  intro _ _ idx found
  obtain ⟨inside, same⟩ := (sysvar.find_idx_iff slot idx).mp found
  refine ⟨by rw [slot_at_of_lt inside]; trivial, ?_⟩
  intro entry at_idx
  rw [slot_at_of_lt inside] at at_idx
  cases at_idx
  exact ⟨Exec.returns_assert.mpr same, fun _ _ => trivial⟩

/-! ### Skipped slots -/

/-- An entry for an even slot from 2000 down, whose hash is the number of the slot. -/
def evenSlot (i : Nat) : SlotHash := ⟨UInt64.ofNat (2000 - 2 * i), leBytes 32 (2000 - 2 * i), length_leBytes 32 _⟩

private theorem evenSlot_lt {i j : Nat} (i_lt_j : i < j) (inside : j < 512) :
    (evenSlot j).slot < (evenSlot i).slot := by
  rw [evenSlot, evenSlot, UInt64.lt_iff_toNat_lt, UInt64.toNat_ofNat', UInt64.toNat_ofNat',
    Nat.mod_eq_of_lt (by omega), Nat.mod_eq_of_lt (by omega)]
  omega

private def evenSlots : List SlotHash := List.ofFn fun i : Fin 512 => evenSlot i

private theorem length_evenSlots : evenSlots.length = 512 := List.length_ofFn

private theorem getElem_evenSlots {i : Nat} (inside : i < evenSlots.length) : evenSlots[i] = evenSlot i :=
  List.getElem_ofFn _

/-- A sysvar in which every other slot was skipped. -/
def everyOtherSlot : DescendingSlotHashes where
  toSlotHashesSysvar := .ofEntries evenSlots length_evenSlots
  descending := by
    rw [SlotHashesSysvar.entries_ofEntries]
    refine List.pairwise_iff_getElem.mpr fun i j insideI insideJ i_lt_j => ?_
    rw [getElem_evenSlots insideI, getElem_evenSlots insideJ]
    exact evenSlot_lt i_lt_j (length_evenSlots ▸ insideJ)

theorem everyOtherSlot_entry {i : Nat} (inside : i < 512) :
    getElem everyOtherSlot.entries i (by simpa using inside) = evenSlot i := by
  have same : everyOtherSlot.entries = evenSlots := SlotHashesSysvar.entries_ofEntries _ length_evenSlots
  simp only [same]
  exact getElem_evenSlots _

theorem eq_evenSlot_of_mem {entry : SlotHash} (member : entry ∈ everyOtherSlot.entries) :
    ∃ i < 512, entry = evenSlot i := by
  obtain ⟨i, inside, rfl⟩ := List.mem_iff_getElem.mp member
  have bound : i < 512 := by simpa using inside
  exact ⟨i, bound, everyOtherSlot_entry bound⟩

theorem evenSlot_hash_ne {i j : Nat} (apart : (evenSlot i).slot ≠ (evenSlot j).slot) :
    (evenSlot i).hash ≠ (evenSlot j).hash := by
  intro same
  have number : ∀ k, leNat (evenSlot k).hash.val = 2000 - 2 * k := fun k =>
    leNat_leBytes_of_lt (Nat.lt_of_le_of_lt (Nat.sub_le 2000 _) (by decide))
  have numbers : 2000 - 2 * i = 2000 - 2 * j := by rw [← number i, ← number j, same]
  exact apart (congrArg UInt64.ofNat numbers)

end SwitchboardOnDemand.SlothashSysvar
