import SwitchboardOnDemand.SlothashSysvar

/-!
# The slot-hash search of the verifier

`find_slothash_in_sysvar` does not search the sysvar from end to end. It guesses
an index from the distance to the newest slot, modulo 512, and walks from there
to index 0. The walk finds the entry with the largest index at or before the
guess (`find_slothash_ok_iff`), so that it agrees with `get_slothash` exactly
when the target is not newer than the first entry and its entry, if there is
one, lies at or before the guess (`agrees_with_plain_iff`).
-/

namespace SwitchboardOnDemand.SlotSearch
open Rust SwitchboardOnDemand.Utils SwitchboardOnDemand.SlothashSysvar

variable {ε : Type}

def SYSVAR_SLOT_LEN : UInt64 := 512

/-- `&slot_data[idx]`. The `transmute` to `&[SlotHash]` keeps the length in
    bytes, which therefore bounds the index. -/
def slot_entry (slot_data : Slice) (idx : Nat) : Exec ε Ptr := do
  Exec.assert (idx < slot_data.len) s!"index out of bounds: the len is {slot_data.len} but the index is {idx}"
  pure (slot_data.ptr.add (40 * idx))

/-- One round of the loop: the hash of the entry at `estimated_idx` when that
    has the slot, else what the rest of the loop gives. -/
def visit (slot_data : Slice) (target_slot : UInt64) (estimated_idx : Nat)
    (otherwise : Exec AnyError (FixedBytes 32)) : Exec AnyError (FixedBytes 32) := do
  let entry ← slot_entry slot_data estimated_idx
  let slot ← entry.read_u64
  if slot = target_slot then (entry.add 8).read 32 else otherwise

/-- The loop, down to index 0. -/
def walk (slot_data : Slice) (target_slot : UInt64) : Nat → Exec AnyError (FixedBytes 32)
  | 0 => visit slot_data target_slot 0 (.err "Slot not found in slothash sysvar")
  | estimated_idx + 1 => visit slot_data target_slot (estimated_idx + 1) (walk slot_data target_slot estimated_idx)

def find_slothash_in_sysvar (checks : OverflowChecks) (target_slot : UInt64) (slothash_sysvar : AccountInfo) :
    Exec AnyError (FixedBytes 32) := do
  Exec.assert (check_pubkey_eq slothash_sysvar.key slot_hashes_ID)
    "assertion failed: check_pubkey_eq(slothash_sysvar.key, &solana_program::sysvar::slot_hashes::ID)"
  let slot_data ← (Slice.of slothash_sysvar.data).sliceFrom 8
  let first ← slot_entry slot_data 0
  let first_slot ← first.read_u64
  let distance ← u64_sub checks first_slot target_slot
  let estimated_idx := (distance % SYSVAR_SLOT_LEN).toNat
  walk slot_data target_slot estimated_idx

/-! ### The walk on a full sysvar -/

variable (sysvar : SlotHashesSysvar)

abbrev entry (i : Fin 512) : SlotHash := getElem sysvar.entries i (by simp)

def firstSlot : UInt64 := (entry sysvar 0).slot

/-- The index at which the search for a slot starts. -/
def estimate (target : UInt64) : Fin 512 :=
  ⟨((firstSlot sysvar - target) % SYSVAR_SLOT_LEN).toNat, by
    rw [UInt64.toNat_mod]
    exact Nat.mod_lt _ (by decide)⟩

/-- The walk for `target` from `start` on stops at index `i`: that is the largest
    index up to `start` whose entry has the slot. -/
def StopsAt (target : UInt64) (start i : Fin 512) : Prop :=
  i ≤ start ∧ (entry sysvar i).slot = target ∧ ∀ j, i < j → j ≤ start → (entry sysvar j).slot ≠ target

def slotData : Slice := ⟨(addrOf sysvar.account.data).add 8, 20480⟩

theorem slot_entry_eq (i : Fin 512) :
    (slot_entry (slotData sysvar) i : Exec ε _) = .ok ((addrOf sysvar.account.data).add (8 + 40 * i)) := by
  have inside : (i : Nat) < (slotData sysvar).len := by simp only [slotData]; omega
  rw [slot_entry, Exec.assert_true _ inside, Exec.ok_bind, slotData, Ptr.add_add]
  rfl

theorem visit_eq (target : UInt64) (i : Fin 512) (otherwise : Exec AnyError (FixedBytes 32)) :
    visit (slotData sysvar) target i otherwise =
      if (entry sysvar i).slot = target then .ok (entry sysvar i).hash else otherwise := by
  have full := sysvar.full
  have bound := i.isLt
  have at_i : entry sysvar i = ⟨leU64 (window sysvar.account.data (8 + 40 * i) 8),
      fixedAt sysvar.account.data (8 + 40 * i + 8) 32 (by omega)⟩ := sysvar.getElem_entries bound
  have slot : (((addrOf sysvar.account.data).add (8 + 40 * i)).read_u64 : Exec AnyError _) =
      .ok (entry sysvar i).slot := by
    rw [Ptr.read_u64_add (by rw [addrOf_rest]; omega), at_i, addrOf_rest]
  have hash : (((addrOf sysvar.account.data).add (8 + 40 * i + 8)).read 32 : Exec AnyError _) =
      .ok (entry sysvar i).hash := by
    rw [Ptr.read_add (by rw [addrOf_rest]; omega), at_i]
    rfl
  rw [visit, slot_entry_eq, Exec.ok_bind, slot, Exec.ok_bind, Ptr.add_add, hash]

theorem stopsAt_here {target : UInt64} {start : Fin 512} (here : (entry sysvar start).slot = target) (i : Fin 512) :
    StopsAt sysvar target start i ↔ i = start := by
  constructor
  · rintro ⟨low, _, last⟩
    rcases Fin.lt_or_eq_of_le low with before | equal
    · exact absurd here (last _ before (Fin.le_refl _))
    · exact equal
  · rintro rfl
    exact ⟨Fin.le_refl _, here, fun j after low => absurd low (Fin.not_le.mpr after)⟩

/-- An entry of another slot is passed over. -/
theorem stopsAt_succ {target : UInt64} {start : Nat} {inside : start + 1 < 512}
    (elsewhere : (entry sysvar ⟨start + 1, inside⟩).slot ≠ target) (i : Fin 512) :
    StopsAt sysvar target ⟨start + 1, inside⟩ i ↔ StopsAt sysvar target ⟨start, by omega⟩ i := by
  constructor
  · rintro ⟨low, same, last⟩
    refine ⟨?_, same, fun j after bound => last j after (Nat.le_succ_of_le bound)⟩
    rcases Nat.eq_or_lt_of_le low with equal | less
    · have : i = ⟨start + 1, inside⟩ := Fin.ext equal
      exact absurd (this ▸ same) elsewhere
    · exact Nat.le_of_lt_succ less
  · rintro ⟨low, same, last⟩
    refine ⟨Nat.le_succ_of_le low, same, ?_⟩
    intro j after bound
    rcases Nat.eq_or_lt_of_le bound with equal | less
    · have : j = ⟨start + 1, inside⟩ := Fin.ext equal
      rwa [this]
    · exact last j after (Nat.le_of_lt_succ less)

/-- The walk gives the hash of the entry at which it stops. -/
theorem walk_ok_iff (target : UInt64) (start : Nat) (inside : start < 512) (hash : FixedBytes 32) :
    walk (slotData sysvar) target start = .ok hash ↔
      ∃ i, StopsAt sysvar target ⟨start, inside⟩ i ∧ (entry sysvar i).hash = hash := by
  induction start with
  | zero =>
    rw [walk, visit_eq sysvar target ⟨0, inside⟩]
    by_cases here : (entry sysvar ⟨0, inside⟩).slot = target
    · simp only [if_pos here, stopsAt_here sysvar here, exists_eq_left, Exec.ok.injEq]
    · rw [if_neg here]
      constructor
      · intro found
        cases found
      · rintro ⟨i, ⟨low, same, _⟩, _⟩
        have first : i = ⟨0, inside⟩ := Fin.le_antisymm low (Fin.zero_le i)
        exact absurd (first ▸ same) here
  | succ start ih =>
    rw [walk, visit_eq sysvar target ⟨start + 1, inside⟩]
    by_cases here : (entry sysvar ⟨start + 1, inside⟩).slot = target
    · simp only [if_pos here, stopsAt_here sysvar here, exists_eq_left, Exec.ok.injEq]
    · simp only [if_neg here, ih (by omega), stopsAt_succ sysvar here]

theorem walk_returns (target : UInt64) (start : Nat) (inside : start < 512) :
    (walk (slotData sysvar) target start).Returns := by
  induction start with
  | zero =>
    rw [walk, visit_eq sysvar target ⟨0, inside⟩]
    split <;> trivial
  | succ start ih =>
    rw [walk, visit_eq sysvar target ⟨start + 1, inside⟩]
    split
    · trivial
    · exact ih (by omega)

/-! ### The search -/

/-- The search on a full sysvar: the subtraction, then the walk. -/
theorem find_slothash_eq (checks : OverflowChecks) (target : UInt64) :
    find_slothash_in_sysvar checks target sysvar.account =
      u64_sub checks (firstSlot sysvar) target >>= fun distance =>
        walk (slotData sysvar) target (distance % SYSVAR_SLOT_LEN).toNat := by
  have full := sysvar.full
  have first : (((addrOf sysvar.account.data).add 8).read_u64 : Exec AnyError _) = .ok (firstSlot sysvar) := by
    rw [Ptr.read_u64_add (by rw [addrOf_rest]; omega), firstSlot, entry, Fin.getElem_fin,
      sysvar.getElem_entries (by decide)]
    rfl
  have start : ((Slice.of sysvar.account.data).sliceFrom 8 : Exec AnyError _) = .ok (slotData sysvar) := by
    rw [Slice.sliceFrom_of_le (by rw [Slice.of_len]; omega), slotData, Slice.of_len, full]
    rfl
  have first_entry : (slot_entry (slotData sysvar) 0 : Exec AnyError _) = .ok ((addrOf sysvar.account.data).add 8) :=
    slot_entry_eq sysvar 0
  simp only [find_slothash_in_sysvar, Exec.assert_true _ ((check_pubkey_eq_iff _ _).mpr sysvar.isSysvar), Exec.ok_bind,
    start, first_entry, first]

theorem walk_from_estimate (target : UInt64) :
    walk (slotData sysvar) target ((firstSlot sysvar - target) % SYSVAR_SLOT_LEN).toNat =
      walk (slotData sysvar) target (estimate sysvar target) := rfl

/-- The search gives a hash exactly when its subtraction is fine and its walk
    stops at an entry with that hash. -/
theorem find_slothash_ok_iff (checks : OverflowChecks) (target : UInt64) (hash : FixedBytes 32) :
    find_slothash_in_sysvar checks target sysvar.account = .ok hash ↔
      (checks = .on → target ≤ firstSlot sysvar) ∧
        ∃ i, StopsAt sysvar target (estimate sysvar target) i ∧ (entry sysvar i).hash = hash := by
  rw [find_slothash_eq]
  by_cases low : target ≤ firstSlot sysvar
  · rw [u64_sub_of_le checks low, Exec.ok_bind, walk_from_estimate, walk_ok_iff sysvar target _ (Fin.isLt _)]
    exact ⟨fun found => ⟨fun _ => low, found⟩, And.right⟩
  · cases checks with
    | on =>
      rw [u64_sub_on_of_lt (UInt64.not_le.mp low), Exec.panic_bind]
      constructor
      · intro done
        cases done
      · intro found
        exact absurd (found.1 rfl) low
    | off =>
      rw [u64_sub, Exec.ok_bind, walk_from_estimate, walk_ok_iff sysvar target _ (Fin.isLt _)]
      constructor
      · intro found
        refine ⟨?_, found⟩
        intro isOn
        cases isOn
      · exact And.right

/-- The search comes back exactly when its subtraction does. -/
theorem find_slothash_returns_iff (checks : OverflowChecks) (target : UInt64) :
    (find_slothash_in_sysvar checks target sysvar.account).Returns ↔ (checks = .on → target ≤ firstSlot sysvar) := by
  rw [find_slothash_eq]
  by_cases low : target ≤ firstSlot sysvar
  · rw [u64_sub_of_le checks low, Exec.ok_bind, walk_from_estimate]
    exact ⟨fun _ _ => low, fun _ => walk_returns sysvar target _ (Fin.isLt _)⟩
  · cases checks with
    | on =>
      rw [u64_sub_on_of_lt (UInt64.not_le.mp low), Exec.panic_bind]
      constructor
      · intro returns
        exact absurd returns (Exec.not_returns_panic _)
      · intro bound
        exact absurd (bound rfl) low
    | off =>
      rw [u64_sub, Exec.ok_bind, walk_from_estimate]
      constructor
      · intro _ isOn
        cases isOn
      · intro _
        exact walk_returns sysvar target _ (Fin.isLt _)

theorem find_slothash_mem {sysvar : SlotHashesSysvar} {checks : OverflowChecks} {target : UInt64} {hash : FixedBytes 32}
    (found : find_slothash_in_sysvar checks target sysvar.account = .ok hash) : ⟨target, hash⟩ ∈ sysvar.entries := by
  obtain ⟨_, i, ⟨_, same, _⟩, rfl⟩ := (find_slothash_ok_iff sysvar checks target hash).mp found
  rw [← same]
  exact List.getElem_mem _

/-! ### The two lookups -/

/-- Whatever the build checks, the search answers as the plain lookup: with the
    hash of the entry for the target, and with an error when there is none. -/
def AgreesWithPlain (sysvar : DescendingSlotHashes) (target : UInt64) : Prop :=
  ∀ checks,
    (∀ hash, find_slothash_in_sysvar checks target sysvar.account = .ok hash ↔
      get_slothash sysvar.account target = .ok hash) ∧
    (∀ hash, find_slothash_in_sysvar checks target sysvar.account = .ok hash ↔ ⟨target, hash⟩ ∈ sysvar.entries) ∧
    ((∀ hash, ⟨target, hash⟩ ∉ sysvar.entries) →
      ∃ error, find_slothash_in_sysvar checks target sysvar.account = .err error)

/-- An entry with the target slot lies at or before the index where the search
    starts. -/
def BeforeEstimate (sysvar : DescendingSlotHashes) (target : UInt64) : Prop :=
  ∀ i, (entry sysvar.toSlotHashesSysvar i).slot = target →
    (i : Nat) ≤ (sysvar.newest.toNat - target.toNat) % 512

theorem firstSlot_eq (sysvar : DescendingSlotHashes) : firstSlot sysvar.toSlotHashesSysvar = sysvar.newest := rfl

private theorem estimate_val (sysvar : DescendingSlotHashes) {target : UInt64} (low : target ≤ sysvar.newest) :
    (estimate sysvar.toSlotHashesSysvar target : Nat) = (sysvar.newest.toNat - target.toNat) % 512 := by
  simp only [estimate, firstSlot_eq, UInt64.toNat_mod, UInt64.toNat_sub_of_le _ _ low]
  rfl

/-- On descending entries the walk stops at the entry of the target, if that is
    at or before its start. -/
theorem stopsAt_iff (sysvar : DescendingSlotHashes) (target : UInt64) (start i : Fin 512) :
    StopsAt sysvar.toSlotHashesSysvar target start i ↔
      i ≤ start ∧ (entry sysvar.toSlotHashesSysvar i).slot = target := by
  constructor
  · rintro ⟨low, same, _⟩
    exact ⟨low, same⟩
  · rintro ⟨low, same⟩
    refine ⟨low, same, ?_⟩
    intro j after _ sameJ
    have equal := sysvar.slot_injective (by simp) (by simp) (same.trans sameJ.symm)
    exact absurd equal (Nat.ne_of_lt after)

theorem find_newest (sysvar : DescendingSlotHashes) (checks : OverflowChecks) :
    find_slothash_in_sysvar checks sysvar.newest sysvar.account = .ok (entry sysvar.toSlotHashesSysvar 0).hash := by
  refine (find_slothash_ok_iff sysvar.toSlotHashesSysvar checks _ _).mpr ⟨fun _ => UInt64.le_refl _, 0, ?_, rfl⟩
  exact (stopsAt_iff sysvar _ _ 0).mpr ⟨Fin.zero_le _, rfl⟩

/-- The search agrees with the plain lookup exactly for targets that are not
    newer than the first entry and whose entry is not behind the estimate. -/
theorem agrees_with_plain_iff (sysvar : DescendingSlotHashes) (target : UInt64) :
    AgreesWithPlain sysvar target ↔ target ≤ sysvar.newest ∧ BeforeEstimate sysvar target := by
  have ok_iff := find_slothash_ok_iff sysvar.toSlotHashesSysvar
  have returns_iff := find_slothash_returns_iff sysvar.toSlotHashesSysvar
  constructor
  · intro agrees
    obtain ⟨_, entries, missing⟩ := agrees .on
    have low : target ≤ sysvar.newest := by
      by_cases present : ∃ hash, ⟨target, hash⟩ ∈ sysvar.entries
      · obtain ⟨hash, member⟩ := present
        exact sysvar.le_newest member
      · obtain ⟨error, answer⟩ := missing fun hash member => present ⟨hash, member⟩
        exact (returns_iff .on target).mp (by rw [answer]; trivial) rfl
    refine ⟨low, ?_⟩
    intro i same
    have member : ⟨target, (entry sysvar.toSlotHashesSysvar i).hash⟩ ∈ sysvar.entries := by
      rw [← same]; exact List.getElem_mem _
    obtain ⟨_, j, stops, _⟩ := (ok_iff .on target _).mp ((entries _).mpr member)
    obtain ⟨before, sameJ⟩ := (stopsAt_iff sysvar target _ j).mp stops
    have equal : (i : Nat) = j := sysvar.slot_injective (by simp) (by simp) (same.trans sameJ.symm)
    rw [← estimate_val sysvar low, equal]
    exact before
  · rintro ⟨low, before⟩ checks
    have entries : ∀ hash, find_slothash_in_sysvar checks target sysvar.account = .ok hash ↔
        ⟨target, hash⟩ ∈ sysvar.entries := by
      intro hash
      refine ⟨find_slothash_mem, fun member => (ok_iff checks target hash).mpr ⟨fun _ => low, ?_⟩⟩
      obtain ⟨i, inside, at_i⟩ := List.mem_iff_getElem.mp member
      have bound : i < 512 := by simpa using inside
      have same : (entry sysvar.toSlotHashesSysvar ⟨i, bound⟩).slot = target := by
        rw [entry, Fin.getElem_fin, at_i]
      refine ⟨⟨i, bound⟩, (stopsAt_iff sysvar target _ _).mpr ⟨?_, same⟩, by rw [entry, Fin.getElem_fin, at_i]⟩
      rw [Fin.le_def, estimate_val sysvar low]
      exact before _ same
    refine ⟨fun hash => (entries hash).trans (get_slothash_ok_iff sysvar target hash).symm, entries, ?_⟩
    intro missing
    rcases Exec.returns_iff.mp ((returns_iff checks target).mpr fun _ => low) with ⟨hash, found⟩ | rejected
    · exact absurd ((entries hash).mp found) (missing hash)
    · exact rejected

theorem entry_everyOtherSlot (i : Fin 512) : entry everyOtherSlot.toSlotHashesSysvar i = evenSlot i :=
  everyOtherSlot_entry i.isLt

theorem firstSlot_everyOtherSlot : firstSlot everyOtherSlot.toSlotHashesSysvar = 2000 := by
  rw [firstSlot, entry_everyOtherSlot]
  decide

/-- With every other slot skipped, the entry for slot 1488 has index 256, and the
    search for it looks at index 0 only. -/
theorem everyOtherSlot_disagrees : ¬ AgreesWithPlain everyOtherSlot 1488 := by
  intro agrees
  have slot : (evenSlot (256 : Fin 512)).slot = 1488 := by decide
  have member : evenSlot (256 : Fin 512) ∈ everyOtherSlot.entries := by
    rw [← entry_everyOtherSlot 256]
    exact List.getElem_mem _
  have present : ⟨1488, (evenSlot (256 : Fin 512)).hash⟩ ∈ everyOtherSlot.entries := by
    rw [← slot]
    exact member
  obtain ⟨_, i, ⟨low, same, _⟩, _⟩ := (find_slothash_ok_iff _ _ _ _).mp (((agrees .on).2.1 _).mpr present)
  have start : estimate everyOtherSlot.toSlotHashesSysvar 1488 = 0 := by
    apply Fin.ext
    simp only [estimate, firstSlot_everyOtherSlot]
    decide
  have zero : i = 0 := Fin.le_antisymm (start ▸ low) (Fin.zero_le i)
  rw [zero, entry_everyOtherSlot] at same
  exact absurd same (by decide)

end SwitchboardOnDemand.SlotSearch
