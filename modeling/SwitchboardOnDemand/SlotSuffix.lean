import SwitchboardOnDemand.SlothashSysvar

/-!
# Slots by their low 16 bits

`get_slothash_from_lower_byte` completes 16 bits to a slot with the high bits of
the newest entry and, when the sysvar has no such slot, with those of the oldest
one. Entries that span less than 65536 slots have one of these two high parts,
and no two of them the same low bits, so the lookup finds the entry with the low
bits whenever there is one (`suffix_resolves`).
-/

namespace SwitchboardOnDemand.SlotSuffix
open Rust SwitchboardOnDemand.Utils SwitchboardOnDemand.SlothashSysvar

/-! ### High and low bits -/

theorem and_highMask (n : Nat) (narrow : n < 2 ^ 64) : n &&& 0xFFFFFFFFFFFF0000 = 2 ^ 16 * (n / 2 ^ 16) := by
  have mask : 0xFFFFFFFFFFFF0000 = 2 ^ 16 * (2 ^ 48 - 1) := by decide
  apply Nat.eq_of_testBit_eq
  intro i
  rw [mask, Nat.testBit_and, Nat.testBit_two_pow_mul, Nat.testBit_two_pow_mul, Nat.testBit_two_pow_sub_one,
    Nat.testBit_div_two_pow]
  by_cases low : 16 ≤ i
  · by_cases high : i < 64
    · have inMask : i - 16 < 48 := by omega
      simp [low, inMask]
    · have zero : n.testBit i = false :=
        Nat.testBit_lt_two_pow (Nat.lt_of_lt_of_le narrow (Nat.pow_le_pow_right (by decide) (by omega)))
      simp [low, zero]
  · simp [low]

/-- The high bits of a slot with other low bits. -/
theorem toNat_highBits_or (slot : UInt64) (x : UInt16) :
    ((slot &&& 0xFFFFFFFFFFFF0000) ||| x.toUInt64).toNat = slot.toNat / 65536 * 65536 + x.toNat := by
  have low : x.toNat < 2 ^ 16 := x.toNat_lt
  rw [UInt64.toNat_or, UInt64.toNat_and, UInt16.toNat_toUInt64]
  change slot.toNat &&& 0xFFFFFFFFFFFF0000 ||| x.toNat = _
  rw [and_highMask _ slot.toNat_lt, ← Nat.two_pow_add_eq_or_of_lt low]
  omega

/-! ### The lookup -/

variable (sysvar : DescendingSlotHashes) (x : UInt16)

/-- The candidate with the high bits of the newest slot. -/
def upperSlot : UInt64 := (sysvar.newest &&& 0xFFFFFFFFFFFF0000) ||| x.toUInt64

/-- The candidate with the high bits of the oldest slot. -/
def lowerSlot : UInt64 := (sysvar.oldest &&& 0xFFFFFFFFFFFF0000) ||| x.toUInt64

theorem lookup_eq :
    get_slothash_from_lower_byte sysvar.account x =
      (get_slothash sysvar.account (upperSlot sysvar x)).result >>= fun found =>
        match found with
        | .ok slothash => pure ⟨upperSlot sysvar x, slothash⟩
        | .error _ => SlotHash.mk (lowerSlot sysvar x) <$> get_slothash sysvar.account (lowerSlot sysvar x) := by
  have first : (slot_at sysvar.entries 0 : Exec AnyError _) = .ok (getElem sysvar.entries 0 (by simp)) :=
    slot_at_of_lt (by simp)
  have last : (slot_at sysvar.entries (sysvar.entries.length - 1) : Exec AnyError _) =
      .ok (getElem sysvar.entries 511 (by simp)) := by
    have index : sysvar.entries.length - 1 = 511 := by simp
    rw [index]
    exact slot_at_of_lt (by simp)
  simp only [get_slothash_from_lower_byte, sysvar.slots_of_eq, Exec.ok_bind, first, last]
  rfl

/-- The lookup finds an entry at the upper candidate, or else at the lower one. -/
theorem lookup_ok_iff (entry : SlotHash) :
    get_slothash_from_lower_byte sysvar.account x = .ok entry ↔
      entry ∈ sysvar.entries ∧ (entry.slot = upperSlot sysvar x ∨
        entry.slot = lowerSlot sysvar x ∧ ∀ hash, ⟨upperSlot sysvar x, hash⟩ ∉ sysvar.entries) := by
  obtain ⟨slot, hash⟩ := entry
  rw [lookup_eq]
  rcases Exec.returns_iff.mp (get_slothash_returns sysvar (upperSlot sysvar x)) with ⟨found, upper⟩ | ⟨error, upper⟩
  · have member := (get_slothash_ok_iff sysvar _ _).mp upper
    simp only [upper, Exec.result_ok, Exec.ok_bind, Exec.pure_eq, Exec.ok.injEq, SlotHash.mk.injEq]
    constructor
    · rintro ⟨rfl, rfl⟩
      exact ⟨member, .inl rfl⟩
    · rintro ⟨isEntry, same | ⟨_, none⟩⟩
      · cases sysvar.entry_unique member isEntry same.symm
        exact ⟨rfl, rfl⟩
      · exact absurd member (none found)
  · have none : ∀ hash, ⟨upperSlot sysvar x, hash⟩ ∉ sysvar.entries := by
      intro hash member
      have found := (get_slothash_ok_iff sysvar _ _).mpr member
      rw [upper] at found
      cases found
    simp only [upper, Exec.result_err, Exec.ok_bind, Exec.map_eq_ok, get_slothash_ok_iff, SlotHash.mk.injEq]
    constructor
    · rintro ⟨_, member, rfl, rfl⟩
      exact ⟨member, .inr ⟨rfl, none⟩⟩
    · rintro ⟨member, same | ⟨same, _⟩⟩
      · exact absurd (same ▸ member) (none hash)
      · exact ⟨hash, same ▸ member, same.symm, rfl⟩

theorem lookup_returns : (get_slothash_from_lower_byte sysvar.account x).Returns := by
  rw [lookup_eq]
  rcases Exec.returns_iff.mp (get_slothash_returns sysvar (upperSlot sysvar x)) with ⟨found, upper⟩ | ⟨error, upper⟩
  · rw [upper]
    trivial
  · rw [upper, Exec.result_err, Exec.ok_bind, map_eq_pure_bind, Exec.returns_bind]
    exact ⟨get_slothash_returns sysvar _, fun _ _ => trivial⟩

/-! ### Entries with the low bits -/

/-- The slot has the given low 16 bits. -/
def HasSuffix (entry : SlotHash) : Prop := entry.slot.toNat % 65536 = x.toNat

variable (narrow : sysvar.newest.toNat - sysvar.oldest.toNat < 65536)
include narrow

/-- In a narrow sysvar an entry with the low bits is one of the two candidates. -/
theorem hasSuffix_iff {entry : SlotHash} (member : entry ∈ sysvar.entries) :
    HasSuffix x entry ↔ entry.slot = upperSlot sysvar x ∨ entry.slot = lowerSlot sysvar x := by
  have newer := UInt64.le_iff_toNat_le.mp (sysvar.le_newest member)
  have older := UInt64.le_iff_toNat_le.mp (sysvar.oldest_le member)
  have low : x.toNat < 65536 := x.toNat_lt
  simp only [HasSuffix, upperSlot, lowerSlot, ← UInt64.toNat_inj, toNat_highBits_or]
  omega

theorem suffix_unique {a b : SlotHash} (memberA : a ∈ sysvar.entries) (memberB : b ∈ sysvar.entries)
    (suffixA : HasSuffix x a) (suffixB : HasSuffix x b) : a = b := by
  have newerA := UInt64.le_iff_toNat_le.mp (sysvar.le_newest memberA)
  have newerB := UInt64.le_iff_toNat_le.mp (sysvar.le_newest memberB)
  have olderA := UInt64.le_iff_toNat_le.mp (sysvar.oldest_le memberA)
  have olderB := UInt64.le_iff_toNat_le.mp (sysvar.oldest_le memberB)
  unfold HasSuffix at suffixA suffixB
  apply sysvar.entry_unique memberA memberB
  apply UInt64.toNat_inj.mp
  omega

/-- A 16-bit suffix resolves to the one entry that has it, and to an error when
    no entry does. -/
theorem suffix_resolves :
    (∀ entry, get_slothash_from_lower_byte sysvar.account x = .ok entry ↔
      entry ∈ sysvar.entries ∧ HasSuffix x entry) ∧
    (∀ a ∈ sysvar.entries, ∀ b ∈ sysvar.entries, HasSuffix x a → HasSuffix x b → a = b) ∧
    ((∀ entry ∈ sysvar.entries, ¬ HasSuffix x entry) →
      ∃ error, get_slothash_from_lower_byte sysvar.account x = .err error) := by
  have found : ∀ entry, get_slothash_from_lower_byte sysvar.account x = .ok entry ↔
      entry ∈ sysvar.entries ∧ HasSuffix x entry := by
    intro entry
    rw [lookup_ok_iff]
    refine and_congr_right fun member => ?_
    rw [hasSuffix_iff sysvar x narrow member]
    constructor
    · rintro (upper | ⟨lower, _⟩)
      · exact .inl upper
      · exact .inr lower
    · rintro (upper | lower)
      · exact .inl upper
      · by_cases same : entry.slot = upperSlot sysvar x
        · exact .inl same
        · refine .inr ⟨lower, fun hash upperMember => same ?_⟩
          have suffixUpper := (hasSuffix_iff sysvar x narrow upperMember).mpr (.inl rfl)
          have suffixEntry := (hasSuffix_iff sysvar x narrow member).mpr (.inr lower)
          rw [suffix_unique sysvar x narrow member upperMember suffixEntry suffixUpper]
  refine ⟨found, fun a memberA b memberB => suffix_unique sysvar x narrow memberA memberB, ?_⟩
  intro missing
  rcases Exec.returns_iff.mp (lookup_returns sysvar x) with ⟨entry, done⟩ | rejected
  · obtain ⟨member, suffix⟩ := (found entry).mp done
    exact absurd suffix (missing entry member)
  · exact rejected

omit narrow in
theorem suffix_resolves_everyOtherSlot :
    get_slothash_from_lower_byte everyOtherSlot.account 1488 = .ok (evenSlot 256) := by
  have newest : everyOtherSlot.newest = 2000 := by
    rw [DescendingSlotHashes.newest, everyOtherSlot_entry (by decide)]
    decide
  have oldest : everyOtherSlot.oldest = 978 := by
    rw [DescendingSlotHashes.oldest, everyOtherSlot_entry (by decide)]
    decide
  obtain ⟨found, _⟩ := suffix_resolves everyOtherSlot 1488 (by rw [newest, oldest]; decide)
  refine (found _).mpr ⟨?_, by unfold HasSuffix; decide⟩
  rw [← everyOtherSlot_entry (show 256 < 512 by decide)]
  exact List.getElem_mem _

end SwitchboardOnDemand.SlotSuffix
